import Glitch.Json.Decode
import Glitch.Effect.Basic
/-!
JSON forms of parameters, masks, parameter specs and effect state.

A parameter value is written bare (a boolean, a number, a string, or a mask object) and read by
trying, in order, a boolean, a 64-bit integer, a binary32 number, a string and a mask; the first
that fits wins. A mask is read as `{width, height, weights}` and must have one weight per pixel.
Effect state is an object tagged by `kind`.
-/
namespace Glitch

namespace Mask

def toJson (m : Mask) : Json :=
  .obj [("width", .nat m.width), ("height", .nat m.height), ("weights", .arr (m.weights.toList.map Json.f32))]

def rawFields (src : Source) (n : Node) : Decoded (Nat × Nat × List F32) := do
  let fs ← Decode.fields src "RawMask"
    [⟨"width", false, Decode.check Decode.u32⟩, ⟨"height", false, Decode.check Decode.u32⟩,
     ⟨"weights", false, Decode.check (Decode.seq src Decode.f32)⟩] n
  let w ← Decode.required n fs "width" Decode.u32
  let h ← Decode.required n fs "height" Decode.u32
  let ws ← Decode.required n fs "weights" (Decode.seq src Decode.f32)
  pure (w, h, ws)

/-- Read a mask; a weight count other than `width * height` is an error without position. -/
def decode (src : Source) (n : Node) : Decoded Mask := do
  let (w, h, ws) ← rawFields src n
  match Mask.new? w h ws.toArray with
  | some m => pure m
  | none => .error ⟨"mask weights do not match " ++ toString w ++ "x" ++ toString h, none⟩

end Mask

namespace ParamValue

def toJson : ParamValue → Json
  | .bool b => .bool b
  | .integer i => Json.int i
  | .float x => Json.f32 x
  | .string s => .str s
  | .mask m => m.toJson

def noMatch : String := "data did not match any variant of untagged enum ParamValue"

def ofNode (n : Node) : Option ParamValue :=
  match n with
  | .bool b _ _ => some (.bool b)
  | .num (.nat v) _ _ => if v < Nat.pow 2 63 then some (.integer v) else some (.float (Binary.ofNat v))
  | .num (.neg i) _ _ => some (.integer i)
  | .num (.float x) _ _ => some (.float x.toF32)
  | .str s _ _ => some (.string s)
  | .obj .. | .arr .. =>
    match Mask.decode Source.value n with
    | .ok m => some (.mask m)
    | .error _ => none
  | _ => none

/-- Read a parameter value: the value is buffered whole, then the forms are tried. -/
def decode (n : Node) : Decoded ParamValue := do
  Decode.complete n
  match ofNode n with
  | some v => pure v
  | none => .error ⟨noMatch, none⟩

end ParamValue

namespace Params

def toJson (p : Params) : Json := .obj (p.entries.map fun (k, v) => (k, v.toJson))

def decode (src : Source) (n : Node) : Decoded Params := do
  let kvs ← Decode.map src ParamValue.decode n
  pure (kvs.foldl (fun p (k, v) => p.insert k v) Params.empty)

end Params

namespace ParamKind

def named : List (String × ParamKind) :=
  [("float", .float), ("int", .int), ("bool", .bool), ("choice", .choice)]

def decode (src : Source) (n : Node) : Decoded ParamKind := Decode.unitEnum src named n

end ParamKind

namespace ParamCurve

def named : List (String × ParamCurve) :=
  [("linear", .linear), ("exponential", .exponential), ("logarithmic", .logarithmic)]

def decode (src : Source) (n : Node) : Decoded ParamCurve := Decode.unitEnum src named n

end ParamCurve

namespace ParamSpec

/-- The JSON form: `min`, `max` only when set, `choices` only when not empty. -/
def toJson (s : ParamSpec) : Json :=
  .obj ([("name", .str s.name), ("kind", .str s.kind.name), ("label", .str s.label)] ++
    (match s.min with | some x => [("min", Json.f32 x)] | none => []) ++
    (match s.max with | some x => [("max", Json.f32 x)] | none => []) ++
    (if s.choices.isEmpty then [] else [("choices", .arr (s.choices.map Json.str))]) ++
    [("default", s.default.toJson), ("curve", .str s.curve.name), ("unit", .str s.unit)])

/-- Read a spec; `min`, `max`, `choices`, `curve` and `unit` may be left out. -/
def decode (src : Source) (n : Node) : Decoded ParamSpec := do
  let fs ← Decode.fields src "ParamSpec"
    [⟨"name", false, Decode.check Decode.string⟩, ⟨"kind", false, Decode.check (ParamKind.decode src)⟩,
     ⟨"label", false, Decode.check Decode.string⟩,
     ⟨"min", false, Decode.check (Decode.option Decode.f32)⟩, ⟨"max", false, Decode.check (Decode.option Decode.f32)⟩,
     ⟨"choices", true, Decode.check (Decode.seq src Decode.string)⟩,
     ⟨"default", false, Decode.check ParamValue.decode⟩,
     ⟨"curve", true, Decode.check (ParamCurve.decode src)⟩, ⟨"unit", true, Decode.check Decode.string⟩] n
  let name ← Decode.required n fs "name" Decode.string
  let kind ← Decode.required n fs "kind" (ParamKind.decode src)
  let label ← Decode.required n fs "label" Decode.string
  let min ← Decode.optionalField fs "min" Decode.f32
  let max ← Decode.optionalField fs "max" Decode.f32
  let choices ← Decode.withDefault fs "choices" (Decode.seq src Decode.string) []
  let default ← Decode.required n fs "default" ParamValue.decode
  let curve ← Decode.withDefault fs "curve" (ParamCurve.decode src) .linear
  let unit ← Decode.withDefault fs "unit" Decode.string ""
  pure ⟨name, kind, label, min, max, choices, default, curve, unit⟩

end ParamSpec

def EffectInfo.toJson (i : EffectInfo) : Json :=
  .obj [("id", .str i.id), ("name", .str i.name), ("category", .str i.category),
    ("description", .str i.description), ("params", .arr (i.params.map ParamSpec.toJson))]

namespace EffectState

def toJson : EffectState → Json
  | .buffer w h d =>
    .obj [("kind", .str "buffer"), ("width", .nat w), ("height", .nat h),
      ("data", .arr (d.toList.map fun b => Json.nat b.toNat))]

/-- The buffer fields, read from what is left of the object once its tag is taken out. -/
def bufferFields (n : Node) : Decoded EffectState := do
  let fs ← Decode.fields Source.value "variant EffectState::Buffer"
    [⟨"width", false, Decode.check Decode.u32⟩, ⟨"height", false, Decode.check Decode.u32⟩,
     ⟨"data", false, Decode.check (Decode.seq Source.value Decode.u8)⟩] n
  let w ← Decode.required n fs "width" Decode.u32
  let h ← Decode.required n fs "height" Decode.u32
  let d ← Decode.required n fs "data" (Decode.seq Source.value Decode.u8)
  pure (.buffer w h (d.toArray.map Nat.toUInt8))

/-- The buffer fields given in order after the tag: width, height and data, and nothing more. -/
def bufferItems (xs : List Node) : Decoded EffectState := do
  let short (i : Nat) : DecodeError :=
    ⟨"invalid length " ++ toString i ++ ", expected struct variant EffectState::Buffer with 3 elements", none⟩
  let w ← match xs with
    | x :: _ => Decode.u32 x
    | [] => .error (short 0)
  let h ← match xs.drop 1 with
    | x :: _ => Decode.u32 x
    | [] => .error (short 1)
  let d ← match xs.drop 2 with
    | x :: _ => Decode.seq Source.value Decode.u8 x
    | [] => .error (short 2)
  if 3 < xs.length then
    .error ⟨"invalid length " ++ toString xs.length ++ ", expected 3 elements in sequence", none⟩
  else pure (.buffer w h (d.toArray.map Nat.toUInt8))

def splitTag (kvs : List (String × Node)) : Decoded (Option Node × List (String × Node)) :=
  kvs.foldlM (fun (acc : Option Node × List (String × Node)) (kv : String × Node) =>
    if kv.1 == "kind" then
      match acc.1 with
      | some _ => .error ⟨"duplicate field `kind`", none⟩
      | none => .ok (some kv.2, acc.2)
    else .ok (acc.1, acc.2 ++ [kv])) (none, [])

/-- Read effect state: the value is buffered whole and its `kind` must be `buffer`. An object
names it by the `kind` key; a sequence gives the tag first and then the fields in order. -/
def decode (n : Node) : Decoded EffectState := do
  Decode.complete n
  match n with
  | .obj kvs _ s e =>
    let (tag, rest) ← splitTag kvs
    match tag with
    | none => .error ⟨"missing field `kind`", none⟩
    | some t =>
      let _ ← Decode.unpositioned (Decode.variantName [("buffer", ())] t)
      Decode.unpositioned (bufferFields (.obj rest none s e))
  | .arr xs _ _ _ =>
    match xs with
    | [] => .error ⟨"missing field `kind`", none⟩
    | t :: rest => do
      let _ ← Decode.unpositioned (Decode.variantName [("buffer", ())] t)
      Decode.unpositioned (bufferItems rest)
  | _ => .error ⟨"invalid type: " ++ n.unexpected ++ ", expected internally tagged enum EffectState", none⟩

end EffectState

end Glitch
