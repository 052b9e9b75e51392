import Glitch.Form.Chain
/-!
The layer stack file of the `composite` command: an optional output size and the layers, bottom
first, each an image path with the layer's settings written beside it in the same object.

An entry is read as a map: `image` is read where it stands, every other member is kept whole, and
the settings are read from the kept members once the entry's object is closed; an error in them
points at the entry's closing brace. The output size is a pair of unsigned 32-bit numbers.
Unknown blend modes read as normal and are reported as warnings, in document order.
-/
namespace Glitch.Cli

/-- One layer of a stack file: the image path as written and the layer's settings. -/
structure StackEntry where
  image : String
  settings : LayerSettings

structure LayerStack where
  resolution : Option (Nat × Nat)
  layers : List StackEntry

namespace LayerStack

def decodePath (n : Node) : Decoded String :=
  match n with
  | .str s _ _ => .ok s
  | _ => .error (Decode.invalidType n "path string")

def decodePair (src : Source) (n : Node) : Decoded (Nat × Nat) :=
  let short (count : Nat) : DecodeError :=
    ⟨"invalid length " ++ toString count ++ ", expected a tuple of size 2", some n.stop⟩
  match n with
  | .arr xs tail _ _ =>
    match xs with
    | [] =>
      match tail with
      | some e => .error (DecodeError.ofRead e)
      | none => .error (short 0)
    | [a] => do
      let _ ← Decode.fixInSeq src a (Decode.u32 a)
      match tail with
      | some e => .error (DecodeError.ofRead e)
      | none => .error (short 1)
    | a :: b :: rest => do
      let x ← Decode.fixInSeq src a (Decode.u32 a)
      let y ← Decode.fixInSeq src b (Decode.u32 b)
      match rest, tail with
      | c :: _, _ => .error ⟨"trailing characters", some (c.start + 1)⟩
      | [], some e => .error (DecodeError.ofRead e)
      | [], none => pure (x, y)
  | _ => .error (Decode.invalidType n "a tuple of size 2")

/-- Walk an entry's members: read `image` where it stands, refuse a second one, and check that
every other member was read whole. -/
def walkEntry (src : Source) : List (String × Node) → Option String → Decoded (Option String)
  | [], image => .ok image
  | (k, v) :: rest, image =>
    if k == "image" then
      match image with
      | some _ => .error ⟨"duplicate field `image`", some (Decode.colonBefore src.bytes v.start)⟩
      | none => do
        let p ← Decode.fixInMap src v (decodePath v)
        walkEntry src rest (some p)
    else do
      Decode.complete v
      walkEntry src rest image

def decodeEntry (src : Source) (n : Node) : Decoded (StackEntry × List LogLine) :=
  match n with
  | .obj kvs tail start stop => do
    let image? ← walkEntry src kvs none
    match tail with
    | some e => .error (DecodeError.ofRead e)
    | none =>
      let image ← match image? with
        | some p => pure p
        | none => .error ⟨"missing field `image`", some stop⟩
      let kept := kvs.filter (·.1 != "image")
      let (settings, log) ← Decode.fixAt stop (Decode.unpositioned
        (LayerSettings.decodeLogged Source.value (.obj kept none start stop)))
      pure (⟨image, settings⟩, log)
  | _ => .error (Decode.invalidType n "struct LayerEntry")

def decode (src : Source) (n : Node) : Decoded (LayerStack × List LogLine) := do
  let fs ← Decode.fields src "LayerStack"
    [⟨"resolution", true, Decode.check (Decode.option (decodePair src))⟩,
     ⟨"layers", false, Decode.check (Decode.seq src (decodeEntry src))⟩] n
  let resolution ← Decode.optionalField fs "resolution" (decodePair src)
  let entries ← Decode.required n fs "layers" (Decode.seq src (decodeEntry src))
  pure (⟨resolution, entries.map Prod.fst⟩, entries.flatMap Prod.snd)

end LayerStack

/-- Read a whole JSON text as a value of some form, with the reader's error text (and position)
when it does not read. -/
def readJsonText {α : Type} (text : String) (d : Source → Node → Decoded α) : Except String α :=
  let doc := Document.read text
  let src := Source.text doc.bytes
  let r : Decoded α := do
    let v ← d src doc.root
    match doc.trailing with
    | some e => .error (DecodeError.ofRead e)
    | none => pure v
  match r with
  | .ok v => .ok v
  | .error e => .error (e.render src)

end Glitch.Cli
