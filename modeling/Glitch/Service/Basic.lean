import Glitch.Form.Chain
import Glitch.Effect.Registry
/-!
Shared pieces of the JSON request interface: failures, reading request fields, and writing
frames, floats and errors.

Requests are JSON objects. Integers may be given as JSON integers or as decimal strings; floats as
JSON numbers or as text such as `"NaN"` or `"-inf"`. Bytes travel as lowercase hex. A field that is
`null` counts as absent.
-/
namespace Glitch.Service

/-- Why a request got no regular answer. -/
inductive Failure where
  | badInput (message : String)
  | failed (e : GlitchError)
  | panic

abbrev Answer (α : Type) := Except Failure α

def bad {α : Type} (message : String) : Answer α := .error (.badInput message)

def lib {α : Type} (r : Outcome α) : Answer α := r.mapError Failure.failed

/-- The JSON form of a library error: `Category.Variant`, the full message, whether it is
recoverable and the message for people. An input-output error gives only its kind. -/
def errorJson (e : GlitchError) : Json :=
  match e with
  | .io io => .obj [("error", .str "IoError.Io"), ("message", .str io.kind.name), ("recoverable", .bool true)]
  | _ => .obj [("error", .str (e.category ++ "." ++ e.variant)), ("message", .str e.message),
      ("recoverable", .bool e.recoverable), ("user_message", .str e.userMessage)]

def Failure.toJson : Failure → Json
  | .badInput m => .obj [("error", .str "BadInput"), ("message", .str m)]
  | .failed e => errorJson e
  | .panic => .obj [("error", .str "Panic"), ("message", .str "panic")]

def answerJson (r : Answer Json) : Json :=
  match r with
  | .ok j => j
  | .error f => f.toJson

/-- The result of a check as output: `{"ok":true}` or the error. -/
def checkOut (r : Outcome Unit) : Json :=
  match r with
  | .ok () => .obj [("ok", .bool true)]
  | .error e => errorJson e

def field? (r : Json) (k : String) : Option Json :=
  match r.get? k with
  | some .null => none
  | other => other

def need (r : Json) (k : String) : Answer Json :=
  match field? r k with
  | some j => .ok j
  | none => bad ("missing field " ++ k)

/-- A decimal string as a natural number below `2^64`; a leading `+` is allowed. -/
def natOfText? (s : String) : Option Nat :=
  let cs := match s.toList with
    | '+' :: rest => rest
    | cs => cs
  if cs.isEmpty || !cs.all Char.isDigit then none
  else
    let v := cs.foldl (fun acc c => acc * 10 + (c.toNat - 48)) 0
    if v < Nat.pow 2 64 then some v else none

/-- A decimal string as an integer in the 64-bit signed range. -/
def intOfText? (s : String) : Option Int :=
  match s.toList with
  | '-' :: rest =>
    match natOfText? (String.ofList rest) with
    | some v => if v ≤ Nat.pow 2 63 then some (-(v : Int)) else none
    | none => none
  | _ =>
    match natOfText? s with
    | some v => if v < Nat.pow 2 63 then some v else none
    | none => none

def u64Of (k : String) (j : Json) : Answer Nat :=
  match j with
  | .num (.nat v) => .ok v
  | .str s => match natOfText? s with
    | some v => .ok v
    | none => bad (k ++ " is not a u64")
  | _ => bad (k ++ " is not a u64")

/-- A JSON value read as an unsigned integer of at most `bits` bits. -/
def unsignedOf (k : String) (bits : Nat) (j : Json) : Answer Nat := do
  let v ← u64Of k j
  if v < Nat.pow 2 bits then pure v else bad (k ++ " is not a u" ++ toString bits)

def i64Of (k : String) (j : Json) : Answer Int :=
  match j with
  | .num (.nat v) => if v < Nat.pow 2 63 then .ok v else bad (k ++ " is not an i64")
  | .num (.neg i) => .ok i
  | .str s => match intOfText? s with
    | some v => .ok v
    | none => bad (k ++ " is not an i64")
  | _ => bad (k ++ " is not an i64")

/-- A JSON value read as a binary64 number: a number, or text in float syntax. -/
def f64Of (k : String) (j : Json) : Answer F64 :=
  match j with
  | .num (.nat v) => .ok (Binary.ofNat v)
  | .num (.neg i) => .ok (Binary.ofInt i)
  | .num (.float x) => .ok x
  | .str s => match (Binary.ofText s : Except FloatTextError F64) with
    | .ok x => .ok x
    | .error _ => bad (k ++ " is not a number")
  | _ => bad (k ++ " is not a number")

/-- A JSON value read as a binary32 number: a number (rounded from binary64), or text in float
syntax (read directly as binary32). -/
def f32Of (k : String) (j : Json) : Answer F32 :=
  match j with
  | .str s => match (Binary.ofText s : Except FloatTextError F32) with
    | .ok x => .ok x
    | .error _ => bad (k ++ " is not a number")
  | _ => (fun (x : F64) => x.toF32) <$> f64Of k j

def fieldReq {α : Type} (r : Json) (k : String) (rd : String → Json → Answer α) : Answer α := do
  rd k (← need r k)

def fieldOr {α : Type} (r : Json) (k : String) (rd : String → Json → Answer α) (d : α) : Answer α :=
  match field? r k with
  | some j => rd k j
  | none => .ok d

def fieldOpt {α : Type} (r : Json) (k : String) (rd : String → Json → Answer α) : Answer (Option α) :=
  match field? r k with
  | some j => some <$> rd k j
  | none => .ok none

def strOf (k : String) (j : Json) : Answer String :=
  match j with
  | .str s => .ok s
  | _ => bad (k ++ " must be a string")

def boolOf (k : String) (j : Json) : Answer Bool :=
  match j with
  | .bool b => .ok b
  | _ => bad (k ++ " is not a bool")

def listOf (k : String) (j : Json) : Answer (List Json) :=
  match j with
  | .arr xs => .ok xs
  | _ => bad (k ++ " must be an array")

/-- A binary64 value as output: a number, or `"NaN"`, `"inf"`, `"-inf"`. -/
def floatOut (x : F64) : Json :=
  if x.isNaN then .str "NaN"
  else if x.isInf then .str (if x.negBit then "-inf" else "inf")
  else Json.f64 x

def f32Out (x : F32) : Json := floatOut x.toF64

/-- A natural number as a decimal string, for values that may exceed `2^53`. -/
def bigOut (n : Nat) : Json := .str (toString n)

def hexDigit (n : Nat) : Char := if n < 10 then Char.ofNat (48 + n) else Char.ofNat (87 + n)

def hexOf (bs : List UInt8) : String :=
  String.ofList (bs.foldr (fun b acc => hexDigit (b.toNat / 16) :: hexDigit (b.toNat % 16) :: acc) [])

def hexValue? (c : Char) : Option Nat :=
  if '0' ≤ c && c ≤ '9' then some (c.toNat - 48)
  else if 'a' ≤ c && c ≤ 'f' then some (c.toNat - 87)
  else if 'A' ≤ c && c ≤ 'F' then some (c.toNat - 55)
  else none

def hexPairs : List Char → Option (List UInt8)
  | [] => some []
  | [_] => none
  | a :: b :: rest => do
    let x ← hexValue? a
    let y ← hexValue? b
    let tl ← hexPairs rest
    pure ((x * 16 + y).toUInt8 :: tl)

def bytesOfHex (s : String) : Answer (Array UInt8) :=
  match hexPairs s.toList with
  | some bs => .ok bs.toArray
  | none => bad "invalid hex"

def frameOut (f : Frame) : Json :=
  .obj [("width", .nat f.width), ("height", .nat f.height), ("hex", .str (hexOf f.bytes.toList))]

def maxRequestPixels : Nat := 262144

/-- A frame from a request: its size (required, 32-bit) plus `hex`, `fill`, or the generated
pattern `gen` (default 0). -/
def frameOf (j : Json) : Answer Frame := do
  let w ← unsignedOf "width" 32 (← need j "width")
  let h ← unsignedOf "height" 32 (← need j "height")
  if maxRequestPixels < w * h then bad "frame too large"
  else
    match field? j "hex", field? j "fill" with
    | some hx, _ =>
      let s ← strOf "hex" hx
      let bs ← bytesOfHex s
      if bs.size != w * h * 4 then bad "hex length does not match dimensions"
      else match Frame.ofBytes? w h bs with
        | some f => pure f
        | none => bad "hex length does not match dimensions"
    | none, some fl =>
      match fl with
      | .arr [.num (.nat r), .num (.nat g), .num (.nat b), .num (.nat a)] =>
        if r < 256 && g < 256 && b < 256 && a < 256 then
          pure (Frame.filled w h ⟨r.toUInt8, g.toUInt8, b.toUInt8, a.toUInt8⟩)
        else bad "fill must be 4 bytes"
      | _ => bad "fill must be 4 bytes"
    | none, none =>
      let k ← fieldOr j "gen" u64Of 0
      pure (Frame.pattern k w h)

def frameField (r : Json) (k : String) : Answer Frame := do
  frameOf (← need r k)

/-- Effect state as output: `null` or `{kind, width, height, hex}`. -/
def stateOut : Option EffectState → Json
  | none => .null
  | some (.buffer w h d) =>
    .obj [("kind", .str "buffer"), ("width", .nat w), ("height", .nat h), ("hex", .str (hexOf d.toList))]

/-- Effect state from a request: `null`, or `{width, height, hex}` with any even hex length. -/
def stateOf (j : Json) : Answer (Option EffectState) :=
  match j with
  | .null => .ok none
  | _ => do
    let w ← unsignedOf "width" 32 (← need j "width")
    let h ← unsignedOf "height" 32 (← need j "height")
    let s ← strOf "hex" (← need j "hex")
    let bs ← bytesOfHex s
    pure (some (.buffer w h bs))

def statesOf (j : Json) : Answer EffectStates :=
  match j with
  | .obj kvs => kvs.foldlM (fun (acc : EffectStates) (kv : String × Json) => do
      let st ← stateOf kv.2
      pure (acc.insert kv.1 st)) EffectStates.empty
  | _ => bad "states must be an object"

def statesOut (s : EffectStates) : Json := .obj (s.entries.map fun (k, v) => (k, stateOut v))

/-- One parameter value from a request: the library's JSON form, or `{"$f32": x}`. -/
def paramOf (j : Json) : Answer ParamValue :=
  match j with
  | .obj [("$f32", x)] => ParamValue.float <$> f32Of "$f32" x
  | _ =>
    match ParamValue.decode (Node.ofJson j) with
    | .ok v => .ok v
    | .error e => bad ("param value: " ++ e.message)

def paramsOf (j : Json) : Answer Params :=
  match j with
  | .obj kvs => kvs.foldlM (fun (p : Params) (kv : String × Json) => do
      let v ← paramOf kv.2
      pure (p.insert kv.1 v)) Params.empty
  | _ => bad "params must be an object"

def instanceOf (j : Json) : Answer EffectInstance := do
  let id ← strOf "effect_id" (← need j "effect_id")
  let params ← match field? j "params" with
    | some p => paramsOf p
    | none => pure Params.empty
  let enabled ← fieldOr j "enabled" boolOf true
  let mix ← fieldOpt j "mix" f32Of
  pure ⟨id, params, enabled, mix⟩

def chainOf (j : Json) : Answer (List EffectInstance) :=
  match j with
  | .arr xs => xs.mapM instanceOf
  | _ => bad "chain must be an array"

def chainField (r : Json) : Answer (List EffectInstance) :=
  match field? r "chain" with
  | some j => chainOf j
  | none => .ok []

/-- The registry a request selects: `builtin` (default), `test` or `empty`. -/
def registryOf (r : Json) : Answer Registry :=
  match field? r "registry" with
  | none => .ok Registry.builtin
  | some (.str "builtin") => .ok Registry.builtin
  | some (.str "test") => .ok Registry.withProbes
  | some (.str "empty") => .ok Registry.empty
  | some _ => bad "registry must be builtin, test or empty"

def resolutionOf (k : String) (j : Json) : Answer (Nat × Nat) :=
  match j with
  | .arr [w, h] => do
    let w ← unsignedOf k 32 w
    let h ← unsignedOf k 32 h
    pure (w, h)
  | _ => bad (k ++ " must be [width, height]")

end Glitch.Service
