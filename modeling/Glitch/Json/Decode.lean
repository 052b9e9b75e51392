import Glitch.Json.Read
import Glitch.Log
/-!
Typed reading of JSON trees, with the messages of a derive-style reader: `invalid type`,
`invalid value`, `missing field`, `duplicate field`, `unknown variant`.

Two sources are read. Text (`Source.text`) is read as a scanning reader would read it: errors
carry the byte offset the scanner had reached, and syntax errors are met in document order.
A finished value (`Source.value`) has no positions, and a few readings word their errors
differently there.

An error found while reading a buffered value (an untagged enum, an internally tagged enum, a
flattened struct) has no position of its own; the nearest enclosing array or object then gives it
the offset its scanner reaches when it tries to close, which is what `fixInSeq` and `fixInMap`
compute.
-/
namespace Glitch

/-- A typed-reading failure: its message and, when known, the byte offset it points at. -/
structure DecodeError where
  message : String
  offset : Option Nat
  deriving Inhabited

abbrev Decoded (α : Type) := Except DecodeError α

/-- What is being read: a text (with its bytes, for positions) or a finished value. -/
structure Source where
  bytes : ByteArray
  scanning : Bool

namespace Source

def text (bs : ByteArray) : Source := ⟨bs, true⟩

def value : Source := ⟨ByteArray.empty, false⟩

end Source

namespace DecodeError

def ofRead (e : ReadError) : DecodeError := ⟨e.message, some e.offset⟩

/-- The message, followed by ` at line L column C` when reading text at a known offset. -/
def render (src : Source) (e : DecodeError) : String :=
  match e.offset, src.scanning with
  | some o, true => e.message ++ positionText src.bytes o
  | _, _ => e.message

end DecodeError

namespace Node

def unexpected : Node → String
  | .bad _ _ => "null"
  | .null _ _ => "null"
  | .bool b _ _ => "boolean `" ++ (if b then "true" else "false") ++ "`"
  | .num (.nat n) _ _ => "integer `" ++ toString n ++ "`"
  | .num (.neg i) _ _ => "integer `" ++ toString i ++ "`"
  | .num (.float x) _ _ => "floating point `" ++ ((x.toCompactText? CompactStyle.message).getD "NaN") ++ "`"
  | .str s _ _ => "string " ++ quoteDebug s
  | .arr .. => "sequence"
  | .obj .. => "map"

end Node

namespace Decode

/-- `invalid type` for a value; a scalar is reported after it, an array or object before it. -/
def invalidType (n : Node) (expected : String) : DecodeError :=
  match n with
  | .bad e _ => DecodeError.ofRead e
  | .arr .. | .obj .. => ⟨"invalid type: " ++ n.unexpected ++ ", expected " ++ expected, some n.start⟩
  | _ => ⟨"invalid type: " ++ n.unexpected ++ ", expected " ++ expected, some n.stop⟩

def invalidValue (n : Node) (expected : String) : DecodeError :=
  ⟨"invalid value: " ++ n.unexpected ++ ", expected " ++ expected, some n.stop⟩

def fixAt (off : Nat) {α : Type} (r : Decoded α) : Decoded α :=
  match r with
  | .error ⟨m, none⟩ => .error ⟨m, some off⟩
  | other => other

def unpositioned {α : Type} (r : Decoded α) : Decoded α :=
  match r with
  | .error ⟨m, _⟩ => .error ⟨m, none⟩
  | other => other

/-- Where an array's scanner stands after trying to close behind a value ending at `i`. -/
def seqCloseOffset (bs : ByteArray) (i : Nat) : Nat :=
  let j := JsonReader.skipBlank bs i
  match JsonReader.byteAt? bs j with
  | some 93 => j + 1
  | some 44 => JsonReader.skipBlank bs (j + 1)
  | _ => j

/-- Where an object's scanner stands after trying to close behind a value ending at `i`. -/
def mapCloseOffset (bs : ByteArray) (i : Nat) : Nat :=
  let j := JsonReader.skipBlank bs i
  if JsonReader.byteAt? bs j == some 125 then j + 1 else j

def fixInSeq (src : Source) (item : Node) {α : Type} (r : Decoded α) : Decoded α :=
  fixAt (seqCloseOffset src.bytes item.stop) r

def fixInMap (src : Source) (v : Node) {α : Type} (r : Decoded α) : Decoded α :=
  fixAt (mapCloseOffset src.bytes v.stop) r

def colonBefore (bs : ByteArray) (i : Nat) : Nat :=
  go i i
where
  go : Nat → Nat → Nat
    | 0, j => j
    | fuel + 1, j =>
      match j with
      | 0 => 0
      | k + 1 => if JsonReader.isBlank (bs.get! k) then go fuel k else k

/-- Fail unless the value was read completely: what a reading that skips a value still checks. -/
def complete (n : Node) : Decoded Unit :=
  match n.firstBad? with
  | some e => .error (DecodeError.ofRead e)
  | none => .ok ()

/-- Fail unless a value passes as an object member the reading does not know: its form is
checked, but not its numbers, escapes or depth, so a text passes where reading the value in full
would fail. -/
def passOver (src : Source) (n : Node) : Decoded Unit :=
  match n.firstBad? with
  | none => .ok ()
  | some e =>
    if src.scanning then
      match JsonReader.passValue src.bytes n.start with
      | .ok _ => .ok ()
      | .error e => .error (DecodeError.ofRead e)
    else .error (DecodeError.ofRead e)

def bool (n : Node) : Decoded Bool :=
  match n with
  | .bool b _ _ => .ok b
  | _ => .error (invalidType n "a boolean")

def string (n : Node) : Decoded String :=
  match n with
  | .str s _ _ => .ok s
  | _ => .error (invalidType n "a string")

def unsigned (name : String) (bound : Nat) (n : Node) : Decoded Nat :=
  match n with
  | .num (.nat v) _ _ => if v ≤ bound then .ok v else .error (invalidValue n name)
  | .num (.neg _) _ _ => .error (invalidValue n name)
  | _ => .error (invalidType n name)

def u8 : Node → Decoded Nat := unsigned "u8" 255

def u32 : Node → Decoded Nat := unsigned "u32" (Nat.pow 2 32 - 1)

def u64 : Node → Decoded Nat := unsigned "u64" (Nat.pow 2 64 - 1)

def i64 (n : Node) : Decoded Int :=
  match n with
  | .num (.nat v) _ _ => if v < Nat.pow 2 63 then .ok v else .error (invalidValue n "i64")
  | .num (.neg i) _ _ => .ok i
  | _ => .error (invalidType n "i64")

def f64 (n : Node) : Decoded F64 :=
  match n with
  | .num (.nat v) _ _ => .ok (Binary.ofNat v)
  | .num (.neg i) _ _ => .ok (Binary.ofInt i)
  | .num (.float x) _ _ => .ok x
  | _ => .error (invalidType n "f64")

def f32 (n : Node) : Decoded F32 :=
  match n with
  | .num (.nat v) _ _ => .ok (Binary.ofNat v)
  | .num (.neg i) _ _ => .ok (Binary.ofInt i)
  | .num (.float x) _ _ => .ok x.toF32
  | _ => .error (invalidType n "f32")

def option {α : Type} (d : Node → Decoded α) (n : Node) : Decoded (Option α) :=
  match n with
  | .null _ _ => .ok none
  | _ => some <$> d n

def items {α : Type} (src : Source) (d : Node → Decoded α) : List Node → Decoded (List α)
  | [] => .ok []
  | x :: rest => do
    let v ← fixInSeq src x (d x)
    let vs ← items src d rest
    pure (v :: vs)

def seq {α : Type} (src : Source) (d : Node → Decoded α) (n : Node) : Decoded (List α) :=
  match n with
  | .arr xs tail _ _ => do
    let vs ← items src d xs
    match tail with
    | some e => .error (DecodeError.ofRead e)
    | none => pure vs
  | _ => .error (invalidType n "a sequence")

def members {α : Type} (src : Source) (d : Node → Decoded α) :
    List (String × Node) → Decoded (List (String × α))
  | [] => .ok []
  | (k, x) :: rest => do
    let v ← fixInMap src x (d x)
    let vs ← members src d rest
    pure ((k, v) :: vs)

def map {α : Type} (src : Source) (d : Node → Decoded α) (n : Node) : Decoded (List (String × α)) :=
  match n with
  | .obj kvs tail _ _ => do
    let vs ← members src d kvs
    match tail with
    | some e => .error (DecodeError.ofRead e)
    | none => pure vs
  | _ => .error (invalidType n "a map")

def check {α : Type} (d : Node → Decoded α) (n : Node) : Decoded Unit := (fun _ => ()) <$> d n

/-- One field of a struct: its name, whether it has a default (and so may be left out of the
sequence form), and a check of its value. -/
structure Field where
  name : String
  defaulted : Bool
  check : Node → Decoded Unit

/-- Walk an object's members as a derived struct reading does: each known field's value is read
when met, a second occurrence is an error, and an unknown field's value is passed over. Returns
the first value of each known field. -/
def walkMembers (src : Source) (fields : List Field) :
    List (String × Node) → List (String × Node) → Decoded (List (String × Node))
  | [], seen => .ok seen.reverse
  | (k, v) :: rest, seen =>
    match fields.find? (·.name == k) with
    | some f =>
      if seen.any (·.1 == k) then
        .error ⟨"duplicate field `" ++ k ++ "`", some (colonBefore src.bytes v.start)⟩
      else do
        fixInMap src v (f.check v)
        walkMembers src fields rest ((k, v) :: seen)
    | none => do
      passOver src v
      walkMembers src fields rest seen

/-- Assign array items to fields in order, as a derived struct reading of a sequence does. -/
def walkItems (src : Source) (expecting : String) (count : Nat) (stop : Nat) :
    List Field → List Node → Nat → Decoded (List (String × Node))
  | [], [], _ => .ok []
  | [], x :: _, _ =>
    if src.scanning then .error ⟨"trailing characters", some (x.start + 1)⟩
    else .error ⟨"invalid length " ++ toString count ++ ", expected fewer elements in array", none⟩
  | f :: fs, [], i =>
    if f.defaulted then walkItems src expecting count stop fs [] (i + 1)
    else .error ⟨"invalid length " ++ toString i ++ ", expected " ++ expecting, some stop⟩
  | f :: fs, x :: xs, i => do
    fixInSeq src x (f.check x)
    let rest ← walkItems src expecting count stop fs xs (i + 1)
    pure ((f.name, x) :: rest)

/-- The fields of a struct named `name` (for messages), from an object or, positionally, from
an array. Returns each present field's value, checked. -/
def fields (src : Source) (name : String) (fs : List Field) (n : Node) : Decoded (List (String × Node)) :=
  match n with
  | .obj kvs tail _ _ => do
    let seen ← walkMembers src fs kvs []
    match tail with
    | some e => .error (DecodeError.ofRead e)
    | none => pure seen
  | .arr xs tail _ stop =>
    match tail with
    | some e =>
      match (items src (fun x => complete x) xs) with
      | .error err => .error err
      | .ok _ => .error (DecodeError.ofRead e)
    | none =>
      walkItems src ("struct " ++ name ++ " with " ++ toString fs.length ++ " elements") xs.length stop fs xs 0
  | _ => .error (invalidType n ("struct " ++ name))

/-- A field that must be present; `n` is the whole object, for the position of the error. -/
def required {α : Type} (n : Node) (seen : List (String × Node)) (key : String) (d : Node → Decoded α) :
    Decoded α :=
  match seen.lookup key with
  | some v => d v
  | none => .error ⟨"missing field `" ++ key ++ "`", some n.stop⟩

def withDefault {α : Type} (seen : List (String × Node)) (key : String) (d : Node → Decoded α) (dflt : α) :
    Decoded α :=
  match seen.lookup key with
  | some v => d v
  | none => .ok dflt

def optionalField {α : Type} (seen : List (String × Node)) (key : String) (d : Node → Decoded α) :
    Decoded (Option α) :=
  match seen.lookup key with
  | some v => option d v
  | none => .ok none

/-- A value read after it was buffered whole: syntax errors inside it come first, and its own
errors have no position. -/
def buffered {α : Type} (d : Node → Decoded α) (n : Node) : Decoded α := do
  complete n
  unpositioned (d n)

def expectedVariants (names : List String) : String :=
  match names with
  | [] => "there are no variants"
  | [a] => "expected `" ++ a ++ "`"
  | [a, b] => "expected `" ++ a ++ "` or `" ++ b ++ "`"
  | _ => "expected one of " ++ ", ".intercalate (names.map fun s => "`" ++ s ++ "`")

/-- A variant name among `choices`, read from a string; `unknown variant` otherwise. -/
def variantName {α : Type} (choices : List (String × α)) (n : Node) : Decoded α :=
  match n with
  | .str s _ _ =>
    match choices.lookup s with
    | some v => .ok v
    | none => .error ⟨"unknown variant `" ++ s ++ "`, " ++ expectedVariants (choices.map (·.1)), some n.stop⟩
  | _ => .error (invalidType n "variant identifier")

def unitEnum {α : Type} (src : Source) (choices : List (String × α)) (n : Node) : Decoded α :=
  match n with
  | .str .. => variantName choices n
  | .obj [(k, v)] none s _ => do
    let r ← variantName choices (.str k s (colonBefore src.bytes v.start))
    match v with
    | .null _ _ => pure r
    | _ => .error (invalidType v "unit")
  | .bad e _ => .error (DecodeError.ofRead e)
  | .obj _ none _ _ =>
    if src.scanning then .error ⟨"expected value", some (n.start + 1)⟩
    else .error ⟨"invalid value: map, expected map with a single key", none⟩
  | _ =>
    if src.scanning then .error ⟨"expected value", some (n.start + 1)⟩
    else .error ⟨"invalid type: " ++ n.unexpected ++ ", expected string or map", none⟩

end Decode

end Glitch
