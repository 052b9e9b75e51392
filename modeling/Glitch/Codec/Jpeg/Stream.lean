/-!
The byte level of a JPEG stream: why reading fails, the marker codes, a cursor over the bytes, and
the search for the next marker, which passes over any bytes before a `0xFF`, skips fill bytes and
starts again after a stuffed zero.
-/
namespace Glitch.Jpeg

/-- Why a JPEG stream could not be read. -/
inductive ReadFailure where
  /-- The stream ended inside a field that is read whole. -/
  | truncated
  /-- The stream ended inside a segment that is skipped unread. -/
  | endOfFile
  /-- The stream breaks the format; the reason says how. -/
  | malformed (reason : String)
  /-- The stream asks for a feature this reader lacks. -/
  | unsupported (feature : String)
  /-- The decoded image would take more memory than an image may. -/
  | memoryLimit
  /-- Decoded samples whose byte count does not fill the image's buffer: the reader stops
  outright, without a message. -/
  | sizeMismatch
  deriving DecidableEq, Repr

def ReadFailure.message : ReadFailure → String
  | .truncated => "failed to fill whole buffer"
  | .endOfFile => "unexpected end of file"
  | .malformed r => "Format error decoding Jpeg: invalid JPEG format: " ++ r
  | .unsupported f => "The decoder for Jpeg does not support the format features " ++ f
  | .memoryLimit => "Memory limit exceeded"
  | .sizeMismatch => "decoded samples do not fill the image buffer"

/-- Whether the reader stops outright rather than reporting an error. -/
def ReadFailure.stops : ReadFailure → Bool
  | .sizeMismatch => true
  | _ => false

/-- Segment and control markers. -/
inductive Marker where
  | startOfFrame (n : Nat)
  | huffmanTables
  | arithmeticConditioning
  | restart (n : Nat)
  | startOfImage
  | endOfImage
  | startOfScan
  | quantTables
  | lineCount
  | restartInterval
  | hierarchicalProgression
  | expandReference
  | application (n : Nat)
  | comment
  /-- The marker for temporary use in arithmetic coding. -/
  | temporary
  /-- The codes `0x02` to `0xBF`, reserved. -/
  | reserved
  /-- The code `0xC8`, reserved for extensions. -/
  | extension
  /-- The codes `0xF0` to `0xFD`, reserved for extensions. -/
  | extensionN (n : Nat)
  deriving DecidableEq, Repr

namespace Marker

def ofCode (c : UInt8) : Option Marker :=
  let n := c.toNat
  if n = 0 ∨ n = 0xFF then none
  else if n = 1 then some .temporary
  else if n < 0xC0 then some .reserved
  else if n = 0xC4 then some .huffmanTables
  else if n = 0xC8 then some .extension
  else if n = 0xCC then some .arithmeticConditioning
  else if 0xC0 ≤ n ∧ n ≤ 0xCF then some (.startOfFrame (n - 0xC0))
  else if 0xD0 ≤ n ∧ n ≤ 0xD7 then some (.restart (n - 0xD0))
  else if n = 0xD8 then some .startOfImage
  else if n = 0xD9 then some .endOfImage
  else if n = 0xDA then some .startOfScan
  else if n = 0xDB then some .quantTables
  else if n = 0xDC then some .lineCount
  else if n = 0xDD then some .restartInterval
  else if n = 0xDE then some .hierarchicalProgression
  else if n = 0xDF then some .expandReference
  else if 0xE0 ≤ n ∧ n ≤ 0xEF then some (.application (n - 0xE0))
  else if n = 0xFE then some .comment
  else some (.extensionN (n - 0xF0))

def name : Marker → String
  | .startOfFrame n => "SOF(" ++ toString n ++ ")"
  | .huffmanTables => "DHT"
  | .arithmeticConditioning => "DAC"
  | .restart n => "RST(" ++ toString n ++ ")"
  | .startOfImage => "SOI"
  | .endOfImage => "EOI"
  | .startOfScan => "SOS"
  | .quantTables => "DQT"
  | .lineCount => "DNL"
  | .restartInterval => "DRI"
  | .hierarchicalProgression => "DHP"
  | .expandReference => "EXP"
  | .application n => "APP(" ++ toString n ++ ")"
  | .comment => "COM"
  | .temporary => "TEM"
  | .reserved => "RES"
  | .extension => "JPG"
  | .extensionN n => "JPGn(" ++ toString n ++ ")"

end Marker

/-- Bytes being read and the position of the next one. -/
structure Cursor where
  bytes : ByteArray
  pos : Nat

abbrev ReadM := StateT Cursor (Except ReadFailure)

def readByte : ReadM UInt8 := do
  let c ← get
  if h : c.pos < c.bytes.size then
    set { c with pos := c.pos + 1 }
    pure c.bytes[c.pos]
  else throw .truncated

def readU16 : ReadM Nat := do
  let c ← get
  if c.pos + 2 ≤ c.bytes.size then
    set { c with pos := c.pos + 2 }
    pure ((c.bytes.get! c.pos).toNat * 256 + (c.bytes.get! (c.pos + 1)).toNat)
  else throw .truncated

def readBytes (n : Nat) : ReadM (Array UInt8) := do
  let c ← get
  if c.pos + n ≤ c.bytes.size then
    set { c with pos := c.pos + n }
    pure (c.bytes.extract c.pos (c.pos + n)).data
  else throw .truncated

def skipBytes (n : Nat) : ReadM Unit := do
  let c ← get
  if c.pos + n ≤ c.bytes.size then set { c with pos := c.pos + n }
  else
    set { c with pos := c.bytes.size }
    throw .endOfFile

def remaining : ReadM Nat := do
  let c ← get
  pure (c.bytes.size - c.pos)

/-- After a `0xFF`, the first byte that is not a fill byte `0xFF`. -/
def skipFill (b : UInt8) : ReadM UInt8 := do
  go ((← remaining) + 1) b
where
  go : Nat → UInt8 → ReadM UInt8
    | 0, b => pure b
    | fuel + 1, b => if b == 0xFF then do go fuel (← readByte) else pure b

def markerOf (code : UInt8) : ReadM Marker :=
  match Marker.ofCode code with
  | some m => pure m
  | none => throw (.malformed "FF 00 found where marker was expected")

/-- The next marker: bytes up to a `0xFF` are passed over, fill bytes skipped, and a stuffed zero
starts the search again. -/
def readMarker : ReadM Marker := do
  go ((← remaining) + 1)
where
  toFF : Nat → ReadM Unit
    | 0 => pure ()
    | fuel + 1 => do if (← readByte) == 0xFF then pure () else toFF fuel
  go : Nat → ReadM Marker
    | 0 => throw .truncated
    | fuel + 1 => do
      toFF ((← remaining) + 1)
      let code ← skipFill (← readByte)
      if code == 0 then go fuel else markerOf code

def readLength (m : Marker) : ReadM Nat := do
  let n ← readU16
  if n < 2 then throw (.malformed ("encountered " ++ m.name ++ " with invalid length " ++ toString n))
  pure (n - 2)

end Glitch.Jpeg
