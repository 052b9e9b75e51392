import Glitch.Codec.Png.Chunk
/-!
What the chunks before the image data say, and how each one is checked when it is read.

The header is read field by field, and a field the chunk is too short to hold makes the chunk too
short. A second header, palette or physical size chunk is refused, and so is a second transparency
chunk, which is reported as a second palette. A transparency chunk gives one gray value or one
color; below sixteen bits only the low byte of each of its values is kept, and at sixteen bits all
of its bytes are kept and must equal a pixel's bytes to make it transparent. An indexed image's
transparency chunk needs the palette before it. The gamma, chromaticity and sRGB chunks are checked
for their length and the rendering intent, and a physical size chunk for its unit; every other
chunk, including the text chunks, is passed over.
-/
namespace Glitch.Png

/-- What the header chunk says. -/
structure Header where
  width : Nat
  height : Nat
  depth : Nat
  color : ColorType
  interlaced : Bool
  deriving DecidableEq, Repr

def Header.read (kind : ChunkKind) (data : ByteArray) : Except PngError Header := do
  let need (n : Nat) : Except PngError Unit :=
    if data.size < n then .error (.tooShort kind) else .ok ()
  need 8
  let width := beAt data 0 4
  let height := beAt data 4 4
  if width = 0 || height = 0 then throw .dimensions
  need 9
  let depth := beAt data 8 1
  if !([1, 2, 4, 8, 16].contains depth) then throw (.bitDepth depth)
  need 10
  let color ← match ColorType.ofCode? (beAt data 9 1) with
    | none => throw (.colorType (beAt data 9 1))
    | some c => if c.refuses depth then throw (.colorDepth c depth) else pure c
  need 11
  if beAt data 10 1 != 0 then throw (.compressionMethod (beAt data 10 1))
  need 12
  if beAt data 11 1 != 0 then throw (.filterMethod (beAt data 11 1))
  need 13
  let interlaced ← match beAt data 12 1 with
    | 0 => pure false
    | 1 => pure true
    | n => throw (.interlaceMethod n)
  pure ⟨width, height, depth, color, interlaced⟩

def Header.bitsPerPixel (h : Header) : Nat := h.color.channels * h.depth

def Header.rowBytes (h : Header) (w : Nat) : Nat := (w * h.bitsPerPixel + 7) / 8

def Header.filterStep (h : Header) : Nat := max 1 (h.bitsPerPixel / 8)

/-- What the chunks read so far say. -/
structure Info where
  header : Header
  palette : Option ByteArray
  transparency : Option ByteArray
  physical : Bool

/-- Bytes per pixel of the decoded image: the samples widened to at least eight bits, an indexed
pixel becoming three color samples, and a transparency chunk adding an alpha sample. -/
def Info.pixelBytes (i : Info) : Nat :=
  let h := i.header
  let alpha := if i.transparency.isSome then 1 else 0
  let samples := match h.color with
    | .gray => 1 + alpha
    | .rgb => 3 + alpha
    | .indexed => 3 + alpha
    | .grayAlpha => 2
    | .rgba => 4
  if h.depth = 16 then 2 * samples else samples

def Info.readTransparency (i : Info) (data : ByteArray) : Except PngError Info := do
  let kind := ChunkKind.named "tRNS"
  if i.transparency.isSome then throw (.duplicate (ChunkKind.named "PLTE"))
  let h := i.header
  let keep (t : ByteArray) : Except PngError Info := pure { i with transparency := some t }
  match h.color with
  | .gray =>
    if data.size < 2 then throw (.shortPalette 2 data.size)
    else if h.depth < 16 then keep (data.extract 1 2) else keep data
  | .rgb =>
    if data.size < 6 then throw (.shortPalette 6 data.size)
    else if h.depth < 16 then
      keep ⟨#[data.data.getD 1 0, data.data.getD 3 0, data.data.getD 5 0]⟩
    else keep data
  | .indexed =>
    if i.palette.isNone then throw (.afterPalette kind) else keep data
  | c => throw (.transparencyFor c)

def Info.take (i : Info) (kind : ChunkKind) (data : ByteArray) : Except PngError Info :=
  let need (n : Nat) : Except PngError Unit :=
    if data.size < n then .error (.tooShort kind) else .ok ()
  match String.fromUTF8? ⟨kind.bytes.toArray⟩ with
  | some "IHDR" => .error (.duplicate kind)
  | some "PLTE" =>
    if i.palette.isSome then .error (.duplicate kind) else .ok { i with palette := some data }
  | some "tRNS" => i.readTransparency data
  | some "pHYs" => do
    if i.physical then throw (.duplicate kind)
    need 9
    if beAt data 8 1 > 1 then throw (.pixelUnit (beAt data 8 1))
    pure { i with physical := true }
  | some "gAMA" => do need 4; pure i
  | some "cHRM" => do need 32; pure i
  | some "sRGB" => do
    need 1
    if beAt data 0 1 > 3 then throw (.renderingIntent (beAt data 0 1))
    pure i
  | some "acTL" => do need 8; pure i
  | _ => .ok i

end Glitch.Png
