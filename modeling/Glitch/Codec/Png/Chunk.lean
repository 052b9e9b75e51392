import Glitch.Codec.Deflate.Inflate
/-!
The pieces of a PNG file: the signature, chunks with their four-byte types and CRC-32, the color
types and bit depths a header may name, and the ways reading or writing an image fails.

A chunk type is shown with the flags its letters carry in bit 5 (lower case): an upper-case first
letter marks a critical chunk, a lower-case second a private one, a lower-case third a reserved
one, and a lower-case fourth one that is safe to copy. Each byte of the type is shown as the
character of that code point, escaped as a debugging display escapes it.
-/
namespace Glitch.Png

def signature : List UInt8 := [137, 80, 78, 71, 13, 10, 26, 10]

/-- A big-endian number of `n` bytes at `i`, zero past the end. -/
def beAt (bs : ByteArray) (i n : Nat) : Nat :=
  (List.range n).foldl (fun acc k => acc * 256 + Deflate.byteAt bs (i + k)) 0

def crc32 (bs : List UInt8) : Nat :=
  let step (c : Nat) : Nat := if c % 2 = 1 then 0xEDB88320 ^^^ (c / 2) else c / 2
  let byteStep (c : Nat) (b : UInt8) : Nat :=
    (List.range 8).foldl (fun c _ => step c) (c ^^^ b.toNat)
  (bs.foldl byteStep 0xFFFFFFFF) ^^^ 0xFFFFFFFF

/-- A chunk: its length, type, data and the CRC of type and data. -/
def chunk (kind : String) (data : List UInt8) : List UInt8 :=
  let body := kind.toUTF8.toList ++ data
  Deflate.be32 data.length ++ body ++ Deflate.be32 (crc32 body)

/-- The four bytes of a chunk's type. -/
structure ChunkKind where
  bytes : List UInt8
  deriving DecidableEq, Repr

def ChunkKind.named (s : String) : ChunkKind := ⟨s.toUTF8.toList⟩

def ChunkKind.at (bs : ByteArray) (i : Nat) : ChunkKind := ⟨(bs.extract i (i + 4)).toList⟩

def ChunkKind.flag (k : ChunkKind) (i : Nat) : Bool := (k.bytes.getD i 0).toNat / 32 % 2 = 1

def ChunkKind.critical (k : ChunkKind) : Bool := !k.flag 0

def hexDigits (n : Nat) : String :=
  String.ofList ((Nat.toDigits 16 n).map Char.toLower)

/-- A byte as the character of that code point, escaped as a debugging display escapes it. -/
def escapeByte (b : UInt8) : String :=
  match b.toNat with
  | 0 => "\\0"
  | 9 => "\\t"
  | 10 => "\\n"
  | 13 => "\\r"
  | 34 => "\\\""
  | 39 => "\\'"
  | 92 => "\\\\"
  | n =>
    if (32 ≤ n && n < 127) || (160 < n && n != 173) then String.singleton (Char.ofNat n)
    else "\\u\x7b" ++ hexDigits n ++ "\x7d"

def ChunkKind.debug (k : ChunkKind) : String :=
  let flag (b : Bool) := if b then "true" else "false"
  "ChunkType \x7b type: " ++ String.join (k.bytes.map escapeByte) ++ ", critical: " ++
    flag k.critical ++ ", private: " ++ flag (k.flag 1) ++ ", reserved: " ++ flag (k.flag 2) ++
    ", safecopy: " ++ flag (k.flag 3) ++ " \x7d"

/-- The color types. -/
inductive ColorType where
  | gray
  | rgb
  | indexed
  | grayAlpha
  | rgba
  deriving DecidableEq, Repr

def ColorType.ofCode? : Nat → Option ColorType
  | 0 => some .gray
  | 2 => some .rgb
  | 3 => some .indexed
  | 4 => some .grayAlpha
  | 6 => some .rgba
  | _ => none

def ColorType.name : ColorType → String
  | .gray => "Grayscale"
  | .rgb => "Rgb"
  | .indexed => "Indexed"
  | .grayAlpha => "GrayscaleAlpha"
  | .rgba => "Rgba"

def ColorType.channels : ColorType → Nat
  | .gray | .indexed => 1
  | .grayAlpha => 2
  | .rgb => 3
  | .rgba => 4

def depthName : Nat → String
  | 1 => "One"
  | 2 => "Two"
  | 4 => "Four"
  | 8 => "Eight"
  | _ => "Sixteen"

/-- Whether a color type refuses a bit depth: below eight bits only gray and indexed images, and
sixteen bits for all but indexed ones. -/
def ColorType.refuses (c : ColorType) (depth : Nat) : Bool :=
  (depth < 8 && (c == .rgb || c == .grayAlpha || c == .rgba)) || (depth == 16 && c == .indexed)

/-- Why a PNG image cannot be read or written. -/
inductive PngError where
  /-- The file ends before the reader is done with it. -/
  | endOfFile
  | signature
  | crc (stored computed : Nat) (kind : ChunkKind)
  | beforeHeader (kind : ChunkKind)
  /-- An animation frame's data chunk where no frame control has made the reader ready for it. -/
  | restart (kind : ChunkKind)
  | duplicate (kind : ChunkKind)
  | tooShort (kind : ChunkKind)
  | dimensions
  | bitDepth (n : Nat)
  | colorType (n : Nat)
  | colorDepth (color : ColorType) (depth : Nat)
  | compressionMethod (n : Nat)
  | filterMethod (n : Nat)
  | interlaceMethod (n : Nat)
  | shortPalette (expected len : Nat)
  /-- A transparency chunk of an indexed image with no palette before it. -/
  | afterPalette (kind : ChunkKind)
  | transparencyFor (color : ColorType)
  | renderingIntent (n : Nat)
  | pixelUnit (n : Nat)
  | missingData
  | shortData
  | flate (e : Deflate.StreamError)
  | missingPalette
  /-- A palette whose length is not a whole number of entries, or of more than 256 entries: the
  reader stops outright when it expands it. -/
  | paletteBounds
  | memoryLimit
  | zeroWidth
  | zeroHeight
  deriving DecidableEq, Repr

def PngError.detail : PngError → String
  | .endOfFile => "unexpected end of file"
  | .signature => "Invalid PNG signature."
  | .crc s c k =>
    "CRC error: expected 0x" ++ hexDigits s ++ " have 0x" ++ hexDigits c ++ " while decoding " ++
      k.debug ++ " chunk."
  | .beforeHeader k => k.debug ++ " chunk appeared before IHDR chunk"
  | .restart k => "Unexpected restart of " ++ k.debug ++ " chunk sequence"
  | .duplicate k => "Chunk " ++ k.debug ++ " must appear at most once."
  | .tooShort k => "Chunk is too short: " ++ k.debug
  | .dimensions => "Invalid image dimensions"
  | .bitDepth n => "Invalid dispose operation " ++ toString n ++ "."
  | .colorType n => "Invalid color type " ++ toString n ++ "."
  | .colorDepth c d =>
    "Invalid color/depth combination in header: " ++ c.name ++ "/" ++ depthName d
  | .compressionMethod n => "Unknown compression method " ++ toString n ++ "."
  | .filterMethod n => "Unknown filter method " ++ toString n ++ "."
  | .interlaceMethod n => "Unknown interlace method " ++ toString n ++ "."
  | .shortPalette e l =>
    "Not enough palette entries, expect " ++ toString e ++ " got " ++ toString l ++ "."
  | .afterPalette k => "Chunk " ++ k.debug ++ " is invalid after PLTE chunk."
  | .transparencyFor c => "Transparency chunk found for color type " ++ c.name ++ "."
  | .renderingIntent n => "Invalid sRGB rendering intent " ++ toString n ++ "."
  | .pixelUnit n => "Invalid physical pixel size unit " ++ toString n ++ "."
  | .missingData => "IDAT or fdAT chunk is missing."
  | .shortData => "IDAT or fDAT chunk does not have enough data for image."
  | .flate e => "Corrupt deflate stream. " ++ e.name
  | .missingPalette => "Missing palette of indexed image."
  | .paletteBounds => "palette out of range"
  | .memoryLimit => "Memory limit exceeded"
  | .zeroWidth => "Zero width not allowed"
  | .zeroHeight => "Zero height not allowed"

def PngError.writing : PngError → Bool
  | .zeroWidth | .zeroHeight => true
  | _ => false

/-- Whether the reader stops outright rather than reporting an error. -/
def PngError.stops : PngError → Bool
  | .paletteBounds => true
  | _ => false

end Glitch.Png
