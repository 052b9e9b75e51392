import Glitch.Codec.Png.Info
import Glitch.Frame.Basic
/-!
Turning unfiltered rows into 8-bit RGBA pixels.

Gray samples below eight bits are scaled to 0..255 by multiplying by `255 / (2^depth - 1)`, and
16-bit samples are rounded to eight bits as `(v + 128) / 257`. A gray or color pixel is transparent
when its samples equal the transparency chunk as the reader keeps it (the raw sample below eight
bits, its bytes otherwise), and opaque otherwise.

An indexed pixel is looked up in a table of 256 entries built from the palette: each whole palette
entry gives its color, with the alpha of the transparency chunk's entry when it has one, and the
other entries are opaque black. A transparency chunk with more entries than the palette is passed
over. A palette that is not a whole number of entries, or has more than 256 of them, stops the
reader when the table is built.
-/
namespace Glitch.Png

def sampleAt (row : ByteArray) (depth n : Nat) : Nat :=
  if depth = 16 then Deflate.byteAt row (2 * n) * 256 + Deflate.byteAt row (2 * n + 1)
  else if depth = 8 then Deflate.byteAt row n
  else
    let bitPos := n * depth
    Deflate.byteAt row (bitPos / 8) / Nat.pow 2 (8 - depth - bitPos % 8) % Nat.pow 2 depth

def to8 (depth v : Nat) : UInt8 :=
  if depth = 16 then ((v + 128) / 257).toUInt8
  else if depth = 8 then v.toUInt8
  else (v * (255 / (Nat.pow 2 depth - 1))).toUInt8

def paletteTable (palette : ByteArray) (transparency : Option ByteArray) : Option (Array Pixel) :=
  let entries := palette.size / 3
  if palette.size % 3 != 0 || entries > 256 then none
  else
    let alphas := match transparency with
      | some t => if t.size ≤ entries then t else ByteArray.empty
      | none => ByteArray.empty
    some ((Array.range 256).map fun i =>
      if i < entries then
        ⟨palette.data.getD (3 * i) 0, palette.data.getD (3 * i + 1) 0,
          palette.data.getD (3 * i + 2) 0, alphas.data.getD i 255⟩
      else ⟨0, 0, 0, 255⟩)

/-- Whether the bytes of a pixel's samples at `start` equal the transparency chunk's bytes. -/
def matchesBytes (row : ByteArray) (start : Nat) (t : ByteArray) : Bool :=
  start + t.size ≤ row.size && row.extract start (start + t.size) == t

/-- Pixel `x` of an unfiltered row as 8-bit RGBA, given the palette table of an indexed image. -/
def pixelOf (i : Info) (table : Array Pixel) (row : ByteArray) (x : Nat) : Pixel :=
  let h := i.header
  let d := h.depth
  let s (k : Nat) := sampleAt row d (h.color.channels * x + k)
  let alphaOf (seen : Bool) : UInt8 := if seen then 0 else 255
  match h.color with
  | .gray =>
    let v := s 0
    let a := match i.transparency with
      | some t =>
        if d = 16 then alphaOf (t.size == 2 && matchesBytes row (2 * x) t)
        else alphaOf (v == Deflate.byteAt t 0)
      | none => 255
    ⟨to8 d v, to8 d v, to8 d v, a⟩
  | .rgb =>
    let a := match i.transparency with
      | some t =>
        if d = 16 then alphaOf (t.size == 6 && matchesBytes row (6 * x) t)
        else alphaOf (matchesBytes row (3 * x) t)
      | none => 255
    ⟨to8 d (s 0), to8 d (s 1), to8 d (s 2), a⟩
  | .indexed => table.getD (s 0) ⟨0, 0, 0, 255⟩
  | .grayAlpha => ⟨to8 d (s 0), to8 d (s 0), to8 d (s 0), to8 d (s 1)⟩
  | .rgba => ⟨to8 d (s 0), to8 d (s 1), to8 d (s 2), to8 d (s 3)⟩

def passes : List (Nat × Nat × Nat × Nat) :=
  [(0, 0, 8, 8), (4, 0, 8, 8), (0, 4, 4, 8), (2, 0, 4, 4), (0, 2, 2, 4), (1, 0, 2, 2), (0, 1, 1, 2)]

def passCount (n start step : Nat) : Nat := (n + step - 1 - start) / step

/-- A row of the image data: where its pixels go (first column, row, column step), how many
there are, and whether it is the first row of its pass. -/
structure RowSpot where
  x0 : Nat
  y : Nat
  dx : Nat
  width : Nat
  first : Bool

/-- The rows of the image data in order: the image's rows, or the rows of each Adam7 pass that
has both columns and rows. -/
def rowSpots (h : Header) : Array RowSpot :=
  if !h.interlaced then
    (Array.range h.height).map fun y => ⟨0, y, 1, h.width, y == 0⟩
  else
    passes.foldl (fun (acc : Array RowSpot) (x0, y0, dx, dy) =>
      let w := passCount h.width x0 dx
      let n := passCount h.height y0 dy
      if w = 0 || n = 0 then acc
      else acc ++ (Array.range n).map fun j => ⟨x0, y0 + j * dy, dx, w, j == 0⟩) #[]

def placeRow (i : Info) (table : Array Pixel) (spot : RowSpot) (row : ByteArray)
    (out : Array Pixel) : Array Pixel :=
  (List.range spot.width).foldl (fun (o : Array Pixel) k =>
    o.set! (spot.y * i.header.width + spot.x0 + k * spot.dx) (pixelOf i table row k)) out

end Glitch.Png
