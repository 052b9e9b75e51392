import Glitch.Codec.Deflate.Fast
import Glitch.Codec.Png.Chunk
import Glitch.Codec.Png.Filter
import Glitch.Frame.Basic
/-!
Writing a frame as an 8-bit RGBA PNG image.

Each row gets the filter `chooseFilter` picks, the row above the first being zeros, and the
filtered rows, each behind its filter type, are compressed with `fastCompress`. When that comes
out larger than the same bytes in stored blocks, the image data is instead the unfiltered rows,
each behind filter type 0, in stored blocks. The data goes in a single chunk between the header
and the end chunk. An image with no columns or no rows cannot be written.
-/
namespace Glitch.Png

def rowBytes (f : Frame) (y : Nat) : ByteArray := ⟨((f.row y).toList.flatMap Pixel.channels).toArray⟩

/-- The compressed image data of a frame. -/
def imageData (f : Frame) : ByteArray :=
  let rows := (List.range f.height).map (rowBytes f)
  let (pieces, _) := rows.foldl (fun (acc : List ByteArray × ByteArray) row =>
    let (kind, filtered) := chooseFilter 4 acc.2 row
    (acc.1 ++ [ByteArray.empty.push kind.toUInt8 ++ filtered], row))
    ([], ByteArray.mk (Array.replicate (4 * f.width) 0))
  let compressed := Deflate.fastCompress pieces
  if compressed.size > Deflate.storedSize (f.height * (4 * f.width + 1)) then
    Deflate.zlibStored (rows.foldl (fun acc row => acc.push 0 ++ row) ByteArray.empty)
  else compressed

def encode (f : Frame) : Except PngError ByteArray :=
  if f.width = 0 then .error .zeroWidth
  else if f.height = 0 then .error .zeroHeight
  else
    let header := Deflate.be32 f.width ++ Deflate.be32 f.height ++ [8, 6, 0, 0, 0]
    .ok ⟨(signature ++ chunk "IHDR" header ++ chunk "IDAT" (imageData f).toList ++
      chunk "IEND" []).toArray⟩

end Glitch.Png
