import Glitch.Codec.Png.Filter
import Glitch.Codec.Png.Pixels
/-!
Reading a PNG image into a frame, in the order a streaming reader meets its bytes.

After the signature, chunks are read one at a time: the length and type, then the data, which is
checked (`Info.take`) before the CRC-32 that follows it. The first chunk must be the header. An
animation frame's data chunk is refused, no frame control being read. A bad CRC stops the reader
only for a critical chunk. An end chunk before any image data means the image
data is missing. A file that ends anywhere the reader still needs bytes gives the end-of-file
failure, whatever came before it.

Once the chunks before the image data are read, an image whose decoded pixels would take more
than 512 MiB is refused. Then each data chunk's bytes are handed to the inflater as they come, and
every row that is complete afterwards is unfiltered and placed before the chunk's CRC is read; the
first row also builds the palette table, so an indexed image with no palette fails there. The data
chunks end at the first chunk of another type, whose length and type are read but nothing after:
the inflater must have passed its checksum by then, and all rows must be there. Bytes after the
end of the compressed stream are ignored, and so is the rest of the file.
-/
namespace Glitch.Png

def chunkAt (bs : ByteArray) (pos : Nat) : Except PngError (Nat × ChunkKind) :=
  if bs.size < pos + 8 then .error .endOfFile
  else .ok (beAt bs pos 4, ChunkKind.at bs (pos + 4))

def checkCrc (bs : ByteArray) (kind : ChunkKind) (data : ByteArray) (stop : Nat) :
    Except PngError Unit :=
  if bs.size < stop + 4 then .error .endOfFile
  else
    let stored := beAt bs stop 4
    let computed := crc32 (kind.bytes ++ data.toList)
    if stored != computed && kind.critical then .error (.crc stored computed kind) else .ok ()

/-- Read the chunks from `pos` up to the first data chunk: what they say and where the data chunk
starts. `fuel` bounds the chunks. -/
def readInfo (bs : ByteArray) : Nat → Nat → Option Info → Except PngError (Info × Nat)
  | 0, _, _ => .error .endOfFile
  | fuel + 1, pos, known => do
    let (len, kind) ← chunkAt bs pos
    let header := ChunkKind.named "IHDR"
    match known with
    | none => if kind != header then throw (.beforeHeader kind)
    | some i => if kind == ChunkKind.named "IDAT" then return (i, pos)
    if kind == ChunkKind.named "fdAT" then throw (.restart kind)
    let stop := pos + 8 + len
    if bs.size < stop then throw .endOfFile
    let data := bs.extract (pos + 8) stop
    let next ← match known with
      | none => do
        let h ← Header.read kind data
        pure { header := h, palette := none, transparency := none, physical := false }
      | some i => i.take kind data
    checkCrc bs kind data stop
    if kind == ChunkKind.named "IEND" then throw .missingData
    readInfo bs fuel (stop + 4) (some next)

/-- The rows taken so far: how many, the compressed-stream bytes they used, the last row (for the
next row's filter), the palette table, and the pixels placed. -/
structure Rows where
  count : Nat
  used : Nat
  prev : ByteArray
  table : Array Pixel
  pixels : Array Pixel

def takeRows (i : Info) (spots : Array RowSpot) (out : ByteArray) : Nat → Rows → Except PngError Rows
  | 0, r => .ok r
  | fuel + 1, r =>
    match spots[r.count]? with
    | none => .ok r
    | some spot =>
      let h := i.header
      let len := h.rowBytes spot.width
      if out.size < r.used + 1 + len then .ok r
      else do
        let kind := Deflate.byteAt out r.used
        if kind > 4 then throw (.filterMethod kind)
        let prev := if spot.first then ByteArray.mk (Array.replicate len 0) else r.prev
        let row := unfilterRow kind h.filterStep prev (out.extract (r.used + 1) (r.used + 1 + len))
        let table ← if r.count = 0 && h.color == .indexed then
            match i.palette with
            | none => throw .missingPalette
            | some p =>
              match paletteTable p i.transparency with
              | some t => pure t
              | none => throw .paletteBounds
          else pure r.table
        takeRows i spots out fuel
          ⟨r.count + 1, r.used + 1 + len, row, table, placeRow i table spot row r.pixels⟩

/-- Read the data chunks from the one at `pos`, the inflater having seen `input` so far; `fuel`
bounds the chunks. -/
def readData (bs : ByteArray) (i : Info) (spots : Array RowSpot) :
    Nat → Nat → ByteArray → Deflate.Inflater → Rows → Except PngError Rows
  | 0, _, _, _, _ => .error .endOfFile
  | fuel + 1, pos, input, m, r => do
    let (len, kind) ← chunkAt bs pos
    let start := pos + 8
    let stop := start + len
    let data := bs.extract start stop
    let input := input ++ data
    let m ← (m.feed input).mapError .flate
    let r ← takeRows i spots m.out (spots.size + 1) r
    if bs.size < stop then throw .endOfFile
    checkCrc bs kind data stop
    let (_, after) ← chunkAt bs (stop + 4)
    if after == ChunkKind.named "IDAT" then readData bs i spots fuel (stop + 4) input m r
    else
      m.finish.mapError .flate
      if r.count < spots.size then throw .shortData
      pure r

def imageMemoryLimit : Nat := 512 * 1024 * 1024

def decode (bs : ByteArray) : Except PngError Frame := do
  if bs.size < 8 then throw .endOfFile
  if (bs.extract 0 8).toList != signature then throw .signature
  let (i, pos) ← readInfo bs (bs.size + 1) 8 none
  let h := i.header
  if h.width * h.height * i.pixelBytes > imageMemoryLimit then throw .memoryLimit
  let spots := rowSpots h
  let blank := Array.replicate (h.width * h.height) (⟨0, 0, 0, 0⟩ : Pixel)
  let r ← readData bs i spots (bs.size + 1) pos ByteArray.empty Deflate.Inflater.start
    ⟨0, 0, ByteArray.empty, #[], blank⟩
  if hs : r.pixels.size = h.width * h.height then pure ⟨h.width, h.height, r.pixels, hs⟩
  else throw .shortData

end Glitch.Png
