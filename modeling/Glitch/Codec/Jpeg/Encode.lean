import Glitch.Codec.Jpeg.Tables
import Glitch.Codec.Jpeg.Dct
import Glitch.Frame.Basic
import Glitch.Float.Binary
/-!
A baseline JPEG writer for RGB images: JFIF header, one 8-bit frame of three components without
subsampling, the example quantization tables scaled by the quality, the example Huffman tables,
and one interleaved scan.

Colours are converted to Y, Cb, Cr in binary32 arithmetic and truncated to bytes. Blocks past the
right or bottom edge repeat the edge pixels. Each coefficient is the transform divided by eight
(truncating), then divided by its table entry and rounded half away from zero.
-/
namespace Glitch.Jpeg

/-- A bit writer: the bytes written, and `count` pending bits held in `pending`. A byte `0xFF` in
the entropy-coded data is followed by a stuffed `0x00`. -/
structure BitWriter where
  out : Array UInt8
  pending : Nat
  count : Nat

namespace BitWriter

def empty : BitWriter := ⟨#[], 0, 0⟩

def flush (w : BitWriter) : BitWriter :=
  go (w.count / 8) w
where
  go : Nat → BitWriter → BitWriter
    | 0, w => w
    | fuel + 1, w =>
      if w.count < 8 then w
      else
        let rest := w.count - 8
        let byte := (w.pending / Nat.pow 2 rest).toUInt8
        let out := if byte == 0xFF then (w.out.push byte).push 0 else w.out.push byte
        go fuel ⟨out, w.pending % Nat.pow 2 rest, rest⟩

def writeBits (w : BitWriter) (bits size : Nat) : BitWriter :=
  if size = 0 then w
  else flush ⟨w.out, w.pending * Nat.pow 2 size + bits % Nat.pow 2 size, w.count + size⟩

def writeCode (w : BitWriter) (table : Array (Nat × Nat)) (symbol : Nat) : BitWriter :=
  let (len, code) := table.getD symbol (0, 0)
  w.writeBits code len

end BitWriter

/-- The size category of a coefficient and its extra bits (one's complement for negatives). -/
def coefficientBits (v : Int) : Nat × Nat :=
  let mag := v.natAbs
  let size := if mag = 0 then 0 else Nat.log2 mag + 1
  let bits := if v < 0 then ((v - 1) % (Nat.pow 2 size : Nat)).toNat else v.toNat
  (size, bits % Nat.pow 2 size)

/-- Code one quantized block (row-major coefficients) after the previous DC value `prevDc`. -/
def writeBlock (w : BitWriter) (block : Array Int) (prevDc : Int) (dc ac : Array (Nat × Nat)) : BitWriter :=
  let dcv := block.getD 0 0
  let (size, bits) := coefficientBits (dcv - prevDc)
  let w := (w.writeCode dc size).writeBits bits size
  let step (acc : BitWriter × Nat) (k : Nat) : BitWriter × Nat :=
    let (w, run) := acc
    let v := block.getD (zigzag.getD k 0) 0
    if v = 0 then (w, run + 1)
    else
      let w := (List.range (run / 16)).foldl (fun w _ => w.writeCode ac 0xF0) w
      let (size, bits) := coefficientBits v
      ((w.writeCode ac ((run % 16) * 16 + size)).writeBits bits size, 0)
  let (w, _) := (List.range 63).foldl (fun acc i => step acc (i + 1)) (w, 0)
  if block.getD (zigzag.getD 63 0) 0 = 0 then w.writeCode ac 0 else w

/-- Fraction bits of the fixed-point grid the colour conversion runs on. Every weight times a
byte value is a binary32 number of magnitude at least `2^-4` (or zero), so it lies on the grid of
`2^-27`, and so do all sums of such numbers; 32 bits hold them exactly. -/
def gridBits : Nat := 32

/-- A finite binary32 value as an integer count of grid steps (exact for values on the grid). -/
def onGrid (x : F32) : Int :=
  match x.kind with
  | .finite neg m e =>
    let sh := e + gridBits
    let v : Int := if 0 ≤ sh then (m * Nat.pow 2 (sh.toNat) : Nat) else (m / Nat.pow 2 ((-sh).toNat) : Nat)
    if neg then -v else v
  | _ => 0

/-- A grid value rounded to 24 significant bits, to nearest with ties to even: the binary32
rounding of an exact sum of grid values. -/
def roundToSingle (v : Int) : Int :=
  let a := v.natAbs
  let len := Nat.log2 a + 1
  if len ≤ 24 then v
  else
    let drop := len - 24
    let q := a / Nat.pow 2 drop
    let r := a % Nat.pow 2 drop
    let half := Nat.pow 2 (drop - 1)
    let q := if half < r || (r == half && q % 2 == 1) then q + 1 else q
    let res : Int := (q * Nat.pow 2 drop : Nat)
    if v < 0 then -res else res

def gridAdd (a b : Int) : Int := roundToSingle (a + b)

def gridToByte (v : Int) : Nat := if v ≤ 0 then 0 else min 255 (v.toNat / Nat.pow 2 gridBits)

/-- Products of a colour weight (the constant divided by 255, in binary32) with every byte value,
rounded to binary32, on the grid. -/
def weighted (c : F32) : Array Int :=
  (List.range 256).toArray.map fun v => onGrid ((c / 255) * Binary.ofNat v)

def yR : Array Int := weighted 76.245
def yG : Array Int := weighted 149.685
def yB : Array Int := weighted 29.07
def cbR : Array Int := weighted (-43.0185)
def cbG : Array Int := weighted 84.4815
def cbB : Array Int := weighted 127.5
def crR : Array Int := weighted 127.5
def crG : Array Int := weighted 106.7685
def crB : Array Int := weighted 20.7315

def gridHalfRange : Int := 128 * Nat.pow 2 gridBits

/-- Y, Cb and Cr of a colour as binary32 sums of the weighted channels, left to right, each
truncated to a byte. -/
def toYCbCr (p : Pixel) : Nat × Nat × Nat :=
  let r := p.r.toNat
  let g := p.g.toNat
  let b := p.b.toNat
  let entry (t : Array Int) (i : Nat) : Int := t.getD i 0
  let y := gridAdd (gridAdd (entry yR r) (entry yG g)) (entry yB b)
  let cb := gridAdd (gridAdd (gridAdd (entry cbR r) (-entry cbG g)) (entry cbB b)) gridHalfRange
  let cr := gridAdd (gridAdd (gridAdd (entry crR r) (-entry crG g)) (-entry crB b)) gridHalfRange
  (gridToByte y, gridToByte cb, gridToByte cr)

/-- The three component blocks of the block whose top-left pixel is `(x0, y0)`; positions past
the edge take the nearest edge pixel. -/
def componentBlocks (f : Frame) (x0 y0 : Nat) : Array Nat × Array Nat × Array Nat :=
  let cells := (List.range 64).toArray.map fun i =>
    toYCbCr (f.pixelAt (min (x0 + i % 8) (f.width - 1)) (min (y0 + i / 8) (f.height - 1)))
  (cells.map (·.1), cells.map (·.2.1), cells.map (·.2.2))

/-- A coefficient divided by its table entry, rounded half away from zero. -/
def quantize (v : Int) (q : Nat) : Int :=
  let a := v.tdiv 8
  let m := (2 * a.natAbs + q) / (2 * q)
  if a < 0 then -(m : Int) else m

/-- A frame's blocks, transformed but not yet quantized: the luma, blue-difference and
red-difference transforms of each block, rows of blocks top to bottom, blocks left to right.
The transform does not depend on the quality, so one preparation serves every quality. -/
structure Prepared where
  width : Nat
  height : Nat
  blocks : Array (Array Int × Array Int × Array Int)

def prepare (f : Frame) : Prepared :=
  let blocksX := (f.width + 7) / 8
  let blocksY := (f.height + 7) / 8
  let blocks := (List.range (blocksX * blocksY)).toArray.map fun k =>
    let (ys, cbs, crs) := componentBlocks f (k % blocksX * 8) (k / blocksX * 8)
    (fdct ys, fdct cbs, fdct crs)
  ⟨f.width, f.height, if f.width = 0 || f.height = 0 then #[] else blocks⟩

/-- Coding state across blocks: the writer and the previous DC value of each component. -/
structure ScanState where
  writer : BitWriter
  dcY : Int
  dcCb : Int
  dcCr : Int

def quantizeBlock (d : Array Int) (table : Array Nat) : Array Int :=
  (List.range 64).toArray.map fun i => quantize (d.getD i 0) (table.getD i 1)

def encodeScan (p : Prepared) (luma chroma : Array Nat) : BitWriter :=
  let ldc := lumaDc.codes
  let lac := lumaAc.codes
  let cdc := chromaDc.codes
  let cac := chromaAc.codes
  let st := p.blocks.foldl (fun (st : ScanState) (blk : Array Int × Array Int × Array Int) =>
    let yq := quantizeBlock blk.1 luma
    let cbq := quantizeBlock blk.2.1 chroma
    let crq := quantizeBlock blk.2.2 chroma
    let w := writeBlock st.writer yq st.dcY ldc lac
    let w := writeBlock w cbq st.dcCb cdc cac
    let w := writeBlock w crq st.dcCr cdc cac
    ⟨w, yq.getD 0 0, cbq.getD 0 0, crq.getD 0 0⟩) ⟨BitWriter.empty, 0, 0, 0⟩
  st.writer.writeBits 0x7F 7

def be16 (n : Nat) : List UInt8 := [(n / 256 % 256).toUInt8, (n % 256).toUInt8]

def segment (marker : UInt8) (body : List UInt8) : List UInt8 := [0xFF, marker] ++ be16 (body.length + 2) ++ body

def quantBody (id : Nat) (table : Array Nat) : List UInt8 :=
  id.toUInt8 :: (zigzag.toList.map fun i => (table.getD i 1).toUInt8)

def huffmanBody (cls dest : Nat) (s : HuffmanSpec) : List UInt8 :=
  (cls * 16 + dest).toUInt8 :: (s.counts.toList ++ s.symbols.toList).map Nat.toUInt8

def dimensionError : String := "The Image's dimensions are either too small or too large"

def encodePrepared (p : Prepared) (quality : Nat) : Except String (List UInt8) :=
  if 65535 < p.width || 65535 < p.height then .error dimensionError
  else
    let luma := scaledTable lumaQuant quality
    let chroma := scaledTable chromaQuant quality
    let header : List UInt8 :=
      [0xFF, 0xD8] ++
      segment 0xE0 [0x4A, 0x46, 0x49, 0x46, 0x00, 0x01, 0x02, 0x00, 0x00, 0x01, 0x00, 0x01, 0x00, 0x00] ++
      segment 0xC0 ([8] ++ be16 p.height ++ be16 p.width ++ [3, 1, 0x11, 0, 2, 0x11, 1, 3, 0x11, 1]) ++
      segment 0xDB (quantBody 0 luma) ++ segment 0xDB (quantBody 1 chroma) ++
      segment 0xC4 (huffmanBody 0 0 lumaDc) ++ segment 0xC4 (huffmanBody 1 0 lumaAc) ++
      segment 0xC4 (huffmanBody 0 1 chromaDc) ++ segment 0xC4 (huffmanBody 1 1 chromaAc) ++
      segment 0xDA [3, 1, 0x00, 2, 0x11, 3, 0x11, 0, 0x3F, 0]
    .ok (header ++ (encodeScan p luma chroma).out.toList ++ [0xFF, 0xD9])

/-- The JPEG file of a frame's colours at a quality in 1..100; alpha is dropped. -/
def encode (f : Frame) (quality : Nat) : Except String (List UInt8) := encodePrepared (prepare f) quality

end Glitch.Jpeg
