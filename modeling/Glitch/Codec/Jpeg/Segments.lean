import Glitch.Codec.Jpeg.Stream
import Glitch.Codec.Jpeg.Tables
/-!
The segments of a JPEG stream that set up decoding: quantization and Huffman tables, the restart
interval, the application segments that name a colour space, and the frame and scan headers.

A frame header fixes the sampling factors of each component. Units of `8 * hMax` by `8 * vMax`
samples cover the image, so a component with factors `h`, `v` has `h` by `v` blocks in each unit;
its own samples span `width * h / hMax` by `height * v / vMax`, rounded up. A scan header names
its components, the band of coefficients it carries (`start` to `stop`, the latter exclusive)
and, in a progressive frame, the bit positions of successive approximation. A sequential scan
whose band ends at zero carries the whole band.
-/
namespace Glitch.Jpeg

/-! ## Huffman tables -/

/-- A Huffman table for decoding: for each code length `l` (index `l - 1`) the largest code of that
length (`-1` when there is none) and the offset from a code to its symbol's position. -/
structure DecodeTable where
  maxCode : Array Int
  offset : Array Int
  symbols : Array UInt8

/-- Canonical codes for the lengths given by the counts, with their lengths; fails when the counts
ask for more codes of a length than fit. -/
def canonicalCodes (counts : Array Nat) : Except ReadFailure (Array (Nat × Nat)) :=
  let sizes := (List.range 16).foldl (fun acc l => acc ++ Array.replicate (counts.getD l 0) (l + 1)) #[]
  let step (acc : Except ReadFailure (Array (Nat × Nat) × Nat × Nat)) (size : Nat) :=
    match acc with
    | .error e => .error e
    | .ok (codes, code, codeSize) =>
      let code := if codeSize < size then code * Nat.pow 2 (size - codeSize) else code
      let codeSize := max codeSize size
      if Nat.pow 2 size ≤ code then .error (.malformed "bad huffman code length")
      else .ok (codes.push (code, size), code + 1, codeSize)
  match sizes.foldl step (.ok (#[], 0, sizes.getD 0 0)) with
  | .ok (codes, _, _) => .ok codes
  | .error e => .error e

def DecodeTable.build (counts : Array Nat) (symbols : Array UInt8) : Except ReadFailure DecodeTable := do
  let codes ← canonicalCodes counts
  let (maxCode, offset, _) := (List.range 16).foldl (fun (acc : Array Int × Array Int × Nat) l =>
    let (mx, off, j) := acc
    let n := counts.getD l 0
    if n = 0 then (mx.push (-1), off.push 0, j)
    else
      let first := (codes.getD j (0, 0)).1
      let last := (codes.getD (j + n - 1) (0, 0)).1
      (mx.push last, off.push ((j : Int) - first), j + n)) (#[], #[], 0)
  pure ⟨maxCode, offset, symbols⟩

def DecodeTable.lookup (t : DecodeTable) (bits : Nat) : Option (UInt8 × Nat) :=
  go 1 16
where
  go (l : Nat) : Nat → Option (UInt8 × Nat)
    | 0 => none
    | fuel + 1 =>
      let code : Int := bits / Nat.pow 2 (16 - l)
      if code ≤ t.maxCode.getD (l - 1) (-1) then
        some (t.symbols.getD (code + t.offset.getD (l - 1) 0).toNat 0, l)
      else go (l + 1) fuel

/-! ## Segments -/

def readQuantTables : ReadM (List (Nat × Array Nat)) := do
  let length ← readLength .quantTables
  go length (length + 1) []
where
  go (length : Nat) : Nat → List (Nat × Array Nat) → ReadM (List (Nat × Array Nat))
    | 0, acc => pure acc.reverse
    | fuel + 1, acc => do
      if length = 0 then return acc.reverse
      let b := (← readByte).toNat
      let precision := b / 16
      let index := b % 16
      if precision > 1 then throw (.malformed ("invalid precision " ++ toString precision ++ " in DQT"))
      if index > 3 then throw (.malformed ("invalid destination identifier " ++ toString index ++ " in DQT"))
      if length < 65 + 64 * precision then throw (.malformed "invalid length in DQT")
      let zz ← if precision = 0 then do pure ((← readBytes 64).map (·.toNat))
        else do
          let bs ← readBytes 128
          pure (Array.ofFn (fun (i : Fin 64) => (bs.getD (2 * i.val) 0).toNat * 256 + (bs.getD (2 * i.val + 1) 0).toNat))
      if zz.any (· == 0) then throw (.malformed "quantization table contains element with a zero value")
      let natural := (List.range 64).foldl (fun t k => t.set! (zigzag.getD k 0) (zz.getD k 0)) (Array.replicate 64 0)
      go (length - (65 + 64 * precision)) fuel ((index, natural) :: acc)

/-- A table's class, destination and decoding table. -/
structure HuffmanEntry where
  acClass : Bool
  index : Nat
  table : DecodeTable

def readHuffmanTables (baseline : Option Bool) : ReadM (List HuffmanEntry) := do
  let length ← readLength .huffmanTables
  go length (length + 1) []
where
  go (length : Nat) : Nat → List HuffmanEntry → ReadM (List HuffmanEntry)
    | 0, acc => pure acc.reverse
    | fuel + 1, acc => do
      if length ≤ 17 then
        if length ≠ 0 then throw (.malformed "invalid length in DHT")
        return acc.reverse
      let b := (← readByte).toNat
      let cls := b / 16
      let index := b % 16
      if cls ≠ 0 ∧ cls ≠ 1 then throw (.malformed ("invalid class " ++ toString cls ++ " in DHT"))
      if baseline = some true ∧ index > 1 then throw (.malformed "invalid DHT index for baseline JPEG")
      if index > 3 then throw (.malformed ("invalid destination identifier " ++ toString index ++ " in DHT"))
      let counts := (← readBytes 16).map (·.toNat)
      let size := counts.foldl (· + ·) 0
      if size = 0 then throw (.malformed "encountered table with zero length in DHT")
      if size > 256 then throw (.malformed "encountered table with excessive length in DHT")
      if size > length - 17 then throw (.malformed "invalid length in DHT")
      let symbols ← readBytes size
      match DecodeTable.build counts symbols with
      | .error e => throw e
      | .ok t => go (length - (17 + size)) fuel (⟨cls = 1, index, t⟩ :: acc)

def readRestartInterval : ReadM Nat := do
  let length ← readLength .restartInterval
  if length ≠ 2 then throw (.malformed "DRI with invalid length")
  readU16

/-- What an application segment tells: a JFIF header, an AVI1 header (motion JPEG, whose frames may
leave out the Huffman tables), or an Adobe colour transform. -/
structure AppInfo where
  jfif : Bool
  motion : Bool
  adobe : Option Nat

/-- An application segment: the leading bytes of the kinds that carry a signature are read, a
profile or Exif body is read whole, and the rest is passed over. -/
def readApplication (n : Nat) : ReadM AppInfo := do
  let length ← readLength (.application n)
  let headerLength :=
    if n = 0 then (if length ≥ 5 then 5 else 0)
    else if n = 1 then (if length > 6 then 6 else 0)
    else if n = 2 then (if length > 14 then 14 else 0)
    else if n = 14 then (if length ≥ 12 then 12 else 0)
    else 0
  let header := (← readBytes headerLength).toList.map (·.toNat)
  let whole := (n = 1 ∧ header = [69, 120, 105, 102, 0, 0]) ∨
    (n = 2 ∧ header.take 12 = [73, 67, 67, 95, 80, 82, 79, 70, 73, 76, 69, 0])
  if whole then
    let _ ← readBytes (length - headerLength)
    return ⟨false, false, none⟩
  let adobe ← if n = 14 ∧ header.take 6 = [65, 100, 111, 98, 101, 0] then do
      let t := header.getD 11 0
      if t > 2 then throw (.malformed "invalid color transform in adobe app segment")
      pure (some t)
    else pure none
  skipBytes (length - headerLength)
  pure ⟨n = 0 ∧ header = [74, 70, 73, 70, 0], n = 0 ∧ header = [65, 86, 73, 49, 0], adobe⟩

/-- One component of a frame: identifier, sampling factors and quantization table. -/
structure Component where
  id : Nat
  h : Nat
  v : Nat
  table : Nat

/-- Coding processes of the frame kinds. -/
inductive Process where
  | sequential
  | progressive
  | lossless
  deriving DecidableEq

/-- A frame header. -/
structure FrameHeader where
  baseline : Bool
  process : Process
  precision : Nat
  height : Nat
  width : Nat
  components : Array Component

namespace FrameHeader

def hMax (f : FrameHeader) : Nat := f.components.foldl (fun m c => max m c.h) 1

def vMax (f : FrameHeader) : Nat := f.components.foldl (fun m c => max m c.v) 1

def mcuCols (f : FrameHeader) : Nat := (f.width + 8 * f.hMax - 1) / (8 * f.hMax)

def mcuRows (f : FrameHeader) : Nat := (f.height + 8 * f.vMax - 1) / (8 * f.vMax)

def blockCols (f : FrameHeader) (c : Component) : Nat := f.mcuCols * c.h

def blockRows (f : FrameHeader) (c : Component) : Nat := f.mcuRows * c.v

def sampleCols (f : FrameHeader) (c : Component) : Nat := (f.width * c.h + f.hMax - 1) / f.hMax

def sampleRows (f : FrameHeader) (c : Component) : Nat := (f.height * c.v + f.vMax - 1) / f.vMax

end FrameHeader

def readComponents (process : Process) : Nat → Array Component → ReadM (Array Component)
  | 0, acc => pure acc
  | n + 1, acc => do
    let id := (← readByte).toNat
    if acc.any (·.id == id) then throw (.malformed ("duplicate frame component identifier " ++ toString id))
    let b := (← readByte).toNat
    let h := b / 16
    let v := b % 16
    if h = 0 ∨ h > 4 then throw (.malformed ("invalid horizontal sampling factor " ++ toString h))
    if v = 0 ∨ v > 4 then throw (.malformed ("invalid vertical sampling factor " ++ toString v))
    let t := (← readByte).toNat
    if t > 3 ∨ (process = .lossless ∧ t ≠ 0) then
      throw (.malformed ("invalid quantization table index " ++ toString t))
    readComponents process n (acc.push ⟨id, h, v, t⟩)

def readFrameHeader (n : Nat) : ReadM FrameHeader := do
  let length ← readLength (.startOfFrame n)
  if length ≤ 6 then throw (.malformed "invalid length in SOF")
  let process : Process :=
    if n = 2 ∨ n = 6 ∨ n = 10 ∨ n = 14 then .progressive
    else if n = 3 ∨ n = 7 ∨ n = 11 ∨ n = 15 then .lossless
    else .sequential
  let precision := (← readByte).toNat
  if precision = 12 then
    if n = 0 then throw (.malformed "12 bit sample precision is not allowed in baseline")
  else if precision ≠ 8 ∧ process ≠ .lossless then
    throw (.malformed ("invalid precision " ++ toString precision ++ " in frame header"))
  let height ← readU16
  let width ← readU16
  if height = 0 then throw (.unsupported "DNL")
  if width = 0 then throw (.malformed "zero width in frame header")
  let count := (← readByte).toNat
  if count = 0 then throw (.malformed "zero component count in frame header")
  if process = .progressive ∧ count > 4 then throw (.malformed "progressive frame with more than 4 components")
  if length ≠ 6 + 3 * count then throw (.malformed "invalid length in SOF")
  let components ← readComponents process count #[]
  pure ⟨n = 0, process, precision, height, width, components⟩

def readScanComponents (f : FrameHeader) : Nat → Array (Nat × Nat × Nat) → ReadM (Array (Nat × Nat × Nat))
  | 0, acc => pure acc
  | n + 1, acc => do
    let id := (← readByte).toNat
    let some index := f.components.findIdx? (·.id == id)
      | throw (.malformed ("scan component identifier " ++ toString id ++
          " does not match any of the component identifiers defined in the frame"))
    if acc.any (·.1 == index) then throw (.malformed ("duplicate scan component identifier " ++ toString id))
    if index < acc.foldl (fun m c => max m c.1) 0 then
      throw (.malformed "the scan component order does not follow the order in the frame header")
    let b := (← readByte).toNat
    let dc := b / 16
    let ac := b % 16
    if dc > 3 ∨ (f.baseline ∧ dc > 1) then throw (.malformed ("invalid dc table index " ++ toString dc))
    if ac > 3 ∨ (f.baseline ∧ ac > 1) then throw (.malformed ("invalid ac table index " ++ toString ac))
    readScanComponents f n (acc.push (index, dc, ac))

/-- A scan header: for each of its components, the frame position and the DC and AC tables; the
band `[start, stop)` of zigzag positions it carries; and the bit `low` it scales values to, with
`high` the bit the previous scan of the band stopped at (zero on a band's first scan). In a
lossless frame `start` selects the predictor and `low` is the point transform. -/
structure ScanHeader where
  components : Array (Nat × Nat × Nat)
  start : Nat
  stop : Nat
  high : Nat
  low : Nat

def checkScanBand (f : FrameHeader) (count ss se ah al : Nat) : ReadM Unit := do
  if f.process = .progressive then
    if se > 63 ∨ ss > se ∨ (ss = 0 ∧ se ≠ 0) then
      throw (.malformed ("invalid spectral selection parameters: ss=" ++ toString ss ++ " se=" ++ toString se))
    if ss ≠ 0 ∧ count ≠ 1 then
      throw (.malformed "spectral selection scan with AC coefficients can't have more than one component")
    if ah > 13 ∨ al > 13 then
      throw (.malformed ("invalid successive approximation parameters: ah=" ++ toString ah ++ " al=" ++ toString al))
    if ah ≠ 0 ∧ ah ≠ al + 1 then
      throw (.malformed "successive approximation scan with more than one bit of improvement")
  else if f.process = .lossless then
    if se ≠ 0 then throw (.malformed "spectral selection end shall be zero in lossless scan")
    if ah ≠ 0 then throw (.malformed "successive approximation high shall be zero in lossless scan")
    if ss > 7 then throw (.malformed ("invalid predictor selection value: " ++ toString ss))
  else
    if ss ≠ 0 ∨ se ≠ 63 then throw (.malformed "spectral selection is not allowed in non-progressive scan")
    if ah ≠ 0 ∨ al ≠ 0 then throw (.malformed "successive approximation is not allowed in non-progressive scan")

def readScanHeader (f : FrameHeader) : ReadM ScanHeader := do
  let length ← readLength .startOfScan
  if length = 0 then throw (.malformed "zero length in SOS")
  let count := (← readByte).toNat
  if count = 0 ∨ count > 4 then
    throw (.malformed ("invalid component count " ++ toString count ++ " in scan header"))
  if length ≠ 4 + 2 * count then throw (.malformed "invalid length in SOS")
  let comps ← readScanComponents f count #[]
  let blocks := comps.foldl (fun n c => n + (f.components.getD c.1 ⟨0, 1, 1, 0⟩).h * (f.components.getD c.1 ⟨0, 1, 1, 0⟩).v) 0
  if count > 1 ∧ blocks > 10 then
    throw (.malformed "scan with more than one component and more than 10 blocks per MCU")
  let ss := (← readByte).toNat
  let se := (← readByte).toNat
  let approx := (← readByte).toNat
  if approx % 16 ≥ f.precision then
    throw (.malformed "invalid point transform, must be less than the frame precision")
  let se := if f.process = .sequential ∧ se = 0 then 63 else se
  checkScanBand f count ss se (approx / 16) (approx % 16)
  pure ⟨comps, ss, se + 1, approx / 16, approx % 16⟩

end Glitch.Jpeg
