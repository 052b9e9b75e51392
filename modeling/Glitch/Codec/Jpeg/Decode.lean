import Glitch.Codec.Jpeg.Entropy
import Glitch.Codec.Jpeg.Color
import Glitch.Codec.Jpeg.Lossless
/-!
A JPEG reader for Huffman-coded frames with one, three or four components: sequential and
progressive frames of 8-bit samples, and lossless frames. Hierarchical and arithmetic-coded frames
are refused.

Each component's coefficients form a grid of blocks, `blockCols` by `blockRows`, which covers
whole units even past the image's edge. A sequential scan decodes into a fresh zero grid; a
progressive scan adds to the grid kept from the scans before it.

A component is complete once scans whose values are not scaled (`low = 0`) have covered all 64
zigzag positions; for a sequential frame that is its first scan. The scan that completes a
component turns its grid into samples, with the quantization table in force at that moment, and
later scans of the component no longer change them. At the end of a progressive image, each
component not complete is turned into samples from what its grid holds, if its quantization table
is known. Every component must have samples by then.

A lossless scan gives samples directly, filed by the component's place in the scan (not in the
frame); at the end every component must have them.

An AVI1 application header marks motion JPEG: a scan that uses a Huffman table never given gets
the example table of the same class and slot (slots 0 and 1).
-/
namespace Glitch.Jpeg

structure Tables where
  quant : Array (Option (Array Nat))
  dc : Array (Option DecodeTable)
  ac : Array (Option DecodeTable)
  restartInterval : Nat
  jfif : Bool
  motion : Bool
  adobe : Option Nat

def Tables.empty : Tables :=
  ⟨Array.replicate 4 none, Array.replicate 4 none, Array.replicate 4 none, 0, false, false, none⟩

def HuffmanSpec.decodeTable (s : HuffmanSpec) : DecodeTable :=
  match DecodeTable.build s.counts (s.symbols.map Nat.toUInt8) with
  | .ok t => t
  | .error _ => ⟨#[], #[], #[]⟩

/-- For motion JPEG: each missing table in slot 0 or 1 that the scan uses, set to the example
table of its class (luminance in slot 0, chrominance in slot 1). -/
def Tables.fillMotion (t : Tables) (scan : ScanHeader) : Tables :=
  let usesDc (k : Nat) := scan.components.any fun (_, d, _) => d = k
  let usesAc (k : Nat) := scan.components.any fun (_, _, a) => a = k
  let fill (ts : Array (Option DecodeTable)) (k : Nat) (uses : Bool) (spec : HuffmanSpec) :=
    if (ts.getD k none).isNone ∧ uses then ts.set! k (some spec.decodeTable) else ts
  { t with
    dc := fill (fill t.dc 0 (usesDc 0) lumaDc) 1 (usesDc 1) chromaDc
    ac := fill (fill t.ac 0 (usesAc 0) lumaAc) 1 (usesAc 1) chromaAc }

def zeroBlock : Array Int := Array.replicate 64 0

def FrameHeader.zeroGrid (f : FrameHeader) (c : Component) : Array (Array Int) :=
  Array.replicate (f.blockCols c * f.blockRows c) zeroBlock

def DecodeTable.none : DecodeTable := ⟨#[], #[], #[]⟩

structure ScanComponent where
  comp : Component
  dc : DecodeTable
  ac : DecodeTable

/-- Entropy state across the units of a scan: the grid of each scan component, the DC
predictions, the end-of-band run, and the restart interval's progress. -/
structure UnitState where
  grids : Array (Array (Array Int))
  predictions : Array Int
  eobRun : Nat
  left : Nat
  expected : Nat

/-- Decode the blocks of one component within one unit: in an interleaved scan its `h` by `v`
blocks of the unit, else the single block the unit is. -/
def readUnitBlocks (f : FrameHeader) (scan : ScanHeader) (slot : Nat) (sc : ScanComponent)
    (interleaved : Bool) (mx my : Nat) (st : UnitState) : ScanM UnitState := do
  let c := sc.comp
  let (hs, vs) := if interleaved then (c.h, c.v) else (1, 1)
  let cols := f.blockCols c
  let positions := (List.range vs).flatMap fun v => (List.range hs).map fun h =>
    if interleaved then (my * c.v + v) * cols + mx * c.h + h else my * cols + mx
  positions.foldlM (fun (st : UnitState) pos => do
    let block := (st.grids.getD slot #[]).getD pos zeroBlock
    if scan.high = 0 then
      let (block, p, eob) ← readBlock sc.dc sc.ac scan.start scan.stop scan.low block
        (st.predictions.getD slot 0) st.eobRun
      pure { st with
        grids := st.grids.modify slot (·.set! pos block)
        predictions := st.predictions.set! slot p
        eobRun := eob }
    else
      let (block, eob) ← refineBlock sc.ac scan.start scan.stop scan.low block st.eobRun
      pure { st with grids := st.grids.modify slot (·.set! pos block), eobRun := eob })
    st

def restartIfDue (interval : Nat) (st : UnitState) : ScanM UnitState := do
  if interval = 0 then return st
  let st ← if st.left = 0 then do
      takeRestart st.expected
      let predictions := st.predictions.map (fun _ => 0)
      pure { st with predictions := predictions, eobRun := 0, expected := (st.expected + 1) % 8, left := interval }
    else pure st
  pure { st with left := st.left - 1 }

/-- The units of a scan in order: the frame's units for an interleaved scan, else the blocks of
its one component; units that start past the image's edge, at eight samples a unit, are left
out. -/
def scanUnits (f : FrameHeader) (interleaved : Bool) (first : Component) : List (Nat × Nat) :=
  let (unitCols, unitRows) := if interleaved then (f.mcuCols, f.mcuRows) else (f.blockCols first, f.blockRows first)
  let units := (List.range unitRows).flatMap fun my => (List.range unitCols).map fun mx => (mx, my)
  units.filter fun (mx, my) => my * 8 < f.height ∧ mx * 8 < f.width

/-- Decode a scan into the given grids of its components; returns the grids and the marker that
ended the scan. -/
def readScan (f : FrameHeader) (t : Tables) (scan : ScanHeader) (grids : Array (Array (Array Int))) :
    ReadM (Array (Array (Array Int)) × Option Marker) := do
  if scan.components.any (fun (i, _, _) => (t.quant.getD ((f.components.getD i ⟨0, 1, 1, 0⟩).table) none).isNone) then
    throw (.malformed "use of unset quantization table")
  if scan.start = 0 ∧ scan.components.any (fun (_, d, _) => (t.dc.getD d none).isNone) then
    throw (.malformed "scan makes use of unset dc huffman table")
  if scan.stop > 1 ∧ scan.components.any (fun (_, _, a) => (t.ac.getD a none).isNone) then
    throw (.malformed "scan makes use of unset ac huffman table")
  let comps : Array ScanComponent := scan.components.map fun (i, d, a) =>
    ⟨f.components.getD i ⟨0, 1, 1, 0⟩, (t.dc.getD d none).getD .none, (t.ac.getD a none).getD .none⟩
  let interleaved := comps.size > 1
  let first := (comps.getD 0 ⟨⟨0, 1, 1, 0⟩, .none, .none⟩).comp
  let start : UnitState := ⟨grids, Array.replicate comps.size 0, 0, t.restartInterval, 0⟩
  let body : ScanM (UnitState × Option Marker) := do
    let st ← (scanUnits f interleaved first).foldlM (fun st (mx, my) => do
      let st ← restartIfDue t.restartInterval st
      (List.range comps.size).foldlM (fun st slot =>
        readUnitBlocks f scan slot (comps.getD slot ⟨⟨0, 1, 1, 0⟩, .none, .none⟩) interleaved mx my st) st) start
    let m ← takeMarker
    pure (st, m)
  let ((st, m), _) ← body.run ⟨0, 0, none⟩
  let m ← passRestarts m
  pure (st.grids, m)

def planeOf (f : FrameHeader) (t : Tables) (i : Nat) (grid : Array (Array Int)) : Plane :=
  let c := f.components.getD i ⟨0, 1, 1, 0⟩
  let table := (t.quant.getD c.table none).getD #[]
  ⟨f.blockCols c, grid.map (inverseBlock · table)⟩

def allPositions : Nat := Nat.pow 2 64 - 1

/-- The state of reading a stream's segments: the frame, the tables, each component's samples once
known (transformed blocks, or a lossless frame's samples), the coefficient grids of a progressive
frame (set up at its first scan), the positions each component has had from scans with `low = 0`,
and the marker before. -/
structure Progress where
  frame : Option FrameHeader
  tables : Tables
  planes : Array (Option Plane)
  samples : Array (Option (Array Nat))
  coefficients : Array (Array (Array Int))
  covered : Array Nat
  previous : Marker
  scans : Nat
  pending : Option Marker

def Progress.start : Progress :=
  ⟨none, Tables.empty, #[], #[], #[], Array.replicate 4 0, .startOfImage, 0, none⟩

/-- The positions a scan adds for each of its components, and which components it completes: a
component already complete is not completed again, and a scan with `low > 0` completes none. -/
def coverScan (covered : Array Nat) (scan : ScanHeader) : Array Nat × Array Bool :=
  if scan.low ≠ 0 then (covered, scan.components.map fun _ => false)
  else
    let band := Nat.pow 2 scan.stop - Nat.pow 2 scan.start
    scan.components.foldl (fun (acc : Array Nat × Array Bool) (i, _, _) =>
      let m := acc.1.getD i 0
      if m = allPositions then (acc.1, acc.2.push false)
      else
        let m := m ||| band
        (acc.1.set! i m, acc.2.push (m = allPositions))) (covered, #[])

def readScanStep (f : FrameHeader) (p : Progress) : ReadM Progress := do
  let scan ← readScanHeader f
  let progressive := f.process = .progressive
  let coefficients := if progressive ∧ p.coefficients.isEmpty then f.components.map f.zeroGrid else p.coefficients
  let (covered, completes) := coverScan p.covered scan
  let tables := if p.tables.motion then p.tables.fillMotion scan else p.tables
  let grids := scan.components.map fun (i, _, _) =>
    if progressive then coefficients.getD i #[] else f.zeroGrid (f.components.getD i ⟨0, 1, 1, 0⟩)
  let (grids, m) ← readScan f tables scan grids
  let indexed := scan.components.zip (grids.zip completes)
  let coefficients := if progressive then
      indexed.foldl (fun cs ((i, _, _), g, _) => cs.set! i g) coefficients
    else coefficients
  let planes := indexed.foldl (fun ps ((i, _, _), g, done) =>
    if done then ps.set! i (some (planeOf f tables i g)) else ps) p.planes
  pure { p with
    tables := tables
    planes := planes
    coefficients := coefficients
    covered := covered
    pending := m
    scans := p.scans + 1 }

/-- Bytes per pixel of the decoded image: one or two for gray samples of up to 8 or of more bits,
three for colour. -/
def FrameHeader.pixelBytes (f : FrameHeader) : Nat :=
  if f.components.size = 1 then (if f.precision ≤ 8 then 1 else 2) else 3

def imageMemoryLimit : Nat := 512 * 1024 * 1024

def checkFrame (n : Nat) (f : FrameHeader) : Except ReadFailure Unit := do
  if n = 5 ∨ n = 6 ∨ n = 7 ∨ n = 13 ∨ n = 14 ∨ n = 15 then throw (.unsupported "Hierarchical")
  if n ≥ 9 then throw (.unsupported "ArithmeticEntropyCoding")
  if (f.precision ≠ 8 ∧ f.process ≠ .lossless) ∨ f.precision < 2 ∨ f.precision > 16 then
    throw (.unsupported ("SamplePrecision(" ++ toString f.precision ++ ")"))
  let count := f.components.size
  if count ≠ 1 ∧ count ≠ 3 ∧ count ≠ 4 then throw (.unsupported ("ComponentCount(" ++ toString count ++ ")"))
  let _ ← f.components.mapM fun c => Stretch.choose c.h c.v f.hMax f.vMax f.width f.height

def readStep (p : Progress) : ReadM (Option Progress) := do
  let marker ← match p.pending with
    | some m => pure m
    | none => readMarker
  let p := { p with pending := none }
  let next : ReadM (Option Progress) := match marker with
    | .startOfFrame n => do
      if p.frame.isSome then throw (.unsupported "Hierarchical")
      let f ← readFrameHeader n
      match checkFrame n f with
      | .error e => throw e
      | .ok () =>
        if f.width * f.height * f.pixelBytes > imageMemoryLimit then throw .memoryLimit
        pure (some { p with
        frame := some f
        planes := Array.replicate f.components.size none
        samples := Array.replicate f.components.size none })
    | .startOfScan => do
      let some f := p.frame | throw (.malformed "scan encountered before frame")
      if f.process = .lossless then
        let scan ← readScanHeader f
        let (data, m) ← readLosslessScan f p.tables.dc p.tables.restartInterval scan
        let samples := data.zipIdx.foldl (fun ss (d, i) => ss.set! i (some d)) p.samples
        pure (some { p with samples := samples, pending := m, scans := p.scans + 1 })
      else pure (some (← readScanStep f p))
    | .quantTables => do
      let ts ← readQuantTables
      pure (some { p with tables := { p.tables with
        quant := ts.foldl (fun q (i, t) => q.set! i (some t)) p.tables.quant } })
    | .huffmanTables => do
      let ts ← readHuffmanTables (p.frame.map (·.baseline))
      let put (a : Array (Option DecodeTable)) (e : HuffmanEntry) := a.set! e.index (some e.table)
      pure (some { p with tables := { p.tables with
        dc := (ts.filter (!·.acClass)).foldl put p.tables.dc,
        ac := (ts.filter (·.acClass)).foldl put p.tables.ac } })
    | .arithmeticConditioning => throw (.unsupported "ArithmeticEntropyCoding")
    | .restartInterval => do
      let n ← readRestartInterval
      pure (some { p with tables := { p.tables with restartInterval := n } })
    | .comment => do
      let length ← readLength .comment
      let _ ← readBytes length
      pure (some p)
    | .application n => do
      let info ← readApplication n
      let adobe := if info.adobe.isSome then info.adobe else p.tables.adobe
      pure (some { p with tables := { p.tables with
        jfif := p.tables.jfif || info.jfif
        motion := p.tables.motion || info.motion
        adobe := adobe } })
    | .restart _ =>
      if p.previous ≠ .startOfScan then throw (.malformed "RST found outside of entropy-coded data")
      else pure (some p)
    | .lineCount =>
      if p.previous ≠ .startOfScan ∨ p.scans ≠ 1 then
        throw (.malformed "DNL is only allowed immediately after the first scan")
      else throw (.unsupported "DNL")
    | .hierarchicalProgression => throw (.unsupported "Hierarchical")
    | .expandReference => throw (.unsupported "Hierarchical")
    | .endOfImage => pure none
    | .startOfImage | .temporary | .reserved | .extension | .extensionN _ =>
      throw (.malformed (marker.name ++ " marker found where not allowed"))
  match ← next with
  | some p => pure (some { p with previous := marker })
  | none => pure none

def readSegments : Nat → Progress → ReadM Progress
  | 0, p => pure p
  | fuel + 1, p => do
    match ← readStep p with
    | some p => readSegments fuel p
    | none => pure p

/-- The samples at the end of the image: a progressive frame's components not complete are taken
from their grids, when their quantization tables are known. -/
def finalPlanes (f : FrameHeader) (p : Progress) : Array (Option Plane) :=
  if f.process = .progressive ∧ p.coefficients.size = f.components.size then
    (List.range f.components.size).foldl (fun planes i =>
      let c := f.components.getD i ⟨0, 1, 1, 0⟩
      if p.covered.getD i 0 = allPositions ∨ (p.tables.quant.getD c.table none).isNone then planes
      else planes.set! i (some (planeOf f p.tables i (p.coefficients.getD i #[])))) p.planes
  else p.planes

def decode (bytes : ByteArray) : Except ReadFailure Frame := do
  let body : ReadM Frame := do
    let b0 ← readByte
    if b0 != 0xFF then throw (.malformed "first two bytes are not an SOI marker")
    let b1 ← readByte
    if Marker.ofCode b1 ≠ some .startOfImage then throw (.malformed "first two bytes are not an SOI marker")
    let p ← readSegments (bytes.size + 2) Progress.start
    let some f := p.frame | throw (.malformed "end of image encountered before frame")
    if f.process = .lossless then
      if p.samples.isEmpty || p.samples.any Option.isNone then throw (.malformed "not all components have data")
      match losslessImage f (p.samples.map (·.getD #[])) with
      | .ok frame => return frame
      | .error e => throw e
    let planes := finalPlanes f p
    if planes.isEmpty || planes.any Option.isNone then throw (.malformed "not all components have data")
    let space := ColorSpace.of (f.components.toList.map (·.id)) p.tables.jfif p.tables.adobe
    match assemble f space (planes.map (·.getD ⟨0, #[]⟩)) with
    | .ok frame => pure frame
    | .error e => throw e
  match body.run ⟨bytes, 0⟩ with
  | .ok (f, _) => .ok f
  | .error e => .error e

end Glitch.Jpeg
