import Glitch.Codec.Jpeg.Segments
import Glitch.Codec.Jpeg.Inverse
/-!
The entropy-coded data of a scan: a bit window over the bytes and the decoding of one block's
coefficients.

The window takes bytes ahead of the decoder. Whenever it runs low it reads until it holds more than
56 bits or meets a marker; after a marker it supplies zero bits. A stream cut short inside the
entropy-coded data therefore fails for want of bytes, even where the bits already held would finish
the image.

Coefficients are 16-bit values. A block is decoded in one of two ways:

* a first pass over a band decodes a DC difference (when the band starts at zero) and run-length
  coded AC values, each scaled up by `2^low`; an end-of-band code makes the following blocks of
  the scan skip the band;
* a refinement pass adds the bit `2^low`: to the DC value, or to the AC values already nonzero
  (one correction bit each) while placing new values of magnitude `2^low` among the zeros.

A sequential frame has one first pass over the whole band with `low = 0`.
-/
namespace Glitch.Jpeg

/-- The bit window of the entropy reader: `count` bits held at the top of a 64-bit `window`, and
the marker that ended the data, once met. -/
structure Bits where
  window : Nat
  count : Nat
  marker : Option Marker

abbrev ScanM := StateT Bits ReadM

def fill : ScanM Unit := go 10
where
  go : Nat → ScanM Unit
    | 0 => pure ()
    | fuel + 1 => do
      let s ← get
      if s.count > 56 then return
      let byte ← match s.marker with
        | some _ => pure 0
        | none => readByte
      if byte == 0xFF then
        let next ← readByte
        if next != 0 then
          let code ← skipFill next
          if code == 0 then throw (.malformed "FF 00 found where marker was expected")
          let m ← markerOf code
          set { s with marker := some m }
          go fuel
          return
      set { s with window := s.window + byte.toNat * Nat.pow 2 (56 - s.count), count := s.count + 8 }
      go fuel

def Bits.peek (s : Bits) (n : Nat) : Nat := s.window / Nat.pow 2 (64 - n)

def Bits.consume (s : Bits) (n : Nat) : Bits :=
  { s with window := s.window * Nat.pow 2 n % Nat.pow 2 64, count := s.count - n }

/-- The value of `n` raw bits with the sign convention of coefficients: below half the range, it
stands for a negative number. -/
def extend (v n : Nat) : Int :=
  if n = 0 then 0 else if v < Nat.pow 2 (n - 1) then (v : Int) - Nat.pow 2 n + 1 else v

def takeBits (n : Nat) : ScanM Nat := do
  if (← get).count < n then fill
  let s ← get
  set (s.consume n)
  pure (s.peek n)

def takeSymbol (t : DecodeTable) : ScanM UInt8 := do
  if (← get).count < 16 then fill
  let s ← get
  match t.lookup (s.peek 16) with
  | some (sym, l) =>
    set (s.consume l)
    pure sym
  | none => throw (.malformed "failed to decode huffman code")

def takeMarker : ScanM (Option Marker) := do
  fill
  let s ← get
  set { s with marker := none }
  pure s.marker

def takeRestart (expected : Nat) : ScanM Unit := do
  match ← takeMarker with
  | some (.restart n) =>
    if n ≠ expected then
      throw (.malformed ("found RST" ++ toString n ++ " where RST" ++ toString expected ++ " was expected"))
    set (⟨0, 0, none⟩ : Bits)
  | some m => throw (.malformed ("found marker " ++ m.name ++ " inside scan where RST" ++
      toString expected ++ " was expected"))
  | none => throw (.malformed ("no marker found where RST" ++ toString expected ++ " was expected"))

def passRestarts (m : Option Marker) : ReadM (Option Marker) := do
  go m ((← remaining) + 1)
where
  go : Option Marker → Nat → ReadM (Option Marker)
    | m, 0 => pure m
    | some (.restart _), fuel + 1 => do
      let c ← get
      match readMarker.run c with
      | .ok (m, c') => set c'; go (some m) fuel
      | .error _ => pure none
    | m, _ + 1 => pure m

def scaleUp (v : Int) (low : Nat) : Int := wrap16 (v * Nat.pow 2 low)

def takeBandRun (r : Nat) : ScanM Nat := do
  let extra ← if r > 0 then takeBits r else pure 0
  pure (Nat.pow 2 r - 1 + extra)

/-! ## First passes -/

/-- The AC coefficients of a first pass from zigzag position `index` up to `stop`, and the count of
following blocks that an end-of-band run skips. A code of at most eight bits whose value bits fit in
the same eight is taken in one step, after topping up only a nearly empty window. -/
def readAc (ac : DecodeTable) (stop low : Nat) : Nat → Nat → Array Int → ScanM (Array Int × Nat)
  | 0, _, coef => pure (coef, 0)
  | fuel + 1, index, coef => do
    if index ≥ stop then return (coef, 0)
    if (← get).count < 8 then fill
    let s ← get
    let short := match ac.lookup (s.peek 16) with
      | some (sym, l) =>
        let size := sym.toNat % 16
        if size > 0 ∧ l ≤ 8 ∧ l + size ≤ 8 then some (sym.toNat / 16, size, l) else none
      | none => none
    match short with
    | some (run, size, l) =>
      let v := extend (s.peek (l + size) % Nat.pow 2 size) size
      set (s.consume (l + size))
      let index := index + run
      if index ≥ stop then return (coef, 0)
      readAc ac stop low fuel (index + 1) (coef.set! (zigzag.getD index 0) (scaleUp v low))
    | none =>
      let sym ← takeSymbol ac
      let run := sym.toNat / 16
      let size := sym.toNat % 16
      if size = 0 then
        if run = 15 then readAc ac stop low fuel (index + 16) coef
        else pure (coef, ← takeBandRun run)
      else
        let index := index + run
        if index ≥ stop then return (coef, 0)
        let v ← takeBits size
        readAc ac stop low fuel (index + 1) (coef.set! (zigzag.getD index 0) (scaleUp (extend v size) low))

/-- A first pass over one block for the band `[start, stop)`: the DC difference added to the
prediction when the band starts at zero, then the AC values, unless an end-of-band run is still
skipping blocks. Returns the block, the new prediction and the run left. -/
def readBlock (dc ac : DecodeTable) (start stop low : Nat) (coef : Array Int) (prediction : Int)
    (eobRun : Nat) : ScanM (Array Int × Int × Nat) := do
  let (coef, prediction) ← if start = 0 then do
      let sym := (← takeSymbol dc).toNat
      let diff ← if sym = 0 then pure 0
        else if sym ≤ 11 then do pure (extend (← takeBits sym) sym)
        else throw (.malformed "invalid DC difference magnitude category")
      let p := wrap16 (prediction + diff)
      pure (coef.set! 0 (scaleUp p low), p)
    else pure (coef, prediction)
  let index := max start 1
  if index < stop then
    if eobRun > 0 then return (coef, prediction, eobRun - 1)
    let (coef, eob) ← readAc ac stop low 65 index coef
    pure (coef, prediction, eob)
  else pure (coef, prediction, eobRun)

/-! ## Refinement passes -/

def hasBit (c : Int) (bit : Nat) : Bool := (c % 65536).toNat / bit % 2 == 1

/-- Over the given zigzag positions, give each nonzero coefficient its correction bit, moving it
away from zero by `bit` when the bit is one and not yet set; stop at the zero that follows `zeros`
other zeros and return its position, or `last` when the positions run out first. -/
def refineNonZeroes (bit : Nat) (last : Nat) : List Nat → Nat → Array Int → ScanM (Array Int × Nat)
  | [], _, coef => pure (coef, last)
  | i :: rest, zeros, coef => do
    let k := zigzag.getD i 0
    let c := coef.getD k 0
    if c = 0 then
      if zeros = 0 then return (coef, i)
      refineNonZeroes bit last rest (zeros - 1) coef
    else
      let b ← takeBits 1
      if b = 1 ∧ !hasBit c bit then
        let c' := if c > 0 then c + bit else c - bit
        if c' > 32767 ∨ c' < -32768 then throw (.malformed "Coefficient overflow")
        refineNonZeroes bit last rest zeros (coef.set! k c')
      else refineNonZeroes bit last rest zeros coef

/-- The AC refinement of a block from zigzag position `index`: each code gives a run of zeros to
pass (refining the nonzero values on the way) and a new value of magnitude `2^low`, or ends the
band for this block and a run of following ones. -/
def refineBand (ac : DecodeTable) (stop bit : Nat) : Nat → Nat → Array Int → ScanM (Array Int × Nat)
  | 0, _, coef => pure (coef, 0)
  | fuel + 1, index, coef => do
    if index ≥ stop then return (coef, 0)
    let sym ← takeSymbol ac
    let r := sym.toNat / 16
    let s := sym.toNat % 16
    let (zeros, value, eob) ← match s with
      | 0 => if r = 15 then pure (15, (0 : Int), 0) else do pure (64, (0 : Int), ← takeBandRun r)
      | 1 => do pure (r, if (← takeBits 1) = 1 then (bit : Int) else -(bit : Int), 0)
      | _ => throw (.malformed "unexpected huffman code")
    let (coef, index) ← refineNonZeroes bit (stop - 1) ((List.range stop).drop index) zeros coef
    let coef := if value ≠ 0 then coef.set! (zigzag.getD index 0) value else coef
    if zeros = 64 then return (coef, eob)
    refineBand ac stop bit fuel (index + 1) coef

/-- A refinement pass over one block for the band `[start, stop)` at bit `2^low`: one bit for the
DC value, or the AC refinement, where a pending end-of-band run still corrects the nonzero values.
Returns the block and the run left. -/
def refineBlock (ac : DecodeTable) (start stop low : Nat) (coef : Array Int) (eobRun : Nat) :
    ScanM (Array Int × Nat) := do
  let bit := Nat.pow 2 low
  if start = 0 then
    let b ← takeBits 1
    let c := coef.getD 0 0
    pure (if b = 1 ∧ !hasBit c bit then coef.set! 0 (c + bit) else coef, eobRun)
  else if eobRun > 0 then
    let (coef, _) ← refineNonZeroes bit (stop - 1) ((List.range stop).drop start) 64 coef
    pure (coef, eobRun - 1)
  else refineBand ac stop bit 65 start coef

end Glitch.Jpeg
