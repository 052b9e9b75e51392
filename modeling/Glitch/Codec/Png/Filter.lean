/-!
The row filters of PNG images.

A filter predicts each byte from the byte a pixel before (`a`), the byte above (`b`) and the byte
above that one (`c`), and stores the difference modulo 256; a byte before the row's start, and the
row above the first row of a pass, count as zeros. The predictors are none, `a`, `b`, the rounded
down mean of `a` and `b`, and Paeth's choice among the three.

Writing chooses a row's filter by trying Sub, Up, Average and Paeth in that order and keeping the
one whose bytes, read as signed, have the least sum of magnitudes; a later filter wins a tie.
-/
namespace Glitch.Png

/-- The Paeth predictor: whichever of `a`, `b` and `c` is nearest to `a + b - c`, preferring `a`
and then `b` in a tie. -/
def paeth (a b c : Nat) : Nat :=
  let p : Int := a + b - c
  let pa := (p - a).natAbs
  let pb := (p - b).natAbs
  let pc := (p - c).natAbs
  if pa ≤ pb && pa ≤ pc then a else if pb ≤ pc then b else c

/-- The prediction of filter `kind` from the byte before, the byte above and the byte above-before. -/
def predict (kind a b c : Nat) : Nat :=
  match kind with
  | 1 => a
  | 2 => b
  | 3 => (a + b) / 2
  | 4 => paeth a b c
  | _ => 0

def rowByte (row : ByteArray) (i : Nat) : Nat := (row.data.getD i 0).toNat

/-- Undo filter `kind` on a row, given the row above and the distance in bytes to the same byte of
the pixel before. -/
def unfilterRow (kind step : Nat) (prev cur : ByteArray) : ByteArray :=
  (List.range cur.size).foldl (fun (out : ByteArray) i =>
    let a := if step ≤ i then rowByte out (i - step) else 0
    let c := if step ≤ i then rowByte prev (i - step) else 0
    out.push ((rowByte cur i + predict kind a (rowByte prev i) c) % 256).toUInt8) ByteArray.empty

def filterRow (kind step : Nat) (prev cur : ByteArray) : ByteArray :=
  (List.range cur.size).foldl (fun (out : ByteArray) i =>
    let a := if step ≤ i then rowByte cur (i - step) else 0
    let c := if step ≤ i then rowByte prev (i - step) else 0
    out.push ((rowByte cur i + 256 - predict kind a (rowByte prev i) c) % 256).toUInt8) ByteArray.empty

def rowCost (row : ByteArray) : Nat :=
  row.foldl (fun acc x => acc + min x.toNat (256 - x.toNat)) 0

def chooseFilter (step : Nat) (prev cur : ByteArray) : Nat × ByteArray :=
  let tried := [1, 2, 3, 4].map fun k => (k, filterRow k step prev cur)
  tried.foldl (fun (best : Nat × ByteArray) t =>
    if rowCost t.2 ≤ rowCost best.2 then t else best) (tried.headD (1, ByteArray.empty))

end Glitch.Png
