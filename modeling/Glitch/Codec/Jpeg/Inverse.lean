/-!
The inverse transform of JPEG blocks as eight 16-bit lanes compute it: products keep the rounded
high half (`(a * b + 2^14) >> 15`), sums saturate, and the result is rounded to bytes around 128.
A block of zero coefficients gives 128 everywhere.
-/
namespace Glitch.Jpeg

def wrap16 (x : Int) : Int := (x + 32768) % 65536 - 32768

def sat16 (x : Int) : Int := max (-32768) (min 32767 x)

/-- Rounded high half of a 16-bit product: `(a * b + 2^14) >> 15`, wrapped to 16 bits. -/
def mulRound (a b : Int) : Int := wrap16 ((a * b / Nat.pow 2 14 + 1) / 2)

def idct8 (d : Array Int) : Array Int :=
  let g (i : Nat) := d.getD i 0
  let p1 := mulRound (sat16 (g 2 + g 6)) 17734
  let t2 := sat16 (sat16 (p1 - g 6) - mulRound (g 6) 27779)
  let t3 := sat16 (p1 + mulRound (g 2) 25079)
  let t0 := sat16 (g 0 + g 4)
  let t1 := sat16 (g 0 - g 4)
  let x0 := sat16 (t0 + t3)
  let x3 := sat16 (t0 - t3)
  let x1 := sat16 (t1 + t2)
  let x2 := sat16 (t1 - t2)
  let o7 := g 7
  let o5 := g 5
  let o3 := g 3
  let o1 := g 1
  let q3 := sat16 (o7 + o3)
  let q4 := sat16 (o5 + o1)
  let q1 := sat16 (o7 + o1)
  let q2 := sat16 (o5 + o3)
  let q5 := sat16 (q3 + q4)
  let q5 := sat16 (q5 + mulRound q5 5763)
  let u0 := mulRound o7 9786
  let u1 := sat16 (sat16 (o5 + o5) + mulRound o5 1741)
  let u2 := sat16 (sat16 (o3 + sat16 (o3 + o3)) + mulRound o3 2383)
  let u3 := sat16 (o1 + mulRound o1 16427)
  let r1 := sat16 (q5 - mulRound q1 29490)
  let r2 := sat16 (sat16 (sat16 (q5 - q2) - q2) - mulRound q2 18446)
  let r3 := sat16 (mulRound q3 (-31509) - q3)
  let r4 := mulRound q4 (-12785)
  let u3 := sat16 (sat16 (r1 + r4) + u3)
  let u2 := sat16 (sat16 (r2 + r3) + u2)
  let u1 := sat16 (sat16 (r2 + r4) + u1)
  let u0 := sat16 (sat16 (r1 + r3) + u0)
  #[sat16 (x0 + u3), sat16 (x1 + u2), sat16 (x2 + u1), sat16 (x3 + u0),
    sat16 (x3 - u0), sat16 (x2 - u1), sat16 (x1 - u2), sat16 (x0 - u3)]

/-- The 8×8 samples of a block: coefficients times the table in 16-bit lanes, scaled by eight,
transformed down the columns and then along the rows, and rounded to bytes around 128. -/
def inverseBlock (coef : Array Int) (table : Array Nat) : Array Nat :=
  let scaled := Array.ofFn (fun (i : Fin 64) => wrap16 (wrap16 (coef.getD i.val 0 * table.getD i.val 0) * 8))
  let cols := (List.range 8).map fun c => idct8 (Array.ofFn (fun (r : Fin 8) => scaled.getD (r.val * 8 + c) 0))
  let colsA := cols.toArray
  let rows := Array.ofFn (fun (r : Fin 8) => idct8 (Array.ofFn (fun (c : Fin 8) => (colsA.getD c.val #[]).getD r.val 0)))
  Array.ofFn (fun (i : Fin 64) =>
    let v := (rows.getD (i.val / 8) #[]).getD (i.val % 8) 0
    let s := sat16 (v + 128 * 64 + 32) / 64
    (max 0 (min 255 s)).toNat)

end Glitch.Jpeg
