/-!
The forward discrete cosine transform of an 8×8 block in scaled integer arithmetic: the accurate
integer method of the IJG library (release 9 arrangement) with 13-bit constants and two extra
bits kept between the row and column passes. The output is eight times the true transform; the
level shift of 128 is applied in the row pass.

Each rotated output adds half of its final divisor before an arithmetic shift, except that the
odd outputs of the column pass add the row pass's half (`2^10`) instead of their own (`2^14`);
this is the rounding of the writer whose files are reproduced here.
-/
namespace Glitch.Jpeg

def passBits : Nat := 2

def constBits : Nat := 13

/-- One 8-point transform of `s0..s7`, row pass (`row`) or column pass. -/
def transform8 (s : Array Int) (row : Bool) : Array Int :=
  let g (i : Nat) : Int := s.getD i 0
  let shift := if row then constBits - passBits else constBits + passBits
  let div (x : Int) : Int := x / Nat.pow 2 shift
  let t0 := g 0 + g 7
  let t1 := g 1 + g 6
  let t2 := g 2 + g 5
  let t3 := g 3 + g 4
  let t10 := if row then t0 + t3 else t0 + t3 + Nat.pow 2 (passBits - 1)
  let t12 := t0 - t3
  let t11 := t1 + t2
  let t13 := t1 - t2
  let d0 := g 0 - g 7
  let d1 := g 1 - g 6
  let d2 := g 2 - g 5
  let d3 := g 3 - g 4
  let out0 := if row then (t10 + t11 - 8 * 128) * Nat.pow 2 passBits else (t10 + t11) / Nat.pow 2 passBits
  let out4 := if row then (t10 - t11) * Nat.pow 2 passBits else (t10 - t11) / Nat.pow 2 passBits
  let z1 := (t12 + t13) * 4433 + Nat.pow 2 (shift - 1)
  let out2 := div (z1 + t12 * 6270)
  let out6 := div (z1 - t13 * 15137)
  let o12 := d0 + d2
  let o13 := d1 + d3
  let z1 := (o12 + o13) * 9633 + Nat.pow 2 (constBits - passBits - 1)
  let o12 := o12 * (-3196) + z1
  let o13 := o13 * (-16069) + z1
  let z1 := (d0 + d3) * (-7373)
  let e0 := d0 * 12299 + z1 + o12
  let e3 := d3 * 2446 + z1 + o13
  let z1 := (d1 + d2) * (-20995)
  let e1 := d1 * 25172 + z1 + o13
  let e2 := d2 * 16819 + z1 + o12
  #[out0, div e0, out2, div e1, out4, div e2, out6, div e3]

/-- The forward transform of 64 samples (row-major), scaled by eight. -/
def fdct (samples : Array Nat) : Array Int :=
  let rows := (List.range 8).map fun y =>
    transform8 ((List.range 8).toArray.map fun x => (samples.getD (y * 8 + x) 0 : Int)) true
  let rowOut : Array Int := rows.toArray.flatten
  let cols := (List.range 8).map fun x =>
    transform8 ((List.range 8).toArray.map fun y => rowOut.getD (y * 8 + x) 0) false
  (List.range 64).toArray.map fun i => (cols.getD (i % 8) #[]).getD (i / 8) 0

end Glitch.Jpeg
