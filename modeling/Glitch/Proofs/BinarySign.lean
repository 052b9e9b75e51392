import Mathlib
import Glitch.Float.Binary
/-!
Signs and order of binary32 values, and byte values at the ends of a blend. `compare?` reads a value only through its `kind`, and the
sign of a value (NaN apart) already decides the comparisons the container makes: against `0`
and against `1`. Comparing is antisymmetric. Rounding a nonzero integer keeps its sign, and a
positive integer rounds to at least `1`. So clamping into `[0, 1]` keeps a value at most `0`
at most `0`, and leaves a value at least `1` neither at most `0` nor below `1`.
-/
namespace Glitch.Binary

variable {fmt : BinaryFormat}

/-- The sign of what a pattern denotes, NaN counted as `0`. -/
def Kind.sign : Kind → Int
  | .nan => 0
  | .inf a => if a then -1 else 1
  | .finite a m _ => if m = 0 then 0 else if a then -1 else 1

theorem Kind.sign_bounds (k : Kind) : -1 ≤ k.sign ∧ k.sign ≤ 1 := by
  cases k with
  | nan => decide
  | inf a => cases a <;> decide
  | finite a m e =>
    simp only [Kind.sign]
    split_ifs <;> omega

theorem scaledAt_sign (a : Bool) (m : Nat) (e g : Int) :
    (scaledAt a m e g).sign = (Kind.finite a m e).sign := by
  have hs : ((m <<< (e - g).toNat : Nat) : Int).sign = if m = 0 then 0 else 1 := by
    rw [Nat.shiftLeft_eq]
    split_ifs with hm
    · simp [hm]
    · exact Int.sign_eq_one_of_pos
        (Int.natCast_pos.2 (Nat.mul_pos (Nat.pos_of_ne_zero hm) (Nat.two_pow_pos _)))
  unfold scaledAt Kind.sign
  cases a <;> by_cases hm : m = 0 <;> simp_all

theorem lt_of_sign_lt {u v : Int} (h : u.sign < v.sign) : u < v := by
  rcases Int.lt_trichotomy u 0 with hu | rfl | hu <;>
    rcases Int.lt_trichotomy v 0 with hv | rfl | hv <;>
    simp_all [Int.sign_eq_neg_one_of_neg, Int.sign_eq_one_of_pos]
  omega

/-- Comparing is antisymmetric. -/
theorem compare?_swap (x y : Binary fmt) : x.compare? y = (y.compare? x).map Ordering.swap := by
  unfold compare?
  cases x.kind with
  | nan => cases y.kind <;> rfl
  | inf a => cases y.kind <;> cases a <;> simp <;> split <;> simp_all
  | finite a m e =>
    cases y.kind with
    | nan => rfl
    | inf b => cases b <;> rfl
    | finite b n f =>
      simp only [Option.map_some]
      rw [min_comm f e]
      exact congrArg some Std.OrientedOrd.eq_swap

/-- Values of different signs compare by their signs. -/
theorem compare?_eq_lt_of_sign {x y : Binary fmt} (hx : x.kind ≠ .nan) (hy : y.kind ≠ .nan)
    (h : x.kind.sign < y.kind.sign) : x.compare? y = some .lt := by
  unfold compare?
  revert hx hy h
  cases x.kind with
  | nan => simp
  | inf a =>
    cases y.kind with
    | nan => simp
    | inf b => cases a <;> cases b <;> simp [Kind.sign]
    | finite b n f =>
      intro _ _ h
      cases a
      · -- `+∞` has the greatest sign
        have := (Kind.sign_bounds (.finite b n f)).2
        rw [show (Kind.inf false).sign = 1 from rfl] at h
        omega
      · rfl
  | finite a m e =>
    cases y.kind with
    | nan => simp
    | inf b =>
      intro _ _ h
      cases b
      · rfl
      · have := (Kind.sign_bounds (.finite a m e)).1
        rw [show (Kind.inf true).sign = -1 from rfl] at h
        omega
    | finite b n f =>
      intro _ _ h
      simp only [Option.some.injEq, Int.compare_eq_lt]
      apply lt_of_sign_lt
      rw [scaledAt_sign, scaledAt_sign]
      exact h

/-! ## Patterns put together from fields -/

theorem negBit_pack (neg : Bool) {e m : Nat} (he : e < 256) (hm : m < 2 ^ 23) :
    (pack neg e m : F32).negBit = neg := by
  unfold negBit pack
  cases neg <;> simp [BinaryFormat.single, BinaryFormat.signBit] at hm ⊢ <;> omega

theorem expField_pack (neg : Bool) {e m : Nat} (he : e < 256) (hm : m < 2 ^ 23) :
    (pack neg e m : F32).expField = e := by
  unfold expField pack
  cases neg <;> simp [BinaryFormat.single, BinaryFormat.signBit] at hm ⊢ <;> omega

theorem fracField_pack (neg : Bool) {e m : Nat} (hm : m < 2 ^ 23) :
    (pack neg e m : F32).fracField = m := by
  unfold fracField pack
  cases neg <;> simp [BinaryFormat.single, BinaryFormat.signBit] at hm ⊢ <;> omega

theorem kind_pack {neg : Bool} {e m : Nat} (he0 : 0 < e) (he : e < 255) (hm : m < 2 ^ 23) :
    (pack neg e m : F32).kind = .finite neg (m + 2 ^ 23) (e - 150) := by
  unfold kind
  rw [expField_pack neg (by omega) hm, fracField_pack neg hm, negBit_pack neg (by omega) hm]
  have he255 : (e == BinaryFormat.single.topField) = false := by
    simp [BinaryFormat.single, BinaryFormat.topField]
    omega
  have he0' : (e == 0) = false := by simpa using Nat.pos_iff_ne_zero.1 he0
  simp only [he255, he0', Bool.false_eq_true, if_false]
  congr 1
  simp [BinaryFormat.single, BinaryFormat.quantumMin, BinaryFormat.bias]
  omega

theorem kind_inf (neg : Bool) : (inf neg : F32).kind = .inf neg := by
  cases neg <;> rfl

/-- Placing a significand of the normal range, or one that rounded up to `2 ^ 24`: an infinity
past the largest exponent, otherwise a normal value of the same sign and no smaller exponent. -/
theorem place_kind (neg : Bool) {mant : Nat} {q : Int} (h1 : 2 ^ 23 ≤ mant) (h2 : mant ≤ 2 ^ 24)
    (hq : -150 < q) :
    (place neg mant q : F32).kind = .inf neg ∨
      ∃ M Q, (place neg mant q : F32).kind = .finite neg M Q ∧ 2 ^ 23 ≤ M ∧ q ≤ Q := by
  -- a significand of `2 ^ 24` is first carried into the exponent
  obtain ⟨mant', q', hmant, h1', h2', hqq, hq'⟩ : ∃ mant' q',
      (if mant = Nat.pow 2 BinaryFormat.single.precision
        then (Nat.pow 2 (BinaryFormat.single.precision - 1), q + 1) else (mant, q)) = (mant', q') ∧
      2 ^ 23 ≤ mant' ∧ mant' < 2 ^ 24 ∧ q ≤ q' ∧ q' ≤ q + 1 := by
    by_cases hc : mant = 2 ^ 24
    · refine ⟨2 ^ 23, q + 1, ?_, le_rfl, by norm_num, by omega, le_rfl⟩
      simp [hc, BinaryFormat.single, BinaryFormat.precision]
    · refine ⟨mant, q, ?_, h1, by omega, le_rfl, by omega⟩
      rw [if_neg (by simpa [BinaryFormat.single, BinaryFormat.precision] using hc)]
  unfold place
  simp only [hmant]
  have hnot : ¬ mant' < Nat.pow 2 (BinaryFormat.single.precision - 1) := by
    simp [BinaryFormat.single, BinaryFormat.precision]
    omega
  rw [if_neg hnot]
  have he : ((q' - BinaryFormat.single.quantumMin + 1).toNat : Int) = q' + 150 := by
    simp [BinaryFormat.single, BinaryFormat.quantumMin, BinaryFormat.bias]
    omega
  split
  · exact .inl (kind_inf neg)
  · rename_i htop
    simp [BinaryFormat.single, BinaryFormat.topField] at htop
    refine .inr ⟨mant', q', ?_, h1', hqq⟩
    rw [kind_pack (by omega) (by simpa [BinaryFormat.single, BinaryFormat.topField] using htop)
      (by simp [BinaryFormat.single, BinaryFormat.precision]; omega)]
    rw [show Nat.pow 2 (BinaryFormat.single.precision - 1) = 2 ^ 23 from rfl,
      Nat.sub_add_cancel h1', he]
    congr 1
    omega

/-- An integer of at most 24 bits, shifted up to bit 23, fills the significand of a normal
value. -/
theorem normal_of_shift_up {n : Nat} (hn : 0 < n) (hL : n.log2 ≤ 23) :
    2 ^ 23 ≤ n * 2 ^ (23 - n.log2) ∧ n * 2 ^ (23 - n.log2) < 2 ^ 24 := by
  have hlo : 2 ^ n.log2 ≤ n := Nat.log2_self_le (Nat.pos_iff_ne_zero.1 hn)
  have hhi : n < 2 ^ (n.log2 + 1) := Nat.lt_log2_self
  have hsplit : 2 ^ 23 = 2 ^ n.log2 * 2 ^ (23 - n.log2) := by
    rw [← Nat.pow_add, Nat.add_sub_cancel' hL]
  have htop : 2 ^ 24 = 2 ^ (n.log2 + 1) * 2 ^ (23 - n.log2) := by
    rw [← Nat.pow_add]
    congr 1
    omega
  constructor
  · rw [hsplit]
    exact Nat.mul_le_mul_right _ hlo
  · rw [htop]
    exact Nat.mul_lt_mul_of_pos_right hhi (Nat.two_pow_pos _)

/-- An integer of more than 24 bits, its low bits shifted out, keeps the 24 bits of a normal
significand. -/
theorem normal_of_shift_down {n : Nat} (hL : 23 < n.log2) :
    2 ^ 23 ≤ n >>> (n.log2 - 23) ∧ n >>> (n.log2 - 23) < 2 ^ 24 := by
  have hlo : 2 ^ n.log2 ≤ n := Nat.log2_self_le (by rintro rfl; simp at hL)
  have hhi : n < 2 ^ (n.log2 + 1) := Nat.lt_log2_self
  constructor
  · rw [Nat.shiftRight_eq_div_pow, Nat.le_div_iff_mul_le (Nat.two_pow_pos _), ← Nat.pow_add,
      Nat.add_sub_cancel' hL.le]
    exact hlo
  · rw [Nat.shiftRight_eq_div_pow, Nat.div_lt_iff_lt_mul (Nat.two_pow_pos _), ← Nat.pow_add]
    convert hhi using 2
    omega

/-- A nonzero integer rounds to an infinity of its sign or to a normal value of its sign whose
exponent is at least `-23`, that is, of magnitude at least `1`. -/
theorem round_kind (neg : Bool) {n : Nat} (hn : 0 < n) :
    (round neg n 0 false : F32).kind = .inf neg ∨
      ∃ M Q, (round neg n 0 false : F32).kind = .finite neg M Q ∧ 2 ^ 23 ≤ M ∧ -23 ≤ Q := by
  have hplace : ∀ mant (q : Int), 2 ^ 23 ≤ mant → mant ≤ 2 ^ 24 → -23 ≤ q →
      (place neg mant q : F32).kind = .inf neg ∨
        ∃ M Q, (place neg mant q : F32).kind = .finite neg M Q ∧ 2 ^ 23 ≤ M ∧ -23 ≤ Q :=
    fun mant q h1 h2 hq => (place_kind neg h1 h2 (by omega)).imp_right
      fun ⟨M, Q, hk, hM, hQ⟩ => ⟨M, Q, hk, hM, by omega⟩
  have hq : Max.max (0 + ((n.log2 + 1 : Nat) : Int) - (BinaryFormat.single.precision : Int))
      BinaryFormat.single.quantumMin = n.log2 - 23 := by
    simp [BinaryFormat.single, BinaryFormat.precision, BinaryFormat.quantumMin, BinaryFormat.bias]
    omega
  unfold round
  rw [if_neg (Nat.pos_iff_ne_zero.1 hn)]
  dsimp only
  rw [hq]
  split
  · -- at most 24 bits: the integer is shifted up into the significand, exactly
    have hL : n.log2 ≤ 23 := by omega
    have hshift : n <<< (0 - ((n.log2 : Int) - 23)).toNat = n * 2 ^ (23 - n.log2) := by
      rw [Nat.shiftLeft_eq]
      congr 2
      omega
    obtain ⟨h1, h2⟩ := normal_of_shift_up hn hL
    rw [hshift]
    exact hplace _ _ h1 h2.le (by omega)
  · -- more than 24 bits: the low bits are shifted out and the rest rounded
    have hL : 23 < n.log2 := by omega
    have hsh : ((n.log2 : Int) - 23 - 0).toNat = n.log2 - 23 := by omega
    obtain ⟨h1, h2⟩ := normal_of_shift_down hL
    rw [hsh]
    apply hplace _ _ ?_ ?_ (by omega)
    · split <;> omega
    · split <;> omega

/-! ## Comparing with `0` and `1` -/

theorem Kind.finite_ne_nan {a : Bool} {m : Nat} {e : Int} : Kind.finite a m e ≠ .nan := by
  intro h
  cases h

theorem Kind.inf_ne_nan {a : Bool} : Kind.inf a ≠ .nan := by
  intro h
  cases h

theorem le_iff_compare? {x y : Binary fmt} :
    x ≤ y ↔ x.compare? y = some .lt ∨ x.compare? y = some .eq := by
  show x.le y = true ↔ _
  simp [le]

theorem lt_iff_compare? {x y : Binary fmt} : x < y ↔ x.compare? y = some .lt := by
  show x.lt y = true ↔ _
  simp [lt]

theorem compare?_nan_left {x : Binary fmt} (y : Binary fmt) (h : x.kind = .nan) :
    x.compare? y = none := by
  unfold compare?
  rw [h]

theorem compare?_eq_gt_of_sign {x y : Binary fmt} (hx : x.kind ≠ .nan) (hy : y.kind ≠ .nan)
    (h : y.kind.sign < x.kind.sign) : x.compare? y = some .gt := by
  rw [compare?_swap, compare?_eq_lt_of_sign hy hx h]
  rfl

theorem kind_zero : (0 : F32).kind = .finite false 0 (-149) := rfl

theorem kind_one : (1 : F32).kind = .finite false (2 ^ 23) (-23) := rfl

theorem sign_kind_zero : (0 : F32).kind.sign = 0 := rfl

theorem sign_kind_one : (1 : F32).kind.sign = 1 := rfl

/-- A value at most `0` is a number of sign `-1` or `0`. -/
theorem sign_of_le_zero {x : F32} (h : x ≤ 0) : x.kind ≠ .nan ∧ x.kind.sign ≤ 0 := by
  rw [le_iff_compare?] at h
  have hx : x.kind ≠ .nan := fun hn => by simp [compare?_nan_left 0 hn] at h
  refine ⟨hx, not_lt.1 fun hs => ?_⟩
  have hgt := compare?_eq_gt_of_sign hx (by rw [kind_zero]; exact Kind.finite_ne_nan)
    (by rw [sign_kind_zero]; omega)
  simp [hgt] at h

/-- A value at least `1` is a number of sign `1`. -/
theorem sign_of_one_le {x : F32} (h : 1 ≤ x) : x.kind ≠ .nan ∧ 0 < x.kind.sign := by
  rw [le_iff_compare?] at h
  have hx : x.kind ≠ .nan := by
    intro hn
    rw [compare?_swap, compare?_nan_left 1 hn] at h
    simp at h
  refine ⟨hx, not_le.1 fun hs => ?_⟩
  have hgt := compare?_eq_gt_of_sign (by rw [kind_one]; exact Kind.finite_ne_nan) hx
    (by rw [sign_kind_one]; omega)
  simp [hgt] at h

/-- Clamping into `[0, 1]` keeps a value at most `0` at most `0`. -/
theorem le_zero_clamp_unit {x : F32} (h : x ≤ 0) : x.clamp 0 1 ≤ 0 := by
  obtain ⟨hx, hs⟩ := sign_of_le_zero h
  unfold clamp
  by_cases hneg : x < 0
  · rw [if_pos hneg]
    decide
  · rw [if_neg hneg]
    have h1 : ¬ (1 : F32) < x := by
      rw [lt_iff_compare?, compare?_eq_gt_of_sign (by rw [kind_one]; exact Kind.finite_ne_nan) hx
        (by rw [sign_kind_one]; omega)]
      simp
    rw [if_neg h1]
    exact h

/-- Clamping into `[0, 1]` leaves a value at least `1` neither at most `0` nor below `1`. -/
theorem clamp_unit_of_one_le {x : F32} (h : 1 ≤ x) : ¬ x.clamp 0 1 ≤ 0 ∧ ¬ x.clamp 0 1 < 1 := by
  obtain ⟨hx, hs⟩ := sign_of_one_le h
  have hx0 : x.compare? 0 = some .gt :=
    compare?_eq_gt_of_sign hx (by rw [kind_zero]; exact Kind.finite_ne_nan)
      (by rw [sign_kind_zero]; omega)
  have hneg : ¬ x < 0 := by simp [lt_iff_compare?, hx0]
  unfold clamp
  rw [if_neg hneg]
  by_cases h1 : (1 : F32) < x
  · rw [if_pos h1]
    decide
  · -- then `x` equals `1` as a value
    rw [if_neg h1]
    have heq : (1 : F32).compare? x = some .eq := by
      rw [lt_iff_compare?] at h1
      rw [le_iff_compare?] at h
      exact h.resolve_left h1
    refine ⟨by simp [le_iff_compare?, hx0], ?_⟩
    rw [lt_iff_compare?, compare?_swap, heq]
    simp

theorem scaledAt_false (m : Nat) (e g : Int) :
    scaledAt false m e g = ((m * 2 ^ (e - g).toNat : Nat) : Int) := by
  simp [scaledAt, Nat.shiftLeft_eq]

/-- Rounding keeps the sign of an integer at most `0`. -/
theorem ofInt_le_zero {i : Int} (h : i ≤ 0) : (ofInt i : F32) ≤ 0 := by
  rcases h.lt_or_eq with hlt | rfl
  · have hn : 0 < i.natAbs := Int.natAbs_pos.2 (by omega)
    have hr : (ofInt i : F32) = round true i.natAbs 0 false := by simp [ofInt, hlt]
    rw [le_iff_compare?, hr]
    left
    rcases round_kind true hn with hk | ⟨M, Q, hk, hM, -⟩
    · exact compare?_eq_lt_of_sign (by rw [hk]; exact Kind.inf_ne_nan)
        (by rw [kind_zero]; exact Kind.finite_ne_nan) (by rw [hk, kind_zero]; decide)
    · have hM0 : M ≠ 0 := by omega
      exact compare?_eq_lt_of_sign (by rw [hk]; exact Kind.finite_ne_nan)
        (by rw [kind_zero]; exact Kind.finite_ne_nan) (by rw [hk, kind_zero]; simp [Kind.sign, hM0])
  · decide

/-- A positive integer rounds to at least `1`. -/
theorem one_le_ofInt {i : Int} (h : 1 ≤ i) : (1 : F32) ≤ ofInt i := by
  have hn : 0 < i.natAbs := Int.natAbs_pos.2 (by omega)
  have hr : (ofInt i : F32) = round false i.natAbs 0 false := by
    simp [ofInt, show ¬ i < 0 by omega]
  rw [le_iff_compare?, hr]
  rcases round_kind false hn with hk | ⟨M, Q, hk, hM, hQ⟩
  · left
    unfold compare?
    rw [kind_one, hk]
    rfl
  · -- at the common scale `2 ^ -23`, `1` is `2 ^ 23` and the value is at least that
    unfold compare?
    rw [kind_one, hk]
    simp only [min_eq_left hQ, scaledAt_false, sub_self, Int.toNat_zero, pow_zero, mul_one,
      Option.some.injEq]
    have hle : (2 ^ 23 : Nat) ≤ M * 2 ^ (Q - -23).toNat :=
      hM.trans (Nat.le_mul_of_pos_right _ (Nat.two_pow_pos _))
    rcases hle.lt_or_eq with hlt | heq
    · exact .inl (Int.compare_eq_lt.2 (by exact_mod_cast hlt))
    · exact .inr (Int.compare_eq_eq.2 (by exact_mod_cast heq))

/-! ## Byte values

What a blend of two bytes needs at its ends: a byte value times `1`, `0` and `-0`, plus `±0`,
and back to a byte through the clamp into `[0, 255]`. Each is checked on all 256 bytes. -/

theorem ofUInt8_mul_one (b : UInt8) : (ofUInt8 b : F32) * 1 = ofUInt8 b := by
  revert b
  decide +kernel

theorem ofUInt8_mul_zero (b : UInt8) : (ofUInt8 b : F32) * 0 = 0 := by
  revert b
  decide +kernel

theorem ofUInt8_mul_negZero (b : UInt8) : (ofUInt8 b : F32) * (-0) = -0 := by
  revert b
  decide +kernel

theorem ofUInt8_add_zero (b : UInt8) : (ofUInt8 b : F32) + 0 = ofUInt8 b := by
  revert b
  decide +kernel

theorem ofUInt8_add_negZero (b : UInt8) : (ofUInt8 b : F32) + (-0) = ofUInt8 b := by
  revert b
  decide +kernel

theorem zero_add_ofUInt8 (b : UInt8) : (0 : F32) + ofUInt8 b = ofUInt8 b := by
  revert b
  decide +kernel

theorem toUInt8_clamp_ofUInt8 (b : UInt8) : ((ofUInt8 b : F32).clamp 0 255).toUInt8 = b := by
  revert b
  decide +kernel

end Glitch.Binary
