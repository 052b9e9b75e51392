import Mathlib.Data.Int.ModEq
import Glitch.Proofs.ContainerMix
import Glitch.Effect.Kernel.ChannelShift
/-!
Channel shift as rotations of rows. Each colour channel of pixel `(x, y)` is read from column
`(x - o) mod width` of the same row, for that channel's offset `o`, and alpha stays; the early
return for zero offsets is the rotation by zero. Rotations compose by adding offsets, so two
shifts are the shift by the sums of their offsets modulo the width, and a shift is undone by the
shift by the negated offsets, which the clamp to `[-50, 50]` always lets the effect read.
-/
namespace Glitch

namespace Frame

theorem pixelAt_eq_pixel (f : Frame) {x y : Nat} (hx : x < f.width) (hy : y < f.height) :
    f.pixelAt x y = f.pixel (y * f.width + x) := by
  have hi := f.pixel_index_lt hx hy
  simp [pixelAt, get?, hx, hy, pixel_eq_getElem f hi, hi]

theorem div_mod_index {w x y : Nat} (hx : x < w) : (y * w + x) % w = x ∧ (y * w + x) / w = y := by
  constructor
  · rw [Nat.mul_comm, Nat.mul_add_mod]
    exact Nat.mod_eq_of_lt hx
  · rw [Nat.mul_comm, Nat.mul_add_div (by omega), Nat.div_eq_of_lt hx, Nat.add_zero]

theorem pixelAt_mapXY (g : Nat → Nat → Pixel → Pixel) (f : Frame) {x y : Nat} (hx : x < f.width)
    (hy : y < f.height) : (f.mapXY g).pixelAt x y = g x y (f.pixelAt x y) := by
  have hi := f.pixel_index_lt hx hy
  rw [pixelAt_eq_pixel (f.mapXY g) hx hy, pixelAt_eq_pixel f hx hy, pixel_eq_getElem f hi,
    pixel_eq_getElem _ (by simpa [mapXY] using hi)]
  obtain ⟨hmod, hdiv⟩ := div_mod_index (y := y) hx
  simp [mapXY, Array.getElem_mapIdx, hmod, hdiv]

theorem ext_pixelAt {f g : Frame} (hw : f.width = g.width) (hh : f.height = g.height)
    (h : ∀ x y, x < f.width → y < f.height → f.pixelAt x y = g.pixelAt x y) : f = g := by
  refine eq_of_pixels hw hh (Array.ext (by rw [f.size_eq, g.size_eq, hw, hh]) fun i hi hi' => ?_)
  have hpos : 0 < f.width := by
    rcases Nat.eq_zero_or_pos f.width with h0 | h0
    · rw [f.size_eq, h0, Nat.zero_mul] at hi
      omega
    · exact h0
  have hx : i % f.width < f.width := Nat.mod_lt _ hpos
  have hy : i / f.width < f.height := by
    rw [Nat.div_lt_iff_lt_mul hpos, Nat.mul_comm, ← f.size_eq]
    exact hi
  have hi_eq : i = i / f.width * f.width + i % f.width := (Nat.div_add_mod' i f.width).symm
  have := h _ _ hx hy
  rw [pixelAt_eq_pixel _ hx hy, pixelAt_eq_pixel _ (hw ▸ hx) (hh ▸ hy), ← hw, ← hi_eq,
    pixel_eq_getElem f hi, pixel_eq_getElem g hi'] at this
  exact this

end Frame

namespace ChannelShift

variable {w : Nat}

theorem source_lt (hw : 0 < w) (o : Int) (x : Nat) : source w o x < w := by
  unfold source
  have h0 : 0 ≤ ((x : Int) - o) % (w : Int) := Int.emod_nonneg _ (by omega)
  have h1 : ((x : Int) - o) % (w : Int) < w := Int.emod_lt_of_pos _ (by omega)
  omega

/-- The shifted frame read with total reads: what `shift` answers, since each of its reads lands
inside the frame. -/
def run (offs : Int × Int × Int) (f : Frame) : Frame :=
  let (a, b, c) := offs
  if f.width = 0 || (a = 0 && b = 0 && c = 0) then f
  else f.mapXY fun x y p =>
    ⟨(f.pixelAt (source f.width a x) y).r, (f.pixelAt (source f.width b x) y).g,
     (f.pixelAt (source f.width c x) y).b, p.a⟩

/-- The shift never reads outside the frame: every source column lies in the row. -/
theorem shift_eq (o : Int × Int × Int) (f : Frame) : shift o f = some (run o f) := by
  obtain ⟨a, b, c⟩ := o
  unfold shift run
  dsimp only
  split
  · rfl
  · rename_i h
    have hw : 0 < f.width := Nat.pos_of_ne_zero fun h0 => by simp [h0] at h
    refine Frame.mapXY?_eq_some fun x y p _ hy => ?_
    rw [f.get?_of_lt (source_lt hw a x) hy, f.get?_of_lt (source_lt hw b x) hy,
      f.get?_of_lt (source_lt hw c x) hy]
    rfl

theorem cast_source (hw : 0 < w) (o : Int) (x : Nat) : (source w o x : Int) = ((x : Int) - o) % w :=
  Int.toNat_of_nonneg (Int.emod_nonneg _ (by omega))

theorem source_source (hw : 0 < w) (a b : Int) (x : Nat) :
    source w a (source w b x) = source w (a + b) x := by
  have hcast := cast_source hw b x
  unfold source at hcast ⊢
  rw [hcast]
  have h := (Int.mod_modEq ((x : Int) - b) w).sub_right a
  rw [sub_sub, add_comm b a] at h
  exact congrArg Int.toNat h

theorem source_congr {a b : Int} (h : a ≡ b [ZMOD w]) (x : Nat) : source w a x = source w b x := by
  unfold source
  exact congrArg Int.toNat (h.sub_left (x : Int))

theorem source_zero {x : Nat} (hx : x < w) : source w 0 x = x := by
  unfold source
  rw [sub_zero, Int.emod_eq_of_lt (by omega) (by omega)]
  rfl

@[simp] theorem width_run (o : Int × Int × Int) (f : Frame) : (run o f).width = f.width := by
  obtain ⟨a, b, c⟩ := o
  unfold run
  dsimp only
  split <;> rfl

@[simp] theorem height_run (o : Int × Int × Int) (f : Frame) : (run o f).height = f.height := by
  obtain ⟨a, b, c⟩ := o
  unfold run
  dsimp only
  split <;> rfl

theorem pixelAt_run (o : Int × Int × Int) (f : Frame) {x y : Nat} (hx : x < f.width) (hy : y < f.height) :
    (run o f).pixelAt x y =
      ⟨(f.pixelAt (source f.width o.1 x) y).r, (f.pixelAt (source f.width o.2.1 x) y).g,
        (f.pixelAt (source f.width o.2.2 x) y).b, (f.pixelAt x y).a⟩ := by
  obtain ⟨a, b, c⟩ := o
  unfold run
  dsimp only
  split
  · -- the early return: a frame of positive width comes back only for zero offsets
    rename_i h
    have hzero : (a = 0 ∧ b = 0) ∧ c = 0 := by
      simpa [Nat.pos_iff_ne_zero.1 (by omega : 0 < f.width)] using h
    obtain ⟨⟨rfl, rfl⟩, rfl⟩ := hzero
    simp [source_zero hx]
  · exact Frame.pixelAt_mapXY _ f hx hy

theorem run_of_width_eq_zero (o : Int × Int × Int) {f : Frame} (h : f.width = 0) : run o f = f := by
  obtain ⟨a, b, c⟩ := o
  simp [run, h]

theorem run_zero (f : Frame) : run 0 f = f := by
  simp [run]

/-- Two shifts are one shift by the sums of the offsets. -/
theorem run_run (o₁ o₂ : Int × Int × Int) (f : Frame) : run o₂ (run o₁ f) = run (o₁ + o₂) f := by
  rcases Nat.eq_zero_or_pos f.width with h0 | hw
  · rw [run_of_width_eq_zero _ h0, run_of_width_eq_zero _ h0, run_of_width_eq_zero _ h0]
  refine Frame.ext_pixelAt (by simp) (by simp) fun x y hx hy => ?_
  simp only [width_run, height_run] at hx hy
  rw [pixelAt_run _ _ (by simpa using hx) (by simpa using hy), pixelAt_run _ _ hx hy]
  simp only [width_run]
  rw [pixelAt_run _ _ (source_lt hw _ x) hy, pixelAt_run _ _ (source_lt hw _ x) hy,
    pixelAt_run _ _ (source_lt hw _ x) hy, pixelAt_run _ _ hx hy]
  simp [source_source hw]

/-- Offsets that agree modulo the width shift alike. -/
theorem run_congr {o o' : Int × Int × Int} {f : Frame} (h₁ : o.1 ≡ o'.1 [ZMOD f.width])
    (h₂ : o.2.1 ≡ o'.2.1 [ZMOD f.width]) (h₃ : o.2.2 ≡ o'.2.2 [ZMOD f.width]) : run o f = run o' f := by
  refine Frame.ext_pixelAt (by simp) (by simp) fun x y hx hy => ?_
  simp only [width_run, height_run] at hx hy
  rw [pixelAt_run _ _ hx hy, pixelAt_run _ _ hx hy, source_congr h₁, source_congr h₂, source_congr h₃]

theorem run_neg (o : Int × Int × Int) (f : Frame) : run (-o) (run o f) = f := by
  rw [run_run, add_neg_cancel, run_zero]

theorem clamp_offset (d : Int) : -50 ≤ max (-50) (min 50 d) ∧ max (-50) (min 50 d) ≤ 50 :=
  ⟨le_max_left _ _, max_le (by norm_num) (min_le_left _ _)⟩

theorem clamp_offset_of_mem {d : Int} (h₁ : -50 ≤ d) (h₂ : d ≤ 50) : max (-50) (min 50 d) = d := by
  rw [min_eq_right h₂, max_eq_right h₁]

theorem getI64_offsetParams (a b c : Int) (k : String) (d : Int) :
    ((Params.empty.insert "r_offset" (.integer a)).insert "g_offset" (.integer b) |>.insert "b_offset"
      (.integer c)).getI64 k d =
      if k = "b_offset" then c else if k = "g_offset" then b else if k = "r_offset" then a else d := by
  simp only [Params.getI64, Params.getI64?, Params.get?, Params.insert, Keyed.lookup_insertKey]
  split_ifs <;> rfl

/-- Each offset the effect reads lies in `[-50, 50]`. -/
theorem offsets_bounded (p : Params) :
    (-50 ≤ (offsets p).1 ∧ (offsets p).1 ≤ 50) ∧ (-50 ≤ (offsets p).2.1 ∧ (offsets p).2.1 ≤ 50) ∧
      (-50 ≤ (offsets p).2.2 ∧ (offsets p).2.2 ≤ 50) :=
  ⟨clamp_offset _, clamp_offset _, clamp_offset _⟩

/-- Every triple of offsets the effect reads is undone by another triple it can read. -/
theorem exists_offsets_neg (p : Params) : ∃ q, offsets q = -offsets p := by
  obtain ⟨h₁, h₂, h₃⟩ := offsets_bounded p
  generalize offsets p = o at h₁ h₂ h₃
  obtain ⟨a, b, c⟩ := o
  dsimp only at h₁ h₂ h₃
  refine ⟨(Params.empty.insert "r_offset" (.integer (-a))).insert "g_offset" (.integer (-b)) |>.insert
    "b_offset" (.integer (-c)), ?_⟩
  simp only [offsets, getI64_offsetParams]
  simp only [ite_true, ite_false, show ("r_offset" = "b_offset") = False by decide,
    show ("r_offset" = "g_offset") = False by decide, show ("g_offset" = "b_offset") = False by decide]
  -- the negated offsets lie in `[-50, 50]` as well, so the clamp keeps them
  rw [clamp_offset_of_mem (by omega) (by omega), clamp_offset_of_mem (by omega) (by omega),
    clamp_offset_of_mem (by omega) (by omega)]
  rfl

example : offsets Params.empty = (10, 0, -10) := by decide

example : (run (1, 0, -1) (Frame.ofFn 4 1 fun x => ⟨(x * 10).toUInt8, (x * 20).toUInt8, (x * 30).toUInt8, 255⟩)).pixelAt 0 0 =
    ⟨30, 0, 30, 255⟩ := by decide

theorem apply_eq (f : Frame) (p : Params) (st : Option EffectState) (ctx : EffectContext) :
    effect.apply f p st ctx = .ok (run (offsets p) f, none) := by
  simp only [effect, shift_eq, Option.map_some, Effect.orPanic]

/-- Channel shift rolls each colour channel of every row by its own offset and keeps alpha; two
shifts are the shift by the sums of their offsets taken modulo the width, and a shift followed
by the shift by the negated offsets, which the effect can always be given, gives the frame
back. -/
theorem channel_shift_rolls_rows (f : Frame) (p q r : Params) (st : Option EffectState)
    (ctx : EffectContext) :
    effect.apply f p st ctx = .ok (run (offsets p) f, none) ∧
    (run (offsets p) f).dims = f.dims ∧
    (∀ x y, x < f.width → y < f.height →
      (run (offsets p) f).pixelAt x y =
        ⟨(f.pixelAt (((x : Int) - (offsets p).1) % f.width).toNat y).r,
          (f.pixelAt (((x : Int) - (offsets p).2.1) % f.width).toNat y).g,
          (f.pixelAt (((x : Int) - (offsets p).2.2) % f.width).toNat y).b, (f.pixelAt x y).a⟩) ∧
    ((offsets r).1 ≡ (offsets p).1 + (offsets q).1 [ZMOD f.width] →
      (offsets r).2.1 ≡ (offsets p).2.1 + (offsets q).2.1 [ZMOD f.width] →
      (offsets r).2.2 ≡ (offsets p).2.2 + (offsets q).2.2 [ZMOD f.width] →
      run (offsets q) (run (offsets p) f) = run (offsets r) f) ∧
    (offsets q = -offsets p → run (offsets q) (run (offsets p) f) = f) ∧
    ∃ q', offsets q' = -offsets p := by
  refine ⟨apply_eq f p st ctx, by simp [Frame.dims], fun x y hx hy => pixelAt_run _ f hx hy,
    fun h₁ h₂ h₃ => ?_, fun hq => ?_, exists_offsets_neg p⟩
  · -- the two shifts are one shift by the sums, which agree with `r`'s offsets modulo the width
    rw [run_run]
    exact run_congr h₁.symm h₂.symm h₃.symm
  · rw [hq, run_neg]

end ChannelShift

end Glitch
