import Glitch.Proofs.BinarySign
import Glitch.Proofs.ChainValidation
import Glitch.Proofs.KeyedList
import Glitch.Effect.Container
import Glitch.Effect.Kernel.Color
/-!
The container at the ends of its mix and its mask, for every effect. When the effect succeeds
with a frame of the input's size, the container returns the input frame when every mask weight
is `0`, or when `_mix` is a number at most `0` and no mask weight lies strictly between `0` and
`1`; it returns the effect's frame when `_mix` is absent, not a number, not finite or at least
`1` and every mask weight is `1`. The blend of two bytes is exact at `t = ±0` and at `t = 1`,
but not in between, not even between a byte and itself: under a mask of weight `0.003` a dry
frame loses one from each channel below 255.
-/
namespace Glitch

theorem Frame.eq_of_pixels {f g : Frame} (hw : f.width = g.width) (hh : f.height = g.height)
    (hp : f.pixels = g.pixels) : f = g := by
  cases f
  cases g
  cases hw
  cases hh
  cases hp
  rfl

theorem Frame.pixel_eq_getElem (f : Frame) {i : Nat} (h : i < f.pixels.size) :
    f.pixel i = f.pixels[i] := by
  simp [Frame.pixel, Array.getD, h]

namespace Params

/-- The names of a map are each there once: they strictly increase. -/
theorem keys_nodup (p : Params) : p.keys.Nodup :=
  List.pairwise_map.2 (p.sorted.imp fun hlt => ne_of_lt hlt)

theorem lookup_eq_none_of_not_mem {es : List (String × ParamValue)} {k : String}
    (h : k ∉ es.map Prod.fst) : es.lookup k = none := by
  induction es with
  | nil => rfl
  | cons e es ih =>
    obtain ⟨k', v⟩ := e
    simp only [List.map_cons, List.mem_cons, not_or] at h
    rw [Keyed.lookup_cons, if_neg h.1, ih h.2]

/-- Dropping non-finite floats, from a map with each name once, drops exactly their lookups. -/
theorem lookup_filter_finite {es : List (String × ParamValue)} (hk : (es.map Prod.fst).Nodup)
    (k : String) :
    (es.filter (fun e => !e.2.isNonFinite)).lookup k = (es.lookup k).filter (fun v => !v.isNonFinite) := by
  induction es with
  | nil => rfl
  | cons e es ih =>
    obtain ⟨k', v⟩ := e
    simp only [List.map_cons, List.nodup_cons] at hk
    by_cases hkk : k = k'
    · -- the head holds the only entry of `k`
      subst hkk
      have hrest : (es.filter (fun e => !e.2.isNonFinite)).lookup k = none := by
        rw [ih hk.2, lookup_eq_none_of_not_mem hk.1]
        rfl
      cases hv : v.isNonFinite <;> simp [hv, hrest, Option.filter_some]
    · cases hv : v.isNonFinite <;> simp [hv, hkk, ih hk.2]

theorem get?_retainFinite (p : Params) (k : String) :
    p.retainFinite.get? k = (p.get? k).filter (fun v => !v.isNonFinite) :=
  lookup_filter_finite p.keys_nodup k

theorem get?_remove_of_ne (p : Params) {k k' : String} (h : k' ≠ k) :
    (p.remove k).2.get? k' = p.get? k' :=
  Keyed.lookup_eraseKey_of_ne h

end Params

namespace Container

/-- What `_mix` reads as before the clamp: a finite number as it is (an integer rounded), and
`1` for anything else. -/
def mixValue (o : Option ParamValue) : F32 :=
  ((o.filter (fun v => !v.isNonFinite)).bind ParamValue.asF32?).getD 1

theorem split_mix (p : Params) : (split p).mix = (mixValue (p.get? mixKey)).clamp 0 1 := by
  show ((((p.retainFinite.remove maskKey).2.get? mixKey).bind ParamValue.asF32?).getD 1).clamp 0 1 = _
  rw [Params.get?_remove_of_ne _ (by decide : mixKey ≠ maskKey), Params.get?_retainFinite]
  rfl

theorem split_mask (p : Params) : (split p).mask = (p.get? maskKey).bind ParamValue.asMask? := by
  show (p.retainFinite.get? maskKey).bind ParamValue.asMask? = _
  rw [Params.get?_retainFinite]
  -- a value the filter drops is a float, which is no mask either
  rcases p.get? maskKey with _ | v
  · rfl
  · cases v <;> simp [Option.filter, ParamValue.isNonFinite, ParamValue.asMask?]

/-- `_mix` values that leave the dry frame: an integer at most `0`, a finite float at most `0`. -/
def DryMix : Option ParamValue → Prop
  | some (.integer i) => i ≤ 0
  | some (.float x) => x.isFinite = true ∧ x ≤ 0
  | _ => False

/-- `_mix` values that give the wet frame: an integer at least `1`, a float at least `1` or not
finite, and anything absent or not a number. -/
def WetMix : Option ParamValue → Prop
  | some (.integer i) => 1 ≤ i
  | some (.float x) => x.isFinite = true → 1 ≤ x
  | _ => True

theorem mixValue_le_zero {o : Option ParamValue} (h : DryMix o) : mixValue o ≤ 0 := by
  rcases o with _ | v
  · exact h.elim
  · cases v with
    | integer i => exact Binary.ofInt_le_zero h
    | float x =>
      obtain ⟨hfin, hle⟩ := h
      simpa [mixValue, ParamValue.isNonFinite, hfin, ParamValue.asF32?, Option.filter_some] using hle
    | bool b => exact h.elim
    | string s => exact h.elim
    | mask m => exact h.elim

theorem one_le_mixValue {o : Option ParamValue} (h : WetMix o) : 1 ≤ mixValue o := by
  -- everything that is not a finite number reads as the default `1`
  have h1 : (1 : F32) ≤ 1 := by decide
  rcases o with _ | v
  · exact h1
  · cases v with
    | integer i => exact Binary.one_le_ofInt h
    | float x =>
      by_cases hfin : x.isFinite = true
      · simpa [mixValue, ParamValue.isNonFinite, hfin, ParamValue.asF32?, Option.filter_some] using h hfin
      · simpa [mixValue, ParamValue.isNonFinite, hfin, Option.filter_some] using h1
    | bool b => exact h1
    | string s => exact h1
    | mask m => exact h1

/-! ## The blend at its ends -/

theorem lerpByte_zero (d w : UInt8) : lerpByte d w 0 = d := by
  unfold lerpByte
  rw [show (1 : F32) - 0 = 1 by decide, Binary.ofUInt8_mul_one, Binary.ofUInt8_mul_zero,
    Binary.ofUInt8_add_zero, Binary.toUInt8_clamp_ofUInt8]

theorem lerpByte_negZero (d w : UInt8) : lerpByte d w (-0) = d := by
  unfold lerpByte
  rw [show (1 : F32) - (-0) = 1 by decide, Binary.ofUInt8_mul_one, Binary.ofUInt8_mul_negZero,
    Binary.ofUInt8_add_negZero, Binary.toUInt8_clamp_ofUInt8]

theorem lerpByte_one (d w : UInt8) : lerpByte d w 1 = w := by
  unfold lerpByte
  rw [show (1 : F32) - 1 = 0 by decide, Binary.ofUInt8_mul_zero, Binary.ofUInt8_mul_one,
    Binary.zero_add_ofUInt8, Binary.toUInt8_clamp_ofUInt8]

theorem lerpPixel_of_zero {t : F32} (ht : t = 0 ∨ t = -0) (p q : Pixel) : lerpPixel t p q = p := by
  rcases ht with rfl | rfl
  · simp [lerpPixel, lerpByte_zero]
  · simp [lerpPixel, lerpByte_negZero]

theorem lerpPixel_one (p q : Pixel) : lerpPixel 1 p q = q := by
  simp [lerpPixel, lerpByte_one]

theorem weight_getD {m : Mask} {P : F32 → Prop} (h0 : P 0) (h : ∀ x ∈ m.weights, P x) (i : Nat) :
    P (m.weights.getD i 0) := by
  unfold Array.getD
  split
  · exact h _ (Array.getElem_mem _)
  · exact h0

theorem applyMask_pixels (dry wet : Frame) (m : Mask) :
    (applyMask dry wet m).pixels =
      dry.pixels.mapIdx (fun i p => lerpPixel (m.weights.getD i 0) p (wet.pixel i)) := rfl

/-- A mask of zero weights keeps the dry frame, whatever it is blended with. -/
theorem applyMask_of_zero {dry wet : Frame} {m : Mask} (h : ∀ x ∈ m.weights, x = 0 ∨ x = -0) :
    applyMask dry wet m = dry := by
  refine Frame.eq_of_pixels rfl rfl ?_
  rw [applyMask_pixels]
  refine Array.ext (by simp) fun i _ _ => ?_
  rw [Array.getElem_mapIdx]
  exact lerpPixel_of_zero (weight_getD (.inl rfl) h i) _ _

/-- Blending a frame with itself at weights `0` and `1` keeps it. -/
theorem applyMask_self {dry : Frame} {m : Mask} (h : ∀ x ∈ m.weights, x = 0 ∨ x = -0 ∨ x = 1) :
    applyMask dry dry m = dry := by
  refine Frame.eq_of_pixels rfl rfl ?_
  rw [applyMask_pixels]
  refine Array.ext (by simp) fun i hi _ => ?_
  rw [Array.getElem_mapIdx]
  have hi' : i < dry.pixels.size := by simpa using hi
  rcases weight_getD (P := fun x => x = 0 ∨ x = -0 ∨ x = 1) (.inl rfl) h i with h0 | h0 | h1
  · exact lerpPixel_of_zero (.inl h0) _ _
  · exact lerpPixel_of_zero (.inr h0) _ _
  · rw [h1, lerpPixel_one, Frame.pixel_eq_getElem dry hi']

/-- A mask of the frame's size with every weight `1` gives the wet frame. -/
theorem applyMask_of_one {dry wet : Frame} {m : Mask} (hw : wet.dims = dry.dims)
    (hm : m.dims = dry.dims) (h : ∀ x ∈ m.weights, x = 1) : applyMask dry wet m = wet := by
  obtain ⟨hww, hwh⟩ := Prod.mk.inj hw
  obtain ⟨hmw, hmh⟩ := Prod.mk.inj hm
  have hsize : dry.pixels.size = wet.pixels.size := by
    rw [dry.size_eq, wet.size_eq, hww, hwh]
  refine Frame.eq_of_pixels hww.symm hwh.symm ?_
  rw [applyMask_pixels]
  refine Array.ext (by simp [hsize]) fun i hi _ => ?_
  rw [Array.getElem_mapIdx]
  have hi' : i < dry.pixels.size := by simpa using hi
  have hweight : m.weights.getD i 0 = 1 := by
    have hmi : i < m.weights.size := by
      rw [m.size_eq, hmw, hmh, ← dry.size_eq]
      exact hi'
    simp only [Array.getD, hmi, dif_pos]
    exact h _ (Array.getElem_mem _)
  rw [hweight, lerpPixel_one, Frame.pixel_eq_getElem wet (hsize ▸ hi')]

/-! ## Mixing and masking -/

theorem finish_dry {dry wet : Frame} {s : Split} (hmix : s.mix ≤ 0)
    (hmask : ∀ m, s.mask = some m → ∀ x ∈ m.weights, x = 0 ∨ x = -0 ∨ x = 1) :
    finish dry wet s = dry := by
  unfold finish
  rw [if_pos (show s.mix.le 0 = true from hmix)]
  cases hm : s.mask with
  | none => rfl
  | some m => exact applyMask_self (hmask m hm)

theorem finish_of_zero_mask {dry wet : Frame} {s : Split} {m : Mask} (hmask : s.mask = some m)
    (h : ∀ x ∈ m.weights, x = 0 ∨ x = -0) : finish dry wet s = dry := by
  unfold finish
  rw [hmask]
  exact applyMask_of_zero h

theorem finish_wet {dry wet : Frame} {s : Split} (hw : wet.dims = dry.dims) (h0 : ¬ s.mix ≤ 0)
    (h1 : ¬ s.mix < 1) (hmask : ∀ m, s.mask = some m → m.dims = dry.dims ∧ ∀ x ∈ m.weights, x = 1) :
    finish dry wet s = wet := by
  unfold finish
  rw [if_neg (show ¬ s.mix.le 0 = true from h0), if_neg (show ¬ s.mix.lt 1 = true from h1)]
  cases hm : s.mask with
  | none => rfl
  | some m =>
    obtain ⟨hdims, hone⟩ := hmask m hm
    exact applyMask_of_one hw hdims hone

/-- A run whose effect succeeds with a frame of the input's size, under a mask of the input's
size, is the mixed and masked frame with the effect's state. -/
theorem process_eq {E : Effect} {f w : Frame} {p : Params} {st s' : Option EffectState}
    {idx seed : Nat} {res : Nat × Nat}
    (he : E.apply f (split p).params st ⟨idx, deriveSeed seed E.id idx (userSeed p), res⟩ = .ok (w, s'))
    (hw : w.dims = f.dims) (hm : ∀ m, (split p).mask = some m → m.dims = f.dims) :
    process E f p st idx seed res = .ok (finish f w (split p), s') := by
  rcases process_cases E f p st idx seed res with ⟨m, hmask, hd, -⟩ | ⟨-, hrun⟩
  · exact absurd (hm m hmask) hd
  rw [hrun]
  unfold process.run
  rw [he]
  simp [hw]

/-- The mask the container takes out is the mask `_mask` holds. -/
theorem mask_of_split_mask {p : Params} {m : Mask} (h : (split p).mask = some m) :
    p.get? maskKey = some (.mask m) := by
  rw [split_mask p] at h
  obtain ⟨v, hv, hvm⟩ := Option.bind_eq_some_iff.1 h
  cases v with
  | mask m' =>
    cases hvm
    exact hv
  | bool b => cases hvm
  | integer i => cases hvm
  | float x => cases hvm
  | string s => cases hvm

/-- For every effect that succeeds with a frame of the input's size, under a mask of that size:
the container returns the input frame when the mask's weights are all `0`, or when `_mix` is a
number at most `0` and each mask weight is `0` or `1`; and it returns the effect's frame when
`_mix` is absent, not a number, not finite or at least `1` and the mask's weights are all `1`.
The effect's state comes back in both cases. -/
theorem process_at_blend_ends (E : Effect) (f w : Frame) (p : Params) (st s' : Option EffectState)
    (idx seed : Nat) (res : Nat × Nat)
    (he : E.apply f (split p).params st ⟨idx, deriveSeed seed E.id idx (userSeed p), res⟩ = .ok (w, s'))
    (hw : w.dims = f.dims) (hm : ∀ m, p.get? maskKey = some (.mask m) → m.dims = f.dims) :
    ((∃ m, p.get? maskKey = some (.mask m) ∧ ∀ x ∈ m.weights, x = 0 ∨ x = -0) ∨
        (DryMix (p.get? mixKey) ∧
          ∀ m, p.get? maskKey = some (.mask m) → ∀ x ∈ m.weights, x = 0 ∨ x = -0 ∨ x = 1) →
      process E f p st idx seed res = .ok (f, s')) ∧
    (WetMix (p.get? mixKey) → (∀ m, p.get? maskKey = some (.mask m) → ∀ x ∈ m.weights, x = 1) →
      process E f p st idx seed res = .ok (w, s')) := by
  rw [process_eq he hw fun m h => hm m (mask_of_split_mask h)]
  refine ⟨fun hdry => ?_, fun hwet hone => ?_⟩
  · rcases hdry with ⟨m, hm0, hzero⟩ | ⟨hmix, hweights⟩
    · -- a mask of zero weights undoes whatever the mix did
      have hsplit : (split p).mask = some m := by rw [split_mask p, hm0]; rfl
      rw [finish_of_zero_mask hsplit hzero]
    · have hle : (split p).mix ≤ 0 := by
        rw [split_mix p]
        exact Binary.le_zero_clamp_unit (mixValue_le_zero hmix)
      rw [finish_dry hle fun m h => hweights m (mask_of_split_mask h)]
  · obtain ⟨h0, h1⟩ := Binary.clamp_unit_of_one_le (one_le_mixValue hwet)
    rw [← split_mix p] at h0 h1
    rw [finish_wet hw h0 h1 fun m h =>
      ⟨hm m (mask_of_split_mask h), hone m (mask_of_split_mask h)⟩]

theorem invert_at_blend_ends :
    process Invert.effect (Frame.filled 1 1 ⟨5, 5, 5, 255⟩)
        ⟨[(maskKey, .mask ⟨1, 1, #[1], rfl⟩), (mixKey, .integer 0)], by decide⟩ none 0 0 (1, 1) =
      .ok (Frame.filled 1 1 ⟨5, 5, 5, 255⟩, none) ∧
    process Invert.effect (Frame.filled 1 1 ⟨5, 5, 5, 255⟩)
        ⟨[(maskKey, .mask ⟨1, 1, #[1], rfl⟩)], by decide⟩ none 0 0 (1, 1) =
      .ok (Invert.run (Frame.filled 1 1 ⟨5, 5, 5, 255⟩), none) := by
  refine ⟨(process_at_blend_ends Invert.effect _ _ _ none none 0 0 (1, 1) rfl rfl
      ?_).1 (.inr ⟨?_, ?_⟩), (process_at_blend_ends Invert.effect _ _ _ none none 0 0 (1, 1)
      rfl rfl ?_).2 trivial ?_⟩
  all_goals simp [Params.get?, maskKey, mixKey, DryMix, Mask.dims, Frame.filled, Frame.dims]

theorem masked_dry_run_moves_bytes :
    let p : Params := ⟨[(maskKey, .mask ⟨1, 1, #[(0.003 : F32)], rfl⟩), (mixKey, .integer 0)], by decide⟩
    DryMix (p.get? mixKey) ∧ (∀ m, p.get? maskKey = some (.mask m) → m.dims = (1, 1)) ∧
    process Invert.effect (Frame.filled 1 1 ⟨5, 5, 5, 255⟩) p none 0 0 (1, 1) =
      .ok (Frame.filled 1 1 ⟨4, 4, 4, 255⟩, none) := by
  dsimp only
  refine ⟨le_refl (0 : Int), fun m h => ?_, rfl⟩
  simp [Params.get?, maskKey] at h
  rw [← h]
  rfl

end Container

end Glitch
