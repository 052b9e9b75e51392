import Glitch.Proofs.EchoTrail
import Glitch.Proofs.ContainerMix
import Glitch.Proofs.KeyedList
import Glitch.Effect.Kernel.Color
/-!
What the container hands an effect. Before the effect runs, the container drops non-finite
floats, reads the `seed` entry, and takes out `_mask` and `_mix`; the effect sees the map with
exactly those entries gone and a context whose seed comes from the `seed` entry as it stands after
the non-finite floats are dropped. Since parameter maps are sorted by name, two maps that agree
once those entries are removed hand the effect the same list, so the effect's run, its wet frame
and the state the container returns do not depend on the reserved entries or on non-finite
values.
-/
namespace Glitch

namespace Params

def keeps (v : ParamValue) : Bool := !v.isNonFinite

theorem get?_remove_self (p : Params) (k : String) : (p.remove k).2.get? k = none :=
  Keyed.lookup_eraseKey_self p.entries k

theorem ext {p q : Params} (h : ∀ k, p.get? k = q.get? k) : p = q := by
  rcases p with ⟨es, hs⟩
  rcases q with ⟨es', hs'⟩
  obtain rfl := Keyed.eq_of_lookup_eq hs hs' h
  rfl

end Params

namespace Container

/-- What the effect looks up: nothing at `_mix` and `_mask`, and elsewhere the map's value
unless it is a non-finite float. -/
theorem get?_split_params (p : Params) (k : String) :
    (split p).params.get? k =
      if k = mixKey ∨ k = maskKey then none else (p.get? k).filter Params.keeps := by
  show ((p.retainFinite.remove maskKey).2.remove mixKey).2.get? k = _
  by_cases hmix : k = mixKey
  · rw [if_pos (.inl hmix), hmix, Params.get?_remove_self]
  by_cases hmask : k = maskKey
  · rw [if_pos (.inr hmask), Params.get?_remove_of_ne _ hmix, hmask, Params.get?_remove_self]
  rw [if_neg (by tauto), Params.get?_remove_of_ne _ hmix, Params.get?_remove_of_ne _ hmask,
    Params.get?_retainFinite]
  rfl

theorem split_params_eq_of_agree {p₁ p₂ : Params}
    (h : ∀ k, k ≠ mixKey → k ≠ maskKey → (p₁.get? k).filter Params.keeps = (p₂.get? k).filter Params.keeps) :
    (split p₁).params = (split p₂).params := by
  refine Params.ext fun k => ?_
  rw [get?_split_params, get?_split_params]
  split_ifs with hk
  · rfl
  · exact h k (fun e => hk (.inl e)) (fun e => hk (.inr e))

theorem userSeed_eq (p : Params) :
    userSeed p = (((p.get? seedKey).filter Params.keeps).bind ParamValue.asI64?).getD 0 := by
  unfold userSeed Params.getI64?
  rw [Params.get?_retainFinite]
  rfl

/-- The container's result depends on the effect only through its id and its one run, on the
cleaned parameters and the derived context. -/
theorem process_congr_apply {E E' : Effect} {f : Frame} {p : Params} {st : Option EffectState}
    {idx seed : Nat} {res : Nat × Nat} (hid : E'.id = E.id)
    (h : E'.apply f (split p).params st ⟨idx, deriveSeed seed E.id idx (userSeed p), res⟩ =
      E.apply f (split p).params st ⟨idx, deriveSeed seed E.id idx (userSeed p), res⟩) :
    process E' f p st idx seed res = process E f p st idx seed res := by
  simp only [process, process.run, hid, h]

/-- For two parameter maps that agree once `_mix`, `_mask` and every non-finite float are
removed, the container runs the effect once, on the same parameters and the same context: the
map with those entries removed, and the seed derived from the `seed` entry read as an integer
after non-finite floats are dropped (0 when there is none). The container's result depends on the
effect only through that run, and a successful run returns that run's state, so the two maps
give the same wet frame and the same state. -/
theorem effect_sees_cleaned_params (E : Effect) (f : Frame) (st : Option EffectState)
    (idx seed : Nat) (res : Nat × Nat) (p₁ p₂ : Params)
    (hagree : ∀ k, k ≠ mixKey → k ≠ maskKey →
      (p₁.get? k).filter Params.keeps = (p₂.get? k).filter Params.keeps) :
    let P := (split p₁).params
    let C : EffectContext := ⟨idx, deriveSeed seed E.id idx
      ((((p₁.get? seedKey).filter Params.keeps).bind ParamValue.asI64?).getD 0), res⟩
    (∀ k, P.get? k = if k = mixKey ∨ k = maskKey then none else (p₁.get? k).filter Params.keeps) ∧
    (split p₂).params = P ∧
    (∀ p ∈ [p₁, p₂], ∀ E' : Effect, E'.id = E.id → E'.apply f P st C = E.apply f P st C →
      process E' f p st idx seed res = process E f p st idx seed res) ∧
    (∀ p ∈ [p₁, p₂], ∀ out st', process E f p st idx seed res = .ok (out, st') →
      ∃ wet, E.apply f P st C = .ok (wet, st')) ∧
    (∀ o₁ s₁ o₂ s₂, process E f p₁ st idx seed res = .ok (o₁, s₁) →
      process E f p₂ st idx seed res = .ok (o₂, s₂) → s₁ = s₂) := by
  intro P C
  have hparams : (split p₂).params = P := (split_params_eq_of_agree hagree).symm
  -- the `seed` entry is not reserved, so both maps give the same sub-seed
  have hseed₁ : userSeed p₁ = (((p₁.get? seedKey).filter Params.keeps).bind ParamValue.asI64?).getD 0 :=
    userSeed_eq p₁
  have hseed₂ : userSeed p₂ = userSeed p₁ := by
    rw [hseed₁, userSeed_eq p₂, hagree seedKey (by decide) (by decide)]
  have hrun : ∀ p ∈ [p₁, p₂], (split p).params = P ∧
      (⟨idx, deriveSeed seed E.id idx (userSeed p), res⟩ : EffectContext) = C := by
    intro p hp
    rcases List.mem_pair.1 hp with rfl | rfl
    · exact ⟨rfl, by rw [hseed₁]⟩
    · exact ⟨hparams, by rw [hseed₂, hseed₁]⟩
  have hstate : ∀ p ∈ [p₁, p₂], ∀ out st', process E f p st idx seed res = .ok (out, st') →
      ∃ wet, E.apply f P st C = .ok (wet, st') := by
    intro p hp out st' h
    obtain ⟨hP, hC⟩ := hrun p hp
    rw [← hP, ← hC]
    exact Container.process_state h
  refine ⟨get?_split_params p₁, hparams, fun p hp E' hid happly => ?_, hstate,
    fun o₁ s₁ o₂ s₂ h₁ h₂ => ?_⟩
  · obtain ⟨hP, hC⟩ := hrun p hp
    refine process_congr_apply hid ?_
    rw [hP, hC]
    exact happly
  · obtain ⟨w₁, hw₁⟩ := hstate p₁ (by simp) o₁ s₁ h₁
    obtain ⟨w₂, hw₂⟩ := hstate p₂ (by simp) o₂ s₂ h₂
    rw [hw₁] at hw₂
    cases hw₂
    rfl

theorem nan_entries_leave_effect_input :
    let p₁ : Params :=
      ⟨[(mixKey, .float Binary.nan), ("gain", .float Binary.nan), (seedKey, .integer 7)], by decide⟩
    let p₂ : Params := ⟨[(maskKey, .integer 1), (seedKey, .integer 7)], by decide⟩
    (∀ k, k ≠ mixKey → k ≠ maskKey →
      (p₁.get? k).filter Params.keeps = (p₂.get? k).filter Params.keeps) ∧
    (split p₂).params = (split p₁).params := by
  intro p₁ p₂
  have hagree : ∀ k, k ≠ mixKey → k ≠ maskKey →
      (p₁.get? k).filter Params.keeps = (p₂.get? k).filter Params.keeps := by
    intro k hmix hmask
    by_cases hgain : k = "gain"
    · subst hgain
      decide
    · simp [p₁, p₂, Params.get?, hmix, hmask, hgain]
  exact ⟨hagree, (effect_sees_cleaned_params Invert.effect (Frame.filled 1 1 ⟨5, 5, 5, 255⟩) none 0 0
    (1, 1) p₁ p₂ hagree).2.1⟩

end Container

end Glitch
