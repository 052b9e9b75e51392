import Glitch.Proofs.ChainLaws
/-!
Validation against running. `Chain.validate` looks at a chain before any frame is seen: its depth,
then whether every enabled instance names a registered effect. `Chain.apply` meets the same two
rules while it runs, interleaved with the effects themselves, which may fail first.

Chain-level policy errors (a chain too deep, an unknown id) are raised before or at effect lookup;
an effect reports its own failures as effect errors. Under that contract the two agree: a chain
too deep is refused by both with the same error, an unknown id refused by a run is the one
validation reports, a chain refused for an unknown id never runs to the end, and a chain that
validates meets no policy error while it runs. Each outcome of validation is also described on
its own (`validate_eq_ok_iff`, `validate_eq_unknown_iff`, `validate_eq_tooDeep_iff`).
-/
namespace Glitch

def Effect.RaisesNoPolicyError (e : Effect) : Prop :=
  ∀ f p st ctx q, e.apply f p st ctx ≠ .error (.pipeline q)

def Registry.RaisesNoPolicyError (R : Registry) : Prop :=
  ∀ e ∈ R.effects, e.RaisesNoPolicyError

namespace Container

/-- The container refuses a mask of another size than the frame's, and otherwise runs the
effect under the derived seed. -/
theorem process_cases (e : Effect) (f : Frame) (p : Params) (st : Option EffectState) (n s : Nat)
    (r : Nat × Nat) :
    (∃ m, (split p).mask = some m ∧ m.dims ≠ f.dims ∧
      process e f p st n s r = .error (.effect (.maskShape e.id f.dims m.dims))) ∨
    ((∀ m, (split p).mask = some m → m.dims = f.dims) ∧
      process e f p st n s r = process.run e f st (split p) ⟨n, deriveSeed s e.id n (userSeed p), r⟩) := by
  unfold process
  dsimp only
  split
  · rename_i m hmask
    by_cases hd : m.dims = f.dims
    · refine .inr ⟨fun m' h' => ?_, if_neg (not_not.2 hd)⟩
      rw [hmask] at h'
      cases h'
      exact hd
    · exact .inl ⟨m, hmask, hd, if_pos hd⟩
  · rename_i hmask
    refine .inr ⟨fun m h => ?_, rfl⟩
    rw [hmask] at h
    cases h

theorem process_error {e : Effect} {f : Frame} {p : Params} {st : Option EffectState}
    {n s : Nat} {r : Nat × Nat} {err : GlitchError} (h : process e f p st n s r = .error err) :
    (∃ x, err = .effect x) ∨ ∃ ctx, e.apply f (split p).params st ctx = .error err := by
  rcases process_cases e f p st n s r with ⟨m, -, -, hm⟩ | ⟨-, hrun⟩
  · rw [hm] at h
    cases h
    exact .inl ⟨_, rfl⟩
  rw [hrun] at h
  unfold process.run at h
  split at h
  · rename_i err' happly
    cases h
    exact .inr ⟨_, happly⟩
  · split at h
    · cases h
      exact .inl ⟨_, rfl⟩
    · cases h

theorem process_ne_policy {e : Effect} (he : e.RaisesNoPolicyError) (f : Frame) (p : Params)
    (st : Option EffectState) (n s : Nat) (r : Nat × Nat) (q : PipelineError) :
    process e f p st n s r ≠ .error (.pipeline q) := by
  intro h
  rcases process_error h with ⟨x, hx⟩ | ⟨ctx, hctx⟩
  · cases hx
  · exact he _ _ _ _ _ hctx

end Container

namespace Chain

variable {c : ChainContext}

/-- What a failed step can be: an enabled instance whose id is not registered, or the container's
failure around the registered effect. -/
theorem step_error_cases {acc : Frame × EffectStates} {i : EffectInstance} {err : GlitchError}
    (h : step c acc i = .error err) :
    i.enabled = true ∧
      ((c.registry.find? i.effectId = none ∧ err = .pipeline (.unknownEffect i.effectId)) ∨
        ∃ e, c.registry.find? i.effectId = some e ∧
          Container.process e acc.1 i.runParams ((c.incoming.get? i.effectId).getD none)
            c.frameIndex c.projectSeed c.resolution = .error err) := by
  unfold step at h
  split at h
  · cases h
  · rename_i hen
    refine ⟨by simpa using hen, ?_⟩
    split at h
    · rename_i hnone
      cases h
      exact .inl ⟨hnone, rfl⟩
    · rename_i e he
      split at h
      · cases h
      · rename_i err' hp
        cases h
        exact .inr ⟨e, he, hp⟩

/-- A step fails with a pipeline error only on an enabled instance whose id is not registered. -/
theorem step_policy_error (hR : c.registry.RaisesNoPolicyError) {acc : Frame × EffectStates}
    {i : EffectInstance} {q : PipelineError} (h : step c acc i = .error (.pipeline q)) :
    i.enabled = true ∧ c.registry.find? i.effectId = none ∧ q = .unknownEffect i.effectId := by
  obtain ⟨hen, ⟨hnone, hq⟩ | ⟨e, he, hp⟩⟩ := step_error_cases h
  · cases hq
    exact ⟨hen, hnone, rfl⟩
  · exact (Container.process_ne_policy (hR e (List.mem_of_find?_eq_some he)) _ _ _ _ _ _ _ hp).elim

theorem foldlM_error {chain : List EffectInstance} {acc : Frame × EffectStates} {err : GlitchError}
    (h : chain.foldlM (step c) acc = .error err) :
    ∃ c₁ i c₂ acc', chain = c₁ ++ i :: c₂ ∧ c₁.foldlM (step c) acc = .ok acc' ∧
      step c acc' i = .error err := by
  induction chain generalizing acc with
  | nil => cases h
  | cons i chain ih =>
    rw [List.foldlM_cons] at h
    cases hstep : step c acc i with
    | error e =>
      rw [hstep] at h
      cases h
      exact ⟨[], i, chain, acc, rfl, rfl, hstep⟩
    | ok acc₁ =>
      rw [hstep] at h
      obtain ⟨c₁, i', c₂, acc', rfl, h₁, h₂⟩ := ih h
      exact ⟨i :: c₁, i', c₂, acc', rfl, by rw [List.foldlM_cons, hstep]; exact h₁, h₂⟩

theorem has_of_foldlM {chain : List EffectInstance} {acc acc' : Frame × EffectStates}
    (h : chain.foldlM (step c) acc = .ok acc') :
    ∀ i ∈ chain, i.enabled = true → c.registry.has i.effectId = true := by
  induction chain generalizing acc with
  | nil => simp
  | cons i chain ih =>
    rw [List.foldlM_cons, bind_eq_ok] at h
    obtain ⟨⟨f₁, T₁⟩, hstep, hrest⟩ := h
    intro i' hi' hen
    rcases List.mem_cons.1 hi' with rfl | hi'
    · obtain ⟨f, T⟩ := acc
      rcases step_cases c hstep with ⟨hoff, -, -⟩ | ⟨-, e, st, he, -, -⟩
      · simp [hen] at hoff
      · simp [Registry.has, he]
    · exact ih hrest i' hi' hen

theorem validate_of_le {reg : Registry} {chain : List EffectInstance}
    (h : chain.length ≤ maxChainDepth) :
    validate reg chain =
      match chain.find? (fun i => i.enabled && !reg.has i.effectId) with
      | some i => .error (.pipeline (.unknownEffect i.effectId))
      | none => .ok () := by
  -- split on the search first, so that both matches reduce on a constructor
  rcases hfind : chain.find? (fun i => i.enabled && !reg.has i.effectId) with _ | i <;>
    simp only [validate, checkDepth_of_le h, List.find?_filter, Bool.decide_and, Bool.decide_eq_true,
      bind, Except.bind, hfind]

theorem validate_tooDeep {reg : Registry} {chain : List EffectInstance}
    (h : maxChainDepth < chain.length) :
    validate reg chain = .error (.pipeline (.chainTooDeep chain.length maxChainDepth)) := by
  simp [validate, checkDepth, h, bind, Except.bind]

/-- Validation passes exactly when the chain is within the depth limit and every enabled
instance names a registered effect. -/
theorem validate_eq_ok_iff {reg : Registry} {chain : List EffectInstance} :
    validate reg chain = .ok () ↔
      chain.length ≤ maxChainDepth ∧ ∀ i ∈ chain, i.enabled = true → reg.has i.effectId = true := by
  by_cases hlen : chain.length ≤ maxChainDepth
  · rw [validate_of_le hlen]
    split
    · rename_i i hi
      obtain ⟨hbad, -⟩ := List.find?_eq_some_iff_append.1 hi
      simp only [Bool.and_eq_true, Bool.not_eq_true'] at hbad
      refine ⟨(fun h => by cases h), fun ⟨_, hall⟩ => ?_⟩
      have := hall i (List.mem_of_find?_eq_some hi) hbad.1
      simp [hbad.2] at this
    · rename_i hnone
      rw [List.find?_eq_none] at hnone
      refine ⟨fun _ => ⟨hlen, fun i hi hen => ?_⟩, fun _ => rfl⟩
      have := hnone i hi
      simpa [hen] using this
  · rw [validate_tooDeep (Nat.lt_of_not_le hlen)]
    exact ⟨(fun h => by cases h), fun h => absurd h.1 hlen⟩

/-- Validation reports an unknown id exactly for the first enabled instance that names no
registered effect, in a chain within the depth limit. -/
theorem validate_eq_unknown_iff {reg : Registry} {chain : List EffectInstance} {id : String} :
    validate reg chain = .error (.pipeline (.unknownEffect id)) ↔
      chain.length ≤ maxChainDepth ∧ ∃ c₁ i c₂, chain = c₁ ++ i :: c₂ ∧ i.enabled = true ∧
        reg.has i.effectId = false ∧ i.effectId = id ∧
        ∀ i' ∈ c₁, i'.enabled = true → reg.has i'.effectId = true := by
  by_cases hlen : chain.length ≤ maxChainDepth
  · rw [validate_of_le hlen]
    split
    · rename_i i hi
      obtain ⟨hbad, c₁, c₂, hsplit, hbefore⟩ := List.find?_eq_some_iff_append.1 hi
      simp only [Bool.and_eq_true, Bool.not_eq_true'] at hbad
      have hfirst : ∀ i' ∈ c₁, i'.enabled = true → reg.has i'.effectId = true := by
        intro i' hi' hen
        simpa [hen] using hbefore i' hi'
      refine ⟨fun h => ⟨hlen, c₁, i, c₂, hsplit, hbad.1, hbad.2, ?_, hfirst⟩, fun h => ?_⟩
      · cases h
        rfl
      · -- the first enabled unknown instance is unique, so it is `i`
        obtain ⟨-, d₁, i', d₂, hsplit', hen', hbad', rfl, hfirst'⟩ := h
        have hi' : chain.find? (fun i => i.enabled && !reg.has i.effectId) = some i' := by
          refine List.find?_eq_some_iff_append.2 ⟨by simp [hen', hbad'], d₁, d₂, hsplit', ?_⟩
          intro a ha
          by_cases hena : a.enabled = true
          · simp [hena, hfirst' a ha hena]
          · simp [hena]
        rw [hi] at hi'
        cases hi'
        rfl
    · rename_i hnone
      rw [List.find?_eq_none] at hnone
      refine ⟨(fun h => by cases h), fun ⟨_, c₁, i, c₂, hsplit, hen, hbad, _⟩ => ?_⟩
      have := hnone i (by simp [hsplit])
      simp [hen, hbad] at this
  · rw [validate_tooDeep (Nat.lt_of_not_le hlen)]
    exact ⟨(fun h => by cases h), fun h => absurd h.1 hlen⟩

/-- Validation reports a chain too deep exactly past the depth limit, with the chain's length. -/
theorem validate_eq_tooDeep_iff {reg : Registry} {chain : List EffectInstance} {d m : Nat} :
    validate reg chain = .error (.pipeline (.chainTooDeep d m)) ↔
      maxChainDepth < chain.length ∧ d = chain.length ∧ m = maxChainDepth := by
  by_cases hlen : chain.length ≤ maxChainDepth
  · rw [validate_of_le hlen]
    refine ⟨fun h => ?_, fun h => absurd h.1 (Nat.not_lt.2 hlen)⟩
    split at h <;> cases h
  · rw [validate_tooDeep (Nat.lt_of_not_le hlen)]
    constructor
    · intro h
      cases h
      exact ⟨Nat.lt_of_not_le hlen, rfl, rfl⟩
    · rintro ⟨-, rfl, rfl⟩
      rfl

theorem apply_tooDeep (f : Frame) {chain : List EffectInstance}
    (h : maxChainDepth < chain.length) :
    apply c f chain = .error (.pipeline (.chainTooDeep chain.length maxChainDepth)) := by
  simp [apply, checkDepth, h, bind, Except.bind]

/-- A run meets a pipeline error only at an enabled instance with an unknown id, all enabled
instances before it being registered. -/
theorem apply_policy_error (hR : c.registry.RaisesNoPolicyError) {f : Frame}
    {chain : List EffectInstance} {q : PipelineError} (hlen : chain.length ≤ maxChainDepth)
    (h : apply c f chain = .error (.pipeline q)) :
    ∃ c₁ i c₂, chain = c₁ ++ i :: c₂ ∧ i.enabled = true ∧ c.registry.has i.effectId = false ∧
      q = .unknownEffect i.effectId ∧ ∀ i' ∈ c₁, i'.enabled = true → c.registry.has i'.effectId = true := by
  rw [apply_eq_foldlM c f hlen] at h
  obtain ⟨c₁, i, c₂, acc', rfl, h₁, h₂⟩ := foldlM_error h
  obtain ⟨hen, hnone, rfl⟩ := step_policy_error hR h₂
  exact ⟨c₁, i, c₂, rfl, hen, by simp [Registry.has, hnone], rfl, has_of_foldlM h₁⟩

theorem apply_eq_tooDeep_iff (hR : c.registry.RaisesNoPolicyError) {f : Frame}
    {chain : List EffectInstance} {d m : Nat} :
    apply c f chain = .error (.pipeline (.chainTooDeep d m)) ↔
      validate c.registry chain = .error (.pipeline (.chainTooDeep d m)) := by
  rw [validate_eq_tooDeep_iff]
  by_cases hlen : chain.length ≤ maxChainDepth
  · refine ⟨fun h => ?_, fun h => absurd h.1 (Nat.not_lt.2 hlen)⟩
    obtain ⟨_, _, _, -, -, -, hq, -⟩ := apply_policy_error hR hlen h
    cases hq
  · rw [apply_tooDeep f (Nat.lt_of_not_le hlen)]
    constructor
    · intro h
      cases h
      exact ⟨Nat.lt_of_not_le hlen, rfl, rfl⟩
    · rintro ⟨-, rfl, rfl⟩
      rfl

theorem apply_ne_policy_of_validate (hR : c.registry.RaisesNoPolicyError) {f : Frame}
    {chain : List EffectInstance} (hv : validate c.registry chain = .ok ()) (q : PipelineError) :
    apply c f chain ≠ .error (.pipeline q) := by
  obtain ⟨hlen, hall⟩ := validate_eq_ok_iff.1 hv
  intro h
  obtain ⟨c₁, i, c₂, rfl, hen, hbad, -, -⟩ := apply_policy_error hR hlen h
  have := hall i (by simp) hen
  simp [hbad] at this

theorem validate_of_apply_unknown (hR : c.registry.RaisesNoPolicyError) {f : Frame}
    {chain : List EffectInstance} {id : String}
    (h : apply c f chain = .error (.pipeline (.unknownEffect id))) :
    validate c.registry chain = .error (.pipeline (.unknownEffect id)) := by
  by_cases hlen : chain.length ≤ maxChainDepth
  · obtain ⟨c₁, i, c₂, hsplit, hen, hbad, hq, hfirst⟩ := apply_policy_error hR hlen h
    cases hq
    exact validate_eq_unknown_iff.2 ⟨hlen, c₁, i, c₂, hsplit, hen, hbad, rfl, hfirst⟩
  · rw [apply_tooDeep f (Nat.lt_of_not_le hlen)] at h
    cases h

theorem apply_ne_ok_of_validate_unknown {f : Frame} {chain : List EffectInstance} {id : String}
    (hv : validate c.registry chain = .error (.pipeline (.unknownEffect id)))
    (r : Frame × EffectStates) : apply c f chain ≠ .ok r := by
  obtain ⟨hlen, c₁, i, c₂, rfl, hen, hbad, -, -⟩ := validate_eq_unknown_iff.1 hv
  intro h
  rw [apply_eq_foldlM c f hlen] at h
  have := has_of_foldlM h i (by simp) hen
  simp [hbad] at this

end Chain

end Glitch
