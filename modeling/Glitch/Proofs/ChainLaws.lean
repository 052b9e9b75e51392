import Glitch.Proofs.KeyedList
import Glitch.Chain
/-!
The effect chain under composition. A chain cut in two runs as its first part and then its second
on the first part's output frame, both parts reading their states from the same incoming map, and
the two returned maps merged with the second part's entries winning. Disabled instances take no
part in a run. Main statement: these two laws, and what follows from them for a run that
succeeds: its map holds exactly the ids of the enabled instances, each with the state of its last
enabled run, and that run read its state from the incoming map, not from an earlier run of the
same chain.
-/
namespace Glitch

theorem bind_eq_ok {ε α β : Type} {x : Except ε α} {g : α → Except ε β} {b : β} :
    x >>= g = .ok b ↔ ∃ a, x = .ok a ∧ g a = .ok b := by
  cases x <;> simp [bind, Except.bind]

namespace EffectStates

/-- `s` overridden by `t`: every entry of `t` put into `s`, replacing the entry of its id. -/
def override (s t : EffectStates) : EffectStates :=
  t.entries.foldr (fun e acc => acc.insert e.1 e.2) s

variable {s t : EffectStates}

@[simp] theorem get?_empty (a : String) : empty.get? a = none := rfl

@[simp] theorem get?_insert (id : String) (st : Option EffectState) (a : String) :
    (s.insert id st).get? a = if a = id then some st else s.get? a :=
  Keyed.lookup_insertKey id st s.entries a

theorem get?_foldr_insert (es : List (String × Option EffectState)) (a : String) :
    (es.foldr (fun e acc => acc.insert e.1 e.2) s).get? a = (es.lookup a).or (s.get? a) := by
  induction es with
  | nil => rfl
  | cons e es ih =>
    obtain ⟨k, v⟩ := e
    rw [List.foldr_cons, get?_insert, ih]
    by_cases ha : a = k <;> simp [ha]

@[simp] theorem get?_override (a : String) : (s.override t).get? a = (t.get? a).or (s.get? a) :=
  get?_foldr_insert t.entries a

theorem ext (h : ∀ a, s.get? a = t.get? a) : s = t := by
  rcases s with ⟨es, hs⟩
  rcases t with ⟨es', ht⟩
  obtain rfl := Keyed.eq_of_lookup_eq hs ht h
  rfl

theorem override_empty (s : EffectStates) : s.override empty = s := rfl

theorem insert_override (id : String) (st : Option EffectState) :
    (s.override t).insert id st = s.override (t.insert id st) :=
  ext fun a => by by_cases ha : a = id <;> simp [ha]

end EffectStates

namespace Chain

variable (c : ChainContext)

theorem checkDepth_of_le {chain : List EffectInstance} (h : chain.length ≤ maxChainDepth) :
    checkDepth chain = .ok () := by
  simp [checkDepth, Nat.not_lt.2 h]

theorem length_le_of_apply {f f' : Frame} {chain : List EffectInstance} {S : EffectStates}
    (h : apply c f chain = .ok (f', S)) : chain.length ≤ maxChainDepth := by
  unfold apply checkDepth at h
  split at h
  · cases h
  · omega

theorem apply_eq_foldlM (f : Frame) {chain : List EffectInstance}
    (h : chain.length ≤ maxChainDepth) :
    apply c f chain = chain.foldlM (step c) (f, EffectStates.empty) := by
  rw [apply, checkDepth_of_le h]
  rfl

/-- What one step can do: skip a disabled instance, or run an enabled one on the frame with its
state from the incoming map and record the state it returns. -/
theorem step_cases {f f' : Frame} {T T' : EffectStates} {i : EffectInstance}
    (h : step c (f, T) i = .ok (f', T')) :
    (i.enabled = false ∧ f' = f ∧ T' = T) ∨
    (i.enabled = true ∧ ∃ e st, c.registry.find? i.effectId = some e ∧
      Container.process e f i.runParams ((c.incoming.get? i.effectId).getD none) c.frameIndex
        c.projectSeed c.resolution = .ok (f', st) ∧ T' = T.insert i.effectId st) := by
  unfold step at h
  split at h
  · rename_i hen
    cases h
    exact .inl ⟨by simpa using hen, rfl, rfl⟩
  · rename_i hen
    split at h
    · cases h
    · rename_i e he
      split at h
      · rename_i out st hp
        cases h
        exact .inr ⟨by simpa using hen, e, st, he, hp, rfl⟩
      · cases h

theorem step_disabled (acc : Frame × EffectStates) {i : EffectInstance} (h : i.enabled = false) :
    step c acc i = .ok acc := by
  simp [step, h]

/-- A step reads the frame and the incoming map, never the states recorded so far: run over
`s` overridden by `T`, it records what it records over `T`. -/
theorem step_override (s : EffectStates) (f : Frame) (T : EffectStates)
    (i : EffectInstance) :
    step c (f, s.override T) i = (fun p => (p.1, s.override p.2)) <$> step c (f, T) i := by
  unfold step
  simp only
  split
  · rfl
  · split
    · rfl
    · -- the effect runs on the same frame with the same incoming state either way
      cases Container.process _ f i.runParams ((c.incoming.get? i.effectId).getD none) c.frameIndex
        c.projectSeed c.resolution with
      | error err => rfl
      | ok p =>
        obtain ⟨out, st⟩ := p
        show Except.ok (out, (s.override T).insert i.effectId st) =
          Except.ok (out, s.override (T.insert i.effectId st))
        rw [EffectStates.insert_override]

/-- The run lemma of `step_override`: a fold over `s` overridden by `T` is the fold over `T`,
overridden by `s` at the end. -/
theorem foldlM_override (s : EffectStates) (chain : List EffectInstance)
    (f : Frame) (T : EffectStates) :
    chain.foldlM (step c) (f, s.override T) =
      (fun p => (p.1, s.override p.2)) <$> chain.foldlM (step c) (f, T) := by
  induction chain generalizing f T with
  | nil => rfl
  | cons i chain ih =>
    simp only [List.foldlM_cons, step_override c s]
    cases step c (f, T) i with
    | error e => rfl
    | ok p => exact ih p.1 p.2

/-- A chain cut in two runs as its parts one after the other, the second on the first's output
and with the same incoming map, the returned maps merged with the second's entries winning; a
failure of the first part is the failure, and otherwise one of the second. -/
theorem apply_append (f : Frame) {c₁ c₂ : List EffectInstance}
    (h : c₁.length + c₂.length ≤ maxChainDepth) :
    apply c f (c₁ ++ c₂) = (do
      let (f₁, S₁) ← apply c f c₁
      let (f₂, S₂) ← apply c f₁ c₂
      pure (f₂, S₁.override S₂)) := by
  rw [apply_eq_foldlM c f (by simpa using h), apply_eq_foldlM c f (by omega), List.foldlM_append]
  cases hfirst : c₁.foldlM (step c) (f, EffectStates.empty) with
  | error e => rfl
  | ok p =>
    obtain ⟨f₁, S₁⟩ := p
    -- the second part starts from the first part's map, which is that map overridden by none
    simp only [bind, Except.bind]
    rw [← EffectStates.override_empty S₁, foldlM_override c S₁, apply_eq_foldlM c f₁ (by omega),
      EffectStates.override_empty]
    cases c₂.foldlM (step c) (f₁, EffectStates.empty) <;> rfl

theorem foldlM_filter_enabled (chain : List EffectInstance) (acc : Frame × EffectStates) :
    chain.foldlM (step c) acc = (chain.filter (·.enabled)).foldlM (step c) acc := by
  induction chain generalizing acc with
  | nil => rfl
  | cons i chain ih =>
    cases hen : i.enabled with
    | false =>
      rw [List.foldlM_cons, step_disabled c acc hen, List.filter_cons, hen]
      exact ih acc
    | true =>
      rw [List.foldlM_cons, List.filter_cons, hen, if_pos rfl, List.foldlM_cons]
      simp only [ih]

theorem apply_filter_enabled (f : Frame) {chain : List EffectInstance}
    (h : chain.length ≤ maxChainDepth) :
    apply c f chain = apply c f (chain.filter (·.enabled)) := by
  rw [apply_eq_foldlM c f h, apply_eq_foldlM c f ((List.length_filter_le _ _).trans h),
    foldlM_filter_enabled]

/-- A run records an id exactly when it was recorded before or an enabled instance names it. -/
theorem isSome_get?_foldlM {chain : List EffectInstance} {f f' : Frame} {T T' : EffectStates}
    (h : chain.foldlM (step c) (f, T) = .ok (f', T')) (a : String) :
    (T'.get? a).isSome ↔ (T.get? a).isSome ∨ ∃ i ∈ chain, i.enabled ∧ i.effectId = a := by
  induction chain generalizing f T with
  | nil =>
    cases h
    simp
  | cons i chain ih =>
    rw [List.foldlM_cons, bind_eq_ok] at h
    obtain ⟨⟨f₁, T₁⟩, hstep, hrest⟩ := h
    rw [ih hrest]
    rcases step_cases c hstep with ⟨hen, -, rfl⟩ | ⟨hen, e, st, -, -, rfl⟩
    · simp [hen]
    · by_cases ha : a = i.effectId
      · simp [ha, hen]
      · simp only [EffectStates.get?_insert, ha, if_false, List.mem_cons, exists_eq_or_imp]
        simp [Ne.symm ha]

theorem isSome_get?_apply {f f' : Frame} {chain : List EffectInstance} {S : EffectStates}
    (h : apply c f chain = .ok (f', S)) (a : String) :
    (S.get? a).isSome ↔ ∃ i ∈ chain, i.enabled ∧ i.effectId = a := by
  rw [apply_eq_foldlM c f (length_le_of_apply c h)] at h
  simpa using isSome_get?_foldlM c h a

/-- In a successful run an id holds the state of its last enabled instance, which ran on the
output of the instances before it with its state from the incoming map. -/
theorem get?_apply_last {f f' : Frame} {chain : List EffectInstance} {S : EffectStates}
    (h : apply c f chain = .ok (f', S)) {c₁ c₂ : List EffectInstance} {i : EffectInstance}
    (hsplit : chain = c₁ ++ i :: c₂) (hen : i.enabled = true)
    (hlast : ∀ i' ∈ c₂, i'.enabled = true → i'.effectId ≠ i.effectId) :
    ∃ f₁ S₁ e fi st, apply c f c₁ = .ok (f₁, S₁) ∧ c.registry.find? i.effectId = some e ∧
      Container.process e f₁ i.runParams ((c.incoming.get? i.effectId).getD none) c.frameIndex
        c.projectSeed c.resolution = .ok (fi, st) ∧
      S.get? i.effectId = some st := by
  have hlen := length_le_of_apply c h
  subst hsplit
  simp only [List.length_append, List.length_cons] at hlen
  rw [apply_append c f (by simpa using hlen), bind_eq_ok] at h
  obtain ⟨⟨f₁, S₁⟩, h₁, h⟩ := h
  rw [bind_eq_ok] at h
  obtain ⟨⟨f₂, S₂⟩, h₂, h⟩ := h
  cases h
  rw [← List.singleton_append, apply_append c f₁ (by simp; omega), bind_eq_ok] at h₂
  obtain ⟨⟨fi, Si⟩, hi, h₂⟩ := h₂
  rw [bind_eq_ok] at h₂
  obtain ⟨⟨f₃, S₃⟩, h₃, h₂⟩ := h₂
  cases h₂
  rw [apply_eq_foldlM c f₁ (by simp [maxChainDepth])] at hi
  simp only [List.foldlM_cons, List.foldlM_nil, bind_pure] at hi
  rcases step_cases c hi with ⟨hoff, -, -⟩ | ⟨-, e, st, he, hp, rfl⟩
  · simp [hen] at hoff
  have hnone : S₃.get? i.effectId = none := by
    refine Option.not_isSome_iff_eq_none.1 fun hsome => ?_
    obtain ⟨i', hi', hen', hid⟩ := (isSome_get?_apply c h₃ i.effectId).1 hsome
    exact hlast i' hi' hen' hid
  refine ⟨f₁, S₁, e, fi, st, h₁, he, hp, ?_⟩
  simp [hnone]

end Chain

/-- The laws of the effect chain. A chain cut in two, within the depth limit, runs as its first
part and then its second on the first part's output, both with the incoming map, the returned
maps merged with the second's entries winning, and the first failure in chain order returned;
a chain within the limit runs as its enabled instances. So a successful run's map holds exactly
the enabled ids, each with the state of its last enabled instance, which ran with its state
from the incoming map. -/
theorem chain_runs_as_its_parts (c : ChainContext) (f : Frame) :
    (∀ c₁ c₂ : List EffectInstance, c₁.length + c₂.length ≤ maxChainDepth →
      Chain.apply c f (c₁ ++ c₂) = (do
        let (f₁, S₁) ← Chain.apply c f c₁
        let (f₂, S₂) ← Chain.apply c f₁ c₂
        pure (f₂, S₁.override S₂))) ∧
    (∀ chain : List EffectInstance, chain.length ≤ maxChainDepth →
      Chain.apply c f chain = Chain.apply c f (chain.filter (·.enabled))) ∧
    ∀ chain f' S, Chain.apply c f chain = .ok (f', S) →
      (∀ a, (S.get? a).isSome ↔ ∃ i ∈ chain, i.enabled ∧ i.effectId = a) ∧
      ∀ c₁ i c₂, chain = c₁ ++ i :: c₂ → i.enabled = true →
        (∀ i' ∈ c₂, i'.enabled = true → i'.effectId ≠ i.effectId) →
        ∃ f₁ S₁ e fi st, Chain.apply c f c₁ = .ok (f₁, S₁) ∧ c.registry.find? i.effectId = some e ∧
          Container.process e f₁ i.runParams ((c.incoming.get? i.effectId).getD none)
            c.frameIndex c.projectSeed c.resolution = .ok (fi, st) ∧
          S.get? i.effectId = some st :=
  ⟨fun _ _ h => Chain.apply_append c f h, fun _ h => Chain.apply_filter_enabled c f h,
    fun _ _ _ h => ⟨Chain.isSome_get?_apply c h,
      fun _ _ _ hsplit hen hlast => Chain.get?_apply_last c h hsplit hen hlast⟩⟩

end Glitch
