import Glitch.Proofs.ChainValidation
import Glitch.Proofs.ExportTrace
/-!
The error names export jobs record. A job that fails records the category of what ended it: a
media fault, or the chain's error on a frame. The manager validates a chain before it starts a
job, and the worker then runs exactly that chain against the same registry. So when the effects
and the media report their own failures, never as pipeline errors, no job the manager accepted
records the pipeline's category, whatever the sequence of calls.

Main statement (`validation_agrees_with_runs`): validation and running agree on the chain's
policy errors, and no accepted job ends with the category `PipelineError`. The built-in
registry and the test-pattern backend meet the contract.
-/
namespace Glitch

/-- A media step that never fails with a pipeline error. -/
def MediaM.RaisesNoPolicyError {σ α : Type} (m : MediaM σ α) : Prop :=
  ∀ s q, (MediaBackend.attempt m s).1 ≠ .error (.error (.pipeline q))

/-- A backend none of whose steps fails with a pipeline error. -/
structure MediaBackend.RaisesNoPolicyError {σ : Type} (B : MediaBackend σ) : Prop where
  openReader : ∀ path, MediaM.RaisesNoPolicyError (B.openReader path)
  decodeFrame : ∀ i, MediaM.RaisesNoPolicyError (B.decodeFrame i)
  closeReader : MediaM.RaisesNoPolicyError B.closeReader
  openWriter : ∀ path res fps, MediaM.RaisesNoPolicyError (B.openWriter path res fps)
  writeFrame : ∀ f, MediaM.RaisesNoPolicyError (B.writeFrame f)
  closeWriter : MediaM.RaisesNoPolicyError B.closeWriter

theorem GlitchError.eq_pipeline_of_category {e : GlitchError} (h : e.category = "PipelineError") :
    ∃ q, e = .pipeline q := by
  cases e <;> simp_all [GlitchError.category]

theorem MediaM.RaisesNoPolicyError.category {σ α : Type} {m : MediaM σ α}
    (hm : MediaM.RaisesNoPolicyError m) {s : σ} {f : Fault} (h : (MediaBackend.attempt m s).1 = .error f) :
    f.category ≠ "PipelineError" := by
  intro hc
  cases f with
  | error e =>
    obtain ⟨q, rfl⟩ := GlitchError.eq_pipeline_of_category hc
    exact hm s q h
  | abort => simp [Fault.category] at hc

/-- A chain that validates fails, when it runs, with some other category than the pipeline's. -/
theorem Chain.category_of_validate {c : ChainContext} {f : Frame} {chain : List EffectInstance}
    {e : GlitchError} (hR : c.registry.RaisesNoPolicyError) (hv : validate c.registry chain = .ok ())
    (h : apply c f chain = .error e) : e.category ≠ "PipelineError" := by
  intro hc
  obtain ⟨q, rfl⟩ := GlitchError.eq_pipeline_of_category hc
  exact apply_ne_policy_of_validate hR hv q h

/-- What a stand keeps while no effect or media step fails with a pipeline error: a worker yet to
open, or in its frame loop, runs a chain that validates against `reg`; an ended render's fault, and
the sink's close, are not the pipeline's. -/
def Stand.Clean (reg : Registry) : Stand → Prop
  | .opening req => Chain.validate reg req.chain = .ok ()
  | .boundary w => Chain.validate reg w.request.chain = .ok ()
  | .before w => Chain.validate reg w.request.chain = .ok ()
  | .closing _ _ e => ∀ f, e = .failed f → f.category ≠ "PipelineError"
  | .closed e sf => (∀ f, e = .failed f → f.category ≠ "PipelineError") ∧ sf ≠ some "PipelineError"
  | .finished => True

/-- The name an ending records is not the pipeline's when neither its fault nor the sink's is. -/
theorem Worker.outcome_clean {e : Ending} {sf : Option String}
    (he : ∀ f, e = .failed f → f.category ≠ "PipelineError") (hsf : sf ≠ some "PipelineError") :
    (Worker.outcome e sf).2 ≠ some "PipelineError" := by
  cases e with
  | complete => cases sf <;> simp_all [Worker.outcome]
  | cancelled => simp [Worker.outcome]
  | failed f => simpa [Worker.outcome] using he f rfl

end Glitch

namespace Glitch.Worker

open Std.Do

set_option mvcgen.warning false

variable {σ : Type} (B : MediaBackend σ) (hB : B.RaisesNoPolicyError) (reg : Registry)
  (hR : reg.RaisesNoPolicyError) (now : Timestamp)

include hB

theorem closeMedia_clean (wo ro : Bool) (j : ExportJob) :
    ⦃fun st => ⌜st.1 = j⌝⦄ closeMedia B wo ro
    ⦃⇓ sf st => ⌜st.1 = j ∧ sf ≠ some "PipelineError"⌝⦄ := by
  mvcgen [closeMedia]
  all_goals refine ⟨‹_ = j›, ?_⟩
  all_goals exact fun h => hB.closeWriter.category ‹_› (Option.some.inj h)

omit hB in
theorem publish_clean (e : Ending) (sf : Option String) :
    ⦃fun st => ⌜st.1.error ≠ some "PipelineError" ∧ (Stand.closed e sf).Clean reg⌝⦄
    publish B now e sf
    ⦃⇓ s' st => ⌜st.1.error ≠ some "PipelineError" ∧ s'.Clean reg⌝⦄ := by
  mvcgen [publish]
  all_goals
    obtain ⟨-, he, hsf⟩ := ‹_ ∧ (Stand.closed e sf).Clean reg›
    exact ⟨outcome_clean he hsf, trivial⟩

omit hB in
theorem arrive_clean (w : Worker) :
    ⦃fun st => ⌜st.1.error ≠ some "PipelineError" ∧ (Stand.boundary w).Clean reg⌝⦄ arrive B w
    ⦃⇓ s' st => ⌜st.1.error ≠ some "PipelineError" ∧ s'.Clean reg⌝⦄ := by
  mvcgen [arrive]
  all_goals exact ⟨‹_ ∧ _›.1, by first | exact ‹_ ∧ _›.2 | exact fun _ h => Ending.noConfusion h⟩

theorem openMedia_clean (req : ExportRequest) :
    ⦃fun st => ⌜st.1.error ≠ some "PipelineError" ∧ (Stand.opening req).Clean reg⌝⦄
    openMedia B req
    ⦃⇓ s' st => ⌜st.1.error ≠ some "PipelineError" ∧ s'.Clean reg⌝⦄ := by
  mvcgen [openMedia]
  all_goals refine ⟨‹_ ∧ (Stand.opening req).Clean reg›.1, ?_⟩
  all_goals first
    | exact fun _ h => by cases h; exact (hB.openReader _).category ‹_›
    | exact fun _ h => by cases h; exact (hB.openWriter _ _ _).category ‹_›

include hR

theorem exportFrame_clean (w : Worker) :
    ⦃fun st => ⌜st.1.error ≠ some "PipelineError" ∧ (Stand.before w).Clean reg⌝⦄
    exportFrame B reg w
    ⦃⇓ s' st => ⌜st.1.error ≠ some "PipelineError" ∧ s'.Clean reg⌝⦄ := by
  mvcgen [exportFrame]
  all_goals
    obtain ⟨herr, hv⟩ := ‹_ ∧ (Stand.before w).Clean reg›
    have hv' : Chain.validate reg w.request.chain = .ok () := hv
    refine ⟨herr, fun _ h => ?_⟩
    cases h
  · exact (hB.decodeFrame _).category ‹_›
  · -- the chain failed on the frame, and it validated against the registry it runs on
    rw [Chain.applyLogged_fst] at *
    exact Chain.category_of_validate hR hv' ‹_›
  · exact (hB.writeFrame _).category ‹_›

/-- The step lemma: no step records the pipeline's category, and the worker keeps running a chain
that validates. -/
theorem step_clean (s : Stand) :
    ⦃fun st => ⌜st.1.error ≠ some "PipelineError" ∧ s.Clean reg⌝⦄ step B reg now s
    ⦃⇓ s' st => ⌜st.1.error ≠ some "PipelineError" ∧ s'.Clean reg⌝⦄ := by
  cases s with
  | opening req =>
    have h := openMedia_clean B hB reg req
    mvcgen [step, h]
  | boundary w =>
    have h := arrive_clean B reg w
    mvcgen [step, h]
  | before w =>
    have h := exportFrame_clean B hB reg hR w
    mvcgen [step, h]
  | closing wo ro e =>
    have h := closeMedia_clean B hB wo ro
    mvcgen [step, h]
    obtain ⟨herr, he⟩ := ‹_ ∧ (Stand.closing wo ro e).Clean reg›
    obtain ⟨hj, hsf⟩ := ‹_ = _ ∧ _ ≠ some "PipelineError"›
    exact ⟨hj ▸ herr, he, hsf⟩
  | closed e sf =>
    have h := publish_clean B reg now e sf
    mvcgen [step, h]
  | finished => mvcgen [step]

end Glitch.Worker

namespace Glitch.ExportManager

variable {σ : Type}

/-- What a manager keeps while none of its effects or media steps fails with a pipeline error:
the current job does not record the pipeline's category, and its worker stands clean. -/
structure Clean (m : ExportManager σ) : Prop where
  registry : m.registry.RaisesNoPolicyError
  backend : m.backend.RaisesNoPolicyError
  job : m.Satisfies fun s st => st.1.error ≠ some "PipelineError" ∧ s.Clean m.registry

theorem clean_new {reg : Registry} {B : MediaBackend σ} (hR : reg.RaisesNoPolicyError)
    (hB : B.RaisesNoPolicyError) (world : σ) : (new reg B world).Clean :=
  ⟨hR, hB, fun _ h => absurd h (Option.not_mem_none _)⟩

theorem Clean.start {m : ExportManager σ} (hc : m.Clean) (now : Timestamp) (req : ExportRequest) :
    (m.start now req).2.Clean := by
  rcases m.start_cases now req with ⟨e, h, -⟩ | ⟨-, h⟩
  · rw [h]
    exact hc
  · -- the new job starts with no error recorded, and its chain validated
    rw [h]
    refine ⟨hc.registry, hc.backend, fun j hj => ?_⟩
    cases hj
    refine ⟨by simp [startJob, ExportJob.markRunning, ExportJob.new], ?_⟩
    unfold ExportManager.start at h
    split at h
    · cases h
    · split at h
      · cases h
      · assumption

theorem Clean.cancel {m : ExportManager σ} (hc : m.Clean) : m.cancel.2.Clean := by
  rw [cancel_snd]
  refine ⟨hc.registry, hc.backend, fun j hj => ?_⟩
  obtain ⟨j₀, hj₀, rfl⟩ := Option.mem_map.1 hj
  obtain ⟨herr, hs⟩ := hc.job j₀ hj₀
  exact ⟨by simpa using herr, hs⟩

theorem Clean.step {m : ExportManager σ} (hc : m.Clean) (now : Timestamp) : (m.step now).Clean :=
  ⟨by simpa using hc.registry, by simpa using hc.backend, by
    simpa using hc.job.step now fun s =>
      Worker.step_clean m.backend hc.backend m.registry hc.registry now s⟩

theorem Clean.join {m : ExportManager σ} (hc : m.Clean) (now : Timestamp) : (m.join now).Clean :=
  ⟨by simpa using hc.registry, by simpa using hc.backend, by
    simpa using hc.job.join now fun s =>
      Worker.step_clean m.backend hc.backend m.registry hc.registry now s⟩

end Glitch.ExportManager

namespace Glitch.ExportSession

variable {σ : Type}

/-- A clean manager, and retired jobs that do not record the pipeline's category. -/
structure Clean (s : ExportSession σ) : Prop where
  manager : s.manager.Clean
  retired : ∀ j ∈ s.retired, j.error ≠ some "PipelineError"

theorem Clean.published {s : ExportSession σ} (hs : s.Clean) :
    ∀ j ∈ s.published, j.error ≠ some "PipelineError" := by
  intro j hj
  rcases List.mem_append.1 hj with hj | hj
  · exact hs.retired j hj
  · exact (hs.manager.job j (Option.mem_toList.1 hj)).1

theorem Clean.call {s : ExportSession σ} (hs : s.Clean) (c : ManagerCall) : (s.call c).Clean := by
  cases c with
  | start now req =>
    have hm := hs.manager.start now req
    rcases hstart : s.manager.start now req with ⟨_ | ⟨⟩, m⟩
    all_goals
      rw [hstart] at hm
      simp only [ExportSession.call, hstart]
    · exact ⟨hm, hs.retired⟩
    · exact ⟨hm, hs.published⟩
  | cancel => exact ⟨hs.manager.cancel, hs.retired⟩
  | status => exact hs
  | step now => exact ⟨hs.manager.step now, hs.retired⟩
  | join now => exact ⟨hs.manager.join now, hs.retired⟩

theorem Clean.run {s : ExportSession σ} (hs : s.Clean) (calls : List ManagerCall) : (s.run calls).Clean := by
  induction calls generalizing s with
  | nil => exact hs
  | cons c calls ih => exact ih (hs.call c)

end Glitch.ExportSession

namespace Glitch

/-! ## The built-in registry and the test-pattern backend -/

theorem Registry.RaisesNoPolicyError.register {R : Registry} {e : Effect} (hR : R.RaisesNoPolicyError)
    (he : e.RaisesNoPolicyError) : (R.register e).RaisesNoPolicyError := by
  intro d hd
  rcases Registry.mem_insertSorted hd with rfl | hd
  · exact he
  · exact hR d hd

theorem Registry.RaisesNoPolicyError.ofList {es : List Effect} (h : ∀ e ∈ es, e.RaisesNoPolicyError) :
    (Registry.ofList es).RaisesNoPolicyError := by
  unfold Registry.ofList
  suffices ∀ R : Registry, R.RaisesNoPolicyError → (es.foldl Registry.register R).RaisesNoPolicyError from
    this _ (fun _ h => absurd h List.not_mem_nil)
  induction es with
  | nil => exact fun _ hR => hR
  | cons e es ih =>
    intro R hR
    exact ih (fun d hd => h d (List.mem_cons_of_mem e hd)) _ (hR.register (h e List.mem_cons_self))

theorem Registry.builtin_raisesNoPolicyError : Registry.builtin.RaisesNoPolicyError := by
  apply Registry.RaisesNoPolicyError.ofList
  intro e he
  simp only [List.mem_cons, List.not_mem_nil, or_false] at he
  rcases he with rfl | rfl | rfl | rfl | rfl | rfl | rfl
  -- the shifts that read other pixels fail only where a read falls outside the frame
  all_goals
    intro _ _ _ _ _ h
    first
      | cases h
      | cases Effect.orPanic_error h

@[simp] theorem MediaM.run_get {σ : Type} (s : σ) :
    StateT.run (ExceptT.run (get : MediaM σ σ)) s = pure (.ok s, s) := rfl

@[simp] theorem MediaM.run_set {σ : Type} (s s' : σ) :
    StateT.run (ExceptT.run (set s' : MediaM σ PUnit)) s = pure (.ok ⟨⟩, s') := rfl

/-- The test-pattern backend refuses with video errors and aborts, never with a pipeline error. -/
theorem patternBackend_raisesNoPolicyError : patternBackend.RaisesNoPolicyError := by
  refine ⟨fun _ => ?_, fun _ => ?_, ?_, fun _ _ _ => ?_, fun _ => ?_, ?_⟩
  all_goals
    intro s q
    simp only [patternBackend, MediaBackend.attempt, PatternWorld.openReader, PatternWorld.decodeFrame,
      PatternWorld.closeReader, PatternWorld.openWriter, PatternWorld.writeFrame,
      PatternWorld.closeWriter, PatternWorld.refuse, ExceptT.run_bind, StateT.run_bind,
      MediaM.run_get, MediaM.run_set, pure_bind]
    split_ifs <;> intro h <;> cases h

/-! ## Validation against runs -/

/-- Validation and running agree on a chain's policy: on its depth both ways; a chain that
validates meets no pipeline error on any frame, states, seed, index or resolution; an unknown id
met while running is the one validation reports; and a chain refused for an unknown id never runs
to the end. So, over any calls and whenever the media raise no pipeline error of their own, no
job the manager accepted records the pipeline's category. -/
theorem validation_agrees_with_runs (R : Registry) (hR : R.RaisesNoPolicyError)
    (chain : List EffectInstance) :
    (∀ seed index res (S : EffectStates) f d m,
      Chain.validate R chain = .error (.pipeline (.chainTooDeep d m)) ↔
        Chain.apply ⟨R, seed, index, res, S⟩ f chain = .error (.pipeline (.chainTooDeep d m))) ∧
    (Chain.validate R chain = .ok () → ∀ seed index res (S : EffectStates) f q,
      Chain.apply ⟨R, seed, index, res, S⟩ f chain ≠ .error (.pipeline q)) ∧
    (∀ seed index res (S : EffectStates) f id,
      Chain.apply ⟨R, seed, index, res, S⟩ f chain = .error (.pipeline (.unknownEffect id)) →
        Chain.validate R chain = .error (.pipeline (.unknownEffect id))) ∧
    (∀ id, Chain.validate R chain = .error (.pipeline (.unknownEffect id)) →
      ∀ seed index res (S : EffectStates) f r, Chain.apply ⟨R, seed, index, res, S⟩ f chain ≠ .ok r) ∧
    ∀ {σ : Type} (B : MediaBackend σ), B.RaisesNoPolicyError → ∀ (world : σ) (calls : List ManagerCall),
      ∀ j ∈ ((ExportSession.new R B world).run calls).published, j.error ≠ some "PipelineError" := by
  have hc : ∀ seed index res S, (ChainContext.mk R seed index res S).registry.RaisesNoPolicyError :=
    fun _ _ _ _ => hR
  refine ⟨fun seed index res S _ _ _ => (Chain.apply_eq_tooDeep_iff (hc seed index res S)).symm,
    fun hv seed index res S _ q => Chain.apply_ne_policy_of_validate (hc seed index res S) hv q,
    fun seed index res S _ _ h => Chain.validate_of_apply_unknown (hc seed index res S) h,
    fun _ hv _ _ _ _ _ r => Chain.apply_ne_ok_of_validate_unknown hv r, ?_⟩
  intro σ B hB world calls
  -- a new session is clean, and every call keeps it so
  have hnew : (ExportSession.new R B world).Clean :=
    ⟨ExportManager.clean_new hR hB world, fun _ h => absurd h List.not_mem_nil⟩
  exact (hnew.run calls).published

theorem builtin_exports_record_no_policy_error :
    Registry.builtin.RaisesNoPolicyError ∧ ∀ calls, ∀ j ∈ ((ExportSession.new Registry.builtin
      patternBackend PatternWorld.empty).run calls).published, j.error ≠ some "PipelineError" :=
  ⟨Registry.builtin_raisesNoPolicyError,
    (validation_agrees_with_runs _ Registry.builtin_raisesNoPolicyError []).2.2.2.2 patternBackend
      patternBackend_raisesNoPolicyError PatternWorld.empty⟩

end Glitch
