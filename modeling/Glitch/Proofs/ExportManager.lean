import Glitch.Proofs.ExportWorker
/-!
The export manager under any sequence of calls: starts, cancels, status reads, and the steps of
the current job's worker, each a point where a cancel may land: while the media open, at a frame
boundary, past the check before a frame, or while the media close. A session keeps, beside the manager, the jobs it published before the
current one. Main statement: in every session reached from a new manager, the published jobs
are sound, only the current one can be running, a start is refused as a conflict exactly while
the current job runs and a refused start changes nothing, and each call moves every published
job forward and publishes at most one new job.
-/
namespace Glitch

theorem Chain.validate_error {reg : Registry} {chain : List EffectInstance} {e : GlitchError}
    (h : Chain.validate reg chain = .error e) : ∃ p, e = .pipeline p := by
  unfold validate checkDepth at h
  split at h
  · exact ⟨_, (Except.error.inj h).symm⟩
  · simp only [bind, Except.bind] at h
    split at h
    · exact ⟨_, (Except.error.inj h).symm⟩
    · cases h

namespace ExportJob

/-- Cancelling changes only the request flag, and only of a running job. -/
theorem cancel_eq (j : ExportJob) :
    j.cancel.2 = if j.status = .running then { j with cancelRequested := true } else j := by
  unfold cancel
  split <;> rfl

@[simp] theorem status_cancel (j : ExportJob) : j.cancel.2.status = j.status := by
  rw [cancel_eq]
  split <;> rfl

@[simp] theorem error_cancel (j : ExportJob) : j.cancel.2.error = j.error := by
  rw [cancel_eq]
  split <;> rfl

@[simp] theorem currentFrame_cancel (j : ExportJob) : j.cancel.2.currentFrame = j.currentFrame := by
  rw [cancel_eq]
  split <;> rfl

@[simp] theorem totalFrames_cancel (j : ExportJob) : j.cancel.2.totalFrames = j.totalFrames := by
  rw [cancel_eq]
  split <;> rfl

theorem cancel_terminal {j : ExportJob} (h : j.status.isTerminal) : j.cancel = (false, j) := by
  unfold cancel
  rw [if_neg]
  intro hr
  simp [hr, ExportStatus.isTerminal] at h

end ExportJob

theorem Worker.AtBoundary.cancel {w : Worker} {j : ExportJob} (h : w.AtBoundary j) :
    w.AtBoundary j.cancel.2 :=
  ⟨by simp [h.running], by simp [h.error], by simp [h.frame], by simp [h.total], h.next_le⟩

theorem Worker.Concludable.cancel {j : ExportJob} {e : Ending} (h : Worker.Concludable j e) :
    Worker.Concludable j.cancel.2 e :=
  ⟨by simp [h.running], by simpa using h.frame_le, by simpa using h.complete,
    by simpa using h.cancelled⟩

/-- A cancel keeps what the stand says of the job: it only sets the request flag. -/
theorem Stand.Holds.cancel {st : Stand} {j : ExportJob} (h : st.Holds j) : st.Holds j.cancel.2 := by
  cases st with
  | opening req => simpa [Stand.Holds] using h
  | boundary w => exact Worker.AtBoundary.cancel h
  | before w => exact ⟨h.1.cancel, h.2⟩
  | closing wo ro e => exact ⟨h.1.cancel, by simpa using h.2⟩
  | closed e sf => exact ⟨h.1.cancel, by simpa using h.2.1, h.2.2⟩
  | finished =>
    rw [ExportJob.cancel_terminal h.1]
    exact h

/-- The relation a step keeps between the jobs before and after it. -/
theorem Option.rel_moves_refl (o : Option ExportJob) : Option.Rel ExportJob.Moves o o := by
  cases o with
  | none => exact .none
  | some j => exact .some (ExportJob.Moves.refl j)

namespace ExportManager

open Std.Do

variable {σ : Type}

@[simp] theorem job_settle (m : ExportManager σ) (r : Stand × ExportJob × σ) :
    (m.settle r).job = some r.2.1 := rfl

@[simp] theorem stand_settle (m : ExportManager σ) (r : Stand × ExportJob × σ) :
    (m.settle r).stand = r.1 := rfl

@[simp] theorem world_settle (m : ExportManager σ) (r : Stand × ExportJob × σ) :
    (m.settle r).world = r.2.2 := rfl

@[simp] theorem registry_settle (m : ExportManager σ) (r : Stand × ExportJob × σ) :
    (m.settle r).registry = m.registry := rfl

@[simp] theorem backend_settle (m : ExportManager σ) (r : Stand × ExportJob × σ) :
    (m.settle r).backend = m.backend := rfl

theorem step_none {m : ExportManager σ} (h : m.job = none) (now : Timestamp) : m.step now = m := by
  simp [step, h]

theorem join_none {m : ExportManager σ} (h : m.job = none) (now : Timestamp) : m.join now = m := by
  simp [join, h]

@[simp] theorem registry_step (m : ExportManager σ) (now : Timestamp) :
    (m.step now).registry = m.registry := by
  unfold step
  split <;> rfl

@[simp] theorem backend_step (m : ExportManager σ) (now : Timestamp) :
    (m.step now).backend = m.backend := by
  unfold step
  split <;> rfl

@[simp] theorem registry_join (m : ExportManager σ) (now : Timestamp) :
    (m.join now).registry = m.registry := by
  unfold join
  split <;> rfl

@[simp] theorem backend_join (m : ExportManager σ) (now : Timestamp) :
    (m.join now).backend = m.backend := by
  unfold join
  split <;> rfl

theorem cancel_snd (m : ExportManager σ) : m.cancel.2 = { m with job := m.job.map (·.cancel.2) } := by
  rcases m with ⟨reg, B, world, _ | j, stand⟩ <;> rfl

/-! ## Invariants of the worker, carried by the manager -/

/-- The current job, the world and where the worker stands satisfy `I`. -/
def Satisfies (I : Stand → ExportJob × σ → Prop) (m : ExportManager σ) : Prop :=
  ∀ j ∈ m.job, I m.stand (j, m.world)

section Satisfies

variable {I : Stand → ExportJob × σ → Prop} {m : ExportManager σ} (now : Timestamp)
  (hstep : ∀ s, ⦃fun st => ⌜I s st⌝⦄ Worker.step m.backend m.registry now s ⦃⇓ s' st => ⌜I s' st⌝⦄)

include hstep

/-- What every worker step keeps, the manager's step keeps. -/
theorem Satisfies.step (h : m.Satisfies I) : (m.step now).Satisfies I := by
  unfold ExportManager.step
  split
  · rename_i j hj
    intro j' hj'
    cases hj'
    exact Worker.run_of_spec (hstep m.stand) (j, m.world) (h j hj)
  · exact h

theorem Satisfies.join (h : m.Satisfies I) : (m.join now).Satisfies I := by
  unfold ExportManager.join
  split
  · rename_i j hj
    intro j' hj'
    cases hj'
    exact Worker.run_of_spec (Worker.runOut_spec m.backend m.registry now I hstep m.stand)
      (j, m.world) (h j hj)
  · exact h

end Satisfies

/-- The manager's invariant: the current job is what its worker's stand says, and there is no
worker without a job. -/
structure Inv (m : ExportManager σ) : Prop where
  holds : ∀ j ∈ m.job, m.stand.Holds j
  no_job : m.job = none → m.stand = .finished

theorem inv_new (reg : Registry) (B : MediaBackend σ) (world : σ) : (new reg B world).Inv :=
  ⟨fun _ h => (nomatch h), fun _ => rfl⟩

/-- A job that is not running under the invariant is finished. -/
theorem Inv.terminal {m : ExportManager σ} (hi : m.Inv) (hr : m.isRunning = false) :
    ∀ j ∈ m.job, j.status.isTerminal := by
  intro j hj
  have hj' : m.job = some j := hj
  have hs := hi.holds j hj
  rw [hs.isTerminal_iff]
  by_contra hne
  -- until its last step the worker's job runs
  simp [isRunning, hj', hs.running hne] at hr

/-! ## Starting -/

def startJob (now : Timestamp) (req : ExportRequest) : ExportJob :=
  (ExportJob.new req.outputPath).markRunning now

/-- What a start can do: refuse and change nothing, or publish a new running job whose worker is
to open its media. -/
theorem start_cases (m : ExportManager σ) (now : Timestamp) (req : ExportRequest) :
    (∃ e, m.start now req = (.error e, m) ∧
      (e = .export .conflict ↔ m.isRunning = true)) ∨
    (m.isRunning = false ∧ m.start now req = (.ok (), { m with
      job := some (startJob now req), world := m.backend.log (startLine req) m.world,
      stand := .opening req })) := by
  unfold start
  split
  · exact .inl ⟨_, rfl, by simp_all⟩
  · split
    · rename_i e he
      obtain ⟨p, rfl⟩ := Chain.validate_error he
      exact .inl ⟨_, rfl, by simp_all⟩
    · exact .inr ⟨by simpa using ‹¬m.isRunning = true›, rfl⟩

/-- A start is refused as a conflict exactly while the current job runs. -/
theorem start_conflict_iff (m : ExportManager σ) (now : Timestamp) (req : ExportRequest) :
    (m.start now req).1 = .error (.export .conflict) ↔ m.isRunning = true := by
  rcases start_cases m now req with ⟨e, h, he⟩ | ⟨hr, h⟩
  · rw [h, ← he]
    exact ⟨fun h' => Except.error.inj h', fun h' => h' ▸ rfl⟩
  · rw [h, hr]
    simp

theorem start_refused {m : ExportManager σ} {now : Timestamp} {req : ExportRequest} {e : GlitchError}
    (h : (m.start now req).1 = .error e) : (m.start now req).2 = m := by
  rcases start_cases m now req with ⟨e', h', -⟩ | ⟨-, h'⟩
  · rw [h']
  · rw [h'] at h
    cases h

theorem Inv.start (m : ExportManager σ) (now : Timestamp) (req : ExportRequest) :
    ({ m with
      job := some (startJob now req), world := m.backend.log (startLine req) m.world,
      stand := .opening req } : ExportManager σ).Inv :=
  ⟨fun j hj => by cases hj; exact ⟨rfl, rfl, rfl⟩, fun h => (nomatch h)⟩

/-! ## Cancelling and the worker's steps -/

theorem Inv.cancel {m : ExportManager σ} (hi : m.Inv) :
    m.cancel.2.Inv ∧ Option.Rel ExportJob.Moves m.job m.cancel.2.job := by
  rw [cancel_snd]
  cases hj : m.job with
  | none => exact ⟨⟨fun _ h => (nomatch h), fun _ => hi.no_job hj⟩, .none⟩
  | some j =>
    refine ⟨⟨fun j' hj' => ?_, fun h => (nomatch h)⟩, .some (ExportJob.moves_cancel j)⟩
    cases hj'
    exact (hi.holds j hj).cancel

/-- The invariant and the moves of the job, through one worker step or a run to the end. -/
theorem Inv.run {m : ExportManager σ} (hi : m.Inv) {m' : ExportManager σ}
    (hrun : ∀ j₀ : ExportJob, m.Satisfies (fun s st => ExportJob.Moves j₀ st.1 ∧ s.Holds st.1) →
      m'.Satisfies (fun s st => ExportJob.Moves j₀ st.1 ∧ s.Holds st.1))
    (hnone : m.job = none → m' = m) (hsome : m.job.isSome → m'.job.isSome) :
    m'.Inv ∧ Option.Rel ExportJob.Moves m.job m'.job := by
  cases hj : m.job with
  | none =>
    rw [hnone hj, hj]
    exact ⟨hi, .none⟩
  | some j =>
    have h := hrun j fun j' hj' => by
      obtain rfl : j = j' := Option.some.inj (hj.symm.trans hj')
      exact ⟨ExportJob.Moves.refl j, hi.holds j hj⟩
    obtain ⟨j', hj'⟩ := Option.isSome_iff_exists.1 (hsome (by simp [hj]))
    exact ⟨⟨fun k hk => (h k hk).2, fun h => by simp [h] at hj'⟩, hj' ▸ .some (h j' hj').1⟩

theorem step_isSome (m : ExportManager σ) (now : Timestamp) (h : m.job.isSome) :
    (m.step now).job.isSome := by
  unfold step
  split <;> simp_all

theorem join_isSome (m : ExportManager σ) (now : Timestamp) (h : m.job.isSome) :
    (m.join now).job.isSome := by
  unfold join
  split <;> simp_all

theorem Inv.step {m : ExportManager σ} (hi : m.Inv) (now : Timestamp) :
    (m.step now).Inv ∧ Option.Rel ExportJob.Moves m.job (m.step now).job :=
  hi.run (fun j₀ h => h.step now fun s => Worker.step_keeps m.backend m.registry now s j₀)
    (fun h => step_none h now) (step_isSome m now)

theorem Inv.join {m : ExportManager σ} (hi : m.Inv) (now : Timestamp) :
    (m.join now).Inv ∧ Option.Rel ExportJob.Moves m.job (m.join now).job :=
  hi.run (fun j₀ h => h.join now fun s => Worker.step_keeps m.backend m.registry now s j₀)
    (fun h => join_none h now) (join_isSome m now)

/-- A cancel leaves a manager whose job has finished as it is. -/
theorem cancel_finished {m : ExportManager σ} (hj : ∀ j ∈ m.job, j.status.isTerminal) :
    m.cancel.2 = m := by
  rcases m with ⟨reg, B, world, _ | j, stand⟩
  · rfl
  · simp [cancel, ExportJob.cancel_terminal (hj j rfl)]

theorem step_of_finished {m : ExportManager σ} (h : m.stand = .finished) (now : Timestamp) :
    m.step now = m := by
  unfold ExportManager.step
  split
  · rename_i j hj
    rcases m with ⟨reg, B, world, job, stand⟩
    simp only at h hj
    subst h hj
    rfl
  · rfl

theorem join_of_finished {m : ExportManager σ} (h : m.stand = .finished) (now : Timestamp) :
    m.join now = m := by
  unfold ExportManager.join
  split
  · rename_i j hj
    rcases m with ⟨reg, B, world, job, stand⟩
    simp only at h hj
    subst h hj
    rfl
  · rfl

theorem Inv.join_finished {m : ExportManager σ} (hi : m.Inv) (now : Timestamp) :
    (m.join now).stand = .finished := by
  unfold ExportManager.join
  split
  · rename_i j hj
    exact (Worker.run_of_spec (Worker.runOut_finishes m.backend m.registry now m.stand j)
      (j, m.world) ⟨ExportJob.Moves.refl j, hi.holds j hj⟩).1
  · exact hi.no_job ‹_›

end ExportManager

/-! ## Sessions -/

/-- A call on an export manager: the four calls of its interface, and one step of the current
job's worker. -/
inductive ManagerCall where
  | start (now : Timestamp) (req : ExportRequest)
  | cancel
  | status
  | step (now : Timestamp)
  | join (now : Timestamp)

/-- A manager with the jobs it published before its current one, oldest first. -/
structure ExportSession (σ : Type) where
  manager : ExportManager σ
  retired : List ExportJob

/-- How the published jobs may change in one call: each moves as a job may, and at most one new
job is published after them, one that was created idle and marked running before its worker
moved it. -/
def Advances (ps ps' : List ExportJob) : Prop :=
  ∃ qs fresh, ps' = qs ++ fresh ∧ List.Forall₂ ExportJob.Moves ps qs ∧
    (fresh = [] ∨ ∃ path t j, fresh = [j] ∧ ExportJob.Moves ((ExportJob.new path).markRunning t) j)

theorem Advances.of_rel (l : List ExportJob) {o o' : Option ExportJob}
    (h : Option.Rel ExportJob.Moves o o') : Advances (l ++ o.toList) (l ++ o'.toList) := by
  refine ⟨_, [], (List.append_nil _).symm, List.rel_append ?_ ?_, .inl rfl⟩
  · exact List.forall₂_same.2 fun j _ => ExportJob.Moves.refl j
  · cases h with
    | some h => exact .cons h .nil
    | none => exact .nil

namespace ExportSession

variable {σ : Type}

def new (reg : Registry) (B : MediaBackend σ) (world : σ) : ExportSession σ :=
  ⟨ExportManager.new reg B world, []⟩

/-- Every job published so far, the current one last. -/
def published (s : ExportSession σ) : List ExportJob := s.retired ++ s.manager.job.toList

/-- One call; a start that succeeds retires the current job. -/
def call (s : ExportSession σ) : ManagerCall → ExportSession σ
  | .start now req =>
    match s.manager.start now req with
    | (.ok (), m) => ⟨m, s.published⟩
    | (.error _, m) => ⟨m, s.retired⟩
  | .cancel => ⟨s.manager.cancel.2, s.retired⟩
  | .status => s
  | .step now => ⟨s.manager.step now, s.retired⟩
  | .join now => ⟨s.manager.join now, s.retired⟩

def run (s : ExportSession σ) (calls : List ManagerCall) : ExportSession σ := calls.foldl call s

/-- The session's invariant: the manager's, and retired jobs are finished and sound. -/
structure Inv (s : ExportSession σ) : Prop where
  manager : s.manager.Inv
  retired : ∀ j ∈ s.retired, j.status.isTerminal ∧ j.Sound

theorem inv_new (reg : Registry) (B : MediaBackend σ) (world : σ) : (new reg B world).Inv :=
  ⟨ExportManager.inv_new reg B world, fun _ h => (nomatch h)⟩

/-- The step lemma: one call keeps the invariant and advances the published jobs. -/
theorem Inv.call {s : ExportSession σ} (hs : s.Inv) (c : ManagerCall) :
    (s.call c).Inv ∧ Advances s.published (s.call c).published := by
  cases c with
  | start now req =>
    rcases s.manager.start_cases now req with ⟨e, h, -⟩ | ⟨hr, h⟩
    · simp only [ExportSession.call, h]
      exact ⟨hs, Advances.of_rel s.retired (Option.rel_moves_refl _)⟩
    · simp only [ExportSession.call, h]
      refine ⟨⟨ExportManager.Inv.start s.manager now req, fun j hj => ?_⟩,
        ⟨_, _, rfl, List.forall₂_same.2 fun j _ => .refl j, .inr ⟨_, _, _, rfl, .refl _⟩⟩⟩
      -- the retired jobs are the old ones and the job that was current, which is not running
      rcases List.mem_append.1 hj with hj | hj
      · exact hs.retired j hj
      · have hj : j ∈ s.manager.job := Option.mem_toList.1 hj
        exact ⟨hs.manager.terminal hr j hj, (hs.manager.holds j hj).sound⟩
  | cancel =>
    obtain ⟨hi, hrel⟩ := hs.manager.cancel
    exact ⟨⟨hi, hs.retired⟩, Advances.of_rel s.retired hrel⟩
  | status => exact ⟨hs, Advances.of_rel s.retired (Option.rel_moves_refl _)⟩
  | step now =>
    obtain ⟨hi, hrel⟩ := hs.manager.step now
    exact ⟨⟨hi, hs.retired⟩, Advances.of_rel s.retired hrel⟩
  | join now =>
    obtain ⟨hi, hrel⟩ := hs.manager.join now
    exact ⟨⟨hi, hs.retired⟩, Advances.of_rel s.retired hrel⟩

/-- The run lemma: the invariant holds after any sequence of calls. -/
theorem Inv.run {s : ExportSession σ} (hs : s.Inv) (calls : List ManagerCall) : (s.run calls).Inv := by
  induction calls generalizing s with
  | nil => exact hs
  | cons c calls ih => exact ih (hs.call c).1

theorem Inv.sound {s : ExportSession σ} (hs : s.Inv) : ∀ j ∈ s.published, j.Sound := by
  intro j hj
  rcases List.mem_append.1 hj with hj | hj
  · exact (hs.retired j hj).2
  · exact (hs.manager.holds j (Option.mem_toList.1 hj)).sound

theorem Inv.running_current {s : ExportSession σ} (hs : s.Inv) :
    ∀ j ∈ s.published, j.status = .running → s.manager.job = some j := by
  intro j hj hr
  rcases List.mem_append.1 hj with hj | hj
  · have := (hs.retired j hj).1
    simp [hr, ExportStatus.isTerminal] at this
  · exact Option.mem_toList.1 hj

theorem Inv.countP_running {s : ExportSession σ} (hs : s.Inv) :
    s.published.countP (fun j => j.status == .running) ≤ 1 := by
  have h₀ : s.retired.countP (fun j => j.status == .running) = 0 := by
    rw [List.countP_eq_zero]
    intro j hj
    have := (hs.retired j hj).1
    cases hst : j.status <;> simp_all [ExportStatus.isTerminal]
  have h₁ : s.manager.job.toList.countP (fun j => j.status == .running) ≤ 1 :=
    (List.countP_le_length).trans (by cases s.manager.job <;> simp)
  rw [published, List.countP_append, h₀]
  omega

/-- Under any sequence of calls on a new manager, and whatever the media do: at most one
published job is running and it is the current one; every published job is sound; a start is
refused as a conflict exactly while the current job runs, and a refused start changes nothing;
and the next call moves every published job forward and publishes at most one new job. -/
theorem published_jobs_stay_sound (reg : Registry) (B : MediaBackend σ) (world : σ)
    (calls : List ManagerCall) :
    let s := (new reg B world).run calls
    s.published.countP (fun j => j.status == .running) ≤ 1 ∧
    (∀ j ∈ s.published, j.status = .running → s.manager.job = some j) ∧
    (∀ j ∈ s.published, j.Sound) ∧
    (∀ now req, ((s.manager.start now req).1 = .error (.export .conflict) ↔
        s.manager.isRunning = true) ∧
      ∀ e, (s.manager.start now req).1 = .error e → (s.manager.start now req).2 = s.manager) ∧
    ∀ c, Advances s.published (s.call c).published := by
  intro s
  have hs : s.Inv := (inv_new reg B world).run calls
  exact ⟨hs.countP_running, hs.running_current, hs.sound,
    fun now req => ⟨s.manager.start_conflict_iff now req, fun _ h => ExportManager.start_refused h⟩,
    fun c => (hs.call c).2⟩

end ExportSession

end Glitch
