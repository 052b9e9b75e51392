import Mathlib
import Glitch.Export.Manager
/-!
What a worker step does to its job. A job is published running; the worker keeps it running,
with its frame counter at the boundary it stands at, until its last step publishes a terminal
status. `ExportJob.Sound` collects what every published job satisfies and `ExportJob.Moves` how
a job may change between two observations. The worker's steps are specified as triples over its
job and world, each step function once, and `runFor_spec` carries any invariant that every step
keeps through a whole run. Every step of a worker that has opened its media, or failed to, lowers
the steps it has left, so a run to the end finishes.
-/
namespace Glitch

open Std.Do

set_option mvcgen.warning false

def ExportStatus.stage : ExportStatus → Nat
  | .idle => 0
  | .running => 1
  | _ => 2

def ErrorName (c : String) : Prop := (∃ e : GlitchError, c = e.category) ∨ c = "Panic"

theorem Fault.errorName_category (f : Fault) : ErrorName f.category := by
  cases f with
  | error e => exact .inl ⟨e, rfl⟩
  | abort => exact .inr rfl

namespace ExportJob

/-- What every published job satisfies. -/
structure Sound (j : ExportJob) : Prop where
  published : j.status ≠ .idle
  frame_le : j.currentFrame ≤ j.totalFrames
  running : j.status = .running → j.error = none
  complete : j.status = .complete → j.currentFrame = j.totalFrames ∧ j.error = none
  cancelled : j.status = .cancelled → j.currentFrame < j.totalFrames ∧ j.error = none
  error : j.status = .error → ∃ c, j.error = some c ∧ ErrorName c

/-- How a job may change: its status only goes forward and is fixed once terminal (the whole
job is then fixed), and its frame counter never goes back. -/
structure Moves (j j' : ExportJob) : Prop where
  stage_le : j.status.stage ≤ j'.status.stage
  frozen : j.status.isTerminal → j' = j
  frame_le : j.currentFrame ≤ j'.currentFrame

theorem Moves.refl (j : ExportJob) : Moves j j := ⟨le_rfl, fun _ => rfl, le_rfl⟩

theorem Moves.trans {j₁ j₂ j₃ : ExportJob} (h₁ : Moves j₁ j₂) (h₂ : Moves j₂ j₃) : Moves j₁ j₃ where
  stage_le := h₁.stage_le.trans h₂.stage_le
  frozen ht := by
    have e₁ := h₁.frozen ht
    rw [h₂.frozen (e₁ ▸ ht), e₁]
  frame_le := h₁.frame_le.trans h₂.frame_le

/-- From a running job, any job that is not idle and has not gone back is a move. -/
theorem moves_of_running {j j' : ExportJob} (h : j.status = .running) (h' : j'.status ≠ .idle)
    (hf : j.currentFrame ≤ j'.currentFrame) : Moves j j' where
  stage_le := by
    rw [h]
    cases hs : j'.status <;> simp_all [ExportStatus.stage]
  frozen ht := by simp [h, ExportStatus.isTerminal] at ht
  frame_le := hf

theorem moves_cancel (j : ExportJob) : Moves j j.cancel.2 := by
  unfold cancel
  split
  · exact ⟨le_rfl, fun h => by simp_all [ExportStatus.isTerminal], le_rfl⟩
  · exact Moves.refl j

/-- A job finished with a terminal status is sound when its counter and error agree with the
status. -/
theorem sound_finish_of {j : ExportJob} {s : ExportStatus} {err : Option String} (now : Timestamp)
    (hs : s.isTerminal) (hle : j.currentFrame ≤ j.totalFrames)
    (hcomplete : s = .complete → j.currentFrame = j.totalFrames ∧ err = none)
    (hcancel : s = .cancelled → j.currentFrame < j.totalFrames ∧ err = none)
    (herror : s = .error → ∃ c, err = some c ∧ ErrorName c) : (j.finish s err now).Sound where
  published h := by
    rw [show (j.finish s err now).status = s from rfl] at h
    simp [h, ExportStatus.isTerminal] at hs
  frame_le := hle
  running h := by
    rw [show (j.finish s err now).status = s from rfl] at h
    simp [h, ExportStatus.isTerminal] at hs
  complete := hcomplete
  cancelled := hcancel
  error := herror

/-- A job finished as an ending says is sound when the ending agrees with its counter. -/
theorem sound_finish {j : ExportJob} {e : Ending} {sf : Option String} (now : Timestamp)
    (hle : j.currentFrame ≤ j.totalFrames)
    (hcomplete : e = .complete → j.currentFrame = j.totalFrames)
    (hcancel : e = .cancelled → j.currentFrame < j.totalFrames)
    (hsf : ∀ c, sf = some c → ErrorName c) :
    (j.finish (Worker.outcome e sf).1 (Worker.outcome e sf).2 now).Sound := by
  -- each ending gives one terminal status; the other two conditions hold vacuously
  cases e with
  | complete =>
    cases sf with
    | none =>
      exact sound_finish_of now rfl hle (fun _ => ⟨hcomplete rfl, rfl⟩) ExportStatus.noConfusion
        ExportStatus.noConfusion
    | some c =>
      exact sound_finish_of now rfl hle ExportStatus.noConfusion ExportStatus.noConfusion
        fun _ => ⟨c, rfl, hsf c rfl⟩
  | cancelled =>
    exact sound_finish_of now rfl hle ExportStatus.noConfusion (fun _ => ⟨hcancel rfl, rfl⟩)
      ExportStatus.noConfusion
  | failed f =>
    exact sound_finish_of now rfl hle ExportStatus.noConfusion ExportStatus.noConfusion
      fun _ => ⟨f.category, rfl, f.errorName_category⟩

theorem isTerminal_outcome (e : Ending) (sf : Option String) :
    (Worker.outcome e sf).1.isTerminal := by
  cases e <;> (try cases sf) <;> rfl

end ExportJob

/-- The job of a worker that has come to the boundary before frame `w.next`. -/
structure Worker.AtBoundary (w : Worker) (j : ExportJob) : Prop where
  running : j.status = .running
  error : j.error = none
  frame : j.currentFrame = w.next
  total : j.totalFrames = w.info.frameCount
  next_le : w.next ≤ w.info.frameCount

/-- A running job may be concluded with `e` when its counter agrees with the ending. -/
structure Worker.Concludable (j : ExportJob) (e : Ending) : Prop where
  running : j.status = .running
  frame_le : j.currentFrame ≤ j.totalFrames
  complete : e = .complete → j.currentFrame = j.totalFrames
  cancelled : e = .cancelled → j.currentFrame < j.totalFrames

/-- What a stand says of its job: until the last step the job runs with no error, counting no
frame before the media open and then the frames before the boundary; an ended render agrees with
the count; and a finished worker's job is terminal and sound. -/
def Stand.Holds : Stand → ExportJob → Prop
  | .opening _, j => j.status = .running ∧ j.error = none ∧ j.currentFrame = 0
  | .boundary w, j => w.AtBoundary j
  | .before w, j => w.AtBoundary j ∧ w.next < w.info.frameCount
  | .closing _ _ e, j => Worker.Concludable j e ∧ j.error = none
  | .closed e sf, j => Worker.Concludable j e ∧ j.error = none ∧ ∀ c, sf = some c → ErrorName c
  | .finished, j => j.status.isTerminal ∧ j.Sound

def Stand.opened : Stand → Bool
  | .opening _ => false
  | _ => true

theorem ExportJob.sound_of_running {j : ExportJob} (hr : j.status = .running) (he : j.error = none)
    (hle : j.currentFrame ≤ j.totalFrames) : j.Sound :=
  ⟨by simp [hr], hle, fun _ => he, by simp [hr], by simp [hr], by simp [hr]⟩

theorem Stand.Holds.sound {st : Stand} {j : ExportJob} (h : st.Holds j) : j.Sound := by
  cases st with
  | opening req =>
    obtain ⟨hr, he, hf⟩ := h
    exact ExportJob.sound_of_running hr he (by omega)
  | boundary w => exact ExportJob.sound_of_running h.running h.error (by rw [h.frame, h.total]; exact h.next_le)
  | before w => exact ExportJob.sound_of_running h.1.running h.1.error (by rw [h.1.frame, h.1.total]; exact h.1.next_le)
  | closing wo ro e => exact ExportJob.sound_of_running h.1.running h.2 h.1.frame_le
  | closed e sf => exact ExportJob.sound_of_running h.1.running h.2.1 h.1.frame_le
  | finished => exact h.2

theorem Stand.Holds.running {st : Stand} {j : ExportJob} (h : st.Holds j) (hne : st ≠ .finished) :
    j.status = .running := by
  cases st with
  | opening req => exact h.1
  | boundary w => exact Worker.AtBoundary.running h
  | before w => exact h.1.running
  | closing wo ro e => exact h.1.running
  | closed e sf => exact h.1.running
  | finished => exact absurd rfl hne

theorem Stand.Holds.isTerminal_iff {st : Stand} {j : ExportJob} (h : st.Holds j) :
    j.status.isTerminal = true ↔ st = .finished := by
  by_cases hfin : st = .finished
  · subst hfin
    exact ⟨fun _ => rfl, fun _ => h.1⟩
  · simp [h.running hfin, ExportStatus.isTerminal, hfin]

namespace Worker

variable {σ : Type} (B : MediaBackend σ)

/-! ## The primitive steps -/

theorem media_eq {α : Type} (m : MediaM σ α) :
    media m = (do
      let st ← get
      let p := MediaBackend.attempt m st.2
      set (st.1, p.2)
      pure p.1 : WorkM σ (Except Fault α)) := rfl

@[spec] theorem media_spec {α : Type} (m : MediaM σ α)
    (Q : PostCond (Except Fault α) (.arg (ExportJob × σ) .pure)) :
    ⦃fun st => Q.1 (MediaBackend.attempt m st.2).1 (st.1, (MediaBackend.attempt m st.2).2)⦄
    media m ⦃Q⦄ := by
  rw [media_eq]
  mvcgen

@[spec] theorem say_spec (l : LogLine) (Q : PostCond Unit (.arg (ExportJob × σ) .pure)) :
    ⦃fun st => Q.1 () (st.1, B.log l st.2)⦄ say B l ⦃Q⦄ := by
  unfold say
  mvcgen

@[spec] theorem updateJob_spec (g : ExportJob → ExportJob)
    (Q : PostCond Unit (.arg (ExportJob × σ) .pure)) :
    ⦃fun st => Q.1 () (g st.1, st.2)⦄ (updateJob g : WorkM σ Unit) ⦃Q⦄ := by
  unfold updateJob
  mvcgen

@[spec] theorem job_spec (Q : PostCond ExportJob (.arg (ExportJob × σ) .pure)) :
    ⦃fun st => Q.1 st.1 st⦄ (job : WorkM σ ExportJob) ⦃Q⦄ := by
  unfold job
  mvcgen

@[spec] theorem forM_say_spec (ls : List LogLine) (Q : PostCond Unit (.arg (ExportJob × σ) .pure)) :
    ⦃fun st => Q.1 () (st.1, ls.foldl (fun s l => B.log l s) st.2)⦄ ls.forM (say B) ⦃Q⦄ := by
  induction ls generalizing Q with
  | nil => mvcgen
  | cons l ls ih =>
    simp only [List.forM]
    mvcgen [ih]

end Worker

end Glitch

namespace Glitch.Worker

open Std.Do

set_option mvcgen.warning false

variable {σ : Type} (B : MediaBackend σ) (reg : Registry) (now : Timestamp)

/-- A step specified over its job, read on one run from a given job and world. -/
theorem run_of_spec {α : Type} {x : WorkM σ α} {P : ExportJob × σ → Prop}
    {Q : α → ExportJob × σ → Prop} (h : ⦃fun st => ⌜P st⌝⦄ x ⦃⇓ r st => ⌜Q r st⌝⦄)
    (st : ExportJob × σ) (hp : P st) : Q (x.run st).1 (x.run st).2 :=
  StateM.of_wp_run_eq rfl (fun p : α × (ExportJob × σ) => Q p.1 p.2) (fun _ => h st hp)

theorem spec_of_run {α : Type} {x : WorkM σ α} {P : ExportJob × σ → Prop}
    {Q : α → ExportJob × σ → Prop} (h : ∀ st, P st → Q (x.run st).1 (x.run st).2) :
    ⦃fun st => ⌜P st⌝⦄ x ⦃⇓ r st => ⌜Q r st⌝⦄ := by
  intro st hst
  simp only [SPred.down_pure] at hst
  exact h st hst

/-! ## Runs -/

section Runs

variable (I : Stand → ExportJob × σ → Prop)
  (hstep : ∀ s, ⦃fun st => ⌜I s st⌝⦄ step B reg now s ⦃⇓ s' st => ⌜I s' st⌝⦄)

include hstep

theorem runFor_spec (n : Nat) (s : Stand) :
    ⦃fun st => ⌜I s st⌝⦄ runFor B reg now n s ⦃⇓ s' st => ⌜I s' st⌝⦄ := by
  induction n generalizing s with
  | zero => mvcgen [runFor]
  | succ n ih =>
    have h := hstep s
    mvcgen [runFor, h, ih]

theorem runOut_spec (s : Stand) :
    ⦃fun st => ⌜I s st⌝⦄ runOut B reg now s ⦃⇓ s' st => ⌜I s' st⌝⦄ := by
  have h := hstep s
  have hrun := runFor_spec B reg now I hstep
  mvcgen [runOut, h, hrun]

end Runs

/-! ## Each step on the job -/

/-- Closing keeps the job; a failing sink close is answered by an error name. -/
theorem closeMedia_spec (wo ro : Bool) (j : ExportJob) :
    ⦃fun st => ⌜st.1 = j⌝⦄ closeMedia B wo ro
    ⦃⇓ sf st => ⌜st.1 = j ∧ ∀ c, sf = some c → ErrorName c⌝⦄ := by
  mvcgen [closeMedia]
  all_goals simp_all [Fault.errorName_category]

/- The steps below are specified from an origin job `j₀`: a step started on a job that `j₀` has
moved to ends on a job that `j₀` has moved to, so the specifications chain through a run. -/

theorem publish_holds (e : Ending) (sf : Option String) (j₀ : ExportJob) :
    ⦃fun st => ⌜ExportJob.Moves j₀ st.1 ∧ (Stand.closed e sf).Holds st.1⌝⦄ publish B now e sf
    ⦃⇓ s' st => ⌜s' = .finished ∧ s'.Holds st.1 ∧ ExportJob.Moves j₀ st.1⌝⦄ := by
  mvcgen [publish]
  all_goals
    obtain ⟨hm, hc, -, hsf⟩ := ‹ExportJob.Moves j₀ _ ∧ (Stand.closed e sf).Holds _›
    have hsound := ExportJob.sound_finish now hc.frame_le hc.complete hc.cancelled hsf
    exact ⟨trivial, ⟨ExportJob.isTerminal_outcome e sf, hsound⟩,
      hm.trans (ExportJob.moves_of_running hc.running hsound.published le_rfl)⟩

theorem AtBoundary.concludable {w : Worker} {j : ExportJob} (hb : w.AtBoundary j)
    {e : Ending} (hcomplete : e = .complete → w.info.frameCount ≤ w.next)
    (hcancel : e = .cancelled → w.next < w.info.frameCount) : Concludable j e where
  running := hb.running
  frame_le := by rw [hb.frame, hb.total]; exact hb.next_le
  complete h := by rw [hb.frame, hb.total]; exact Nat.le_antisymm hb.next_le (hcomplete h)
  cancelled h := by rw [hb.frame, hb.total]; exact hcancel h

/-- At a boundary the worker completes past the last frame, stops on a cancel, or goes on to the
frame; either way it has fewer steps left. -/
theorem arrive_holds (w : Worker) (j₀ : ExportJob) :
    ⦃fun st => ⌜ExportJob.Moves j₀ st.1 ∧ (Stand.boundary w).Holds st.1⌝⦄ arrive B w
    ⦃⇓ s' st => ⌜s'.Holds st.1 ∧ ExportJob.Moves j₀ st.1 ∧ s'.opened ∧
      s'.stepsLeft < (Stand.boundary w).stepsLeft⌝⦄ := by
  mvcgen [arrive]
  all_goals obtain ⟨hm, hb⟩ := ‹ExportJob.Moves j₀ _ ∧ (Stand.boundary w).Holds _›
  · -- a cancel read before a frame that remains
    exact ⟨⟨hb.concludable Ending.noConfusion fun _ => ‹w.next < w.info.frameCount›, hb.error⟩,
      hm, rfl, by simp only [Stand.stepsLeft]; omega⟩
  · exact ⟨⟨hb, ‹w.next < w.info.frameCount›⟩, hm, rfl, by simp only [Stand.stepsLeft]; omega⟩
  · -- past the last frame
    exact ⟨⟨hb.concludable (fun _ => Nat.le_of_not_lt ‹¬w.next < w.info.frameCount›)
      Ending.noConfusion, hb.error⟩, hm, rfl, by simp only [Stand.stepsLeft]; omega⟩

theorem moves_setTotal {j : ExportJob} (h : j.status = .running) (n : Nat) :
    ExportJob.Moves j (j.setTotal n) :=
  ExportJob.moves_of_running h (by simp [ExportJob.setTotal, h]) le_rfl

/-- Opening the media reaches the first boundary, or ends the render on a fault. -/
theorem openMedia_holds (req : ExportRequest) (j₀ : ExportJob) :
    ⦃fun st => ⌜ExportJob.Moves j₀ st.1 ∧ (Stand.opening req).Holds st.1⌝⦄ openMedia B req
    ⦃⇓ s' st => ⌜s'.Holds st.1 ∧ ExportJob.Moves j₀ st.1 ∧ s'.opened⌝⦄ := by
  mvcgen [openMedia]
  all_goals obtain ⟨hm, hr, he, hf⟩ := ‹ExportJob.Moves j₀ _ ∧ (Stand.opening req).Holds _›
  · -- the source did not open
    exact ⟨⟨⟨hr, by simp [hf], Ending.noConfusion, Ending.noConfusion⟩, he⟩, hm, rfl⟩
  · -- the sink did not open
    exact ⟨⟨⟨hr, by simp [ExportJob.setTotal, hf], Ending.noConfusion, Ending.noConfusion⟩, he⟩,
      hm.trans (moves_setTotal hr _), rfl⟩
  · exact ⟨⟨hr, he, hf, rfl, Nat.zero_le _⟩, hm.trans (moves_setTotal hr _), rfl⟩

theorem moves_setCurrent {j : ExportJob} (h : j.status = .running) (n : Nat) :
    ExportJob.Moves j (j.setCurrent n) :=
  ExportJob.moves_of_running h (by simp [ExportJob.setCurrent, h]) (Nat.le_max_left _ _)

theorem AtBoundary.advance {w : Worker} {j : ExportJob} (hb : w.AtBoundary j)
    (hlt : w.next < w.info.frameCount) (states : EffectStates) :
    ({ w with states := states, next := w.next + 1 } : Worker).AtBoundary (j.setCurrent (w.next + 1)) where
  running := hb.running
  error := hb.error
  frame := by simp [ExportJob.setCurrent, hb.frame]
  total := hb.total
  next_le := hlt

/-- Exporting a frame reaches the next boundary, or ends the render on a failure; either way the
worker has fewer steps left. -/
theorem exportFrame_holds (w : Worker) (j₀ : ExportJob) :
    ⦃fun st => ⌜ExportJob.Moves j₀ st.1 ∧ (Stand.before w).Holds st.1⌝⦄ exportFrame B reg w
    ⦃⇓ s' st => ⌜s'.Holds st.1 ∧ ExportJob.Moves j₀ st.1 ∧ s'.opened ∧
      s'.stepsLeft < (Stand.before w).stepsLeft⌝⦄ := by
  mvcgen [exportFrame]
  all_goals obtain ⟨hm, hb, hlt⟩ := ‹ExportJob.Moves j₀ _ ∧ (Stand.before w).Holds _›
  all_goals first
    | exact ⟨⟨hb.concludable Ending.noConfusion Ending.noConfusion, hb.error⟩, hm, rfl,
        by simp only [Stand.stepsLeft]; omega⟩
    | exact ⟨hb.advance hlt _, hm.trans (moves_setCurrent hb.running _), rfl,
        by simp only [Stand.stepsLeft]; omega⟩

/-- A step keeps what the stand says of the job and moves the job; the worker has then opened
its media or failed to, and a worker that had has fewer steps left, or has finished. -/
theorem step_holds (s : Stand) (j₀ : ExportJob) :
    ⦃fun st => ⌜ExportJob.Moves j₀ st.1 ∧ s.Holds st.1⌝⦄ step B reg now s
    ⦃⇓ s' st => ⌜s'.Holds st.1 ∧ ExportJob.Moves j₀ st.1 ∧ s'.opened ∧
      (s.opened → s' = .finished ∨ s'.stepsLeft < s.stepsLeft)⌝⦄ := by
  cases s with
  | opening req =>
    have h := openMedia_holds B req j₀
    mvcgen [step, h]
    exact fun hs hm ho => ⟨hs, hm, ho, fun h => Bool.noConfusion h⟩
  | boundary w =>
    have h := arrive_holds B w j₀
    mvcgen [step, h]
    exact fun hs hm ho hlt => ⟨hs, hm, ho, fun _ => .inr hlt⟩
  | before w =>
    have h := exportFrame_holds B reg w j₀
    mvcgen [step, h]
    exact fun hs hm ho hlt => ⟨hs, hm, ho, fun _ => .inr hlt⟩
  | closing wo ro e =>
    have h := closeMedia_spec B wo ro
    mvcgen [step, h]
    obtain ⟨hm, hc, he⟩ := ‹ExportJob.Moves j₀ _ ∧ (Stand.closing wo ro e).Holds _›
    obtain ⟨hj, hsf⟩ := ‹_ = _ ∧ ∀ c, _ = some c → ErrorName c›
    rw [hj]
    exact ⟨⟨hc, he, hsf⟩, hm, rfl, fun _ => .inr (by simp [Stand.stepsLeft])⟩
  | closed e sf =>
    have h := publish_holds B now e sf j₀
    mvcgen [step, h]
    rintro rfl hs hm
    exact ⟨hs, hm, rfl, fun _ => .inl rfl⟩
  | finished =>
    mvcgen [step]
    obtain ⟨hm, hs⟩ := ‹ExportJob.Moves j₀ _ ∧ Stand.finished.Holds _›
    exact ⟨hs, hm, rfl, fun _ => .inl trivial⟩

theorem step_keeps (s : Stand) (j₀ : ExportJob) :
    ⦃fun st => ⌜ExportJob.Moves j₀ st.1 ∧ s.Holds st.1⌝⦄ step B reg now s
    ⦃⇓ s' st => ⌜ExportJob.Moves j₀ st.1 ∧ s'.Holds st.1⌝⦄ :=
  spec_of_run fun st h =>
    let r := run_of_spec (step_holds B reg now s j₀) st h
    ⟨r.2.1, r.1⟩

/-- A worker that has opened its media, or failed to, and is given as many steps as it has
left, finishes. -/
theorem runFor_finishes (n : Nat) (s : Stand) (j₀ : ExportJob) :
    ⦃fun st => ⌜ExportJob.Moves j₀ st.1 ∧ s.Holds st.1 ∧ s.opened ∧ s.stepsLeft ≤ n⌝⦄
    runFor B reg now n s
    ⦃⇓ s' st => ⌜s' = .finished ∧ s'.Holds st.1 ∧ ExportJob.Moves j₀ st.1⌝⦄ := by
  induction n generalizing s with
  | zero =>
    mvcgen [runFor]
    obtain ⟨hm, hs, ho, hleft⟩ := ‹ExportJob.Moves j₀ _ ∧ s.Holds _ ∧ _›
    cases s <;> simp_all [Stand.stepsLeft, Stand.opened]
  | succ n ih =>
    have h := step_holds B reg now s j₀
    mvcgen [runFor, h, ih]
    · exact ⟨‹ExportJob.Moves j₀ _ ∧ s.Holds _ ∧ _›.1, ‹ExportJob.Moves j₀ _ ∧ s.Holds _ ∧ _›.2.1⟩
    · obtain ⟨hs, hm, ho, hlow⟩ := ‹Stand.Holds _ _ ∧ ExportJob.Moves j₀ _ ∧ _›
      obtain ⟨-, -, ho₀, hleft⟩ := ‹ExportJob.Moves j₀ _ ∧ s.Holds _ ∧ _›
      refine ⟨hm, hs, ho, ?_⟩
      rcases hlow ho₀ with rfl | hlt
      · exact Nat.zero_le _
      · omega

theorem runOut_finishes (s : Stand) (j₀ : ExportJob) :
    ⦃fun st => ⌜ExportJob.Moves j₀ st.1 ∧ s.Holds st.1⌝⦄ runOut B reg now s
    ⦃⇓ s' st => ⌜s' = .finished ∧ s'.Holds st.1 ∧ ExportJob.Moves j₀ st.1⌝⦄ := by
  have h := step_holds B reg now s j₀
  have hrun := runFor_finishes B reg now
  mvcgen [runOut, h, hrun]
  obtain ⟨hs, hm, ho, -⟩ := ‹Stand.Holds _ _ ∧ ExportJob.Moves j₀ _ ∧ _›
  exact ⟨hm, hs, ho, le_rfl⟩

end Glitch.Worker
