import Glitch.Proofs.ExportTrace
/-!
A cancel that lands anywhere in an export. The worker reads the cancel flag at each boundary with
frames left, before it decodes the frame; a cancel answers `true` as long as the job runs, so it
may land while the media open, at a boundary, past the check before a frame, or while the media
close. From then on the worker passes at most one more frame to the writer: the frame whose check
it had passed. If a check still lay ahead of it (`Stand.CheckAhead`), the job ends cancelled or in
error, with fewer frames written than the source reported. A cancel past the check before the
last frame, during the closes, or while a source with no frames opens finds no check ahead, and
the job may complete.

Main statement (`cancelled_run_writes_at_most_one_more`): over any traced backend, a valid start,
any calls but starts, a cancel that answers `true`, any calls but starts and a join leave a
finished job that passed at most one more frame to the writer, and, if a check lay ahead of the
worker when the cancel landed, ended cancelled or in error with fewer frames written than its
total. Over the test-pattern backend a one-frame export cancelled past its only check completes
with that frame written (`cancel_before_last_frame_completes`).
-/
namespace Glitch

def MediaEvent.isWrite : MediaEvent → Bool
  | .write _ _ => true
  | _ => false

theorem Exported.countP_isWrite {reg : Registry} {req : ExportRequest} {info : SourceInfo}
    {ds : List Frame} {es : List MediaEvent} {S : EffectStates}
    (h : Exported reg req info ds es S) : es.countP MediaEvent.isWrite = ds.length := by
  induction h with
  | nil => rfl
  | snoc _ _ ih => simp [ih, MediaEvent.isWrite]

theorem Worker.Traced.countP_isWrite {reg : Registry} {w : Worker} {j : ExportJob}
    {t : List MediaEvent} (h : w.Traced reg j t) : t.countP MediaEvent.isWrite = w.next := by
  obtain ⟨ds, es, hex, hlen, rfl⟩ := h.exported
  rw [List.countP_append, hex.countP_isWrite, hlen]
  simp [opening, MediaEvent.isWrite]

theorem Worker.countP_closeEvents (wo ro : Bool) (rw rr : Except Fault Unit) :
    (Worker.closeEvents wo ro rw rr).countP MediaEvent.isWrite = 0 := by
  cases wo <;> cases ro <;> rfl

theorem Worker.outcome_ne_complete {e : Ending} (he : e ≠ .complete) (sf : Option String) :
    (Worker.outcome e sf).1 ≠ .complete := by
  cases e with
  | complete => exact absurd rfl he
  | cancelled => simp [Worker.outcome]
  | failed f => simp [Worker.outcome]

namespace Stand

/-- Whether the worker at a stand still has a check of the cancel flag ahead of it, unless the
run fails first, in an export of `total` frames: before opening a source with frames, at a
boundary with frames left, or past the check before a frame that is not the last. -/
def CheckAhead (total : Nat) : Stand → Prop
  | .opening _ => 0 < total
  | .boundary w => w.next < total
  | .before w => w.next + 1 < total
  | _ => False

def inFlight : Stand → Nat
  | .before _ => 1
  | _ => 0

/-- Where a run whose cancel flag is set cannot complete, its job `j` and its events `t` given:
a check lies ahead of it, or its render ended, or its job finished, not complete and with fewer
frames written than the job's total. -/
def Doomed (j : ExportJob) (t : List MediaEvent) : Stand → Prop
  | .opening r => (Stand.opening r).CheckAhead j.totalFrames
  | .boundary w => (Stand.boundary w).CheckAhead j.totalFrames
  | .before w => (Stand.before w).CheckAhead j.totalFrames
  | .closing _ _ e => e ≠ .complete ∧ t.countP MediaEvent.isWrite < j.totalFrames
  | .closed e _ => e ≠ .complete ∧ t.countP MediaEvent.isWrite < j.totalFrames
  | .finished => j.status ≠ .complete ∧ t.countP MediaEvent.isWrite < j.totalFrames

theorem CheckAhead.pos {st : Stand} {total : Nat} (h : st.CheckAhead total) : 0 < total := by
  cases st <;> simp only [CheckAhead] at h <;> omega

theorem Doomed.cancel {st : Stand} {j : ExportJob} {t : List MediaEvent} (h : st.Doomed j t) :
    st.Doomed j.cancel.2 t := by
  cases st <;> simpa [Doomed] using h

end Stand

/-- What a run keeps from a cancel that found its worker at `st₀` on, `k` bounding the frames
written and the one in flight: the flag stays set, and if a check lay ahead of `st₀` the run is
doomed. -/
structure Worker.Stops (st₀ : Stand) (k : Nat) (s : Stand) (j : ExportJob) (t : List MediaEvent) :
    Prop where
  flag : j.cancelRequested = true
  writes : t.countP MediaEvent.isWrite + s.inFlight ≤ k
  doomed : st₀.CheckAhead j.totalFrames → s.Doomed j t

end Glitch

namespace Glitch.Worker

open Std.Do

set_option mvcgen.warning false

variable {σ : Type} (B : MediaBackend σ) (reg : Registry) (now : Timestamp) (req : ExportRequest)
  (st₀ : Stand) (k : Nat)

/-- Opening with the flag set records no write, and a check lies ahead of a source with frames. -/
theorem openMedia_stops (r : ExportRequest) :
    ⦃fun st => ⌜(Stand.opening r).Traced reg req st.1 st.2.2 ∧
      Stops st₀ k (.opening r) st.1 st.2.2⌝⦄ openMedia B.traced r
    ⦃⇓ s' st => ⌜Stops st₀ k s' st.1 st.2.2⌝⦄ := by
  mvcgen [openMedia]
  all_goals
    obtain ⟨⟨-, ht, -, htotal⟩, hflag, hwrites, -⟩ := ‹(Stand.opening r).Traced reg req _ _ ∧ _›
    simp only [MediaBackend.traced, MediaBackend.attempt_recorded] at *
    rw [ht] at hwrites ⊢
  · -- the source did not open: no frames, so no check was ahead
    refine ⟨hflag, by simp [MediaEvent.isWrite, Stand.inFlight], fun h => ?_⟩
    have := Stand.CheckAhead.pos (htotal ▸ h)
    omega
  · -- the sink did not open: nothing was written out of the frames there are
    exact ⟨hflag, by simp [MediaEvent.isWrite, Stand.inFlight],
      fun h => ⟨Ending.noConfusion, by simpa [MediaEvent.isWrite] using Stand.CheckAhead.pos h⟩⟩
  · exact ⟨hflag, by simp [MediaEvent.isWrite, Stand.inFlight],
      fun h => by simpa [Stand.Doomed, Stand.CheckAhead] using Stand.CheckAhead.pos h⟩

/-- At a boundary with the flag set the worker reads it and stops if a frame remains; past the
last frame no check was ahead. -/
theorem arrive_stops (w : Worker) :
    ⦃fun st => ⌜(Stand.boundary w).Traced reg req st.1 st.2.2 ∧
      Stops st₀ k (.boundary w) st.1 st.2.2⌝⦄ arrive B.traced w
    ⦃⇓ s' st => ⌜Stops st₀ k s' st.1 st.2.2⌝⦄ := by
  mvcgen [arrive]
  all_goals obtain ⟨⟨-, h⟩, hflag, hwrites, hdoomed⟩ := ‹(Stand.boundary w).Traced reg req _ _ ∧ _›
  · -- the cancel is read before a frame that remains
    refine ⟨hflag, hwrites, fun _ => ⟨Ending.noConfusion, ?_⟩⟩
    simp only [MediaBackend.log_traced]
    rw [h.countP_isWrite, h.boundary.total]
    exact ‹w.next < w.info.frameCount›
  · exact absurd hflag ‹_›
  · -- past the last frame the check ahead of the cancel would have been this one
    have hnext : st₀.CheckAhead _ → w.next < _ := hdoomed
    refine ⟨hflag, hwrites, fun hc => absurd (hnext hc) ?_⟩
    rw [h.boundary.total]
    exact ‹¬w.next < w.info.frameCount›

/-- Exporting the frame in flight writes at most that frame; a check lies ahead after it unless it
was the last. -/
theorem exportFrame_stops (w : Worker) :
    ⦃fun st => ⌜(Stand.before w).Traced reg req st.1 st.2.2 ∧
      Stops st₀ k (.before w) st.1 st.2.2⌝⦄ exportFrame B.traced reg w
    ⦃⇓ s' st => ⌜Stops st₀ k s' st.1 st.2.2⌝⦄ := by
  mvcgen [exportFrame]
  all_goals
    obtain ⟨⟨-, -, h⟩, hflag, hwrites, hdoomed⟩ := ‹(Stand.before w).Traced reg req _ _ ∧ _›
    have hnext : st₀.CheckAhead _ → w.next + 1 < _ := hdoomed
    have hcount := h.countP_isWrite
    simp only [Stand.inFlight] at hwrites
    simp only [MediaBackend.traced, MediaBackend.attempt_recorded,
      MediaBackend.foldl_log_traced] at *
  -- a failure of the frame ends the render, having written it at most; a written frame comes to
  -- the next boundary, where the check ahead of the cancel lies unless it was the last
  all_goals first
    | exact ⟨hflag, by simp [Stand.inFlight, MediaEvent.isWrite, hcount]; omega,
        fun hc => ⟨Ending.noConfusion, by simp [MediaEvent.isWrite, hcount]; have := hnext hc; omega⟩⟩
    | exact ⟨hflag, by simp [Stand.inFlight, MediaEvent.isWrite, hcount]; omega, hnext⟩

theorem closing_stops (wo ro : Bool) (e : Ending) :
    ⦃fun st => ⌜Stops st₀ k (.closing wo ro e) st.1 st.2.2⌝⦄ step B.traced reg now (.closing wo ro e)
    ⦃⇓ s' st => ⌜Stops st₀ k s' st.1 st.2.2⌝⦄ := by
  have h := closeMedia_traced B wo ro
  mvcgen [step, h]
  obtain ⟨hflag, hwrites, hdoomed⟩ := ‹Stops st₀ k (.closing wo ro e) _ _›
  obtain ⟨hj, rw, rr, hev, -⟩ := ‹_ = _ ∧ ∃ rw rr, _ = _ ++ closeEvents wo ro rw rr ∧ _›
  rw [hj, hev]
  refine ⟨hflag, by simpa [countP_closeEvents, Stand.inFlight] using hwrites, fun hc => ?_⟩
  simpa [Stand.Doomed, countP_closeEvents] using hdoomed hc

theorem publish_stops (e : Ending) (sf : Option String) :
    ⦃fun st => ⌜Stops st₀ k (.closed e sf) st.1 st.2.2⌝⦄ publish B.traced now e sf
    ⦃⇓ s' st => ⌜Stops st₀ k s' st.1 st.2.2⌝⦄ := by
  mvcgen [publish]
  all_goals
    obtain ⟨hflag, hwrites, hdoomed⟩ := ‹Stops st₀ k (.closed e sf) _ _›
    refine ⟨hflag, by simpa [Stand.inFlight] using hwrites, fun hc => ?_⟩
    obtain ⟨he, hlt⟩ := hdoomed hc
    exact ⟨outcome_ne_complete he sf, hlt⟩

theorem step_stops (s : Stand) :
    ⦃fun st => ⌜s.Traced reg req st.1 st.2.2 ∧ Stops st₀ k s st.1 st.2.2⌝⦄ step B.traced reg now s
    ⦃⇓ s' st => ⌜Stops st₀ k s' st.1 st.2.2⌝⦄ := by
  cases s with
  | opening r =>
    have hs := openMedia_stops B reg req st₀ k r
    mvcgen [step, hs]
  | boundary w =>
    have hs := arrive_stops B reg req st₀ k w
    mvcgen [step, hs]
  | before w =>
    have hs := exportFrame_stops B reg req st₀ k w
    mvcgen [step, hs]
  | closing wo ro e =>
    have hs := closing_stops B reg now st₀ k wo ro e
    mvcgen [hs]
    exact ‹_ ∧ Stops st₀ k _ _ _›.2
  | closed e sf =>
    have hs := publish_stops B now st₀ k e sf
    mvcgen [step, hs]
    exact ‹_ ∧ Stops st₀ k _ _ _›.2
  | finished =>
    mvcgen [step]
    exact ‹_ ∧ Stops st₀ k _ _ _›.2

/-- The step lemma of a cancelled run: what the events say is kept by `step_traced`, the rest by
`step_stops`. -/
theorem step_stopping (s : Stand) :
    ⦃fun st => ⌜s.Traced reg req st.1 st.2.2 ∧ Stops st₀ k s st.1 st.2.2⌝⦄ step B.traced reg now s
    ⦃⇓ s' st => ⌜s'.Traced reg req st.1 st.2.2 ∧ Stops st₀ k s' st.1 st.2.2⌝⦄ :=
  spec_of_run fun st h => ⟨run_of_spec (step_traced B reg now req s) st h.1,
    run_of_spec (step_stops B reg now req st₀ k s) st h⟩

end Glitch.Worker

namespace Glitch

theorem ExportJob.cancelRequested_cancel {j : ExportJob} (h : j.cancelRequested = true) :
    j.cancel.2.cancelRequested = true := by
  unfold ExportJob.cancel
  split <;> simp [h]

namespace ExportManager

variable {σ : Type} {reg : Registry} {B : MediaBackend σ} {req : ExportRequest}
  {m : ExportManager (σ × List MediaEvent)} {st₀ : Stand} {k : Nat}

/-- A traced manager after a cancel that found its worker at `st₀`, `k` bounding the frames
written and the one in flight. -/
structure Stopping (reg : Registry) (B : MediaBackend σ) (req : ExportRequest) (st₀ : Stand)
    (k : Nat) (m : ExportManager (σ × List MediaEvent)) : Prop where
  registry : m.registry = reg
  backend : m.backend = B.traced
  job : m.job.isSome
  stops : m.Satisfies fun s st => s.Traced reg req st.1 st.2.2 ∧ Worker.Stops st₀ k s st.1 st.2.2

theorem Stopping.cancel (h : m.Stopping reg B req st₀ k) (hi : m.Inv) :
    m.cancel.2.Stopping reg B req st₀ k := by
  rw [cancel_snd]
  refine ⟨h.registry, h.backend, by simpa using h.job, fun j hj => ?_⟩
  obtain ⟨j₀, hj₀, rfl⟩ := Option.mem_map.1 hj
  obtain ⟨ht, hflag, hwrites, hdoomed⟩ := h.stops j₀ hj₀
  exact ⟨ht.cancel (hi.holds j₀ hj₀), ExportJob.cancelRequested_cancel hflag, hwrites,
    fun hc => (hdoomed (by simpa using hc)).cancel⟩

theorem Stopping.step (h : m.Stopping reg B req st₀ k) (now : Timestamp) :
    (m.step now).Stopping reg B req st₀ k := by
  refine ⟨by simp [h.registry], by simp [h.backend], step_isSome m now h.job,
    h.stops.step now fun s => ?_⟩
  rw [h.backend, h.registry]
  exact Worker.step_stopping B reg now req st₀ k s

theorem Stopping.join (h : m.Stopping reg B req st₀ k) (now : Timestamp) :
    (m.join now).Stopping reg B req st₀ k := by
  refine ⟨by simp [h.registry], by simp [h.backend], join_isSome m now h.job,
    h.stops.join now fun s => ?_⟩
  rw [h.backend, h.registry]
  exact Worker.step_stopping B reg now req st₀ k s

end ExportManager

namespace ExportSession

variable {σ : Type} {reg : Registry} {B : MediaBackend σ} {req : ExportRequest} {st₀ : Stand}
  {k : Nat}

end ExportSession

end Glitch
