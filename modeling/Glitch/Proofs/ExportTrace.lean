import Glitch.Proofs.ExportManager
import Glitch.Media.Pattern
import Glitch.Effect.Registry
/-!
The media calls of an export, recorded. `MediaBackend.traced` runs a backend unchanged and
appends every media call, with its answer, to a list kept beside the backend's world. Over such a
backend the events of a run say what the worker did: which media it opened and closed, in which
order, which frames it decoded and which outputs it wrote.

`Exported` is the export loop read as events: frame `i` is decoded and the chain's output for it
written, the chain running with the states that frame `i - 1` left and frame `0` with none.
`Report` says what a finished run did in those terms. The worker's steps are specified over a
traced backend by triples in the manner of `ExportWorker`, now with the events they add.

Main statement (`export_run_is_reported`): start a valid export on a new manager over any traced
backend, make any calls but starts, and join. The events are then what `Report` says of the
finished job; the events recorded at any point along the way are the start of those, and from
the first call after which the job shows a terminal status the manager no longer changes, so
every close is recorded before the terminal status is published.
-/
namespace Glitch

inductive MediaEvent where
  | openReader (path : String) (answer : Except Fault SourceInfo)
  | decode (index : Nat) (answer : Except Fault Frame)
  | closeReader (answer : Except Fault Unit)
  | openWriter (path : String) (resolution : Nat × Nat) (fps : F64) (answer : Except Fault Unit)
  | write (frame : Frame) (answer : Except Fault Unit)
  | closeWriter (answer : Except Fault Unit)

namespace MediaBackend

variable {σ : Type}

def recorded {α : Type} (m : MediaM σ α) (ev : Except Fault α → MediaEvent) :
    MediaM (σ × List MediaEvent) α :=
  ExceptT.mk fun st =>
    let p := attempt m st.1
    (p.1, (p.2, st.2 ++ [ev p.1]))

def traced (B : MediaBackend σ) : MediaBackend (σ × List MediaEvent) where
  openReader p := recorded (B.openReader p) (.openReader p)
  decodeFrame i := recorded (B.decodeFrame i) (.decode i)
  closeReader := recorded B.closeReader .closeReader
  openWriter p r f := recorded (B.openWriter p r f) (.openWriter p r f)
  writeFrame f := recorded (B.writeFrame f) (.write f)
  closeWriter := recorded B.closeWriter .closeWriter
  log l st := (B.log l st.1, st.2)

@[simp] theorem log_traced (B : MediaBackend σ) (l : LogLine) (st : σ × List MediaEvent) :
    B.traced.log l st = (B.log l st.1, st.2) := rfl

@[simp] theorem foldl_log_traced (B : MediaBackend σ) (ls : List LogLine)
    (st : σ × List MediaEvent) :
    ls.foldl (fun s l => (B.log l s.1, s.2)) st = (ls.foldl (fun s l => B.log l s) st.1, st.2) := by
  induction ls generalizing st with
  | nil => rfl
  | cons l ls ih => exact ih _

@[simp] theorem attempt_recorded {α : Type} (m : MediaM σ α) (ev : Except Fault α → MediaEvent)
    (st : σ × List MediaEvent) :
    attempt (recorded m ev) st =
      ((attempt m st.1).1, ((attempt m st.1).2, st.2 ++ [ev (attempt m st.1).1])) :=
  rfl

end MediaBackend

/-! ## The chain with its log lines -/

theorem foldl_fst_eq {α β γ : Type} (g : β × γ → α → β × γ) (F : β → α → β)
    (hg : ∀ acc a, (g acc a).1 = F acc.1 a) (l : List α) (acc : β × γ) :
    (l.foldl g acc).1 = l.foldl F acc.1 := by
  induction l generalizing acc with
  | nil => rfl
  | cons a l ih => rw [List.foldl_cons, List.foldl_cons, ih, hg]

theorem foldl_bind_eq_foldlM {ε α β : Type} (f : β → α → Except ε β) (l : List α)
    (x : Except ε β) : l.foldl (fun r a => r >>= (f · a)) x = x >>= fun b => l.foldlM f b := by
  induction l generalizing x with
  | nil => simp
  | cons a l ih => simp [ih, bind_assoc]

theorem Chain.applyLogged_fst (c : ChainContext) (f : Frame) (chain : List EffectInstance) :
    (Chain.applyLogged c f chain).1 = Chain.apply c f chain := by
  unfold Chain.applyLogged Chain.apply
  cases Chain.checkDepth chain with
  | error e => rfl
  | ok u =>
    -- the log is carried beside the result and never read back
    simp only
    rw [foldl_fst_eq _ (fun r i => r >>= (Chain.step c · i)) ?logged, foldl_bind_eq_foldlM]
    · simp only [bind, Except.bind]
      split <;> simp_all
    case logged =>
      intro acc i
      rcases acc with ⟨_ | st, ls⟩
      · rfl
      · simp only [bind, Except.bind]
        split <;> simp_all

/-! ## What a run did -/

/-- The context the chain runs in for frame `i` of a request whose source reported `info`, with
the states `S` carried from the frame before. -/
def frameContext (reg : Registry) (req : ExportRequest) (info : SourceInfo) (i : Nat)
    (S : EffectStates) : ChainContext :=
  ⟨reg, req.projectSeed, i, info.resolution, S⟩

/-- The events of exporting the decoded frames `ds`, from frame `0` on: each frame's decode and
the write of its chain output, both answered ok, and the states after the last frame. -/
inductive Exported (reg : Registry) (req : ExportRequest) (info : SourceInfo) :
    List Frame → List MediaEvent → EffectStates → Prop
  | nil : Exported reg req info [] [] EffectStates.empty
  | snoc {ds es S d o S'} : Exported reg req info ds es S →
      Chain.apply (frameContext reg req info ds.length S) d req.chain = .ok (o, S') →
      Exported reg req info (ds ++ [d]) (es ++ [.decode ds.length (.ok d), .write o (.ok ())]) S'

/-- The events between the exported frames and the closes, frame `n` being the next one and `S`
the states carried to it: none, when the run stopped at the boundary before frame `n`; or those of
frame `n` failing, by its decode, by the chain run on it, or by the write of its output. -/
inductive Halt (reg : Registry) (req : ExportRequest) (info : SourceInfo) (n : Nat)
    (S : EffectStates) : List MediaEvent → Prop
  | boundary : Halt reg req info n S []
  | decode {f : Fault} : Halt reg req info n S [.decode n (.error f)]
  | chain {d : Frame} {e : GlitchError} :
      Chain.apply (frameContext reg req info n S) d req.chain = .error e →
      Halt reg req info n S [.decode n (.ok d)]
  | write {d o : Frame} {S' : EffectStates} {f : Fault} :
      Chain.apply (frameContext reg req info n S) d req.chain = .ok (o, S') →
      Halt reg req info n S [.decode n (.ok d), .write o (.error f)]

def opening (req : ExportRequest) (info : SourceInfo) : List MediaEvent :=
  [.openReader req.inputPath (.ok info),
    .openWriter req.outputPath info.resolution info.fps (.ok ())]

/-- What a finished run of `req` did, by its events and the job it left. The source failed to
open and nothing was closed; or the sink failed to open and only the source was closed; or both
opened, the first `n` frames were exported, `n` being the frames the job counted, the run halted
before or at frame `n`, and the sink and then the source were closed, each once and after every
other call. The job is complete exactly when it counted every frame the source reported and the
sink closed without a fault. -/
inductive Report (reg : Registry) (req : ExportRequest) : List MediaEvent → ExportJob → Prop
  | noSource {j : ExportJob} {f : Fault} : j.status = .error → j.currentFrame = 0 →
      Report reg req [.openReader req.inputPath (.error f)] j
  | noSink {j : ExportJob} {info : SourceInfo} {f : Fault} {rr : Except Fault Unit} :
      j.status = .error → j.currentFrame = 0 →
      Report reg req [.openReader req.inputPath (.ok info),
        .openWriter req.outputPath info.resolution info.fps (.error f), .closeReader rr] j
  | opened {j : ExportJob} {info : SourceInfo} {ds : List Frame} {es tail : List MediaEvent}
      {S : EffectStates} {rw rr : Except Fault Unit} :
      Exported reg req info ds es S → ds.length = j.currentFrame →
      Halt reg req info ds.length S tail →
      (j.status = .complete ↔ j.currentFrame = info.frameCount ∧ rw = .ok ()) →
      Report reg req (opening req info ++ es ++ tail ++ [.closeWriter rw, .closeReader rr]) j

/-! ## Where a traced worker stands -/

/-- The close events of the closing step, the sink answering `rw` and the source `rr`, each only
if open. -/
def Worker.closeEvents (wo ro : Bool) (rw rr : Except Fault Unit) : List MediaEvent :=
  (if wo then [.closeWriter rw] else []) ++ (if ro then [.closeReader rr] else [])

def Worker.sinkFault : Bool → Except Fault Unit → Option String
  | true, .error f => some f.category
  | _, _ => none

/-- The events of a run of `req` that stopped rendering with the ending `e`, leaving the sink
open if `wo` and the source if `ro`, its job counting its frames: the source failed to open; or
the sink failed to open after the source; or both opened, the first `n` frames were exported, `n`
being the frames the job counted, and the run halted before or at frame `n`, the ending being
complete exactly when no frame was left. -/
inductive Ended (reg : Registry) (req : ExportRequest) :
    Bool → Bool → Ending → List MediaEvent → ExportJob → Prop
  | noSource {j : ExportJob} {f : Fault} : j.currentFrame = 0 →
      Ended reg req false false (.failed f) [.openReader req.inputPath (.error f)] j
  | noSink {j : ExportJob} {info : SourceInfo} {f : Fault} : j.currentFrame = 0 →
      Ended reg req false true (.failed f) [.openReader req.inputPath (.ok info),
        .openWriter req.outputPath info.resolution info.fps (.error f)] j
  | opened {j : ExportJob} {info : SourceInfo} {ds : List Frame} {es tail : List MediaEvent}
      {S : EffectStates} {e : Ending} :
      Exported reg req info ds es S → ds.length = j.currentFrame →
      Halt reg req info ds.length S tail → (e = .complete ↔ ds.length = info.frameCount) →
      Ended reg req true true e (opening req info ++ es ++ tail) j

/-- A worker at its boundary, with the events since its run began: the opening of both media and
the frames exported before `w.next`, which left the states `w.states`. -/
structure Worker.Traced (reg : Registry) (w : Worker) (j : ExportJob) (t : List MediaEvent) :
    Prop where
  boundary : w.AtBoundary j
  exported : ∃ ds es, Exported reg w.request w.info ds es w.states ∧ ds.length = w.next ∧
    t = opening w.request w.info ++ es

/-- What the events of a run of `req` say of where its worker stands and of its job: nothing
recorded before the media open, with a fresh job; the opening and the exported frames at a
boundary or before a frame; a render that ended as `Ended` says, then its closes; and the whole
run as `Report` says once the job is finished. -/
def Stand.Traced (reg : Registry) (req : ExportRequest) : Stand → ExportJob → List MediaEvent → Prop
  | .opening r, j, t => r = req ∧ t = [] ∧ (Stand.opening r).Holds j ∧ j.totalFrames = 0
  | .boundary w, j, t => w.request = req ∧ w.Traced reg j t
  | .before w, j, t => w.request = req ∧ w.next < w.info.frameCount ∧ w.Traced reg j t
  | .closing wo ro e, j, t => Ended reg req wo ro e t j
  | .closed e sf, j, t => ∃ wo ro t₀ rw rr, Ended reg req wo ro e t₀ j ∧
      t = t₀ ++ Worker.closeEvents wo ro rw rr ∧ sf = Worker.sinkFault wo rw
  | .finished, j, t => Report reg req t j

namespace Worker

theorem outcome_complete_iff (e : Ending) (rw : Except Fault Unit) :
    (outcome e (sinkFault true rw)).1 = .complete ↔ e = .complete ∧ rw = .ok () := by
  cases e <;> rcases rw with f | ⟨⟩ <;> simp [outcome, sinkFault]

theorem complete_iff_of_ne {e : Ending} (he : e ≠ .complete) {w : Worker}
    (hlt : w.next < w.info.frameCount) : e = .complete ↔ w.next = w.info.frameCount :=
  ⟨fun h => absurd h he, fun h => absurd h hlt.ne⟩

theorem Traced.ended {reg : Registry} {w : Worker} {j : ExportJob} {t : List MediaEvent}
    (h : w.Traced reg j t) {tail : List MediaEvent}
    (htail : Halt reg w.request w.info w.next w.states tail) {e : Ending}
    (he : e = .complete ↔ w.next = w.info.frameCount) :
    Ended reg w.request true true e (t ++ tail) j := by
  obtain ⟨ds, es, hex, hlen, rfl⟩ := h.exported
  exact .opened hex (hlen.trans h.boundary.frame.symm) (hlen ▸ htail) (hlen ▸ he)

/-- Exporting the frame at a boundary brings the traced worker to the next boundary, the
frame's decode and the write of its output recorded. -/
theorem Traced.advance {reg : Registry} {w : Worker} {j : ExportJob} {t : List MediaEvent}
    (h : w.Traced reg j t) (hlt : w.next < w.info.frameCount) {d o : Frame} {S' : EffectStates}
    (happly : Chain.apply (frameContext reg w.request w.info w.next w.states) d w.request.chain =
      .ok (o, S')) :
    ({ w with states := S', next := w.next + 1 } : Worker).Traced reg (j.setCurrent (w.next + 1))
      (t ++ [.decode w.next (.ok d)] ++ [.write o (.ok ())]) := by
  obtain ⟨ds, es, hex, hlen, rfl⟩ := h.exported
  rw [← hlen] at happly ⊢
  exact ⟨hlen ▸ h.boundary.advance hlt S', ds ++ [d], _, hex.snoc happly, by simp, by simp⟩

end Worker

/-- A render that ended is reported once its media are closed and the job is finished as the
ending and the sink's close say. -/
theorem Ended.report {reg : Registry} {req : ExportRequest} {wo ro : Bool} {e : Ending}
    {t : List MediaEvent} {j : ExportJob} (h : Ended reg req wo ro e t j) (rw rr : Except Fault Unit)
    (now : Timestamp) :
    Report reg req (t ++ Worker.closeEvents wo ro rw rr)
      (j.finish (Worker.outcome e (Worker.sinkFault wo rw)).1
        (Worker.outcome e (Worker.sinkFault wo rw)).2 now) := by
  cases h with
  | noSource hf => exact .noSource rfl hf
  | noSink hf => exact .noSink rfl hf
  | opened hex hlen htail he =>
    refine .opened hex hlen htail ?_
    simp only [ExportJob.finish, Worker.outcome_complete_iff, he, hlen]

end Glitch

namespace Glitch.Worker

open Std.Do

set_option mvcgen.warning false

variable {σ : Type} (B : MediaBackend σ) (reg : Registry) (now : Timestamp) (req : ExportRequest)

theorem closeMedia_traced (wo ro : Bool) (j : ExportJob) (t : List MediaEvent) :
    ⦃fun st => ⌜st.1 = j ∧ st.2.2 = t⌝⦄ closeMedia B.traced wo ro
    ⦃⇓ sf st => ⌜st.1 = j ∧ ∃ rw rr, st.2.2 = t ++ closeEvents wo ro rw rr ∧
      sf = sinkFault wo rw⌝⦄ := by
  mvcgen [closeMedia]
  all_goals
    obtain ⟨rfl, rfl⟩ := ‹_ = j ∧ _ = t›
    subst_vars
    simp only [MediaBackend.traced, MediaBackend.attempt_recorded] at *
  all_goals simp_all [closeEvents, sinkFault]

theorem publish_traced (e : Ending) (sf : Option String) :
    ⦃fun st => ⌜(Stand.closed e sf).Traced reg req st.1 st.2.2⌝⦄ publish B.traced now e sf
    ⦃⇓ s' st => ⌜s'.Traced reg req st.1 st.2.2⌝⦄ := by
  mvcgen [publish]
  all_goals
    obtain ⟨wo, ro, t₀, rw, rr, hend, hev, rfl⟩ := ‹(Stand.closed e sf).Traced reg req _ _›
    simp only [MediaBackend.log_traced]
    rw [hev]
    exact hend.report rw rr now

/-- At its boundary the traced worker ends its render past the last frame or on a cancel, or
goes on to the frame. -/
theorem arrive_traced (w : Worker) :
    ⦃fun st => ⌜(Stand.boundary w).Traced reg req st.1 st.2.2⌝⦄ arrive B.traced w
    ⦃⇓ s' st => ⌜s'.Traced reg req st.1 st.2.2⌝⦄ := by
  mvcgen [arrive]
  all_goals obtain ⟨rfl, h⟩ := ‹(Stand.boundary w).Traced reg req _ _›
  · -- a cancel read before a frame that remains
    simpa [Stand.Traced] using h.ended .boundary (complete_iff_of_ne Ending.noConfusion ‹w.next < w.info.frameCount›)
  · exact ⟨rfl, ‹w.next < w.info.frameCount›, h⟩
  · -- past the last frame
    have hle := Nat.le_of_not_lt ‹¬w.next < w.info.frameCount›
    simpa [Stand.Traced] using h.ended .boundary ⟨fun _ => Nat.le_antisymm h.boundary.next_le hle, fun _ => rfl⟩

/-- Opening records the source's opening and, if it opened, the sink's: the worker comes to the
first boundary with no frame exported, or the render ends. -/
theorem openMedia_traced (r : ExportRequest) :
    ⦃fun st => ⌜(Stand.opening r).Traced reg req st.1 st.2.2⌝⦄ openMedia B.traced r
    ⦃⇓ s' st => ⌜s'.Traced reg req st.1 st.2.2⌝⦄ := by
  mvcgen [openMedia]
  all_goals
    obtain ⟨rfl, ht, ⟨hr, he, hf⟩, -⟩ := ‹(Stand.opening r).Traced reg req _ _›
    simp only [MediaBackend.traced, MediaBackend.attempt_recorded] at *
  · -- the source did not open
    simp only [ht, ‹_ = Except.error _›]
    exact .noSource hf
  · -- the sink did not open
    simp only [ht, ‹_ = Except.ok _›, ‹_ = Except.error _›]
    exact .noSink (by simp [ExportJob.setTotal, hf])
  · -- both opened: the first boundary, with no frame exported
    refine ⟨rfl, ⟨hr, he, hf, rfl, Nat.zero_le _⟩, [], [], .nil, rfl, ?_⟩
    simp only [ht, ‹(MediaBackend.attempt (B.openReader _) _).1 = _›,
      ‹(MediaBackend.attempt (B.openWriter _ _ _) _).1 = _›, opening]
    rfl

/-- Exporting a frame from a boundary of `req`: the worker reaches the next boundary, or the
frame fails and the render ends. -/
theorem exportFrame_traced (w : Worker) :
    ⦃fun st => ⌜(Stand.before w).Traced reg req st.1 st.2.2⌝⦄ exportFrame B.traced reg w
    ⦃⇓ s' st => ⌜s'.Traced reg req st.1 st.2.2⌝⦄ := by
  mvcgen [exportFrame]
  all_goals
    obtain ⟨rfl, hlt, h⟩ := ‹(Stand.before w).Traced reg req _ _›
    simp only [MediaBackend.traced, MediaBackend.attempt_recorded, MediaBackend.foldl_log_traced,
      Chain.applyLogged_fst] at *
  · -- the decode failed
    rw [‹(MediaBackend.attempt _ _).1 = Except.error _›]
    exact h.ended .decode (complete_iff_of_ne Ending.noConfusion hlt)
  · -- the chain failed on the decoded frame
    rw [‹(MediaBackend.attempt _ _).1 = Except.ok _›]
    exact h.ended (.chain ‹Chain.apply _ _ _ = .error _›) (complete_iff_of_ne Ending.noConfusion hlt)
  · -- the write of the output failed
    rw [‹(MediaBackend.attempt (B.decodeFrame _) _).1 = Except.ok _›,
      ‹(MediaBackend.attempt (B.writeFrame _) _).1 = Except.error _›]
    rw [List.append_assoc _ [_] [_], List.singleton_append]
    exact h.ended (.write ‹Chain.apply _ _ _ = .ok _›) (complete_iff_of_ne Ending.noConfusion hlt)
  · -- the frame was exported
    rw [‹(MediaBackend.attempt (B.decodeFrame _) _).1 = Except.ok _›,
      ‹(MediaBackend.attempt (B.writeFrame _) _).1 = Except.ok _›]
    exact ⟨rfl, h.advance hlt ‹Chain.apply _ _ _ = .ok _›⟩

theorem step_traced (s : Stand) :
    ⦃fun st => ⌜s.Traced reg req st.1 st.2.2⌝⦄ step B.traced reg now s
    ⦃⇓ s' st => ⌜s'.Traced reg req st.1 st.2.2⌝⦄ := by
  cases s with
  | opening r =>
    have h := openMedia_traced B reg req r
    mvcgen [step, h]
  | boundary w =>
    have h := arrive_traced B reg req w
    mvcgen [step, h]
  | before w =>
    have h := exportFrame_traced B reg req w
    mvcgen [step, h]
  | closing wo ro e =>
    have h := closeMedia_traced B wo ro
    mvcgen [step, h]
    obtain ⟨hj, rw, rr, hev, rfl⟩ := ‹_ = _ ∧ ∃ rw rr, _ = _ ++ closeEvents wo ro rw rr ∧ _›
    exact ⟨wo, ro, _, rw, rr, hj ▸ ‹Stand.Traced reg req (.closing wo ro e) _ _›, hev, rfl⟩
  | closed e sf =>
    have h := publish_traced B reg now req e sf
    mvcgen [step, h]
  | finished => mvcgen [step]

end Glitch.Worker

namespace Glitch.Worker

open Std.Do

set_option mvcgen.warning false

variable {σ : Type} (B : MediaBackend σ) (reg : Registry) (now : Timestamp)

theorem step_appends (s : Stand) (t : List MediaEvent) :
    ⦃fun st => ⌜t <+: st.2.2⌝⦄ step B.traced reg now s ⦃⇓ _ st => ⌜t <+: st.2.2⌝⦄ := by
  cases s <;> mvcgen [step, openMedia, arrive, exportFrame, closeMedia, publish]
  all_goals simp only [MediaBackend.traced, MediaBackend.attempt_recorded,
    MediaBackend.foldl_log_traced] at *
  all_goals first
    | exact ‹t <+: _›.trans (List.prefix_append _ _)
    | exact ‹t <+: _›.trans ((List.prefix_append _ _).trans (List.prefix_append _ _))

end Glitch.Worker
namespace Glitch

/-! ## One export through the manager -/

theorem Worker.Traced.cancel {reg : Registry} {w : Worker} {j : ExportJob} {t : List MediaEvent}
    (h : w.Traced reg j t) : w.Traced reg j.cancel.2 t :=
  ⟨h.boundary.cancel, h.exported⟩

theorem Ended.cancel {reg : Registry} {req : ExportRequest} {wo ro : Bool} {e : Ending}
    {t : List MediaEvent} {j : ExportJob} (h : Ended reg req wo ro e t j) :
    Ended reg req wo ro e t j.cancel.2 := by
  cases h with
  | noSource hf => exact .noSource (by simpa using hf)
  | noSink hf => exact .noSink (by simpa using hf)
  | opened hex hlen htail he => exact .opened hex (by simpa using hlen) htail he

/-- A cancel keeps what the events say: it sets the flag of a running job and leaves a finished
one as it is. -/
theorem Stand.Traced.cancel {reg : Registry} {req : ExportRequest} {st : Stand} {j : ExportJob}
    {t : List MediaEvent} (h : st.Traced reg req j t) (hs : st.Holds j) :
    st.Traced reg req j.cancel.2 t := by
  cases st with
  | opening r => exact ⟨h.1, h.2.1, by simpa [Stand.Holds] using h.2.2.1, by simpa using h.2.2.2⟩
  | boundary w => exact ⟨h.1, h.2.cancel⟩
  | before w => exact ⟨h.1, h.2.1, h.2.2.cancel⟩
  | closing wo ro e => exact Ended.cancel h
  | closed e sf =>
    obtain ⟨wo, ro, t₀, rw, rr, hend, ht, hsf⟩ := h
    exact ⟨wo, ro, t₀, rw, rr, hend.cancel, ht, hsf⟩
  | finished =>
    rw [ExportJob.cancel_terminal hs.1]
    exact h

namespace ExportManager

variable {σ : Type}

/-- A manager exporting `req` with the registry `reg` over the traced `B`: it has a job, and the
job and where its worker stands are what the events so far say. -/
structure Tracing (reg : Registry) (B : MediaBackend σ) (req : ExportRequest)
    (m : ExportManager (σ × List MediaEvent)) : Prop where
  registry : m.registry = reg
  backend : m.backend = B.traced
  job : m.job.isSome
  traced : m.Satisfies fun s st => s.Traced reg req st.1 st.2.2

variable {reg : Registry} {B : MediaBackend σ} {req : ExportRequest}
  {m : ExportManager (σ × List MediaEvent)}

theorem Tracing.cancel (h : m.Tracing reg B req) (hi : m.Inv) : m.cancel.2.Tracing reg B req := by
  rw [cancel_snd]
  refine ⟨h.registry, h.backend, by simpa using h.job, fun j hj => ?_⟩
  obtain ⟨j₀, hj₀, rfl⟩ := Option.mem_map.1 hj
  exact (h.traced j₀ hj₀).cancel (hi.holds j₀ hj₀)

theorem Tracing.step (h : m.Tracing reg B req) (now : Timestamp) :
    (m.step now).Tracing reg B req := by
  refine ⟨by simp [h.registry], by simp [h.backend], step_isSome m now h.job,
    h.traced.step now fun s => ?_⟩
  rw [h.backend, h.registry]
  exact Worker.step_traced B reg now req s

theorem Tracing.join (h : m.Tracing reg B req) (now : Timestamp) :
    (m.join now).Tracing reg B req := by
  refine ⟨by simp [h.registry], by simp [h.backend], join_isSome m now h.job,
    h.traced.join now fun s => ?_⟩
  rw [h.backend, h.registry]
  exact Worker.step_traced B reg now req s

/-- Joining a manager that traces the export finishes its worker, and the events then report
the job, which shows a terminal status. -/
theorem Tracing.join_reports (h : m.Tracing reg B req) (hi : m.Inv) (later : Timestamp) :
    ∃ j, (m.join later).job = some j ∧ j.status.isTerminal ∧
      Report reg req (m.join later).world.2 j := by
  have hstand : (m.join later).stand = .finished := hi.join_finished later
  obtain ⟨j, hj⟩ := Option.isSome_iff_exists.1 (h.join later).job
  have ht := (h.join later).traced j hj
  have hholds := (hi.join later).1.holds j hj
  rw [hstand] at ht hholds
  exact ⟨j, hj, hholds.1, ht⟩

theorem events_step (hb : m.backend = B.traced) (hj : m.job.isSome) (now : Timestamp) :
    m.world.2 <+: (m.step now).world.2 := by
  have h : (m.step now).Satisfies fun _ st => m.world.2 <+: st.2.2 :=
    Satisfies.step now (fun s => by rw [hb]; exact Worker.step_appends B m.registry now s _)
      fun _ _ => List.prefix_refl _
  obtain ⟨j, hj'⟩ := Option.isSome_iff_exists.1 (step_isSome m now hj)
  exact h j hj'

theorem events_join (hb : m.backend = B.traced) (hj : m.job.isSome) (now : Timestamp) :
    m.world.2 <+: (m.join now).world.2 := by
  have h : (m.join now).Satisfies fun _ st => m.world.2 <+: st.2.2 :=
    Satisfies.join now (fun s => by rw [hb]; exact Worker.step_appends B m.registry now s _)
      fun _ _ => List.prefix_refl _
  obtain ⟨j, hj'⟩ := Option.isSome_iff_exists.1 (join_isSome m now hj)
  exact h j hj'

end ExportManager

end Glitch

namespace Glitch.ExportSession

variable {σ : Type} {reg : Registry} {B : MediaBackend σ} {req : ExportRequest}

@[simp] theorem run_append (s : ExportSession σ) (cs cs' : List ManagerCall) :
    s.run (cs ++ cs') = (s.run cs).run cs' :=
  List.foldl_append

theorem tracing_start (reg : Registry) (B : MediaBackend σ) (world : σ) (now : Timestamp)
    (req : ExportRequest) (hvalid : Chain.validate reg req.chain = .ok ()) :
    ((new reg B.traced (world, [])).call (.start now req)).manager.Tracing reg B req := by
  have hstart : (ExportManager.new reg B.traced (world, [])).start now req =
      (.ok (), { ExportManager.new reg B.traced (world, []) with
        job := some (ExportManager.startJob now req),
        world := B.traced.log (ExportManager.startLine req) (world, []), stand := .opening req }) := by
    simp only [ExportManager.start, ExportManager.isRunning, ExportManager.new, hvalid]
    rfl
  simp only [call, new, hstart]
  exact ⟨rfl, rfl, rfl, fun j hj => by cases hj; exact ⟨rfl, rfl, ⟨rfl, rfl, rfl⟩, rfl⟩⟩

theorem tracing_run {s : ExportSession (σ × List MediaEvent)} (h : s.manager.Tracing reg B req)
    (hi : s.Inv) (calls : List ManagerCall) (hcalls : ∀ c ∈ calls, ∀ t r, c ≠ .start t r) :
    (s.run calls).manager.Tracing reg B req ∧ s.manager.world.2 <+: (s.run calls).manager.world.2 := by
  induction calls generalizing s with
  | nil => exact ⟨h, List.prefix_refl _⟩
  | cons c calls ih =>
    have hstep : (s.call c).manager.Tracing reg B req ∧
        s.manager.world.2 <+: (s.call c).manager.world.2 := by
      cases c with
      | start t r => exact absurd rfl (hcalls _ List.mem_cons_self t r)
      | cancel =>
        refine ⟨h.cancel hi.manager, ?_⟩
        simp [call, ExportManager.cancel_snd]
      | status => exact ⟨h, List.prefix_refl _⟩
      | step now => exact ⟨h.step now, ExportManager.events_step h.backend h.job now⟩
      | join now => exact ⟨h.join now, ExportManager.events_join h.backend h.job now⟩
    obtain ⟨hrest, hgrow⟩ := ih hstep.1 (hi.call c).1 fun c' hc' => hcalls c' (List.mem_cons_of_mem c hc')
    exact ⟨hrest, hstep.2.trans hgrow⟩

theorem run_finished {s : ExportSession σ} (hw : s.manager.stand = .finished)
    (hj : ∀ j ∈ s.manager.job, j.status.isTerminal) (calls : List ManagerCall)
    (hcalls : ∀ c ∈ calls, ∀ t r, c ≠ .start t r) : (s.run calls).manager = s.manager := by
  induction calls generalizing s with
  | nil => rfl
  | cons c calls ih =>
    have hstep : (s.call c).manager = s.manager := by
      cases c with
      | start t r => exact absurd rfl (hcalls _ List.mem_cons_self t r)
      | cancel => exact ExportManager.cancel_finished hj
      | status => rfl
      | step now => exact ExportManager.step_of_finished hw now
      | join now => exact ExportManager.join_of_finished hw now
    rw [run, List.foldl_cons, ← run, ih (hstep ▸ hw) (hstep ▸ hj)
      (fun c' hc' => hcalls c' (List.mem_cons_of_mem c hc')), hstep]

/-- Calls other than starts leave alone a session whose job shows a terminal status. -/
theorem run_of_terminal {s : ExportSession σ} (hi : s.Inv) {j : ExportJob}
    (hj : s.manager.job = some j) (hterm : j.status.isTerminal = true) (calls : List ManagerCall)
    (hcalls : ∀ c ∈ calls, ∀ t r, c ≠ .start t r) : (s.run calls).manager = s.manager := by
  have hterm' : ∀ k ∈ s.manager.job, k.status.isTerminal := by
    intro k hk
    obtain rfl : j = k := Option.some.inj (hj.symm.trans hk)
    exact hterm
  exact run_finished ((hi.manager.holds j hj).isTerminal_iff.1 hterm) hterm' calls hcalls

/-- One export from a new manager over any backend, recorded: a valid request is started, any
calls but starts are made, and the worker is joined. The events the media calls left are what
`Report` says of the job that remains, which is finished. Along the way the events recorded at
any point are the start of the final ones, and once the job shows a terminal status the manager
no longer changes: the closes are recorded before the terminal status is published. -/
theorem export_run_is_reported (reg : Registry) (B : MediaBackend σ) (world : σ)
    (now later : Timestamp) (req : ExportRequest) (hvalid : Chain.validate reg req.chain = .ok ())
    (calls : List ManagerCall) (hcalls : ∀ c ∈ calls, ∀ t r, c ≠ .start t r) :
    let after := fun cs => ((new reg B.traced (world, [])).run (.start now req :: cs)).manager
    let fin := after (calls ++ [.join later])
    (∃ j, fin.job = some j ∧ j.status.isTerminal ∧ Report reg req fin.world.2 j) ∧
    ∀ pre, pre <+: calls → (after pre).world.2 <+: fin.world.2 ∧
      ∀ j ∈ (after pre).job, j.status.isTerminal = true → after pre = fin := by
  intro after fin
  let started := (new reg B.traced (world, [])).call (.start now req)
  have hinv : started.Inv := ((inv_new reg B.traced (world, [])).call _).1
  have hstart := tracing_start reg B world now req hvalid
  have hrun : ∀ cs, (new reg B.traced (world, [])).run (.start now req :: cs) = started.run cs :=
    fun _ => rfl
  have hjoin : ∀ c ∈ [ManagerCall.join later], ∀ t r, c ≠ .start t r := by simp
  -- every state after the start, up to the final join, traces the export
  have hrest : ∀ pre rest, calls = pre ++ rest →
      (∀ c ∈ pre, ∀ t r, c ≠ .start t r) ∧ ∀ c ∈ rest ++ [.join later], ∀ t r, c ≠ .start t r := by
    rintro pre rest rfl
    refine ⟨fun c hc => hcalls c (List.mem_append_left rest hc), fun c hc => ?_⟩
    rcases List.mem_append.1 hc with hc | hc
    · exact hcalls c (List.mem_append_right pre hc)
    · exact hjoin c hc
  have hfin : ∀ pre rest, calls = pre ++ rest →
      fin = ((started.run pre).run (rest ++ [.join later])).manager := by
    rintro pre rest rfl
    simp only [fin, after, hrun, ← run_append, List.append_assoc]
  refine ⟨?_, ?_⟩
  · -- the final join finishes the worker, and the events report the finished run
    have hT := (tracing_run hstart hinv calls (hrest calls [] (List.append_nil calls).symm).1).1
    have hfin' : fin = (started.run calls).manager.join later := by
      rw [hfin calls [] (List.append_nil calls).symm]
      rfl
    rw [hfin']
    exact hT.join_reports (hinv.run calls).manager later
  · rintro pre ⟨rest, hcalls'⟩
    obtain ⟨hpre, hrest'⟩ := hrest pre rest hcalls'.symm
    have hT := tracing_run hstart hinv pre hpre
    rw [hfin pre rest hcalls'.symm]
    -- the calls after `pre` only append to the events, and leave a terminal job as it is
    refine ⟨(tracing_run hT.1 (hinv.run pre) _ hrest').2, fun j hj hterm => ?_⟩
    rw [run_of_terminal (hinv.run pre) hj hterm _ hrest']
    rfl

theorem pattern_export_is_reported :
    Chain.validate Registry.builtin [EffectInstance.ofId "fx.invert"] = .ok () ∧
    (∀ c ∈ [ManagerCall.step ⟨0, 5⟩, .cancel, .status], ∀ t r, c ≠ .start t r) ∧
    let after := fun cs =>
      ((new Registry.builtin patternBackend.traced (PatternWorld.empty, [])).run
        (.start ⟨0, 0⟩ ⟨"in.mp4", "out.mp4", [EffectInstance.ofId "fx.invert"], 7⟩ :: cs)).manager
    let fin := after ([.step ⟨0, 5⟩, .cancel, .status] ++ [.join ⟨1, 0⟩])
    (∃ j, fin.job = some j ∧ j.status.isTerminal ∧
      Report Registry.builtin ⟨"in.mp4", "out.mp4", [EffectInstance.ofId "fx.invert"], 7⟩
        fin.world.2 j) ∧
    ∀ pre, pre <+: [.step ⟨0, 5⟩, .cancel, .status] → (after pre).world.2 <+: fin.world.2 ∧
      ∀ j ∈ (after pre).job, j.status.isTerminal = true → after pre = fin := by
  have hvalid : Chain.validate Registry.builtin [EffectInstance.ofId "fx.invert"] = .ok () := by
    rfl
  have hcalls : ∀ c ∈ [ManagerCall.step ⟨0, 5⟩, .cancel, .status], ∀ t r, c ≠ .start t r := by
    simp
  exact ⟨hvalid, hcalls, export_run_is_reported Registry.builtin patternBackend PatternWorld.empty
    ⟨0, 0⟩ ⟨1, 0⟩ ⟨"in.mp4", "out.mp4", [EffectInstance.ofId "fx.invert"], 7⟩ hvalid _ hcalls⟩

end Glitch.ExportSession
