import Glitch.Proofs.ExportTrace
import Glitch.Proofs.ExportFailures
import Glitch.Proofs.EffectShape
import Glitch.Proofs.DecoderStream
/-!
The frames an export gives the encoder. Over the tool backend the source is probed for its size,
the sink is opened at that size, every decoded frame has it, and the chain keeps it; so every
frame the worker writes has the size the sink was opened at, every write is taken, and the
encoder's input is whole frames of `width * height` RGBA pixels, the geometry that its `-s`
argument names.

The writes are read off the media events of a recorded run (`MediaBackend.traced`).
`WritesFit` says of a list of events that every write was answered ok and came after an opening
of the sink at the frame's size. `Worker.Feeds` is what holds while a worker waits before a
frame: the source reports the export's size, and the sink is open at that size, with the
export's encoder arguments, and has taken one whole frame for each frame exported.

Main statement (`encoder_takes_whole_frames`): over any calls to a manager on the recorded tool
backend, every write is answered ok and writes a frame of the size the sink was last opened at,
`width * height * 4` bytes; and while a worker waits, its sink's arguments name that size after
`-s`, and the sink has taken exactly `width * height * 4` bytes for each frame exported.
-/
namespace Glitch

namespace MediaEvent

def opensSink : MediaEvent → Bool
  | .openWriter .. => true
  | _ => false

def writes : MediaEvent → Bool
  | .write .. => true
  | _ => false

end MediaEvent

def lastSinkOpen (es : List MediaEvent) : Option MediaEvent := es.reverse.find? MediaEvent.opensSink

theorem lastSinkOpen_append_of_forall {es es' : List MediaEvent}
    (h : ∀ e ∈ es', e.opensSink = false) : lastSinkOpen (es ++ es') = lastSinkOpen es := by
  unfold lastSinkOpen
  rw [List.reverse_append, List.find?_append, List.find?_eq_none.2 (by simpa using h),
    Option.none_or]

@[simp] theorem lastSinkOpen_append_openWriter (es : List MediaEvent) (path : String)
    (res : Nat × Nat) (fps : F64) (a : Except Fault Unit) :
    lastSinkOpen (es ++ [.openWriter path res fps a]) = some (.openWriter path res fps a) := by
  simp [lastSinkOpen, MediaEvent.opensSink]

/-- Every write among the events was answered ok, and the last sink opened before it was opened,
without a fault, at the size of the frame written. -/
def WritesFit (es : List MediaEvent) : Prop :=
  ∀ i f a, es[i]? = some (.write f a) →
    a = .ok () ∧ ∃ path fps, lastSinkOpen (es.take i) = some (.openWriter path f.dims fps (.ok ()))

namespace WritesFit

theorem nil : WritesFit [] := by
  intro i f a h
  simp at h

/-- Events appended to a list whose writes fit, each write fitting the events before it. -/
theorem append {es es' : List MediaEvent} (h : WritesFit es)
    (h' : ∀ j f a, es'[j]? = some (.write f a) → a = .ok () ∧
      ∃ path fps, lastSinkOpen (es ++ es'.take j) = some (.openWriter path f.dims fps (.ok ()))) :
    WritesFit (es ++ es') := by
  intro i f a hi
  by_cases hlt : i < es.length
  · rw [List.getElem?_append_left hlt] at hi
    rw [List.take_append_of_le_length hlt.le]
    exact h i f a hi
  · have hle : es.length ≤ i := Nat.le_of_not_lt hlt
    rw [List.getElem?_append_right hle] at hi
    rw [List.take_append, List.take_of_length_le hle]
    exact h' _ f a hi

theorem append_of_forall {es es' : List MediaEvent} (h : WritesFit es)
    (h' : ∀ e ∈ es', e.writes = false) : WritesFit (es ++ es') := by
  refine h.append fun j f a hj => ?_
  have := h' _ (List.mem_of_getElem? hj)
  simp [MediaEvent.writes] at this

theorem append_write {es : List MediaEvent} (h : WritesFit es) {f : Frame} {path : String}
    {fps : F64} (hopen : lastSinkOpen es = some (.openWriter path f.dims fps (.ok ()))) :
    WritesFit (es ++ [.write f (.ok ())]) := by
  refine h.append fun j f' a hj => ?_
  cases j with
  | zero =>
    obtain ⟨rfl, rfl⟩ : f = f' ∧ Except.ok () = a := by simpa using hj
    exact ⟨rfl, path, fps, by simpa using hopen⟩
  | succ j => simp at hj

theorem recorded {σ α : Type} {st : σ × List MediaEvent} (h : WritesFit st.2) (m : MediaM σ α)
    (ev : Except Fault α → MediaEvent) (hev : ∀ r, (ev r).writes = false) :
    WritesFit (MediaBackend.attempt (MediaBackend.recorded m ev) st).2.2 := by
  rw [MediaBackend.attempt_recorded]
  exact h.append_of_forall (by simpa using hev _)

end WritesFit

@[simp] theorem MediaBackend.foldl_log_traced_snd {σ : Type} (B : MediaBackend σ) (ls : List LogLine)
    (st : σ × List MediaEvent) : (ls.foldl (fun s l => B.traced.log l s) st).2 = st.2 := by
  induction ls generalizing st with
  | nil => rfl
  | cons l ls ih => exact ih _

theorem Worker.closeEvents_writes (wo ro : Bool) (rw rr : Except Fault Unit) :
    ∀ e ∈ Worker.closeEvents wo ro rw rr, e.writes = false := by
  unfold Worker.closeEvents
  cases wo <;> cases ro <;> simp [MediaEvent.writes]

theorem Frame.dims_of_ofBytes? {w h : Nat} {bytes : Array UInt8} {f : Frame}
    (hf : Frame.ofBytes? w h bytes = some f) : f.dims = (w, h) := by
  unfold Frame.ofBytes? at hf
  split at hf
  · cases hf
    rfl
  · cases hf

theorem MediaM.run_eq_pure_attempt {σ α : Type} (m : MediaM σ α) (s : σ) :
    StateT.run (ExceptT.run m) s = pure (MediaBackend.attempt m s) := rfl

namespace Transcoder

theorem attempt_openReader_ok {t : Transcoder} {path : String} {h h' : Host} {info : SourceInfo}
    (hok : MediaBackend.attempt (t.openReader path) h = (.ok info, h')) :
    ∃ r, h'.reader = some r ∧ (r.info.width, r.info.height) = info.resolution := by
  revert hok
  conv => lhs; unfold MediaBackend.attempt
  simp only [openReader, say, ExceptT.run_bind, StateT.run_bind, MediaM.run_eq_pure_attempt, pure_bind]
  generalize MediaBackend.attempt (t.probe path) h = p
  obtain ⟨_ | pinfo, h₁⟩ := p
  · intro hok
    cases hok
  · intro hok
    have hinfo : Except.ok (⟨pinfo.frameCount, (pinfo.width, pinfo.height), pinfo.fps⟩ : SourceInfo) =
      Except.ok info := congrArg Prod.fst hok
    have hreader : h'.reader = some ⟨path, pinfo, none, 0⟩ :=
      (congrArg (fun p : Except Fault SourceInfo × Host => p.2.reader) hok).symm
    cases hinfo
    exact ⟨_, hreader, rfl⟩

/-- An opened sink is a new encoder at the requested size; the tools could start it, and the
source is left as it was. -/
theorem attempt_openWriter_ok {t : Transcoder} {path : String} {res : Nat × Nat} {fps : F64}
    {h h' : Host} (hok : MediaBackend.attempt (t.openWriter path res fps) h = (.ok (), h')) :
    h.tools.hasTranscoder = true ∧ h'.tools = h.tools ∧ h'.reader = h.reader ∧
      h'.writer = some ⟨t.encoderArgs path res fps, .empty, true, true, res⟩ := by
  revert hok
  simp only [MediaBackend.attempt, openWriter, say, refuse, ExceptT.run_bind, StateT.run_bind,
    MediaM.run_get, pure_bind]
  split
  · intro hok
    cases hok
  · rename_i htools
    intro hok
    refine ⟨by simpa using htools, ?_, ?_, ?_⟩
    · exact (congrArg (fun p : Except Fault Unit × Host => p.2.tools) hok).symm
    · exact (congrArg (fun p : Except Fault Unit × Host => p.2.reader) hok).symm
    · exact (congrArg (fun p : Except Fault Unit × Host => p.2.writer) hok).symm

theorem readTo_info (index : Nat) :
    ∀ (fuel : Nat) (r : ToolReader) (run : DecoderRun) (last : List UInt8),
      (readTo r run index fuel last).2.info = r.info
  | 0, r, run, last => rfl
  | fuel + 1, r, run, last => by
    rw [readTo]
    split
    · rfl
    · split
      · exact readTo_info index fuel _ _ _
      · rfl

/-- A frame the decoder gives has the size the probe reported; the call keeps what the probe
reported, the tools and the sink. -/
theorem decodeFrame_ok {h h' : Host} {r : ToolReader} (hr : h.reader = some r)
    (ht : h.tools.hasTranscoder = true) {i : Nat} {f : Frame}
    (hok : MediaBackend.attempt (decodeFrame i) h = (.ok f, h')) :
    f.dims = (r.info.width, r.info.height) ∧ (∃ r', h'.reader = some r' ∧ r'.info = r.info) ∧
      h'.writer = h.writer ∧ h'.tools = h.tools := by
  by_cases hi : i < r.info.frameCount
  · rw [attempt_decodeFrame_eq hr ht hi, finishCall] at hok
    have hinfo := readTo_info i (i + 1 - (prepared r (decoderOutput h r) i).nextIndex)
      (prepared r (decoderOutput h r) i) ((prepared r (decoderOutput h r) i).decoder.getD ⟨[]⟩) []
    generalize readTo _ _ i _ [] = out at hok hinfo
    obtain ⟨_ | data, r'⟩ := out
    · cases hok
    · dsimp only at hok hinfo
      cases hf : Frame.ofBytes? r'.info.width r'.info.height data.toArray with
      | none =>
        rw [hf] at hok
        cases hok
      | some g =>
        rw [hf] at hok
        cases hok
        refine ⟨?_, ⟨r', rfl, hinfo⟩, rfl, rfl⟩
        rw [Frame.dims_of_ofBytes? hf, hinfo]
        rfl
  · rw [attempt_decodeFrame_of_ge hr (Nat.le_of_not_lt hi)] at hok
    cases hok

theorem attempt_writeFrame_of {h : Host} {wr : ToolWriter} (hw : h.writer = some wr) {f : Frame}
    (hdims : f.dims = wr.resolution) (hopen : wr.inputOpen = true) :
    MediaBackend.attempt (writeFrame f) h =
      (.ok (), { h with writer := some { wr with input := wr.input ++ ⟨f.bytes⟩ } }) := by
  simp only [MediaBackend.attempt, writeFrame, refuse, ExceptT.run_bind, StateT.run_bind,
    MediaM.run_get, pure_bind, hw, hdims, bne_self_eq_false, hopen]
  rfl

end Transcoder


/-- What holds while a worker of the recorded tool backend is in its frame loop: the tools can
start the encoder, the source reports the export's size, and the sink is open at that size with
the export's encoder arguments, has taken one whole frame for each frame exported, and is the
last sink the events opened. -/
structure Worker.Feeds (t : Transcoder) (w : Worker) (st : Host × List MediaEvent) : Prop where
  tools : st.1.tools.hasTranscoder = true
  reader : ∃ r, st.1.reader = some r ∧ (r.info.width, r.info.height) = w.info.resolution
  writer : ∃ wr, st.1.writer = some wr ∧ wr.resolution = w.info.resolution ∧ wr.inputOpen = true ∧
    wr.args = t.encoderArgs w.request.outputPath w.info.resolution w.info.fps ∧
    wr.input.size = w.next * (w.info.resolution.1 * w.info.resolution.2 * 4)
  opened : lastSinkOpen st.2 =
    some (.openWriter w.request.outputPath w.info.resolution w.info.fps (.ok ()))

def Stand.Feeds (t : Transcoder) : Stand → Host × List MediaEvent → Prop
  | .boundary w, st => w.Feeds t st
  | .before w, st => w.Feeds t st
  | _, _ => True

namespace Worker.Feeds

variable {t : Transcoder} {w : Worker} {st : Host × List MediaEvent}

theorem log (hf : w.Feeds t st) (l : LogLine) : w.Feeds t (t.backend.traced.log l st) :=
  ⟨hf.tools, hf.reader, hf.writer, hf.opened⟩

theorem logs (hf : w.Feeds t st) (ls : List LogLine) :
    w.Feeds t (ls.foldl (fun s l => t.backend.traced.log l s) st) := by
  induction ls generalizing st with
  | nil => exact hf
  | cons l ls ih => exact ih (hf.log l)

/-- A worker at the first frame, after its source opened and its sink opened at the source's
size, feeds the encoder. -/
theorem of_opened {st : Host × List MediaEvent} {req : ExportRequest} {info : SourceInfo}
    (hr : (MediaBackend.attempt (t.backend.traced.openReader req.inputPath) st).1 = .ok info)
    (hw : (MediaBackend.attempt (t.backend.traced.openWriter req.outputPath info.resolution info.fps)
      (MediaBackend.attempt (t.backend.traced.openReader req.inputPath) st).2).1 = .ok ()) :
    (⟨req, info, EffectStates.empty, 0⟩ : Worker).Feeds t
      (MediaBackend.attempt (t.backend.traced.openWriter req.outputPath info.resolution info.fps)
        (MediaBackend.attempt (t.backend.traced.openReader req.inputPath) st).2).2 := by
  obtain ⟨h, es⟩ := st
  simp only [MediaBackend.traced, MediaBackend.attempt_recorded] at hr hw ⊢
  obtain ⟨r, hr', hres⟩ := Transcoder.attempt_openReader_ok (Prod.ext hr rfl)
  obtain ⟨htools, htools', hreader, hwriter⟩ := Transcoder.attempt_openWriter_ok (Prod.ext hw rfl)
  refine ⟨htools'.symm ▸ htools, ⟨r, hreader.trans hr', hres⟩,
    ⟨_, hwriter, rfl, rfl, rfl, (Nat.zero_mul _).symm⟩, ?_⟩
  rw [hw, lastSinkOpen_append_openWriter]

/-- A frame decoded while the worker feeds the encoder has the export's size, and the decoder
leaves the sink and what the source reports as they were. -/
theorem decode (hf : w.Feeds t st) (i : Nat) {frame : Frame}
    (hok : (MediaBackend.attempt (t.backend.traced.decodeFrame i) st).1 = .ok frame) :
    frame.dims = w.info.resolution ∧
      w.Feeds t (MediaBackend.attempt (t.backend.traced.decodeFrame i) st).2 := by
  obtain ⟨h, es⟩ := st
  obtain ⟨r, hr, hres⟩ := hf.reader
  simp only [MediaBackend.traced, MediaBackend.attempt_recorded] at hok ⊢
  obtain ⟨hdims, ⟨r', hr', hinfo⟩, hw, htools⟩ :=
    Transcoder.decodeFrame_ok hr hf.tools (Prod.ext hok rfl)
  refine ⟨hdims.trans hres, htools ▸ hf.tools, ⟨r', hr', hinfo ▸ hres⟩, hw ▸ hf.writer, ?_⟩
  rw [lastSinkOpen_append_of_forall (by simp [MediaEvent.opensSink])]
  exact hf.opened

/-- A frame of the export's size, written while the worker feeds the encoder, is taken whole:
the write is answered ok, the writes recorded still fit, and the worker at the next frame
feeds the encoder. -/
theorem write (hf : w.Feeds t st) (hfit : WritesFit st.2) {out : Frame}
    (hdims : out.dims = w.info.resolution) (S : EffectStates) :
    (MediaBackend.attempt (t.backend.traced.writeFrame out) st).1 = .ok () ∧
      WritesFit (MediaBackend.attempt (t.backend.traced.writeFrame out) st).2.2 ∧
      ({ w with states := S, next := w.next + 1 } : Worker).Feeds t
        (MediaBackend.attempt (t.backend.traced.writeFrame out) st).2 := by
  obtain ⟨h, es⟩ := st
  obtain ⟨wr, hw, hres, hopen, hargs, hsize⟩ := hf.writer
  have hwrite := Transcoder.attempt_writeFrame_of hw (hdims.trans hres.symm) hopen
  simp only [MediaBackend.traced, MediaBackend.attempt_recorded]
  rw [show t.backend.writeFrame out = Transcoder.writeFrame out from rfl, hwrite]
  refine ⟨rfl, hfit.append_write (hdims ▸ hf.opened),
    ⟨hf.tools, hf.reader, ⟨_, rfl, hres, hopen, hargs, ?_⟩, ?_⟩⟩
  · -- the input grows by one frame of the export's size
    obtain ⟨hwidth, hheight⟩ := Prod.ext_iff.1 hdims
    rw [ByteArray.size_append, hsize]
    show _ + out.bytes.size = _
    rw [Frame.size_bytes, show out.width = w.info.resolution.1 from hwidth,
      show out.height = w.info.resolution.2 from hheight, Nat.succ_mul]
  · rw [lastSinkOpen_append_of_forall (by simp [MediaEvent.opensSink])]
    exact hf.opened

/-- Exporting the frame the worker waits before: the decoded frame has the export's size, the
chain keeps it, whatever its context, and the write of the chain's output, after any log lines,
is taken whole. -/
theorem exportFrame (hf : w.Feeds t st) (hfit : WritesFit st.2) {frame out : Frame}
    {S : EffectStates} {c : ChainContext}
    (hdec : (MediaBackend.attempt (t.backend.traced.decodeFrame w.next) st).1 = .ok frame)
    (happly : Chain.apply c frame w.request.chain = .ok (out, S)) (ls : List LogLine) :
    let st' := ls.foldl (fun s l => t.backend.traced.log l s)
      (MediaBackend.attempt (t.backend.traced.decodeFrame w.next) st).2
    (MediaBackend.attempt (t.backend.traced.writeFrame out) st').1 = .ok () ∧
      WritesFit (MediaBackend.attempt (t.backend.traced.writeFrame out) st').2.2 ∧
      ({ w with states := S, next := w.next + 1 } : Worker).Feeds t
        (MediaBackend.attempt (t.backend.traced.writeFrame out) st').2 := by
  intro st'
  obtain ⟨hdims, hdecoded⟩ := hf.decode w.next hdec
  have hfit' : WritesFit st'.2 := by
    rw [MediaBackend.foldl_log_traced_snd]
    exact hfit.recorded _ _ fun _ => rfl
  exact (hdecoded.logs ls).write hfit' ((Chain.dims_of_apply happly).trans hdims) S

end Worker.Feeds

end Glitch

namespace Glitch.Worker

open Std.Do

set_option mvcgen.warning false

variable (t : Transcoder) (reg : Registry) (now : Timestamp)

/-- At its boundary a worker that feeds the encoder goes on to the frame, still feeding it, or
ends its render. -/
theorem arrive_feeds (w : Worker) :
    ⦃fun st => ⌜WritesFit st.2.2 ∧ (Stand.boundary w).Feeds t st.2⌝⦄ arrive t.backend.traced w
    ⦃⇓ s' st => ⌜WritesFit st.2.2 ∧ s'.Feeds t st.2⌝⦄ := by
  mvcgen [arrive]
  all_goals exact ⟨‹WritesFit _ ∧ _›.1, trivial⟩

/-- Opening opens the sink at the size the source reports, so a worker that reaches the first
boundary feeds the encoder. -/
theorem openMedia_feeds (req : ExportRequest) :
    ⦃fun st => ⌜WritesFit st.2.2⌝⦄ openMedia t.backend.traced req
    ⦃⇓ s' st => ⌜WritesFit st.2.2 ∧ s'.Feeds t st.2⌝⦄ := by
  mvcgen [openMedia]
  case vc1.h_1 => exact ⟨‹WritesFit _›.recorded _ _ fun _ => rfl, trivial⟩
  case vc2.h_2.h_1 =>
    exact ⟨(‹WritesFit _›.recorded _ _ fun _ => rfl).recorded _ _ fun _ => rfl, trivial⟩
  case vc3.h_2.h_2 =>
    exact ⟨(‹WritesFit _›.recorded _ _ fun _ => rfl).recorded _ _ fun _ => rfl,
      Feeds.of_opened ‹_ = Except.ok _› ‹_ = Except.ok _›⟩

/-- Exporting a frame keeps the writes fitting: a failed decode or chain run ends the render, and
the write of the chain's output is taken, so the worker at the next boundary feeds the encoder. -/
theorem exportFrame_feeds (w : Worker) :
    ⦃fun st => ⌜WritesFit st.2.2 ∧ (Stand.before w).Feeds t st.2⌝⦄ exportFrame t.backend.traced reg w
    ⦃⇓ s' st => ⌜WritesFit st.2.2 ∧ s'.Feeds t st.2⌝⦄ := by
  mvcgen [exportFrame]
  all_goals obtain ⟨hfit, hf⟩ := ‹WritesFit _ ∧ Feeds t w _›
  -- a failed decode, or a chain run that failed after the decode, records no write
  case vc1.h_1 => exact ⟨hfit.recorded _ _ fun _ => rfl, trivial⟩
  case vc2.h_2.h_1 =>
    rw [MediaBackend.foldl_log_traced_snd]
    exact ⟨hfit.recorded _ _ fun _ => rfl, trivial⟩
  case vc3.h_2.h_2.h_1 =>
    rw [Chain.applyLogged_fst] at *
    rw [(hf.exportFrame hfit ‹_ = Except.ok _› ‹Chain.apply _ _ _ = _› _).1] at *
    cases ‹Except.ok () = Except.error _›
  case vc4.h_2.h_2.h_2 =>
    rw [Chain.applyLogged_fst] at *
    obtain ⟨-, hfit', hf'⟩ := hf.exportFrame hfit ‹_ = Except.ok _› ‹Chain.apply _ _ _ = _› _
    exact ⟨hfit', hf'.log _⟩

/-- The step lemma: the recorded writes keep fitting, and a worker in its frame loop feeds the
encoder. -/
theorem step_feeds (s : Stand) :
    ⦃fun st => ⌜WritesFit st.2.2 ∧ s.Feeds t st.2⌝⦄ step t.backend.traced reg now s
    ⦃⇓ s' st => ⌜WritesFit st.2.2 ∧ s'.Feeds t st.2⌝⦄ := by
  cases s with
  | opening req =>
    have h := openMedia_feeds t req
    mvcgen [step, h]
    exact ‹WritesFit _ ∧ _›.1
  | boundary w =>
    have h := arrive_feeds t w
    mvcgen [step, h]
  | before w =>
    have h := exportFrame_feeds t reg w
    mvcgen [step, h]
  | closing wo ro e =>
    have h := closeMedia_traced t.backend wo ro
    mvcgen [step, h]
    obtain ⟨-, rw, rr, hev, -⟩ := ‹_ = _ ∧ ∃ rw rr, _ = _ ++ closeEvents wo ro rw rr ∧ _›
    rw [hev]
    exact ⟨‹WritesFit _ ∧ _›.1.append_of_forall (closeEvents_writes wo ro rw rr), trivial⟩
  | closed e sf => mvcgen [step, publish]
  | finished => mvcgen [step]

end Glitch.Worker

namespace Glitch.ExportManager

/-- A manager on the recorded tool backend whose recorded writes fit, and whose worker, in its
frame loop, feeds the encoder. -/
structure FeedsEncoder (t : Transcoder) (m : ExportManager (Host × List MediaEvent)) : Prop where
  backend : m.backend = t.backend.traced
  writes : WritesFit m.world.2
  feeds : m.Satisfies fun s st => WritesFit st.2.2 ∧ s.Feeds t st.2

variable {t : Transcoder} {m : ExportManager (Host × List MediaEvent)}

theorem feedsEncoder_new (reg : Registry) (h₀ : Host) :
    (new reg t.backend.traced (h₀, [])).FeedsEncoder t :=
  ⟨rfl, WritesFit.nil, fun _ h => absurd h (Option.not_mem_none _)⟩

theorem FeedsEncoder.of_satisfies {m' : ExportManager (Host × List MediaEvent)}
    (hm : m.FeedsEncoder t) (hb : m'.backend = m.backend)
    (hsome : m.job.isSome → m'.job.isSome) (hnone : m.job = none → m' = m)
    (h : m'.Satisfies fun s st => WritesFit st.2.2 ∧ s.Feeds t st.2) : m'.FeedsEncoder t := by
  refine ⟨hb.trans hm.backend, ?_, h⟩
  cases hj : m.job with
  | none => exact hnone hj ▸ hm.writes
  | some j =>
    obtain ⟨j', hj'⟩ := Option.isSome_iff_exists.1 (hsome (by simp [hj]))
    exact (h j' hj').1

theorem FeedsEncoder.start (hm : m.FeedsEncoder t) (now : Timestamp) (req : ExportRequest) :
    (m.start now req).2.FeedsEncoder t := by
  rcases m.start_cases now req with ⟨e, h, -⟩ | ⟨-, h⟩
  · rw [h]
    exact hm
  · -- the start line leaves the events as they are
    rw [h]
    refine ⟨hm.backend, ?_, fun j hj => ?_⟩ <;> rw [hm.backend]
    · exact hm.writes
    · exact ⟨hm.writes, trivial⟩

theorem FeedsEncoder.cancel (hm : m.FeedsEncoder t) : m.cancel.2.FeedsEncoder t := by
  rw [cancel_snd]
  refine ⟨hm.backend, hm.writes, fun j hj => ?_⟩
  obtain ⟨j₀, hj₀, rfl⟩ := Option.mem_map.1 hj
  exact hm.feeds j₀ hj₀

theorem FeedsEncoder.step (hm : m.FeedsEncoder t) (now : Timestamp) : (m.step now).FeedsEncoder t :=
  hm.of_satisfies (backend_step m now) (step_isSome m now) (fun h => step_none h now)
    (hm.feeds.step now fun s => by rw [hm.backend]; exact Worker.step_feeds t m.registry now s)

theorem FeedsEncoder.join (hm : m.FeedsEncoder t) (now : Timestamp) : (m.join now).FeedsEncoder t :=
  hm.of_satisfies (backend_join m now) (join_isSome m now) (fun h => join_none h now)
    (hm.feeds.join now fun s => by rw [hm.backend]; exact Worker.step_feeds t m.registry now s)

theorem FeedsEncoder.worker (hm : m.FeedsEncoder t) (hi : m.Inv) {w : Worker} (hw : w ∈ m.worker) :
    w.Feeds t m.world := by
  cases hj : m.job with
  | none =>
    have hw' : m.stand.worker = some w := hw
    rw [hi.no_job hj] at hw'
    cases hw'
  | some j =>
    have hf := (hm.feeds j hj).2
    have hw' : m.stand.worker = some w := hw
    -- only a worker in its frame loop is named, and there the stand's invariant is its own
    cases hs : m.stand <;> rw [hs] at hw' hf <;> simp only [Stand.worker] at hw' <;> cases hw'
    all_goals exact hf

end Glitch.ExportManager

namespace Glitch.ExportSession

variable {t : Transcoder} {s : ExportSession (Host × List MediaEvent)}

theorem feedsEncoder_call (h : s.manager.FeedsEncoder t) (c : ManagerCall) :
    (s.call c).manager.FeedsEncoder t := by
  cases c with
  | start now req =>
    have hm := h.start now req
    rcases hstart : s.manager.start now req with ⟨_ | ⟨⟩, m⟩
    all_goals
      rw [hstart] at hm
      simpa only [ExportSession.call, hstart] using hm
  | cancel => exact h.cancel
  | status => exact h
  | step now => exact h.step now
  | join now => exact h.join now

theorem feedsEncoder_run (h : s.manager.FeedsEncoder t) (calls : List ManagerCall) :
    (s.run calls).manager.FeedsEncoder t := by
  induction calls generalizing s with
  | nil => exact h
  | cons c calls ih => exact ih (feedsEncoder_call h c)

end Glitch.ExportSession

namespace Glitch.Transcoder

theorem size_infix_encoderArgs (t : Transcoder) (path : String) (res : Nat × Nat) (fps : F64) :
    ["-s", toString res.1 ++ "x" ++ toString res.2] <:+: t.encoderArgs path res fps :=
  ⟨["-v", "error", "-y", "-f", "rawvideo", "-pix_fmt", "rgba"], _, rfl⟩

/-- Over any calls to a manager on the recorded tool backend, whatever the chain and the
registry: every write was answered ok, so no frame was refused for its size, and wrote a frame
of the size the sink was last opened at, `width * height * 4` bytes of RGBA. While a worker
waits, its sink is open at the source's size, its arguments give that size after `-s`, and it
has taken exactly `width * height * 4` bytes for each frame exported. -/
theorem encoder_takes_whole_frames (t : Transcoder) (reg : Registry) (h₀ : Host)
    (calls : List ManagerCall) :
    let m := ((ExportSession.new reg t.backend.traced (h₀, [])).run calls).manager
    (∀ i f a, m.world.2[i]? = some (.write f a) → a = .ok () ∧
      ∃ path res fps, lastSinkOpen (m.world.2.take i) = some (.openWriter path res fps (.ok ())) ∧
        f.dims = res ∧ f.bytes.size = res.1 * res.2 * 4) ∧
    (∀ w ∈ m.worker, ∃ wr, m.world.1.writer = some wr ∧ wr.resolution = w.info.resolution ∧
      wr.inputOpen = true ∧
      ["-s", toString w.info.resolution.1 ++ "x" ++ toString w.info.resolution.2] <:+: wr.args ∧
      wr.input.size = w.next * (w.info.resolution.1 * w.info.resolution.2 * 4)) := by
  intro m
  have hm : m.FeedsEncoder t :=
    ExportSession.feedsEncoder_run (ExportManager.feedsEncoder_new reg h₀) calls
  have hi : m.Inv := ((ExportSession.inv_new reg t.backend.traced (h₀, [])).run calls).manager
  refine ⟨fun i f a hi => ?_, fun w hw => ?_⟩
  · obtain ⟨ha, path, fps, hopen⟩ := hm.writes i f a hi
    exact ⟨ha, path, f.dims, fps, hopen, rfl, Frame.size_bytes f⟩
  · obtain ⟨wr, hwr, hres, hopen, hargs, hsize⟩ := (hm.worker hi hw).writer
    exact ⟨wr, hwr, hres, hopen, hargs ▸ size_infix_encoderArgs t _ _ _, hsize⟩

end Glitch.Transcoder
