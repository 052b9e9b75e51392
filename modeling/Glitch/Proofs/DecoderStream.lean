import Glitch.Video.Transcoder
import Glitch.Proofs.EchoTrail
import Glitch.Proofs.ExportFailures
/-!
Reading frames from a decoder run. An opened reader holds at most one decoder run, whose output
is the same byte stream `D` for every run started on the file, and the index of the frame the run
gives next. A call for frame `i` refuses an index past the end without touching the run; otherwise
it starts a new run when none runs or frame `i` was read already (`Restarts`), reads forward
dropping the frames before `i`, and returns frame `i`, built from its `B = width * height * 4`
bytes.

The invariant `Tracks` says the run has given out exactly the reader's first `nextIndex` frames
of `D`. Every call that does not fail reading keeps it (`Follows.step`, `Follows.run`), so along
any calls each one returns its own frame of `D`, whatever seeks came before; and a forward scan
starts the decoder once and reads each frame once (`decodeCalls_range`).
-/
namespace Glitch

def ProbeInfo.frameBytes (i : ProbeInfo) : Nat := i.width * i.height * 4

namespace ToolReader

def Restarts (r : ToolReader) (i : Nat) : Prop := i < r.nextIndex ∨ r.decoder = none

instance (r : ToolReader) (i : Nat) : Decidable (r.Restarts i) :=
  inferInstanceAs (Decidable (_ ∨ _))

def startOf (r : ToolReader) (i : Nat) : Nat := if r.Restarts i then 0 else r.nextIndex

/-- What the call reads from: all of a new run's output `D`, or what the running one has left. -/
def streamFor (r : ToolReader) (D : List UInt8) (i : Nat) : List UInt8 :=
  if r.Restarts i then D else (r.decoder.getD ⟨[]⟩).pending

theorem startOf_le (r : ToolReader) (i : Nat) : r.startOf i ≤ i := by
  unfold startOf
  split
  · exact Nat.zero_le i
  · rename_i hre
    simp only [Restarts, not_or, Nat.not_lt] at hre
    exact hre.1

end ToolReader

theorem Frame.ofBytes?_of_le {w h : Nat} {bytes : Array UInt8} (hb : w * h * 4 ≤ bytes.size) :
    Frame.ofBytes? w h bytes = some (Frame.ofFn w h (Frame.pixelOfBytes bytes)) := by
  simp [Frame.ofBytes?, hb]

namespace Transcoder

theorem takeFrame_of_le {P : List UInt8} {n : Nat} (h : n ≤ P.length) :
    takeFrame ⟨P⟩ n = (some (P.take n), ⟨P.drop n⟩) := by
  simp [takeFrame, h]

theorem takeFrame_of_lt {P : List UInt8} {n : Nat} (h : P.length < n) :
    takeFrame ⟨P⟩ n = (none, ⟨[]⟩) := by
  simp [takeFrame, Nat.not_le.2 h]

/-- Reading forward from frame `r.nextIndex` to frame `r.nextIndex + k` takes `k + 1` frames off
the run and keeps the last. -/
theorem readTo_of_le (index : Nat) :
    ∀ (k : Nat) (r : ToolReader) (P last : List UInt8), r.nextIndex + k = index →
      (k + 1) * r.info.frameBytes ≤ P.length →
      readTo r ⟨P⟩ index (k + 1) last =
        (.ok ((P.drop (k * r.info.frameBytes)).take r.info.frameBytes),
          { r with decoder := some ⟨P.drop ((k + 1) * r.info.frameBytes)⟩, nextIndex := index + 1 })
  | 0, r, P, last, hk, hlen => by
    have hB : r.info.frameBytes ≤ P.length := by simpa using hlen
    rw [readTo, if_neg (by omega)]
    rw [show r.info.width * r.info.height * 4 = r.info.frameBytes from rfl, takeFrame_of_le hB]
    simp only [readTo, Nat.zero_mul, List.drop_zero, Nat.zero_add, Nat.one_mul]
    rw [← hk]
  | k + 1, r, P, last, hk, hlen => by
    have hB : r.info.frameBytes ≤ P.length := by
      have : r.info.frameBytes ≤ (k + 1 + 1) * r.info.frameBytes := Nat.le_mul_of_pos_left _ (by omega)
      omega
    rw [readTo, if_neg (by omega)]
    rw [show r.info.width * r.info.height * 4 = r.info.frameBytes from rfl, takeFrame_of_le hB]
    dsimp only
    -- the rest of the run holds the `k + 1` frames still to read
    have hrest : (k + 1) * r.info.frameBytes ≤ (P.drop r.info.frameBytes).length := by
      rw [List.length_drop]
      have : (k + 1 + 1) * r.info.frameBytes = (k + 1) * r.info.frameBytes + r.info.frameBytes := by ring
      omega
    rw [readTo_of_le index k { r with nextIndex := r.nextIndex + 1 } _ _ (by simp; omega) hrest]
    simp only [List.drop_drop]
    congr 3 <;> ring_nf

theorem readTo_of_lt (index : Nat) :
    ∀ (k : Nat) (r : ToolReader) (P last : List UInt8), r.nextIndex + k = index →
      P.length < (k + 1) * r.info.frameBytes →
      ∃ msg r', readTo r ⟨P⟩ index (k + 1) last = (.error msg, r')
  | k, r, P, last, hk, hlen => by
    rw [readTo, if_neg (by omega), show r.info.width * r.info.height * 4 = r.info.frameBytes from rfl]
    by_cases hB : r.info.frameBytes ≤ P.length
    · rw [takeFrame_of_le hB]
      dsimp only
      cases k with
      | zero => omega
      | succ k =>
        have hrest : (P.drop r.info.frameBytes).length < (k + 1) * r.info.frameBytes := by
          rw [List.length_drop]
          have : (k + 1 + 1) * r.info.frameBytes = (k + 1) * r.info.frameBytes + r.info.frameBytes := by ring
          omega
        exact readTo_of_lt index k { r with nextIndex := r.nextIndex + 1 } _ _ (by simp; omega) hrest
    · rw [takeFrame_of_lt (Nat.lt_of_not_le hB)]
      exact ⟨_, _, rfl⟩

theorem attempt_decodeFrame_of_ge {h : Host} {r : ToolReader} (hr : h.reader = some r) {i : Nat}
    (hi : r.info.frameCount ≤ i) :
    MediaBackend.attempt (decodeFrame i) h = (.error (.error (.video (.frameOutOfRange i r.info.frameCount))), h) := by
  simp only [MediaBackend.attempt, decodeFrame, refuse, ExceptT.run_bind, StateT.run_bind,
    MediaM.run_get, pure_bind, hr, if_pos hi]
  rfl

def decoderOutput (h : Host) (r : ToolReader) : List UInt8 := (ToyVideo.decode h.disk r.path).stdout.toList

/-- The reader made ready for frame `i`: a new run of the whole output `D` from frame 0 when the
call restarts, the running decoder from the reader's next frame otherwise. -/
def prepared (r : ToolReader) (D : List UInt8) (i : Nat) : ToolReader :=
  { r with decoder := some ⟨r.streamFor D i⟩, nextIndex := r.startOf i }

/-- The rest of a call once the reader is ready: read forward to frame `i` and build the frame. -/
def finishCall (h : Host) (r₀ : ToolReader) (i : Nat) : Except Fault Frame × Host :=
  let out := readTo r₀ (r₀.decoder.getD ⟨[]⟩) i (i + 1 - r₀.nextIndex) []
  (match out.1 with
    | .ok data =>
      match Frame.ofBytes? out.2.info.width out.2.info.height data.toArray with
      | some f => .ok f
      | none => .error (.error (.video (.decodingFailed "short frame")))
    | .error reason => .error (.error (.video (.decodingFailed reason))),
   { h with reader := some out.2 })

theorem attempt_decodeFrame_eq {h : Host} {r : ToolReader} (hr : h.reader = some r)
    (ht : h.tools.hasTranscoder = true) {i : Nat} (hi : i < r.info.frameCount) :
    MediaBackend.attempt (decodeFrame i) h = finishCall h (prepared r (decoderOutput h r) i) i := by
  simp only [MediaBackend.attempt, decodeFrame, refuse, ExceptT.run_bind, StateT.run_bind,
    MediaM.run_get, pure_bind, hr, if_neg (Nat.not_le.2 hi)]
  by_cases hre : r.Restarts i
  case' pos =>
    have hcond : (decide (i < r.nextIndex) || r.decoder.isNone) = true := by
      simpa [ToolReader.Restarts] using hre
    have hprep : prepared r (decoderOutput h r) i =
        { r with decoder := some ⟨(ToyVideo.decode h.disk r.path).stdout.toList⟩, nextIndex := 0 } := by
      simp [prepared, ToolReader.streamFor, ToolReader.startOf, hre, decoderOutput]
    rw [if_pos hcond, if_pos ht, hprep]
  case' neg =>
    obtain ⟨hle, hdec⟩ : r.nextIndex ≤ i ∧ r.decoder ≠ none := by
      simpa [ToolReader.Restarts, not_or, Nat.not_lt] using hre
    obtain ⟨⟨P⟩, hrun⟩ := Option.ne_none_iff_exists'.1 hdec
    have hcond : ¬ (decide (i < r.nextIndex) || r.decoder.isNone) = true := by
      simp [hrun, Nat.not_lt.2 hle]
    rw [if_neg hcond]
    have hprep : prepared r (decoderOutput h r) i = r := by
      obtain ⟨path, info, decoder, n⟩ := r
      simp only at hrun
      subst hrun
      simp [prepared, ToolReader.streamFor, ToolReader.startOf, hre]
    rw [hprep]
  all_goals
    simp only [ExceptT.run_bind, StateT.run_bind, MediaM.run_set, pure_bind, finishCall]
    generalize readTo _ _ i _ [] = out
    obtain ⟨_ | data, r'⟩ := out
    · rfl
    · dsimp only
      cases Frame.ofBytes? r'.info.width r'.info.height data.toArray <;> rfl

theorem attempt_decodeFrame_ok {h : Host} {r : ToolReader} (hr : h.reader = some r)
    (ht : h.tools.hasTranscoder = true) {i : Nat} (hi : i < r.info.frameCount)
    (hlen : (i - r.startOf i + 1) * r.info.frameBytes ≤ (r.streamFor (decoderOutput h r) i).length) :
    let S := r.streamFor (decoderOutput h r) i
    let k := i - r.startOf i
    ∃ f, Frame.ofBytes? r.info.width r.info.height ((S.drop (k * r.info.frameBytes)).take r.info.frameBytes).toArray = some f ∧
      MediaBackend.attempt (decodeFrame i) h =
        (.ok f, { h with
          reader := some { r with decoder := some ⟨S.drop ((k + 1) * r.info.frameBytes)⟩, nextIndex := i + 1 } }) := by
  intro S k
  have hlen' : (k + 1) * r.info.frameBytes ≤ S.length := hlen
  -- the frame read is `B` bytes long, enough for a frame of the probed size
  have hsize : r.info.width * r.info.height * 4 ≤
      ((S.drop (k * r.info.frameBytes)).take r.info.frameBytes).toArray.size := by
    simp only [List.size_toArray, List.length_take, List.length_drop]
    have : r.info.frameBytes ≤ S.length - k * r.info.frameBytes := by
      have : (k + 1) * r.info.frameBytes = k * r.info.frameBytes + r.info.frameBytes := by ring
      omega
    exact Nat.le_min.2 ⟨le_rfl, this⟩
  have hs := r.startOf_le i
  rw [attempt_decodeFrame_eq hr ht hi, finishCall]
  simp only [prepared, Option.getD_some]
  rw [show i + 1 - r.startOf i = k + 1 by omega,
    readTo_of_le i k { r with decoder := some ⟨S⟩, nextIndex := r.startOf i } S [] (by simp [k]; omega) hlen']
  exact ⟨_, Frame.ofBytes?_of_le hsize, by simp only [Frame.ofBytes?_of_le hsize]⟩

theorem attempt_decodeFrame_short {h : Host} {r : ToolReader} (hr : h.reader = some r)
    (ht : h.tools.hasTranscoder = true) {i : Nat} (hi : i < r.info.frameCount)
    (hlen : (r.streamFor (decoderOutput h r) i).length < (i - r.startOf i + 1) * r.info.frameBytes) :
    ∃ msg h', MediaBackend.attempt (decodeFrame i) h = (.error (.error (.video (.decodingFailed msg))), h') := by
  have hs := r.startOf_le i
  rw [attempt_decodeFrame_eq hr ht hi, finishCall]
  simp only [prepared, Option.getD_some]
  rw [show i + 1 - r.startOf i = i - r.startOf i + 1 by omega]
  obtain ⟨msg, r', hread⟩ := readTo_of_lt i (i - r.startOf i)
    { r with decoder := some ⟨r.streamFor (decoderOutput h r) i⟩, nextIndex := r.startOf i } _ [] (by simp; omega) hlen
  rw [hread]
  exact ⟨msg, _, rfl⟩

end Transcoder

namespace ToolReader

/-- The decoder run, if any, has given out exactly the reader's first `nextIndex` frames of `D`. -/
def Tracks (D : List UInt8) (r : ToolReader) : Prop :=
  ∀ P, r.decoder = some ⟨P⟩ → P = D.drop (r.nextIndex * r.info.frameBytes)

theorem streamFor_of_tracks {D : List UInt8} {r : ToolReader} (ht : r.Tracks D) (i : Nat) :
    r.streamFor D i = D.drop (r.startOf i * r.info.frameBytes) := by
  unfold streamFor startOf
  split
  · simp
  · rename_i hre
    obtain ⟨⟨P⟩, hrun⟩ := Option.ne_none_iff_exists'.1 (fun h => hre (.inr h))
    rw [hrun, Option.getD_some]
    exact ht P hrun

theorem tracks_none (D : List UInt8) (r : ToolReader) (h : r.decoder = none) : r.Tracks D := by
  intro P hP
  rw [h] at hP
  cases hP

end ToolReader

def ProbeInfo.frameAt (info : ProbeInfo) (D : List UInt8) (i : Nat) : Option Frame :=
  Frame.ofBytes? info.width info.height ((D.drop (i * info.frameBytes)).take info.frameBytes).toArray

namespace Transcoder

/-- From a tracking reader, a call for a frame the output holds returns that frame of the output
and leaves the reader tracking, one past it. -/
theorem attempt_decodeFrame_of_tracks {h : Host} {r : ToolReader} (hr : h.reader = some r)
    (ht : h.tools.hasTranscoder = true) (htr : r.Tracks (decoderOutput h r)) {i : Nat}
    (hi : i < r.info.frameCount) (hlen : (i + 1) * r.info.frameBytes ≤ (decoderOutput h r).length) :
    ∃ f, r.info.frameAt (decoderOutput h r) i = some f ∧
      MediaBackend.attempt (decodeFrame i) h =
        (.ok f, { h with reader := some { r with
          decoder := some ⟨(decoderOutput h r).drop ((i + 1) * r.info.frameBytes)⟩, nextIndex := i + 1 } }) := by
  have hS := r.streamFor_of_tracks htr i
  have hs := r.startOf_le i
  set D := decoderOutput h r
  set B := r.info.frameBytes
  set s := r.startOf i
  -- the `i - s` frames skipped and the one read end exactly at frame `i + 1`
  have hsplit : (i - s + 1) * B + s * B = (i + 1) * B := by
    rw [← Nat.add_mul]
    congr 1
    omega
  have hskip : (i - s) * B + s * B = i * B := by
    rw [← Nat.add_mul, Nat.sub_add_cancel hs]
  have hlen' : (i - s + 1) * B ≤ (r.streamFor D i).length := by
    rw [hS, List.length_drop]
    omega
  obtain ⟨f, hf, hrun⟩ := attempt_decodeFrame_ok hr ht hi hlen'
  refine ⟨f, ?_, ?_⟩
  · rw [← hf, hS, List.drop_drop, Nat.add_comm, hskip]
    rfl
  · rw [hrun, hS, List.drop_drop, Nat.add_comm (s * B), hsplit]

theorem attempt_decodeFrame_short_of_tracks {h : Host} {r : ToolReader} (hr : h.reader = some r)
    (ht : h.tools.hasTranscoder = true) (htr : r.Tracks (decoderOutput h r)) {i : Nat}
    (hi : i < r.info.frameCount) (hlen : (decoderOutput h r).length < (i + 1) * r.info.frameBytes) :
    ∃ msg h', MediaBackend.attempt (decodeFrame i) h = (.error (.error (.video (.decodingFailed msg))), h') := by
  have hS := r.streamFor_of_tracks htr i
  have hs := r.startOf_le i
  set D := decoderOutput h r
  set B := r.info.frameBytes
  set s := r.startOf i
  have hsplit : (i - s + 1) * B + s * B = (i + 1) * B := by
    rw [← Nat.add_mul]
    congr 1
    omega
  have hpos : 0 < (i - s + 1) * B := by
    rcases Nat.eq_zero_or_pos B with h0 | h0
    · rw [h0, Nat.mul_zero] at hlen
      omega
    · exact Nat.mul_pos (Nat.succ_pos _) h0
  refine attempt_decodeFrame_short hr ht hi ?_
  change (r.streamFor D i).length < (i - s + 1) * B
  rw [hS, List.length_drop]
  omega

/-- Calls for frames one after another, each call's result kept: a failed call does not stop
the ones after it. -/
def decodeCalls : List Nat → Host → List (Except Fault Frame) × Host
  | [], h => ([], h)
  | i :: is, h =>
    let step := MediaBackend.attempt (decodeFrame i) h
    let rest := decodeCalls is step.2
    (step.1 :: rest.1, rest.2)

theorem decodeCalls_append (is js : List Nat) (h : Host) :
    decodeCalls (is ++ js) h =
      ((decodeCalls is h).1 ++ (decodeCalls js (decodeCalls is h).2).1, (decodeCalls js (decodeCalls is h).2).2) := by
  induction is generalizing h with
  | nil => rfl
  | cons i is ih => simp [decodeCalls, ih]

@[simp] theorem length_decodeCalls (is : List Nat) (h : Host) : (decodeCalls is h).1.length = is.length := by
  induction is generalizing h with
  | nil => rfl
  | cons i is ih => simp [decodeCalls, ih]

def ReadOk (res : Except Fault Frame) : Prop := ∀ msg, res ≠ .error (.error (.video (.decodingFailed msg)))

/-- The host still has the disk and tools of `h₀`, and its reader, on `path` with `info`, tracks
the output of a decoder run on that file. -/
structure Follows (h₀ : Host) (path : String) (info : ProbeInfo) (h : Host) : Prop where
  disk : h.disk = h₀.disk
  tools : h.tools = h₀.tools
  reader : ∃ r, h.reader = some r ∧ r.path = path ∧ r.info = info ∧
    r.Tracks (ToyVideo.decode h₀.disk path).stdout.toList

theorem Follows.step {h₀ h : Host} {path : String} {info : ProbeInfo} (hf : Follows h₀ path info h)
    (ht : h₀.tools.hasTranscoder = true) (i : Nat) (hok : ReadOk (MediaBackend.attempt (decodeFrame i) h).1) :
    Follows h₀ path info (MediaBackend.attempt (decodeFrame i) h).2 := by
  obtain ⟨r, hr, hpath, hinfo, htr⟩ := hf.reader
  have hD : decoderOutput h r = (ToyVideo.decode h₀.disk path).stdout.toList := by
    rw [decoderOutput, hf.disk, hpath]
  have ht' : h.tools.hasTranscoder = true := hf.tools ▸ ht
  rw [← hD] at htr
  by_cases hi : r.info.frameCount ≤ i
  · rw [attempt_decodeFrame_of_ge hr hi]
    exact hf
  by_cases hlen : (i + 1) * r.info.frameBytes ≤ (decoderOutput h r).length
  · obtain ⟨f, -, hrun⟩ := attempt_decodeFrame_of_tracks hr ht' htr (Nat.lt_of_not_le hi) hlen
    rw [hrun]
    refine ⟨hf.disk, hf.tools, _, rfl, hpath, hinfo, fun P hP => ?_⟩
    simp only [Option.some.injEq, DecoderRun.mk.injEq] at hP
    rw [← hP, ← hD]
  · obtain ⟨msg, h', hrun⟩ :=
      attempt_decodeFrame_short_of_tracks hr ht' htr (Nat.lt_of_not_le hi) (Nat.lt_of_not_le hlen)
    rw [hrun] at hok
    exact absurd rfl (hok msg)

theorem Follows.run {h₀ h : Host} {path : String} {info : ProbeInfo} (ht : h₀.tools.hasTranscoder = true) :
    ∀ (is : List Nat), Follows h₀ path info h → (∀ res ∈ (decodeCalls is h).1, ReadOk res) →
      Follows h₀ path info (decodeCalls is h).2
  | [], hf, _ => hf
  | i :: is, hf, hok => by
    have hstep := hf.step ht i (hok _ List.mem_cons_self)
    exact Follows.run (h := (MediaBackend.attempt (decodeFrame i) h).2) ht is hstep
      fun res hres => hok res (List.mem_cons_of_mem _ hres)

/-- One call for frame `i` from reader `r` of host `h`. Past the last frame it refuses and changes
nothing. Otherwise it reads frames `r.startOf i` to `i` from `r.streamFor D i` (a new run's whole
output `D` when `r.Restarts i`, the running decoder's rest otherwise), returns the last of them and
leaves the run after it, or fails when the stream ends first. -/
def CallReads (h : Host) (r : ToolReader) (i : Nat) : Prop :=
  let S := r.streamFor (decoderOutput h r) i
  let k := i - r.startOf i
  let B := r.info.frameBytes
  (r.info.frameCount ≤ i →
    MediaBackend.attempt (decodeFrame i) h = (.error (.error (.video (.frameOutOfRange i r.info.frameCount))), h)) ∧
  (i < r.info.frameCount → (k + 1) * B ≤ S.length →
    ∃ f, Frame.ofBytes? r.info.width r.info.height ((S.drop (k * B)).take B).toArray = some f ∧
      MediaBackend.attempt (decodeFrame i) h =
        (.ok f, { h with reader := some { r with decoder := some ⟨S.drop ((k + 1) * B)⟩, nextIndex := i + 1 } })) ∧
  (i < r.info.frameCount → S.length < (k + 1) * B →
    ∃ msg h', MediaBackend.attempt (decodeFrame i) h = (.error (.error (.video (.decodingFailed msg))), h'))

theorem callReads {h : Host} {r : ToolReader} (hr : h.reader = some r) (ht : h.tools.hasTranscoder = true)
    (i : Nat) : CallReads h r i :=
  ⟨attempt_decodeFrame_of_ge hr, fun hi hlen => attempt_decodeFrame_ok hr ht hi hlen,
    fun hi hlen => attempt_decodeFrame_short hr ht hi hlen⟩

/-- A call for frame `i` answers with frame `i` of the decoder output `D`: a refusal past the last
frame with nothing changed, the frame when `D` holds it, a failed read when `D` ends first. -/
def ReturnsFrame (D : List UInt8) (info : ProbeInfo) (h : Host) (i : Nat) : Prop :=
  (info.frameCount ≤ i →
    MediaBackend.attempt (decodeFrame i) h = (.error (.error (.video (.frameOutOfRange i info.frameCount))), h)) ∧
  (i < info.frameCount → (i + 1) * info.frameBytes ≤ D.length →
    ∃ f, info.frameAt D i = some f ∧ (MediaBackend.attempt (decodeFrame i) h).1 = .ok f) ∧
  (i < info.frameCount → D.length < (i + 1) * info.frameBytes →
    ∃ msg, (MediaBackend.attempt (decodeFrame i) h).1 = .error (.error (.video (.decodingFailed msg))))

theorem returnsFrame_of_tracks {h : Host} {r : ToolReader} (hr : h.reader = some r)
    (ht : h.tools.hasTranscoder = true) (htr : r.Tracks (decoderOutput h r)) (i : Nat) :
    ReturnsFrame (decoderOutput h r) r.info h i := by
  refine ⟨attempt_decodeFrame_of_ge hr, fun hi hlen => ?_, fun hi hlen => ?_⟩
  · obtain ⟨f, hf, hrun⟩ := attempt_decodeFrame_of_tracks hr ht htr hi hlen
    exact ⟨f, hf, by rw [hrun]⟩
  · obtain ⟨msg, h', hrun⟩ := attempt_decodeFrame_short_of_tracks hr ht htr hi hlen
    exact ⟨msg, by rw [hrun]⟩

/-- The reader after a forward scan of `j` frames of `D` tracks `D`: before the first frame no run
is going, and after it the run stands after frame `j - 1`. -/
theorem ToolReader.tracks_scanned (D : List UInt8) (path : String) (info : ProbeInfo) (j : Nat) :
    (⟨path, info, if j = 0 then none else some ⟨D.drop (j * info.frameBytes)⟩, j⟩ : ToolReader).Tracks D := by
  intro P hP
  by_cases h0 : j = 0
  · simp [h0] at hP
  · simp only [if_neg h0, Option.some.injEq, DecoderRun.mk.injEq] at hP
    exact hP.symm

/-- The reader after the forward scan of frames `0 .. j - 1`: the decoder started once and left
after frame `j - 1`, every result the frame it asked for. -/
theorem decodeCalls_range {h₀ : Host} {path : String} {info : ProbeInfo}
    (hr : h₀.reader = some ⟨path, info, none, 0⟩) (ht : h₀.tools.hasTranscoder = true)
    (hN : info.frameCount * info.frameBytes ≤ (ToyVideo.decode h₀.disk path).stdout.toList.length) :
    ∀ j ≤ info.frameCount,
      (decodeCalls (List.range j) h₀).2 = { h₀ with reader := some ⟨path, info,
        if j = 0 then none else some ⟨(ToyVideo.decode h₀.disk path).stdout.toList.drop (j * info.frameBytes)⟩, j⟩ } ∧
      ∀ k < j, ∃ f, info.frameAt (ToyVideo.decode h₀.disk path).stdout.toList k = some f ∧
        (decodeCalls (List.range j) h₀).1[k]? = some (.ok f)
  | 0, _ => by
    refine ⟨?_, fun k hk => absurd hk (Nat.not_lt_zero k)⟩
    rw [if_pos rfl, ← hr]
    rfl
  | j + 1, hj => by
    obtain ⟨hstate, hresults⟩ := decodeCalls_range hr ht hN j (by omega)
    have hcount := length_decodeCalls (List.range j) h₀
    rw [List.length_range] at hcount
    rw [List.range_succ, decodeCalls_append]
    generalize decodeCalls (List.range j) h₀ = c at hstate hresults hcount ⊢
    obtain ⟨rs, hj'⟩ := c
    dsimp only at hstate hresults hcount ⊢
    subst hstate
    set D := (ToyVideo.decode h₀.disk path).stdout.toList
    -- the reader before frame `j` has given out frames `0 .. j - 1` of `D`
    set r : ToolReader := ⟨path, info, if j = 0 then none else some ⟨D.drop (j * info.frameBytes)⟩, j⟩
    have hD : decoderOutput { h₀ with reader := some r } r = D := rfl
    have htr : r.Tracks D := ToolReader.tracks_scanned D path info j
    have hlen : (j + 1) * info.frameBytes ≤ D.length :=
      (Nat.mul_le_mul_right _ hj).trans hN
    obtain ⟨f, hf, hrun⟩ := attempt_decodeFrame_of_tracks (h := { h₀ with reader := some r }) rfl ht htr hj hlen
    simp only [decodeCalls, hrun]
    refine ⟨rfl, fun k hk => ?_⟩
    · rcases Nat.lt_succ_iff_lt_or_eq.1 hk with hk | rfl
      · obtain ⟨g, hg, hres⟩ := hresults k hk
        refine ⟨g, hg, ?_⟩
        rw [List.getElem?_append_left (by omega)]
        exact hres
      · refine ⟨f, hf, ?_⟩
        rw [List.getElem?_append_right (by omega), hcount, Nat.sub_self]
        rfl

/-- A reader opened on a file, with the transcoder available, whose decoder runs all print the
same output `D`. Every call, from any state of the reader, reads as `CallReads` says: past the last
frame it refuses without starting or reading anything; otherwise it starts a new decoder run
exactly when none runs or the frame asked for was read already, reads and drops the frames before
the one asked for, and returns that one. Along calls none of which failed reading, the reader's
next index counts the frames its decoder run gave out, and each call returns its frame of `D`. A
forward scan over all frames starts the decoder once, at frame 0, and reads each frame once. -/
theorem decoder_follows_its_stream (h₀ : Host) (path : String) (info : ProbeInfo)
    (hr : h₀.reader = some ⟨path, info, none, 0⟩) (ht : h₀.tools.hasTranscoder = true) :
    let D := (ToyVideo.decode h₀.disk path).stdout.toList
    (∀ (h : Host) (r : ToolReader) (i : Nat), h.reader = some r → h.tools.hasTranscoder = true →
      CallReads h r i) ∧
    (∀ is : List Nat, (∀ res ∈ (decodeCalls is h₀).1, ReadOk res) →
      ∃ r, (decodeCalls is h₀).2.reader = some r ∧ r.info = info ∧ r.Tracks D ∧
        ∀ i, ReturnsFrame D info (decodeCalls is h₀).2 i) ∧
    (info.frameCount * info.frameBytes ≤ D.length → ∀ j < info.frameCount,
      (∃ r, (decodeCalls (List.range j) h₀).2.reader = some r ∧ (r.Restarts j ↔ j = 0) ∧ r.startOf j = j) ∧
      ∃ f, info.frameAt D j = some f ∧ (decodeCalls (List.range info.frameCount) h₀).1[j]? = some (.ok f)) := by
  intro D
  refine ⟨fun h r i hr' ht' => callReads hr' ht' i, fun is hok => ?_, fun hN j hj => ?_⟩
  · -- the opened reader runs no decoder, so it tracks `D` trivially
    have hf₀ : Follows h₀ path info h₀ := ⟨rfl, rfl, _, hr, rfl, rfl, ToolReader.tracks_none _ _ rfl⟩
    obtain ⟨hdisk, htools, r, hr', hpath, hinfo, htr⟩ := Follows.run ht is hf₀ hok
    have hD : decoderOutput (decodeCalls is h₀).2 r = D := by rw [decoderOutput, hdisk, hpath]
    refine ⟨r, hr', hinfo, htr, fun i => ?_⟩
    have hret := returnsFrame_of_tracks hr' (htools ▸ ht) (hD ▸ htr) i
    rwa [hD, hinfo] at hret
  · obtain ⟨hstate, -⟩ := decodeCalls_range hr ht hN j hj.le
    obtain ⟨-, hres⟩ := decodeCalls_range hr ht hN info.frameCount le_rfl
    refine ⟨⟨_, by rw [hstate], ?_, ?_⟩, hres j hj⟩
    · by_cases h0 : j = 0 <;> simp [ToolReader.Restarts, h0]
    · by_cases h0 : j = 0 <;> simp [ToolReader.startOf, ToolReader.Restarts, h0]

theorem opened_reader_returns_first_frame :
    let d : Disk :=
      ⟨[(["in.mp4"], .file "\x7b\"gen\":\x7b\"width\":2,\"height\":1,\"frames\":3\x7d\x7d".toUTF8)]⟩
    let h₀ : Host := { Host.ofDisk d .all with reader := some ⟨"in.mp4", ⟨2, 1, 30, 3⟩, none, 0⟩ }
    h₀.reader = some ⟨"in.mp4", ⟨2, 1, 30, 3⟩, none, 0⟩ ∧ h₀.tools.hasTranscoder = true ∧
      ReturnsFrame (ToyVideo.decode d "in.mp4").stdout.toList ⟨2, 1, 30, 3⟩ h₀ 0 := by
  intro d h₀
  obtain ⟨-, hrun, -⟩ := decoder_follows_its_stream h₀ "in.mp4" ⟨2, 1, 30, 3⟩ rfl rfl
  obtain ⟨r, -, -, -, hret⟩ := hrun [] (by simp [decodeCalls])
  exact ⟨rfl, rfl, hret 0⟩

end Transcoder

end Glitch
