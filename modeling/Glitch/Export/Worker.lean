import Glitch.Export.Job
import Glitch.Media.Backend
/-!
The export worker: it opens the source and the sink, exports frame after frame through the effect
chain, and closes both media on every path.

The worker is described by the points where another thread can observe it, and moves between
them by `step`: it opens both media; at each frame boundary it first asks whether frames remain
and then reads the cancel flag, so a cancellation after the last check still completes; it
exports the frame it stands before; it closes the sink and then the source; and last it publishes
the job's terminal status. Until that last step the job is running, so a cancel may land while
the media open or close. A failing or aborting sink close turns a completed export into an error,
while a failing source close is only logged. The job records only the category of an error, or
`Panic` for an abort.
-/
namespace Glitch

def exportTarget : String := "glitchframe::export::manager"

/-- A worker standing before a frame: the request, what the source reported, the effect states
carried from the frame before, and the index of the frame to export next. -/
structure Worker where
  request : ExportRequest
  info : SourceInfo
  states : EffectStates
  next : Nat

/-- How an export ended, before its media are closed. -/
inductive Ending where
  | complete
  | cancelled
  | failed (f : Fault)

/-- Where the worker stands between two of its steps, each a point where another thread can
observe it. -/
inductive Stand where
  /-- Started, with neither medium opened yet. -/
  | opening (req : ExportRequest)
  /-- At the boundary before frame `w.next`, the cancel flag not yet read. -/
  | boundary (w : Worker)
  /-- Past the check before frame `w.next`, about to decode it. -/
  | before (w : Worker)
  /-- Done rendering with the ending `e`, the sink and the source still open as flagged. -/
  | closing (writerOpen readerOpen : Bool) (e : Ending)
  /-- Both media closed, a failing sink close having left `sinkFault`; the job not yet finished. -/
  | closed (e : Ending) (sinkFault : Option String)
  | finished

namespace Stand

def worker : Stand → Option Worker
  | .boundary w | .before w => some w
  | _ => none

def waitingAt : Stand → Option Nat
  | .before w => some w.next
  | _ => none

/-- The steps left to a worker that has opened its media or failed to: a check and an export for
each frame left, then the last check, the close and the publication. -/
def stepsLeft : Stand → Nat
  | .opening _ => 0
  | .boundary w => 2 * (w.info.frameCount - w.next) + 3
  | .before w => 2 * (w.info.frameCount - w.next) + 2
  | .closing .. => 2
  | .closed .. => 1
  | .finished => 0

end Stand

abbrev WorkM (σ α : Type) := StateM (ExportJob × σ) α

namespace Worker

variable {σ : Type}

def job : WorkM σ ExportJob := do return (← get).1

def updateJob (f : ExportJob → ExportJob) : WorkM σ Unit := modify fun (j, s) => (f j, s)

def media {α : Type} (m : MediaM σ α) : WorkM σ (Except Fault α) := fun (j, s) =>
  let (r, s') := MediaBackend.attempt m s
  (r, (j, s'))

def say (B : MediaBackend σ) (l : LogLine) : WorkM σ Unit := modify fun (j, s) => (j, B.log l s)

def line (lv : Level) (message : String) : LogLine := ⟨lv, exportTarget, message⟩

def closeWarning (what : String) : Fault → LogLine
  | .error e => line .warn ("Failed to close " ++ what ++ ": " ++ e.message)
  | .abort => line .warn ("Closing " ++ what ++ " panicked")

def closeMedia (B : MediaBackend σ) (writerOpen readerOpen : Bool) : WorkM σ (Option String) := do
  let sinkFault ← if writerOpen then
      match ← media B.closeWriter with
      | .ok () => pure none
      | .error f => do
        say B (closeWarning "video writer" f)
        pure (some f.category)
    else pure none
  if readerOpen then
    match ← media B.closeReader with
    | .ok () => pure ()
    | .error f => say B (closeWarning "video reader" f)
  pure sinkFault

def outcome (e : Ending) (sinkFault : Option String) : ExportStatus × Option String :=
  match e with
  | .complete =>
    match sinkFault with
    | none => (.complete, none)
    | some c => (.error, some c)
  | .cancelled => (.cancelled, none)
  | .failed f => (.error, some f.category)

def failureLine : Ending → Option LogLine
  | .failed (.error e) => some (line .error ("Export failed: " ++ e.message))
  | .failed .abort => some (line .error "Export worker panicked")
  | _ => none

def publish (B : MediaBackend σ) (now : Timestamp) (e : Ending) (sinkFault : Option String) :
    WorkM σ Stand := do
  let (status, err) := outcome e sinkFault
  match failureLine e with
  | some l => say B l
  | none => pure ()
  updateJob (·.finish status err now)
  let j ← job
  say B (line .info ("Export " ++ status.name ++ " after " ++ toString j.currentFrame ++ "/" ++
    toString j.totalFrames ++ " frames"))
  pure .finished

/-- Arrive at a frame boundary: past the last frame the render is complete; otherwise read the
cancel flag, and stop or go on to the frame. -/
def arrive (B : MediaBackend σ) (w : Worker) : WorkM σ Stand := do
  if w.next < w.info.frameCount then
    if (← job).cancelRequested then
      say B (line .info ("Export cancelled at frame " ++ toString w.next ++ "/" ++ toString w.info.frameCount))
      pure (.closing true true .cancelled)
    else pure (.before w)
  else pure (.closing true true .complete)

/-- Open the source, record its frame count, open the sink at the source's size and rate, and
come to the boundary before the first frame. -/
def openMedia (B : MediaBackend σ) (req : ExportRequest) : WorkM σ Stand := do
  match ← media (B.openReader req.inputPath) with
  | .error f => pure (.closing false false (.failed f))
  | .ok info =>
    updateJob (·.setTotal info.frameCount)
    match ← media (B.openWriter req.outputPath info.resolution info.fps) with
    | .error f => pure (.closing false true (.failed f))
    | .ok () => pure (.boundary ⟨req, info, EffectStates.empty, 0⟩)

def frameLine (index total : Nat) : LogLine :=
  line .debug (withFields "frame exported" [("frame", toString index), ("total", toString total)])

/-- Export the frame the worker stands before: decode it, run the chain with the carried states,
write the result, count it, and come to the next boundary. -/
def exportFrame (B : MediaBackend σ) (reg : Registry) (w : Worker) : WorkM σ Stand := do
  match ← media (B.decodeFrame w.next) with
  | .error f => pure (.closing true true (.failed f))
  | .ok frame =>
    let (r, lines) := Chain.applyLogged ⟨reg, w.request.projectSeed, w.next, w.info.resolution, w.states⟩
      frame w.request.chain
    lines.forM (say B)
    match r with
    | .error e => pure (.closing true true (.failed (.error e)))
    | .ok (out, states) =>
      match ← media (B.writeFrame out) with
      | .error f => pure (.closing true true (.failed f))
      | .ok () =>
        updateJob (·.setCurrent (w.next + 1))
        say B (frameLine w.next w.info.frameCount)
        pure (.boundary { w with states := states, next := w.next + 1 })

def step (B : MediaBackend σ) (reg : Registry) (now : Timestamp) : Stand → WorkM σ Stand
  | .opening req => openMedia B req
  | .boundary w => arrive B w
  | .before w => exportFrame B reg w
  | .closing wo ro e => do
    let sinkFault ← closeMedia B wo ro
    pure (.closed e sinkFault)
  | .closed e sinkFault => publish B now e sinkFault
  | .finished => pure .finished

def runFor (B : MediaBackend σ) (reg : Registry) (now : Timestamp) : Nat → Stand → WorkM σ Stand
  | 0, s => pure s
  | n + 1, s => do runFor B reg now n (← step B reg now s)

/-- Run to the end: after its first step the worker has opened its media or failed to, and
finishes within `stepsLeft` more. -/
def runOut (B : MediaBackend σ) (reg : Registry) (now : Timestamp) (s : Stand) : WorkM σ Stand := do
  let s' ← step B reg now s
  runFor B reg now s'.stepsLeft s'

end Worker

end Glitch
