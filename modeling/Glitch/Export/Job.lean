import Glitch.Chain
import Glitch.Data.Timestamp
/-!
An export job: its lifecycle status, its progress counters, and the snapshot reported to callers.

A job is created idle, marked running when its worker starts, and finished with a terminal status
(complete, cancelled or error). Cancelling only takes effect while the job runs. The frame counter
never goes back, and progress is `current / total` rounded to four places (zero when the total is
zero).
-/
namespace Glitch

/-- Lifecycle of an export job. -/
inductive ExportStatus where
  | idle
  | running
  | complete
  | cancelled
  | error
  deriving DecidableEq, Repr

namespace ExportStatus

def name : ExportStatus → String
  | .idle => "idle"
  | .running => "running"
  | .complete => "complete"
  | .cancelled => "cancelled"
  | .error => "error"

def isTerminal : ExportStatus → Bool
  | .complete | .cancelled | .error => true
  | _ => false

def named : List (String × ExportStatus) :=
  [("idle", .idle), ("running", .running), ("complete", .complete), ("cancelled", .cancelled), ("error", .error)]

end ExportStatus

/-- The status of an export as reported to callers. -/
structure ExportSnapshot where
  status : ExportStatus
  progress : F64
  currentFrame : Nat
  totalFrames : Nat
  outputPath : Option String
  error : Option String
  startedAt : Option Timestamp
  finishedAt : Option Timestamp

def ExportSnapshot.idle : ExportSnapshot := ⟨.idle, 0, 0, 0, none, none, none, none⟩

/-- Progress rounded to four places: `round(current / total * 10000) / 10000`, zero for no frames. -/
def exportProgress (current total : Nat) : F64 :=
  if total = 0 then 0
  else
    let p : F64 := Binary.ofNat current / Binary.ofNat total
    (p * 10000).roundHalfAway / 10000

/-- What to export. -/
structure ExportRequest where
  inputPath : String
  outputPath : String
  chain : List EffectInstance
  projectSeed : Nat

/-- An export job's state. -/
structure ExportJob where
  outputPath : String
  status : ExportStatus
  currentFrame : Nat
  totalFrames : Nat
  error : Option String
  startedAt : Option Timestamp
  finishedAt : Option Timestamp
  cancelRequested : Bool

namespace ExportJob

def new (path : String) : ExportJob := ⟨path, .idle, 0, 0, none, none, none, false⟩

/-- Ask a running job to stop; answers whether it was running. -/
def cancel (j : ExportJob) : Bool × ExportJob :=
  if j.status = .running then (true, { j with cancelRequested := true }) else (false, j)

def snapshot (j : ExportJob) : ExportSnapshot :=
  ⟨j.status, exportProgress j.currentFrame j.totalFrames, j.currentFrame, j.totalFrames, some j.outputPath,
    j.error, j.startedAt, j.finishedAt⟩

def markRunning (j : ExportJob) (now : Timestamp) : ExportJob := { j with status := .running, startedAt := some now }

def setTotal (j : ExportJob) (total : Nat) : ExportJob := { j with totalFrames := total }

def setCurrent (j : ExportJob) (current : Nat) : ExportJob := { j with currentFrame := max j.currentFrame current }

def finish (j : ExportJob) (s : ExportStatus) (err : Option String) (now : Timestamp) : ExportJob :=
  { j with status := s, error := err, finishedAt := some now }

end ExportJob

end Glitch
