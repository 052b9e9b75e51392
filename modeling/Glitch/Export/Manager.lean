import Glitch.Export.Worker
/-!
The export manager: at most one export at a time, each run by a worker over a media backend.

The worker of the current job runs only when the caller lets it: `start` publishes a running job
whose worker has opened nothing yet, `step` lets the worker take one step, and `join` runs it to
the end. A job is running until the worker's last step publishes its terminal status. Starting
fails while a job runs, and fails on a chain that is too deep or names an unknown effect; a failed
start leaves everything as it was.
-/
namespace Glitch

/-- The manager over a backend world `σ`: the registry chains are checked against, the backend
and its world, the current (or last) job, and where its worker stands. -/
structure ExportManager (σ : Type) where
  registry : Registry
  backend : MediaBackend σ
  world : σ
  job : Option ExportJob
  stand : Stand

namespace ExportManager

variable {σ : Type}

def new (reg : Registry) (B : MediaBackend σ) (world : σ) : ExportManager σ :=
  ⟨reg, B, world, none, .finished⟩

def status (m : ExportManager σ) : ExportSnapshot :=
  match m.job with
  | some j => j.snapshot
  | none => ExportSnapshot.idle

def isRunning (m : ExportManager σ) : Bool :=
  match m.job with
  | some j => j.status == .running
  | none => false

def worker (m : ExportManager σ) : Option Worker := m.stand.worker

def waitingAt (m : ExportManager σ) : Option Nat := m.stand.waitingAt

/-- Ask the current job to stop; answers whether it was running. -/
def cancel (m : ExportManager σ) : Bool × ExportManager σ :=
  match m.job with
  | some j =>
    let (r, j) := j.cancel
    (r, { m with job := some j })
  | none => (false, m)

def settle (m : ExportManager σ) (r : Stand × ExportJob × σ) : ExportManager σ :=
  { m with job := some r.2.1, world := r.2.2, stand := r.1 }

def startLine (req : ExportRequest) : LogLine :=
  Worker.line .info ("Starting export of " ++ req.inputPath ++ " to " ++ req.outputPath ++ " (" ++
    toString req.chain.length ++ " effects)")

/-- Start exporting: refuse while a job runs or when the chain is invalid; otherwise publish a new
running job, whose worker has yet to open its media. -/
def start (m : ExportManager σ) (now : Timestamp) (req : ExportRequest) : Outcome Unit × ExportManager σ :=
  if m.isRunning then (.error (.export .conflict), m)
  else
    match Chain.validate m.registry req.chain with
    | .error e => (.error e, m)
    | .ok () =>
      let j := (ExportJob.new req.outputPath).markRunning now
      let world := m.backend.log (startLine req) m.world
      (.ok (), { m with job := some j, world := world, stand := .opening req })

def step (m : ExportManager σ) (now : Timestamp) : ExportManager σ :=
  match m.job with
  | some j => m.settle ((Worker.step m.backend m.registry now m.stand).run (j, m.world))
  | none => m

def join (m : ExportManager σ) (now : Timestamp) : ExportManager σ :=
  match m.job with
  | some j => m.settle ((Worker.runOut m.backend m.registry now m.stand).run (j, m.world))
  | none => m

/-- Let the worker take up to `n` steps, stopping once it waits to decode a frame or has
finished. -/
def stepToGate (m : ExportManager σ) (now : Timestamp) : Nat → ExportManager σ
  | 0 => m
  | n + 1 =>
    match m.stand with
    | .before _ | .finished => m
    | _ => (m.step now).stepToGate now n

/-- Let the worker take a step and go on to where it waits to decode a frame, or to its end: a
check, a close and a publication at most lie between. -/
def advance (m : ExportManager σ) (now : Timestamp) : ExportManager σ :=
  (m.step now).stepToGate now 3

end ExportManager

end Glitch
