import Glitch.Service.Basic
import Glitch.Export.Manager
import Glitch.Media.Pattern
/-!
The `export` request: a list of operations on one export manager over the synthetic backend.

A start without `gated` lets its worker run to the end before answering. A gated start leaves the
worker waiting before its first frame; `step` lets it export one frame at a time and `release`
lets it run out. Every answer carries the manager's status, the frames written so far and the
number of closes of each medium.
-/
namespace Glitch.Service

def exportClock : Timestamp := ⟨0, 0⟩

def snapshotOut (s : ExportSnapshot) : Json :=
  .obj [("status", .str s.status.name), ("progress", floatOut s.progress),
    ("current_frame", bigOut s.currentFrame), ("total_frames", bigOut s.totalFrames),
    ("output_path", match s.outputPath with
      | some p => .str p
      | none => .null),
    ("error", match s.error with
      | some e => .str e
      | none => .null),
    ("started", .bool s.startedAt.isSome), ("finished", .bool s.finishedAt.isSome),
    ("terminal", .bool s.status.isTerminal)]

def indexField (op : Json) (k : String) : Answer (Option Nat) := fieldOpt op k u64Of

/-- The plan of the synthetic media for a `start` operation. -/
def planOf (op : Json) : Answer PatternPlan := do
  let frames ← fieldOr op "frames" u64Of 3
  let width ← fieldOr op "width" (fun k j => unsignedOf k 32 j) 4
  let height ← fieldOr op "height" (fun k j => unsignedOf k 32 j) 2
  let fps ← fieldOr op "fps" f64Of (Binary.ofNat 24)
  let failOpen ← fieldOr op "fail_open" boolOf false
  let failOpenWriter ← fieldOr op "fail_open_writer" boolOf false
  let failReaderClose ← fieldOr op "fail_reader_close" boolOf false
  let failWriterClose ← fieldOr op "fail_writer_close" boolOf false
  let abortWriterClose ← fieldOr op "panic_writer_close" boolOf false
  let failAt ← indexField op "fail_at"
  let abortAt ← indexField op "panic_at"
  let failWriteAt ← indexField op "fail_write_at"
  pure ⟨frames, width, height, fps, failOpen, failOpenWriter, failReaderClose, failWriterClose,
    abortWriterClose, failAt, abortAt, failWriteAt⟩

def exportRequestOf (op : Json) : Answer ExportRequest := do
  let chain ← chainField op
  let seed ← fieldOr op "project_seed" u64Of 0
  let input ← fieldOr op "input_path" strOf "in.mp4"
  let output ← fieldOr op "output_path" strOf "out.mp4"
  pure ⟨input, output, chain, seed⟩

def openedSinkOut (o : OpenedSink) : Json :=
  .obj [("path", .str o.path), ("width", .nat o.resolution.1), ("height", .nat o.resolution.2),
    ("fps", floatOut o.fps)]

abbrev PatternManager := ExportManager PatternWorld

def waitingOut (m : PatternManager) : Json :=
  match m.waitingAt with
  | some i => .nat i
  | none => .null

/-- `start`: set the plan, start, and without a gate run the worker out. The answer and whether
it reports where the worker waits. -/
def startOp (m : PatternManager) (op : Json) : Answer ((Json × Bool) × PatternManager) := do
  let plan ← planOf op
  let req ← exportRequestOf op
  let gated ← fieldOr op "gated" boolOf false
  let m := { m with world := { m.world with plan := plan } }
  match m.start exportClock req with
  | (.error e, m) => pure ((errorJson e, false), m)
  | (.ok (), m) =>
    let m := if gated then m.advance exportClock else m.join exportClock
    pure ((.obj [("ok", .bool true), ("job_output_path", .str req.outputPath)], true), m)

/-- Let the waiting worker export `n` frames, one at a time, each time going on to where it waits
again. -/
def stepTimes (m : PatternManager) : Nat → PatternManager
  | 0 => m
  | n + 1 => stepTimes (m.advance exportClock) n

/-- One operation: its answer, whether the answer reports where the worker waits, and the
manager after it. -/
def exportOp (m : PatternManager) (op : Json) : Answer ((Json × Bool) × PatternManager) := do
  let name ← strOf "op" (← need op "op")
  match name with
  | "start" => startOp m op
  | "step" =>
    let n ← fieldOr op "count" u64Of 1
    pure ((.obj [("ok", .bool true)], true), stepTimes m n)
  | "cancel" =>
    let (b, m) := m.cancel
    pure ((.bool b, false), m)
  | "job_cancel" =>
    match m.job with
    | some _ =>
      let (b, m) := m.cancel
      pure ((.bool b, false), m)
    | none => pure ((.null, false), m)
  | "status" => pure ((.obj [("ok", .bool true)], false), m)
  | "release" => pure ((.obj [("ok", .bool true)], false), m.join exportClock)
  | "join" =>
    match m.waitingAt with
    | some _ => bad "join would block on a gated worker"
    | none => pure ((.obj [("ok", .bool true)], false), m)
  | "written" =>
    let w := m.world
    pure ((.obj [("frames", .arr (w.written.toList.map frameOut)),
      ("opened_inputs", .arr (w.openedInputs.map Json.str)),
      ("opened_outputs", .arr (w.openedOutputs.map openedSinkOut))], false), m)
  | "display" =>
    pure ((.obj [("manager", .str m.status.status.name),
      ("job", match m.job with
        | some j => .str j.status.name
        | none => .null)], false), m)
  | other => bad ("unknown export op " ++ other)

/-- The answer to one operation with the manager's state after it. -/
def exportAnswer (m : PatternManager) (result : Json) (waits : Bool) : Json :=
  .obj ([("result", result), ("status", snapshotOut m.status), ("written_count", .nat m.world.written.size),
    ("reader_closes", .nat m.world.readerCloses), ("writer_closes", .nat m.world.writerCloses)] ++
    if waits then [("waiting_at", waitingOut m)] else [])

def exportReq (r : Json) : Answer Json := do
  let reg ← registryOf r
  let _ ← fieldOpt r "slow_effect_warn_ms" u64Of
  let ops ← fieldOr r "ops" listOf []
  let m : PatternManager := ExportManager.new reg patternBackend PatternWorld.empty
  let (answers, _) := ops.foldl (fun (acc : List Json × PatternManager) op =>
    match exportOp acc.2 op with
    | .ok ((j, waits), m) => (exportAnswer m j waits :: acc.1, m)
    | .error f => (exportAnswer acc.2 f.toJson false :: acc.1, acc.2)) ([], m)
  pure (.obj [("results", .arr answers.reverse)])

end Glitch.Service
