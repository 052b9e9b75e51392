import Glitch.Media.Backend
/-!
A synthetic media backend for exercising exports: its source yields test patterns, its sink keeps
every frame it receives, and faults can be placed at chosen steps.

Frame `i` of the source is test pattern number `i` at the planned size. A source or sink takes the
plan in force when it is opened, so changing the plan later does not touch media already open.
Opening records the path, closing counts, and the frames written are kept across exports.
-/
namespace Glitch

/-- What the next opened source and sink do. -/
structure PatternPlan where
  frames : Nat
  width : Nat
  height : Nat
  fps : F64
  failOpen : Bool
  failOpenWriter : Bool
  failReaderClose : Bool
  failWriterClose : Bool
  abortWriterClose : Bool
  failAt : Option Nat
  abortAt : Option Nat
  failWriteAt : Option Nat

def PatternPlan.default : PatternPlan :=
  ⟨3, 4, 2, Binary.ofNat 24, false, false, false, false, false, none, none, none⟩

/-- One opened sink: where it writes, its size and its frame rate. -/
structure OpenedSink where
  path : String
  resolution : Nat × Nat
  fps : F64

/-- The world of the synthetic backend. -/
structure PatternWorld where
  plan : PatternPlan
  source : Option PatternPlan
  sink : Option (PatternPlan × Nat)
  written : Array Frame
  readerCloses : Nat
  writerCloses : Nat
  openedInputs : List String
  openedOutputs : List OpenedSink

namespace PatternWorld

def empty : PatternWorld := ⟨PatternPlan.default, none, none, #[], 0, 0, [], []⟩

def refuse {α : Type} (e : VideoError) : MediaM PatternWorld α := throw (.error (.video e))

def openReader (path : String) : MediaM PatternWorld SourceInfo := do
  let w ← get
  if w.plan.failOpen then refuse (.openFailed path)
  else
    set { w with source := some w.plan, openedInputs := w.openedInputs ++ [path] }
    pure ⟨w.plan.frames, (w.plan.width, w.plan.height), w.plan.fps⟩

def decodeFrame (i : Nat) : MediaM PatternWorld Frame := do
  let p := ((← get).source).getD PatternPlan.default
  if p.failAt = some i then refuse (.decodingFailed ("frame " ++ toString i ++ " is damaged"))
  else if p.abortAt = some i then throw .abort
  else pure (Frame.pattern i p.width p.height)

def closeReader : MediaM PatternWorld Unit := do
  let w ← get
  set { w with readerCloses := w.readerCloses + 1, source := none }
  if (w.source.getD w.plan).failReaderClose then refuse (.decodingFailed "source close failed")

def openWriter (path : String) (res : Nat × Nat) (fps : F64) : MediaM PatternWorld Unit := do
  let w ← get
  if w.plan.failOpenWriter then refuse (.openFailed path)
  else
    let o : OpenedSink := ⟨path, res, fps⟩
    set { w with sink := some (w.plan, 0), openedOutputs := w.openedOutputs ++ [o] }

/-- Write a frame to the open sink; the write numbered `failWriteAt` (from zero) fails. -/
def writeFrame (f : Frame) : MediaM PatternWorld Unit := do
  let w ← get
  let (p, n) := w.sink.getD (PatternPlan.default, 0)
  if p.failWriteAt = some n then refuse (.encodingFailed ("write " ++ toString n ++ " refused"))
  else set { w with sink := some (p, n + 1), written := w.written.push f }

/-- Close the sink; the close is counted even when it fails or aborts. -/
def closeWriter : MediaM PatternWorld Unit := do
  let w ← get
  let p := (w.sink.map Prod.fst).getD w.plan
  set { w with writerCloses := w.writerCloses + 1, sink := none }
  if p.failWriterClose then refuse (.encodingFailed "disk full")
  else if p.abortWriterClose then throw .abort

end PatternWorld

def patternBackend : MediaBackend PatternWorld :=
  ⟨PatternWorld.openReader, PatternWorld.decodeFrame, PatternWorld.closeReader, PatternWorld.openWriter,
    PatternWorld.writeFrame, PatternWorld.closeWriter, fun _ w => w⟩

end Glitch
