import Glitch.Error
import Glitch.Frame.Basic
import Glitch.Float.Binary
import Glitch.Log
/-!
Media backends: where an export reads its frames from and writes them to.

A backend acts on a world of its own (open files, tool runs, counters) and answers each step with
a value or a fault. A fault is a library error, or an abort: a step that unwinds the whole worker
instead of returning. The world also collects the log lines the steps write.
-/
namespace Glitch

/-- Why a media step gave no value: a library error, or an abort of the step. -/
inductive Fault where
  | error (e : GlitchError)
  | abort
  deriving DecidableEq, Repr

def Fault.category : Fault → String
  | .error e => e.category
  | .abort => "Panic"

abbrev MediaM (σ α : Type) := ExceptT Fault (StateM σ) α

/-- What an opened source reports: its frame count, its size and its frame rate. -/
structure SourceInfo where
  frameCount : Nat
  resolution : Nat × Nat
  fps : F64

/-- A backend over the world `σ`: one source and one sink at a time, each opened, used and
closed, and a place for log lines. -/
structure MediaBackend (σ : Type) where
  openReader : String → MediaM σ SourceInfo
  decodeFrame : Nat → MediaM σ Frame
  closeReader : MediaM σ Unit
  openWriter : String → Nat × Nat → F64 → MediaM σ Unit
  writeFrame : Frame → MediaM σ Unit
  closeWriter : MediaM σ Unit
  log : LogLine → σ → σ

namespace MediaBackend

variable {σ : Type}

def say (B : MediaBackend σ) (l : LogLine) : StateM σ Unit := modify (B.log l)

def attempt {α : Type} (m : MediaM σ α) (s : σ) : Except Fault α × σ := (m.run).run s

end MediaBackend

end Glitch
