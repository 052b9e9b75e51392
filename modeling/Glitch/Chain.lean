import Glitch.Effect.Container
/-!
Effect chains: ordered lists of effect instances applied to one frame, each through the
container, with per-effect state carried from the previous frame.

A chain holds at most ten instances; a longer one is refused before any effect runs. Disabled
instances are skipped. An enabled instance names a registered effect, or the whole chain fails.
An instance's own mix, when set, becomes its `_mix` parameter. Every instance reads its state
from the incoming map, never from a state produced earlier in the same run; the returned map
holds, for each id that ran, the state of its last run.
-/
namespace Glitch

def maxChainDepth : Nat := 10

/-- One entry of a chain. -/
structure EffectInstance where
  effectId : String
  params : Params
  enabled : Bool
  mix : Option F32
  deriving DecidableEq

def EffectInstance.ofId (id : String) : EffectInstance := ⟨id, Params.empty, true, none⟩

/-- The parameters the container receives: the instance's, with its mix as `_mix`. -/
def EffectInstance.runParams (i : EffectInstance) : Params :=
  match i.mix with
  | some m => i.params.insert mixKey (.float m)
  | none => i.params

/-- Carried state by effect id, sorted by id, each id once; `none` records a run that returned no
state. -/
structure EffectStates where
  entries : List (String × Option EffectState)
  sorted : Keyed.Sorted entries

namespace EffectStates

instance : DecidableEq EffectStates := fun s t =>
  decidable_of_iff (s.entries = t.entries) (by cases s; cases t; simp)

def empty : EffectStates := ⟨[], List.Pairwise.nil⟩

def get? (s : EffectStates) (id : String) : Option (Option EffectState) := s.entries.lookup id

def insert (s : EffectStates) (id : String) (st : Option EffectState) : EffectStates :=
  ⟨insertKey id st s.entries, Keyed.sorted_insertKey id st s.sorted⟩

def size (s : EffectStates) : Nat := s.entries.length

end EffectStates

/-- Where a chain runs: the registry, the project seed, the frame index, the output size and
the states carried in. -/
structure ChainContext where
  registry : Registry
  projectSeed : Nat
  frameIndex : Nat
  resolution : Nat × Nat
  incoming : EffectStates

namespace Chain

def checkDepth (chain : List EffectInstance) : Outcome Unit :=
  if maxChainDepth < chain.length then .error (.pipeline (.chainTooDeep chain.length maxChainDepth))
  else .ok ()

def validate (reg : Registry) (chain : List EffectInstance) : Outcome Unit := do
  checkDepth chain
  match (chain.filter EffectInstance.enabled).find? (fun i => !reg.has i.effectId) with
  | some i => .error (.pipeline (.unknownEffect i.effectId))
  | none => .ok ()

def step (c : ChainContext) (acc : Frame × EffectStates) (i : EffectInstance) :
    Outcome (Frame × EffectStates) :=
  if !i.enabled then .ok acc
  else
    match c.registry.find? i.effectId with
    | none => .error (.pipeline (.unknownEffect i.effectId))
    | some e =>
      match Container.process e acc.1 i.runParams ((c.incoming.get? i.effectId).getD none)
          c.frameIndex c.projectSeed c.resolution with
      | .ok (out, st) => .ok (out, acc.2.insert i.effectId st)
      | .error err => .error err

/-- The chain applied to a frame: the output frame and the states of the effects that ran. -/
def apply (c : ChainContext) (f : Frame) (chain : List EffectInstance) : Outcome (Frame × EffectStates) := do
  checkDepth chain
  chain.foldlM (step c) (f, EffectStates.empty)

def appliedLine (frameIndex effects : Nat) : LogLine :=
  ⟨.debug, "glitchframe::pipeline", withFields "chain applied"
    [("frame_index", toString frameIndex), ("effects", toString effects)]⟩

/-- A run with the log lines it writes: one per instance that ran, and one at the end. -/
def applyLogged (c : ChainContext) (f : Frame) (chain : List EffectInstance) :
    Outcome (Frame × EffectStates) × List LogLine :=
  match checkDepth chain with
  | .error e => (.error e, [])
  | .ok () =>
    let r := chain.foldl (fun (acc : Outcome (Frame × EffectStates) × List LogLine) i =>
      match acc.1 with
      | .error e => (.error e, acc.2)
      | .ok st =>
        match step c st i with
        | .ok st' =>
          (.ok st', if i.enabled then acc.2 ++ [Container.appliedLine i.effectId c.frameIndex i.runParams]
            else acc.2)
        | .error e => (.error e, acc.2)) (.ok (f, EffectStates.empty), [])
    match r.1 with
    | .ok (out, states) => (.ok (out, states), r.2 ++ [appliedLine c.frameIndex states.size])
    | .error e => (.error e, r.2)

end Chain

end Glitch
