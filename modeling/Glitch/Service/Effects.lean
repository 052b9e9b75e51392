import Glitch.Service.Basic
import Glitch.Seed.Sha256
import Glitch.Random.ChaCha
/-!
Requests about seeds, effects, chains and compositing.
-/
namespace Glitch.Service

def deriveSeedReq (r : Json) : Answer Json := do
  let p ← fieldReq r "project_seed" u64Of
  let id ← fieldReq r "effect_id" strOf
  let fi ← fieldReq r "frame_index" u64Of
  let u ← fieldReq r "user_seed" i64Of
  pure (.obj [("seed", bigOut (deriveSeed p id fi u))])

/-- `make_rng`: successive 32-bit draws of the seeded generator. -/
def makeRngReq (r : Json) : Answer Json := do
  let seed ← fieldReq r "seed" u64Of
  let count := min 256 (← fieldOr r "count" u64Of 8)
  pure (.obj [("values", .arr (((Rng.ofSeed seed).words count).map fun w => Json.nat w.toNat))])

def listEffectsReq (r : Json) : Answer Json := do
  let reg ← registryOf r
  pure (.obj [("effects", .arr (reg.infos.map EffectInfo.toJson)), ("ids", .arr (reg.ids.map Json.str)),
    ("len", .nat reg.size)])

def hasEffectReq (r : Json) : Answer Json := do
  let reg ← registryOf r
  let id ← fieldReq r "effect_id" strOf
  pure (.obj [("has", .bool (reg.has id))])

/-- `registry_info`: size, ids, and a summary of each effect. -/
def registryInfoReq (r : Json) : Answer Json := do
  let reg ← registryOf r
  pure (.obj [("len", .nat reg.size), ("is_empty", .bool (reg.size == 0)), ("ids", .arr (reg.ids.map Json.str)),
    ("effects", .arr (reg.effects.map fun e =>
      .obj [("id", .str e.id), ("name", .str e.name), ("category", .str e.category),
        ("params", .nat e.params.length)]))])

def maskOut (m : Mask) : Json :=
  .obj [("width", .nat m.width), ("height", .nat m.height), ("weights", .arr (m.weights.toList.map f32Out))]

def paramKindName : ParamValue → String
  | .bool _ => "bool"
  | .integer _ => "integer"
  | .float _ => "float"
  | .string _ => "string"
  | .mask _ => "mask"

def paramValueReq (r : Json) : Answer Json := do
  let v ← paramOf (← need r "value")
  pure (.obj [("kind", .str (paramKindName v)), ("as_f32", (v.asF32?.map f32Out).getD .null),
    ("as_i64", (v.asI64?.map Json.int).getD .null), ("as_bool", (v.asBool?.map Json.bool).getD .null),
    ("as_str", (v.asStr?.map Json.str).getD .null), ("mask", (v.asMask?.map maskOut).getD .null),
    ("finite_kept", .bool !v.isNonFinite)])

/-- The effect a request names, which must be registered. -/
def effectOf (reg : Registry) (r : Json) : Answer Effect := do
  let id ← strOf "effect_id" (← need r "effect_id")
  match reg.find? id with
  | some e => pure e
  | none => bad ("no effect " ++ id)

def paramsField (r : Json) : Answer Params :=
  match field? r "params" with
  | some p => paramsOf p
  | none => .ok Params.empty

def stateField (r : Json) : Answer (Option EffectState) :=
  match field? r "state" with
  | some s => stateOf s
  | none => .ok none

def frameStateOut (out : Frame × Option EffectState) : Json :=
  .obj [("frame", frameOut out.1), ("state", stateOut out.2)]

/-- `effect_apply`: one effect applied directly, with the given seed. -/
def effectApplyReq (r : Json) : Answer Json := do
  let reg ← registryOf r
  let e ← effectOf reg r
  let f ← frameField r "frame"
  let p ← paramsField r
  let st ← stateField r
  let fi ← fieldOr r "frame_index" u64Of 0
  let seed ← fieldOr r "seed" u64Of 0
  let res ← fieldOr r "resolution" resolutionOf f.dims
  let out ← lib (e.apply f p st ⟨fi, seed, res⟩)
  pure (frameStateOut out)

/-- `container`: one effect run with parameter handling, mixing and masking. -/
def containerReq (r : Json) : Answer Json := do
  let reg ← registryOf r
  let e ← effectOf reg r
  let f ← frameField r "frame"
  let p ← paramsField r
  let st ← stateField r
  let fi ← fieldOr r "frame_index" u64Of 0
  let ps ← fieldOr r "project_seed" u64Of 0
  let res ← fieldOr r "resolution" resolutionOf f.dims
  let out ← lib (Container.process e f p st fi ps res)
  pure (frameStateOut out)

def statesField (r : Json) : Answer EffectStates :=
  match field? r "states" with
  | some s => statesOf s
  | none => .ok EffectStates.empty

def applyChainReq (r : Json) : Answer Json := do
  let reg ← registryOf r
  let slow ← fieldOpt r "slow_effect_warn_ms" u64Of
  let f ← frameField r "frame"
  let chain ← chainField r
  let ps ← fieldOr r "project_seed" u64Of 0
  let fi ← fieldOr r "frame_index" u64Of 0
  let res ← fieldOr r "resolution" resolutionOf f.dims
  let states ← statesField r
  let (out, sts) ← lib (Chain.apply ⟨reg, ps, fi, res, states⟩ f chain)
  pure (.obj ([("frame", frameOut out), ("states", statesOut sts)] ++
    match slow with
    | some _ => [("registry_len", .nat reg.size)]
    | none => []))

/-- One step of a chain sequence: its answer and the states passed on. A step that cannot be read
or fails answers with its error and passes the states on unchanged. The default frame index is
the start index plus the step's position, wrapping at `2^64`. -/
def sequenceStep (reg : Registry) (chain : List EffectInstance) (ps start : Nat) (acc : List Json × EffectStates)
    (step : Json × Nat) : List Json × EffectStates :=
  let (s, pos) := step
  let run : Answer (Frame × EffectStates) := do
    let f ← frameField s "frame"
    let ch ← match field? s "chain" with
      | some c => chainOf c
      | none => pure chain
    let fi ← fieldOr s "frame_index" u64Of ((start + pos) % Nat.pow 2 64)
    let res ← fieldOr s "resolution" resolutionOf f.dims
    lib (Chain.apply ⟨reg, ps, fi, res, acc.2⟩ f ch)
  match run with
  | .ok (out, sts) => (acc.1 ++ [.obj [("frame", frameOut out), ("states", statesOut sts)]], sts)
  | .error e => (acc.1 ++ [e.toJson], acc.2)

/-- `chain_sequence`: chains run on successive frames, threading the states. -/
def chainSequenceReq (r : Json) : Answer Json := do
  let reg ← registryOf r
  let chain ← chainField r
  let ps ← fieldOr r "project_seed" u64Of 0
  let start ← fieldOr r "start_index" u64Of 0
  let states ← statesField r
  let steps ← fieldReq r "steps" listOf
  let (answers, _) := (steps.zipIdx).foldl (sequenceStep reg chain ps start) ([], states)
  pure (.obj [("steps", .arr answers)])

def validateChainReq (r : Json) : Answer Json := do
  let reg ← registryOf r
  let chain ← chainField r
  lib (Chain.validate reg chain)
  pure (.obj [("ok", .bool true)])

def blendReq (r : Json) : Answer Json := do
  let name ← fieldReq r "mode" strOf
  let base ← fieldReq r "base" f32Of
  let layer ← fieldReq r "layer" f32Of
  let opacity ← fieldOr r "opacity" f32Of 1
  let display ← fieldOr r "display" boolOf false
  let m := (BlendMode.ofNameOrNormal name).1
  let parsed := match BlendMode.parse name with
    | .ok p => Json.str p.name
    | .error e => errorJson e
  pure (.obj ([("parsed", parsed), ("mode", .str m.name), ("blend", f32Out (m.blend base layer)),
    ("composite", f32Out (m.composite base layer opacity))] ++
    if display then [("display", .str m.name)] else []))

/-- One layer of a `composite` request: plain fields, or library `settings`. -/
def layerOf (j : Json) : Answer Layer := do
  let f ← frameField j "frame"
  match field? j "settings" with
  | some s =>
    match LayerSettings.decode Source.value (Node.ofJson s) with
    | .ok st => pure (st.toLayer f)
    | .error e => bad ("settings: " ++ e.message)
  | none =>
    let chain ← chainField j
    let opacity ← fieldOr j "opacity" f32Of 1
    let mode ← match field? j "blend_mode" with
      | some b =>
        match BlendMode.decode (Node.ofJson b) with
        | .ok m => pure m
        | .error e => bad ("blend_mode: " ++ e.message)
      | none => pure .normal
    let fi ← fieldOr j "frame_index" u64Of 0
    pure ⟨f, chain, opacity, mode, fi⟩

def compositeReq (r : Json) : Answer Json := do
  let reg ← registryOf r
  let layers ← (← fieldReq r "layers" listOf).mapM layerOf
  let res ← resolutionOf "resolution" ((field? r "resolution").getD .null)
  let ps ← fieldOr r "project_seed" u64Of 0
  let out ← lib (Composite.render reg layers res ps)
  pure (.obj [("frame", frameOut out)])

def errorApiReq (r : Json) : Answer Json := do
  let m ← fieldReq r "message" strOf
  pure (errorJson (.generic m))

end Glitch.Service
