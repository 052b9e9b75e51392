import Glitch.Service.Effects
import Glitch.Form.Config
import Glitch.Video.Probe
/-!
Requests about the JSON forms of the library's types, parameter maps and specs, probe reports
and the preview ring's default path.
-/
namespace Glitch.Service

/-- Read a value of the named type from its JSON form and write it back. -/
def roundTrip (ty : String) (n : Node) : Answer Json :=
  let src := Source.value
  let back {α : Type} (d : Decoded α) (out : α → Json) : Answer Json :=
    match d with
    | .ok v => .ok (out v)
    | .error e => bad ("serde: " ++ e.message)
  match ty with
  | "EffectInstance" => back (EffectInstance.decode src n) EffectInstance.toJson
  | "Chain" => back (decodeChain src n) chainToJson
  | "LayerSettings" => back (LayerSettings.decode src n) LayerSettings.toJson
  | "EffectState" => back (EffectState.decode n) EffectState.toJson
  | "ExportRequest" => back (ExportRequest.decode src n) ExportRequest.toJson
  | "ExportSnapshot" => back (ExportSnapshot.decode src n) ExportSnapshot.toJson
  | "ExportStatus" => back (ExportStatus.decode src n) ExportStatus.toJson
  | "ParamSpec" => back (ParamSpec.decode src n) ParamSpec.toJson
  | "Params" => back (Params.decode src n) Params.toJson
  | "ParamValue" => back (ParamValue.decode n) ParamValue.toJson
  | "Mask" => back (Mask.decode src n) Mask.toJson
  | "BlendMode" => back (BlendMode.decode n) BlendMode.toJson
  | "Config" => back (Config.decode src n) Config.toJson
  | "PipelineConfig" => back (PipelineConfig.decode src n) PipelineConfig.toJson
  | "RingBufferConfig" => back (RingConfig.decode src n) RingConfig.toJson
  | "IdleSnapshot" => .ok ExportSnapshot.idle.toJson
  | other => bad ("unknown serde type " ++ other)

def serdeReq (r : Json) : Answer Json := do
  let ty ← fieldReq r "type" strOf
  let v := (r.get? "value").getD .null
  let out ← roundTrip ty (Node.ofJson v)
  pure (.obj [("value", out)])

def curveOf (k : String) (j : Json) : Answer ParamCurve :=
  match j with
  | .str s => match ParamCurve.named.lookup s with
    | some c => .ok c
    | none => bad "curve must be linear, exponential or logarithmic"
  | _ => bad (k ++ " is not a string")

def specOut (s : ParamSpec) : Json := s.toJson

def paramSpecReq (r : Json) : Answer Json := do
  let kind ← fieldReq r "kind" strOf
  let name ← fieldReq r "name" strOf
  let label ← fieldOr r "label" strOf name
  let spec ← match kind with
    | "choice" => do
      let choices ← (← fieldReq r "choices" listOf).mapM (strOf "choices")
      let d ← fieldReq r "default" strOf
      pure (ParamSpec.choice name label choices d)
    | "float" | "int" | "bool" => do
      let k := match kind with
        | "float" => ParamKind.float
        | "int" => ParamKind.int
        | _ => ParamKind.bool
      let d ← paramOf (← need r "default")
      let lo ← fieldReq r "min" f32Of
      let hi ← fieldReq r "max" f32Of
      pure (ParamSpec.range name label k lo hi d)
    | _ => bad "kind must be choice, float, int or bool"
  let spec ← match field? r "curve" with
    | some c => spec.withCurve <$> curveOf "curve" c
    | none => pure spec
  let spec ← match field? r "unit" with
    | some u => spec.withUnit <$> strOf "unit" u
    | none => pure spec
  pure (.obj [("spec", specOut spec)])

/-- A value of the expected shape, or BadInput with the bare name of what was expected. -/
def expect {α : Type} (what : String) : Option α → Answer α
  | some a => .ok a
  | none => bad what

/-- One typed value of a `params_api` entry: an object whose first member names the kind. A value
of the wrong type is refused with the kind's name; the sizes of masks are required members. -/
def typedValueOf (j : Json) : Answer ParamValue :=
  match j with
  | .obj ((k, v) :: _) =>
    match k with
    | "bool" => ParamValue.bool <$> expect k (match v with | .bool b => some b | _ => none)
    | "i64" => ParamValue.integer <$> expect k (i64Of k v).toOption
    | "i32" => do
      let i ← expect k (i64Of k v).toOption
      if -(Nat.pow 2 31 : Int) ≤ i && i < Nat.pow 2 31 then pure (.integer i) else bad k
    | "f32" => ParamValue.float <$> expect k (f32Of k v).toOption
    | "str" | "string" => ParamValue.string <$> expect k (match v with | .str s => some s | _ => none)
    | "mask" => do
      let w ← unsignedOf "width" 32 (← need v "width")
      let h ← unsignedOf "height" 32 (← need v "height")
      let items ← expect "weights" (match field? v "weights" with | some (.arr xs) => some xs | _ => none)
      let ws ← items.mapM fun x => expect "weights" (f32Of "weights" x).toOption
      match Mask.new? w h ws.toArray with
      | some m => pure (.mask m)
      | none => bad "mask weights do not match its size"
    | "mask_filled" => do
      let w ← unsignedOf "width" 32 (← need v "width")
      let h ← unsignedOf "height" 32 (← need v "height")
      let x ← f32Of "weight" (← need v "weight")
      pure (.mask (Mask.filled w h x))
    | other => bad ("unknown typed value " ++ other)
  | _ => bad "typed value must be an object with one key"

/-- The strings of a field that should hold a list of strings; anything else is skipped. -/
def stringsOf? (r : Json) (k : String) : Option (List String) :=
  match field? r k with
  | some (.arr xs) => some (xs.filterMap fun x => match x with | .str s => some s | _ => none)
  | _ => none

def queryOut (p : Params) (k : String) : Json :=
  .obj [("get", ((p.get? k).map ParamValue.toJson).getD .null), ("contains", .bool (p.contains k)),
    ("f32", ((p.getF32? k).map f32Out).getD .null), ("i64", ((p.getI64? k).map Json.int).getD .null),
    ("bool", ((p.getBool? k).map Json.bool).getD .null), ("str", ((p.getStr? k).map Json.str).getD .null),
    ("f32_or", f32Out (p.getF32 k (-1.5))), ("i64_or", Json.int (p.getI64 k (-7))),
    ("bool_or", .bool (p.getBool k true))]

def paramsApiReq (r : Json) : Answer Json := do
  let base ← match field? r "params" with
    | some p => paramsOf p
    | none => pure Params.empty
  let entries := match field? r "entries" with
    | some (.arr xs) => xs
    | _ => []
  let p ← entries.foldlM (fun (p : Params) (e : Json) => do
    match e with
    | .arr [.str k, t] => pure (p.insert k (← typedValueOf t))
    | _ => bad "entry must be [key, value]") base
  let keys := p.keys
  let query := (stringsOf? r "query").getD keys
  let removeKeys := (stringsOf? r "remove").getD []
  let (removed, p2) := removeKeys.foldl (fun (acc : List (String × Json) × Params) k =>
    let (old, p') := acc.2.remove k
    (acc.1 ++ [(k, (old.map ParamValue.toJson).getD .null)], p')) ([], p)
  pure (.obj [("keys", .arr (keys.map Json.str)), ("len", .nat p.size), ("is_empty", .bool (p.size == 0)),
    ("query", .obj (query.map fun k => (k, queryOut p k))), ("serialized", p.toJson),
    ("removed", .obj removed), ("keys_after_retain_finite", .arr (p2.retainFinite.keys.map Json.str))])

def parseProbeReq (r : Json) : Answer Json := do
  let json ← fieldReq r "json" strOf
  let fallback ← fieldOr r "fallback_fps" f64Of 30
  let info ← lib (parseProbe json fallback)
  pure (.obj [("width", .nat info.width), ("height", .nat info.height), ("fps", floatOut info.fps),
    ("frame_count", bigOut info.frameCount)])

/-- The environment a request describes: each given variable set, the others unset. -/
def envOf (r : Json) : Answer Env := do
  let shm ← fieldOpt r "shm" strOf
  let home ← fieldOpt r "home" strOf
  let tmp ← fieldOpt r "tmpdir" strOf
  pure ((shm.map fun v => [(shmPathVariable, v)]).getD [] ++ (home.map fun v => [("HOME", v)]).getD [] ++
    (tmp.map fun v => [("TMPDIR", v)]).getD [])

def shmPathReq (r : Json) : Answer Json := do
  let env ← envOf r
  let cfg ← fieldOpt r "config_path" strOf
  pure (.obj [("default", .str (defaultShmPath env)),
    ("resolved", .str ({ RingConfig.default with path := cfg }.resolvePath env))])

end Glitch.Service
