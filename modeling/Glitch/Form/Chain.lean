import Glitch.Form.Effect
import Glitch.Composite.Layer
/-!
JSON forms of chain entries, chains, blend modes and layer settings.

A chain entry needs `effect_id`; `params` defaults to none, `enabled` to true, and `mix` is
written only when set. A blend mode is read from any string, an unknown name meaning normal.
-/
namespace Glitch

namespace EffectInstance

def toJson (i : EffectInstance) : Json :=
  .obj ([("effect_id", .str i.effectId), ("params", i.params.toJson), ("enabled", .bool i.enabled)] ++
    match i.mix with
    | some m => [("mix", Json.f32 m)]
    | none => [])

def decode (src : Source) (n : Node) : Decoded EffectInstance := do
  let fs ← Decode.fields src "EffectInstance"
    [⟨"effect_id", false, Decode.check Decode.string⟩, ⟨"params", true, Decode.check (Params.decode src)⟩,
     ⟨"enabled", true, Decode.check Decode.bool⟩, ⟨"mix", true, Decode.check (Decode.option Decode.f32)⟩] n
  let id ← Decode.required n fs "effect_id" Decode.string
  let params ← Decode.withDefault fs "params" (Params.decode src) Params.empty
  let enabled ← Decode.withDefault fs "enabled" Decode.bool true
  let mix ← Decode.optionalField fs "mix" Decode.f32
  pure ⟨id, params, enabled, mix⟩

end EffectInstance

def chainToJson (c : List EffectInstance) : Json := .arr (c.map EffectInstance.toJson)

def decodeChain (src : Source) (n : Node) : Decoded (List EffectInstance) :=
  Decode.seq src (EffectInstance.decode src) n

namespace BlendMode

def toJson (m : BlendMode) : Json := .str m.name

/-- Read a blend mode from any string (an unknown name is normal), with the warning it logs. -/
def decodeLogged (n : Node) : Decoded (BlendMode × List LogLine) :=
  (fun s => ofNameOrNormal s) <$> Decode.string n

/-- Read a blend mode from any string; an unknown name is normal. -/
def decode (n : Node) : Decoded BlendMode := Prod.fst <$> decodeLogged n

end BlendMode

namespace LayerSettings

def toJson (s : LayerSettings) : Json :=
  .obj [("chain", chainToJson s.chain), ("opacity", Json.f32 s.opacity), ("blend_mode", s.blendMode.toJson),
    ("frame_index", .nat s.frameIndex)]

/-- The fields of layer settings, each with a default. -/
def fieldList (src : Source) : List Decode.Field :=
  [⟨"chain", true, Decode.check (decodeChain src)⟩, ⟨"opacity", true, Decode.check Decode.f32⟩,
   ⟨"blend_mode", true, Decode.check BlendMode.decode⟩, ⟨"frame_index", true, Decode.check Decode.u64⟩]

/-- Read layer settings, with the warnings an unknown blend mode logs. -/
def decodeLogged (src : Source) (n : Node) : Decoded (LayerSettings × List LogLine) := do
  let fs ← Decode.fields src "LayerSettings" (fieldList src) n
  let chain ← Decode.withDefault fs "chain" (decodeChain src) []
  let opacity ← Decode.withDefault fs "opacity" Decode.f32 1
  let (mode, log) ← Decode.withDefault fs "blend_mode" BlendMode.decodeLogged (.normal, [])
  let frameIndex ← Decode.withDefault fs "frame_index" Decode.u64 0
  pure (⟨chain, opacity, mode, frameIndex⟩, log)

def decode (src : Source) (n : Node) : Decoded LayerSettings := Prod.fst <$> decodeLogged src n

end LayerSettings

end Glitch
