import Glitch.Service.Forms
import Glitch.Service.Codec
import Glitch.Config.File
/-!
Requests about the configuration file.
-/
namespace Glitch.Service

/-- Settings as output; byte counts and milliseconds as decimal strings, an unset path as `null`. -/
def configOut (c : Config) : Json :=
  .obj [("pipeline", .obj [("slow_effect_warn_ms", bigOut c.pipeline.slowEffectWarnMs)]),
    ("encoder", .obj [("quality_ladder", .arr (c.encoder.qualityLadder.map Json.nat)),
      ("max_frame_bytes", bigOut c.encoder.maxFrameBytes)]),
    ("ring_buffer", .obj [("path", match c.ring.path with | some p => .str p | none => .null),
      ("slot_count", .nat c.ring.slotCount), ("slot_size", .nat c.ring.slotSize), ("quality", .nat c.ring.quality)]),
    ("export", .obj [("codec", .str c.exporting.codec), ("fallback_fps", floatOut c.exporting.fallbackFps)])]

def configFileName : String := "config.toml"

def configReq (r : Json) : Answer Json := do
  let text ← fieldOpt r "toml" strOf
  let c ← lib (Config.load configFileName text)
  let encoded ← match field? r "encode_frame" with
    | some j => do
      let f ← frameOf j
      pure [("encoded", match encodeFit f c.encoder.maxFrameBytes c.encoder.qualityLadder with
        | .ok (bs, q) => .obj [("len", .nat bs.length), ("quality", .nat q), ("hex", .str (hexOf bs))]
        | .error e => errorJson e)]
    | none => pure []
  let resolved ← match field? r "resolve_env" with
    | some j => do
      let env ← envOf j
      pure [("resolved_path", .str (c.ring.resolvePath env))]
    | none => pure []
  pure (.obj ([("config", configOut c), ("validate", checkOut c.validate), ("saved", .str c.toText),
    ("roundtrip_equal", .bool c.roundTrips)] ++ encoded ++ resolved))

end Glitch.Service
