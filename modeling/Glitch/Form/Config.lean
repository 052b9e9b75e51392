import Glitch.Form.Export
import Glitch.Config.Basic
/-!
JSON forms of the settings. Every section and field may be left out and takes its default; the
ring path is written only when set.
-/
namespace Glitch

namespace PipelineConfig

def toJson (c : PipelineConfig) : Json := .obj [("slow_effect_warn_ms", .nat c.slowEffectWarnMs)]

/-- Read the pipeline section. -/
def decode (src : Source) (n : Node) : Decoded PipelineConfig := do
  let fs ← Decode.fields src "PipelineConfig" [⟨"slow_effect_warn_ms", true, Decode.check Decode.u64⟩] n
  let ms ← Decode.withDefault fs "slow_effect_warn_ms" Decode.u64 PipelineConfig.default.slowEffectWarnMs
  pure ⟨ms⟩

end PipelineConfig

namespace EncoderConfig

def toJson (c : EncoderConfig) : Json :=
  .obj [("quality_ladder", .arr (c.qualityLadder.map Json.nat)), ("max_frame_bytes", .nat c.maxFrameBytes)]

/-- Read the encoder section. -/
def decode (src : Source) (n : Node) : Decoded EncoderConfig := do
  let fs ← Decode.fields src "EncoderConfig"
    [⟨"quality_ladder", true, Decode.check (Decode.seq src Decode.u8)⟩,
     ⟨"max_frame_bytes", true, Decode.check (Decode.unsigned "usize" (Nat.pow 2 64 - 1))⟩] n
  let ladder ← Decode.withDefault fs "quality_ladder" (Decode.seq src Decode.u8) EncoderConfig.default.qualityLadder
  let maxBytes ← Decode.withDefault fs "max_frame_bytes" (Decode.unsigned "usize" (Nat.pow 2 64 - 1))
    EncoderConfig.default.maxFrameBytes
  pure ⟨ladder, maxBytes⟩

end EncoderConfig

namespace RingConfig

def toJson (c : RingConfig) : Json :=
  .obj ((match c.path with | some p => [("path", .str p)] | none => []) ++
    [("slot_count", .nat c.slotCount), ("slot_size", .nat c.slotSize), ("quality", .nat c.quality)])

/-- Read the ring section. -/
def decode (src : Source) (n : Node) : Decoded RingConfig := do
  let d := RingConfig.default
  let fs ← Decode.fields src "RingBufferConfig"
    [⟨"path", true, Decode.check (Decode.option Decode.path)⟩, ⟨"slot_count", true, Decode.check Decode.u32⟩,
     ⟨"slot_size", true, Decode.check Decode.u32⟩, ⟨"quality", true, Decode.check Decode.u8⟩] n
  let path ← Decode.withDefault fs "path" (Decode.option Decode.path) d.path
  let count ← Decode.withDefault fs "slot_count" Decode.u32 d.slotCount
  let size ← Decode.withDefault fs "slot_size" Decode.u32 d.slotSize
  let q ← Decode.withDefault fs "quality" Decode.u8 d.quality
  pure ⟨path, count, size, q⟩

end RingConfig

namespace ExportConfig

def toJson (c : ExportConfig) : Json := .obj [("codec", .str c.codec), ("fallback_fps", Json.f64 c.fallbackFps)]

/-- Read the export section. -/
def decode (src : Source) (n : Node) : Decoded ExportConfig := do
  let fs ← Decode.fields src "ExportConfig"
    [⟨"codec", true, Decode.check Decode.string⟩, ⟨"fallback_fps", true, Decode.check Decode.f64⟩] n
  let codec ← Decode.withDefault fs "codec" Decode.string ExportConfig.default.codec
  let fps ← Decode.withDefault fs "fallback_fps" Decode.f64 ExportConfig.default.fallbackFps
  pure ⟨codec, fps⟩

end ExportConfig

namespace Config

def toJson (c : Config) : Json :=
  .obj [("pipeline", c.pipeline.toJson), ("encoder", c.encoder.toJson), ("ring_buffer", c.ring.toJson),
    ("export", c.exporting.toJson)]

def decode (src : Source) (n : Node) : Decoded Config := do
  let fs ← Decode.fields src "Config"
    [⟨"pipeline", true, Decode.check (PipelineConfig.decode src)⟩,
     ⟨"encoder", true, Decode.check (EncoderConfig.decode src)⟩,
     ⟨"ring_buffer", true, Decode.check (RingConfig.decode src)⟩,
     ⟨"export", true, Decode.check (ExportConfig.decode src)⟩] n
  let p ← Decode.withDefault fs "pipeline" (PipelineConfig.decode src) PipelineConfig.default
  let e ← Decode.withDefault fs "encoder" (EncoderConfig.decode src) EncoderConfig.default
  let r ← Decode.withDefault fs "ring_buffer" (RingConfig.decode src) RingConfig.default
  let x ← Decode.withDefault fs "export" (ExportConfig.decode src) ExportConfig.default
  pure ⟨p, e, r, x⟩

end Config

end Glitch
