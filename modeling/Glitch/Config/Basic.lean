import Glitch.Error
import Glitch.Data.Path
import Glitch.Data.Text
import Glitch.Float.Decimal
/-!
Settings of the pipeline, the frame encoder, the preview ring and exports, with their defaults and
their checks.

Every section and every field has a default, so a partial settings file is complete once read.
`validate` reports the first bad value, section by section in the order pipeline, encoder,
ring buffer, export.
-/
namespace Glitch

def defaultQualityLadder : List Nat := [95, 85, 75, 65, 50]

def defaultQuality : Nat := 95

def defaultSlotCount : Nat := 4

/-- Bytes per preview ring slot by default, length prefix included. -/
def defaultSlotSize : Nat := 4194304

def shmPathVariable : String := "GLITCHFRAME_SHM_PATH"

/-- Where the preview ring lives when no path is configured: the named variable if set, else a
file under the home cache, else one in the temporary directory. -/
def defaultShmPath (env : Env) : String :=
  match env.nonEmpty? shmPathVariable with
  | some p => p
  | none =>
    match env.nonEmpty? "HOME" with
    | some home => joinPath (joinPath (joinPath home ".cache") "glitchframe") "frames"
    | none => joinPath ((env.get? "TMPDIR").getD "/tmp") "glitchframe-frames"

/-- Effect pipeline settings. -/
structure PipelineConfig where
  slowEffectWarnMs : Nat
  deriving DecidableEq, Repr

/-- Frame encoder settings. -/
structure EncoderConfig where
  qualityLadder : List Nat
  maxFrameBytes : Nat
  deriving DecidableEq, Repr

/-- Preview ring settings. -/
structure RingConfig where
  path : Option String
  slotCount : Nat
  slotSize : Nat
  quality : Nat
  deriving DecidableEq, Repr

/-- Export settings. -/
structure ExportConfig where
  codec : String
  fallbackFps : F64
  deriving DecidableEq

/-- All settings. -/
structure Config where
  pipeline : PipelineConfig
  encoder : EncoderConfig
  ring : RingConfig
  exporting : ExportConfig
  deriving DecidableEq

namespace PipelineConfig

def default : PipelineConfig := ⟨100⟩

end PipelineConfig

/-- Defaults: the standard ladder, and one default ring slot minus its length prefix. -/
def EncoderConfig.default : EncoderConfig := ⟨defaultQualityLadder, defaultSlotSize - 4⟩

def RingConfig.default : RingConfig := ⟨none, defaultSlotCount, defaultSlotSize, defaultQuality⟩

def ExportConfig.default : ExportConfig := ⟨"libx264", 30⟩

def Config.default : Config := ⟨PipelineConfig.default, EncoderConfig.default, RingConfig.default, ExportConfig.default⟩

def RingConfig.resolvePath (c : RingConfig) (env : Env) : String := c.path.getD (defaultShmPath env)

def invalidSetting (key value : String) : GlitchError := .config (.invalidValue key value)

def validQuality (q : Nat) : Bool := 1 ≤ q && q ≤ 100

def PipelineConfig.validate (c : PipelineConfig) : Outcome Unit :=
  if c.slowEffectWarnMs = 0 then .error (invalidSetting "pipeline.slow_effect_warn_ms" "0") else .ok ()

def EncoderConfig.validate (c : EncoderConfig) : Outcome Unit :=
  if c.qualityLadder.isEmpty then .error (invalidSetting "encoder.quality_ladder" "[]")
  else match c.qualityLadder.find? (fun q => !validQuality q) with
    | some q => .error (invalidSetting "encoder.quality_ladder" (toString q))
    | none =>
      if c.maxFrameBytes = 0 then .error (invalidSetting "encoder.max_frame_bytes" "0") else .ok ()

def RingConfig.validate (c : RingConfig) : Outcome Unit :=
  if c.slotCount = 0 then .error (invalidSetting "ring_buffer.slot_count" "0")
  else if c.slotSize ≤ 4 then .error (invalidSetting "ring_buffer.slot_size" (toString c.slotSize))
  else if !validQuality c.quality then .error (invalidSetting "ring_buffer.quality" (toString c.quality))
  else .ok ()

def ExportConfig.validate (c : ExportConfig) : Outcome Unit :=
  if (trimUnicode c.codec).isEmpty then .error (invalidSetting "export.codec" "\"\"")
  else if !c.fallbackFps.isFinite || c.fallbackFps.le 0 then
    .error (invalidSetting "export.fallback_fps" c.fallbackFps.toPlainText)
  else .ok ()

def Config.validate (c : Config) : Outcome Unit := do
  c.pipeline.validate
  c.encoder.validate
  c.ring.validate
  c.exporting.validate

end Glitch
