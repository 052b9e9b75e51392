import Glitch.Service.Ring
import Glitch.Service.Config
import Glitch.Service.Video
import Glitch.Service.Frames
import Glitch.Service.Cli
/-!
The request interface: one JSON object in, one JSON object out. The object's `op` names the
request.
-/
namespace Glitch.Service

def needsScratch (op : String) : Bool := op == "ring" || op == "config"

def ringPath (n : Nat) : String := "rings/r" ++ toString n ++ "/frames"

def serve (scratch : Nat) (r : Json) : Answer Json := do
  let op ← strOf "op" (← need r "op")
  match op with
  | "derive_seed" => deriveSeedReq r
  | "make_rng" => makeRngReq r
  | "list_effects" => listEffectsReq r
  | "has_effect" => hasEffectReq r
  | "registry_info" => registryInfoReq r
  | "param_value" => paramValueReq r
  | "effect_apply" => effectApplyReq r
  | "container" => containerReq r
  | "apply_chain" => applyChainReq r
  | "chain_sequence" => chainSequenceReq r
  | "validate_chain" => validateChainReq r
  | "blend" => blendReq r
  | "composite" => compositeReq r
  | "error_api" => errorApiReq r
  | "serde" => serdeReq r
  | "param_spec" => paramSpecReq r
  | "params_api" => paramsApiReq r
  | "parse_probe" => parseProbeReq r
  | "shm_path" => shmPathReq r
  | "encode" => encodeReq r
  | "encode_fit" => encodeFitReq r
  | "decode" => decodeReq r
  | "ring_header" => ringHeaderReq r
  | "ring" => ringReq (ringPath scratch) r
  | "ring_reader" => ringReaderReq r
  | "config" => configReq r
  | "export" => exportReq r
  | "ffmpeg_available" => ffmpegAvailableReq r
  | "ffmpeg_reader" => ffmpegReaderReq r
  | "ffmpeg_writer" => ffmpegWriterReq r
  | "ffmpeg_export" => ffmpegExportReq r
  | "frame_api" => frameApiReq r
  | "cli" => cliReq r
  | other => bad ("unknown op " ++ other)

/-- What the interface keeps from one request to the next: how many scratch places it has handed
out. Scratch places are numbered from 1 in the order of the requests that take one. -/
structure Session where
  scratchCount : Nat
  deriving DecidableEq, Repr

def Session.start : Session := ⟨0⟩

/-- Answer one request line with one answer line; a line that is not JSON is refused with the
reader's message. -/
def Session.respond (s : Session) (line : String) : String × Session :=
  match parseJson line with
  | .error e => ((Failure.toJson (.badInput ("invalid JSON: " ++ e))).render, s)
  | .ok n =>
    let r := n.toJson
    let takes := match field? r "op" with
      | some (.str op) => needsScratch op
      | _ => false
    let s := if takes then ⟨s.scratchCount + 1⟩ else s
    ((answerJson (serve s.scratchCount r)).render, s)

end Glitch.Service
