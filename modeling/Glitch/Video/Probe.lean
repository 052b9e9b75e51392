import Glitch.Json.Decode
import Glitch.Data.Text
import Glitch.Error
/-!
Reading the stream report of a video probe: the first stream's size, frame rate and frame count.

The rate is the average frame rate if it reads as a positive finite rational (`a/b` or a plain
number), else the nominal rate, else the fallback. The frame count is `nb_frames` if it reads as an
unsigned integer, else the duration times the rate, rounded and clamped to the unsigned range, else
zero.
-/
namespace Glitch

/-- Stream properties of a video. -/
structure ProbeInfo where
  width : Nat
  height : Nat
  fps : F64
  frameCount : Nat
  deriving DecidableEq

/-- The fields of one reported stream that matter here. -/
structure ProbeStream where
  width : Option Nat
  height : Option Nat
  avgFrameRate : Option String
  rFrameRate : Option String
  nbFrames : Option String
  duration : Option String

/-- Read one stream report; other fields are passed over. Every field may be left out of an
object, but none of the sequence form. -/
def ProbeStream.decode (src : Source) (n : Node) : Decoded ProbeStream := do
  let ostr := Decode.check (Decode.option Decode.string)
  let fs ← Decode.fields src "ProbeStream"
    [⟨"width", false, Decode.check (Decode.option Decode.u32)⟩, ⟨"height", false, Decode.check (Decode.option Decode.u32)⟩,
     ⟨"avg_frame_rate", false, ostr⟩, ⟨"r_frame_rate", false, ostr⟩, ⟨"nb_frames", false, ostr⟩,
     ⟨"duration", false, ostr⟩] n
  let w ← Decode.optionalField fs "width" Decode.u32
  let h ← Decode.optionalField fs "height" Decode.u32
  let avg ← Decode.optionalField fs "avg_frame_rate" Decode.string
  let r ← Decode.optionalField fs "r_frame_rate" Decode.string
  let nb ← Decode.optionalField fs "nb_frames" Decode.string
  let d ← Decode.optionalField fs "duration" Decode.string
  pure ⟨w, h, avg, r, nb, d⟩

def decodeProbeStreams (src : Source) (n : Node) : Decoded (List ProbeStream) := do
  let fs ← Decode.fields src "ProbeOutput" [⟨"streams", true, Decode.check (Decode.seq src (ProbeStream.decode src))⟩] n
  Decode.withDefault fs "streams" (Decode.seq src (ProbeStream.decode src)) []

def f64OfText? (s : String) : Option F64 :=
  match (Binary.ofText s : Except FloatTextError F64) with
  | .ok x => some x
  | .error _ => none

def u64OfText? (s : String) : Option Nat :=
  let cs := match s.toList with
    | '+' :: rest => rest
    | cs => cs
  if cs.isEmpty || !cs.all Char.isDigit then none
  else
    let v := cs.foldl (fun acc c => acc * 10 + (c.toNat - 48)) 0
    if v < Nat.pow 2 64 then some v else none

def parseRate (rate : String) : Option F64 := do
  let value ← match rate.splitOn "/" with
    | [single] => f64OfText? (trimUnicode single)
    | num :: denParts =>
      let den ← f64OfText? (trimUnicode ("/".intercalate denParts))
      if den.eq 0 then none
      else
        let n ← f64OfText? (trimUnicode num)
        pure (n / den)
    | [] => none
  if value.isFinite && (0 : F64).lt value then some value else none

def parseProbe (json : String) (fallbackFps : F64) : Outcome ProbeInfo :=
  let d := Document.read json
  let src := Source.text d.bytes
  let parsed : Decoded (List ProbeStream) := do
    let streams ← decodeProbeStreams src d.root
    match d.trailing with
    | some e => .error (DecodeError.ofRead e)
    | none => pure streams
  match parsed with
  | .error e => .error (.video (.decodingFailed ("invalid ffprobe output: " ++ e.render src)))
  | .ok [] => .error (.video (.decodingFailed "no video stream"))
  | .ok (s :: _) =>
    match s.width, s.height with
    | some w, some h =>
      if w = 0 || h = 0 then .error (.video (.decodingFailed "video stream has no dimensions"))
      else
        let fps := match s.avgFrameRate.bind parseRate with
          | some x => x
          | none => (s.rFrameRate.bind parseRate).getD fallbackFps
        let count := match s.nbFrames.bind u64OfText? with
          | some c => c
          | none =>
            match s.duration.bind f64OfText? with
            | some dur => (Binary.max (dur * fps).roundHalfAway 0).toUInt64
            | none => 0
        .ok ⟨w, h, fps, count⟩
    | _, _ => .error (.video (.decodingFailed "video stream has no dimensions"))

end Glitch
