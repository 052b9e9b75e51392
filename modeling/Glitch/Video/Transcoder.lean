import Glitch.Media.Backend
import Glitch.Video.Probe
import Glitch.Video.Tools
/-!
The media backend that runs the probe and transcoding tools: the probe reports a video's size,
rate and length, a decoder run streams its frames as raw RGBA, and an encoder run takes raw RGBA
frames on its input.

Frames are read in order from one decoder run; asking for a frame before the next one, or
reading the first frame, starts a new run. A run that ends early fails the frame being read,
and the run keeps nothing further to give. The encoder is given the requested frame rate when it
is finite and positive, and the fallback rate otherwise; its arguments write the rate as the
shortest decimal that reads back. An encoder that is dropped without being closed is stopped
and leaves no output.
-/
namespace Glitch

/-- A decoder run in progress: the output it has not given out yet. -/
structure DecoderRun where
  pending : List UInt8

/-- An open source: its path, what the probe reported, the decoder run if one is going, and the
index of the frame the run gives next. -/
structure ToolReader where
  path : String
  info : ProbeInfo
  decoder : Option DecoderRun
  nextIndex : Nat

/-- An open sink: the encoder's arguments, the input given so far, whether the input is still
open, whether the encoder still runs, and the frame size it expects. -/
structure ToolWriter where
  args : List String
  input : ByteArray
  inputOpen : Bool
  running : Bool
  resolution : Nat × Nat

/-- The machine the tools run on: its files, which tools can be started, the log so far, and the
open source and sink. -/
structure Host where
  disk : Disk
  tools : ToolSet
  logs : Array LogLine
  reader : Option ToolReader
  writer : Option ToolWriter

def Host.ofDisk (disk : Disk) (tools : ToolSet) : Host := ⟨disk, tools, #[], none, none⟩

/-- The settings of the tool backend: the output codec and the rate used when a video reports
none. -/
structure Transcoder where
  codec : String
  fallbackFps : F64

namespace Transcoder

def default : Transcoder := ⟨"libx264", Binary.ofNat 30⟩

def target : String := "glitchframe::video::ffmpeg"

def say (l : LogLine) : MediaM Host Unit := modify fun h => { h with logs := h.logs.push l }

def refuse {α : Type} (e : VideoError) : MediaM Host α := throw (.error (.video e))

def spawnFailure : String := "Failed to spawn FFmpeg process: " ++ (IoError.os .notFound).text

def isAvailable (h : Host) : Bool := h.tools.hasTranscoder

def probeArgs (path : String) : List String :=
  ["-v", "quiet", "-print_format", "json", "-show_streams", "-select_streams", "v:0", path]

def lossyText (bs : ByteArray) : String :=
  match String.fromUTF8? bs with
  | some s => s
  | none => String.ofList (bs.toList.map fun b => if b < 128 then Char.ofNat b.toNat else '\uFFFD')

def probe (t : Transcoder) (path : String) : MediaM Host ProbeInfo := do
  let h ← get
  match h.tools.probe h.disk (probeArgs path) with
  | some run =>
    if run.status != 0 then refuse (.openFailed path)
    else
      match parseProbe (lossyText run.stdout) t.fallbackFps with
      | .ok info => pure info
      | .error e => throw (.error e)
  | none => refuse (.openFailed path)

def openReader (t : Transcoder) (path : String) : MediaM Host SourceInfo := do
  let info ← t.probe path
  say ⟨.info, target, "Opened " ++ path ++ " (" ++ toString info.width ++ "x" ++ toString info.height ++
    " @ " ++ info.fps.toFixedText 2 ++ "fps, " ++ toString info.frameCount ++ " frames)"⟩
  modify fun h => { h with reader := some ⟨path, info, none, 0⟩ }
  pure ⟨info.frameCount, (info.width, info.height), info.fps⟩

/-- Read one frame of `n` bytes from the run: the bytes, or the run emptied when it has fewer. -/
def takeFrame (run : DecoderRun) (n : Nat) : Option (List UInt8) × DecoderRun :=
  if n ≤ run.pending.length then (some (run.pending.take n), ⟨run.pending.drop n⟩)
  else (none, ⟨[]⟩)

def readTo (r : ToolReader) (run : DecoderRun) (index : Nat) :
    Nat → List UInt8 → Except String (List UInt8) × ToolReader
  | 0, last => (.ok last, { r with decoder := some run })
  | fuel + 1, last =>
    if index < r.nextIndex then (.ok last, { r with decoder := some run })
    else
      match takeFrame run (r.info.width * r.info.height * 4) with
      | (some data, run') => readTo { r with nextIndex := r.nextIndex + 1 } run' index fuel data
      | (none, run') =>
        (.error ("frame " ++ toString r.nextIndex ++ ": " ++ (IoError.os .unexpectedEof).text),
          { r with decoder := some run' })

/-- Decode frame `index`: refuse indices past the end, start a new decoder run when reading
backwards or when none runs, then read forward to the frame. -/
def decodeFrame (index : Nat) : MediaM Host Frame := do
  let h ← get
  match h.reader with
  | none => refuse (.decodingFailed "decoder not running")
  | some r =>
    if r.info.frameCount ≤ index then refuse (.frameOutOfRange index r.info.frameCount)
    else
      let r ← if index < r.nextIndex || r.decoder.isNone then
          if h.tools.hasTranscoder then
            pure { r with decoder := some ⟨(ToyVideo.decode h.disk r.path).stdout.toList⟩, nextIndex := 0 }
          else do
            set { h with reader := some { r with decoder := none } }
            refuse (.decodingFailed spawnFailure)
        else pure r
      let run := r.decoder.getD ⟨[]⟩
      let (res, r) := readTo r run index (index + 1 - r.nextIndex) []
      set { h with reader := some r }
      match res with
      | .ok data =>
        match Frame.ofBytes? r.info.width r.info.height data.toArray with
        | some f => pure f
        | none => refuse (.decodingFailed "short frame")
      | .error reason => refuse (.decodingFailed reason)

def closeReader : MediaM Host Unit :=
  modify fun h => { h with reader := h.reader.map fun r => { r with decoder := none } }

/-- The rate given to the encoder: the requested one when finite and positive, else the
fallback. -/
def encoderFps (t : Transcoder) (fps : F64) : F64 :=
  if fps.isFinite && (0 : F64).lt fps then fps else t.fallbackFps

def encoderArgs (t : Transcoder) (path : String) (res : Nat × Nat) (fps : F64) : List String :=
  ["-v", "error", "-y", "-f", "rawvideo", "-pix_fmt", "rgba", "-s", toString res.1 ++ "x" ++ toString res.2,
    "-r", (t.encoderFps fps).toPlainText, "-i", "-", "-c:v", t.codec, "-pix_fmt", "yuv420p", path]

def openWriter (t : Transcoder) (path : String) (res : Nat × Nat) (fps : F64) : MediaM Host Unit := do
  if !(← get).tools.hasTranscoder then refuse (.encodingFailed spawnFailure)
  else
    let w : ToolWriter := ⟨t.encoderArgs path res fps, ByteArray.empty, true, true, res⟩
    modify fun h => { h with writer := some w }
    say ⟨.debug, target, "Spawned encoder for " ++ path ++ " with codec " ++ t.codec⟩

def writeFrame (f : Frame) : MediaM Host Unit := do
  let h ← get
  match h.writer with
  | none => refuse (.encodingFailed "encoder already closed")
  | some w =>
    if f.dims != w.resolution then
      refuse (.encodingFailed ("frame is " ++ showDims f.dims ++ ", encoder expects " ++ showDims w.resolution))
    else if !w.inputOpen then refuse (.encodingFailed "encoder already closed")
    else
      let more : ByteArray := ⟨f.bytes⟩
      set { h with writer := some { w with input := w.input ++ more } }

/-- Close the sink: end the encoder's input and wait for it; a failing encoder's error text is
the reason. -/
def closeWriter : MediaM Host Unit := do
  let h ← get
  match h.writer with
  | none => pure ()
  | some w =>
    let w' := { w with inputOpen := false, running := false }
    if !w.running then set { h with writer := some w' }
    else
      let (run, disk) := ToyVideo.encode h.disk w.args w.input
      set { h with writer := some w', disk := disk }
      if run.status != 0 then refuse (.encodingFailed ("FFmpeg failed: " ++ trimUnicode run.stderr))

def dropWriter (h : Host) : Host :=
  match h.writer with
  | some w =>
    let h := { h with writer := none }
    let l : LogLine := ⟨.warn, target, "Encoder dropped without close; terminating FFmpeg"⟩
    if w.running then { h with logs := h.logs.push l } else h
  | none => h

def backend (t : Transcoder) : MediaBackend Host :=
  ⟨t.openReader, decodeFrame, closeReader, t.openWriter, writeFrame, closeWriter,
    fun l h => { h with logs := h.logs.push l }⟩

end Transcoder

end Glitch
