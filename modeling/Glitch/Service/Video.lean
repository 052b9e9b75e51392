import Glitch.Service.Codec
import Glitch.Service.Export
import Glitch.Video.Transcoder
import Glitch.Codec.Image
/-!
Requests about the tool backend: whether the transcoder is there, reading and writing videos
through it, and a whole export over it. Each works in a fresh directory filled from the request's
`files`.
-/
namespace Glitch.Service

def toolsOf (r : Json) : Answer ToolSet :=
  match field? r "tools" with
  | none => pure .all
  | some (.str "all") => pure .all
  | some (.str "ffprobe_only") => pure .probeOnly
  | some (.str "none") => pure .none
  | some _ => bad "tools must be all, ffprobe_only or none"

def fileBytesOf (name : String) (spec : Json) : Answer ByteArray := do
  match field? spec "text", field? spec "hex", field? spec "json", field? spec "png", field? spec "jpeg" with
  | some t, _, _, _, _ => pure (← strOf name t).toUTF8
  | none, some h, _, _, _ => pure ⟨← bytesOfHex (← strOf name h)⟩
  | none, none, some j, _, _ => pure j.render.toUTF8
  | none, none, none, some f, _ =>
    match Png.encode (← frameOf f) with
    | .ok bs => pure bs
    | .error e => bad (ImageError.png e).message
  | none, none, none, none, some f =>
    let frame ← frameOf f
    let q ← fieldOr spec "quality" (fun k j => unsignedOf k 8 j) 95
    let bs ← lib (encodeFrame frame q)
    pure ⟨bs.toArray⟩
  | none, none, none, none, none => bad ("unsupported file spec for " ++ name)

/-- A fresh directory holding a request's `files`, each with the directories above it. -/
def diskOf (r : Json) : Answer Disk := do
  let files ← match field? r "files" with
    | some (.obj kvs) => pure kvs
    | some _ => bad "files must be an object"
    | none => pure []
  files.foldlM (fun d (name, spec) => do
    let bs ← fileBytesOf name spec
    let d ← lib ((d.createDirAll (parentPath name)).mapError GlitchError.io)
    lib ((d.write name bs).mapError GlitchError.io)) Disk.empty

def transcoderOf (r : Json) : Answer Transcoder := do
  let codec ← fieldOr r "codec" strOf "libx264"
  let fps ← fieldOr r "fallback_fps" f64Of (Binary.ofNat 30)
  pure ⟨codec, fps⟩

def ffmpegAvailableReq (r : Json) : Answer Json := do
  let tools ← toolsOf r
  pure (.obj [("available", .bool (Transcoder.isAvailable (Host.ofDisk Disk.empty tools)))])

def onHost {α : Type} (h : Host) (m : MediaM Host α) : Except Fault α × Host := MediaBackend.attempt m h

def faultAnswer {α : Type} : Fault → Answer α
  | .error e => .error (.failed e)
  | .abort => .error .panic

def toolReaderOp (h : Host) (op : Json) : Answer Json × Host :=
  match (do strOf "op" (← need op "op") : Answer String) with
  | .error e => (.error e, h)
  | .ok "decode" =>
    match fieldReq op "index" u64Of with
    | .error e => (.error e, h)
    | .ok i =>
      match onHost h (Transcoder.decodeFrame i) with
      | (.ok f, h) => (.ok (.obj [("frame", frameOut f)]), h)
      | (.error f, h) => (faultAnswer f, h)
  | .ok "close" => (.ok (.obj [("ok", .bool true)]), (onHost h Transcoder.closeReader).2)
  | .ok other => (bad ("unknown reader op " ++ other), h)

/-- `ffmpeg_reader`: open a video through the tools, then read it. -/
def ffmpegReaderReq (r : Json) : Answer Json := do
  let tools ← toolsOf r
  let disk ← diskOf r
  let t ← transcoderOf r
  let path ← fieldReq r "path" strOf
  let ops ← fieldOr r "ops" listOf []
  match onHost (Host.ofDisk disk tools) (t.openReader path) with
  | (.error f, _) => faultAnswer f
  | (.ok info, h) =>
    let (answers, _) := ops.foldl (fun (acc : List Json × Host) op =>
      let (a, h) := toolReaderOp acc.2 op
      (answerJson a :: acc.1, h)) ([], h)
    pure (.obj [("info", .obj [("frame_count", bigOut info.frameCount), ("width", .nat info.resolution.1),
      ("height", .nat info.resolution.2), ("fps", floatOut info.fps)]),
      ("results", .arr answers.reverse)])

def toolWriterOp (h : Host) (op : Json) : Answer Json × Host :=
  match (do strOf "op" (← need op "op") : Answer String) with
  | .error e => (.error e, h)
  | .ok "write" =>
    match frameField op "frame" with
    | .error e => (.error e, h)
    | .ok f =>
      match onHost h (Transcoder.writeFrame f) with
      | (.ok (), h) => (.ok (.obj [("ok", .bool true)]), h)
      | (.error f, h) => (faultAnswer f, h)
  | .ok "close" =>
    match onHost h Transcoder.closeWriter with
    | (.ok (), h) => (.ok (.obj [("ok", .bool true)]), h)
    | (.error f, h) => (faultAnswer f, h)
  | .ok other => (bad ("unknown writer op " ++ other), h)

/-- The JSON a file holds, or null when it is missing or not JSON. -/
def jsonFileOut (d : Disk) (path : String) : Json :=
  match d.read path with
  | .ok bs =>
    match String.fromUTF8? bs with
    | some text =>
      match parseJson text with
      | .ok n => n.toJson
      | .error _ => .null
    | none => .null
  | .error _ => .null

/-- `ffmpeg_writer`: open an encoder, give it frames, drop it, and read what it wrote. -/
def ffmpegWriterReq (r : Json) : Answer Json := do
  let tools ← toolsOf r
  let disk ← diskOf r
  let t ← transcoderOf r
  let path ← fieldReq r "path" strOf
  let w ← fieldOr r "width" (fun k j => unsignedOf k 32 j) 4
  let hgt ← fieldOr r "height" (fun k j => unsignedOf k 32 j) 2
  let fps ← fieldOr r "fps" f64Of (Binary.ofNat 24)
  let ops ← fieldOr r "ops" listOf []
  let readOutput ← fieldOr r "read_output" boolOf true
  match onHost (Host.ofDisk disk tools) (t.openWriter path (w, hgt) fps) with
  | (.error f, _) => faultAnswer f
  | (.ok (), h) =>
    let (answers, h) := ops.foldl (fun (acc : List Json × Host) op =>
      let (a, h) := toolWriterOp acc.2 op
      (answerJson a :: acc.1, h)) ([], h)
    let h := Transcoder.dropWriter h
    pure (.obj [("results", .arr answers.reverse),
      ("output", if readOutput then jsonFileOut h.disk path else .null)])

/-- `ffmpeg_export`: one export over the tool backend, run to the end. -/
def ffmpegExportReq (r : Json) : Answer Json := do
  let reg ← registryOf r
  let tools ← toolsOf r
  let disk ← diskOf r
  let t ← transcoderOf r
  let req ← exportRequestOf r
  let m := ExportManager.new reg t.backend (Host.ofDisk disk tools)
  match m.start exportClock req with
  | (.error e, _) => .error (.failed e)
  | (.ok (), m) =>
    let m := m.join exportClock
    pure (.obj [("status", snapshotOut m.status), ("output", jsonFileOut m.world.disk req.outputPath)])

end Glitch.Service
