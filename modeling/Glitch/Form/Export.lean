import Glitch.Form.Chain
import Glitch.Export.Job
/-!
JSON forms of export statuses, snapshots and requests.

Timestamps are RFC 3339 strings, written back in UTC. A snapshot always has `error` (maybe
`null`), and has `output_path`, `started_at` and `finished_at` only when they are set.
-/
namespace Glitch

def Decode.path (n : Node) : Decoded String :=
  match n with
  | .str s _ _ => .ok s
  | _ => .error (Decode.invalidType n "path string")

/-- A timestamp read from RFC 3339 text. -/
def Decode.timestamp (n : Node) : Decoded Timestamp :=
  match n with
  | .str s _ _ =>
    match Timestamp.ofText s with
    | .ok t => .ok t
    | .error e => .error ⟨e.message, some n.stop⟩
  | _ => .error (Decode.invalidType n "an RFC 3339 formatted date and time string")

namespace ExportStatus

/-- The JSON form: the lowercase name. -/
def toJson (s : ExportStatus) : Json := .str s.name

def decode (src : Source) (n : Node) : Decoded ExportStatus := Decode.unitEnum src named n

end ExportStatus

namespace ExportSnapshot

def toJson (s : ExportSnapshot) : Json :=
  .obj ([("status", s.status.toJson), ("progress", Json.f64 s.progress), ("current_frame", .nat s.currentFrame),
    ("total_frames", .nat s.totalFrames)] ++
    (match s.outputPath with | some p => [("output_path", .str p)] | none => []) ++
    [("error", match s.error with | some e => .str e | none => .null)] ++
    (match s.startedAt with | some t => [("started_at", .str t.toText)] | none => []) ++
    (match s.finishedAt with | some t => [("finished_at", .str t.toText)] | none => []))

def decode (src : Source) (n : Node) : Decoded ExportSnapshot := do
  let fs ← Decode.fields src "ExportSnapshot"
    [⟨"status", false, Decode.check (ExportStatus.decode src)⟩, ⟨"progress", false, Decode.check Decode.f64⟩,
     ⟨"current_frame", false, Decode.check Decode.u64⟩, ⟨"total_frames", false, Decode.check Decode.u64⟩,
     ⟨"output_path", true, Decode.check (Decode.option Decode.string)⟩,
     ⟨"error", true, Decode.check (Decode.option Decode.string)⟩,
     ⟨"started_at", true, Decode.check (Decode.option Decode.timestamp)⟩,
     ⟨"finished_at", true, Decode.check (Decode.option Decode.timestamp)⟩] n
  let status ← Decode.required n fs "status" (ExportStatus.decode src)
  let progress ← Decode.required n fs "progress" Decode.f64
  let cur ← Decode.required n fs "current_frame" Decode.u64
  let total ← Decode.required n fs "total_frames" Decode.u64
  let out ← Decode.optionalField fs "output_path" Decode.string
  let err ← Decode.optionalField fs "error" Decode.string
  let started ← Decode.optionalField fs "started_at" Decode.timestamp
  let finished ← Decode.optionalField fs "finished_at" Decode.timestamp
  pure ⟨status, progress, cur, total, out, err, started, finished⟩

end ExportSnapshot

namespace ExportRequest

def toJson (r : ExportRequest) : Json :=
  .obj [("input_path", .str r.inputPath), ("output_path", .str r.outputPath), ("chain", chainToJson r.chain),
    ("project_seed", .nat r.projectSeed)]

/-- Read a request; `chain` and `project_seed` may be left out. -/
def decode (src : Source) (n : Node) : Decoded ExportRequest := do
  let fs ← Decode.fields src "ExportRequest"
    [⟨"input_path", false, Decode.check Decode.path⟩, ⟨"output_path", false, Decode.check Decode.path⟩,
     ⟨"chain", true, Decode.check (decodeChain src)⟩, ⟨"project_seed", true, Decode.check Decode.u64⟩] n
  let input ← Decode.required n fs "input_path" Decode.path
  let output ← Decode.required n fs "output_path" Decode.path
  let chain ← Decode.withDefault fs "chain" (decodeChain src) []
  let seed ← Decode.withDefault fs "project_seed" Decode.u64 0
  pure ⟨input, output, chain, seed⟩

end ExportRequest

end Glitch
