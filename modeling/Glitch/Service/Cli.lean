import Glitch.Service.Video
import Glitch.Service.Ring
import Glitch.Service.Frames
import Glitch.Cli.Console
/-!
The `cli` request: the command line run on a machine held in memory, in a fresh directory filled
from the request's `files`, which is also the home directory. The answer holds the exit status,
standard output, the printed log lines, standard error, and the files asked for in `read`, each
read in the way asked.
-/
namespace Glitch.Service

open Glitch.Cli

/-- A file after a run, read the way a request asks; null when nothing is there. -/
def readBack (d : Disk) (path : String) (how : String) : Json :=
  match d.read path with
  | .error _ => .null
  | .ok bs =>
    match how with
    | "exists" => .bool true
    | "text" => .str (Transcoder.lossyText bs)
    | "json" => jsonFileOut d path
    | "image" =>
      match readImage path (.ok bs) with
      | .ok f => frameOut f
      | .error e => imageErrorJson e
    | "ring" =>
      match Ring.Reader.openBytes bs with
      | .error e => errorJson e
      | .ok rd =>
        match rd.header, rd.readLatest with
        | .ok h, .ok latest =>
          .obj [("header", headerOut h), ("latest", match latest with
            | some p => .str (hexOfBytes p)
            | none => .null)]
        | .error e, _ => errorJson e
        | _, .error e => errorJson e
    | _ => .obj [("len", .nat bs.size), ("hex", .str (hexOfBytes bs))]

def textField? (r : Json) (k : String) : Answer (Option String) :=
  match field? r k with
  | none => pure none
  | some j => some <$> strOf k j

def cliReq (r : Json) : Answer Json := do
  let args ← (← fieldOr r "args" listOf []).mapM (strOf "args")
  let disk ← diskOf r
  let noTools ← fieldOr r "no_ffmpeg" boolOf false
  let shm ← textField? r "shm_env"
  let rustLog ← textField? r "rust_log"
  let env : Env := [("HOME", "~")] ++ (shm.map fun s => [(shmPathVariable, s)]).getD [] ++
    (rustLog.map fun s => [("RUST_LOG", s)]).getD []
  let reads ← fieldOr r "read" listOf []
  let (code, c) := Console.run args (Console.fresh disk (if noTools then .none else .all) env)
  let files ← reads.mapM fun spec => do
    let path ← strOf "path" (← need spec "path")
    let how ← fieldOr spec "as" strOf "hex"
    pure (path, readBack c.host.disk path how)
  pure (.obj [("code", .nat code), ("stdout", .str c.out), ("logs", .arr (c.logs.toList.map fun l => .str l.render)),
    ("stderr", .str c.err), ("files", .obj files)])

end Glitch.Service
