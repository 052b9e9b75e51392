import Glitch.Disk
import Glitch.Frame.Basic
import Glitch.Video.ToolJson
/-!
The probe and transcoding tools, for toy video files.

A toy video is a JSON object in the tools' own dialect (`ToolValue`). `probe` is the stream report
the probe tool prints, unless `probe_text` gives the exact text to print; `probe_exit` is the
probe's exit status, read as a whole number. The frames the transcoder decodes are the bytes of
the hex text `raw_hex` when that member is present, else the test patterns `0 .. frames - 1` of
a `gen` object `{width, height, frames}`; a tool that cannot make its output prints nothing.

The probe reads the file named by its last argument and fails with status 1 when the file is
missing or not a JSON object. The transcoder with `-version` succeeds; with `-i -` it encodes: it
takes all of its input, fails when the name of its output file contains `fail`, and otherwise
writes a JSON record of its arguments and its input to that file; with `-i <path>` it decodes
the file's frames to its output, failing with status 1 when the file cannot be read.

Which tools can be started is a `ToolSet`: all, the probe alone, or none. With the probe alone,
the probe starts but cannot run its interpreter, so it fails with status 127.
-/
namespace Glitch

/-- The tools that can be started. -/
inductive ToolSet where
  | all
  | probeOnly
  | none
  deriving DecidableEq, Repr

/-- How a finished tool run ended: its exit status, its output and its error text. -/
structure ToolRun where
  status : Nat
  stdout : ByteArray
  stderr : String

def ToolRun.quiet (status : Nat) : ToolRun := ⟨status, ByteArray.empty, ""⟩

namespace ToyVideo

def load? (d : Disk) (path : String) : Option (List (List Nat × ToolValue)) :=
  match d.read path with
  | .error _ => none
  | .ok bs =>
    match String.fromUTF8? bs with
    | none => none
    | some text =>
      match ToolValue.read? text with
      | some (.obj kvs) => some kvs
      | _ => none

/-- A count a pattern loop runs over: a whole number or a boolean, negative counts running no
times; `none` for any other value. -/
def count? : Option ToolValue → Option Nat
  | some (.int i) => some i.toNat
  | some (.bool b) => some (if b then 1 else 0)
  | _ => none

/-- The decoded frame data of a toy video: the bytes of `raw_hex` when present, else the `gen`
patterns, else nothing; nothing as well when either cannot be made. -/
def frameData (kvs : List (List Nat × ToolValue)) : ByteArray :=
  match ToolValue.member kvs "raw_hex" with
  | some v => (ToolValue.hexBytes? v).getD ByteArray.empty
  | none =>
    match ToolValue.member kvs "gen" with
    | some (.obj g) =>
      match count? (ToolValue.member g "width"), count? (ToolValue.member g "height"),
        count? (ToolValue.member g "frames") with
      | some w, some h, some n =>
        ⟨(List.range n).foldl (fun acc k => acc ++ (Frame.pattern k w h).bytes) #[]⟩
      | _, _, _ => ByteArray.empty
    | _ => ByteArray.empty

def probe (d : Disk) (args : List String) : ToolRun :=
  match load? d (args.getLastD "") with
  | none => ToolRun.quiet 1
  | some kvs =>
    let status := ToolValue.exitStatus (ToolValue.member kvs "probe_exit")
    match ToolValue.member kvs "probe_text" with
    | some (.str u) =>
      match ToolValue.unitsText? u with
      | some t => ⟨status, t.toUTF8, ""⟩
      | none => ToolRun.quiet 1
    | some _ => ToolRun.quiet 1
    | none => ⟨status, ((ToolValue.member kvs "probe").getD (.obj [])).render.toUTF8, ""⟩

def decode (d : Disk) (path : String) : ToolRun :=
  match load? d path with
  | none => ToolRun.quiet 1
  | some kvs => ⟨ToolValue.exitStatus (ToolValue.member kvs "decode_exit"), frameData kvs, ""⟩

def hexText (bs : ByteArray) : String :=
  let digit (n : Nat) : Char := if n < 10 then Char.ofNat (48 + n) else Char.ofNat (87 + n)
  String.ofList (bs.toList.flatMap fun b => [digit (b.toNat / 16), digit (b.toNat % 16)])

def encode (d : Disk) (args : List String) (input : ByteArray) : ToolRun × Disk :=
  let out := args.getLastD ""
  if ((fileName out).splitOn "fail").length > 1 then (⟨1, ByteArray.empty, "stand-in encoder failure\n"⟩, d)
  else
    let record : ToolValue := .obj [(ToolValue.textUnits "args", .arr (args.map fun a => .str (ToolValue.textUnits a))),
      (ToolValue.textUnits "stdin_hex", .str (ToolValue.textUnits (hexText input)))]
    match d.write out record.render.toUTF8 with
    | .ok d => (ToolRun.quiet 0, d)
    | .error e => (⟨1, ByteArray.empty, e.text ++ "\n"⟩, d)

end ToyVideo

namespace ToolSet

def hasTranscoder : ToolSet → Bool
  | .all => true
  | _ => false

def probe (t : ToolSet) (d : Disk) (args : List String) : Option ToolRun :=
  match t with
  | .all => some (ToyVideo.probe d args)
  | .probeOnly => some (ToolRun.quiet 127)
  | .none => Option.none

end ToolSet

end Glitch
