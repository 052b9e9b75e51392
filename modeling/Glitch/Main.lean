import Glitch.Cli.Run
/-!
The `glitchframe` executable: the command line run on the real file system, with the process's
environment, standard output and standard error. The video tools are not started from here, so
`export` reports that they were not found.
-/
namespace Glitch.Cli

/-- The error number an operating-system failure carries, if any. -/
def errorNumber : IO.Error → Option UInt32
  | .alreadyExists _ n _ | .otherError n _ | .resourceBusy n _ | .resourceVanished n _
  | .unsupportedOperation n _ | .hardwareFault n _ | .unsatisfiedConstraints n _
  | .illegalOperation n _ | .protocolError n _ | .timeExpired n _ | .interrupted _ n _
  | .noFileOrDirectory _ n _ | .invalidArgument _ n _ | .permissionDenied _ n _
  | .resourceExhausted _ n _ | .inappropriateType _ n _ | .noSuchThing _ n _ => some n
  | .unexpectedEof | .userError _ => none

/-- An operating-system failure as a file-system failure of the library. -/
def ioErrorOf (e : IO.Error) : IoError :=
  match errorNumber e with
  | some 2 => IoError.os .notFound
  | some 13 => IoError.os .permissionDenied
  | some 17 => IoError.os .alreadyExists
  | some 20 => IoError.os .notADirectory
  | some 21 => IoError.os .isADirectory
  | some 32 => IoError.os .brokenPipe
  | _ => ⟨.other, toString e⟩

def attempt {α : Type} (act : IO α) : IO (Except IoError α) := do
  try
    let a ← act
    pure (.ok a)
  catch e =>
    pure (.error (ioErrorOf e))

def environmentNames : List String := ["HOME", "TMPDIR", shmPathVariable, "RUST_LOG"]

def processMachine : Machine IO where
  environment := do
    let vals ← environmentNames.mapM fun k => do pure (k, ← IO.getEnv k)
    pure (vals.filterMap fun (k, v) => v.map fun x => (k, x))
  readFile p := attempt (IO.FS.readBinFile p)
  writeFile p bs := attempt (IO.FS.writeBinFile p bs)
  createDirAll p := attempt (IO.FS.createDirAll p)
  print s := IO.print s
  report s := IO.eprint s
  log l := IO.println l.render
  hasTranscoder := pure false
  exportVideo _ _ _ := pure (.error (.generic "ffmpeg was not found on PATH"), [])

end Glitch.Cli

def main (args : List String) : IO UInt32 := do
  let code ← Glitch.Cli.runProgram Glitch.Cli.processMachine args
  pure code.toUInt32
