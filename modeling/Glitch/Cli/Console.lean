import Glitch.Cli.Run
/-!
A machine held in memory: a directory tree with the video tools beside it, environment
variables, and what the run wrote to its output streams and its log.

Files live in the tree of `Disk`, and exports run the export manager over the tool backend on
the same tree, so what an export writes is there afterwards. The clock of an export stands
still, so runs are deterministic.
-/
namespace Glitch.Cli

/-- The state of a machine held in memory. -/
structure Console where
  host : Host
  env : Env
  out : String
  err : String
  logs : Array LogLine

namespace Console

def fresh (disk : Disk) (tools : ToolSet) (env : Env) : Console := ⟨Host.ofDisk disk tools, env, "", "", #[]⟩

def withDisk (c : Console) (d : Disk) : Console := { c with host := { c.host with disk := d } }

def change (f : Disk → Except IoError Disk) : StateM Console (Except IoError Unit) :=
  modifyGet fun c =>
    match f c.host.disk with
    | .ok d => (.ok (), c.withDisk d)
    | .error e => (.error e, c)

def clock : Timestamp := ⟨0, 0⟩

/-- Run one export to its end on the machine's tree and tools, with the lines it logged. -/
def runExport (t : Transcoder) (reg : Registry) (req : ExportRequest) :
    StateM Console (Outcome ExportSnapshot × List LogLine) :=
  modifyGet fun c =>
    let m := ExportManager.new reg t.backend { c.host with logs := #[] }
    let restore (h : Host) : Console := { c with host := { h with logs := c.host.logs } }
    match m.start clock req with
    | (.error e, m) => ((.error e, m.world.logs.toList), restore m.world)
    | (.ok (), m) =>
      let m := m.join clock
      ((.ok m.status, m.world.logs.toList), restore m.world)

def machine : Machine (StateM Console) where
  environment := do pure (← get).env
  readFile p := do pure ((← get).host.disk.read p)
  writeFile p bs := change fun d => d.write p bs
  createDirAll p := change fun d => d.createDirAll p
  print s := modify fun c => { c with out := c.out ++ s }
  report s := modify fun c => { c with err := c.err ++ s }
  log l := modify fun c => { c with logs := c.logs.push l }
  hasTranscoder := do pure (← get).host.tools.hasTranscoder
  exportVideo := runExport

/-- Run the program on a machine held in memory: the exit status and the machine after. -/
def run (words : List String) (c : Console) : Nat × Console := (runProgram machine words).run c

end Console

end Glitch.Cli
