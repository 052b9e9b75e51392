import Glitch.Error
import Glitch.Data.Path
/-!
A directory tree of files below a working directory, with the failures a Unix file system
reports.

Paths are read relative to the working directory; `~` and a path starting with `~/` name the
working directory, which is also the home directory. `.` components are dropped and `..` goes up
one level (not above the working directory). Absolute paths name places outside the tree, where
nothing exists and nothing can be created.

Reading needs every directory on the way to exist (else `NotFound`) and to be a directory (else
`NotADirectory`); reading a directory fails with `IsADirectory`. Writing needs the same of the
parent and replaces a file. Making a directory fails with `AlreadyExists` when anything is
already at its place, and `createDirAll` makes every missing directory on the way, accepting
directories that exist.
-/
namespace Glitch

/-- What sits at a place of the tree. -/
inductive DiskEntry where
  | file (bytes : ByteArray)
  | dir

/-- A tree of files and directories, each listed by its path components from the working
directory; the working directory itself is not listed. -/
structure Disk where
  entries : List (List String × DiskEntry)

namespace Disk

def empty : Disk := ⟨[]⟩

def resolveParts : List String → List String → List String
  | acc, [] => acc.reverse
  | acc, "." :: rest => resolveParts acc rest
  | acc, "" :: rest => resolveParts acc rest
  | acc, ".." :: rest => resolveParts acc.tail rest
  | acc, c :: rest => resolveParts (c :: acc) rest

/-- The components of a path inside the tree, or `none` for a path outside it. -/
def place? (p : String) : Option (List String) :=
  if p == "~" then some []
  else if p.startsWith "~/" then some (resolveParts [] ((p.drop 2).toString.splitOn "/"))
  else if p.startsWith "/" then none
  else some (resolveParts [] (p.splitOn "/"))

def at? (d : Disk) : List String → Option DiskEntry
  | [] => some .dir
  | parts => d.entries.lookup parts

/-- The failure when reaching `parts` passes through something that is not a directory; checks
every proper prefix. -/
def checkWay (d : Disk) (parts : List String) : Except IoError Unit :=
  (List.range parts.length).foldlM (fun _ n =>
    match d.at? (parts.take n) with
    | some .dir => .ok ()
    | some (.file _) => .error (IoError.os .notADirectory)
    | none => .error (IoError.os .notFound)) ()

def read (d : Disk) (p : String) : Except IoError ByteArray :=
  match place? p with
  | none => .error (IoError.os .notFound)
  | some parts => do
    d.checkWay parts
    match d.at? parts with
    | some (.file bs) => .ok bs
    | some .dir => .error (IoError.os .isADirectory)
    | none => .error (IoError.os .notFound)

def exists? (d : Disk) (p : String) : Bool :=
  match place? p with
  | none => false
  | some parts => (d.at? parts).isSome && (d.checkWay parts matches .ok ())

def put (d : Disk) (parts : List String) (e : DiskEntry) : Disk :=
  ⟨(parts, e) :: d.entries.filter (fun (q, _) => q != parts)⟩

def write (d : Disk) (p : String) (bs : ByteArray) : Except IoError Disk :=
  match place? p with
  | none => .error (IoError.os .notFound)
  | some [] => .error (IoError.os .isADirectory)
  | some parts => do
    d.checkWay parts
    match d.at? parts with
    | some .dir => .error (IoError.os .isADirectory)
    | _ => .ok (d.put parts (.file bs))

def makeDir (d : Disk) (parts : List String) : Except IoError Disk := do
  d.checkWay parts
  match d.at? parts with
  | some _ => .error (IoError.os .alreadyExists)
  | none => .ok (d.put parts .dir)

/-- Make a directory and every missing one above it: try the directory itself, and when its
parent is missing make the parent first and try again. An existing directory is accepted. -/
def createDirAllParts (d : Disk) : List String → Except IoError Disk
  | [] => .ok d
  | c :: cs =>
    let parts := c :: cs
    let isDir (d : Disk) := d.at? parts matches some .dir
    match d.makeDir parts with
    | .ok d => .ok d
    | .error e =>
      if e.kind == .notFound then do
        let d ← createDirAllParts d parts.dropLast
        match d.makeDir parts with
        | .ok d => .ok d
        | .error e => if isDir d then .ok d else .error e
      else if isDir d then .ok d
      else .error e
termination_by parts => parts.length
decreasing_by simp

def createDirAll (d : Disk) (p : String) : Except IoError Disk :=
  match place? p with
  | none => if p == "/" then .ok d else .error (IoError.os .permissionDenied)
  | some parts => d.createDirAllParts parts

end Disk

end Glitch
