/-!
File paths as text, with the joining rule of Unix paths: joining an absolute path replaces the
base, and a separator is added only when the base does not already end in one.

An environment is a list of variable bindings; the first binding of a name wins.
-/
namespace Glitch

def joinPath (base p : String) : String :=
  if p.startsWith "/" then p
  else if base.isEmpty then p
  else if base.endsWith "/" then base ++ p
  else base ++ "/" ++ p

/-- The directory part of a path: everything before the last separator (`""` when there is
none; `"/"` for a path directly under the root). -/
def parentPath (p : String) : String :=
  let cs := (p.toList.reverse.dropWhile (· == '/')).reverse
  match (cs.reverse.dropWhile (· != '/')) with
  | [] => ""
  | rest =>
    let dir := (rest.dropWhile (· == '/')).reverse
    if dir.isEmpty then "/" else String.ofList dir

def fileName (p : String) : String :=
  let cs := (p.toList.reverse.dropWhile (· == '/')).reverse
  String.ofList (cs.reverse.takeWhile (· != '/')).reverse

/-- The extension of a path's last component: the text after its last dot, unless that dot
starts the name. -/
def extensionOf (p : String) : Option String :=
  let name := (fileName p).toList
  match name.reverse.span (· != '.') with
  | (_, []) => none
  | (ext, _ :: before) => if before.isEmpty then none else some (String.ofList ext.reverse)

abbrev Env := List (String × String)

def Env.get? (e : Env) (k : String) : Option String := List.lookup k e

/-- A variable's value if it is set and not empty. -/
def Env.nonEmpty? (e : Env) (k : String) : Option String :=
  match e.get? k with
  | some v => if v.isEmpty then none else some v
  | none => none

end Glitch
