import Glitch.Log
import Glitch.Data.Text
/-!
Which log lines a run prints, chosen by a list of directives.

A directive is a bare level (`debug`, `off`, or a digit from `0` for off to `5` for trace, in
any case), or a target made of word characters, `:`, `-` and white space, optionally followed by
`=` and a level (`=` alone, or no `=`, means every level). A target that is itself a level name sets the
default level. A directive naming a span (`[...]`) only ever applies inside that span, and no
line of this program is written inside one.

A line is printed when the most specific directive whose target starts the line's target (the
longest; a bare level last; among equal targets the later one) allows the line's level. With no
directive applying, nothing is printed. The setting is a comma-separated list; when it is absent
or any directive in it does not read, the run's own default level applies instead.
-/
namespace Glitch.Cli

/-- One directive: the target it is about (`none` for every target), the least severe level it
allows as a rank (0 allows nothing, 5 everything), and whether it names a span. -/
structure Directive where
  target : Option String
  rank : Nat
  spanOnly : Bool
  deriving DecidableEq, Repr

def levelRank? (s : String) : Option Nat :=
  match s.toLower with
  | "off" | "0" => some 0
  | "error" | "1" => some 1
  | "warn" | "2" => some 2
  | "info" | "3" => some 3
  | "debug" | "4" => some 4
  | "trace" | "5" => some 5
  | _ => none

/-- Whether a character may appear in a target name: a word character, `:`, `-` or white
space. -/
def targetChar (c : Char) : Bool :=
  isWordChar c || c == ':' || c == '-' || isUnicodeSpace c

/-- Read a target or span part from the front of a directive: the target text (if a target),
whether it was a span, and the rest. -/
def takePart (cs : List Char) : Option (Option String × Bool × List Char) :=
  match cs with
  | '[' :: rest =>
    match rest.span (· != ']') with
    | (_, ']' :: after) => some (none, true, after)
    | _ => none
  | _ =>
    let (name, after) := cs.span targetChar
    if name.isEmpty then none else some (some (String.ofList name), false, after)

def Directive.read? (s : String) : Option Directive :=
  match levelRank? s with
  | some r => some ⟨none, r, false⟩
  | none => do
    let (t1, s1, rest) ← takePart s.toList
    let (t2, s2, rest) ← match rest with
      | [] => some (none, false, [])
      | '=' :: _ => some (none, false, rest)
      | _ => takePart rest
    let rank ← match rest with
      | [] => some 5
      | '=' :: lvl => if lvl.isEmpty then some 5 else levelRank? (String.ofList lvl)
      | _ => none
    let target := (t2.or t1).bind fun t => if (levelRank? t).isSome then none else some t
    pure ⟨target, rank, s1 || s2⟩

def readDirectives (s : String) : Option (List Directive) :=
  ((s.splitOn ",").filter (· ≠ "")).mapM Directive.read?

def Directive.specificity (d : Directive) : Nat :=
  match d.target with
  | some t => t.length + 1
  | none => 0

def Directive.applies (d : Directive) (target : String) : Bool :=
  !d.spanOnly && match d.target with
    | some t => target.startsWith t
    | none => true

def decidingDirective (ds : List Directive) (target : String) : Option Directive :=
  ds.foldl (fun best d =>
    if !d.applies target then best
    else match best with
      | some b => if b.specificity ≤ d.specificity then some d else best
      | none => some d) none

def allows (ds : List Directive) (l : LogLine) : Bool :=
  match decidingDirective ds l.target with
  | some d => l.level.rank ≤ d.rank
  | none => false

/-- The directives of a run: the setting if given and readable, else the default level (debug
when verbose, info otherwise). -/
def logDirectives (setting : Option String) (verbose : Bool) : List Directive :=
  let fallback : List Directive := [⟨none, if verbose then 4 else 3, false⟩]
  match setting with
  | none => fallback
  | some s => (readDirectives s).getD fallback

end Glitch.Cli
