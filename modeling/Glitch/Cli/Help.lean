import Glitch.Cli.Grammar
/-!
Help, usage and error texts of a command-line grammar.

A help text is the command's description, its usage line, its subcommands (for the program's
own command) and its options, ending with the automatic help option and, for the program's own
command, the version option. In the short form every entry is one line, with the columns lined up
two spaces after the longest entry; in the long form, used only by commands with a long
description, each option's help sits on the next line, indented ten columns, with a blank line
between options. An option with a default shows it after its help.

Usage lines name the command, `[OPTIONS]`, then its required options; the program's own usage
ends with `<COMMAND>`. Errors are one line, an optional tip, an optional usage line, and a pointer
to `--help`.
-/
namespace Glitch.Cli

def helpCommandAbout : String := "Print this message or the help of the given subcommand(s)"

/-- The left column of an option in help: `-s, --long <NAME>`, or four blanks in place of a
missing short name. -/
def Opt.helpSpec (o : Opt) : String :=
  (match o.short with
    | some c => "-" ++ String.singleton c ++ ", "
    | none => "    ") ++ "--" ++ o.long ++
  (match o.takes with
    | .flag => ""
    | t => " " ++ t.placeholder)

def Opt.helpText (o : Opt) : String :=
  o.help ++ match o.default with
    | some d => " [default: " ++ d ++ "]"
    | none => ""

def Command.hasLongHelp (c : Command) : Bool := c.longAbout.isSome

def helpEntry (c : Command) (long : Bool) : String × String :=
  ("-h, --help",
    if !c.hasLongHelp then "Print help"
    else if long then "Print help (see a summary with '-h')"
    else "Print help (see more with '--help')")

/-- Where an option stands in the command that declares it: a subcommand's own options count
from zero in their order, and so do the program's options, global ones included. -/
def Program.declaredAt (p : Program) (c : Command) (o : Opt) : Nat :=
  let declaring := if o.global && c.name != p.root.name then p.root.opts else c.opts
  (declaring.findIdx? (·.id == o.id)).getD 0

/-- The text an option is sorted by among options declared at the same place: its short name in
lower case followed by `0` for a lower-case name and `1` otherwise, else its long name. -/
def Opt.sortName (o : Opt) : String :=
  match o.short with
  | some s => String.singleton s.toLower ++ (if s.isLower then "0" else "1")
  | none => o.long

/-- The options of a command in help order: by the place each is declared at, then by name, so
that the program's global options fall in among a subcommand's own ones. -/
def Program.helpOrder (p : Program) (c : Command) : List Opt :=
  let key (o : Opt) : Nat × String := (p.declaredAt c o, o.sortName)
  (p.visible c).mergeSort fun a b => (key a).1 < (key b).1 || ((key a).1 == (key b).1 && decide ((key a).2 ≤ (key b).2))

def Program.entries (p : Program) (c : Command) (long : Bool) : List (String × String) :=
  let own := (p.helpOrder c).map fun o => (o.helpSpec, o.helpText)
  let isRoot := c.name == p.root.name
  own ++ [helpEntry c long] ++ (if isRoot then [("-V, --version", "Print version")] else [])

def padRight (s : String) (w : Nat) : String := s ++ String.ofList (List.replicate (w - s.length) ' ')

/-- Lined-up one-line entries: two blanks, the left column padded to the longest, two blanks,
the help. -/
def columns (rows : List (String × String)) : String :=
  let w := rows.foldl (fun m (l, _) => max m l.length) 0
  String.join (rows.map fun (l, r) => "  " ++ padRight l w ++ "  " ++ r ++ "\n")

def nextLineEntries (rows : List (String × String)) : String :=
  "\n".intercalate (rows.map fun (l, r) => "  " ++ l ++ "\n          " ++ r ++ "\n")

def Program.requiredWords (p : Program) (c : Command) : List String :=
  ((p.visible c).filter Opt.required).map Opt.display

def Program.commandPath (p : Program) (c : Command) : String :=
  if c.name == p.root.name then p.root.name else p.root.name ++ " " ++ c.name

/-- The usage line of a command; `[OPTIONS]` is always there, since the automatic help option
may be left out. -/
def Program.usage (p : Program) (c : Command) : String :=
  if c.name == p.root.name then p.root.name ++ " [OPTIONS] <COMMAND>"
  else " ".intercalate ([p.commandPath c, "[OPTIONS]"] ++ p.requiredWords c)

/-- The usage line of an error after options were given: the command, its required options,
then the options given (each once), and for the program's own command the subcommand. -/
def Program.smartUsage (p : Program) (c : Command) (used : List Opt) : String :=
  let words := ((((p.visible c).filter Opt.required) ++ used).map Opt.display).eraseDups
  " ".intercalate ([p.commandPath c] ++ words ++ (if c.name == p.root.name then ["<COMMAND>"] else []))

def Program.commandRows (p : Program) : List (String × String) :=
  p.subcommands.map (fun c => (c.name, c.about)) ++ [("help", helpCommandAbout)]

def Program.helpText (p : Program) (c : Command) (long : Bool) : String :=
  let useLong := long && c.hasLongHelp
  let about := if useLong then c.longAbout.getD c.about else c.about
  let commands := if c.name == p.root.name then "Commands:\n" ++ columns p.commandRows ++ "\n" else ""
  let rows := p.entries c useLong
  about ++ "\n\nUsage: " ++ p.usage c ++ "\n\n" ++ commands ++ "Options:\n" ++
    (if useLong then nextLineEntries rows else columns rows)

def Program.helpCommandUsage (p : Program) : String := p.root.name ++ " help [COMMAND]..."

def Program.helpCommandText (p : Program) : String :=
  helpCommandAbout ++ "\n\nUsage: " ++ p.helpCommandUsage ++ "\n\nArguments:\n" ++
    columns [("[COMMAND]...", "Print help for the subcommand(s)")]

def Program.versionText (p : Program) : String := p.root.name ++ " " ++ p.version ++ "\n"

/-- An error text: the message, an optional tip, an optional usage line, and the pointer to
help. -/
def errorText (message : String) (tip : Option String) (usage : Option String) : String :=
  "error: " ++ message ++ "\n\n" ++
    (match tip with
      | some t => "  tip: " ++ t ++ "\n\n"
      | none => "") ++
    (match usage with
      | some u => "Usage: " ++ u ++ "\n\n"
      | none => "") ++
    "For more information, try '--help'.\n"

end Glitch.Cli
