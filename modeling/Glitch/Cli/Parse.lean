import Glitch.Cli.Help
import Glitch.Cli.Similar
/-!
Reading a command line against a grammar.

Words are read left to right. `--name` or `--name=value` is a long option; `-abc` is a cluster of
short options, where an option taking a value takes the rest of the word (after an optional `=`)
or else the next word; a word starting with `-` is never taken as a value. `-h` and `--help` print
help at once (long help for `--help`), and `-V` and `--version` print the version on the program's
own command. On the program's own command, a plain word chooses a subcommand, or `help` followed
by a subcommand's name prints that help. Values are read as they are met, so the first bad word
decides the error. At the end, an option still waiting for its value, a missing subcommand and
missing required options are errors, in that order; options left out take their defaults. With
no words at all, the program's short help is printed as an error.
-/
namespace Glitch.Cli

/-- What a command line asks for. -/
inductive Request where
  /-- Run a subcommand with the options given, defaults filled in, in the order given. -/
  | run (sub : String) (values : List (String × ArgValue))
  /-- Print a text and succeed. -/
  | show (text : String)
  /-- Print a text as an error and fail with a status. -/
  | refuse (text : String) (status : Nat)

/-- Reading in progress: the command being read, the options given to it so far (latest first),
the options given to the program's own command before a subcommand was chosen (latest first),
the option waiting for its value, whether `--` was seen, and an option of the program's own
command that was still waiting for its value when the subcommand was named. -/
structure ReadState where
  command : Command
  given : List (String × ArgValue)
  inherited : List (String × ArgValue)
  pending : Option Opt
  escaped : Bool
  rootPending : Option Opt

def helpOpt : Opt := Opt.flag "help" (some 'h') "Print help"

def versionOpt : Opt := Opt.flag "version" (some 'V') "Print version"

def usageError (message : String) (tip : Option String) (usage : String) : Request :=
  .refuse (errorText message tip (some usage)) 2

def valueError (message : String) : Request := .refuse (errorText message none none) 2

def missingValue (o : Opt) : Request :=
  valueError ("a value is required for '" ++ o.display ++ "' but none was supplied")

def ReadState.has (st : ReadState) (o : Opt) : Bool := st.given.any (·.1 == o.id)

def Program.used (p : Program) (st : ReadState) : List Opt :=
  (st.given.reverse.map Prod.fst).eraseDups.filterMap fun id => (p.visible st.command).find? (·.id == id)

def startsOption (w : String) : Bool := w.startsWith "--" || (w.startsWith "-" && w.length > 1)

/-- The usage line of an error after some options were given: the required options, then those
given; with none given, the full usage line. -/
def Program.usageAfter (p : Program) (c : Command) (used : List Opt) : String :=
  if used.isEmpty then p.usage c else p.smartUsage c used

def Program.repeated (p : Program) (st : ReadState) (o : Opt) : Request :=
  usageError ("the argument '" ++ o.display ++ "' cannot be used multiple times") none (p.usage st.command)

def Program.give (p : Program) (st : ReadState) (o : Opt) (v : ArgValue) : Except Request ReadState :=
  match o.takes with
  | .each _ _ => .ok { st with given := (o.id, v) :: st.given }
  | _ => if st.has o then .error (p.repeated st o) else .ok { st with given := (o.id, v) :: st.given }

/-- Read a value for an option: a second use of a single-valued option is refused before its value
is read. -/
def Program.giveValue (p : Program) (st : ReadState) (o : Opt) (kind : ValueKind) (s : String) :
    Except Request ReadState :=
  if (o.takes matches .one _ _) && st.has o then .error (p.repeated st o)
  else
    match readValue kind s with
    | .ok v => p.give { st with pending := none } o v
    | .error none => .error (missingValue o)
    | .error (some reason) =>
      .error (valueError ("invalid value '" ++ s ++ "' for '" ++ o.display ++ "': " ++ reason))

/-- Begin an option met on the command line, with the value written in the same word if any. -/
def Program.startOption (p : Program) (st : ReadState) (o : Opt) (inline : Option String) : Except Request ReadState :=
  match o.takes, inline with
  | .flag, none => p.give st o .flag
  | .flag, some v =>
    let used := (p.used st).filter (fun u => !u.required) ++ [o]
    .error (usageError ("unexpected value '" ++ v ++ "' for '" ++ o.display ++ "' found; no more were expected")
      none (p.smartUsage st.command used))
  | .one _ k, some v => p.giveValue st o k v
  | .each _ k, some v => p.giveValue st o k v
  | _, none => .ok { st with pending := some o }

def Program.longNames (p : Program) (c : Command) : List Opt :=
  p.visible c ++ [helpOpt] ++ (if c.name == p.root.name then [versionOpt] else [])

/-- For a mistyped long option on the program's own command: a subcommand named later on the
command line that has a similar option, the one named first. -/
def Program.laterSuggestion (p : Program) (name : String) (rest : List String) : Option String :=
  let found := p.subcommands.filterMap fun c =>
    match (similarNames name ((p.longNames c).map Opt.long)).getLast?, rest.idxOf? c.name with
    | some cand, some pos => some (pos, c.name ++ " --" ++ cand)
    | _, _ => none
  (found.foldl (fun best x =>
    match best with
    | some b => if x.1 < b.1 then some x else best
    | none => some x) none).map Prod.snd

def Program.readLong (p : Program) (st : ReadState) (body : String) (rest : List String) :
    Except Request ReadState :=
  let (name, inline) := match body.splitOn "=" with
    | [n] => (n, none)
    | n :: more => (n, some ("=".intercalate more))
    | [] => (body, none)
  let isRoot := st.command.name == p.root.name
  if name == "help" then .error (.show (p.helpText st.command true))
  else if name == "version" && isRoot then .error (.show p.versionText)
  else
    match (p.visible st.command).find? (·.long == name) with
    | some o => p.startOption st o inline
    | none =>
      let known := p.longNames st.command
      let message := "unexpected argument '--" ++ name ++ "' found"
      match (similarNames name (known.map Opt.long)).getLast? with
      | some cand =>
        let used := p.used st ++ (known.filter (·.long == cand)).take 1
        .error (usageError message (some ("a similar argument exists: '--" ++ cand ++ "'"))
          (p.usageAfter st.command used))
      | none =>
        let tip := if isRoot then (p.laterSuggestion name rest).map fun s => "'" ++ s ++ "' exists" else none
        .error (usageError message tip (p.usageAfter st.command (p.used st)))

def Program.readShorts (p : Program) : ReadState → List Char → Except Request ReadState
  | st, [] => .ok st
  | st, c :: rest =>
    let isRoot := st.command.name == p.root.name
    if c == 'h' then .error (.show (p.helpText st.command false))
    else if c == 'V' && isRoot then .error (.show p.versionText)
    else
      match (p.visible st.command).find? (·.short == some c) with
      | none => .error (usageError ("unexpected argument '-" ++ String.singleton c ++ "' found") none
          (p.usage st.command))
      | some o =>
        match o.takes with
        | .flag => do
          let st ← p.give st o .flag
          p.readShorts st rest
        | _ =>
          let inline := match rest with
            | [] => none
            | '=' :: v => some (String.ofList v)
            | v => some (String.ofList v)
          p.startOption st o inline

/-- Whether a word names an option the command being read knows, so that an option waiting for
its value is left without one. A known flag written with a value is reported as that instead. -/
def Program.knownAt (p : Program) (st : ReadState) (w : String) : Bool :=
  let isRoot := st.command.name == p.root.name
  if w.startsWith "--" then
    let body := (w.drop 2).toString
    match body.splitOn "=" with
    | [] => false
    | name :: more =>
      if name == "help" || (name == "version" && isRoot) then true
      else
        match (p.visible st.command).find? (·.long == name) with
        | some o => !((o.takes matches .flag) && !more.isEmpty)
        | none => false
  else
    match (w.drop 1).toString.toList with
    | c :: _ => c == 'h' || (c == 'V' && isRoot) || (p.visible st.command).any (·.short == some c)
    | [] => false

def Program.unknownSubcommand (p : Program) (word : String) : Request :=
  let names := p.subcommands.map Command.name ++ ["help"]
  let tip := match (similarNames word names) with
    | [] => none
    | [c] => some ("a similar subcommand exists: '" ++ c ++ "'")
    | cs => some ("some similar subcommands exist: " ++ ", ".intercalate (cs.map fun c => "'" ++ c ++ "'"))
  usageError ("unrecognized subcommand '" ++ word ++ "'") tip (p.usage p.root)

def unrecognizedAt (word usage : String) : Request :=
  usageError ("unrecognized subcommand '" ++ word ++ "'") none usage

def Program.helpFor (p : Program) : List String → Request
  | [] => .show (p.helpText p.root true)
  | w :: more =>
    if w == "help" then
      match more with
      | [] => .show p.helpCommandText
      | x :: _ => unrecognizedAt x p.helpCommandUsage
    else
      match p.subcommands.find? (·.name == w), more with
      | some c, [] => .show (p.helpText c true)
      | some c, x :: _ => unrecognizedAt x (p.usage c)
      | none, _ => unrecognizedAt w (p.usage p.root)

/-- Finish reading: check the waiting option, the subcommand and the required options, then fill
in defaults, and last the option of the program's own command left waiting when the subcommand was
named. The program's own options come after the subcommand's, so a value given to the subcommand
is found first. -/
def Program.finish (p : Program) (st : ReadState) : Request :=
  match st.pending with
  | some o => missingValue o
  | none =>
    if st.command.name == p.root.name then
      .refuse ("error: '" ++ p.root.name ++ "' requires a subcommand but one was not provided\n  [subcommands: " ++
        ", ".intercalate (p.subcommands.map Command.name ++ ["help"]) ++ "]\n\nUsage: " ++ p.usage p.root ++
        "\n\nFor more information, try '--help'.\n") 2
    else
      let opts := p.visible st.command
      let missing := opts.filter fun o => o.required && !st.has o
      if !missing.isEmpty then
        .refuse (errorText ("the following required arguments were not provided:" ++
          String.join (missing.map fun o => "\n  " ++ o.display)) none
          (some (p.smartUsage st.command (p.used st ++ missing)))) 2
      else
        let defaults := opts.filterMap fun o =>
          if st.has o then none
          else match o.default, o.takes with
            | some d, .one _ k =>
              match readValue k d with
              | .ok v => some (o.id, v)
              | .error _ => none
            | _, _ => none
        match st.rootPending with
        | some o => missingValue o
        | none => .run st.command.name (st.given.reverse ++ defaults ++ st.inherited.reverse)

/-- Read the words left; the number of words bounds the steps. On the program's own command a
subcommand's name starts that subcommand even while an option waits for its value. A word that
looks like an option is never a value before `--`: a known one leaves the waiting option without
its value, an unknown one is reported as unknown. After `--` the program's own command still
takes no plain words: a subcommand's name there is reported with the advice to drop the `--`. -/
def Program.readWords (p : Program) : ReadState → List String → Request
  | st, [] => p.finish st
  | st, w :: rest =>
    let next (r : Except Request ReadState) : Request :=
      match r with
      | .ok st => p.readWords st rest
      | .error q => q
    let atRoot := st.command.name == p.root.name && !st.escaped
    if atRoot && w == "help" then p.helpFor rest
    else
      match (if atRoot then p.subcommands.find? (·.name == w) else none) with
      | some c => p.readWords ⟨c, [], st.given, none, false, st.pending⟩ rest
      | none =>
        let option (st : ReadState) : Request :=
          if w.startsWith "--" then next (p.readLong st (w.drop 2).toString rest)
          else next (p.readShorts st (w.drop 1).toString.toList)
        match st.pending with
        | some o =>
          let value : Request :=
            match o.takes with
            | .one _ k => next (p.giveValue st o k w)
            | .each _ k => next (p.giveValue st o k w)
            | .flag => next (.ok { st with pending := none })
          if st.escaped then value
          else if w == "--" then p.readWords { st with escaped := true } rest
          else if startsOption w then
            if p.knownAt st w then missingValue o else option { st with pending := none }
          else value
        | none =>
          if !st.escaped && w == "--" then p.readWords { st with escaped := true } rest
          else if !st.escaped && startsOption w then option st
          else if atRoot then p.unknownSubcommand w
          else if st.command.name == p.root.name then
            if w == "help" || p.subcommands.any (·.name == w) then
              usageError ("unexpected argument '" ++ w ++ "' found")
                (some ("subcommand '" ++ w ++ "' exists; to use it, remove the '--' before it")) (p.usage p.root)
            else p.unknownSubcommand w
          else usageError ("unexpected argument '" ++ w ++ "' found") none (p.usage st.command)

def Program.read (p : Program) (words : List String) : Request :=
  if words.isEmpty then .refuse (p.helpText p.root false) 2
  else p.readWords ⟨p.root, [], [], none, false, none⟩ words

end Glitch.Cli
