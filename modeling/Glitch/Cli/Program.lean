import Glitch.Cli.Parse
/-!
The `glitchframe` command line: its grammar, and what a successful reading asks for as a typed
invocation.

The program takes a configuration file and a verbosity flag everywhere, and five subcommands:
`effects` lists the registered effects, `render` runs a chain over one image, `composite` renders
a layer stack, `preview` streams a chain's output frames into the preview ring, and `export`
renders a whole video in the background. The subcommands that run a chain read it from a JSON
file, then append the effects named with `-e`, and take a project seed.
-/
namespace Glitch.Cli

def Opt.needed (o : Opt) : Opt := { o with required := true }

def Opt.withDefault (o : Opt) (d : String) : Opt := { o with default := some d }

def chainOpts : List Opt :=
  [Opt.value "chain" none .path "JSON file holding an array of effect instances",
   ⟨"effects", "effect", some 'e', .each "EFFECTS" .text, "Effect id to append to the chain (repeatable)",
     none, false, false⟩,
   (Opt.value "seed" (some 's') .count "Project seed").withDefault "0"]

/-- The program's own command, with the options every subcommand sees. -/
def rootCommand : Command :=
  ⟨"glitchframe", "Deterministic glitch effects for images and video",
    some ("glitchframe applies ordered chains of pixel effects to frames, composites layers, streams " ++
      "previews through a shared-memory ring buffer, and exports whole videos in the background."),
    [{ Opt.value "config" (some 'c') .path "Configuration file (optional)" with global := true },
     { Opt.flag "verbose" (some 'v') "Enable verbose logging" with global := true }]⟩

def subcommands : List Command :=
  [⟨"effects", "List registered effects and their parameters", none,
      [Opt.flag "json" none "Print the full listing as JSON"]⟩,
   ⟨"render", "Apply an effect chain to a single image", none,
      [(Opt.value "input" (some 'i') .path "Input image").needed,
       (Opt.value "output" (some 'o') .path
          "Output image; a .jpg/.jpeg path is size-bounded by the encoder settings").needed,
       (Opt.value "frame" none .count "Frame index the effects see").withDefault "0"] ++ chainOpts⟩,
   ⟨"composite", "Composite a layer stack described in a JSON file", none,
      [(Opt.value "layers" (some 'l') .path "Layer stack description").needed,
       (Opt.value "output" (some 'o') .path "Output PNG").needed,
       (Opt.value "seed" (some 's') .count "Project seed").withDefault "0"]⟩,
   ⟨"preview", "Stream rendered frames of an image into the preview ring buffer", none,
      [(Opt.value "input" (some 'i') .path "Input image").needed,
       (Opt.value "frames" (some 'n') .count "Number of frames to write").withDefault "30",
       (Opt.value "fps" none .number "Frames per second").withDefault "30",
       Opt.value "shm" none .path "Ring buffer file (overrides configuration)"] ++ chainOpts⟩,
   ⟨"export", "Render a whole video through an effect chain", none,
      [(Opt.value "input" (some 'i') .path "Input video").needed,
       (Opt.value "output" (some 'o') .path "Output video").needed] ++ chainOpts⟩]

def glitchframe : Program := ⟨rootCommand, "0.1.0", subcommands⟩

/-- Where a chain comes from: a JSON file, effect ids appended after it, and the project seed. -/
structure ChainArgs where
  file : Option String
  effects : List String
  seed : Nat

/-- What a subcommand asks for. -/
inductive Action where
  | effects (json : Bool)
  | render (input output : String) (frame : Nat) (chain : ChainArgs)
  | composite (layers output : String) (seed : Nat)
  | preview (input : String) (frames : Nat) (fps : F64) (shm : Option String) (chain : ChainArgs)
  | export (input output : String) (chain : ChainArgs)

/-- A command line read: the configuration file, whether logging is verbose, and the action. -/
structure Invocation where
  config : Option String
  verbose : Bool
  action : Action

/-- The values read, looked up by option. -/
structure Values where
  given : List (String × ArgValue)

namespace Values

def text? (v : Values) (id : String) : Option String :=
  v.given.findSome? fun (k, a) =>
    match a with
    | .text s => if k == id then some s else none
    | _ => none

def texts (v : Values) (id : String) : List String :=
  v.given.filterMap fun (k, a) =>
    match a with
    | .text s => if k == id then some s else none
    | _ => none

def count (v : Values) (id : String) : Nat :=
  (v.given.findSome? fun (k, a) =>
    match a with
    | .count n => if k == id then some n else none
    | _ => none).getD 0

/-- The number given for an option (or its default), else 0. -/
def number (v : Values) (id : String) : F64 :=
  (v.given.findSome? fun (k, a) =>
    match a with
    | .number x => if k == id then some x else none
    | _ => none).getD 0

def flag (v : Values) (id : String) : Bool :=
  v.given.any fun (k, a) => k == id && a matches .flag

def chain (v : Values) : ChainArgs := ⟨v.text? "chain", v.texts "effects", v.count "seed"⟩

end Values

def Invocation.ofValues (sub : String) (given : List (String × ArgValue)) : Invocation :=
  let v : Values := ⟨given⟩
  let action : Action := match sub with
    | "render" => .render ((v.text? "input").getD "") ((v.text? "output").getD "") (v.count "frame") v.chain
    | "composite" => .composite ((v.text? "layers").getD "") ((v.text? "output").getD "") (v.count "seed")
    | "preview" => .preview ((v.text? "input").getD "") (v.count "frames") (v.number "fps") (v.text? "shm") v.chain
    | "export" => .export ((v.text? "input").getD "") ((v.text? "output").getD "") v.chain
    | _ => .effects (v.flag "json")
  ⟨v.text? "config", v.flag "verbose", action⟩

/-- What a command line comes to: an invocation, or a text to print and an exit status. -/
inductive Reading where
  | run (i : Invocation)
  | show (text : String)
  | refuse (text : String) (status : Nat)

def readCommandLine (words : List String) : Reading :=
  match glitchframe.read words with
  | .run sub given => .run (Invocation.ofValues sub given)
  | .show text => .show text
  | .refuse text status => .refuse text status

end Glitch.Cli
