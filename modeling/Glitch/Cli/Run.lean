import Glitch.Cli.Program
import Glitch.Cli.LogFilter
import Glitch.Cli.Stack
import Glitch.Config.File
import Glitch.Codec.Image
import Glitch.Ring.Store
import Glitch.Export.Manager
import Glitch.Video.Transcoder
import Glitch.Effect.Registry
/-!
Running the command line on a machine.

A run reads its words; help, the version and usage errors are printed at once. Otherwise it
chooses which log lines to print, loads and checks the configuration, and carries out the
subcommand. A failure is printed as `Error: ` with its message and, below `Caused by:`, the
messages it wraps, and the run ends with status 1.

The machine is a record of the operations a run needs (files, the environment, the output
streams and the video tools), over any monad, so the same run works on a directory tree held in
memory and on a real one.
-/
namespace Glitch.Cli

/-- What a run needs from the machine it runs on. -/
structure Machine (m : Type → Type) where
  /-- The environment variables. -/
  environment : m Env
  /-- Read a whole file. -/
  readFile : String → m (Except IoError ByteArray)
  /-- Create or replace a file; its directory must exist. -/
  writeFile : String → ByteArray → m (Except IoError Unit)
  /-- Make a directory and every missing one above it. -/
  createDirAll : String → m (Except IoError Unit)
  /-- Write text to standard output. -/
  print : String → m Unit
  /-- Write text to standard error. -/
  report : String → m Unit
  /-- Print a log line. -/
  log : LogLine → m Unit
  /-- Whether the video tools can be started. -/
  hasTranscoder : m Bool
  /-- Run one export to its end with the video tools: the final snapshot or the reason it could
  not start, and the lines the export logged. -/
  exportVideo : Transcoder → Registry → ExportRequest → m (Outcome ExportSnapshot × List LogLine)

/-- A failure of a run as printed: a message and the messages it wraps, outermost first. -/
structure Trouble where
  message : String
  causes : List String

namespace Trouble

def plain (message : String) : Trouble := ⟨message, []⟩

def ofError (e : GlitchError) : Trouble := ⟨e.message, e.causes⟩

def ofIo (e : IoError) : Trouble := ⟨e.text, []⟩

def ofImage (e : ImageError) : Trouble := ⟨e.message, e.causes⟩

def within (context : String) (t : Trouble) : Trouble := ⟨context, t.message :: t.causes⟩

def indentLines (first rest s : String) : String :=
  match s.splitOn "\n" with
  | [] => first
  | l :: ls => first ++ l ++ String.join (ls.map fun x => "\n" ++ rest ++ x)

def numberColumn (n : Nat) : String :=
  let s := toString n
  String.ofList (List.replicate (5 - s.length) ' ') ++ s

def render (t : Trouble) : String :=
  "Error: " ++ t.message ++
  (match t.causes with
    | [] => ""
    | [c] => "\n\nCaused by:\n" ++ indentLines "    " "    " c
    | cs => "\n\nCaused by:" ++
      String.join (cs.zipIdx.map fun (c, i) => "\n" ++ indentLines (numberColumn i ++ ": ") "       " c)) ++
  "\n"

end Trouble

/-- What a run works with once the command line is read: the log directives, the settings, the
environment and the effects. -/
structure Setting where
  directives : List Directive
  config : Config
  env : Env
  registry : Registry

def programTarget : String := "glitchframe"

def programInfo (message : String) : LogLine := ⟨.info, programTarget, message⟩

section Steps

variable {m : Type → Type} [Monad m]

abbrev RunM (m : Type → Type) (α : Type) := ExceptT Trouble m α

def say (mc : Machine m) (st : Setting) (l : LogLine) : RunM m Unit :=
  if allows st.directives l then liftM (mc.log l) else pure ()

def sayAll (mc : Machine m) (st : Setting) (ls : List LogLine) : RunM m Unit :=
  ls.forM (say mc st)

def orFail {ε α : Type} (r : Except ε α) (f : ε → Trouble) : RunM m α :=
  match r with
  | .ok a => pure a
  | .error e => throw (f e)

def readText (mc : Machine m) (path : String) : m (Except IoError String) := do
  match ← mc.readFile path with
  | .error e => pure (.error e)
  | .ok bs =>
    match String.fromUTF8? bs with
    | some s => pure (.ok s)
    | none => pure (.error (IoError.os .invalidData))

/-- The chain the options describe: the chain file's entries, then the named effects. -/
def loadChain (mc : Machine m) (args : ChainArgs) : RunM m (List EffectInstance) := do
  let fromFile ← match args.file with
    | none => pure []
    | some p => do
      let text ← orFail (← liftM (readText mc p)) fun e => (Trouble.ofIo e).within ("reading chain file " ++ p)
      orFail (readJsonText text decodeChain) fun msg => (Trouble.plain msg).within ("parsing chain file " ++ p)
  pure (fromFile ++ args.effects.map EffectInstance.ofId)

def openImageAt (mc : Machine m) (path : String) : RunM m Frame := do
  let contents ← liftM (mc.readFile path)
  orFail (readImage path contents) fun e => (Trouble.ofImage e).within ("opening image " ++ path)

/-- Save a frame to an image file whose format the extension names. The file is created before
the frame is encoded, so a frame the format refuses leaves it empty. -/
def saveImageAt (mc : Machine m) (path : String) (f : Frame) : m (Except ImageError Unit) := do
  match imageFormatOf path with
  | .error e => pure (.error e)
  | .ok fmt =>
    match ← mc.writeFile path ByteArray.empty with
    | .error e => pure (.error (.io e))
    | .ok () =>
      match encodeImage f fmt with
      | .error e => pure (.error e)
      | .ok bs => (fun r => r.mapError ImageError.io) <$> mc.writeFile path bs

def writeOutput (mc : Machine m) (path : String) (f : Frame) : RunM m Unit := do
  orFail (← liftM (saveImageAt mc path f)) fun e => (Trouble.ofImage e).within ("writing " ++ path)

def isJpegPath (path : String) : Bool :=
  match extensionOf path with
  | some ext => ext.toLower == "jpg" || ext.toLower == "jpeg"
  | none => false

def runChain (mc : Machine m) (st : Setting) (ctx : ChainContext) (f : Frame) (chain : List EffectInstance) :
    RunM m (Frame × EffectStates) := do
  let (r, lines) := Chain.applyLogged ctx f chain
  sayAll mc st lines
  orFail r Trouble.ofError

def encodedLine (quality size maxBytes : Nat) : LogLine :=
  ⟨.debug, "glitchframe::video::encoder", withFields "frame encoded"
    [("quality", toString quality), ("size", toString size), ("max_bytes", toString maxBytes)]⟩

/-- `render`: a chain over one image, saved as PNG, or as JPEG within the encoder's budget when
the output's extension asks for it. -/
def render (mc : Machine m) (st : Setting) (input output : String) (frameIndex : Nat) (args : ChainArgs) :
    RunM m Unit := do
  let chain ← loadChain mc args
  let frame ← openImageAt mc input
  let (result, _) ← runChain mc st ⟨st.registry, args.seed, frameIndex, frame.dims, EffectStates.empty⟩ frame chain
  if isJpegPath output then
    let enc := st.config.encoder
    let (bytes, quality) ← orFail (encodeFit result enc.maxFrameBytes enc.qualityLadder) Trouble.ofError
    say mc st (encodedLine quality bytes.length enc.maxFrameBytes)
    orFail (← liftM (mc.writeFile output ⟨bytes.toArray⟩)) fun e => (Trouble.ofIo e).within ("writing " ++ output)
    say mc st (programInfo ("Encoded " ++ toString bytes.length ++ " bytes at quality " ++ toString quality))
  else
    writeOutput mc output result
  say mc st (programInfo ("Rendered " ++ toString chain.length ++ " effects into " ++ output))

/-- `composite`: the layers of a stack file, their images found beside it, rendered at the
stack's size or the first layer's. -/
def composite (mc : Machine m) (st : Setting) (layersPath output : String) (seed : Nat) : RunM m Unit := do
  let text ← orFail (← liftM (readText mc layersPath)) fun e =>
    (Trouble.ofIo e).within ("reading layer stack " ++ layersPath)
  let (stack, warnings) ← orFail (readJsonText text LayerStack.decode) Trouble.plain
  sayAll mc st warnings
  let base := parentPath layersPath
  let layers ← stack.layers.mapM fun e => do
    let f ← openImageAt mc (joinPath base e.image)
    pure (e.settings.toLayer f)
  let resolution ← match stack.resolution, layers.head? with
    | some r, _ => pure r
    | none, some l => pure l.frame.dims
    | none, none => throw (Trouble.plain "layer stack is empty and has no resolution")
  let (r, lines) := Composite.renderLogged st.registry layers resolution seed
  sayAll mc st lines
  let result ← orFail r Trouble.ofError
  writeOutput mc output result
  say mc st (programInfo ("Composited " ++ toString layers.length ++ " layers into " ++ output))

def ringTarget : String := "glitchframe::transport::writer"

def createRing (mc : Machine m) (st : Setting) (path : String) : RunM m Ring.Writer := do
  let c := st.config.ring
  let w ← orFail (Ring.Writer.create path c.slotCount.toUInt32 c.slotSize.toUInt32) Trouble.ofError
  let parent := parentPath path
  if !parent.isEmpty then
    orFail (← liftM (mc.createDirAll parent)) fun e => Trouble.ofError (.io e)
  orFail (← liftM (mc.writeFile path w.file)) fun e => Trouble.ofError (.io e)
  say mc st ⟨.info, ringTarget, "Created frame ring buffer at " ++ path ++ " (" ++ toString c.slotCount ++
    " slots x " ++ toString c.slotSize ++ " bytes)"⟩
  pure w

/-- Encode a frame and store it in the ring's next slot, keeping the file in step. A frame that
does not fit is dropped with a warning. -/
def writePreviewFrame (mc : Machine m) (st : Setting) (w : Ring.Writer) (index : Nat) (f : Frame) :
    RunM m Ring.Writer := do
  let stored : Outcome (Nat × Nat × Ring.Writer) := do
    let bytes ← encodeFrame f st.config.ring.quality
    let (slot, w') ← Ring.Writer.writeEncoded w ⟨bytes.toArray⟩ f.width.toUInt32 f.height.toUInt32
    pure (slot, bytes.length, w')
  match stored with
  | .error e =>
    say mc st ⟨.warn, programTarget, "Dropping preview frame " ++ toString index ++ ": " ++ e.message⟩
    pure w
  | .ok (slot, size, w') =>
    let _ ← liftM (mc.writeFile w'.path w'.file)
    say mc st ⟨.debug, ringTarget, withFields "frame written to ring buffer"
      [("slot", toString slot), ("size", toString size), ("write_index", toString w'.header.writeIndex.toNat)]⟩
    pure w'

/-- Render the preview frames from `index` on, `count` of them, each with the states the one
before left. -/
def previewFrames (mc : Machine m) (st : Setting) (frame : Frame) (chain : List EffectInstance) (seed : Nat) :
    Nat → Nat → Ring.Writer → EffectStates → RunM m Ring.Writer
  | 0, _, w, _ => pure w
  | count + 1, index, w, states => do
    let (out, next) ← runChain mc st ⟨st.registry, seed, index, frame.dims, states⟩ frame chain
    let w ← writePreviewFrame mc st w index out
    previewFrames mc st frame chain seed count (index + 1) w next

/-- `preview`: the chain's output for frames 0, 1, ... of one image, streamed into the preview
ring (the path given, else the configured one, else the default place). -/
def preview (mc : Machine m) (st : Setting) (input : String) (frames : Nat) (shm : Option String)
    (args : ChainArgs) : RunM m Unit := do
  let chain ← loadChain mc args
  let frame ← openImageAt mc input
  let path := shm.getD (st.config.ring.resolvePath st.env)
  let w ← createRing mc st path
  let _ ← previewFrames mc st frame chain args.seed frames 0 w EffectStates.empty
  say mc st (programInfo ("Wrote " ++ toString frames ++ " preview frames to " ++ path))

/-- `export`: a whole video through the chain with the video tools, waiting for the end. -/
def exportVideo (mc : Machine m) (st : Setting) (input output : String) (args : ChainArgs) : RunM m Unit := do
  if !(← liftM mc.hasTranscoder) then throw (Trouble.plain "ffmpeg was not found on PATH")
  let chain ← loadChain mc args
  let t : Transcoder := ⟨st.config.exporting.codec, st.config.exporting.fallbackFps⟩
  let (r, lines) ← liftM (mc.exportVideo t st.registry ⟨input, output, chain, args.seed⟩)
  sayAll mc st lines
  let snap ← orFail r Trouble.ofError
  match snap.status with
  | .complete => say mc st (programInfo ("Export complete! Output saved to: " ++ quoteDebug output))
  | s => throw (Trouble.plain ("export finished with status " ++ s.name ++ " (" ++ snap.error.getD "" ++ ")"))

def rangeText (p : ParamSpec) : String :=
  match p.min, p.max with
  | some lo, some hi => lo.toPlainText ++ ".." ++ hi.toPlainText
  | _, _ => "|".intercalate p.choices

def effectListing (reg : Registry) : String :=
  String.join (reg.infos.map fun i =>
    padRight i.id 18 ++ " " ++ padRight i.name 16 ++ " " ++ i.description ++ "\n" ++
    String.join (i.params.map fun p =>
      "    " ++ padRight p.name 20 ++ " " ++ padRight (rangeText p) 12 ++ " default " ++ p.default.toJson.renderWith JsonNumber.renderSingle ++ "\n"))

/-- `effects`: the listing, or the effects' descriptions as pretty JSON. Parameter bounds and
defaults are binary32 values, written with the shortest binary32 digits. -/
def listEffects (mc : Machine m) (reg : Registry) (json : Bool) : RunM m Unit :=
  if json then liftM (mc.print (Json.prettyWith JsonNumber.renderSingle 0 (.arr (reg.infos.map EffectInfo.toJson)) ++ "\n"))
  else liftM (mc.print (effectListing reg))

def loadConfig (mc : Machine m) (st : Setting) (path : Option String) : RunM m Config :=
  match path with
  | none => pure Config.default
  | some p => do
    say mc st (programInfo ("Loading configuration from " ++ quoteDebug p))
    let contents ← liftM (readText mc p)
    orFail (Config.load p (match contents with
      | .ok text => some text
      | .error _ => none)) Trouble.ofError

def perform (mc : Machine m) (st : Setting) : Action → RunM m Unit
  | .effects json => listEffects mc st.registry json
  | .render input output frame chain => render mc st input output frame chain
  | .composite layers output seed => composite mc st layers output seed
  | .preview input frames _ shm chain => preview mc st input frames shm chain
  | .export input output chain => exportVideo mc st input output chain

/-- Run a read command line: choose the log lines, load and check the settings, carry out the
subcommand. A failure is reported and gives status 1. -/
def runInvocation (mc : Machine m) (inv : Invocation) : m Nat := do
  let env ← mc.environment
  let st : Setting := ⟨logDirectives (env.get? "RUST_LOG") inv.verbose, Config.default, env, Registry.builtin⟩
  let r ← (do
    let config ← loadConfig mc st inv.config
    orFail config.validate Trouble.ofError
    perform mc { st with config := config } inv.action : RunM m Unit).run
  match r with
  | .ok () => pure 0
  | .error t => do
    mc.report t.render
    pure 1

def runProgram (mc : Machine m) (words : List String) : m Nat :=
  match readCommandLine words with
  | .show text => do
    mc.print text
    pure 0
  | .refuse text status => do
    mc.report text
    pure status
  | .run inv => runInvocation mc inv

end Steps

end Glitch.Cli
