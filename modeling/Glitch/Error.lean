/-!
Failures of the library, one inductive type per area and `GlitchError` over them. Each failure
has one message (`message`), a category and variant name, whether retrying can help
(`recoverable`), a message for people (`userMessage`), and the chain of underlying causes that
a command line prints below it (`causes`).
-/
namespace Glitch

def showDims (d : Nat × Nat) : String := "(" ++ toString d.1 ++ ", " ++ toString d.2 ++ ")"

/-- Kinds of failure of files and child programs. -/
inductive IoKind where
  | notFound
  | alreadyExists
  | notADirectory
  | isADirectory
  | permissionDenied
  | brokenPipe
  | unexpectedEof
  | invalidData
  | other
  deriving DecidableEq, Repr

def IoKind.name : IoKind → String
  | .notFound => "NotFound"
  | .alreadyExists => "AlreadyExists"
  | .notADirectory => "NotADirectory"
  | .isADirectory => "IsADirectory"
  | .permissionDenied => "PermissionDenied"
  | .brokenPipe => "BrokenPipe"
  | .unexpectedEof => "UnexpectedEof"
  | .invalidData => "InvalidData"
  | .other => "Other"

/-- A failure of the file system or of a child program, with its text. -/
structure IoError where
  kind : IoKind
  text : String
  deriving DecidableEq, Repr

def IoError.os (kind : IoKind) : IoError :=
  ⟨kind, match kind with
    | .notFound => "No such file or directory (os error 2)"
    | .alreadyExists => "File exists (os error 17)"
    | .notADirectory => "Not a directory (os error 20)"
    | .isADirectory => "Is a directory (os error 21)"
    | .permissionDenied => "Permission denied (os error 13)"
    | .brokenPipe => "Broken pipe (os error 32)"
    | .unexpectedEof => "failed to fill whole buffer"
    | .invalidData => "stream did not contain valid UTF-8"
    | .other => "other error"⟩

/-- Failures of effect chains as a whole. -/
inductive PipelineError where
  | chainTooDeep (depth max : Nat)
  | unknownEffect (id : String)
  deriving DecidableEq, Repr

/-- Failures of one effect run. -/
inductive EffectError where
  | invalidParameter (effect name reason : String)
  | outputShape (effect : String) (expected actual : Nat × Nat)
  | maskShape (effect : String) (expected actual : Nat × Nat)
  | failed (effect reason : String)
  deriving DecidableEq, Repr

/-- Failures of layer compositing. -/
inductive CompositionError where
  | layerSize (index : Nat) (expected actual : Nat × Nat)
  | unknownBlendMode (name : String)
  deriving DecidableEq, Repr

/-- Failures of the frame encoder. -/
inductive EncodeError where
  | invalidQuality (quality : Nat)
  | emptyLadder
  | overflow (smallest quality maxBytes : Nat)
  | codec (reason : String)
  deriving DecidableEq, Repr

/-- Failures of the frame ring. -/
inductive RingError where
  | invalidGeometry (details : String)
  | frameTooLarge (size slotSize : Nat)
  | corrupt (details : String)
  deriving DecidableEq, Repr

inductive ExportError where
  | conflict
  deriving DecidableEq, Repr

/-- Failures of video files. -/
inductive VideoError where
  | openFailed (path : String)
  | decodingFailed (reason : String)
  | encodingFailed (reason : String)
  | frameOutOfRange (index total : Nat)
  deriving DecidableEq, Repr

/-- Failures of configuration. -/
inductive ConfigError where
  | parseFailed (path : String)
  | invalidValue (key value : String)
  | missingKey (key : String)
  | fileNotFound (path : String)
  deriving DecidableEq, Repr

/-- Any failure of the library. -/
inductive GlitchError where
  | pipeline (e : PipelineError)
  | effect (e : EffectError)
  | composition (e : CompositionError)
  | encode (e : EncodeError)
  | ring (e : RingError)
  | export (e : ExportError)
  | video (e : VideoError)
  | config (e : ConfigError)
  | io (e : IoError)
  | generic (message : String)
  deriving DecidableEq, Repr

def PipelineError.message : PipelineError → String
  | .chainTooDeep d m => "Chain depth " ++ toString d ++ " exceeds maximum " ++ toString m
  | .unknownEffect id => "Unknown effect: " ++ id

def EffectError.message : EffectError → String
  | .invalidParameter e n r => "Invalid parameter for " ++ e ++ ": " ++ n ++ " - " ++ r
  | .outputShape e x a => "Effect " ++ e ++ " returned a " ++ showDims a ++ " frame, expected " ++ showDims x
  | .maskShape e x a => "Mask for " ++ e ++ " is " ++ showDims a ++ ", frame is " ++ showDims x
  | .failed e r => "Effect application failed: " ++ e ++ " - " ++ r

def CompositionError.message : CompositionError → String
  | .layerSize i x a => "Layer " ++ toString i ++ " is " ++ showDims a ++ ", canvas is " ++ showDims x
  | .unknownBlendMode n => "Unknown blend mode: " ++ n

def EncodeError.message : EncodeError → String
  | .invalidQuality q => "Invalid encoder quality: " ++ toString q ++ " (expected 1-100)"
  | .emptyLadder => "Quality ladder is empty"
  | .overflow s q m => "Frame does not fit in " ++ toString m ++ " bytes: smallest attempt was " ++
      toString s ++ " bytes at quality " ++ toString q
  | .codec r => "Codec failure: " ++ r

def RingError.message : RingError → String
  | .invalidGeometry d => "Invalid ring buffer geometry: " ++ d
  | .frameTooLarge s z => "Encoded frame (" ++ toString s ++ " bytes) exceeds slot size (" ++ toString z ++ ")"
  | .corrupt d => "Ring buffer is corrupt: " ++ d

def ExportError.message : ExportError → String
  | .conflict => "Export already in progress"

def VideoError.message : VideoError → String
  | .openFailed p => "Failed to open video: " ++ p
  | .decodingFailed r => "Video decoding failed: " ++ r
  | .encodingFailed r => "Video encoding failed: " ++ r
  | .frameOutOfRange i t => "Frame " ++ toString i ++ " out of range (video has " ++ toString t ++ " frames)"

def ConfigError.message : ConfigError → String
  | .parseFailed p => "Failed to parse configuration file: " ++ p
  | .invalidValue k v => "Invalid configuration value: " ++ k ++ " = " ++ v
  | .missingKey k => "Missing required configuration: " ++ k
  | .fileNotFound p => "Configuration file not found: " ++ p

namespace GlitchError

def message : GlitchError → String
  | .pipeline e => "Pipeline error: " ++ e.message
  | .effect e => "Effect error: " ++ e.message
  | .composition e => "Composition error: " ++ e.message
  | .encode e => "Encoding error: " ++ e.message
  | .ring e => "Ring buffer error: " ++ e.message
  | .export e => "Export error: " ++ e.message
  | .video e => "Video processing error: " ++ e.message
  | .config e => "Configuration error: " ++ e.message
  | .io e => "IO error: " ++ e.text
  | .generic m => "Generic error: " ++ m

def causes : GlitchError → List String
  | .pipeline e => [e.message]
  | .effect e => [e.message]
  | .composition e => [e.message]
  | .encode e => [e.message]
  | .ring e => [e.message]
  | .export e => [e.message]
  | .video e => [e.message]
  | .config e => [e.message]
  | .io e => [e.text]
  | .generic _ => []

def category : GlitchError → String
  | .pipeline _ => "PipelineError"
  | .effect _ => "EffectError"
  | .composition _ => "CompositionError"
  | .encode _ => "EncodeError"
  | .ring _ => "RingBufferError"
  | .export _ => "ExportError"
  | .video _ => "VideoError"
  | .config _ => "ConfigError"
  | .io _ => "IoError"
  | .generic _ => "GenericError"

def variant : GlitchError → String
  | .pipeline (.chainTooDeep ..) => "ChainTooDeep"
  | .pipeline (.unknownEffect ..) => "UnknownEffect"
  | .effect (.invalidParameter ..) => "InvalidParameter"
  | .effect (.outputShape ..) => "OutputShape"
  | .effect (.maskShape ..) => "MaskShape"
  | .effect (.failed ..) => "Failed"
  | .composition (.layerSize ..) => "LayerSize"
  | .composition (.unknownBlendMode ..) => "UnknownBlendMode"
  | .encode (.invalidQuality ..) => "InvalidQuality"
  | .encode .emptyLadder => "EmptyLadder"
  | .encode (.overflow ..) => "Overflow"
  | .encode (.codec ..) => "Codec"
  | .ring (.invalidGeometry ..) => "InvalidGeometry"
  | .ring (.frameTooLarge ..) => "FrameTooLarge"
  | .ring (.corrupt ..) => "Corrupt"
  | .export .conflict => "Conflict"
  | .video (.openFailed ..) => "OpenFailed"
  | .video (.decodingFailed ..) => "DecodingFailed"
  | .video (.encodingFailed ..) => "EncodingFailed"
  | .video (.frameOutOfRange ..) => "FrameOutOfRange"
  | .config (.parseFailed ..) => "ParseFailed"
  | .config (.invalidValue ..) => "InvalidValue"
  | .config (.missingKey ..) => "MissingKey"
  | .config (.fileNotFound ..) => "FileNotFound"
  | .io _ => "Io"
  | .generic _ => "Generic"

def recoverable : GlitchError → Bool
  | .io _ => true
  | .pipeline (.chainTooDeep ..) => true
  | .encode (.overflow ..) => true
  | .export .conflict => true
  | .video (.openFailed ..) => true
  | _ => false

def userMessage : GlitchError → String
  | .pipeline (.chainTooDeep d m) =>
    "The effect chain has " ++ toString d ++ " effects; remove some to stay within " ++ toString m ++ "."
  | .pipeline (.unknownEffect id) =>
    "Effect '" ++ id ++ "' is not available. Run `glitchframe effects` to list effects."
  | .encode (.overflow _ _ m) =>
    "The frame cannot be compressed below " ++ toString m ++ " bytes; lower the resolution or raise the budget."
  | .export .conflict => "An export is already running. Cancel it or wait for it to finish."
  | .config (.fileNotFound p) => "Configuration file '" ++ p ++ "' not found."
  | e => e.message

end GlitchError

abbrev Outcome (α : Type) := Except GlitchError α

end Glitch
