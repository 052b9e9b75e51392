import Glitch.Config.Basic
import Glitch.Toml.Document
import Glitch.Toml.Print
/-!
The configuration file: settings read from TOML text and written back as TOML.

Every section and every key may be left out and takes its default; keys the settings do not know
are passed over. A section may also be given as an array, whose items fill the section's keys in
order, or as a date-time, which gives every key its default. A key of the wrong type or out of
range makes the whole file unreadable.

The written file has the four sections in order, the ring path only when set.
-/
namespace Glitch

namespace Toml

/-- The entries a section reads: a table's entries by key, an array's items by position, nothing
from a date-time. -/
def sectionEntries (names : List String) : Value → Except String (List (String × Value))
  | .table kvs _ _ => .ok kvs
  | .inline kvs _ => .ok kvs
  | .array xs => .ok (names.zip xs)
  | .tables ts => .ok (names.zip ts)
  | .datetime _ => .ok []
  | _ => .error "expected a table"

def entryOr {α : Type} (kvs : List (String × Value)) (name : String) (read : Value → Except String α)
    (d : α) : Except String α :=
  match lookup name kvs with
  | some v => read v
  | none => .ok d

def natUpTo (bound : Nat) : Value → Except String Nat
  | .int i => if 0 ≤ i && i ≤ bound then .ok i.toNat else .error "integer out of range"
  | _ => .error "expected an integer"

def text : Value → Except String String
  | .str s => .ok s
  | _ => .error "expected a string"

def number : Value → Except String F64
  | .float x => .ok x
  | .int i => .ok (Binary.ofInt i)
  | _ => .error "expected a float"

def byteList : Value → Except String (List Nat)
  | .array xs => xs.mapM (natUpTo 255)
  | .tables ts => ts.mapM (natUpTo 255)
  | _ => .error "expected an array"

end Toml

open Toml in
def Config.ofToml (root : Toml.Value) : Except String Config := do
  let d := Config.default
  let top ← sectionEntries ["pipeline", "encoder", "ring_buffer", "export"] root
  let pipeline ← entryOr top "pipeline" (fun v => do
    let kvs ← sectionEntries ["slow_effect_warn_ms"] v
    pure ⟨← entryOr kvs "slow_effect_warn_ms" (natUpTo (Nat.pow 2 64 - 1)) d.pipeline.slowEffectWarnMs⟩) d.pipeline
  let encoder ← entryOr top "encoder" (fun v => do
    let kvs ← sectionEntries ["quality_ladder", "max_frame_bytes"] v
    pure ⟨← entryOr kvs "quality_ladder" byteList d.encoder.qualityLadder,
      ← entryOr kvs "max_frame_bytes" (natUpTo (Nat.pow 2 64 - 1)) d.encoder.maxFrameBytes⟩) d.encoder
  let ring ← entryOr top "ring_buffer" (fun v => do
    let kvs ← sectionEntries ["path", "slot_count", "slot_size", "quality"] v
    pure ⟨← entryOr kvs "path" (fun v => some <$> text v) d.ring.path,
      ← entryOr kvs "slot_count" (natUpTo (Nat.pow 2 32 - 1)) d.ring.slotCount,
      ← entryOr kvs "slot_size" (natUpTo (Nat.pow 2 32 - 1)) d.ring.slotSize,
      ← entryOr kvs "quality" (natUpTo 255) d.ring.quality⟩) d.ring
  let exporting ← entryOr top "export" (fun v => do
    let kvs ← sectionEntries ["codec", "fallback_fps"] v
    pure ⟨← entryOr kvs "codec" text d.exporting.codec,
      ← entryOr kvs "fallback_fps" number d.exporting.fallbackFps⟩) d.exporting
  pure ⟨pipeline, encoder, ring, exporting⟩

def Config.ofText (text : String) : Except String Config :=
  match Toml.parse text with
  | .ok root => Config.ofToml root
  | .error e => .error e.reason

def Config.toText (c : Config) : String :=
  Toml.render []
    [("pipeline", [("slow_effect_warn_ms", .int c.pipeline.slowEffectWarnMs)]),
     ("encoder", [("quality_ladder", .array (c.encoder.qualityLadder.map fun (q : Nat) => Toml.Value.int (Int.ofNat q))),
       ("max_frame_bytes", .int c.encoder.maxFrameBytes)]),
     ("ring_buffer", (match c.ring.path with | some p => [("path", .str p)] | none => []) ++
       [("slot_count", .int c.ring.slotCount), ("slot_size", .int c.ring.slotSize),
        ("quality", .int c.ring.quality)]),
     ("export", [("codec", .str c.exporting.codec), ("fallback_fps", .float c.exporting.fallbackFps)])]

/-- Equal settings, comparing the frame rate as a number: a NaN rate equals nothing. -/
def Config.sameAs (a b : Config) : Bool :=
  a.pipeline == b.pipeline && a.encoder == b.encoder && a.ring == b.ring &&
    a.exporting.codec == b.exporting.codec && a.exporting.fallbackFps.eq b.exporting.fallbackFps

/-- Settings from the file at `path`, whose contents are given when it exists. -/
def Config.load (path : String) (contents : Option String) : Outcome Config :=
  match contents with
  | none => .error (.config (.fileNotFound path))
  | some text =>
    match Config.ofText text with
    | .ok c => .ok c
    | .error _ => .error (.config (.parseFailed path))

/-- Whether settings read back equal to themselves after being written. -/
def Config.roundTrips (c : Config) : Bool :=
  match Config.ofText c.toText with
  | .ok c' => c'.sameAs c
  | .error _ => false

end Glitch
