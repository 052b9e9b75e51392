import Glitch.Ring.Header
import Glitch.Codec.Frame
/-!
Writing frames into a ring file and reading them back.

The writer owns the file's bytes and keeps its own copy of the header; each write stores the
payload in the next slot and then rewrites the header. A reader looks only at the bytes: it checks
on opening that the file holds the header and every slot the header describes, and reads the
header again on every call.
-/
namespace Glitch.Ring

def zeros (n : Nat) : ByteArray :=
  Nat.fold n (fun _ _ acc => acc.push 0) (ByteArray.emptyWithCapacity n)

def overwrite (file : ByteArray) (start : Nat) (bytes : ByteArray) : ByteArray :=
  bytes.copySlice 0 file start bytes.size

/-- The writing side of a ring: its path, the file's bytes and the header last written. -/
structure Writer where
  path : String
  file : ByteArray
  header : Header

namespace Writer

/-- Create the ring file at `path`, replacing any file there: the header of a fresh ring and zeroed
slots. -/
def create (path : String) (slotCount slotSize : UInt32) : Outcome Writer := do
  validateGeometry slotCount.toNat slotSize.toNat
  let header := Header.fresh slotCount slotSize
  let file := overwrite (zeros (totalSize slotCount.toNat slotSize.toNat)) 0 ⟨header.toBytes.toArray⟩
  pure ⟨path, file, header⟩

/-- Store an encoded frame of the given size in the next slot, and answer the slot. A payload that
does not fit beside the length leaves the ring as it was. -/
def writeEncoded (w : Writer) (payload : ByteArray) (width height : UInt32) : Outcome (Nat × Writer) :=
  let size := w.header.slotSize
  if payload.size + prefixSize > size.toNat then .error (.ring (.frameTooLarge payload.size size.toNat))
  else
    let slot := (w.header.writeIndex % w.header.slotCount).toNat
    let offset := w.header.slotOffset slot
    let file := overwrite w.file offset ⟨(wordBytes payload.size.toUInt32).toArray⟩
    let file := overwrite file (offset + prefixSize) payload
    let header := { w.header with
      writeIndex := w.header.writeIndex + 1
      frameCount := w.header.frameCount + 1
      width := width
      height := height }
    .ok (slot, { w with file := overwrite file 0 ⟨header.toBytes.toArray⟩, header := header })

def writeFrame (w : Writer) (f : Frame) (quality : Nat) : Outcome (Nat × Writer) := do
  let bytes ← encodeFrame f quality
  w.writeEncoded ⟨bytes.toArray⟩ f.width.toUInt32 f.height.toUInt32

end Writer

structure Reader where
  file : ByteArray

namespace Reader

def header (r : Reader) : Outcome Header :=
  match Header.ofBytes? r.file with
  | some h => .ok h
  | none => .error (.ring (.corrupt ("file shorter than the " ++ toString headerSize ++ "-byte header")))

/-- Open the ring in these bytes: they must hold a header with slots and every slot it
describes. -/
def openBytes (file : ByteArray) : Outcome Reader := do
  let h ← header ⟨file⟩
  if h.slotCount = 0 ∨ file.size < h.totalSize then
    .error (.ring (.corrupt ("mapping is " ++ toString file.size ++ " bytes, header describes " ++
      toString h.slotCount.toNat ++ " slots of " ++ toString h.slotSize.toNat ++ " bytes")))
  else pure ⟨file⟩

def readSlot (r : Reader) (i : Nat) : Outcome ByteArray := do
  let h ← r.header
  if i ≥ h.slotCount.toNat then
    .error (.ring (.corrupt ("slot " ++ toString i ++ " out of range (" ++ toString h.slotCount.toNat ++ " slots)")))
  else
    let offset := h.slotOffset i
    if offset + prefixSize > r.file.size then
      .error (.ring (.corrupt ("slot " ++ toString i ++ " lies outside the mapping")))
    else
      let len := (wordAt r.file offset).toNat
      if len + prefixSize > h.slotSize.toNat then
        .error (.ring (.corrupt ("slot " ++ toString i ++ " length " ++ toString len ++
          " exceeds slot size " ++ toString h.slotSize.toNat)))
      else if offset + prefixSize + len > r.file.size then
        .error (.ring (.corrupt ("slot " ++ toString i ++ " payload lies outside the mapping")))
      else pure (r.file.extract (offset + prefixSize) (offset + prefixSize + len))

def readLatest (r : Reader) : Outcome (Option ByteArray) := do
  match (← r.header).latestSlot? with
  | some slot => some <$> r.readSlot slot
  | none => pure none

end Reader

end Glitch.Ring
