import Glitch.Error
/-!
The layout of a frame ring file: a header of sixteen little-endian 32-bit words, then `slotCount`
slots of `slotSize` bytes each. Slot `i` starts at byte `64 + i * slotSize` and holds a 32-bit
little-endian payload length followed by the payload.

The header counts the frames written; the next write goes to slot `writeIndex % slotCount`, so the
latest frame sits in slot `(writeIndex - 1) % slotCount`.
-/
namespace Glitch.Ring

def headerSize : Nat := 64

def prefixSize : Nat := 4

/-- The header of a ring file. -/
structure Header where
  writeIndex : UInt32
  frameCount : UInt32
  slotSize : UInt32
  slotCount : UInt32
  width : UInt32
  height : UInt32
  reserved : Vector UInt32 10
  deriving DecidableEq, Repr

def wordBytes (w : UInt32) : List UInt8 :=
  [w.toUInt8, (w >>> 8).toUInt8, (w >>> 16).toUInt8, (w >>> 24).toUInt8]

def byteAt (bs : ByteArray) (i : Nat) : UInt8 := if h : i < bs.size then bs[i] else 0

def wordAt (bs : ByteArray) (i : Nat) : UInt32 :=
  (byteAt bs i).toUInt32 ||| ((byteAt bs (i + 1)).toUInt32 <<< 8) |||
    ((byteAt bs (i + 2)).toUInt32 <<< 16) ||| ((byteAt bs (i + 3)).toUInt32 <<< 24)

namespace Header

/-- A fresh header for a geometry, with every counter zero. -/
def fresh (slotCount slotSize : UInt32) : Header :=
  ⟨0, 0, slotSize, slotCount, 0, 0, Vector.replicate 10 0⟩

def words (h : Header) : List UInt32 :=
  [h.writeIndex, h.frameCount, h.slotSize, h.slotCount, h.width, h.height] ++ h.reserved.toList

def toBytes (h : Header) : List UInt8 := h.words.flatMap wordBytes

/-- The header stored in the first 64 bytes; `none` when there are fewer. -/
def ofBytes? (bs : ByteArray) : Option Header :=
  if bs.size < headerSize then none
  else
    some ⟨wordAt bs 0, wordAt bs 4, wordAt bs 8, wordAt bs 12, wordAt bs 16, wordAt bs 20,
      Vector.ofFn (fun (i : Fin 10) => wordAt bs (24 + 4 * i.val))⟩

/-- The slot of the latest write; `none` before the first write or without slots. -/
def latestSlot? (h : Header) : Option Nat :=
  if h.writeIndex = 0 ∨ h.slotCount = 0 then none
  else some ((h.writeIndex - 1) % h.slotCount).toNat

def slotOffset (h : Header) (i : Nat) : Nat := headerSize + i * h.slotSize.toNat

end Header

/-- The size of a ring file with this geometry. -/
def totalSize (slotCount slotSize : Nat) : Nat := headerSize + slotCount * slotSize

def Header.totalSize (h : Header) : Nat := Ring.totalSize h.slotCount.toNat h.slotSize.toNat

/-- A usable ring has a slot, and each slot has room for the length and some payload. -/
def validateGeometry (slotCount slotSize : Nat) : Outcome Unit :=
  if slotCount = 0 then .error (.ring (.invalidGeometry "slot_count must be at least 1"))
  else if slotSize ≤ prefixSize then
    .error (.ring (.invalidGeometry ("slot_size must exceed " ++ toString prefixSize ++ " bytes")))
  else .ok ()

theorem toBytes_length (h : Header) : h.toBytes.length = headerSize := by
  rcases h with ⟨_, _, _, _, _, _, r⟩
  have hr : r.toList.length = 10 := r.length_toList
  simp [Header.toBytes, Header.words, wordBytes, List.length_flatMap, headerSize, List.map_const', hr]

end Glitch.Ring
