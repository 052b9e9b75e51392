import Glitch.Ring.Header
/-!
Headers in the memory of the machine. The header record keeps its fields in the machine's own
byte order. Converting it to the file's bytes first passes every field through `to_le`, which
reverses a word's bytes on a big-endian machine and does nothing on a little-endian one, and
then copies the record's memory out: sixteen words in declaration order, without padding.
Reading passes the other way: the record's memory is loaded from the first 64 bytes, then every
field goes through `from_le`, the same swap.
-/
namespace Glitch.Ring

/-- The byte order of the machine a ring is written or read on. -/
inductive Endian where
  | little
  | big
  deriving DecidableEq, Repr

def wordOfBytes (b0 b1 b2 b3 : UInt8) : UInt32 :=
  b0.toUInt32 ||| (b1.toUInt32 <<< 8) ||| (b2.toUInt32 <<< 16) ||| (b3.toUInt32 <<< 24)

namespace Endian

def store : Endian → UInt32 → List UInt8
  | .little, w => wordBytes w
  | .big, w => (wordBytes w).reverse

def load : Endian → UInt8 → UInt8 → UInt8 → UInt8 → UInt32
  | .little, b0, b1, b2, b3 => wordOfBytes b0 b1 b2 b3
  | .big, b0, b1, b2, b3 => wordOfBytes b3 b2 b1 b0

/-- `to_le`, which is also `from_le`: the word itself on a little-endian machine, its bytes
reversed on a big-endian one. -/
def toLe : Endian → UInt32 → UInt32
  | .little, w => w
  | .big, w => wordOfBytes (w >>> 24).toUInt8 (w >>> 16).toUInt8 (w >>> 8).toUInt8 w.toUInt8

end Endian

namespace Header

def swapLe (e : Endian) (h : Header) : Header :=
  ⟨e.toLe h.writeIndex, e.toLe h.frameCount, e.toLe h.slotSize, e.toLe h.slotCount,
    e.toLe h.width, e.toLe h.height, h.reserved.map e.toLe⟩

/-- The record's memory: its sixteen words in declaration order, each as the machine holds it. -/
def memory (e : Endian) (h : Header) : List UInt8 := h.words.flatMap e.store

def ofMemory (e : Endian) (bs : ByteArray) : Header :=
  let w (i : Nat) : UInt32 :=
    e.load (byteAt bs i) (byteAt bs (i + 1)) (byteAt bs (i + 2)) (byteAt bs (i + 3))
  ⟨w 0, w 4, w 8, w 12, w 16, w 20, Vector.ofFn (fun (i : Fin 10) => w (24 + 4 * i.val))⟩

def toBytesOn (e : Endian) (h : Header) : List UInt8 := (h.swapLe e).memory e

/-- The header in the first 64 bytes, read on a machine of byte order `e`; `none` when there are
fewer. -/
def ofBytesOn? (e : Endian) (bs : ByteArray) : Option Header :=
  if bs.size < headerSize then none else some ((ofMemory e bs).swapLe e)

end Header

end Glitch.Ring
