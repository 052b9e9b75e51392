import Mathlib
import Glitch.Proofs.RingWrites
/-!
Reading a ring file whatever its bytes are. A reader keeps no header of its own: every call reads
the header again from the file, which another process may have left in any state, so each field
may be any 32-bit value and the file may end anywhere after the header.

Main statement: a slot read answers a payload exactly when the slot is one the header describes,
the four length bytes at the slot's offset lie inside the file, the length they give leaves room
for them in a slot and the payload after them lies inside the file (`SlotHolds`, which looks at
the file only through slices that lie inside it); in every other case the read fails, as a
corrupt ring. The latest-frame read is the read of the slot before the write index, and nothing
before the first write or without slots. The offsets a read computes stay below `2^64` for every
32-bit header and index, so 64-bit arithmetic computes them exactly.
-/
namespace Glitch.Ring

/-! ## Slices of a file -/

theorem byteAt_extract (bs : ByteArray) (a b k : Nat) :
    byteAt (bs.extract a b) k = if a + k < b then byteAt bs (a + k) else 0 := by
  simp only [byteAt_eq_getD, ByteArray.data_extract, Array.getElem?_extract, ByteArray.size_data]
  by_cases hk : a + k < bs.size
  · by_cases hb : a + k < b
    · rw [if_pos (by omega), if_pos hb]
    · rw [if_neg (by omega), if_neg hb]
      rfl
  · -- past the file's end both sides read nothing
    rw [Array.getElem?_eq_none (by simp only [ByteArray.size_data]; omega)]
    split_ifs <;> rfl

theorem wordAt_extract (bs : ByteArray) (i : Nat) :
    wordAt (bs.extract i (i + prefixSize)) 0 = wordAt bs i := by
  simp [wordAt, byteAt_extract, prefixSize]

/-- What slot `i` of the file `bs` holds under the header `h`: the slot is one the header
describes, its four length bytes lie inside the file and, as a little-endian word, give the size
of `p`, the size leaves room for them in a slot, and `p` is the slice of that size after them,
which lies inside the file. -/
structure SlotHolds (bs : ByteArray) (h : Header) (i : Nat) (p : ByteArray) : Prop where
  index_lt : i < h.slotCount.toNat
  prefix_inside : h.slotOffset i + prefixSize ≤ bs.size
  length_eq : (wordAt (bs.extract (h.slotOffset i) (h.slotOffset i + prefixSize)) 0).toNat = p.size
  fits : p.size + prefixSize ≤ h.slotSize.toNat
  payload_inside : h.slotOffset i + prefixSize + p.size ≤ bs.size
  payload_eq : bs.extract (h.slotOffset i + prefixSize) (h.slotOffset i + prefixSize + p.size) = p

/-! ## Offsets in 64-bit words -/

theorem toNat_mul_le (a b : UInt32) : a.toNat * b.toNat ≤ (2 ^ 32 - 1) * (2 ^ 32 - 1) :=
  Nat.mul_le_mul (Nat.le_pred_of_lt a.toNat_lt_size) (Nat.le_pred_of_lt b.toNat_lt_size)

/-- The end of a payload of any 32-bit length in any 32-bit slot, computed in 64-bit words,
is exact. -/
theorem Header.payloadEnd_toUInt64 (h : Header) (i len : UInt32) :
    (64 + i.toUInt64 * h.slotSize.toUInt64 + 4 + len.toUInt64).toNat =
      h.slotOffset i.toNat + prefixSize + len.toNat := by
  have hmul := toNat_mul_le i h.slotSize
  have hlen := len.toNat_lt_size
  simp only [UInt64.toNat_add, UInt64.toNat_mul, UInt32.toNat_toUInt64, Header.slotOffset,
    headerSize, prefixSize, UInt64.reduceToNat, UInt32.size] at hlen ⊢
  omega

theorem Header.totalSize_toUInt64 (h : Header) :
    (64 + h.slotCount.toUInt64 * h.slotSize.toUInt64).toNat = h.totalSize := by
  have hmul := toNat_mul_le h.slotCount h.slotSize
  simp only [UInt64.toNat_add, UInt64.toNat_mul, UInt32.toNat_toUInt64, Header.totalSize,
    Ring.totalSize, headerSize, UInt64.reduceToNat]
  omega

/-- The slot of the latest write, in numbers: the one before the write index, modulo the slot
count, unless either is zero. -/
theorem Header.latestSlot?_eq (h : Header) :
    h.latestSlot? = if 0 < h.writeIndex.toNat ∧ 0 < h.slotCount.toNat then
      some ((h.writeIndex.toNat - 1) % h.slotCount.toNat) else none := by
  have hw : h.writeIndex = 0 ↔ h.writeIndex.toNat = 0 := by simp [← UInt32.toNat_inj]
  have hc : h.slotCount = 0 ↔ h.slotCount.toNat = 0 := by simp [← UInt32.toNat_inj]
  unfold Header.latestSlot?
  by_cases hz : h.writeIndex.toNat = 0 ∨ h.slotCount.toNat = 0
  · rw [if_pos (by rwa [hw, hc]), if_neg (by omega)]
  · have h1 : (1 : UInt32) ≤ h.writeIndex := by
      rw [UInt32.le_iff_toNat_le]
      simp only [UInt32.reduceToNat]
      omega
    rw [if_neg (by rwa [hw, hc]), if_pos (by omega), UInt32.toNat_mod,
      UInt32.toNat_sub_of_le _ _ h1]
    rfl

/-! ## The reader's calls -/

namespace Reader

variable {r : Reader} {h : Header}

theorem header_eq_ok (hL : headerSize ≤ r.file.size) : ∃ h, r.header = .ok h := by
  unfold header Header.ofBytes?
  rw [if_neg (Nat.not_lt.2 hL)]
  exact ⟨_, rfl⟩

theorem header_error {e : GlitchError} (he : r.header = .error e) : ∃ d, e = .ring (.corrupt d) := by
  unfold header at he
  split at he
  · cases he
  · cases he
    exact ⟨_, rfl⟩

theorem readSlot_eq_ok_iff (hh : r.header = .ok h) {i : Nat} {p : ByteArray} :
    r.readSlot i = .ok p ↔ SlotHolds r.file h i p := by
  constructor
  · intro hr
    simp only [readSlot, hh, bind, Except.bind, pure, Except.pure] at hr
    split_ifs at hr with hi hpre hfit hin
    obtain rfl := Except.ok.inj hr
    have hsize : (r.file.extract (h.slotOffset i + prefixSize)
        (h.slotOffset i + prefixSize + (wordAt r.file (h.slotOffset i)).toNat)).size =
        (wordAt r.file (h.slotOffset i)).toNat := by
      rw [ByteArray.size_extract]
      omega
    refine ⟨by omega, by omega, by rw [wordAt_extract, hsize], by omega, by omega, by rw [hsize]⟩
  · rintro ⟨hi, hpre, hlen, hfit, hin, hp⟩
    rw [wordAt_extract] at hlen
    simp only [readSlot, hh, bind, Except.bind]
    rw [if_neg (by omega), if_neg (by omega), hlen, if_neg (by omega), if_neg (by omega), hp]
    rfl

theorem readSlot_error {i : Nat} {e : GlitchError} (hr : r.readSlot i = .error e) :
    ∃ d, e = .ring (.corrupt d) := by
  cases hh : r.header with
  | error e' =>
    simp only [readSlot, hh, bind, Except.bind] at hr
    cases hr
    exact header_error hh
  | ok h =>
    simp only [readSlot, hh, bind, Except.bind, pure, Except.pure] at hr
    split_ifs at hr <;> exact ⟨_, (Except.error.inj hr).symm⟩

/-- The latest-frame read reads the slot before the write index, or answers nothing when the
write index or the slot count is zero. -/
theorem readLatest_eq (hh : r.header = .ok h) :
    r.readLatest = if 0 < h.writeIndex.toNat ∧ 0 < h.slotCount.toNat then
      some <$> r.readSlot ((h.writeIndex.toNat - 1) % h.slotCount.toNat) else .ok none := by
  simp only [readLatest, hh, bind, Except.bind, Header.latestSlot?_eq]
  split_ifs <;> rfl

structure ReadsChecked (r : Reader) (h : Header) : Prop where
  /-- A slot read answers `p` exactly when the slot holds `p`. -/
  slot_ok_iff : ∀ i p, r.readSlot i = .ok p ↔ SlotHolds r.file h i p
  /-- A slot read that answers no payload fails as a corrupt ring. -/
  slot_error : ∀ i e, r.readSlot i = .error e → ∃ d, e = .ring (.corrupt d)
  /-- The end of a payload of any 32-bit length in any 32-bit slot, computed in 64-bit words,
  is exact. -/
  payload_end_exact : ∀ j len : UInt32,
    (64 + j.toUInt64 * h.slotSize.toUInt64 + 4 + len.toUInt64).toNat =
      h.slotOffset j.toNat + prefixSize + len.toNat
  /-- So is the size of the file the header describes. -/
  total_size_exact : (64 + h.slotCount.toUInt64 * h.slotSize.toUInt64).toNat = h.totalSize
  /-- The latest-frame read is the read of the slot before the write index, or nothing. -/
  latest : r.readLatest = if 0 < h.writeIndex.toNat ∧ 0 < h.slotCount.toNat then
    some <$> r.readSlot ((h.writeIndex.toNat - 1) % h.slotCount.toNat) else .ok none

/-- A reader of any file of 64 bytes or more, whatever the bytes and so whatever the header's
32-bit fields, finds a header and reads as `ReadsChecked` says: a slot read answers exactly the
payloads `SlotHolds` describes, read through slices that lie inside the file, and otherwise
reports a corrupt ring; every offset it computes is exact in 64-bit words; and the latest-frame
read is the read of slot `(writeIndex - 1) mod slotCount`, or nothing before the first write or
without slots. -/
theorem reads_check_every_bound (r : Reader) (hL : headerSize ≤ r.file.size) :
    ∃ h, r.header = .ok h ∧ r.ReadsChecked h := by
  obtain ⟨h, hh⟩ := header_eq_ok hL
  exact ⟨h, hh, fun _ _ => readSlot_eq_ok_iff hh, fun _ _ => readSlot_error,
    h.payloadEnd_toUInt64, h.totalSize_toUInt64, readLatest_eq hh⟩

theorem reads_check_bounds_of_sevens :
    headerSize ≤ (⟨⟨Array.replicate 100 7⟩⟩ : Reader).file.size ∧
      ∃ h, Reader.header ⟨⟨Array.replicate 100 7⟩⟩ = .ok h ∧
        ReadsChecked ⟨⟨Array.replicate 100 7⟩⟩ h :=
  ⟨by decide, reads_check_every_bound _ (by decide)⟩

end Reader

end Glitch.Ring
