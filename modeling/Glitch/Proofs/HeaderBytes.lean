import Mathlib
import Glitch.Ring.Host
import Glitch.Proofs.RingLayout
/-!
The header's file bytes do not depend on the machine. On either byte order, converting a header
passes each field through `to_le` and then stores it as the machine does, and the two byte
reversals of a big-endian machine cancel: every field lands as its little-endian bytes, in
declaration order, four bytes each. Reading undoes writing, and every 64 bytes are the bytes of
the header read from them, so the header format has no two spellings and no bytes it refuses.
-/
namespace Glitch.Ring

/-! ## Words and their bytes -/

theorem wordBytes_wordOfBytes (b0 b1 b2 b3 : UInt8) :
    wordBytes (wordOfBytes b0 b1 b2 b3) = [b0, b1, b2, b3] := by
  have e8 : (UInt32.toBitVec 8 % 32) = 8#32 := rfl
  have e16 : (UInt32.toBitVec 16 % 32) = 16#32 := rfl
  have e24 : (UInt32.toBitVec 24 % 32) = 24#32 := rfl
  simp only [wordBytes, wordOfBytes, List.cons.injEq, and_true]
  refine ⟨?_, ?_, ?_, ?_⟩
  all_goals
    apply UInt8.toBitVec_inj.mp
    apply BitVec.eq_of_getLsbD_eq
    intro i hi
    simp only [UInt32.toBitVec_or, UInt32.toBitVec_shiftLeft, UInt8.toBitVec_toUInt32,
      UInt32.toBitVec_toUInt8, UInt32.toBitVec_shiftRight, e8, e16, e24, BitVec.shiftLeft_eq',
      BitVec.ushiftRight_eq', BitVec.toNat_ofNat, BitVec.getLsbD_or, BitVec.getLsbD_setWidth,
      BitVec.getLsbD_shiftLeft, BitVec.getLsbD_ushiftRight, Nat.reducePow, Nat.reduceMod]
    grind

theorem wordAt_eq_wordOfBytes (bs : ByteArray) (i : Nat) :
    wordAt bs i =
      wordOfBytes (byteAt bs i) (byteAt bs (i + 1)) (byteAt bs (i + 2)) (byteAt bs (i + 3)) :=
  rfl

theorem toNat_getElem?_wordBytes (w : UInt32) {k : Nat} (hk : k < 4) :
    ((wordBytes w)[k]?).map UInt8.toNat = some (w.toNat / 256 ^ k % 256) := by
  interval_cases k <;> simp [wordBytes, UInt32.toNat_shiftRight, Nat.shiftRight_eq_div_pow]

/-- Byte `4 * i + k` of a row of stored words is byte `k` of word `i`. -/
theorem getElem?_flatMap_wordBytes (ws : List UInt32) (i : Nat) {k : Nat} (hk : k < 4) :
    (ws.flatMap wordBytes)[4 * i + k]? = ws[i]?.bind (fun w => (wordBytes w)[k]?) := by
  induction ws generalizing i with
  | nil => simp
  | cons w ws ih =>
    rw [List.flatMap_cons]
    cases i with
    | zero =>
      have hk' : k < (wordBytes w).length := by rw [length_wordBytes]; exact hk
      simp [List.getElem?_append_left hk']
    | succ i =>
      rw [List.getElem?_append_right (by simp [length_wordBytes]; omega), length_wordBytes,
        show 4 * (i + 1) + k - 4 = 4 * i + k by omega, ih]
      simp

/-! ## Either byte order -/

theorem Endian.store_toLe (e : Endian) (w : UInt32) : e.store (e.toLe w) = wordBytes w := by
  cases e with
  | little => rfl
  | big =>
    simp only [Endian.store, Endian.toLe, wordBytes_wordOfBytes]
    rfl

/-- Loading a word and passing it through `from_le` reads its bytes as little-endian. -/
theorem Endian.toLe_load (e : Endian) (b0 b1 b2 b3 : UInt8) :
    e.toLe (e.load b0 b1 b2 b3) = wordOfBytes b0 b1 b2 b3 := by
  cases e with
  | little => rfl
  | big =>
    -- the loaded word's bytes are the four bytes reversed, and `to_le` reverses them back
    have h := wordBytes_wordOfBytes b3 b2 b1 b0
    simp only [wordBytes, List.cons.injEq] at h
    simp only [Endian.toLe, Endian.load, h]

namespace Header

theorem words_swapLe (e : Endian) (h : Header) : (h.swapLe e).words = h.words.map e.toLe := by
  simp [swapLe, words, Vector.toList_map]

theorem toBytesOn_eq (e : Endian) (h : Header) : h.toBytesOn e = h.toBytes := by
  simp [toBytesOn, memory, words_swapLe, List.flatMap_map, Endian.store_toLe, toBytes]

theorem ofBytesOn?_eq (e : Endian) (bs : ByteArray) : ofBytesOn? e bs = ofBytes? bs := by
  unfold ofBytesOn? ofBytes?
  split
  · rfl
  · simp [ofMemory, swapLe, Endian.toLe_load, wordAt_eq_wordOfBytes, Vector.map_ofFn,
      Function.comp_def]

/-! ## The file format -/

theorem ofBytes?_toBytes (h : Header) : ofBytes? ⟨h.toBytes.toArray⟩ = some h := by
  have hsize : (⟨h.toBytes.toArray⟩ : ByteArray).size = headerSize := by
    simp [ByteArray.size, toBytes_length]
  apply ofBytes?_of_stored hsize.ge
  intro j hj
  simpa using byteAt_mk h.toBytes j hj

theorem ofBytes?_eq_none_iff (bs : ByteArray) : ofBytes? bs = none ↔ bs.size < headerSize := by
  unfold ofBytes?
  split <;> simp_all

/-- The words of the header read from a file: the sixteen little-endian words at its start. -/
theorem words_ofBytes? {bs : ByteArray} {h : Header} (hr : ofBytes? bs = some h) :
    h.words = List.ofFn (fun (i : Fin 16) => wordAt bs (4 * i.val)) := by
  unfold ofBytes? at hr
  split at hr
  · cases hr
  · cases hr
    simp [words, Vector.toList_ofFn, List.ofFn_succ]

theorem toBytes_ofBytes? {bs : ByteArray} {h : Header} (hr : ofBytes? bs = some h) :
    h.toBytes = bs.data.toList.take headerSize := by
  have hs : headerSize ≤ bs.size := by
    by_contra hlt
    rw [(ofBytes?_eq_none_iff bs).2 (by omega)] at hr
    cases hr
  apply List.ext_getElem?
  intro j
  by_cases hj : j < headerSize
  · -- byte `j` is byte `r` of word `q`, which was read from bytes `4 * q` on
    obtain ⟨q, r, hr4, rfl⟩ : ∃ q r, r < 4 ∧ j = 4 * q + r :=
      ⟨j / 4, j % 4, Nat.mod_lt _ (by omega), (Nat.div_add_mod j 4).symm⟩
    have hw : h.words[q]? = some (wordAt bs (4 * q)) := by
      rw [words_ofBytes? hr, List.getElem?_ofFn]
      simp [show q < 16 by simp [headerSize] at hj; omega]
    have hbyte : (wordBytes (wordAt bs (4 * q)))[r]? = some (byteAt bs (4 * q + r)) := by
      rw [wordAt_eq_wordOfBytes, wordBytes_wordOfBytes]
      interval_cases r <;> rfl
    rw [toBytes, getElem?_flatMap_wordBytes _ _ hr4, hw, Option.bind_some, hbyte,
      List.getElem?_take_of_lt hj, Array.getElem?_toList, byteAt_eq_getD,
      Array.getElem?_eq_getElem (by simp; omega)]
    rfl
  · rw [List.getElem?_eq_none (by rw [toBytes_length]; omega),
      List.getElem?_eq_none (by simp; omega)]

/-- Field `i` of the header, in declaration order, is stored as its little-endian bytes at bytes
`4 * i` to `4 * i + 3`. -/
theorem toNat_getElem?_toBytes (h : Header) (i : Nat) {k : Nat} (hk : k < 4) :
    (h.toBytes[4 * i + k]?).map UInt8.toNat =
      ([h.writeIndex, h.frameCount, h.slotSize, h.slotCount, h.width, h.height] ++
        h.reserved.toList)[i]?.map (fun w => w.toNat / 256 ^ k % 256) := by
  have hwords : [h.writeIndex, h.frameCount, h.slotSize, h.slotCount, h.width, h.height] ++
      h.reserved.toList = h.words := rfl
  rw [hwords, toBytes, getElem?_flatMap_wordBytes _ _ hk]
  cases h.words[i]? with
  | none => rfl
  | some w => simp [toNat_getElem?_wordBytes w hk]

end Header

/-- A header's bytes on a machine of either byte order: reading them gives the header back; any
64 bytes read as a header whose bytes they are, and fewer read as nothing; and the 64 bytes are the
six counters and ten reserved words in declaration order, each as its four little-endian bytes. -/
theorem header_bytes_on_any_machine (e : Endian) :
    (∀ h : Header, Header.ofBytesOn? e ⟨(h.toBytesOn e).toArray⟩ = some h) ∧
    (∀ bs : ByteArray, headerSize ≤ bs.size →
      ∃ h, Header.ofBytesOn? e bs = some h ∧ h.toBytesOn e = bs.data.toList.take headerSize) ∧
    (∀ bs : ByteArray, Header.ofBytesOn? e bs = none ↔ bs.size < headerSize) ∧
    ∀ h : Header, (h.toBytesOn e).length = headerSize ∧
      ∀ i k, k < 4 → ((h.toBytesOn e)[4 * i + k]?).map UInt8.toNat =
        ([h.writeIndex, h.frameCount, h.slotSize, h.slotCount, h.width, h.height] ++
          h.reserved.toList)[i]?.map (fun w => w.toNat / 256 ^ k % 256) := by
  simp only [Header.toBytesOn_eq, Header.ofBytesOn?_eq]
  refine ⟨Header.ofBytes?_toBytes, fun bs hs => ?_, Header.ofBytes?_eq_none_iff,
    fun h => ⟨toBytes_length h, fun i k hk => Header.toNat_getElem?_toBytes h i hk⟩⟩
  cases hr : Header.ofBytes? bs with
  | none => exact absurd ((Header.ofBytes?_eq_none_iff bs).1 hr) (by omega)
  | some h => exact ⟨h, rfl, Header.toBytes_ofBytes? hr⟩

end Glitch.Ring
