import Glitch.Ring.Store
/-!
Byte-level facts about ring files. A 32-bit word stored as four little-endian bytes reads back,
a header stored in the first 64 bytes reads back, and overwriting a range of a file changes that
range and nothing else. `Stored bs i l` says that the bytes `l` stand in `bs` from offset `i` on;
the ring's invariant is written with it.
-/
namespace Glitch.Ring

def Stored (bs : ByteArray) (i : Nat) (l : List UInt8) : Prop :=
  ∀ j (hj : j < l.length), byteAt bs (i + j) = l[j]

theorem byteAt_eq_getD (bs : ByteArray) (i : Nat) : byteAt bs i = bs.data[i]?.getD 0 := by
  unfold byteAt
  split
  · rename_i h
    rw [Array.getElem?_eq_getElem h]
    rfl
  · rename_i h
    rw [Array.getElem?_eq_none (by simpa using h)]
    rfl

theorem byteAt_mk (l : List UInt8) (j : Nat) (hj : j < l.length) :
    byteAt ⟨l.toArray⟩ j = l[j] := by
  simp [byteAt_eq_getD, List.getElem?_eq_getElem hj]

theorem stored_append {bs : ByteArray} {i : Nat} {l l' : List UInt8} :
    Stored bs i (l ++ l') ↔ Stored bs i l ∧ Stored bs (i + l.length) l' := by
  constructor
  · intro h
    refine ⟨fun j hj => ?_, fun j hj => ?_⟩
    · have := h j (by simp; omega)
      rwa [List.getElem_append_left hj] at this
    · have := h (l.length + j) (by simp; omega)
      simpa [Nat.add_assoc, List.getElem_append_right] using this
  · rintro ⟨h, h'⟩ j hj
    by_cases hl : j < l.length
    · simpa [List.getElem_append_left hl] using h j hl
    · have := h' (j - l.length) (by simp at hj; omega)
      rw [List.getElem_append_right (by omega)]
      simpa [show i + l.length + (j - l.length) = i + j by omega] using this

/-! ## Words -/

theorem length_wordBytes (w : UInt32) : (wordBytes w).length = 4 := rfl

/-- The four bytes of a word, or-ed back at their places, give the word. -/
theorem word_of_bytes (w : UInt32) :
    w.toUInt8.toUInt32 ||| ((w >>> 8).toUInt8.toUInt32 <<< 8) |||
      ((w >>> 16).toUInt8.toUInt32 <<< 16) ||| ((w >>> 24).toUInt8.toUInt32 <<< 24) = w := by
  apply UInt32.toBitVec_inj.mp
  apply BitVec.eq_of_getLsbD_eq
  intro i hi
  have e8 : (UInt32.toBitVec 8 % 32) = 8#32 := rfl
  have e16 : (UInt32.toBitVec 16 % 32) = 16#32 := rfl
  have e24 : (UInt32.toBitVec 24 % 32) = 24#32 := rfl
  simp only [UInt32.toBitVec_or, UInt32.toBitVec_shiftLeft, UInt8.toBitVec_toUInt32,
    UInt32.toBitVec_toUInt8, UInt32.toBitVec_shiftRight, e8, e16, e24, BitVec.shiftLeft_eq',
    BitVec.ushiftRight_eq', BitVec.toNat_ofNat, BitVec.getLsbD_or, BitVec.getLsbD_setWidth,
    BitVec.getLsbD_shiftLeft, BitVec.getLsbD_ushiftRight]
  rcases (by omega : i < 8 ∨ (8 ≤ i ∧ i < 16) ∨ (16 ≤ i ∧ i < 24) ∨ (24 ≤ i ∧ i < 32)) with
    h | ⟨h1, h2⟩ | ⟨h1, h2⟩ | ⟨h1, h2⟩
  all_goals simp only [Nat.reducePow, Nat.reduceMod]
  all_goals grind

/-- A word stored as its four little-endian bytes reads back. -/
theorem wordAt_of_stored {bs : ByteArray} {i : Nat} {w : UInt32} (h : Stored bs i (wordBytes w)) :
    wordAt bs i = w := by
  have h0 := h 0 (by simp [length_wordBytes])
  have h1 := h 1 (by simp [length_wordBytes])
  have h2 := h 2 (by simp [length_wordBytes])
  have h3 := h 3 (by simp [length_wordBytes])
  simp only [Nat.add_zero, wordBytes, List.getElem_cons_zero, List.getElem_cons_succ] at h0 h1 h2 h3
  simp only [wordAt, h0, h1, h2, h3]
  exact word_of_bytes w

theorem stored_flatMap_wordBytes {bs : ByteArray} {i : Nat} {ws : List UInt32}
    (h : Stored bs i (ws.flatMap wordBytes)) (k : Nat) (hk : k < ws.length) :
    wordAt bs (i + 4 * k) = ws[k] := by
  induction ws generalizing i k with
  | nil => simp at hk
  | cons w rest ih =>
    rw [List.flatMap_cons, stored_append, length_wordBytes] at h
    cases k with
    | zero => simpa using wordAt_of_stored h.1
    | succ k =>
      have := ih h.2 k (by simpa using hk)
      simpa [show i + 4 + 4 * k = i + 4 * (k + 1) by omega] using this

/-! ## Headers -/

/-- A header stored in the first 64 bytes of a file reads back. -/
theorem Header.ofBytes?_of_stored {bs : ByteArray} {h : Header} (hs : headerSize ≤ bs.size)
    (hb : Stored bs 0 h.toBytes) : Header.ofBytes? bs = some h := by
  have hw : ∀ k (hk : k < h.words.length), wordAt bs (4 * k) = h.words[k] := by
    intro k hk
    simpa using stored_flatMap_wordBytes hb k hk
  rcases h with ⟨a, b, c, d, e, f, r⟩
  have hr : Vector.ofFn (fun (i : Fin 10) => wordAt bs (24 + 4 * i.val)) = r := by
    apply Vector.ext
    intro i hi
    have := hw (i + 6) (by simp [Header.words]; omega)
    rw [Vector.getElem_ofFn]
    simpa [Header.words, show 4 * (i + 6) = 24 + 4 * i by omega] using this
  have h0 := hw 0 (by simp [Header.words])
  have h1 := hw 1 (by simp [Header.words])
  have h2 := hw 2 (by simp [Header.words])
  have h3 := hw 3 (by simp [Header.words])
  have h4 := hw 4 (by simp [Header.words])
  have h5 := hw 5 (by simp [Header.words])
  simp only [Header.words] at h0 h1 h2 h3 h4 h5
  simp only [Header.ofBytes?, if_neg (Nat.not_lt.mpr hs), hr]
  simp_all

/-! ## Overwriting -/

theorem data_overwrite (file bytes : ByteArray) (start : Nat) :
    (overwrite file start bytes).data =
      file.data.extract 0 start ++ bytes.data ++ file.data.extract (start + bytes.size) file.size := by
  have hb : bytes.data.extract 0 bytes.size = bytes.data := Array.extract_size
  simp only [overwrite, ByteArray.copySlice, Nat.sub_zero, Nat.zero_add, hb, ByteArray.size_data,
    Nat.min_self]

theorem size_overwrite {file bytes : ByteArray} {start : Nat} (h : start + bytes.size ≤ file.size) :
    (overwrite file start bytes).size = file.size := by
  rw [← ByteArray.size_data, data_overwrite]
  simp only [Array.size_append, Array.size_extract, ByteArray.size_data]
  omega

/-- Overwriting inside a file changes the bytes of the range and no others. -/
theorem byteAt_overwrite {file bytes : ByteArray} {start : Nat} (h : start + bytes.size ≤ file.size)
    (i : Nat) :
    byteAt (overwrite file start bytes) i =
      if start ≤ i ∧ i < start + bytes.size then byteAt bytes (i - start) else byteAt file i := by
  have hm : min start file.size = start := by omega
  simp only [byteAt_eq_getD, data_overwrite]
  rw [Array.getElem?_append, Array.getElem?_append]
  simp only [Array.size_append, Array.size_extract, ByteArray.size_data, Array.getElem?_extract,
    Nat.sub_zero, Nat.zero_add, hm]
  by_cases h1 : i < start
  · simp [h1, show ¬ start ≤ i by omega, show i < start + bytes.size by omega]
  · by_cases h2 : i < start + bytes.size
    · simp [h1, h2, show start ≤ i by omega]
    · rw [if_neg h2, if_neg (show ¬ (start ≤ i ∧ i < start + bytes.size) by omega)]
      by_cases h3 : i < file.size
      · rw [if_pos (by omega), show start + bytes.size + (i - (start + bytes.size)) = i by omega]
      · rw [if_neg (by omega), Array.getElem?_eq_none (by simp; omega)]

/-- The written bytes stand where they were written. -/
theorem stored_overwrite {file bytes : ByteArray} {start : Nat} (h : start + bytes.size ≤ file.size) :
    Stored (overwrite file start bytes) start bytes.data.toList := by
  intro j hj
  simp only [Array.length_toList, ByteArray.size_data] at hj
  rw [byteAt_overwrite h, if_pos (by omega), Nat.add_sub_cancel_left, byteAt_eq_getD]
  simp [Array.getElem?_eq_getElem (show j < bytes.data.size from hj)]

/-- Bytes outside the written range stay where they were. -/
theorem stored_overwrite_of_disjoint {file bytes : ByteArray} {start a : Nat} {l : List UInt8}
    (h : start + bytes.size ≤ file.size) (hl : Stored file a l)
    (hd : a + l.length ≤ start ∨ start + bytes.size ≤ a) :
    Stored (overwrite file start bytes) a l := by
  intro j hj
  rw [byteAt_overwrite h, if_neg (by omega)]
  exact hl j hj

/-! ## Zeroed files -/

theorem zeros_fold (m : Nat) (init : ByteArray) :
    (Nat.fold m (fun _ _ acc => acc.push 0) init).size = init.size + m ∧
      ∀ i, byteAt (Nat.fold m (fun _ _ acc => acc.push 0) init) i =
        if i < init.size then byteAt init i else 0 := by
  induction m with
  | zero =>
    refine ⟨rfl, fun i => ?_⟩
    split
    · rfl
    · rename_i hi
      simp [byteAt, hi]
  | succ m ih =>
    rw [Nat.fold_succ]
    obtain ⟨hsize, hbyte⟩ := ih
    refine ⟨by simp [hsize]; omega, fun i => ?_⟩
    rw [byteAt_eq_getD, ByteArray.data_push, Array.getElem?_push, ByteArray.size_data, hsize]
    split
    · rename_i hi
      subst hi
      simp only [Option.getD_some]
      rw [if_neg (by omega)]
    · rw [← byteAt_eq_getD, hbyte]

theorem size_zeros (n : Nat) : (zeros n).size = n := by
  have he : (ByteArray.emptyWithCapacity n).size = 0 := rfl
  simpa [zeros, he] using (zeros_fold n (ByteArray.emptyWithCapacity n)).1

theorem byteAt_zeros (n i : Nat) : byteAt (zeros n) i = 0 := by
  have he : (ByteArray.emptyWithCapacity n).size = 0 := rfl
  simpa [zeros, he] using (zeros_fold n (ByteArray.emptyWithCapacity n)).2 i

/-! ## Reading back -/

/-- Bytes stored at `i` are what `extract` takes from there. -/
theorem extract_of_stored {bs p : ByteArray} {i : Nat} (h : Stored bs i p.data.toList)
    (hi : i + p.size ≤ bs.size) : bs.extract i (i + p.size) = p := by
  apply ByteArray.ext_getElem
  · simp [ByteArray.size_extract]; omega
  · intro j hj hj'
    have := h j (by simpa using hj')
    rw [byteAt_eq_getD] at this
    simp only [ByteArray.getElem_eq_getElem_data]
    simp [Array.getElem?_eq_getElem (show i + j < bs.data.size by simp; omega)] at this
    simpa using this

end Glitch.Ring
