import Mathlib
import Glitch.Proofs.RingLayout
/-!
A ring writer and the readers of its file agree. The file of a writer is described by what a
reader sees in it: the writer's header and, in each slot, one payload (`Writer.Holds`).
Creating a ring establishes the description with every slot empty, each successful write keeps it
with the written payload in the slot the write answers, and the reader's header, slot and
latest-frame reads return what it describes.

The header counts writes in 32 bits and wraps: write number `j` (from 0) goes to slot
`(j mod 2^32) mod slotCount`, and after `k` writes the header counts `k mod 2^32` of them, so
after `2^32` writes a reader finds no latest frame.
-/
namespace Glitch.Ring

def Header.advance (h : Header) (width height : UInt32) : Header :=
  { h with
    writeIndex := h.writeIndex + 1
    frameCount := h.frameCount + 1
    width := width
    height := height }

@[simp] theorem Header.slotCount_advance (h : Header) (width height : UInt32) :
    (h.advance width height).slotCount = h.slotCount := rfl

@[simp] theorem Header.slotSize_advance (h : Header) (width height : UInt32) :
    (h.advance width height).slotSize = h.slotSize := rfl

@[simp] theorem Header.totalSize_advance (h : Header) (width height : UInt32) :
    (h.advance width height).totalSize = h.totalSize := rfl

@[simp] theorem Header.slotOffset_advance (h : Header) (width height : UInt32) (i : Nat) :
    (h.advance width height).slotOffset i = h.slotOffset i := rfl

/-- The slot the next write goes to: the count of writes so far, modulo the slot count. -/
def Header.nextSlot (h : Header) : Nat := (h.writeIndex % h.slotCount).toNat

theorem Header.nextSlot_lt {h : Header} (hc : 0 < h.slotCount.toNat) : h.nextSlot < h.slotCount.toNat := by
  unfold Header.nextSlot
  rw [UInt32.toNat_mod]
  exact Nat.mod_lt _ hc

theorem Header.slotOffset_add_le {h : Header} {i j : Nat} (hij : i < j) :
    h.slotOffset i + h.slotSize.toNat ≤ h.slotOffset j := by
  have hmul : (i + 1) * h.slotSize.toNat ≤ j * h.slotSize.toNat := Nat.mul_le_mul_right _ hij
  rw [Nat.succ_mul] at hmul
  unfold Header.slotOffset
  omega

theorem Header.slotOffset_add_le_totalSize {h : Header} {i : Nat} (hi : i < h.slotCount.toNat) :
    h.slotOffset i + h.slotSize.toNat ≤ h.totalSize := by
  have hmul : (i + 1) * h.slotSize.toNat ≤ h.slotCount.toNat * h.slotSize.toNat :=
    Nat.mul_le_mul_right _ hi
  rw [Nat.succ_mul] at hmul
  unfold Header.slotOffset Header.totalSize Ring.totalSize
  omega

theorem Header.headerSize_le_slotOffset (h : Header) (i : Nat) : headerSize ≤ h.slotOffset i := by
  unfold Header.slotOffset
  omega

theorem Header.slots_apart {h : Header} {i j : Nat} (hij : i ≠ j) :
    h.slotOffset i + h.slotSize.toNat ≤ h.slotOffset j ∨
      h.slotOffset j + h.slotSize.toNat ≤ h.slotOffset i := by
  rcases Nat.lt_or_gt_of_ne hij with hlt | hgt
  · exact .inl (Header.slotOffset_add_le hlt)
  · exact .inr (Header.slotOffset_add_le hgt)

theorem validateGeometry_eq_ok {count size : Nat} :
    validateGeometry count size = .ok () ↔ 0 < count ∧ prefixSize < size := by
  unfold validateGeometry
  split
  · simp_all
  · split
    · simp_all
    · simp only [true_iff]
      omega

namespace Writer

/-- The file of `w` holds its header and, in each slot `i`, the payload `slots i` after its
length; the geometry is one that creation accepts. -/
structure Holds (w : Writer) (slots : Nat → ByteArray) : Prop where
  count_pos : 0 < w.header.slotCount.toNat
  size_gt : prefixSize < w.header.slotSize.toNat
  file_size : w.file.size = w.header.totalSize
  header_stored : Stored w.file 0 w.header.toBytes
  fits : ∀ i < w.header.slotCount.toNat, (slots i).size + prefixSize ≤ w.header.slotSize.toNat
  length_stored : ∀ i < w.header.slotCount.toNat,
    Stored w.file (w.header.slotOffset i) (wordBytes (slots i).size.toUInt32)
  payload_stored : ∀ i < w.header.slotCount.toNat,
    Stored w.file (w.header.slotOffset i + prefixSize) (slots i).data.toList

variable {w : Writer} {slots : Nat → ByteArray}

theorem Holds.headerSize_le (hw : w.Holds slots) : headerSize ≤ w.file.size := by
  rw [hw.file_size]
  unfold Header.totalSize Ring.totalSize
  omega

theorem Holds.reader_header (hw : w.Holds slots) : Reader.header ⟨w.file⟩ = .ok w.header := by
  simp [Reader.header, Header.ofBytes?_of_stored hw.headerSize_le hw.header_stored]

theorem Holds.openBytes (hw : w.Holds slots) : Reader.openBytes w.file = .ok ⟨w.file⟩ := by
  have hc : w.header.slotCount ≠ 0 := by
    intro h0
    have := hw.count_pos
    simp [h0] at this
  simp only [Reader.openBytes, hw.reader_header, bind, Except.bind]
  rw [if_neg (not_or.mpr ⟨hc, by rw [hw.file_size]; exact Nat.lt_irrefl _⟩)]
  rfl

/-- A reader finds in each slot the payload the description puts there. -/
theorem Holds.readSlot (hw : w.Holds slots) {i : Nat} (hi : i < w.header.slotCount.toNat) :
    Reader.readSlot ⟨w.file⟩ i = .ok (slots i) := by
  have hfit := hw.fits i hi
  have hend := Header.slotOffset_add_le_totalSize hi
  have hword : (slots i).size < UInt32.size := by
    have := w.header.slotSize.toNat_lt_size
    omega
  have hlen : (wordAt w.file (w.header.slotOffset i)).toNat = (slots i).size := by
    rw [wordAt_of_stored (hw.length_stored i hi), Nat.toUInt32_eq, UInt32.toNat_ofNat_of_lt' hword]
  have hsize := hw.file_size
  simp only [Reader.readSlot, hw.reader_header, bind, Except.bind]
  rw [if_neg (by omega), if_neg (by omega), hlen, if_neg (by omega), if_neg (by omega)]
  exact congrArg Except.ok (extract_of_stored (hw.payload_stored i hi) (by omega))

/-- A reader finds the payload of the latest write in the slot the header names. -/
theorem Holds.readLatest (hw : w.Holds slots) :
    Reader.readLatest ⟨w.file⟩ = .ok (w.header.latestSlot?.map slots) := by
  simp only [Reader.readLatest, hw.reader_header, bind, Except.bind]
  cases hl : w.header.latestSlot? with
  | none => rfl
  | some s =>
    have hs : s < w.header.slotCount.toNat := by
      unfold Header.latestSlot? at hl
      split at hl
      · cases hl
      · cases hl
        rw [UInt32.toNat_mod]
        exact Nat.mod_lt _ hw.count_pos
    simp [hw.readSlot hs, Functor.map, Except.map]

/-! ## Creating a ring -/

theorem create_eq {path : String} {count size : UInt32}
    (hg : validateGeometry count.toNat size.toNat = .ok ()) :
    Writer.create path count size =
      .ok ⟨path, overwrite (zeros (totalSize count.toNat size.toNat)) 0
        ⟨(Header.fresh count size).toBytes.toArray⟩, Header.fresh count size⟩ := by
  simp only [Writer.create, hg, bind, Except.bind]
  rfl

/-- The file of a new ring holds the fresh header and an empty payload in every slot. -/
theorem holds_create (path : String) {count size : UInt32}
    (hg : validateGeometry count.toNat size.toNat = .ok ()) :
    Writer.Holds ⟨path, overwrite (zeros (totalSize count.toNat size.toNat)) 0
      ⟨(Header.fresh count size).toBytes.toArray⟩, Header.fresh count size⟩
      (fun _ => ByteArray.empty) := by
  obtain ⟨hc, hs⟩ := validateGeometry_eq_ok.mp hg
  have hlen : (⟨(Header.fresh count size).toBytes.toArray⟩ : ByteArray).size = headerSize :=
    toBytes_length _
  have hfit : 0 + (⟨(Header.fresh count size).toBytes.toArray⟩ : ByteArray).size ≤
      (zeros (totalSize count.toNat size.toNat)).size := by
    rw [hlen, size_zeros]
    unfold totalSize
    omega
  have hzero : ∀ i, headerSize ≤ i →
      byteAt (overwrite (zeros (totalSize count.toNat size.toNat)) 0
        ⟨(Header.fresh count size).toBytes.toArray⟩) i = 0 := by
    intro i hi
    rw [byteAt_overwrite hfit, if_neg (by omega), byteAt_zeros]
  refine ⟨hc, hs, ?_, ?_, ?_, ?_, ?_⟩
  · rw [size_overwrite hfit, size_zeros]
    rfl
  · simpa using stored_overwrite hfit
  · intro i _
    simp only [ByteArray.size_empty, Nat.zero_add]
    exact Nat.le_of_lt hs
  · intro i _ j hj
    have hw0 : (wordBytes ByteArray.empty.size.toUInt32)[j] = 0 := by
      change j < 4 at hj
      match j, hj with
      | 0, _ | 1, _ | 2, _ | 3, _ => rfl
    rw [hzero _ (Nat.le_trans (Header.headerSize_le_slotOffset _ i) (Nat.le_add_right _ _)), hw0]
  · intro i _ j hj
    simp at hj

/-! ## Writing a payload -/

section SlotWrite

/-! A slot write overwrites the length prefix at the slot's offset `off`, the payload after it,
and then the header at the front of the file. -/

variable {file p : ByteArray} {lb hb : List UInt8} {off : Nat}

theorem write_fits (hlb : lb.length = prefixSize) (hhb : hb.length = headerSize)
    (hfile : off + prefixSize + p.size ≤ file.size) (h64 : headerSize ≤ file.size) :
    off + (⟨lb.toArray⟩ : ByteArray).size ≤ file.size ∧
      off + prefixSize + p.size ≤ (overwrite file off ⟨lb.toArray⟩).size ∧
      0 + (⟨hb.toArray⟩ : ByteArray).size ≤
        (overwrite (overwrite file off ⟨lb.toArray⟩) (off + prefixSize) p).size := by
  have hs1 : off + (⟨lb.toArray⟩ : ByteArray).size ≤ file.size := by
    change off + lb.length ≤ file.size
    omega
  have hs2 : off + prefixSize + p.size ≤ (overwrite file off ⟨lb.toArray⟩).size := by
    rw [size_overwrite hs1]
    exact hfile
  refine ⟨hs1, hs2, ?_⟩
  rw [size_overwrite hs2, size_overwrite hs1]
  change 0 + hb.length ≤ _
  omega

theorem size_after_write (hlb : lb.length = prefixSize) (hhb : hb.length = headerSize)
    (hfile : off + prefixSize + p.size ≤ file.size) (h64 : headerSize ≤ file.size) :
    (overwrite (overwrite (overwrite file off ⟨lb.toArray⟩) (off + prefixSize) p) 0
      ⟨hb.toArray⟩).size = file.size := by
  obtain ⟨hs1, hs2, hs3⟩ := write_fits hlb hhb hfile h64
  rw [size_overwrite hs3, size_overwrite hs2, size_overwrite hs1]

/-- What stands after the header and outside the range a slot write touches survives the write
and the rewrite of the header. -/
theorem stored_after_write {a : Nat} {l : List UInt8}
    (hlb : lb.length = prefixSize) (hhb : hb.length = headerSize)
    (hfile : off + prefixSize + p.size ≤ file.size) (h64 : headerSize ≤ file.size)
    (hl : Stored file a l) (ha : headerSize ≤ a)
    (hd : a + l.length ≤ off ∨ off + prefixSize + p.size ≤ a) :
    Stored (overwrite (overwrite (overwrite file off ⟨lb.toArray⟩) (off + prefixSize) p) 0
      ⟨hb.toArray⟩) a l := by
  obtain ⟨hs1, hs2, hs3⟩ := write_fits hlb hhb hfile h64
  apply stored_overwrite_of_disjoint hs3 _ (.inr (by change 0 + hb.length ≤ a; omega))
  apply stored_overwrite_of_disjoint hs2 _ (by omega)
  exact stored_overwrite_of_disjoint hs1 hl (by change _ ∨ off + lb.length ≤ a; omega)

theorem prefix_after_write (hlb : lb.length = prefixSize) (hhb : hb.length = headerSize)
    (hfile : off + prefixSize + p.size ≤ file.size) (h64 : headerSize ≤ file.size)
    (hoff : headerSize ≤ off) :
    Stored (overwrite (overwrite (overwrite file off ⟨lb.toArray⟩) (off + prefixSize) p) 0
      ⟨hb.toArray⟩) off lb := by
  obtain ⟨hs1, hs2, hs3⟩ := write_fits hlb hhb hfile h64
  apply stored_overwrite_of_disjoint hs3 _ (.inr (by change 0 + hb.length ≤ off; omega))
  apply stored_overwrite_of_disjoint hs2 _ (.inl (by omega))
  simpa using stored_overwrite hs1

theorem payload_after_write (hlb : lb.length = prefixSize) (hhb : hb.length = headerSize)
    (hfile : off + prefixSize + p.size ≤ file.size) (h64 : headerSize ≤ file.size)
    (hoff : headerSize ≤ off) :
    Stored (overwrite (overwrite (overwrite file off ⟨lb.toArray⟩) (off + prefixSize) p) 0
      ⟨hb.toArray⟩) (off + prefixSize) p.data.toList := by
  obtain ⟨-, hs2, hs3⟩ := write_fits hlb hhb hfile h64
  apply stored_overwrite_of_disjoint hs3 _ (.inr (by change 0 + hb.length ≤ _; omega))
  exact stored_overwrite hs2

end SlotWrite

theorem writeEncoded_eq_error {w : Writer} {p : ByteArray} {width height : UInt32}
    (hp : w.header.slotSize.toNat < p.size + prefixSize) :
    w.writeEncoded p width height = .error (.ring (.frameTooLarge p.size w.header.slotSize.toNat)) := by
  simp [Writer.writeEncoded, hp]

/-- A write that fits its slot succeeds, advances the header, and leaves the file described with
the payload in the slot the write answers; every other slot keeps its payload. -/
theorem Holds.writeEncoded (hw : w.Holds slots) {p : ByteArray} {width height : UInt32}
    (hp : p.size + prefixSize ≤ w.header.slotSize.toNat) :
    ∃ w', w.writeEncoded p width height = .ok (w.header.nextSlot, w') ∧
      w'.header = w.header.advance width height ∧
      w'.Holds (Function.update slots w.header.nextSlot p) := by
  have hs := Header.nextSlot_lt hw.count_pos
  have hend := Header.slotOffset_add_le_totalSize hs
  have hoff := Header.headerSize_le_slotOffset w.header w.header.nextSlot
  have hfile : w.header.slotOffset w.header.nextSlot + prefixSize + p.size ≤ w.file.size := by
    rw [hw.file_size]
    omega
  have hlb : (wordBytes p.size.toUInt32).length = prefixSize := length_wordBytes _
  have hhb := toBytes_length (w.header.advance width height)
  have h64 := hw.headerSize_le
  refine ⟨{ w with
    file := overwrite (overwrite (overwrite w.file (w.header.slotOffset w.header.nextSlot)
      ⟨(wordBytes p.size.toUInt32).toArray⟩) (w.header.slotOffset w.header.nextSlot + prefixSize) p)
      0 ⟨(w.header.advance width height).toBytes.toArray⟩
    header := w.header.advance width height }, ?_, rfl, ?_⟩
  · simp only [Writer.writeEncoded, if_neg (Nat.not_lt.mpr hp)]
    rfl
  refine ⟨by simpa using hw.count_pos, by simpa using hw.size_gt, ?_, ?_, ?_, ?_, ?_⟩
  · rw [Header.totalSize_advance, size_after_write hlb hhb hfile h64, hw.file_size]
  · simpa using stored_overwrite (write_fits hlb hhb hfile h64).2.2
  · intro i hi
    simp only [Header.slotCount_advance, Header.slotSize_advance] at hi ⊢
    by_cases hi' : i = w.header.nextSlot
    · subst hi'
      simpa using hp
    · simpa [Function.update_of_ne hi'] using hw.fits i hi
  -- the written slot holds the new prefix and payload; every other slot lies apart from it
  · intro i hi
    simp only [Header.slotCount_advance, Header.slotOffset_advance] at hi ⊢
    by_cases hi' : i = w.header.nextSlot
    · subst hi'
      rw [Function.update_self]
      exact prefix_after_write hlb hhb hfile h64 hoff
    · have hfit := hw.fits i hi
      have hapart := Header.slots_apart (h := w.header) hi'
      rw [Function.update_of_ne hi']
      exact stored_after_write hlb hhb hfile h64 (hw.length_stored i hi)
        (Header.headerSize_le_slotOffset _ _) (by rw [length_wordBytes]; unfold prefixSize at *; omega)
  · intro i hi
    simp only [Header.slotCount_advance, Header.slotOffset_advance] at hi ⊢
    by_cases hi' : i = w.header.nextSlot
    · subst hi'
      rw [Function.update_self]
      exact payload_after_write hlb hhb hfile h64 hoff
    · have hfit := hw.fits i hi
      have hapart := Header.slots_apart (h := w.header) hi'
      rw [Function.update_of_ne hi']
      exact stored_after_write hlb hhb hfile h64 (hw.payload_stored i hi)
        (by have := Header.headerSize_le_slotOffset w.header i; omega)
        (by simp only [Array.length_toList, ByteArray.size_data]; omega)

end Writer

/-! ## Calls and runs -/

/-- A call on a ring writer: store a payload already encoded for a frame of the given size, or
encode a frame at a quality and store that. -/
inductive Call where
  | encoded (payload : ByteArray) (width height : UInt32)
  | frame (f : Frame) (quality : Nat)

namespace Call

/-- What the call asks to store: the payload with its frame's size, or the encoder's error. -/
def request : Call → Outcome (ByteArray × UInt32 × UInt32)
  | .encoded p width height => .ok (p, width, height)
  | .frame f q =>
    (fun bytes => (⟨bytes.toArray⟩, f.width.toUInt32, f.height.toUInt32)) <$> encodeFrame f q

def run (w : Writer) : Call → Outcome (Nat × Writer)
  | .encoded p width height => w.writeEncoded p width height
  | .frame f q => w.writeFrame f q

/-- What the call stores in a ring of `slotSize`-byte slots: its request, when the encoding
succeeds and the payload fits beside its length. -/
def stored? (slotSize : Nat) (c : Call) : Option (ByteArray × UInt32 × UInt32) :=
  match c.request with
  | .ok r => if r.1.size + prefixSize ≤ slotSize then some r else none
  | .error _ => none

theorem run_eq (w : Writer) (c : Call) :
    c.run w = c.request >>= fun r => w.writeEncoded r.1 r.2.1 r.2.2 := by
  cases c with
  | encoded p width height => rfl
  | frame f q =>
    simp only [run, request, Writer.writeFrame]
    cases encodeFrame f q <;> rfl

theorem run_of_stored?_eq_none {w : Writer} {c : Call} (hc : c.stored? w.header.slotSize.toNat = none) :
    ∃ e, c.run w = .error e := by
  rw [run_eq]
  unfold stored? at hc
  split at hc
  · rename_i r hr
    have hlt : w.header.slotSize.toNat < r.1.size + prefixSize := by
      simpa using hc
    rw [hr]
    exact ⟨_, Writer.writeEncoded_eq_error hlt⟩
  · rename_i e hr
    exact ⟨e, by rw [hr]; rfl⟩

theorem run_of_stored?_eq_some {w : Writer} {slots : Nat → ByteArray} (hw : w.Holds slots)
    {c : Call} {r : ByteArray × UInt32 × UInt32} (hc : c.stored? w.header.slotSize.toNat = some r) :
    ∃ w', c.run w = .ok (w.header.nextSlot, w') ∧ w'.header = w.header.advance r.2.1 r.2.2 ∧
      w'.Holds (Function.update slots w.header.nextSlot r.1) := by
  rw [run_eq]
  unfold stored? at hc
  split at hc
  · rename_i r' hr
    split at hc
    · rename_i hfit
      cases hc
      rw [hr]
      exact hw.writeEncoded hfit
    · cases hc
  · cases hc

end Call

/-- The calls made in turn on a writer, a refused call leaving the writer as it was: the answers
in order, and the writer at the end. -/
def Writer.runCalls (w : Writer) (calls : List Call) : List (Outcome Nat) × Writer :=
  calls.foldl (fun acc c =>
    match c.run acc.2 with
    | .ok (slot, w') => (acc.1 ++ [.ok slot], w')
    | .error e => (acc.1 ++ [.error e], acc.2)) ([], w)

@[simp] theorem Writer.runCalls_nil (w : Writer) : w.runCalls [] = ([], w) := rfl

theorem Writer.runCalls_append_single (w : Writer) (calls : List Call) (c : Call) :
    w.runCalls (calls ++ [c]) =
      match c.run (w.runCalls calls).2 with
      | .ok (slot, w') => ((w.runCalls calls).1 ++ [.ok slot], w')
      | .error e => ((w.runCalls calls).1 ++ [.error e], (w.runCalls calls).2) := by
  simp only [Writer.runCalls, List.foldl_append, List.foldl_cons, List.foldl_nil]

def stores (slotSize : Nat) (calls : List Call) : List (ByteArray × UInt32 × UInt32) :=
  calls.filterMap (Call.stored? slotSize)

/-! ## What the slots hold -/

/-- The slot that write number `j` (from 0) goes to: the header counts writes in 32 bits. -/
def slotOf (count j : Nat) : Nat := j % 2 ^ 32 % count

/-- The payload of the last of the writes `ps` that went to slot `s`, if one did. -/
def lastTo (count : Nat) (ps : List ByteArray) (s : Nat) : Option ByteArray :=
  ((List.range ps.length).filter (fun j => slotOf count j = s)).getLast?.bind (ps[·]?)

def slotsAfter (count : Nat) (ps : List ByteArray) (s : Nat) : ByteArray :=
  (lastTo count ps s).getD ByteArray.empty

theorem lastTo_append_single (count : Nat) (ps : List ByteArray) (p : ByteArray) (s : Nat) :
    lastTo count (ps ++ [p]) s = if slotOf count ps.length = s then some p else lastTo count ps s := by
  unfold lastTo
  rw [List.length_append, List.length_singleton, List.range_succ, List.filter_append]
  split
  · rename_i hs
    simp [hs]
  · rename_i hs
    simp only [hs, decide_false, List.filter_cons, List.filter_nil, List.append_nil,
      Bool.false_eq_true, if_false]
    cases hl : ((List.range ps.length).filter (fun j => slotOf count j = s)).getLast? with
    | none => rfl
    | some j =>
      have hj : j < ps.length := by
        have := List.mem_of_getLast? hl
        simp at this
        exact this.1
      simp [List.getElem?_append_left hj]

theorem slotsAfter_nil (count : Nat) : slotsAfter count [] = fun _ => ByteArray.empty := by
  funext s
  simp [slotsAfter, lastTo]

theorem slotsAfter_append_single (count : Nat) (ps : List ByteArray) (p : ByteArray) :
    slotsAfter count (ps ++ [p]) = Function.update (slotsAfter count ps) (slotOf count ps.length) p := by
  funext s
  unfold slotsAfter
  rw [lastTo_append_single, Function.update_apply]
  by_cases hs : s = slotOf count ps.length
  · simp [hs]
  · simp [hs, Ne.symm hs]

theorem lastTo_eq_of_last (count : Nat) {ps : List ByteArray} {j : Nat} (hj : j < ps.length)
    (hlast : ∀ j', j < j' → j' < ps.length → slotOf count j' ≠ slotOf count j) :
    lastTo count ps (slotOf count j) = some ps[j] := by
  induction ps using List.reverseRecOn with
  | nil => simp at hj
  | append_singleton ps p ih =>
    rw [lastTo_append_single]
    simp only [List.length_append, List.length_singleton] at hj hlast
    by_cases hjl : j = ps.length
    · subst hjl
      simp
    · have hj' : j < ps.length := by omega
      rw [if_neg (hlast ps.length (by omega) (by omega)),
        ih hj' (fun j' h1 h2 => hlast j' h1 (by omega)),
        List.getElem_append_left hj']

/-! ## Runs from a new ring -/

/-- The header of a new ring after the writes `st`: it counts them in 32 bits and holds the size
of the last frame written. -/
def Header.written (count size : UInt32) (st : List (ByteArray × UInt32 × UInt32)) : Header :=
  { Header.fresh count size with
    writeIndex := st.length.toUInt32
    frameCount := st.length.toUInt32
    width := (st.getLast?.map (·.2.1)).getD 0
    height := (st.getLast?.map (·.2.2)).getD 0 }

@[simp] theorem Header.slotCount_written (count size : UInt32) (st : List (ByteArray × UInt32 × UInt32)) :
    (Header.written count size st).slotCount = count := rfl

@[simp] theorem Header.slotSize_written (count size : UInt32) (st : List (ByteArray × UInt32 × UInt32)) :
    (Header.written count size st).slotSize = size := rfl

theorem Header.advance_written (count size : UInt32) (st : List (ByteArray × UInt32 × UInt32))
    (r : ByteArray × UInt32 × UInt32) :
    (Header.written count size st).advance r.2.1 r.2.2 = Header.written count size (st ++ [r]) := by
  simp [Header.advance, Header.written]

theorem Header.nextSlot_written (count size : UInt32) (st : List (ByteArray × UInt32 × UInt32)) :
    (Header.written count size st).nextSlot = slotOf count.toNat st.length := by
  simp [Header.nextSlot, Header.written, Header.fresh, slotOf]

/-- After a run from a new ring, the header counts what the calls stored, each slot holds the
last payload stored in it, a call is refused exactly when it stores nothing, the accepted calls
answer the slots of writes `0, 1, …` in turn, and the writer is the one that the accepted calls
alone leave. -/
theorem runCalls_new {w₀ : Writer} {count size : UInt32} (hh : w₀.header = Header.fresh count size)
    (hw : w₀.Holds fun _ => ByteArray.empty) (calls : List Call) :
    (w₀.runCalls calls).2.header = Header.written count size (stores size.toNat calls) ∧
      (w₀.runCalls calls).2.Holds
        (slotsAfter count.toNat ((stores size.toNat calls).map Prod.fst)) ∧
      (w₀.runCalls calls).1.map Except.isOk = calls.map (fun c => (c.stored? size.toNat).isSome) ∧
      (w₀.runCalls calls).1.filterMap Except.toOption =
        (List.range (stores size.toNat calls).length).map (slotOf count.toNat) ∧
      (w₀.runCalls calls).2 =
        (w₀.runCalls (calls.filter fun c => (c.stored? size.toNat).isSome)).2 := by
  induction calls using List.reverseRecOn with
  | nil => exact ⟨hh, by simpa [stores, slotsAfter_nil] using hw, rfl, rfl, rfl⟩
  | append_singleton cs c ih =>
    obtain ⟨hhead, hholds, hok, hslots, hsame⟩ := ih
    have hsize : (w₀.runCalls cs).2.header.slotSize.toNat = size.toNat := by rw [hhead]; rfl
    rw [Writer.runCalls_append_single]
    cases hc : c.stored? size.toNat with
    | none =>
      obtain ⟨e, he⟩ := Call.run_of_stored?_eq_none (w := (w₀.runCalls cs).2) (by rw [hsize]; exact hc)
      have hst : stores size.toNat (cs ++ [c]) = stores size.toNat cs := by
        simp [stores, List.filterMap_append, hc]
      have hfilter : (cs ++ [c]).filter (fun c => (c.stored? size.toNat).isSome) =
          cs.filter (fun c => (c.stored? size.toNat).isSome) := by
        simp [List.filter_append, hc]
      simp only [he, hst, hfilter]
      exact ⟨hhead, hholds, by simp [hok, hc, Except.isOk, Except.toBool],
        by simp [hslots, Except.toOption], hsame⟩
    | some r =>
      obtain ⟨w', hrun, hhead', hholds'⟩ :=
        Call.run_of_stored?_eq_some hholds (by rw [hsize]; exact hc)
      have hst : stores size.toNat (cs ++ [c]) = stores size.toNat cs ++ [r] := by
        simp [stores, List.filterMap_append, hc]
      have hfilter : (cs ++ [c]).filter (fun c => (c.stored? size.toNat).isSome) =
          cs.filter (fun c => (c.stored? size.toNat).isSome) ++ [c] := by
        simp [List.filter_append, hc]
      have hrun' : c.run (w₀.runCalls (cs.filter fun c => (c.stored? size.toNat).isSome)).2 =
          .ok ((w₀.runCalls cs).2.header.nextSlot, w') := by
        rw [← hsame, hrun]
      simp only [hrun, hst, hfilter]
      refine ⟨?_, ?_, by simp [hok, hc, Except.isOk, Except.toBool], ?_, ?_⟩
      · rw [hhead', hhead, Header.advance_written]
      · rw [List.map_append, List.map_singleton, slotsAfter_append_single, List.length_map,
          ← Header.nextSlot_written count size, ← hhead]
        exact hholds'
      · rw [List.filterMap_append, hslots, hhead, Header.nextSlot_written]
        simp [List.range_succ, Except.toOption]
      · rw [Writer.runCalls_append_single, hrun']

/-- After `k` writes the latest frame is in the slot of write `k - 1`, unless the 32-bit count
has wrapped to zero. -/
theorem Header.latestSlot?_written {count size : UInt32} (hc : 0 < count.toNat)
    (st : List (ByteArray × UInt32 × UInt32)) :
    (Header.written count size st).latestSlot? =
      if st.length % 2 ^ 32 = 0 then none else some (slotOf count.toNat (st.length - 1)) := by
  have hc' : count ≠ 0 := by
    intro h0
    simp [h0] at hc
  have hzero : st.length.toUInt32 = 0 ↔ st.length % 2 ^ 32 = 0 := by
    rw [← UInt32.toNat_inj]
    simp
  unfold Header.latestSlot?
  simp only [Header.written, Header.fresh, hc', or_false, hzero]
  split
  · rfl
  · rename_i hk
    have h1 : (1 : UInt32).toNat = 1 := rfl
    simp only [slotOf, UInt32.toNat_mod, UInt32.toNat_sub, Nat.toUInt32_eq, UInt32.toNat_ofNat', h1]
    congr 2
    omega

/-- Writes fewer than `count` apart, before the count wraps, go to different slots. -/
theorem slotOf_ne {count j j' : Nat} (hjj : j < j') (hnear : j' < j + count) (hwrap : j' < 2 ^ 32) :
    slotOf count j' ≠ slotOf count j := by
  unfold slotOf
  rw [Nat.mod_eq_of_lt hwrap, Nat.mod_eq_of_lt (show j < 2 ^ 32 by omega)]
  intro h
  have hd : count ∣ j' - j := Nat.dvd_of_mod_eq_zero (Nat.sub_mod_eq_zero_of_mod_eq h)
  have := Nat.le_of_dvd (by omega) hd
  omega

/-- What a reader sees after the calls `calls` on the new ring `w₀` of `count` slots of `size`
bytes. -/
structure ReadsBack (w₀ : Writer) (count size : UInt32) (calls : List Call) : Prop where
  /-- A call is refused exactly when its encoding fails or its payload does not fit. -/
  accepted_iff : (w₀.runCalls calls).1.map Except.isOk =
    calls.map (fun c => (c.stored? size.toNat).isSome)
  /-- A refused call changes nothing. -/
  refused_unchanged : (w₀.runCalls calls).2 =
    (w₀.runCalls (calls.filter fun c => (c.stored? size.toNat).isSome)).2
  /-- The accepted calls answer the slots of writes `0, 1, …` in turn. -/
  slots_answered : (w₀.runCalls calls).1.filterMap Except.toOption =
    (List.range (stores size.toNat calls).length).map (slotOf count.toNat)
  /-- A reader opens the file. -/
  opens : Reader.openBytes (w₀.runCalls calls).2.file = .ok ⟨(w₀.runCalls calls).2.file⟩
  /-- The header counts the stored payloads and holds the last frame's size. -/
  header : Reader.header ⟨(w₀.runCalls calls).2.file⟩ =
    .ok (Header.written count size (stores size.toNat calls))
  /-- The latest frame is the last payload stored, unless the count has wrapped to zero. -/
  latest : Reader.readLatest ⟨(w₀.runCalls calls).2.file⟩ =
    .ok (if (stores size.toNat calls).length % 2 ^ 32 = 0 then none
      else (stores size.toNat calls).getLast?.map Prod.fst)
  /-- Each slot holds the last payload that went to it, or nothing. -/
  slot : ∀ s < count.toNat, Reader.readSlot ⟨(w₀.runCalls calls).2.file⟩ s =
    .ok ((lastTo count.toNat ((stores size.toNat calls).map Prod.fst) s).getD ByteArray.empty)
  /-- Before the count wraps, each of the last `min k count` payloads is in its own slot. -/
  recent : (stores size.toNat calls).length ≤ 2 ^ 32 →
    ∀ j (hj : j < (stores size.toNat calls).length),
      (stores size.toNat calls).length - min (stores size.toNat calls).length count.toNat ≤ j →
      Reader.readSlot ⟨(w₀.runCalls calls).2.file⟩ (slotOf count.toNat j) =
        .ok ((stores size.toNat calls)[j]).1

/-- A ring created with a geometry that creation accepts and then called on in any order reads
back as `ReadsBack` says: the 32-bit count and the slot of each write wrap together, so a
reader agrees with the writer on every run, and while fewer than `2^32` frames were stored the
latest frame and the last `min k slotCount` frames read back exactly. -/
theorem ring_reads_back_writes (path : String) (count size : UInt32)
    (hg : validateGeometry count.toNat size.toNat = .ok ()) (calls : List Call) :
    ∃ w₀, Writer.create path count size = .ok w₀ ∧ ReadsBack w₀ count size calls := by
  have hc := (validateGeometry_eq_ok.mp hg).1
  refine ⟨_, Writer.create_eq hg, ?_⟩
  obtain ⟨hhead, hholds, hok, hslots, hsame⟩ := runCalls_new rfl (Writer.holds_create path hg) calls
  refine ⟨hok, hsame, hslots, hholds.openBytes, by rw [hholds.reader_header, hhead], ?_, ?_, ?_⟩
  · rw [hholds.readLatest, hhead, Header.latestSlot?_written hc]
    split
    · rfl
    · rename_i hk
      have hj : (stores size.toNat calls).length - 1 <
          ((stores size.toNat calls).map Prod.fst).length := by
        simp only [List.length_map]
        omega
      have hl := lastTo_eq_of_last count.toNat hj (fun j' h1 h2 => by simp only [List.length_map] at h2; omega)
      have hk1 : (stores size.toNat calls).length - 1 < (stores size.toNat calls).length := by
        simpa only [List.length_map] using hj
      simp [slotsAfter, hl, List.getLast?_eq_getElem?, List.getElem?_eq_getElem hk1]
  · intro s hs
    exact hholds.readSlot (by rw [hhead]; exact hs)
  · intro hk j hj hjk
    have hs : slotOf count.toNat j < count.toNat := Nat.mod_lt _ hc
    have hj' : j < ((stores size.toNat calls).map Prod.fst).length := by
      simpa only [List.length_map] using hj
    have hl := lastTo_eq_of_last count.toNat hj' (fun j' h1 h2 => by
      simp only [List.length_map] at h2
      exact slotOf_ne h1 (by omega) (by omega))
    rw [hholds.readSlot (by rw [hhead]; exact hs)]
    simp [slotsAfter, hl]

theorem ring_reads_back_two_slots :
    validateGeometry (2 : UInt32).toNat (16 : UInt32).toNat = .ok () ∧
      ∃ w₀, Writer.create "frames" 2 16 = .ok w₀ ∧
        ReadsBack w₀ 2 16 [.encoded ⟨#[1, 2, 3]⟩ 8 4, .encoded ⟨Array.replicate 13 0⟩ 1 1,
          .encoded ⟨#[9]⟩ 2 2] :=
  ⟨rfl, ring_reads_back_writes "frames" 2 16 rfl _⟩

theorem latest_frame_lost_after_wrap :
    ∃ w₀, Writer.create "frames" 1 5 = .ok w₀ ∧
      (w₀.runCalls (List.replicate (2 ^ 32) (.encoded ⟨#[7]⟩ 1 1))).2.header.writeIndex = 0 ∧
      Reader.readLatest ⟨(w₀.runCalls (List.replicate (2 ^ 32) (.encoded ⟨#[7]⟩ 1 1))).2.file⟩ =
        .ok none := by
  have hg : validateGeometry (1 : UInt32).toNat (5 : UInt32).toNat = .ok () := rfl
  refine ⟨_, Writer.create_eq hg, ?_⟩
  obtain ⟨hhead, hholds, -, -, -⟩ :=
    runCalls_new rfl (Writer.holds_create "frames" hg) (List.replicate (2 ^ 32) (.encoded ⟨#[7]⟩ 1 1))
  have hst : stores (5 : UInt32).toNat (List.replicate (2 ^ 32) (.encoded ⟨#[7]⟩ 1 1)) =
      List.replicate (2 ^ 32) (⟨#[7]⟩, 1, 1) :=
    List.filterMap_replicate_of_some rfl
  refine ⟨?_, ?_⟩
  · rw [hhead, hst]
    show (List.replicate (2 ^ 32) _).length.toUInt32 = 0
    rw [List.length_replicate]
    rfl
  · rw [hholds.readLatest, hhead, Header.latestSlot?_written (by decide), hst, List.length_replicate,
      if_pos (Nat.mod_self _)]
    rfl

end Glitch.Ring
