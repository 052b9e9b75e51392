import Mathlib
import Glitch.Seed.Sha256
/-!
The key a seed is derived from names its run. The project seed, the effect id, the frame index and
the user seed are written in decimal, the user seed with a leading `-` when negative, and joined by
colons. No number's text holds a colon, so the first colon of a key ends the project seed and its
last two colons start the frame index and the user seed; what lies between is the effect id,
colons and digits included. Two runs hash the same key only when they agree in all four parts.
A seed is the first eight bytes of the key's digest read big-endian, so two runs that differ in
some part get the same seed only when the digests of two different keys agree in their first
eight bytes.
-/
namespace Glitch

/-! ## Cutting a list at a separator -/

section Separator

variable {α : Type} {a : α} {l₁ l₂ r₁ r₂ : List α}

/-- A separator absent from both left parts is the first one: the cut is the same on both
sides. -/
theorem List.append_cons_cancel_of_not_mem (h₁ : a ∉ l₁) (h₂ : a ∉ l₂)
    (h : l₁ ++ a :: r₁ = l₂ ++ a :: r₂) : l₁ = l₂ ∧ r₁ = r₂ := by
  induction l₁ generalizing l₂ with
  | nil =>
    cases l₂ with
    | nil => simpa using h
    | cons b l₂ =>
      -- the separator would be the first letter of `l₂`
      simp only [List.nil_append, List.cons_append, List.cons.injEq] at h
      exact absurd (h.1 ▸ List.mem_cons_self) h₂
  | cons b l₁ ih =>
    cases l₂ with
    | nil =>
      simp only [List.nil_append, List.cons_append, List.cons.injEq] at h
      exact absurd (h.1 ▸ List.mem_cons_self) h₁
    | cons c l₂ =>
      simp only [List.cons_append, List.cons.injEq] at h
      obtain ⟨rfl, h⟩ := h
      obtain ⟨rfl, rfl⟩ := ih (fun hm => h₁ (List.mem_cons_of_mem _ hm))
        (fun hm => h₂ (List.mem_cons_of_mem _ hm)) h
      exact ⟨rfl, rfl⟩

theorem List.append_cons_cancel_of_not_mem_right (h₁ : a ∉ r₁) (h₂ : a ∉ r₂)
    (h : l₁ ++ a :: r₁ = l₂ ++ a :: r₂) : l₁ = l₂ ∧ r₁ = r₂ := by
  have hrev : r₁.reverse ++ a :: l₁.reverse = r₂.reverse ++ a :: l₂.reverse := by
    simpa using congrArg List.reverse h
  obtain ⟨hr, hl⟩ :=
    List.append_cons_cancel_of_not_mem (by simpa using h₁) (by simpa using h₂) hrev
  exact ⟨List.reverse_inj.1 hl, List.reverse_inj.1 hr⟩

end Separator

/-! ## Decimal text -/

theorem colon_not_mem_toDigits (n : Nat) : ':' ∉ Nat.toDigits 10 n := fun h => by
  simpa using Nat.isDigit_of_mem_toDigits (by decide) (by decide) h

theorem toDigits_injective {m n : Nat} (h : Nat.toDigits 10 m = Nat.toDigits 10 n) : m = n := by
  simpa using congrArg (fun ds => Nat.ofDigitChars 10 ds 0) h

theorem toList_toString_int (u : Int) :
    (toString u).toList =
      if 0 ≤ u then Nat.toDigits 10 u.toNat else '-' :: Nat.toDigits 10 (-u).toNat := by
  rw [Int.toString_eq_repr, Int.repr_eq_if]
  split <;> simp [String.toList_append]

theorem colon_not_mem_toString_int (u : Int) : ':' ∉ (toString u).toList := by
  rw [toList_toString_int]
  split
  · exact colon_not_mem_toDigits _
  · simpa using colon_not_mem_toDigits _

/-- The sign cannot be mistaken for a digit, so an integer's text gives the integer back. -/
theorem toString_int_injective {u v : Int} (h : (toString u).toList = (toString v).toList) :
    u = v := by
  have hminus : ∀ n, '-' ∉ Nat.toDigits 10 n := fun n hm => by
    simpa using Nat.isDigit_of_mem_toDigits (by decide) (by decide) hm
  rw [toList_toString_int, toList_toString_int] at h
  split at h <;> split at h
  · have := toDigits_injective h
    omega
  · exact absurd (h ▸ List.mem_cons_self) (hminus _)
  · exact absurd (h.symm ▸ List.mem_cons_self) (hminus _)
  · have := toDigits_injective (List.cons.inj h).2
    omega

/-! ## Keys -/

/-- A key as characters: the project seed's digits, then the effect id, the frame index's digits
and the user seed's text, each after a colon. -/
theorem toList_seedInput (p : Nat) (e : String) (n : Nat) (u : Int) :
    (seedInput p e n u).toList =
      Nat.toDigits 10 p ++
        ':' :: (e.toList ++ ':' :: (Nat.toDigits 10 n ++ ':' :: (toString u).toList)) := by
  simp [seedInput, String.toList_append]

/-- The key of a run determines the run: project seed, effect id, frame index and user seed. -/
theorem seedInput_inj {p p' n n' : Nat} {e e' : String} {u u' : Int} :
    seedInput p e n u = seedInput p' e' n' u' ↔ p = p' ∧ e = e' ∧ n = n' ∧ u = u' := by
  refine ⟨fun h => ?_, fun ⟨rfl, rfl, rfl, rfl⟩ => rfl⟩
  have hl := congrArg String.toList h
  rw [toList_seedInput, toList_seedInput] at hl
  obtain ⟨hp, hrest⟩ := List.append_cons_cancel_of_not_mem (colon_not_mem_toDigits p)
    (colon_not_mem_toDigits p') hl
  simp only [← List.cons_append, ← List.append_assoc] at hrest
  obtain ⟨hen, hu⟩ := List.append_cons_cancel_of_not_mem_right (colon_not_mem_toString_int u)
    (colon_not_mem_toString_int u') hrest
  obtain ⟨he, hn⟩ := List.append_cons_cancel_of_not_mem_right (colon_not_mem_toDigits n)
    (colon_not_mem_toDigits n') hen
  exact ⟨toDigits_injective hp, String.toList_inj.1 he, toDigits_injective hn,
    toString_int_injective hu⟩

/-! ## Seeds -/

theorem ByteArray.toList_loop_eq (bs : ByteArray) (i : Nat) (r : List UInt8) :
    ByteArray.toList.loop bs i r = r.reverse ++ bs.data.toList.drop i := by
  fun_induction ByteArray.toList.loop bs i r with
  | case1 i r hi ih =>
    rw [ih]
    conv_rhs => rw [List.drop_eq_getElem_cons (by simpa using hi)]
    simp [ByteArray.get!, hi]
  | case2 i r hi =>
    rw [List.drop_eq_nil_of_le (by simpa using hi)]
    simp

theorem ByteArray.toList_eq_data (bs : ByteArray) : bs.toList = bs.data.toList := by
  simp [ByteArray.toList, ByteArray.toList_loop_eq]

theorem toList_toUTF8_injective {s t : String} (h : s.toUTF8.toList = t.toUTF8.toList) : s = t := by
  rw [ByteArray.toList_eq_data, ByteArray.toList_eq_data, Array.toList_inj] at h
  exact String.toByteArray_inj.1 (ByteArray.ext h)

theorem bytesValueBE_append (bs : List UInt8) (b : UInt8) :
    bytesValueBE (bs ++ [b]) = bytesValueBE bs * 256 + b.toNat := by
  simp [bytesValueBE, List.foldl_append]

/-- Big-endian values of byte strings of one length are equal only for equal strings. -/
theorem bytesValueBE_inj {bs bs' : List UInt8} (hl : bs.length = bs'.length)
    (h : bytesValueBE bs = bytesValueBE bs') : bs = bs' := by
  induction bs using List.reverseRecOn generalizing bs' with
  | nil => simpa using hl.symm
  | append_singleton bs b ih =>
    obtain rfl | ⟨cs, c, rfl⟩ := List.eq_nil_or_concat bs'
    · simp at hl
    rw [List.concat_eq_append] at hl h ⊢
    rw [bytesValueBE_append, bytesValueBE_append] at h
    -- the last byte is the value's lowest base-256 digit, the rest its quotient
    have hb₀ : b.toNat < 256 := b.toNat_lt
    have hc₀ : c.toNat < 256 := c.toNat_lt
    have hb : b.toNat = c.toNat := by omega
    have hrest : bytesValueBE bs = bytesValueBE cs := by omega
    rw [ih (by simpa using hl) hrest, UInt8.toNat_inj.1 hb]

theorem size_compress (hv : Array UInt32) (block : List UInt8) :
    (Sha256.compress hv block).size = 8 :=
  rfl

theorem size_foldl_compress (blocks : List (List UInt8)) (hv : Array UInt32) (h : hv.size = 8) :
    (blocks.foldl Sha256.compress hv).size = 8 := by
  induction blocks generalizing hv with
  | nil => exact h
  | cons b bs ih => exact ih _ (size_compress hv b)

theorem length_digest (msg : List UInt8) : (Sha256.digest msg).length = 32 := by
  have hs := size_foldl_compress (Sha256.chunks 64 (Sha256.pad msg)) Sha256.initial rfl
  have h4 : ∀ w, (Sha256.bytesBE w).length = 4 := fun _ => rfl
  simp [Sha256.digest, List.length_flatMap, h4, hs]

/-- Keys determine runs, and two runs that differ somewhere get the same seed only when the bytes
of their keys, which differ, have digests that agree in their first eight bytes. -/
theorem seed_keys_name_their_runs (p p' n n' : Nat) (e e' : String) (u u' : Int) :
    (seedInput p e n u = seedInput p' e' n' u' ↔ p = p' ∧ e = e' ∧ n = n' ∧ u = u') ∧
    (deriveSeed p e n u = deriveSeed p' e' n' u' → ¬ (p = p' ∧ e = e' ∧ n = n' ∧ u = u') →
      (seedInput p e n u).toUTF8.toList ≠ (seedInput p' e' n' u').toUTF8.toList ∧
        (Sha256.digest (seedInput p e n u).toUTF8.toList).take 8 =
          (Sha256.digest (seedInput p' e' n' u').toUTF8.toList).take 8) := by
  refine ⟨seedInput_inj, fun hseed hne => ⟨fun hkey => ?_, ?_⟩⟩
  · exact hne (seedInput_inj.1 (toList_toUTF8_injective hkey))
  · -- both seeds read eight digest bytes, and equal values of equal lengths are equal strings
    apply bytesValueBE_inj _ hseed
    simp [length_digest]

end Glitch
