import Mathlib
import Glitch.Effect.Param
/-!
Lookups in keyed lists, the entries sorted by a string key, each key once. A lookup after
`insertKey` finds the new value at its key and the old lookups elsewhere. Two sorted lists
with the same lookups are equal, so a keyed list is determined by what it maps each key to: maps
built by inserts in different orders are equal as lists whenever they agree key by key.
-/
namespace Glitch.Keyed

variable {β : Type}

@[simp] theorem lookup_cons (a k : String) (b : β) (es : List (String × β)) :
    ((k, b) :: es).lookup a = if a = k then some b else es.lookup a := by
  rw [List.lookup_cons]
  by_cases h : a = k
  · simp [h]
  · rw [beq_false_of_ne h, if_neg h]

/-- A lookup after an insert sees the inserted value at its key and nothing else changed. -/
@[simp] theorem lookup_insertKey (k : String) (v : β) (es : List (String × β)) (a : String) :
    (insertKey k v es).lookup a = if a = k then some v else es.lookup a := by
  induction es with
  | nil => simp [insertKey]
  | cons e rest ih =>
    obtain ⟨k', v'⟩ := e
    unfold insertKey
    by_cases hlt : k < k'
    · simp [hlt]
    · by_cases heq : k = k'
      · subst heq
        by_cases ha : a = k <;> simp [ha]
      · -- the entry of `k'` stays in front, and `a = k'` rules out `a = k`
        by_cases ha : a = k'
        · subst ha
          simp [hlt, heq, Ne.symm heq]
        · simp [hlt, heq, ha, ih]

/-- Erasing a key leaves the lookups of the other keys. -/
theorem lookup_eraseKey_of_ne {es : List (String × β)} {k k' : String} (h : k' ≠ k) :
    (eraseKey k es).lookup k' = es.lookup k' := by
  unfold eraseKey
  induction es with
  | nil => rfl
  | cons e es ih =>
    obtain ⟨a, v⟩ := e
    by_cases ha : a = k
    · -- the entry of `k` is dropped, and a lookup of `k'` passes over it anyway
      subst ha
      simp [ih, h]
    · by_cases hk' : k' = a
      · simp [ha, hk']
      · simp [ha, hk', ih]

theorem lookup_eraseKey_self (es : List (String × β)) (k : String) :
    (eraseKey k es).lookup k = none := by
  unfold eraseKey
  induction es with
  | nil => rfl
  | cons e es ih =>
    obtain ⟨a, v⟩ := e
    by_cases ha : a = k
    · simp [ha, ih]
    · simp [ha, Ne.symm ha, ih]

theorem lookup_eq_none_of_lt {a : String} {es : List (String × β)} (h : ∀ e ∈ es, a < e.1) :
    es.lookup a = none := by
  induction es with
  | nil => rfl
  | cons e rest ih =>
    obtain ⟨k, v⟩ := e
    have hne : a ≠ k := (h (k, v) List.mem_cons_self).ne
    rw [lookup_cons, if_neg hne]
    exact ih fun e he => h e (List.mem_cons_of_mem _ he)

/-- The key of the first entry is the least: a smaller key has no entry. -/
theorem lookup_eq_none_of_lt_head {a k : String} {v : β} {es : List (String × β)}
    (hs : Sorted ((k, v) :: es)) (hlt : a < k) : ((k, v) :: es).lookup a = none := by
  refine lookup_eq_none_of_lt fun e he => ?_
  rcases List.mem_cons.1 he with rfl | he
  · exact hlt
  · exact hlt.trans (List.rel_of_pairwise_cons hs he)

theorem eq_of_lookup_eq : ∀ {es es' : List (String × β)}, Sorted es → Sorted es' →
    (∀ a, es.lookup a = es'.lookup a) → es = es'
  | [], [], _, _, _ => rfl
  | [], (k, v) :: _, _, _, h => by simpa using h k
  | (k, v) :: _, [], _, _, h => by simpa using h k
  | (k, v) :: es, (k', v') :: es', hs, hs', h => by
    -- the first keys agree: the smaller one would have no entry in the other list
    have hk : k = k' := by
      rcases lt_trichotomy k k' with hlt | heq | hgt
      · have := h k
        rw [lookup_eq_none_of_lt_head hs' hlt] at this
        simp at this
      · exact heq
      · have := h k'
        rw [lookup_eq_none_of_lt_head hs hgt] at this
        simp at this
    subst hk
    have hv : v = v' := by simpa using h k
    subst hv
    congr 1
    refine eq_of_lookup_eq hs.of_cons hs'.of_cons fun a => ?_
    by_cases ha : a = k
    · -- the first key has no entry further on in either list
      subst ha
      rw [lookup_eq_none_of_lt fun e he => List.rel_of_pairwise_cons hs he,
        lookup_eq_none_of_lt fun e he => List.rel_of_pairwise_cons hs' he]
    · simpa [ha] using h a

end Glitch.Keyed
