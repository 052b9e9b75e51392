import Glitch.Float.Binary
import Glitch.Frame.Mask
/-!
Effect parameters: a map from names to small values. A value is a boolean, a 64-bit integer, a
binary32 number, a string or a mask; effects read what they understand through the `as…`
views and fall back to their defaults for anything else.

The maps of the library are lists of entries sorted by a string key, each key once; the map
carries that order as a field, so two maps with the same entries are equal and every map built
by the library's operations is one.
-/
namespace Glitch

/-! ## Keyed lists -/

/-- Put `(k, v)` into a list sorted by key, replacing the entry with key `k`. -/
def insertKey {β : Type} (k : String) (v : β) : List (String × β) → List (String × β)
  | [] => [(k, v)]
  | (k', v') :: rest =>
    if k < k' then (k, v) :: (k', v') :: rest
    else if k = k' then (k, v) :: rest
    else (k', v') :: insertKey k v rest

def eraseKey {β : Type} (k : String) (es : List (String × β)) : List (String × β) :=
  es.filter (fun e => e.1 != k)

namespace Keyed

variable {β : Type}

/-- Keys strictly increasing along the list: sorted, each key once. -/
def Sorted (es : List (String × β)) : Prop := es.Pairwise (fun a b => a.1 < b.1)

instance (es : List (String × β)) : Decidable (Sorted es) :=
  inferInstanceAs (Decidable (es.Pairwise _))

/-- Every entry after an insert is the inserted one or an entry from before. -/
theorem mem_insertKey {k : String} {v : β} {es : List (String × β)} {e : String × β}
    (h : e ∈ insertKey k v es) : e = (k, v) ∨ e ∈ es := by
  induction es with
  | nil => simpa [insertKey] using h
  | cons e' rest ih =>
    unfold insertKey at h
    split at h
    · simpa using h
    · split at h
      · rcases List.mem_cons.1 h with h | h
        · exact .inl h
        · exact .inr (List.mem_cons_of_mem _ h)
      · rcases List.mem_cons.1 h with h | h
        · exact .inr (h ▸ List.mem_cons_self)
        · rcases ih h with h | h
          · exact .inl h
          · exact .inr (List.mem_cons_of_mem _ h)

theorem sorted_insertKey (k : String) (v : β) {es : List (String × β)} (hs : Sorted es) :
    Sorted (insertKey k v es) := by
  induction es with
  | nil => exact List.pairwise_singleton _ _
  | cons e rest ih =>
    obtain ⟨k', v'⟩ := e
    have ⟨hhead, htail⟩ := List.pairwise_cons.1 hs
    unfold insertKey
    split
    · -- the new entry goes in front of `k'` and so of all the keys after it
      rename_i hlt
      refine List.pairwise_cons.2 ⟨fun e he => ?_, hs⟩
      rcases List.mem_cons.1 he with rfl | he
      · exact hlt
      · exact String.lt_trans hlt (hhead e he)
    · split
      · rename_i heq
        subst heq
        exact List.pairwise_cons.2 ⟨hhead, htail⟩
      · -- `k'` stays first: it is below `k` and below every key of the rest
        rename_i hlt heq
        have hgt : k' < k := String.not_le.1 fun hle =>
          heq (String.le_antisymm hle (String.not_lt.1 hlt))
        refine List.pairwise_cons.2 ⟨fun e he => ?_, ih htail⟩
        rcases mem_insertKey he with rfl | he
        · exact hgt
        · exact hhead e he

theorem Sorted.filter {es : List (String × β)} (hs : Sorted es) (q : String × β → Bool) :
    Sorted (es.filter q) :=
  List.Pairwise.filter q hs

end Keyed

/-- A parameter value. -/
inductive ParamValue where
  | bool (b : Bool)
  | integer (i : Int)
  | float (x : F32)
  | string (s : String)
  | mask (m : Mask)
  deriving DecidableEq

namespace ParamValue

/-- A number: a float as is, an integer rounded to binary32. -/
def asF32? : ParamValue → Option F32
  | .float x => some x
  | .integer i => some (Binary.ofInt i)
  | _ => none

/-- An integer: an integer as is, a finite float truncated and saturated to 64 bits. -/
def asI64? : ParamValue → Option Int
  | .integer i => some i
  | .float x => if x.isFinite then some x.toInt64 else none
  | _ => none

/-- A boolean, also from the strings `true` and `false` in any letter case. -/
def asBool? : ParamValue → Option Bool
  | .bool b => some b
  | .string s =>
    let l := s.toList.map Char.toLower
    if l == "true".toList then some true else if l == "false".toList then some false else none
  | _ => none

def asStr? : ParamValue → Option String
  | .string s => some s
  | _ => none

def asMask? : ParamValue → Option Mask
  | .mask m => some m
  | _ => none

def isNonFinite : ParamValue → Bool
  | .float x => !x.isFinite
  | _ => false

end ParamValue

/-- Effect parameters, sorted by name, each name once. -/
structure Params where
  entries : List (String × ParamValue)
  sorted : Keyed.Sorted entries

namespace Params

instance : DecidableEq Params := fun p q =>
  decidable_of_iff (p.entries = q.entries) (by cases p; cases q; simp)

def empty : Params := ⟨[], List.Pairwise.nil⟩

def get? (p : Params) (k : String) : Option ParamValue := p.entries.lookup k

def insert (p : Params) (k : String) (v : ParamValue) : Params :=
  ⟨insertKey k v p.entries, Keyed.sorted_insertKey k v p.sorted⟩

def remove (p : Params) (k : String) : Option ParamValue × Params :=
  (p.get? k, ⟨eraseKey k p.entries, p.sorted.filter _⟩)

def contains (p : Params) (k : String) : Bool := (p.get? k).isSome

def size (p : Params) : Nat := p.entries.length

def keys (p : Params) : List String := p.entries.map Prod.fst

/-- The map without floats that are NaN or infinite. -/
def retainFinite (p : Params) : Params :=
  ⟨p.entries.filter (fun e => !e.2.isNonFinite), p.sorted.filter _⟩

/-- The map of a list of entries, later entries replacing earlier ones. -/
def ofList (es : List (String × ParamValue)) : Params :=
  es.foldl (fun p e => p.insert e.1 e.2) empty

def getF32? (p : Params) (k : String) : Option F32 := (p.get? k).bind ParamValue.asF32?

def getI64? (p : Params) (k : String) : Option Int := (p.get? k).bind ParamValue.asI64?

def getBool? (p : Params) (k : String) : Option Bool := (p.get? k).bind ParamValue.asBool?

def getStr? (p : Params) (k : String) : Option String := (p.get? k).bind ParamValue.asStr?

def getF32 (p : Params) (k : String) (d : F32) : F32 := (p.getF32? k).getD d

def getI64 (p : Params) (k : String) (d : Int) : Int := (p.getI64? k).getD d

def getBool (p : Params) (k : String) (d : Bool) : Bool := (p.getBool? k).getD d

end Params

/-- The name under which the container reads the dry/wet mix. -/
def mixKey : String := "_mix"

/-- The name under which the container reads the mask. -/
def maskKey : String := "_mask"

def seedKey : String := "seed"

end Glitch
