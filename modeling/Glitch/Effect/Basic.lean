import Glitch.Error
import Glitch.Frame.Basic
import Glitch.Effect.Spec
/-!
Effects and registries of effects.

The only state an effect carries from one frame to the next is a retained RGBA buffer, usually
its previous output. An effect is a function of the frame, its parameters, that state and the
run's context (frame index, derived seed, output size). It returns the wet frame and the state
to carry on. A registry holds effects by id, sorted by id, one effect per id.
-/
namespace Glitch

/-- Carried effect state: a retained buffer of the given size. -/
inductive EffectState where
  | buffer (width height : Nat) (data : Array UInt8)
  deriving DecidableEq, Repr

namespace EffectState

def ofFrame (f : Frame) : EffectState := .buffer f.width f.height f.bytes

/-- The frame held by a buffer; `none` when the buffer is shorter than its size says. -/
def toFrame? : EffectState → Option Frame
  | .buffer w h d => Frame.ofBytes? w h d

end EffectState

/-- What an effect run knows besides frame, parameters and state. -/
structure EffectContext where
  frameIndex : Nat
  seed : Nat
  resolution : Nat × Nat

/-- An effect: its description and its transform. -/
structure Effect where
  id : String
  name : String
  category : String
  description : String
  params : List ParamSpec
  apply : Frame → Params → Option EffectState → EffectContext → Outcome (Frame × Option EffectState)

/-- The outcome of an effect run that stops at a pixel read outside its frame (`none`): the
source panics there, and the model reports the effect as failed. -/
def Effect.orPanic {α : Type} (id : String) : Option α → Outcome α
  | some a => .ok a
  | none => .error (.effect (.failed id "pixel index out of bounds"))

theorem Effect.orPanic_error {α : Type} {id : String} {o : Option α} {e : GlitchError}
    (h : Effect.orPanic id o = .error e) : e = .effect (.failed id "pixel index out of bounds") := by
  cases o <;> cases h
  rfl

def Effect.info (e : Effect) : EffectInfo := ⟨e.id, e.name, e.category, e.description, e.params⟩

namespace Registry

def insertSorted (e : Effect) : List Effect → List Effect
  | [] => [e]
  | d :: rest =>
    if e.id < d.id then e :: d :: rest
    else if e.id = d.id then e :: rest
    else d :: insertSorted e rest

theorem mem_insertSorted {e d : Effect} {es : List Effect} (h : d ∈ insertSorted e es) :
    d = e ∨ d ∈ es := by
  induction es with
  | nil => simpa [insertSorted] using h
  | cons x rest ih =>
    unfold insertSorted at h
    split at h
    · simpa using h
    · split at h
      · rcases List.mem_cons.1 h with rfl | h
        · exact .inl rfl
        · exact .inr (List.mem_cons_of_mem x h)
      · rcases List.mem_cons.1 h with rfl | h
        · exact .inr List.mem_cons_self
        · exact (ih h).imp_right (List.mem_cons_of_mem x)

theorem sorted_insertSorted (e : Effect) {es : List Effect}
    (hs : es.Pairwise fun a b => a.id < b.id) :
    (insertSorted e es).Pairwise fun a b => a.id < b.id := by
  induction es with
  | nil => exact List.pairwise_singleton _ _
  | cons d rest ih =>
    have ⟨hhead, htail⟩ := List.pairwise_cons.1 hs
    unfold insertSorted
    split
    · rename_i hlt
      refine List.pairwise_cons.2 ⟨fun x hx => ?_, hs⟩
      rcases List.mem_cons.1 hx with rfl | hx
      · exact hlt
      · exact String.lt_trans hlt (hhead x hx)
    · split
      · rename_i heq
        refine List.pairwise_cons.2 ⟨fun x hx => ?_, htail⟩
        rw [heq]
        exact hhead x hx
      · -- `d` stays first: its id is below `e`'s and below every id after it
        rename_i hlt heq
        have hgt : d.id < e.id := String.not_le.1 fun hle =>
          heq (String.le_antisymm hle (String.not_lt.1 hlt))
        refine List.pairwise_cons.2 ⟨fun x hx => ?_, ih htail⟩
        rcases mem_insertSorted hx with rfl | hx
        · exact hgt
        · exact hhead x hx

end Registry

/-- Effects by id, sorted by id, each id once. -/
structure Registry where
  effects : List Effect
  sorted : effects.Pairwise fun a b => a.id < b.id

namespace Registry

def empty : Registry := ⟨[], List.Pairwise.nil⟩

def register (r : Registry) (e : Effect) : Registry :=
  ⟨insertSorted e r.effects, sorted_insertSorted e r.sorted⟩

def find? (r : Registry) (id : String) : Option Effect := r.effects.find? (fun e => e.id == id)

def has (r : Registry) (id : String) : Bool := (r.find? id).isSome

def ids (r : Registry) : List String := r.effects.map Effect.id

def infos (r : Registry) : List EffectInfo := r.effects.map Effect.info

def size (r : Registry) : Nat := r.effects.length

/-- The registry of a list of effects, later ones replacing earlier ones of the same id. -/
def ofList (es : List Effect) : Registry := es.foldl register empty

end Registry

end Glitch
