import Glitch.Float.Binary
/-!
Masks: one weight in `[0, 1]` per pixel, row by row. Weights are clamped into `[0, 1]` when a
mask is made, and a weight that is NaN or infinite becomes 0.
-/
namespace Glitch

def clampWeight (w : F32) : F32 := if w.isFinite then w.clamp 0 1 else 0

/-- A per-pixel weight map of `width * height` weights, row by row. -/
structure Mask where
  width : Nat
  height : Nat
  weights : Array F32
  size_eq : weights.size = width * height

namespace Mask

instance : DecidableEq Mask := fun m n =>
  if h : m.width = n.width ∧ m.height = n.height ∧ m.weights = n.weights then
    isTrue (by
      cases m; cases n
      obtain ⟨h1, h2, h3⟩ := h
      subst h1 h2 h3
      rfl)
  else isFalse (by
    intro e
    subst e
    exact h ⟨rfl, rfl, rfl⟩)

/-- The mask of the given weights, clamped; `none` unless there are `w * h` of them. -/
def new? (w h : Nat) (ws : Array F32) : Option Mask :=
  if hs : ws.size = w * h then some ⟨w, h, ws.map clampWeight, by simp [hs]⟩ else none

def filled (w h : Nat) (weight : F32) : Mask :=
  ⟨w, h, Array.replicate (w * h) (clampWeight weight), by simp⟩

def dims (m : Mask) : Nat × Nat := (m.width, m.height)

/-- The weight stored at position `y * width + x`, if there is one. -/
def get? (m : Mask) (x y : Nat) : Option F32 := m.weights[y * m.width + x]?

end Mask

end Glitch
