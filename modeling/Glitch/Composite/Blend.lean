import Glitch.Error
import Glitch.Float.Binary
import Glitch.Log
/-!
Blend modes: how a layer's channel value combines with the canvas below it, on unclamped
binary32 values in the 0–255 scale. The result is then interpolated from the canvas value by
the layer's opacity: `base * (1 - o) + blend(base, layer) * o`.

Names are matched without regard to ASCII letter case; a lenient reading turns an unknown name
into `normal` with a warning.
-/
namespace Glitch

/-- A blend mode. -/
inductive BlendMode where
  | normal
  | add
  | multiply
  | screen
  | overlay
  | difference
  | exclusion
  | darken
  | lighten
  deriving DecidableEq, Repr, Inhabited

namespace BlendMode

def all : List BlendMode :=
  [.normal, .add, .multiply, .screen, .overlay, .difference, .exclusion, .darken, .lighten]

def name : BlendMode → String
  | .normal => "normal"
  | .add => "add"
  | .multiply => "multiply"
  | .screen => "screen"
  | .overlay => "overlay"
  | .difference => "difference"
  | .exclusion => "exclusion"
  | .darken => "darken"
  | .lighten => "lighten"

def parse (s : String) : Outcome BlendMode :=
  let lower := String.ofList (s.toList.map Char.toLower)
  match all.find? (fun m => m.name == lower) with
  | some m => .ok m
  | none => .error (.composition (.unknownBlendMode s))

def unknownLine (s : String) : LogLine :=
  ⟨.warn, "glitchframe::composition::blend", "Unknown blend mode '" ++ s ++ "', using normal"⟩

def ofNameOrNormal (s : String) : BlendMode × List LogLine :=
  match parse s with
  | .ok m => (m, [])
  | .error _ => (.normal, [unknownLine s])

/-- One channel of the layer combined with the canvas, before opacity. -/
def blend (m : BlendMode) (base layer : F32) : F32 :=
  match m with
  | .normal => layer
  | .add => base + layer
  | .multiply => base * layer / 255
  | .screen => 255 - (255 - base) * (255 - layer) / 255
  | .overlay =>
    if base.lt 128 then 2 * base * layer / 255
    else 255 - 2 * (255 - base) * (255 - layer) / 255
  | .difference => (base - layer).abs
  | .exclusion => base + layer - 2 * base * layer / 255
  | .darken => base.min layer
  | .lighten => base.max layer

/-- The blend interpolated from the canvas value by `opacity`. -/
def composite (m : BlendMode) (base layer opacity : F32) : F32 :=
  base * (1 - opacity) + m.blend base layer * opacity

end BlendMode

end Glitch
