import Glitch.Effect.Basic
/-!
Echo: a trail of earlier frames. The effect keeps its previous output as state. When that
buffer has the frame's size, each color byte `x` becomes `x * (1 - d) + p * d` in binary32,
rounded half away from zero and clamped, with `p` the buffered byte and `d` the `decay`
parameter clamped into `[0, 0.95]` (default 0.6); otherwise the frame is kept. Either way the
output becomes the next state.
-/
namespace Glitch.Echo

/-- The decay: the `decay` parameter clamped into `[0, 0.95]`, default 0.6. -/
def decay (p : Params) : F32 := (p.getF32 "decay" 0.6).clamp 0 0.95

def blendByte (d : F32) (x p : UInt8) : UInt8 :=
  (Binary.ofUInt8 x * (1 - d) + Binary.ofUInt8 p * d).roundHalfAway.clamp 0 255 |>.toUInt8

def blendPixel (d : F32) (x p : Pixel) : Pixel :=
  ⟨blendByte d x.r p.r, blendByte d x.g p.g, blendByte d x.b p.b, x.a⟩

/-- The buffered frame, if the state holds one of the frame's size. -/
def previous (state : Option EffectState) (f : Frame) : Option Frame :=
  match state.bind EffectState.toFrame? with
  | some prev => if prev.dims = f.dims then some prev else none
  | none => none

def run (d : F32) (state : Option EffectState) (f : Frame) : Frame :=
  match previous state f with
  | some prev => f.zipWith (blendPixel d) prev
  | none => f

def effect : Effect where
  id := "fx.echo"
  name := "Echo"
  category := "time"
  description := "Ghosting trail built from previous frames"
  params := [ParamSpec.range "decay" "Decay" .float 0 0.95 (.float 0.6)]
  apply := fun f p s _ =>
    let out := run (decay p) s f
    .ok (out, some (EffectState.ofFrame out))

end Glitch.Echo
