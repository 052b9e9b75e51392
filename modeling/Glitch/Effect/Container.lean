import Glitch.Effect.Basic
import Glitch.Seed.Sha256
import Glitch.Log
/-!
The container around one effect run. It does for every effect what the user can ask of any
effect, in this order:

1. drop float parameters that are NaN or infinite;
2. derive the seed from the project seed, the effect id, the frame index and the `seed`
   parameter read as an integer (0 when absent);
3. take out `_mask`, which counts only when it holds a mask;
4. take out `_mix`, read as a number (1 when absent or not a number) and clamped into `[0, 1]`;
5. refuse a mask whose size differs from the frame's, before the effect runs;
6. run the effect on the remaining parameters and refuse an output of another size;
7. mix: the dry frame when the mix is at most 0, each byte `dry * (1 - t) + wet * t` when it
   is below 1, the wet frame otherwise;
8. blend the result back toward the dry frame by the mask's weight, on all four channels.

Blended bytes are computed in binary32, clamped to `[0, 255]` and truncated.
-/
namespace Glitch.Container

/-- `dry * (1 - t) + wet * t` in binary32, clamped and truncated to a byte. -/
def lerpByte (dry wet : UInt8) (t : F32) : UInt8 :=
  (Binary.ofUInt8 dry * (1 - t) + Binary.ofUInt8 wet * t).clamp 0 255 |>.toUInt8

def lerpPixel (t : F32) (dry wet : Pixel) : Pixel :=
  ⟨lerpByte dry.r wet.r t, lerpByte dry.g wet.g t, lerpByte dry.b wet.b t, lerpByte dry.a wet.a t⟩

def mixFrames (dry wet : Frame) (t : F32) : Frame := dry.zipWith (lerpPixel t) wet

def applyMask (dry wet : Frame) (m : Mask) : Frame :=
  ⟨dry.width, dry.height,
    dry.pixels.mapIdx (fun i p => lerpPixel (m.weights.getD i 0) p (wet.pixel i)),
    by simp [dry.size_eq]⟩

/-- Parameters with what the container reads taken out: the cleaned parameters the effect sees,
the mask if `_mask` held one, and the clamped mix. -/
structure Split where
  params : Params
  mask : Option Mask
  mix : F32

/-- Clean the parameters: drop non-finite floats, then take out `_mask` and `_mix`. -/
def split (p : Params) : Split :=
  let p := p.retainFinite
  let (m, p) := p.remove maskKey
  let (x, p) := p.remove mixKey
  ⟨p, m.bind ParamValue.asMask?, ((x.bind ParamValue.asF32?).getD 1).clamp 0 1⟩

/-- The user's sub-seed: the `seed` parameter, after non-finite floats are dropped, as an
integer, or 0. -/
def userSeed (p : Params) : Int := (p.retainFinite.getI64? seedKey).getD 0

def finish (dry wet : Frame) (s : Split) : Frame :=
  let mixed := if s.mix.le 0 then dry else if s.mix.lt 1 then mixFrames dry wet s.mix else wet
  match s.mask with
  | some m => applyMask dry mixed m
  | none => mixed

def process (e : Effect) (f : Frame) (p : Params) (state : Option EffectState)
    (frameIndex projectSeed : Nat) (resolution : Nat × Nat) : Outcome (Frame × Option EffectState) :=
  let s := split p
  let ctx : EffectContext := ⟨frameIndex, deriveSeed projectSeed e.id frameIndex (userSeed p), resolution⟩
  match s.mask with
  | some m =>
    if m.dims ≠ f.dims then .error (.effect (.maskShape e.id f.dims m.dims))
    else run s ctx
  | none => run s ctx
where
  /-- Run the effect and check its output size. -/
  run (s : Split) (ctx : EffectContext) : Outcome (Frame × Option EffectState) :=
    match e.apply f s.params state ctx with
    | .error err => .error err
    | .ok (wet, st) =>
      if wet.dims ≠ f.dims then .error (.effect (.outputShape e.id f.dims wet.dims))
      else .ok (finish f wet s, st)

def appliedLine (effectId : String) (frameIndex : Nat) (p : Params) : LogLine :=
  let s := split p
  ⟨.debug, "glitchframe::effects::container", withFields "effect applied"
    [("effect", quoteDebug effectId), ("frame_index", toString frameIndex),
     ("mix", s.mix.toDebugText), ("masked", if s.mask.isSome then "true" else "false")]⟩

end Glitch.Container
