import Glitch.Effect.Basic
import Glitch.Random.Uniform
import Glitch.Float.Binary
/-!
Noise: gaussian grain over the color channels, seeded by the run's seed. Each color byte `c`,
pixel by pixel and red, green, blue in turn, becomes `c + z * sigma` rounded half away from
zero and clamped to a byte, where `sigma = 50 * intensity` and `z` is a standard normal sample by
the Box–Muller transform: `sqrt(-2 ln u1) * cos(2π u2)` with `u1` in `[2^-23, 1)` and `u2` in
`[0, 1)`, all in binary32. Intensity is clamped into `[0, 1]` (default 0.3); at 0 the frame is
kept.
-/
namespace Glitch.Noise

def epsilon : F32 := ⟨0x34000000⟩

def tau : F32 := ⟨0x40c90fdb⟩

def gaussian (g : Rng) : F32 × Rng :=
  -- draws are named as pairs, not taken apart by a match: a match on a draw would have the
  -- kernel run the rejection loop on an unknown generator whenever it unfolds a sample
  let d1 := g.rangeF32 epsilon 1
  let d2 := d1.2.unitF32
  ((-2 * d1.1.ln).sqrt * (tau * d2.1).cos, d2.2)

def grain (sigma : F32) (g : Rng) (c : UInt8) : UInt8 × Rng :=
  let z := gaussian g
  ((Binary.ofUInt8 c + z.1 * sigma).roundHalfAway.clamp 0 255 |>.toUInt8, z.2)

/-- One pixel with grain added to red, green and blue. -/
def grainPixel (sigma : F32) (g : Rng) (p : Pixel) : Pixel × Rng :=
  let r := grain sigma g p.r
  let gr := grain sigma r.2 p.g
  let b := grain sigma gr.2 p.b
  (⟨r.1, gr.1, b.1, p.a⟩, b.2)

/-- The intensity: the `intensity` parameter clamped into `[0, 1]`, default 0.3. -/
def intensity (p : Params) : F32 := (p.getF32 "intensity" 0.3).clamp 0 1

/-- Grain of intensity `i` from the generator seeded with `seed`. -/
def run (i : F32) (seed : Nat) (f : Frame) : Frame :=
  if i.eq 0 then f else (f.mapAccum (grainPixel (50 * i)) (Rng.ofSeed seed)).1

def effect : Effect where
  id := "fx.noise"
  name := "Noise"
  category := "texture"
  description := "Random noise overlay; the same seed always gives the same grain"
  params := [(ParamSpec.range "intensity" "Intensity" .float 0 1 (.float 0.3)).withCurve .exponential
    |>.withUnit "%"]
  apply := fun f p _ ctx => .ok (run (intensity p) ctx.seed f, none)

end Glitch.Noise
