import Glitch.Effect.Basic
import Glitch.Random.Uniform
/-!
VHS: the look of worn tape, in five passes over the frame, each of its own strength:

* scan lines darken even rows by `0.4 i` and odd rows by `0.2 i`, every eighth row by a further
  factor 0.7 when `i > 0.5`;
* color bleeding smears red to the right and blue to the left, green a little both ways;
* chroma shift moves red by `⌊4 i⌋` columns one way and blue the other, clamped at the edges;
* tracking errors displace random rows by up to 2 or 8 columns, sometimes dragging the next row
  half as far, and fill the uncovered columns with dim snow;
* noise sprinkles grain, bright snow and dark dropouts over random pixels.

Every random choice comes from the generator seeded with the run's seed, so one seed always
gives the same picture. Each strength is its parameter clamped into `[0, 1]`, times the overall
`intensity`. Alpha is never changed. The passes that read other pixels than the one they write
read through `Frame.get?` and stop (`none`) at a read outside the frame, where the source panics.
-/
namespace Glitch.Vhs

def val (c : UInt8) : F32 := Binary.ofUInt8 c

def scanlines (i : F32) (f : Frame) : Frame :=
  if i.le 0 then f
  else f.mapXY fun _ y p =>
    let factor : F32 := if y % 2 = 0 then 1 - i * 0.4 else 1 - i * 0.2
    let factor := if y % 8 = 0 && (0.5 : F32).lt i then factor * 0.7 else factor
    p.mapColor fun c => (val c * factor).toUInt8

/-- Red and blue smeared sideways with strength `i`, on frames at least 5 wide. -/
def bleed (i : F32) (f : Frame) : Option Frame :=
  if i.le 0 || f.width < 5 then some f
  else
    let blend := i * 0.4
    f.mapXY? fun x y p =>
      if 2 ≤ x && x + 2 < f.width then do
        let l1 ← f.get? (x - 1) y
        let l2 ← f.get? (x - 2) y
        let r1 ← f.get? (x + 1) y
        let r2 ← f.get? (x + 2) y
        let red := (val r1.r * 0.7 + val r2.r * 0.3) * blend
        let blue := (val l1.b * 0.7 + val l2.b * 0.3) * blend
        let green := (val l1.g + val r1.g) * 0.5 * blend * 0.3
        pure ⟨(val p.r * (1 - blend) + red).toUInt8, (val p.g * (1 - blend * 0.3) + green).toUInt8,
         (val p.b * (1 - blend) + blue).toUInt8, p.a⟩
      else pure p

/-- Red moved by `⌊4 i⌋` columns to the left and blue to the right, clamped at the edges. -/
def chroma (i : F32) (f : Frame) : Option Frame :=
  let shift := (i * 4).toInt64
  if shift = 0 || f.width = 0 then some f
  else
    let maxX : Int := (f.width : Int) - 1
    f.mapXY? fun x y p => do
      let red ← f.get? (max 0 (min maxX ((x : Int) + shift))).toNat y
      let blue ← f.get? (max 0 (min maxX ((x : Int) - shift))).toNat y
      pure ⟨red.r, p.g, blue.b, p.a⟩

/-- Row `y` moved right by `disp` columns; columns with nothing to show get snow. The row is read
whole before it moves. -/
def displaceRow (y : Nat) (disp : Int) (fg : Frame × Rng) : Option (Frame × Rng) :=
  if disp = 0 then some fg
  else do
    let w := fg.1.width
    let saved ← (List.range w).mapM fun x => fg.1.get? x y
    (List.range w).foldlM (fun (fg : Frame × Rng) (x : Nat) => do
      let src : Int := (x : Int) - disp
      let here ← fg.1.get? x y
      if 0 ≤ src && src < w then
        let s ← saved[src.toNat]?
        pure (fg.1.set x y ⟨s.r, s.g, s.b, here.a⟩, fg.2)
      else
        let (snow, g) := fg.2.rangeSmall 0 64
        pure (fg.1.set x y (here.withGray snow.toNat.toUInt8), g)) fg

/-- The tracking error at row `y`, if the row is hit. -/
def trackRow (prob : F32) (fg : Frame × Rng) (y : Nat) : Option (Frame × Rng) :=
  let (f, g) := fg
  let (u, g) := g.unitF32
  if prob.le u then some (f, g)
  else
    let (c, g) := g.unitF32
    let (disp, g) := if c.lt 0.7 then g.rangeWide (-2) 2 else g.rangeWide (-8) 8
    (displaceRow y disp (f, g)).bind fun fg =>
      let (c, g) := fg.2.unitF32
      if c.lt 0.3 && y + 1 < fg.1.height then displaceRow (y + 1) (disp.tdiv 2) (fg.1, g)
      else some (fg.1, g)

def tracking (i : F32) (f : Frame) (g : Rng) : Option (Frame × Rng) :=
  if i.le 0 then some (f, g)
  else (List.range f.height).foldlM (trackRow (i * 0.15)) (f, g)

def noisePixel (prob : F32) (g : Rng) (p : Pixel) : Pixel × Rng :=
  let (u, g) := g.unitF32
  if prob.le u then (p, g)
  else
    let (kind, g) := g.unitF32
    if kind.lt 0.6 then
      let (grain, g) := g.rangeSmall (-30) 30
      (p.mapColor (fun c => (max 0 (min 255 ((c.toNat : Int) + grain))).toNat.toUInt8), g)
    else if kind.lt 0.8 then
      let (snow, g) := g.rangeSmall 200 255
      (p.withGray snow.toNat.toUInt8, g)
    else
      let (dropout, g) := g.rangeSmall 0 40
      (p.withGray dropout.toNat.toUInt8, g)

def noise (i : F32) (f : Frame) (g : Rng) : Frame × Rng :=
  if i.le 0 then (f, g) else f.mapAccum (noisePixel (i * 0.08)) g

def level (p : Params) (k : String) (d : F32) : F32 := (p.getF32 k d).clamp 0 1

def run (p : Params) (seed : Nat) (f : Frame) : Option Frame := do
  let i := level p "intensity" 1
  let f := scanlines (level p "scanline_intensity" 0.9 * i) f
  let f ← bleed (level p "color_bleeding" 0.8 * i) f
  let f ← chroma (level p "chroma_shift" 0.7 * i) f
  let fg ← tracking (level p "tracking_error" 0.5 * i) f (Rng.ofSeed seed)
  pure (noise (level p "noise_level" 0.6 * i) fg.1 fg.2).1

def effect : Effect where
  id := "fx.vhs"
  name := "VHS"
  category := "retro"
  description := "VHS tape aesthetic with scan lines, color bleeding, tracking errors and noise"
  params :=
    let unit (name label : String) (d : F32) := ParamSpec.range name label .float 0 1 (.float d)
    [unit "intensity" "Intensity" 1, unit "scanline_intensity" "Scan Lines" 0.9,
     unit "color_bleeding" "Color Bleeding" 0.8, unit "chroma_shift" "Chroma Shift" 0.7,
     unit "tracking_error" "Tracking Error" 0.5, unit "noise_level" "Noise" 0.6]
  apply := fun f p _ ctx => Effect.orPanic "fx.vhs" ((run p ctx.seed f).map (·, none))

end Glitch.Vhs
