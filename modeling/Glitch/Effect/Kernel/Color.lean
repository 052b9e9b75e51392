import Glitch.Effect.Basic
/-!
Effects that recolor each pixel on its own, from its own color: the photographic negative,
posterization to a few levels per channel, and a rotation of hue. None of them keeps state.
-/

/-!
## Invert

The photographic negative of the color channels; alpha is kept. Applying it twice gives
the frame back.
-/

namespace Glitch.Invert

/-- Every color byte `c` becomes `255 - c`. -/
def run (f : Frame) : Frame := f.map (Pixel.mapColor (fun c => 255 - c))

def effect : Effect where
  id := "fx.invert"
  name := "Invert"
  category := "fx"
  description := "Photographic negative of the color channels"
  params := []
  apply := fun f _ _ _ => .ok (run f, none)

end Glitch.Invert

/-!
## Posterize

Each color channel snapped to the centre of one of `levels` equal bands, `levels`
from 2 to 32 (default 4). With `step = 256 / levels`, byte `v` becomes
`⌊v / step⌋ * step + step / 2`, clamped to a byte, all in binary32.
-/

namespace Glitch.Posterize

/-- The number of levels: the `levels` parameter clamped into `[2, 32]`, default 4. -/
def levels (p : Params) : Int := max 2 (min 32 (p.getI64 "levels" 4))

def table (levels : Int) : Array UInt8 :=
  let step : F32 := 256 / Binary.ofInt levels
  (List.range 256).toArray.map fun v =>
    ((Binary.ofNat v / step).floor * step + step / 2).clamp 0 255 |>.toUInt8

/-- Every color byte looked up in the table. -/
def run (levels : Int) (f : Frame) : Frame :=
  let t := table levels
  f.map (Pixel.mapColor (fun c => t.getD c.toNat c))

def effect : Effect where
  id := "fx.posterize"
  name := "Posterize"
  category := "enhance"
  description := "Reduce color levels per channel"
  params := [ParamSpec.range "levels" "Color Levels" .int 2 32 (.integer 4)]
  apply := fun f p _ _ => .ok (run (levels p) f, none)

end Glitch.Posterize

/-!
## Hue shift

Each pixel's hue rotated by `amount` degrees in HSV space, saturation, value and
alpha kept. The amount is the `amount` parameter (default 180) taken modulo 360; at 0 the frame
is kept. Conversions to and from HSV are in binary32; the result channels are rounded half away
from zero and clamped to a byte.
-/

namespace Glitch.HueShift

def toHsv (r g b : UInt8) : F32 × F32 × F32 :=
  let r : F32 := Binary.ofUInt8 r / 255
  let g : F32 := Binary.ofUInt8 g / 255
  let b : F32 := Binary.ofUInt8 b / 255
  let mx := (r.max g).max b
  let mn := (r.min g).min b
  let delta := mx - mn
  let h : F32 :=
    if delta.eq 0 then 0
    else if mx.eq r then 60 * ((g - b) / delta).remEuclid 6
    else if mx.eq g then 60 * ((b - r) / delta + 2)
    else 60 * ((r - g) / delta + 4)
  let s : F32 := if mx.eq 0 then 0 else delta / mx
  (h, s, mx)

/-- Color bytes of hue `h`, saturation `s` and value `v`. -/
def ofHsv (h s v : F32) : UInt8 × UInt8 × UInt8 :=
  let c := v * s
  let x := c * (1 - ((h / 60).remEuclid 2 - 1).abs)
  let m := v - c
  let (r, g, b) : F32 × F32 × F32 :=
    match (h / 60).toUInt32.toNat with
    | 0 => (c, x, 0)
    | 1 => (x, c, 0)
    | 2 => (0, c, x)
    | 3 => (0, x, c)
    | 4 => (x, 0, c)
    | _ => (c, 0, x)
  let byte (ch : F32) : UInt8 := ((ch + m) * 255).roundHalfAway.clamp 0 255 |>.toUInt8
  (byte r, byte g, byte b)

def shiftPixel (amount : F32) (p : Pixel) : Pixel :=
  let (h, s, v) := toHsv p.r p.g p.b
  let (r, g, b) := ofHsv ((h + amount).remEuclid 360) s v
  ⟨r, g, b, p.a⟩

/-- The rotation: the `amount` parameter modulo 360, default 180. -/
def amount (p : Params) : F32 := (p.getF32 "amount" 180).remEuclid 360

def run (amount : F32) (f : Frame) : Frame :=
  if amount.eq 0 then f else f.map (shiftPixel amount)

def effect : Effect where
  id := "fx.hue_shift"
  name := "Hue Shift"
  category := "color"
  description := "Rotate hue in HSV space"
  params := [(ParamSpec.range "amount" "Amount" .float 0 360 (.float 180)).withUnit "deg"]
  apply := fun f p _ _ => .ok (run (amount p) f, none)

end Glitch.HueShift
