import Glitch.Effect.Basic
/-!
Channel shift: the red, green and blue channels rolled horizontally by their own offsets,
wrapping around the row; alpha is kept. Channel `k` at column `x` takes the value at column
`(x - offset_k) mod width`. Offsets are the `r_offset`, `g_offset` and `b_offset` parameters
(defaults 10, 0 and -10), each clamped into `[-50, 50]`. Pixels are read through `Frame.get?`,
and a read outside the frame stops the shift (`none`), where the source panics.
-/
namespace Glitch.ChannelShift

def offsets (p : Params) : Int × Int × Int :=
  let o (k : String) (d : Int) : Int := max (-50) (min 50 (p.getI64 k d))
  (o "r_offset" 10, o "g_offset" 0, o "b_offset" (-10))

/-- The column a channel with offset `o` reads at column `x` of a row of width `w`. -/
def source (w : Nat) (o : Int) (x : Nat) : Nat := ((x - o) % (w : Int)).toNat

/-- Channels rolled by the given offsets. -/
def shift (offs : Int × Int × Int) (f : Frame) : Option Frame :=
  let (a, b, c) := offs
  if f.width = 0 || (a = 0 && b = 0 && c = 0) then some f
  else f.mapXY? fun x y p => do
    let red ← f.get? (source f.width a x) y
    let green ← f.get? (source f.width b x) y
    let blue ← f.get? (source f.width c x) y
    pure ⟨red.r, green.g, blue.b, p.a⟩

def effect : Effect where
  id := "fx.channelshift"
  name := "Channel Shift"
  category := "distortion"
  description := "Offset the R, G and B channels horizontally"
  params := [(ParamSpec.range "r_offset" "Red Offset" .int (-50) 50 (.integer 10)).withUnit "px",
    (ParamSpec.range "g_offset" "Green Offset" .int (-50) 50 (.integer 0)).withUnit "px",
    (ParamSpec.range "b_offset" "Blue Offset" .int (-50) 50 (.integer (-10))).withUnit "px"]
  apply := fun f p _ _ => Effect.orPanic "fx.channelshift" ((shift (offsets p) f).map (·, none))

end Glitch.ChannelShift
