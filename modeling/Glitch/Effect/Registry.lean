import Glitch.Effect.Kernel.Color
import Glitch.Effect.Kernel.Noise
import Glitch.Effect.Kernel.ChannelShift
import Glitch.Effect.Kernel.Echo
import Glitch.Effect.Kernel.Vhs
/-!
The registries the program offers: the seven built-in effects, the built-ins with two
contract-breaking probes, and the empty registry. The probes check the guards around effect
runs: one returns a 1×1 transparent frame whatever it is given, the other always fails.
-/
namespace Glitch.Probe

/-- An effect whose output is always a single transparent pixel. -/
def shrink : Effect where
  id := "test.shrink"
  name := "Shrink"
  category := "test"
  description := ""
  params := []
  apply := fun _ _ _ _ => .ok (Frame.transparent 1 1, none)

def failing : Effect where
  id := "test.failing"
  name := "Failing"
  category := "test"
  description := ""
  params := []
  apply := fun _ _ _ _ => .error (.effect (.failed "test.failing" "boom"))

end Glitch.Probe

namespace Glitch.Registry

def builtin : Registry :=
  ofList [Invert.effect, Posterize.effect, Noise.effect, HueShift.effect, ChannelShift.effect,
    Echo.effect, Vhs.effect]

/-- The built-in effects and the two probes. -/
def withProbes : Registry := (builtin.register Vhs.effect |>.register Probe.shrink).register Probe.failing

end Glitch.Registry
