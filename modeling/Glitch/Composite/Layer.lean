import Glitch.Composite.Blend
import Glitch.Chain
/-!
Compositing: layers, bottom first, each with a frame, an effect chain, an opacity, a blend mode
and a frame index.

With no layers the result is transparent black of the requested size. Otherwise the canvas
starts at 0 in binary32; each layer must have the canvas size, runs its chain (if any) with no
carried state, and is folded into the canvas channel by channel with its blend mode and its
opacity clamped into `[0, 1]` (1 when not finite). The canvas is clamped and truncated to bytes
only at the end, so sums never wrap.
-/
namespace Glitch

/-- One layer of a composite. -/
structure Layer where
  frame : Frame
  chain : List EffectInstance
  opacity : F32
  blendMode : BlendMode
  frameIndex : Nat

/-- A layer's settings without its pixels. -/
structure LayerSettings where
  chain : List EffectInstance
  opacity : F32
  blendMode : BlendMode
  frameIndex : Nat
  deriving DecidableEq

def LayerSettings.toLayer (s : LayerSettings) (f : Frame) : Layer :=
  ⟨f, s.chain, s.opacity, s.blendMode, s.frameIndex⟩

namespace Composite

def effectiveOpacity (o : F32) : F32 := if o.isFinite then o.clamp 0 1 else 1

def layerLine (index : Nat) (m : BlendMode) (opacity : F32) (effects : Nat) : LogLine :=
  ⟨.debug, "glitchframe::composition::compositor", withFields "layer composited"
    [("layer", toString index), ("blend_mode", m.name), ("opacity", opacity.toDebugText),
     ("effects", toString effects)]⟩

/-- State while folding layers: the canvas and the lines written so far. -/
structure Canvas where
  values : Array F32
  log : List LogLine

def addLayer (reg : Registry) (resolution : Nat × Nat) (projectSeed : Nat) (cv : Canvas)
    (index : Nat) (layer : Layer) : Outcome Canvas × List LogLine :=
  if layer.frame.dims ≠ resolution then
    (.error (.composition (.layerSize index resolution layer.frame.dims)), cv.log)
  else
    let ctx : ChainContext := ⟨reg, projectSeed, layer.frameIndex, resolution, EffectStates.empty⟩
    let (processed, chainLog) : Outcome Frame × List LogLine :=
      if layer.chain.isEmpty then (.ok layer.frame, [])
      else
        let (r, l) := Chain.applyLogged ctx layer.frame layer.chain
        (r.map Prod.fst, l)
    match processed with
    | .error e => (.error e, cv.log ++ chainLog)
    | .ok frame =>
      let o := effectiveOpacity layer.opacity
      let values := Array.zipWith (fun base v => layer.blendMode.composite base (Binary.ofUInt8 v) o)
        cv.values frame.bytes
      let log := cv.log ++ chainLog ++ [layerLine index layer.blendMode o layer.chain.length]
      (.ok ⟨values, log⟩, log)

def renderLogged (reg : Registry) (layers : List Layer) (resolution : Nat × Nat) (projectSeed : Nat) :
    Outcome Frame × List LogLine :=
  let (w, h) := resolution
  if layers.isEmpty then (.ok (Frame.transparent w h), [])
  else
    let start : Outcome Canvas × List LogLine := (.ok ⟨Array.replicate (w * h * 4) 0, []⟩, [])
    let r := (layers.zipIdx).foldl (fun acc (layer, index) =>
      match acc.1 with
      | .error e => (.error e, acc.2)
      | .ok cv => addLayer reg resolution projectSeed cv index layer) start
    match r.1 with
    | .error e => (.error e, r.2)
    | .ok cv =>
      let bytes := cv.values.map (fun v => (v.clamp 0 255).toUInt8)
      match Frame.ofBytes? w h bytes with
      | some f => (.ok f, cv.log)
      | none => (.error (.generic "canvas size mismatch"), cv.log)

def render (reg : Registry) (layers : List Layer) (resolution : Nat × Nat) (projectSeed : Nat) :
    Outcome Frame :=
  (renderLogged reg layers resolution projectSeed).1

end Composite

end Glitch
