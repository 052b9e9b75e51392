import Glitch.Service.Basic
import Glitch.Codec.Image
import Glitch.Frame.Mask
/-!
The `frame_api` request: operations on one frame and one mask, in order.

Reading or writing a pixel outside the frame, or a mask weight past the end of the mask, stops
that operation as a panic does; the next operation goes on with the state as it was.
-/
namespace Glitch.Service

/-- The frame and the last mask made, if any. -/
structure FrameBench where
  frame : Frame
  mask : Option Mask

/-- The failure of an image file operation as output. -/
def imageErrorJson (e : ImageError) : Json :=
  .obj [("error", .str "ImageError"), ("message", .str e.message)]

def pixelOf (k : String) (j : Json) : Answer Pixel := do
  match ← listOf k j with
  | [r, g, b, a] =>
    let c ← [r, g, b, a].mapM (unsignedOf k 8)
    pure (Pixel.ofList (c.map Nat.toUInt8))
  | _ => bad (k ++ " must be 4 bytes")

def pixelOut (p : Pixel) : Json := .arr (p.channels.map fun c => .nat c.toNat)

def sizeOf (op : Json) : Answer (Nat × Nat) := do
  let w ← fieldReq op "width" (fun k j => unsignedOf k 32 j)
  let h ← fieldReq op "height" (fun k j => unsignedOf k 32 j)
  if maxRequestPixels < w * h then bad "frame too large" else pure (w, h)

def positionOf (op : Json) : Answer (Nat × Nat) := do
  let x ← fieldReq op "x" (fun k j => unsignedOf k 32 j)
  let y ← fieldReq op "y" (fun k j => unsignedOf k 32 j)
  pure (x, y)

/-- Replace the pixel at a position inside the frame; a position outside panics. -/
def setInside (f : Frame) (pos : Nat × Nat) (p : Pixel) : Answer Frame :=
  if pos.1 < f.width ∧ pos.2 < f.height then pure (f.set pos.1 pos.2 p) else .error .panic

def frameOp (s : FrameBench) (op : Json) : Answer (Json × FrameBench) := do
  let name ← strOf "op" (← need op "op")
  match name with
  | "new_transparent" =>
    let (w, h) ← sizeOf op
    let f := Frame.transparent w h
    pure (frameOut f, { s with frame := f })
  | "new_filled" =>
    let (w, h) ← sizeOf op
    let f := Frame.filled w h (← pixelOf "px" (← need op "px"))
    pure (frameOut f, { s with frame := f })
  | "get" =>
    let (x, y) ← positionOf op
    match s.frame.get? x y with
    | some p => pure (pixelOut p, s)
    | none => .error .panic
  | "set" | "set_mut" =>
    let pos ← positionOf op
    let f ← setInside s.frame pos (← pixelOf "px" (← need op "px"))
    pure (frameOut f, { s with frame := f })
  | "dims" =>
    let d := Json.arr [.nat s.frame.width, .nat s.frame.height]
    pure (.obj [("dimensions", d), ("image", d)], s)
  | "into_bytes" => pure (.str (hexOf s.frame.bytes.toList), s)
  | "into_image" => pure (frameOut s.frame, s)
  | "state_roundtrip" =>
    let st := EffectState.ofFrame s.frame
    let back := match st.toFrame? with
      | some f => frameOut f
      | none => .null
    pure (.obj [("state", stateOut (some st)), ("back", back)], s)
  | "png_roundtrip" =>
    match Png.encode s.frame with
    | .error e => pure (imageErrorJson (.png e), s)
    | .ok bs =>
      match Png.decode bs with
      | .ok f => pure (frameOut f, s)
      | .error e => if e.stops then .error .panic else pure (imageErrorJson (.png e), s)
  | "open_hex" =>
    let name ← fieldReq op "name" strOf
    let bs ← bytesOfHex (← fieldReq op "hex" strOf)
    let path := match extensionOf name with
      | some ext => "image." ++ ext
      | none => "image"
    match Disk.empty.write path ⟨bs⟩ with
    | .error e => pure (imageErrorJson (.io e), s)
    | .ok d =>
      match openImage d path with
      | .ok f => pure (frameOut f, s)
      | .error e => if e.stops then .error .panic else pure (imageErrorJson e, s)
  | "mask_filled" =>
    let (w, h) ← sizeOf op
    let weight ← fieldReq op "weight" f32Of
    let m := Mask.filled w h weight
    pure (.obj [("dimensions", .arr [.nat w, .nat h]), ("weights", .arr (m.weights.toList.map f32Out))],
      { s with mask := some m })
  | "mask_get" =>
    match s.mask with
    | none => bad "no mask"
    | some m =>
      let (x, y) ← positionOf op
      match m.get? x y with
      | some w => pure (f32Out w, s)
      | none => .error .panic
  | other => bad ("unknown frame op " ++ other)

def frameApiReq (r : Json) : Answer Json := do
  let f ← match field? r "frame" with
    | some j => frameOf j
    | none => pure (Frame.transparent 0 0)
  let ops ← fieldOr r "ops" listOf []
  let (answers, _) := ops.foldl (fun (acc : List Json × FrameBench) op =>
    match frameOp acc.2 op with
    | .ok (j, s) => (j :: acc.1, s)
    | .error e => (e.toJson :: acc.1, acc.2)) ([], ⟨f, none⟩)
  pure (.obj [("results", .arr answers.reverse)])

end Glitch.Service
