import Glitch.Service.Forms
import Glitch.Codec.Frame
/-!
Requests about JPEG transport encoding.
-/
namespace Glitch.Service

def encodeReq (r : Json) : Answer Json := do
  let f ← frameField r "frame"
  let q ← fieldReq r "quality" (fun k j => unsignedOf k 8 j)
  let bs ← lib (encodeFrame f q)
  pure (.obj [("len", .nat bs.length), ("hex", .str (hexOf bs))])

/-- `encode_fit`: a frame as JPEG at the best ladder quality within a budget. -/
def encodeFitReq (r : Json) : Answer Json := do
  let f ← frameField r "frame"
  let maxBytes ← fieldReq r "max_bytes" u64Of
  let ladder ← match field? r "ladder" with
    | some l => (← listOf "ladder" l).mapM (unsignedOf "ladder" 8)
    | none => pure defaultQualityLadder
  let (bs, q) ← lib (encodeFit f maxBytes ladder)
  pure (.obj [("len", .nat bs.length), ("quality", .nat q), ("hex", .str (hexOf bs))])

/-- A decoded frame as an answer; a failure that stops the reader outright is a panic. -/
def decodedFrame (r : Except Jpeg.ReadFailure Frame) : Answer Frame :=
  match r with
  | .ok f => .ok f
  | .error e => if e.stops then .error .panic else .error (.failed e.toError)

def decodeReq (r : Json) : Answer Json := do
  let bs ← bytesOfHex (← strOf "hex" (← need r "hex"))
  let f ← decodedFrame (decodeFrame bs)
  pure (.obj [("frame", frameOut f)])

end Glitch.Service
