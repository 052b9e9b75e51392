import Glitch.Codec.Jpeg.Encode
import Glitch.Codec.Jpeg.Decode
import Glitch.Error
/-!
Frames as JPEG bytes for transport: encoding at one quality, encoding at the best quality of a
ladder that fits a byte budget, and decoding back to an opaque frame.

The ladder is tried from the highest quality down, each quality once; the first result within the
budget wins. When none fits, the error names the smallest result and its quality.
-/
namespace Glitch

def encodePrepared (p : Jpeg.Prepared) (quality : Nat) : Outcome (List UInt8) :=
  if quality < 1 || 100 < quality then .error (.encode (.invalidQuality quality))
  else
    match Jpeg.encodePrepared p quality with
    | .ok bs => .ok bs
    | .error e => .error (.encode (.codec e))

def encodeFrame (f : Frame) (quality : Nat) : Outcome (List UInt8) := encodePrepared (Jpeg.prepare f) quality

def ladderOrder (ladder : List Nat) : List Nat :=
  (ladder.mergeSort (fun a b => b ≤ a)).eraseDups

/-- The search state of `searchLadder`: the answer once there is one, and the smallest result
that overflowed so far, with its quality. -/
def fitStep (enc : Nat → Outcome (List UInt8)) (maxBytes : Nat)
    (acc : Outcome (Option (List UInt8 × Nat)) × Option (Nat × Nat))
    (q : Nat) : Outcome (Option (List UInt8 × Nat)) × Option (Nat × Nat) :=
  match acc with
  | (.ok none, smallest) =>
    match enc q with
    | .error e => (.error e, smallest)
    | .ok bs =>
      if bs.length ≤ maxBytes then (.ok (some (bs, q)), smallest)
      else
        let smallest := match smallest with
          | some (size, sq) => if bs.length < size then some (bs.length, q) else some (size, sq)
          | none => some (bs.length, q)
        (.ok none, smallest)
  | done => done

/-- The encoding by `enc` at the highest ladder quality whose result fits in `maxBytes`, with
that quality. -/
def searchLadder (enc : Nat → Outcome (List UInt8)) (maxBytes : Nat) (ladder : List Nat) :
    Outcome (List UInt8 × Nat) :=
  match (ladderOrder ladder).foldl (fitStep enc maxBytes) (.ok none, none) with
  | (.error e, _) => .error e
  | (.ok (some r), _) => .ok r
  | (.ok none, some (size, q)) => .error (.encode (.overflow size q maxBytes))
  | (.ok none, none) => .error (.encode .emptyLadder)

/-- The frame at the highest ladder quality whose JPEG fits in `maxBytes`, with that quality; the
frame is converted and transformed once for all the qualities tried. -/
def encodeFit (f : Frame) (maxBytes : Nat) (ladder : List Nat) : Outcome (List UInt8 × Nat) :=
  searchLadder (encodePrepared (Jpeg.prepare f)) maxBytes ladder

def Jpeg.ReadFailure.toError (e : Jpeg.ReadFailure) : GlitchError := .encode (.codec e.message)

def decodeFrame (bytes : Array UInt8) : Except Jpeg.ReadFailure Frame := Jpeg.decode ⟨bytes⟩

end Glitch
