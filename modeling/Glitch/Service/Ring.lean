import Glitch.Service.Codec
import Glitch.Ring.Store
/-!
Requests about the frame ring: its header layout, a writer and readers working on one file, and
readers over given file bytes.
-/
namespace Glitch.Service

def hexOfBytes (bs : ByteArray) : String :=
  bs.foldl (fun s b => (s.push (hexDigit (b.toNat / 16))).push (hexDigit (b.toNat % 16))) ""

def headerOut (h : Ring.Header) : Json :=
  .obj [("write_index", .nat h.writeIndex.toNat), ("frame_count", .nat h.frameCount.toNat),
    ("slot_size", .nat h.slotSize.toNat), ("slot_count", .nat h.slotCount.toNat),
    ("width", .nat h.width.toNat), ("height", .nat h.height.toNat),
    ("reserved", .arr (h.reserved.toList.map fun w => .nat w.toNat))]

def word (r : Json) (k : String) : Answer UInt32 :=
  (fun n => n.toUInt32) <$> fieldOr r k (fun k j => unsignedOf k 32 j) 0

def wordReq (r : Json) (k : String) : Answer UInt32 :=
  (fun n => n.toUInt32) <$> fieldReq r k (fun k j => unsignedOf k 32 j)

/-- `ring_header`: a header from its fields with its derived values, or a header read from bytes. -/
def ringHeaderReq (r : Json) : Answer Json := do
  match field? r "hex" with
  | some hx =>
    let bs ← bytesOfHex (← strOf "hex" hx)
    pure (.obj [("header", match Ring.Header.ofBytes? ⟨bs⟩ with
      | some h => headerOut h
      | none => .null)])
  | none =>
    let count ← word r "slot_count"
    let size ← word r "slot_size"
    let h : Ring.Header := ⟨← word r "write_index", ← word r "frame_count", size, count,
      ← word r "width", ← word r "height", Vector.replicate 10 0⟩
    let slots ← match field? r "slots" with
      | some l => (← listOf "slots" l).mapM (unsignedOf "slots" 32)
      | none => pure []
    pure (.obj [("bytes", .str (hexOf h.toBytes)),
      ("latest_slot", match h.latestSlot? with
        | some s => .nat s
        | none => .null),
      ("slot_offsets", .arr (slots.map fun i => .nat (h.slotOffset i))),
      ("total_size", .nat h.totalSize),
      ("total_size_fn", .nat (Ring.totalSize count.toNat size.toNat)),
      ("geometry", checkOut (Ring.validateGeometry count.toNat size.toNat))])

def answerOf (a : Answer Json) : Json := answerJson a

def readerOp (rd : Ring.Reader) (op : Json) : Answer Json := do
  let name ← strOf "op" (← need op "op")
  match name with
  | "reader_header" => pure (.obj [("header", headerOut (← lib rd.header))])
  | "read_slot" =>
    let i ← unsignedOf "index" 32 (← need op "index")
    pure (.obj [("hex", .str (hexOfBytes (← lib (rd.readSlot i))))])
  | "read_latest" =>
    pure (.obj [("hex", match ← lib rd.readLatest with
      | some bs => .str (hexOfBytes bs)
      | none => .null)])
  | "read_latest_decoded" =>
    match ← lib rd.readLatest with
    | some bs => pure (.obj [("frame", frameOut (← decodedFrame (decodeFrame bs.data)))])
    | none => pure (.obj [("frame", .null)])
  | other => bad ("unknown reader op " ++ other)

def maxRingBytes : Nat := 16 * 1024 * 1024

/-- Create a ring for a request, refusing rings larger than the request limit. -/
def createRing (path : String) (count size : UInt32) : Answer Ring.Writer :=
  if maxRingBytes < Ring.totalSize count.toNat size.toNat then bad "ring too large"
  else lib (Ring.Writer.create path count size)

def ringOp (w : Ring.Writer) (op : Json) : Answer Json × Ring.Writer :=
  let run : Answer (Json × Ring.Writer) := do
    let name ← strOf "op" (← need op "op")
    match name with
    | "write_frame" =>
      let f ← frameField op "frame"
      let q ← fieldReq op "quality" (fun k j => unsignedOf k 8 j)
      let (slot, w) ← lib (w.writeFrame f q)
      pure (.obj [("slot", .nat slot), ("header", headerOut w.header)], w)
    | "write_encoded" =>
      let bs ← bytesOfHex (← strOf "hex" (← need op "hex"))
      let (slot, w) ← lib (w.writeEncoded ⟨bs⟩ (← wordReq op "width") (← wordReq op "height"))
      pure (.obj [("slot", .nat slot), ("header", headerOut w.header)], w)
    | "header" => pure (.obj [("header", headerOut w.header)], w)
    | "flush" => pure (.obj [("ok", .bool true)], w)
    | "dump" => pure (.obj [("len", .nat w.file.size), ("hex", .str (hexOfBytes w.file))], w)
    | "path" => pure (.obj [("path", .str w.path)], w)
    | "recreate" =>
      let w' ← createRing w.path (← wordReq op "slot_count") (← wordReq op "slot_size")
      pure (.obj [("header", headerOut w'.header), ("file_len", .nat w'.file.size)], w')
    | _ =>
      let rd ← lib (Ring.Reader.openBytes w.file)
      pure (← readerOp rd op, w)
  match run with
  | .ok (j, w) => (.ok j, w)
  | .error e => (.error e, w)

/-- `ring`: a writer on a fresh ring file at `path`, then its operations in order. -/
def ringReq (path : String) (r : Json) : Answer Json := do
  let count ← wordReq r "slot_count"
  let size ← wordReq r "slot_size"
  let w ← if (← fieldOr r "blocked_parent" boolOf false) then do
      -- the size limit and the geometry are checked before the file is made
      if maxRingBytes < Ring.totalSize count.toNat size.toNat then bad "ring too large"
      else
        lib (Ring.validateGeometry count.toNat size.toNat)
        throw (.failed (.io (IoError.os .alreadyExists)))
    else createRing path count size
  let ops ← fieldOr r "ops" listOf []
  let (answers, _) := ops.foldl (fun (acc : List Json × Ring.Writer) op =>
    let (a, w) := ringOp acc.2 op
    (answerOf a :: acc.1, w)) ([], w)
  pure (.obj [("results", .arr (.obj [("header", headerOut w.header)] :: answers.reverse))])

/-- `ring_reader`: a reader over given file bytes, then its operations in order. -/
def ringReaderReq (r : Json) : Answer Json := do
  if (← fieldOr r "missing" boolOf false) then throw (.failed (.io (IoError.os .notFound)))
  let bs ← bytesOfHex (← fieldReq r "hex" strOf)
  let rd ← lib (Ring.Reader.openBytes ⟨bs⟩)
  let ops ← fieldOr r "ops" listOf []
  pure (.obj [("results", .arr (ops.map fun op => answerOf (readerOp rd op)))])

end Glitch.Service
