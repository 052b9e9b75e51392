import Glitch.Codec.Deflate
/-!
A fast zlib compressor for filtered image rows, and the size the same data takes in stored blocks.

The stream is a single dynamic-Huffman block whose header never changes (`fastHeader`). Its
literal/length code (`fastLengths`) favours the small byte values that filtered rows are made of,
and its distance code has one code, a single `0` bit, for distance 1. A run of zero bytes is
written as a literal zero and then copies of the byte before: copies of 258 bytes while that many
are left, then one shorter copy, or literal zeros for four bytes or fewer.

The data comes in pieces (the rows). Within a piece the bytes go in groups of eight. A whole group
of zeros extends the current run. Otherwise the zeros at the start of a group end a run that is
going on, the zeros at its end start a new run, and the bytes between are literals. A run ends
with its piece, and the bytes left over after the last whole group are literals. After the last
piece come the end-of-block code, padding to a byte, and the Adler-32 checksum of all the data.
-/
namespace Glitch.Deflate

/-- The bytes of the zlib header and of the block header, up to the last five bits of the
block header, which are `fastHeaderTail`. -/
def fastHeader : List UInt8 :=
  [120, 1, 237, 192, 3, 160, 36, 89, 150, 198, 241, 255, 119, 238, 141, 200, 204, 167, 114,
   75, 99, 174, 109, 219, 182, 109, 219, 182, 109, 219, 182, 109, 105, 140, 158, 150, 74,
   175, 158, 50, 51, 34, 238, 249, 118, 183, 106, 122, 166, 135, 59, 107, 213]

def fastHeaderTail : Nat := 15

/-- The lengths of the literal/length codes that the block header declares, for symbols 0 to
285. -/
def fastLengths : Array Nat :=
  #[2, 3, 4, 5, 5, 6, 6, 7, 7, 7, 8, 8, 8, 8, 8, 9, 9, 9, 9, 9, 9, 9, 10, 10,
    10, 10, 10, 10, 10, 10, 10, 11, 11, 11, 11, 11, 11, 11, 11, 11, 11, 11, 11, 12, 12, 12, 12, 12,
    12, 12, 12, 12, 12, 12, 12, 12, 12, 12, 12, 12, 12, 12, 12, 12, 12, 12, 12, 12, 12, 12, 12, 12,
    12, 12, 12, 12, 12, 12, 12, 12, 12, 12, 12, 12, 12, 12, 12, 12, 12, 12, 12, 12, 12, 12, 12, 12,
    12, 12, 12, 12, 12, 12, 12, 12, 12, 12, 12, 12, 12, 12, 12, 12, 12, 12, 12, 12, 12, 12, 12, 12,
    12, 12, 12, 12, 12, 12, 12, 12, 12, 12, 12, 12, 12, 12, 12, 12, 12, 12, 12, 12, 12, 12, 12, 12,
    12, 12, 12, 12, 12, 12, 12, 12, 12, 12, 12, 12, 12, 12, 12, 12, 12, 12, 12, 12, 12, 12, 12, 12,
    12, 12, 12, 12, 12, 12, 12, 12, 12, 12, 12, 12, 12, 12, 12, 12, 12, 12, 12, 12, 12, 12, 12, 12,
    12, 12, 12, 12, 12, 12, 12, 12, 12, 12, 12, 12, 12, 12, 12, 12, 12, 12, 12, 12, 12, 12, 11, 11,
    11, 11, 11, 11, 11, 11, 11, 11, 10, 11, 10, 10, 10, 10, 10, 10, 10, 10, 10, 9, 9, 9, 9, 9,
    8, 9, 8, 8, 8, 8, 8, 7, 7, 7, 6, 6, 6, 5, 4, 3, 12, 12, 12, 9, 9, 11, 10, 11,
    11, 10, 11, 11, 11, 11, 11, 11, 12, 11, 12, 12, 12, 12, 12, 12, 12, 12, 12, 12, 12, 9]

def reverseBits (v n : Nat) : Nat :=
  (List.range n).foldl (fun acc k => acc * 2 + v / Nat.pow 2 k % 2) 0

/-- The canonical Huffman codes for code lengths (at most 15), each bit-reversed so that it can be
written least significant bit first. -/
def canonicalCodes (lengths : Array Nat) : Array Nat :=
  let counts := lengths.foldl (fun (c : Array Nat) l => if l = 0 then c else c.modify l (· + 1))
    (Array.replicate 16 0)
  let firsts := (List.range 15).foldl (fun (f : Array Nat × Nat) l =>
    let code := (f.2 + counts.getD l 0) * 2
    (f.1.push code, code)) (#[0], 0)
  let (codes, _) := lengths.foldl (fun (acc : Array Nat × Array Nat) l =>
    if l = 0 then (acc.1.push 0, acc.2)
    else
      let c := acc.2.getD l 0
      (acc.1.push (reverseBits c l), acc.2.modify l (· + 1))) (#[], firsts.1)
  codes

def fastCodes : Array Nat := canonicalCodes fastLengths

/-- Bytes written so far and the bits not yet making a whole byte (`count` of them, in `pending`,
the first written lowest). -/
structure BitSink where
  bytes : ByteArray
  pending : Nat
  count : Nat

namespace BitSink

def empty : BitSink := ⟨ByteArray.empty, 0, 0⟩

def settle (s : BitSink) : BitSink :=
  go (s.count / 8) s
where
  go : Nat → BitSink → BitSink
    | 0, s => s
    | n + 1, s => go n ⟨s.bytes.push (s.pending % 256).toUInt8, s.pending / 256, s.count - 8⟩

def put (s : BitSink) (v n : Nat) : BitSink :=
  settle ⟨s.bytes, s.pending + v % Nat.pow 2 n * Nat.pow 2 s.count, s.count + n⟩

def symbol (s : BitSink) (sym : Nat) : BitSink := s.put (fastCodes.getD sym 0) (fastLengths.getD sym 0)

def finish (s : BitSink) : ByteArray :=
  (s.put 0 ((8 - s.count % 8) % 8)).bytes

end BitSink

def lengthCode (len : Nat) : Nat × Nat × Nat :=
  let i := (List.range 28).foldl (fun best k => if lengthBase.getD k 0 ≤ len then k else best) 0
  (257 + i, lengthExtra.getD i 0, lengthBase.getD i 0)

def putRun (s : BitSink) (run : Nat) : BitSink :=
  let s := s.symbol 0
  let rest := run - 1
  let s := (List.range (rest / 258)).foldl (fun s _ => (s.symbol 285).put 0 1) s
  let rest := rest % 258
  if rest > 4 then
    let (sym, extra, base) := lengthCode rest
    ((s.symbol sym).put (rest - base) extra).put 0 1
  else (List.range rest).foldl (fun s _ => s.symbol 0) s

def putLiterals (s : BitSink) (bs : List UInt8) : BitSink := bs.foldl (fun s b => s.symbol b.toNat) s

/-- One group of eight bytes, with the zero run going on before it: the writer after the group and
the run going on after it. -/
def putGroup (s : BitSink) (run : Nat) (group : List UInt8) : BitSink × Nat :=
  if group.all (· == 0) then (s, run + 8)
  else
    let front := (group.takeWhile (· == 0)).length
    let back := (group.reverse.takeWhile (· == 0)).length
    if run > 0 then
      let s := putRun s (run + front)
      if front > 0 then (putLiterals s ((group.drop front).take (8 - front - back)), back)
      else (putLiterals s (group.take (8 - back)), back)
    else (putLiterals s (group.take (8 - back)), back)

/-- One piece of data: its whole groups of eight, the run they leave, and the bytes left over. -/
def putPiece (s : BitSink) (piece : ByteArray) : BitSink :=
  let groups := piece.size / 8
  let (s, run) := (List.range groups).foldl (fun (acc : BitSink × Nat) g =>
    putGroup acc.1 acc.2 (piece.extract (8 * g) (8 * g + 8)).toList) (s, 0)
  let s := if run > 0 then putRun s run else s
  putLiterals s (piece.extract (8 * groups) piece.size).toList

def fastCompress (pieces : List ByteArray) : ByteArray :=
  let s := BitSink.put ⟨⟨fastHeader.toArray⟩, 0, 0⟩ fastHeaderTail 5
  let s := pieces.foldl putPiece s
  let body := (s.symbol 256).finish
  body ++ ⟨(be32 (adler32 (pieces.foldl (· ++ ·) ByteArray.empty))).toArray⟩

/-- The size of a zlib stream holding `n` bytes in stored blocks of at most 65535 bytes, reckoned
as full blocks for all but the last `n % 65535` bytes; for a multiple of 65535 this is one block
header and 65535 bytes short of the stream `zlibStored` writes. -/
def storedSize (n : Nat) : Nat :=
  (n - 1) / 65535 * 65540 + (n % 65535 + 5) + 6

end Glitch.Deflate
