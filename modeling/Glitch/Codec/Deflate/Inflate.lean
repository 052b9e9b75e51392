import Glitch.Codec.Deflate
/-!
Reading a zlib stream as its bytes arrive.

The reader is a machine that is handed all the input seen so far and goes on from where it
stopped. Each step needs some bits past its position before it looks at any of them, and waits
when they are not there yet:

* the zlib header, sixteen bits;
* a block header, ten bits; a dynamic block's counts, seventeen; a stored block's length and its
  complement, all of them up to the end of the following byte-aligned 32 bits;
* the code length code, three bits for each length it gives;
* a code length symbol, seven bits (the longest such code) and then its repeat bits;
* a literal, the end of a block, or a length and its distance, all of their bits;
* the checksum, the four byte-aligned bytes after the last block; their value is not checked.

A failure is reported as soon as the bits that show it are there, so a stream cut short is told
apart from a broken one: the first only ever waits. After the checksum the machine has ended and
later input is ignored.

Huffman codes must be complete. The exceptions are the distance code, which may have no codes or a
single one-bit code, and the fixed codes, whose literal/length symbols 286 and 287 and distance
symbols 30 and 31 are refused when they are read. A wrong distance code is refused only once more
than nine bits follow the length's extra bits.
-/
namespace Glitch.Deflate

/-- Why a zlib stream cannot be read. -/
inductive StreamError where
  | badZlibHeader
  | insufficientInput
  | invalidBlockType
  | invalidUncompressedBlockLength
  | invalidHlit
  | invalidHdist
  | invalidCodeLengthRepeat
  | badCodeLengthHuffmanTree
  | badLiteralLengthHuffmanTree
  | badDistanceHuffmanTree
  | invalidLiteralLengthCode
  | invalidDistanceCode
  | distanceTooFarBack
  deriving DecidableEq, Repr

def StreamError.name : StreamError → String
  | .badZlibHeader => "BadZlibHeader"
  | .insufficientInput => "InsufficientInput"
  | .invalidBlockType => "InvalidBlockType"
  | .invalidUncompressedBlockLength => "InvalidUncompressedBlockLength"
  | .invalidHlit => "InvalidHlit"
  | .invalidHdist => "InvalidHdist"
  | .invalidCodeLengthRepeat => "InvalidCodeLengthRepeat"
  | .badCodeLengthHuffmanTree => "BadCodeLengthHuffmanTree"
  | .badLiteralLengthHuffmanTree => "BadLiteralLengthHuffmanTree"
  | .badDistanceHuffmanTree => "BadDistanceHuffmanTree"
  | .invalidLiteralLengthCode => "InvalidLiteralLengthCode"
  | .invalidDistanceCode => "InvalidDistanceCode"
  | .distanceTooFarBack => "DistanceTooFarBack"

def byteAt (bs : ByteArray) (i : Nat) : Nat := (bs.data.getD i 0).toNat

def bitAt (bs : ByteArray) (p : Nat) : Nat := byteAt bs (p / 8) / Nat.pow 2 (p % 8) % 2

def bitsAt (bs : ByteArray) (p n : Nat) : Nat :=
  (List.range n).foldr (fun k acc => acc * 2 + bitAt bs (p + k)) 0

/-- A canonical Huffman code: how many codes there are of each length 0 to 15, and the symbols
ordered by length and then by value. -/
structure Code where
  counts : Array Nat
  symbols : Array Nat

def Code.ofLengths (lengths : Array Nat) : Code :=
  let counts := lengths.foldl (fun (c : Array Nat) l => if l = 0 then c else c.modify l (· + 1))
    (Array.replicate 16 0)
  let symbols := (List.range 16).tail.foldl (fun (acc : Array Nat) len =>
    (lengths.zipIdx.filter (fun (l, _) => l == len)).foldl (fun acc (_, s) => acc.push s) acc) #[]
  ⟨counts, symbols⟩

def Code.space (c : Code) : Nat :=
  (List.range 16).tail.foldl (fun acc len => acc + c.counts.getD len 0 * Nat.pow 2 (15 - len)) 0

def Code.complete (c : Code) : Bool := c.space == Nat.pow 2 15

def Code.longest (c : Code) : Nat :=
  (List.range 16).foldl (fun acc len => if c.counts.getD len 0 > 0 then len else acc) 0

/-- Whether a distance code is one of the two incomplete ones allowed: no codes, or a single code
of one bit. -/
def Code.sparse (c : Code) : Bool :=
  c.longest == 0 || (c.longest == 1 && c.counts.getD 1 0 == 1)

/-- What reading a Huffman code gives. -/
inductive Symbol where
  /-- A symbol and the number of bits its code took. -/
  | found (sym bits : Nat)
  /-- The code runs past the end of the input. -/
  | short
  /-- No code of the code starts with these bits. -/
  | invalid

/-- Read a code from bit `p`: at each length add the next bit to the code until it falls among the
codes of that length, giving up past the longest length used. -/
def Code.decodeFrom (c : Code) (bs : ByteArray) (p len code first index : Nat) : Symbol :=
  if len > 15 || len > c.longest then .invalid
  else if 8 * bs.size ≤ p + len - 1 then .short
  else
    let code := code + bitAt bs (p + len - 1)
    let count := c.counts.getD len 0
    if code < first + count then .found (c.symbols.getD (index + (code - first)) 0) len
    else c.decodeFrom bs p (len + 1) (code * 2) ((first + count) * 2) (index + count)
termination_by 16 - len
decreasing_by simp only [Bool.or_eq_true, decide_eq_true_eq, not_or] at *; omega

def Code.decode (c : Code) (bs : ByteArray) (p : Nat) : Symbol := c.decodeFrom bs p 1 0 0 0

def fixedLiterals : Code :=
  Code.ofLengths (Array.replicate 144 8 ++ Array.replicate 112 9 ++ Array.replicate 24 7 ++
    Array.replicate 8 8)

def fixedDistances : Code := Code.ofLengths (Array.replicate 30 5)

/-- Where the reader is in the stream. -/
inductive Phase where
  | zlibHeader
  | blockHeader
  /-- Inside a stored block with `left` bytes to copy. -/
  | stored (left : Nat)
  /-- Before the code length code of a dynamic block declaring `lit` literal/length codes, `dist`
  distance codes and `count` code length code lengths. -/
  | codeLengthCodes (lit dist count : Nat)
  /-- Reading the code lengths of a dynamic block; `lengths` are those read so far. -/
  | codeLengths (lit dist : Nat) (code : Code) (lengths : Array Nat)
  /-- Inside a compressed block with its codes. -/
  | compressed (lit dist : Code)
  | checksum
  | ended

/-- The reader: its phase, how many bits it has read, whether the current block is the final
one, and the bytes it has written. -/
structure Inflater where
  phase : Phase
  pos : Nat
  final : Bool
  out : ByteArray

def Inflater.start : Inflater := ⟨.zlibHeader, 0, false, ByteArray.empty⟩

def Inflater.ended (m : Inflater) : Bool :=
  match m.phase with
  | .ended => true
  | _ => false

inductive Step where
  | next (m : Inflater)
  | wait
  | fail (e : StreamError)

def copyBack (out : ByteArray) (dist : Nat) : Nat → ByteArray
  | 0 => out
  | n + 1 => copyBack (out.push (out.data.getD (out.size - dist) 0)) dist n

def Inflater.afterBlock (m : Inflater) : Phase := if m.final then .checksum else .blockHeader

/-- The code lengths of the code length code, read from the `count` three-bit fields at `p`, which
give the lengths in `lengthOrder`. -/
def codeLengthLengths (bs : ByteArray) (p count : Nat) : Array Nat :=
  (List.range count).foldl (fun (acc : Array Nat) i =>
    acc.set! (lengthOrder.getD i 0) (bitsAt bs (p + 3 * i) 3)) (Array.replicate 19 0)

def Inflater.blockStep (bs : ByteArray) (m : Inflater) (avail : Nat) : Step :=
  let peek (k n : Nat) := bitsAt bs (m.pos + k) n
  if avail < 10 then .wait
  else
    let final := peek 0 1 = 1
    match peek 1 2 with
    | 0 =>
      let align := (8 - (m.pos + 3) % 8) % 8
      if avail < 35 + align then .wait
      else if peek (3 + align) 16 + peek (19 + align) 16 != 65535 then
        .fail .invalidUncompressedBlockLength
      else .next { m with phase := .stored (peek (3 + align) 16), pos := m.pos + 35 + align, final }
    | 1 =>
      if peek 3 7 = 0 then
        .next { m with phase := if final then .checksum else .blockHeader, pos := m.pos + 10, final }
      else .next { m with phase := .compressed fixedLiterals fixedDistances, pos := m.pos + 3, final }
    | 2 =>
      if avail < 17 then .wait
      else
        let lit := peek 3 5 + 257
        let dist := peek 8 5 + 1
        if lit > 286 then .fail .invalidHlit
        else if dist > 30 then .fail .invalidHdist
        else .next { m with phase := .codeLengthCodes lit dist (peek 13 4 + 4), pos := m.pos + 17, final }
    | _ => .fail .invalidBlockType

def Inflater.lengthStep (bs : ByteArray) (m : Inflater) (avail lit dist : Nat) (code : Code)
    (lengths : Array Nat) : Step :=
  if lengths.size ≥ lit + dist then
    let litCode := Code.ofLengths (lengths.extract 0 lit)
    let distCode := Code.ofLengths (lengths.extract lit (lit + dist))
    if lengths.getD 256 0 = 0 || !litCode.complete then .fail .badLiteralLengthHuffmanTree
    else if !(distCode.complete || distCode.sparse) then .fail .badDistanceHuffmanTree
    else .next { m with phase := .compressed litCode distCode }
  else if avail < 7 then .wait
  else
    match code.decode bs m.pos with
    | .found sym used =>
      if sym < 16 then
        .next { m with phase := .codeLengths lit dist code (lengths.push sym), pos := m.pos + used }
      else
        let extra := if sym = 16 then 2 else if sym = 17 then 3 else 7
        let base := if sym = 18 then 11 else 3
        if avail < used + extra then .wait
        else if sym = 16 && lengths.size = 0 then .fail .invalidCodeLengthRepeat
        else
          let count := base + bitsAt bs (m.pos + used) extra
          if lengths.size + count > lit + dist then .fail .invalidCodeLengthRepeat
          else
            let value := if sym = 16 then lengths.back?.getD 0 else 0
            .next { m with phase := .codeLengths lit dist code (lengths ++ Array.replicate count value),
                           pos := m.pos + used + extra }
    | _ => .wait

def Inflater.symbolStep (bs : ByteArray) (m : Inflater) (avail : Nat) (lit dist : Code) : Step :=
  match lit.decode bs m.pos with
  | .short => .wait
  | .invalid => .fail .invalidLiteralLengthCode
  | .found sym used =>
    if sym < 256 then .next { m with pos := m.pos + used, out := m.out.push sym.toUInt8 }
    else if sym = 256 then .next { m with phase := m.afterBlock, pos := m.pos + used }
    else if sym > 285 then .fail .invalidLiteralLengthCode
    else
      let i := sym - 257
      let lenExtra := lengthExtra.getD i 0
      let len := lengthBase.getD i 0 + bitsAt bs (m.pos + used) lenExtra
      let mid := used + lenExtra
      let refuse : Step := if avail > mid + 9 then .fail .invalidDistanceCode else .wait
      match dist.decode bs (m.pos + mid) with
      | .short => .wait
      | .invalid => refuse
      | .found d dused =>
        if d ≥ 30 then refuse
        else
          let dExtra := distExtra.getD d 0
          let total := mid + dused + dExtra
          if avail < total then .wait
          else
            let back := distBase.getD d 0 + bitsAt bs (m.pos + mid + dused) dExtra
            if back > m.out.size then .fail .distanceTooFarBack
            else .next { m with pos := m.pos + total, out := copyBack m.out back len }

def Inflater.step (bs : ByteArray) (m : Inflater) : Step :=
  let avail := 8 * bs.size - m.pos
  match m.phase with
  | .zlibHeader =>
    if avail < 16 then .wait
    else
      let cmf := bitsAt bs m.pos 8
      let flg := bitsAt bs (m.pos + 8) 8
      if cmf % 16 != 8 || cmf / 16 > 7 || flg / 32 % 2 = 1 || (cmf * 256 + flg) % 31 != 0 then
        .fail .badZlibHeader
      else .next { m with phase := .blockHeader, pos := m.pos + 16 }
  | .blockHeader => m.blockStep bs avail
  | .stored left =>
    if left = 0 then .next { m with phase := m.afterBlock }
    else
      let start := m.pos / 8
      let n := min left (bs.size - start)
      if n = 0 then .wait
      else .next { m with phase := .stored (left - n), pos := m.pos + 8 * n,
                          out := m.out ++ bs.extract start (start + n) }
  | .codeLengthCodes lit dist count =>
    if avail < 3 * count then .wait
    else
      let code := Code.ofLengths (codeLengthLengths bs m.pos count)
      if !code.complete then .fail .badCodeLengthHuffmanTree
      else .next { m with phase := .codeLengths lit dist code #[], pos := m.pos + 3 * count }
  | .codeLengths lit dist code lengths => m.lengthStep bs avail lit dist code lengths
  | .compressed lit dist => m.symbolStep bs avail lit dist
  | .checksum =>
    let align := (8 - m.pos % 8) % 8
    if avail < align + 32 then .wait
    else .next { m with phase := .ended, pos := m.pos + align + 32 }
  | .ended => .wait

def Inflater.run (bs : ByteArray) : Nat → Inflater → Except StreamError Inflater
  | 0, m => .ok m
  | fuel + 1, m =>
    if m.ended then .ok m
    else
      match m.step bs with
      | .next m' => Inflater.run bs fuel m'
      | .wait => .ok m
      | .fail e => .error e

/-- Go on reading with the input `bs`, which extends the input the reader has seen. Every step
but the one after a stored block's last byte or a dynamic block's last code length reads a bit,
so twice the number of bits is enough steps. -/
def Inflater.feed (m : Inflater) (bs : ByteArray) : Except StreamError Inflater :=
  Inflater.run bs (16 * bs.size + 8) m

/-- The end of the input: a reader that has not passed the checksum needs more input than there
is. -/
def Inflater.finish (m : Inflater) : Except StreamError Unit :=
  if m.ended then .ok () else .error .insufficientInput

end Glitch.Deflate
