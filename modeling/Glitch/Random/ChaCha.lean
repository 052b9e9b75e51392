/-!
The seeded random generator of the effects: the ChaCha stream cipher with 12 rounds, keyed from
a 64-bit seed, read as a stream of 32-bit words.

The key is eight words from a PCG32 generator started at the seed (multiplier
6364136223846793005, increment 11634580027462260723, state advanced before each output). The
block counter is 64 bits and starts at 0; the nonce is 0. Block `n` gives words
`16 n, …, 16 n + 15` of the stream, in order. A 64-bit draw takes two consecutive words, the
first as the low half.
-/
namespace Glitch

def rotl32 (x : UInt32) (n : UInt32) : UInt32 := (x <<< n) ||| (x >>> (32 - n))

/-- The ChaCha quarter round on words `a b c d` of the state. -/
def quarterRound (s : Array UInt32) (a b c d : Nat) : Array UInt32 :=
  let va := s.getD a 0
  let vb := s.getD b 0
  let vc := s.getD c 0
  let vd := s.getD d 0
  let va := va + vb
  let vd := rotl32 (vd ^^^ va) 16
  let vc := vc + vd
  let vb := rotl32 (vb ^^^ vc) 12
  let va := va + vb
  let vd := rotl32 (vd ^^^ va) 8
  let vc := vc + vd
  let vb := rotl32 (vb ^^^ vc) 7
  ((s.setIfInBounds a va).setIfInBounds b vb |>.setIfInBounds c vc).setIfInBounds d vd

def doubleRound (s : Array UInt32) : Array UInt32 :=
  let s := quarterRound s 0 4 8 12
  let s := quarterRound s 1 5 9 13
  let s := quarterRound s 2 6 10 14
  let s := quarterRound s 3 7 11 15
  let s := quarterRound s 0 5 10 15
  let s := quarterRound s 1 6 11 12
  let s := quarterRound s 2 7 8 13
  quarterRound s 3 4 9 14

/-- Block `counter` of the ChaCha12 stream under `key` (eight words), nonce 0. -/
def chachaBlock (key : Array UInt32) (counter : Nat) : Array UInt32 :=
  let input : Array UInt32 := #[0x61707865, 0x3320646e, 0x79622d32, 0x6b206574] ++ key ++
    #[(counter % Nat.pow 2 32).toUInt32, (counter / Nat.pow 2 32 % Nat.pow 2 32).toUInt32, 0, 0]
  let mixed := (List.range 6).foldl (fun s _ => doubleRound s) input
  (List.range 16).toArray.map fun i => mixed.getD i 0 + input.getD i 0

/-- One PCG32 step: the advanced state and its output word. -/
def pcg32Step (state : UInt64) : UInt64 × UInt32 :=
  let state := state * 6364136223846793005 + 11634580027462260723
  let xorshifted := (((state >>> 18) ^^^ state) >>> 27).toUInt32
  let rot := (state >>> 59).toUInt32
  (state, (xorshifted >>> rot) ||| (xorshifted <<< ((32 - rot) % 32)))

def keyOfSeed (seed : UInt64) : Array UInt32 :=
  ((List.range 8).foldl (fun (st, ws) _ =>
    let (st, w) := pcg32Step st
    (st, ws.push w)) (seed, (#[] : Array UInt32))).2

/-- The generator: its key, the next block to compute, and the unread words of the current
block. -/
structure Rng where
  key : Array UInt32
  nextBlock : Nat
  pending : List UInt32

namespace Rng

def ofSeed (seed : Nat) : Rng := ⟨keyOfSeed seed.toUInt64, 0, []⟩

def nextU32 (g : Rng) : UInt32 × Rng :=
  match g.pending with
  | w :: rest => (w, { g with pending := rest })
  | [] =>
    match (chachaBlock g.key g.nextBlock).toList with
    | w :: rest => (w, ⟨g.key, g.nextBlock + 1, rest⟩)
    | [] => (0, g)

def nextU64 (g : Rng) : Nat × Rng :=
  let (lo, g) := g.nextU32
  let (hi, g) := g.nextU32
  (hi.toNat * Nat.pow 2 32 + lo.toNat, g)

def words (g : Rng) : Nat → List UInt32
  | 0 => []
  | n + 1 =>
    let (w, g) := g.nextU32
    w :: words g n

end Rng

end Glitch
