import Glitch.Random.ChaCha
import Glitch.Float.Binary
/-!
Values drawn from the generator.

* A unit binary32 takes the top 24 bits of a word times `2^-24`, in `[0, 1)`.
* A binary32 in `[low, high)` puts 23 bits of a word under the exponent of 1, giving a value in
  `[1, 2)`; one less, times `high - low`, plus `low`, drawn again while the result reaches `high`.
* An integer in `[low, high]` multiplies a word by the number `n` of values and keeps the high
  half when the low half lies in the accepted zone; otherwise it draws again. Small types draw
  32-bit words with the zone `2^32 - 1 - (2^32 - n) % n`; 64-bit types draw 64-bit numbers with the
  zone `n * 2^z - 1`, `n * 2^z` being `n` shifted up to the top bit.

The redraw loops stop after 64 rejections, which happens with probability below `2^-64`.
-/
namespace Glitch

namespace Rng

def unitF32 (g : Rng) : F32 × Rng :=
  let (w, g) := g.nextU32
  (Binary.round false (w >>> 8).toNat (-24) false, g)

/-- Draws of a binary32 in `[low, high)` with scale `scale`, at most `fuel` of them. -/
def rangeF32Loop (low high scale : F32) : Nat → Rng → F32 × Rng
  | 0, g => (low, g)
  | fuel + 1, g =>
    let (w, g) := g.nextU32
    let oneToTwo : F32 := ⟨(w >>> 9).toNat + 127 * Nat.pow 2 23⟩
    let v := (oneToTwo - 1) * scale + low
    if v < high then (v, g) else rangeF32Loop low high scale fuel g

def rangeF32 (low high : F32) (g : Rng) : F32 × Rng :=
  rangeF32Loop low high (high - low) 64 g

def rangeSmallLoop (low : Int) (n zone : Nat) : Nat → Rng → Int × Rng
  | 0, g => (low, g)
  | fuel + 1, g =>
    let (w, g) := g.nextU32
    let prod := w.toNat * n
    if prod % Nat.pow 2 32 ≤ zone then (low + (prod / Nat.pow 2 32 : Nat), g)
    else rangeSmallLoop low n zone fuel g

/-- An integer in `[low, high]` of a type of at most 16 bits, from 32-bit words. -/
def rangeSmall (low high : Int) (g : Rng) : Int × Rng :=
  let n := (high - low + 1).toNat
  rangeSmallLoop low n (Nat.pow 2 32 - 1 - (Nat.pow 2 32 - n) % n) 64 g

def rangeWideLoop (low : Int) (n zone : Nat) : Nat → Rng → Int × Rng
  | 0, g => (low, g)
  | fuel + 1, g =>
    let (v, g) := g.nextU64
    let prod := v * n
    if prod % Nat.pow 2 64 ≤ zone then (low + (prod / Nat.pow 2 64 : Nat), g)
    else rangeWideLoop low n zone fuel g

/-- An integer in `[low, high]` of a 64-bit type, from 64-bit numbers. -/
def rangeWide (low high : Int) (g : Rng) : Int × Rng :=
  let n := (high - low + 1).toNat
  rangeWideLoop low n (n * Nat.pow 2 (63 - Nat.log2 n) - 1) 64 g

end Rng

end Glitch
