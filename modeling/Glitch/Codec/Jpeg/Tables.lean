/-!
Fixed tables of baseline JPEG: the zigzag order, the example quantization tables scaled by a
quality, and the example Huffman tables with their canonical codes.
-/
namespace Glitch.Jpeg

def zigzag : Array Nat :=
  #[0, 1, 8, 16, 9, 2, 3, 10, 17, 24, 32, 25, 18, 11, 4, 5, 12, 19, 26, 33, 40, 48, 41, 34, 27, 20, 13, 6, 7, 14,
    21, 28, 35, 42, 49, 56, 57, 50, 43, 36, 29, 22, 15, 23, 30, 37, 44, 51, 58, 59, 52, 45, 38, 31, 39, 46, 53,
    60, 61, 54, 47, 55, 62, 63]

def lumaQuant : Array Nat :=
  #[16, 11, 10, 16, 24, 40, 51, 61, 12, 12, 14, 19, 26, 58, 60, 55, 14, 13, 16, 24, 40, 57, 69, 56, 14, 17, 22,
    29, 51, 87, 80, 62, 18, 22, 37, 56, 68, 109, 103, 77, 24, 35, 55, 64, 81, 104, 113, 92, 49, 64, 78, 87, 103,
    121, 120, 101, 72, 92, 95, 98, 112, 100, 103, 99]

def chromaQuant : Array Nat :=
  #[17, 18, 24, 47, 99, 99, 99, 99, 18, 21, 26, 66, 99, 99, 99, 99, 24, 26, 56, 99, 99, 99, 99, 99, 47, 66, 99,
    99, 99, 99, 99, 99, 99, 99, 99, 99, 99, 99, 99, 99, 99, 99, 99, 99, 99, 99, 99, 99, 99, 99, 99, 99, 99, 99,
    99, 99, 99, 99, 99, 99, 99, 99, 99, 99]

/-- The percentage a quality scales the example tables by: `5000 / q` below 50, else `200 - 2q`. -/
def qualityScale (q : Nat) : Nat :=
  let q := min (max q 1) 100
  if q < 50 then 5000 / q else 200 - 2 * q

/-- A table scaled for a quality, each entry kept in 1..255. -/
def scaledTable (base : Array Nat) (q : Nat) : Array Nat :=
  base.map fun v => min (max ((v * qualityScale q + 50) / 100) 1) 255

/-- A Huffman table as transmitted: how many codes have each length 1..16, and the symbols in
code order. -/
structure HuffmanSpec where
  counts : Array Nat
  symbols : Array Nat

def lumaDc : HuffmanSpec := ⟨#[0, 1, 5, 1, 1, 1, 1, 1, 1, 0, 0, 0, 0, 0, 0, 0], #[0, 1, 2, 3, 4, 5, 6, 7, 8, 9, 10, 11]⟩

def chromaDc : HuffmanSpec := ⟨#[0, 3, 1, 1, 1, 1, 1, 1, 1, 1, 1, 0, 0, 0, 0, 0], #[0, 1, 2, 3, 4, 5, 6, 7, 8, 9, 10, 11]⟩

def lumaAc : HuffmanSpec :=
  ⟨#[0, 2, 1, 3, 3, 2, 4, 3, 5, 5, 4, 4, 0, 0, 1, 125],
   #[1, 2, 3, 0, 4, 17, 5, 18, 33, 49, 65, 6, 19, 81, 97, 7, 34, 113, 20, 50, 129, 145, 161, 8, 35, 66, 177, 193,
     21, 82, 209, 240, 36, 51, 98, 114, 130, 9, 10, 22, 23, 24, 25, 26, 37, 38, 39, 40, 41, 42, 52, 53, 54, 55, 56,
     57, 58, 67, 68, 69, 70, 71, 72, 73, 74, 83, 84, 85, 86, 87, 88, 89, 90, 99, 100, 101, 102, 103, 104, 105, 106,
     115, 116, 117, 118, 119, 120, 121, 122, 131, 132, 133, 134, 135, 136, 137, 138, 146, 147, 148, 149, 150, 151,
     152, 153, 154, 162, 163, 164, 165, 166, 167, 168, 169, 170, 178, 179, 180, 181, 182, 183, 184, 185, 186, 194,
     195, 196, 197, 198, 199, 200, 201, 202, 210, 211, 212, 213, 214, 215, 216, 217, 218, 225, 226, 227, 228, 229,
     230, 231, 232, 233, 234, 241, 242, 243, 244, 245, 246, 247, 248, 249, 250]⟩

def chromaAc : HuffmanSpec :=
  ⟨#[0, 2, 1, 2, 4, 4, 3, 4, 7, 5, 4, 4, 0, 1, 2, 119],
   #[0, 1, 2, 3, 17, 4, 5, 33, 49, 6, 18, 65, 81, 7, 97, 113, 19, 34, 50, 129, 8, 20, 66, 145, 161, 177, 193, 9,
     35, 51, 82, 240, 21, 98, 114, 209, 10, 22, 36, 52, 225, 37, 241, 23, 24, 25, 26, 38, 39, 40, 41, 42, 53, 54,
     55, 56, 57, 58, 67, 68, 69, 70, 71, 72, 73, 74, 83, 84, 85, 86, 87, 88, 89, 90, 99, 100, 101, 102, 103, 104,
     105, 106, 115, 116, 117, 118, 119, 120, 121, 122, 130, 131, 132, 133, 134, 135, 136, 137, 138, 146, 147, 148,
     149, 150, 151, 152, 153, 154, 162, 163, 164, 165, 166, 167, 168, 169, 170, 178, 179, 180, 181, 182, 183, 184,
     185, 186, 194, 195, 196, 197, 198, 199, 200, 201, 202, 210, 211, 212, 213, 214, 215, 216, 217, 218, 226, 227,
     228, 229, 230, 231, 232, 233, 234, 242, 243, 244, 245, 246, 247, 248, 249, 250]⟩

/-- The canonical code of each symbol: its length and value (length 0 when the symbol has no
code). Codes of one length are consecutive; moving to the next length doubles the next code. -/
def HuffmanSpec.codes (s : HuffmanSpec) : Array (Nat × Nat) :=
  let step (acc : Array (Nat × Nat) × Nat × Nat) (len : Nat) : Array (Nat × Nat) × Nat × Nat :=
    let (table, k, code) := acc
    let n := s.counts.getD len 0
    let (table, k, code) := (List.range n).foldl (fun (a : Array (Nat × Nat) × Nat × Nat) _ =>
      let (t, k, c) := a
      (t.setIfInBounds (s.symbols.getD k 0) (len + 1, c), k + 1, c + 1)) (table, k, code)
    (table, k, code * 2)
  ((List.range 16).foldl step (Array.replicate 256 (0, 0), 0, 0)).1

end Glitch.Jpeg
