/-!
Small text helpers: Unicode white space and trimming by it, and the word characters of patterns.
-/
namespace Glitch

def isUnicodeSpace (c : Char) : Bool :=
  let n := c.toNat
  (9 ≤ n && n ≤ 13) || n == 32 || n == 0x85 || n == 0xA0 || n == 0x1680 ||
  (0x2000 ≤ n && n ≤ 0x200A) || n == 0x2028 || n == 0x2029 || n == 0x202F || n == 0x205F || n == 0x3000

def trimUnicode (s : String) : String :=
  String.ofList ((s.toList.dropWhile isUnicodeSpace).reverse.dropWhile isUnicodeSpace).reverse

def inRanges (n : Nat) (ranges : List (Nat × Nat)) : Bool := ranges.any fun (lo, hi) => lo ≤ n && n ≤ hi

/-- Ranges of code points outside ASCII that are no word characters: symbols, punctuation,
spaces, number forms other than decimal digits, and private use. -/
def nonWordRanges : List (Nat × Nat) :=
  [(0x80, 0xA9), (0xAB, 0xB4), (0xB6, 0xB9), (0xBB, 0xBF), (0xD7, 0xD7), (0xF7, 0xF7),
   (0x2000, 0x200B), (0x200E, 0x203E), (0x2041, 0x2053), (0x2055, 0x2070), (0x2072, 0x207E),
   (0x2080, 0x208F), (0x209D, 0x20CF), (0x2100, 0x2101), (0x2103, 0x2106), (0x2108, 0x2109),
   (0x2114, 0x2114), (0x2116, 0x2118), (0x211E, 0x2123), (0x2125, 0x2125), (0x2127, 0x2127),
   (0x2129, 0x2129), (0x212E, 0x212E), (0x213A, 0x213B), (0x2140, 0x2144), (0x214A, 0x214D),
   (0x214F, 0x215F), (0x2189, 0x24B5), (0x24EA, 0x2BFF), (0x2E00, 0x2E2E), (0x2E30, 0x2E7F),
   (0x3000, 0x3004), (0x3008, 0x3020), (0x3030, 0x3030), (0x3036, 0x3037), (0x303D, 0x303F),
   (0xE000, 0xF8FF), (0xFE10, 0xFE1F), (0xFE30, 0xFE32), (0xFE35, 0xFE4C), (0xFE50, 0xFE6F),
   (0xFF00, 0xFF0F), (0xFF1A, 0xFF20), (0xFF3B, 0xFF3E), (0xFF40, 0xFF40), (0xFF5B, 0xFF65),
   (0xFFE0, 0xFFFF), (0x1F000, 0x1F12F), (0x1F14A, 0x1F14F), (0x1F16A, 0x1F16F),
   (0x1F18A, 0x1FBEF), (0xF0000, 0x10FFFF)]

/-- Word characters as patterns know them: letters, marks, decimal digits and connector
punctuation such as `_`. ASCII is decided exactly; beyond it, by the ranges of symbols,
punctuation and spaces in `nonWordRanges`, so that accented and non-Latin letters count and
currency signs, arrows, dashes and emoji do not. -/
def isWordChar (c : Char) : Bool :=
  let n := c.toNat
  if n < 128 then c.isAlphanum || c == '_'
  else !inRanges n nonWordRanges

end Glitch
