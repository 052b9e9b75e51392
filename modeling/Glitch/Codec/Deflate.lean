/-!
The deflate format (RFC 1951) and its zlib wrapper (RFC 1950): the tables both directions share,
the Adler-32 checksum, and writing with stored blocks only.

Stored writing cuts the data into blocks of at most 65535 bytes, the last one marked final, so an
empty input is one empty final block.
-/
namespace Glitch.Deflate

def lengthBase : Array Nat :=
  #[3, 4, 5, 6, 7, 8, 9, 10, 11, 13, 15, 17, 19, 23, 27, 31, 35, 43, 51, 59, 67, 83, 99, 115, 131, 163,
    195, 227, 258]

def lengthExtra : Array Nat :=
  #[0, 0, 0, 0, 0, 0, 0, 0, 1, 1, 1, 1, 2, 2, 2, 2, 3, 3, 3, 3, 4, 4, 4, 4, 5, 5, 5, 5, 0]

def distBase : Array Nat :=
  #[1, 2, 3, 4, 5, 7, 9, 13, 17, 25, 33, 49, 65, 97, 129, 193, 257, 385, 513, 769, 1025, 1537, 2049,
    3073, 4097, 6145, 8193, 12289, 16385, 24577]

def distExtra : Array Nat :=
  #[0, 0, 0, 0, 1, 1, 2, 2, 3, 3, 4, 4, 5, 5, 6, 6, 7, 7, 8, 8, 9, 9, 10, 10, 11, 11, 12, 12, 13, 13]

/-- The order in which code length code lengths are given. -/
def lengthOrder : List Nat := [16, 17, 18, 0, 8, 7, 9, 6, 10, 5, 11, 4, 12, 3, 13, 2, 14, 1, 15]

def adler32 (bs : ByteArray) : Nat :=
  let (a, b) := bs.foldl (fun (acc : Nat × Nat) x =>
    let a := (acc.1 + x.toNat) % 65521
    (a, (acc.2 + a) % 65521)) (1, 0)
  b * 65536 + a

def be32 (n : Nat) : List UInt8 :=
  [(n / 16777216 % 256).toUInt8, (n / 65536 % 256).toUInt8, (n / 256 % 256).toUInt8, (n % 256).toUInt8]

/-- The header of a stored block: the final mark and the length with its complement. -/
def storedHeader (final : UInt8) (len : Nat) : List UInt8 :=
  [final, (len % 256).toUInt8, (len / 256).toUInt8, ((65535 - len) % 256).toUInt8, ((65535 - len) / 256).toUInt8]

/-- Stored blocks holding `data`, the last marked final. -/
def storedBlocks (data : List UInt8) : List UInt8 :=
  if data.length ≤ 65535 then storedHeader 1 data.length ++ data
  else storedHeader 0 65535 ++ data.take 65535 ++ storedBlocks (data.drop 65535)
termination_by data.length
decreasing_by simp only [List.length_drop]; omega

/-- A zlib stream holding `data` in stored blocks. -/
def zlibStored (data : ByteArray) : ByteArray :=
  ⟨(([0x78, 0x01] : List UInt8) ++ storedBlocks data.toList ++ be32 (adler32 data)).toArray⟩

end Glitch.Deflate
