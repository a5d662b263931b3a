/-!
# UTF-8 spellings of ranges

UTF-8 spells a character with one to four bytes. A range of code points is even if its members
are spelt by all the byte strings that lie, byte by byte, between the spellings of its ends.
Every range is a chain of even ranges, and `spellings` lists the byte ranges of each of them.
-/

namespace HostAddr

/-- Where a range that is not even is cut: the last code point of the first part. The number of
bytes changes there, or the last bytes do not run through all their values on both sides. -/
def cutPoint? (first last : Nat) : Option Nat :=
  match [0x7f, 0x7ff, 0xffff].find? fun n => first ≤ n && n < last with
  | some n => some n
  | none =>
    if last ≤ 0x7f then none
    else [64, 4096, 262144].findSome? fun block =>
      if first / block = last / block then none
      else if first % block ≠ 0 then some (first / block * block + (block - 1))
      else if last % block ≠ block - 1 then some (last / block * block - 1)
      else none

/-- The even ranges that make up a range, in ascending order. -/
def evenRanges (first last : Nat) : List (Nat × Nat) :=
  match cutPoint? first last with
  | some cut =>
    if first ≤ cut ∧ cut < last then evenRanges first cut ++ evenRanges (cut + 1) last
    else [(first, last)]
  | none => [(first, last)]
termination_by last - first

/-- The range of each byte in the spellings of an even range. -/
def byteRanges (r : Nat × Nat) : List (UInt8 × UInt8) :=
  (String.utf8EncodeChar (Char.ofNat r.1)).zip (String.utf8EncodeChar (Char.ofNat r.2))

/-- The spellings of the characters in a range; surrogates are not characters. -/
def spellings (r : Nat × Nat) : List (List (UInt8 × UInt8)) :=
  let parts := [(r.1, min r.2 0xd7ff), (max r.1 0xe000, r.2)].filter fun p => p.1 ≤ p.2
  (parts.flatMap fun p => evenRanges p.1 p.2).map byteRanges

end HostAddr
