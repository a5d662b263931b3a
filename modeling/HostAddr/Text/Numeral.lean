/-!
# Numerals

Positional numerals of a fixed number of digits, most significant first, and decimal numerals.
A decimal numeral is read only when it holds nothing but the digits `0` to `9`; leading zeros
count for nothing, signs and blanks are refused.
-/

namespace HostAddr

/-- The last `n` digits of `x` in base `b`, most significant first. -/
def digits (b : Nat) : Nat → Nat → List Nat
  | 0, _ => []
  | n + 1, x => digits b n (x / b) ++ [x % b]

/-- The number that a list of digits in base `b` stands for, most significant first. -/
def ofDigits (b : Nat) (ds : List Nat) : Nat :=
  ds.foldl (fun x d => x * b + d) 0

@[simp]
theorem length_digits (b n x : Nat) : (digits b n x).length = n := by
  induction n generalizing x with
  | zero => rfl
  | succ n ih => simp [digits, ih]

theorem lt_of_mem_digits {b n x d : Nat} (hb : 0 < b) (h : d ∈ digits b n x) : d < b := by
  induction n generalizing x with
  | zero => simp [digits] at h
  | succ n ih =>
    rcases List.mem_append.1 h with h | h
    · exact ih h
    · rw [List.mem_singleton.1 h]
      exact Nat.mod_lt x hb

theorem ofDigits_concat (b : Nat) (ds : List Nat) (d : Nat) :
    ofDigits b (ds ++ [d]) = ofDigits b ds * b + d := by
  simp [ofDigits]

/-- The last `n` digits stand for the remainder modulo the `n`th power of the base. -/
theorem ofDigits_digits (b n x : Nat) : ofDigits b (digits b n x) = x % Nat.pow b n := by
  induction n generalizing x with
  | zero => simp [digits, ofDigits, Nat.mod_one]
  | succ n ih =>
    have hpow : Nat.pow b (n + 1) = b * Nat.pow b n := Nat.pow_succ'
    rw [digits, ofDigits_concat, ih, hpow, Nat.mod_mul, Nat.mul_comm, Nat.add_comm]

def decimal (n : Nat) : List Char :=
  Nat.toDigits 10 n

/-- A numeral of exactly `n` digits in base `b ≤ 16`, in lower case. -/
def padded (b n x : Nat) : List Char :=
  (digits b n x).map Nat.digitChar

/-- Reads a decimal numeral of value at most `limit`. -/
def readDecimal? (limit : Nat) (cs : List Char) : Option Nat :=
  if cs ≠ [] ∧ cs.all Char.isDigit then
    let n := Nat.ofDigitChars 10 cs 0
    if n ≤ limit then some n else none
  else none

/-- Reads a decimal numeral that may carry a plus sign. -/
def readWithPlus? (limit : Nat) : List Char → Option Nat
  | '+' :: cs => readDecimal? limit cs
  | cs => readDecimal? limit cs

/-- The value of a hexadecimal digit in either case. -/
def hexDigit? (c : Char) : Option Nat :=
  if c.isDigit then some (c.toNat - '0'.toNat)
  else if 'a' ≤ c ∧ c ≤ 'f' then some (c.toNat - 'a'.toNat + 10)
  else if 'A' ≤ c ∧ c ≤ 'F' then some (c.toNat - 'A'.toNat + 10)
  else none

/-- The value of a non-empty list of hexadecimal digits. -/
def readHex? (cs : List Char) : Option Nat :=
  if cs = [] then none else (cs.mapM hexDigit?).map (ofDigits 16)

end HostAddr
