/-!
# Hexadecimal digits

Escapes of documents and of patterns write numbers in base sixteen. Capital and small digits are
both read; what the library writes has small ones.
-/

namespace RecordQuery

namespace Hexadecimal

/-- The value of one hexadecimal digit, in either case. -/
def digit? (c : Char) : Option Nat :=
  if '0' ≤ c ∧ c ≤ '9' then some (c.toNat - '0'.toNat)
  else if 'a' ≤ c ∧ c ≤ 'f' then some (c.toNat - 'a'.toNat + 10)
  else if 'A' ≤ c ∧ c ≤ 'F' then some (c.toNat - 'A'.toNat + 10)
  else none

/-- The number that digits spell, if all of them are digits. -/
def value? (digits : List Char) : Option Nat :=
  digits.foldlM (fun value c ↦ (digit? c).map (16 * value + ·)) 0

/-- The digits of a number, padded with zeros to a width. -/
def padded (width n : Nat) : List Char :=
  let digits := Nat.toDigits 16 n
  List.replicate (width - digits.length) '0' ++ digits

end Hexadecimal

end RecordQuery
