/-!
# Decimal digits

The numbers that runs of decimal digits spell. Only the ten digits of ASCII count as digits.
-/

namespace RecordQuery

namespace Digits

/-- The value of a decimal digit. -/
def digit (c : Char) : Nat := c.toNat - '0'.toNat

/-- The number that a run of digits spells. -/
def value (digits : List Char) : Nat := digits.foldl (fun value c ↦ 10 * value + digit c) 0

end Digits

end RecordQuery
