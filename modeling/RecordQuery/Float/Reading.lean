import RecordQuery.Float.Binary64
import RecordQuery.Text.Digits

/-!
# Reading doubles from plain text

Plain text for a double is a sign, which may be missing, and then either one of the words `nan`,
`inf` and `infinity` in any case, or digits around a point with an exponent behind them. The point
and the digits on one side of it may be missing. The result is the double nearest to the decimal,
whatever its length; a second reader rounds to single precision first.
-/

namespace RecordQuery

namespace PlainDecimal

/-- A decimal as it is written, its sign apart. -/
structure Parts where
  /-- The digits before and after the point, as one number. -/
  digits : Nat
  /-- The power of ten that the digits are multiplied by. -/
  exponent : Int

/-- The integer that an optional sign and at least one digit spell. -/
def signed? (cs : List Char) : Option Int :=
  let (negative, digits) := match cs with
    | '-' :: rest => (true, rest)
    | '+' :: rest => (false, rest)
    | _ => (false, cs)
  if digits.isEmpty ∨ !digits.all Char.isDigit then none
  else some (if negative then -(Digits.value digits : Int) else Digits.value digits)

/-- The exponent at the end of a decimal; where there is none it is zero. -/
def exponentPart? : List Char → Option Int
  | [] => some 0
  | c :: rest => if c = 'e' ∨ c = 'E' then signed? rest else none

/-- The parts of a decimal without a sign. -/
def parts? (cs : List Char) : Option Parts := do
  let whole := cs.takeWhile Char.isDigit
  let (behind, rest) := match cs.dropWhile Char.isDigit with
    | '.' :: rest => (rest.takeWhile Char.isDigit, rest.dropWhile Char.isDigit)
    | rest => ([], rest)
  if whole.isEmpty && behind.isEmpty then none
  let exponent ← exponentPart? rest
  return ⟨Digits.value (whole ++ behind), exponent - behind.length⟩

/-- Reads a double, rounding decimals as it is told. -/
def read? (round : Bool → Nat → Int → Binary64) (s : String) : Option Binary64 :=
  let (negative, cs) := match s.toList with
    | '-' :: rest => (true, rest)
    | '+' :: rest => (false, rest)
    | cs => (false, cs)
  let word := String.ofList (cs.map Char.toLower)
  if word = "nan" then some .nan
  else if word = "inf" ∨ word = "infinity" then some (.infinite negative)
  else (parts? cs).map fun p ↦ round negative p.digits p.exponent

end PlainDecimal

namespace Binary64

/-- The double nearest to what a plain text says. -/
def ofText? : String → Option Binary64 := PlainDecimal.read? ofDecimal

/-- The double that a plain text becomes by way of single precision. -/
def ofTextSingle? : String → Option Binary64 := PlainDecimal.read? ofDecimalSingle

end Binary64

end RecordQuery
