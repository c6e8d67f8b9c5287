import RecordQuery.Float.Shortest

/-!
# Writing doubles

Which digits a double has is the matter of `RecordQuery.Float.Shortest`; this file lays them out. A
`FloatStyle` holds the decisions of one written form, and the two forms that the library writes are
two values of it.
-/

namespace RecordQuery

/-- The decisions of a written form of doubles. -/
structure FloatStyle where
  /-- Whether a number whose first digit stands for `10 ^ e` is written without an exponent. -/
  positional : Int → Bool
  /-- Whether a whole number keeps a point and a zero. -/
  pointZero : Bool
  /-- Which of two equally near decimals is written. -/
  tie : Tie

namespace FloatStyle

/-- A run of zeros. -/
private def zeros (n : Nat) : List Char := List.replicate n '0'

/-- Digits without an exponent, the first of them standing for `10 ^ e`. -/
def positionalText (style : FloatStyle) (digits : List Char) (e : Int) : List Char :=
  let point := if style.pointZero then ['.', '0'] else []
  if e < 0 then ['0', '.'] ++ zeros ((-e).toNat - 1) ++ digits
  else if digits.length ≤ e.toNat + 1 then
    digits ++ zeros (e.toNat + 1 - digits.length) ++ point
  else digits.take (e.toNat + 1) ++ '.' :: digits.drop (e.toNat + 1)

/-- Digits with an exponent: a point after the first, and always a sign. -/
def exponentText (digits : List Char) (e : Int) : List Char :=
  let mantissa := match digits with
    | [] => []
    | [d] => [d]
    | d :: rest => d :: '.' :: rest
  mantissa ++ ['e', if e < 0 then '-' else '+'] ++ Nat.toDigits 10 e.natAbs

/-- The text of the magnitude with a rank. -/
def magnitudeText (style : FloatStyle) (rank : Nat) : List Char :=
  if rank = 0 then style.positionalText ['0'] 0
  else
    let d := Binary64.shortest style.tie rank
    let digits := Nat.toDigits 10 d.digits
    let e := d.exponent + digits.length - 1
    if style.positional e then style.positionalText digits e else exponentText digits e

/-- The text of the finite number with a sign and a rank. -/
def finiteText (style : FloatStyle) (negative : Bool) (rank : Nat) : List Char :=
  if negative then '-' :: style.magnitudeText rank else style.magnitudeText rank

/-- Documents write a double with a point, and with an exponent when its first digit lies more than
fifteen places before the point or more than five behind it. -/
def document : FloatStyle where
  positional e := -5 ≤ e && e ≤ 15
  pointZero := true
  tie := .even

/-- Plain text writes every digit in its place, and a whole number without a point. -/
def plain : FloatStyle where
  positional _ := true
  pointZero := false
  tie := .up

end FloatStyle

namespace Binary64

/-- The text of a double in a document. Documents have no word for what is not finite. -/
def documentText : Binary64 → List Char
  | .finite negative rank => FloatStyle.document.finiteText negative rank
  | _ => "null".toList

/-- The plain text of a double. -/
def plainText : Binary64 → List Char
  | .nan => "NaN".toList
  | .infinite negative => if negative then "-inf".toList else "inf".toList
  | .finite negative rank => FloatStyle.plain.finiteText negative rank

end Binary64

end RecordQuery
