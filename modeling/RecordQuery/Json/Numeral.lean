import RecordQuery.Json.Basic
import RecordQuery.Text.Digits

/-!
# Number literals

A literal with neither a point nor an exponent is an integer, and is kept exactly if a word holds
it. Every other literal is a double, and is read in two steps. First its digits are taken into a
64-bit significand, as many of them as fit, and the others are counted as powers of ten or dropped.
Then the significand, as a double, is multiplied or divided by the power of ten, as a double. Each
step rounds once, so the result can differ from the nearest double in its last place.

The only literal whose *value* is refused is one whose double would be infinite.
-/

namespace RecordQuery

/-- Why a text is not a document. -/
inductive Json.ReadFault where
  /-- The text ends inside a value. -/
  | truncated
  /-- The text goes on in a way that no document does, or asks for more than readers grant: a
  number out of range, half a surrogate pair, deep nesting. -/
  | malformed
  deriving DecidableEq, Repr

/-- A step of reading: what was read, and the rest of the text. -/
abbrev Json.Reader (α : Type) := List Char → Except Json.ReadFault (α × List Char)

namespace Json

/-! ## The value of a significand and an exponent -/

/-- The grains of the double nearest to a natural number. -/
private def wholeGrains (n : Nat) : Nat := Binary64.grainsOfRatio n 1

/-- Divides a magnitude by a power of ten. Powers that no double holds are divided by in steps,
until zero is reached. -/
def divideByPower (count exponent : Nat) : Nat :=
  if exponent ≤ 308 then Binary64.grainsOfRatio count (wholeGrains (Nat.pow 10 exponent))
  else if count = 0 then 0
  else divideByPower (Binary64.grainsOfRatio count (wholeGrains (Nat.pow 10 308))) (exponent - 308)
termination_by exponent

/-- Multiplies a magnitude by a power of ten; `none` if the result is out of range. -/
def multiplyByPower (count exponent : Nat) : Option Nat :=
  if count = 0 then some 0
  else if 308 < exponent then none
  else some (Binary64.roundTo 53 (count * wholeGrains (Nat.pow 10 exponent)) Binary64.grainsPerUnit)

/-- The double of a significand and a power of ten. -/
def float? (negative : Bool) (significand : Nat) (exponent : Int) : Option Numeral := do
  let count := wholeGrains significand
  let scaled ←
    if 0 ≤ exponent then multiplyByPower count exponent.toNat
    else some (divideByPower count (-exponent).toNat)
  match Binary64.ofGrains negative scaled with
  | .finite negative rank => some (.float negative rank)
  | _ => none

/-- The number of an integer literal. Negative zero is a double, and so is a negative integer
that no word holds. -/
def integer? (negative : Bool) (significand : Nat) : Option Numeral :=
  if negative then
    if h : 0 < significand ∧ significand ≤ Nat.pow 2 63 then
      some (.negative ⟨significand - 1, by omega⟩)
    else float? true significand 0
  else some (.natural (.ofNat significand))

/-! ## Reading digits -/

/-- Takes digits into a significand as long as it stays below `2 ^ 64`. The result is the
significand, the number of digits taken, and the rest. -/
def takeFitting (significand : Nat) : List Char → Nat × Nat × List Char
  | [] => (significand, 0, [])
  | c :: rest =>
    if c.isDigit ∧ 10 * significand + Digits.digit c < Nat.pow 2 64 then
      let (final, taken, after) := takeFitting (10 * significand + Digits.digit c) rest
      (final, taken + 1, after)
    else (significand, 0, c :: rest)

/-- The fault at a place where a digit is missing. -/
def missing : List Char → ReadFault
  | [] => .truncated
  | _ => .malformed

/-- The exponent after its mark: an optional sign and at least one digit. -/
def exponentPart (cs : List Char) : Except ReadFault (Int × List Char) :=
  let (negative, cs) := match cs with
    | '+' :: rest => (false, rest)
    | '-' :: rest => (true, rest)
    | _ => (false, cs)
  let digits := cs.takeWhile Char.isDigit
  let rest := cs.dropWhile Char.isDigit
  if digits.isEmpty then .error (missing rest)
  else
    let value : Int := Digits.value digits
    .ok (if negative then -value else value, rest)

/-! ## Literals -/

/-- A number literal, read but not yet valued. -/
structure Literal where
  /-- The digits that fit a word. -/
  significand : Nat
  /-- The power of ten they are multiplied by; `none` for an integer literal. -/
  exponent : Option Int
  deriving DecidableEq, Repr

/-- The exponent of a literal after its digits, if it has one. -/
def finishLiteral (significand : Nat) (exponent : Option Int) : Reader Literal
  | c :: rest =>
    if c = 'e' ∨ c = 'E' then do
      let (e, rest) ← exponentPart rest
      .ok (⟨significand, some (exponent.getD 0 + e)⟩, rest)
    else .ok (⟨significand, exponent⟩, c :: rest)
  | [] => .ok (⟨significand, exponent⟩, [])

/-- The part of a literal after its whole digits, of which `skipped` did not fit. -/
def afterWhole (significand skipped : Nat) : Reader Literal
  | '.' :: rest =>
    let (significand, taken, after) := takeFitting significand rest
    let dropped := after.dropWhile Char.isDigit
    if taken = 0 ∧ dropped.length = after.length then .error (missing after)
    else finishLiteral significand (some ((skipped : Int) - taken)) dropped
  | cs => finishLiteral significand (if skipped = 0 then none else some skipped) cs

/-- A literal without its sign. A leading zero stands alone. -/
def unsignedLiteral : Reader Literal
  | '0' :: rest =>
    match rest with
    | c :: _ => if c.isDigit then .error .malformed else afterWhole 0 0 rest
    | [] => afterWhole 0 0 []
  | c :: rest =>
    if c.isDigit then
      let (significand, _, after) := takeFitting 0 (c :: rest)
      let beyond := after.dropWhile Char.isDigit
      afterWhole significand (after.length - beyond.length) beyond
    else .error .malformed
  | [] => .error .truncated

/-- The value of a literal with a sign. -/
def Literal.value? (negative : Bool) (l : Literal) : Option Numeral :=
  match l.exponent with
  | none => integer? negative l.significand
  | some e => float? negative l.significand e

/-- Reads a number; the text starts with a hyphen or a digit. -/
def readNumeral : Reader Numeral := fun cs ↦ do
  let (negative, cs) := match cs with
    | '-' :: rest => (true, rest)
    | _ => (false, cs)
  let (literal, rest) ← unsignedLiteral cs
  match literal.value? negative with
  | some n => .ok (n, rest)
  | none => .error .malformed

end Json

end RecordQuery
