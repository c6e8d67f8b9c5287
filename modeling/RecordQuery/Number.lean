import RecordQuery.Float.Style

/-!
# Numbers

A number of a record is a signed word, an unsigned word, or a double. The three are kept apart,
since each is written and converted in its own way, but they are compared as the numbers they are:
`2`, as either word, equals `2.0`, and a word is never rounded to a double on the way. Only what is
not a number is incomparable, to itself as well.
-/

namespace RecordQuery

/-- A number of a record. -/
inductive Number where
  /-- An integer as a signed word. -/
  | signed (i : Int64)
  /-- An integer as an unsigned word. -/
  | unsigned (u : UInt64)
  /-- A double. -/
  | float (x : Binary64)
  deriving DecidableEq

namespace Number

/-! ## Construction -/

/-- The number of an unsigned word: a signed word whenever it fits one. -/
def ofUInt64 (u : UInt64) : Number :=
  if u.toNat < Nat.pow 2 63 then .signed (.ofInt u.toNat) else .unsigned u

/-! ## Views -/

/-- The integer that a word holds. -/
def integer? : Number → Option Int
  | .signed i => some i.toInt
  | .unsigned u => some u.toNat
  | .float _ => none

/-- The nearest double. -/
def toDouble : Number → Binary64
  | .signed i => .ofInt i.toInt
  | .unsigned u => .ofInt u.toNat
  | .float x => x

/-- Plain text: integers in decimal, doubles with every digit in its place. -/
def plainText : Number → String
  | .signed i => toString i.toInt
  | .unsigned u => toString u.toNat
  | .float x => String.ofList x.plainText

/-! ## Order and equality -/

/-- Order by exact value; `none` if either side is not a number. -/
def compare? : Number → Number → Option Ordering
  | .float x, .float y => x.compare? y
  | .float x, .signed j => (x.compareWord? j.toInt).map Ordering.swap
  | .float x, .unsigned v => (x.compareWord? v.toNat).map Ordering.swap
  | .signed i, .float y => y.compareWord? i.toInt
  | .unsigned u, .float y => y.compareWord? u.toNat
  | .signed i, .signed j => some (compare i.toInt j.toInt)
  | .signed i, .unsigned v => some (compare i.toInt v.toNat)
  | .unsigned u, .signed j => some (compare (u.toNat : Int) j.toInt)
  | .unsigned u, .unsigned v => some (compare u.toNat v.toNat)

/-- Equality by exact value. -/
def sameValue (a b : Number) : Bool := a.compare? b == some .eq

/-- Whether a number comes before another; never so if either is not a number. -/
def below (a b : Number) : Bool := a.compare? b == some .lt

/-- Whether a number comes before another or equals it. -/
def atMost (a b : Number) : Bool := a.below b || a.sameValue b

end Number

end RecordQuery
