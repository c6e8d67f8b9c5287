import RecordQuery.Unicode.CaseMap
import RecordQuery.Unicode.Naming

/-!
# Classes of characters in patterns

Under case folding a class takes in every character that differs from a member by case alone.

Patterns read characters in one of two alphabets. In the Unicode alphabet every character counts; in
the alphabet of ASCII, classes hold ASCII characters only and case folding knows the letters of
ASCII only, and a class that would reach beyond is refused.
-/

namespace RecordQuery

/-- A set of characters. -/
abbrev CharClass := CodePoints

namespace CharClass

/-- The set under case folding in one of the two alphabets. -/
def folded (unicode : Bool) (s : CharClass) : CharClass :=
  (if unicode then CaseMap.folding else CaseMap.asciiFolding).closure s

/-! ## Named sets -/

/-- Decimal digits of ASCII. -/
def asciiDigit : CharClass := .range '0' '9'

/-- Blanks of ASCII. -/
def asciiSpace : CharClass := .unionOf [.range '\t' '\r', .single ' ']

/-- Characters of words in ASCII. -/
def asciiWord : CharClass := .unionOf [.range '0' '9', .range 'A' 'Z', .single '_', .range 'a' 'z']

/-- The classes of ASCII characters that have a name of their own. -/
def asciiNamed? : String → Option CharClass
  | "alnum" => some (.unionOf [.range '0' '9', .range 'A' 'Z', .range 'a' 'z'])
  | "alpha" => some (.unionOf [.range 'A' 'Z', .range 'a' 'z'])
  | "ascii" => some (.range '\x00' '\x7f')
  | "blank" => some (.unionOf [.single '\t', .single ' '])
  | "cntrl" => some (.unionOf [.range '\x00' '\x1f', .single '\x7f'])
  | "digit" => some asciiDigit
  | "graph" => some (.range '!' '~')
  | "lower" => some (.range 'a' 'z')
  | "print" => some (.range ' ' '~')
  | "punct" =>
    some (.unionOf [.range '!' '/', .range ':' '@', .range '[' '\x60', .range '\x7b' '~'])
  | "space" => some asciiSpace
  | "upper" => some (.range 'A' 'Z')
  | "word" => some asciiWord
  | "xdigit" => some (.unionOf [.range '0' '9', .range 'A' 'F', .range 'a' 'f'])
  | _ => none

/-- Decimal digits. -/
def digit (unicode : Bool) : CharClass :=
  if unicode then Category.decimalNumber.members else asciiDigit

/-- Blanks. -/
def space (unicode : Bool) : CharClass := if unicode then Property.blank else asciiSpace

/-- Characters of words. -/
def word (unicode : Bool) : CharClass := if unicode then Property.word else asciiWord

end CharClass

end RecordQuery
