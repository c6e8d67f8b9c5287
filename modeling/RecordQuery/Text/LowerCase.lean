import RecordQuery.Unicode.CaseMap
import RecordQuery.Unicode.Latest

/-!
# Lower case

Lower-casing a text by the rules of the Unicode standard that hold in every language. Nearly every
character has a lower-case form of its own, whatever surrounds it. The exception is the Greek
capital sigma, which has a second form for the end of a word. One character, the dotted capital i,
has a form of two characters.
-/

namespace RecordQuery

namespace Text

/-- Whether the first character that is not ignored in matters of case has a case. -/
def meetsCased (cs : List Char) : Bool :=
  match cs.dropWhile Latest.caseIgnorable.contains with
  | [] => false
  | c :: _ => Latest.cased.contains c

/-- The lower-case form of a sigma, by the characters before it, nearest first, and after it. A word
ends with it if there is a cased character before and none after. -/
def lowerSigma (before after : List Char) : Char :=
  if meetsCased before && !meetsCased after then 'ς' else 'σ'

/-- The lower-case form of a character between others. -/
def lowerForm (before : List Char) (c : Char) (after : List Char) : List Char :=
  if c.toNat < 0x80 then [c.toLower]
  else if c = 'Σ' then [lowerSigma before after]
  else if c = 'İ' then ['i', '\u0307']
  else [CaseMap.lowering.apply c]

/-- Lower-cases a text that goes on after the characters `before`, nearest first. -/
def lowerAfter (before : List Char) : List Char → List Char
  | [] => []
  | c :: after => lowerForm before c after ++ lowerAfter (c :: before) after

/-- The lower-case form of a text. -/
def lower (cs : List Char) : List Char := lowerAfter [] cs

end Text

end RecordQuery
