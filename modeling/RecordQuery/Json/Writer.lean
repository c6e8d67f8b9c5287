import RecordQuery.Float.Style
import RecordQuery.Json.Basic
import RecordQuery.Text.Hexadecimal

/-!
# Writing JSON

Documents are written compactly: no blanks, members in their order. In a text only the quote, the
backslash and the control characters below the blank are escaped; every other character stands for
itself.

Each writer puts its text in front of what follows it. A document is thus written in time linear in
its length, and a reader can be compared with a writer at any place of a longer text.
-/

namespace RecordQuery

namespace Json

/-! ## Texts -/

/-- One character of a text, as it is written. -/
def escaped (c : Char) : List Char :=
  if c = '"' then ['\\', '"']
  else if c = '\\' then ['\\', '\\']
  else if c = '\x08' then ['\\', 'b']
  else if c = '\x0c' then ['\\', 'f']
  else if c = '\n' then ['\\', 'n']
  else if c = '\r' then ['\\', 'r']
  else if c = '\t' then ['\\', 't']
  else if c.toNat < 0x20 then '\\' :: 'u' :: Hexadecimal.padded 4 c.toNat
  else [c]

/-- Writes the characters of a text up to its closing quote. -/
def writeChars : List Char → List Char → List Char
  | [], rest => '"' :: rest
  | c :: cs, rest => escaped c ++ writeChars cs rest

/-- Writes a text with its quotes. -/
def writeText (s : String) (rest : List Char) : List Char := '"' :: writeChars s.toList rest

/-! ## Numbers -/

/-- The text of a number. -/
def Numeral.text : Numeral → List Char
  | .natural n => Nat.toDigits 10 n.toNat
  | .negative n => '-' :: Nat.toDigits 10 (n + 1)
  | .float sign rank => FloatStyle.document.finiteText sign rank

/-! ## Documents -/

mutual

/-- Writes a document. -/
def write : Json → List Char → List Char
  | .null, rest => "null".toList ++ rest
  | .bool b, rest => (if b then "true".toList else "false".toList) ++ rest
  | .number n, rest => n.text ++ rest
  | .text s, rest => writeText s rest
  | .array items, rest => '[' :: writeItems items (']' :: rest)
  | .object members, rest => '{' :: writeMembers members ('}' :: rest)

/-- Writes the items of an array, with commas between them. -/
def writeItems : List Json → List Char → List Char
  | [], rest => rest
  | item :: others, rest => item.write (writeMoreItems others rest)

/-- Writes the items after the first. -/
def writeMoreItems : List Json → List Char → List Char
  | [], rest => rest
  | item :: others, rest => ',' :: item.write (writeMoreItems others rest)

/-- Writes the members of an object, with commas between them. -/
def writeMembers : List (String × Json) → List Char → List Char
  | [], rest => rest
  | (name, value) :: others, rest =>
    writeText name (':' :: value.write (writeMoreMembers others rest))

/-- Writes the members after the first. -/
def writeMoreMembers : List (String × Json) → List Char → List Char
  | [], rest => rest
  | (name, value) :: others, rest =>
    ',' :: writeText name (':' :: value.write (writeMoreMembers others rest))

end

/-- The text of a document. -/
def toText (j : Json) : String := String.ofList (j.write [])

end Json

end RecordQuery
