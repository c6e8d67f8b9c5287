import RecordQuery.Json.Reader
import RecordQuery.Value.Basic

/-!
# Decoding values by trial

A second route from a text to a value. It does not ask what a document is: it tries the kinds of
values one after the other, and the first that accepts the document wins. Numbers are tried
likewise, as a signed word, as an unsigned word and as a double, where a double accepts integers
too. Members of an object are taken one by one as they are written, a repeated name overwriting what
it had.

Records, and every other map of values, are decoded from objects alone.
-/

namespace RecordQuery

/-! ## Numbers -/

namespace Number

/-- The signed word that a document's number is, if one holds it. -/
def signedWord? : Json.Numeral → Option Number
  | .natural n => if n.toNat < Nat.pow 2 63 then some (.signed (.ofInt n.toNat)) else none
  | .negative n => some (.signed (.ofInt (-(n + 1 : Int))))
  | .float _ _ => none

/-- The unsigned word that a document's number is, if one holds it. -/
def unsignedWord? : Json.Numeral → Option Number
  | .natural n => some (.unsigned n)
  | _ => none

/-- The double nearest to a document's number. -/
def double? : Json.Numeral → Option Number
  | .natural n => some (.float (.ofInt n.toNat))
  | .negative n => some (.float (.ofInt (-(n + 1 : Int))))
  | .float negative rank => some (.float (.finite negative rank))

/-- The number that a document's number decodes to. -/
def decode? (n : Json.Numeral) : Option Number := signedWord? n <|> unsignedWord? n <|> double? n

end Number

namespace Value

/-! ## Single kinds -/

/-- Accepts the word `null`. -/
def decodeNull? : Json → Option Value
  | .null => some .null
  | _ => none

/-- Accepts a truth value. -/
def decodeBool? : Json → Option Value
  | .bool b => some (.bool b)
  | _ => none

/-- Accepts a number. -/
def decodeNumber? : Json → Option Value
  | .number n => (Number.decode? n).map .number
  | _ => none

/-- Accepts a text. -/
def decodeText? : Json → Option Value
  | .text s => some (.text s)
  | _ => none

/-! ## Any kind -/

mutual

/-- The value that the first accepting kind makes of a document. -/
def decode? (j : Json) : Option Value :=
  decodeNull? j <|> decodeBool? j <|> decodeNumber? j <|> decodeText? j
    <|> (match j with
      | .array items => (decodeItems? items).map .sequence
      | _ => none)
    <|> (match j with
      | .object members => (decodeMembers? {} members).map .record
      | _ => none)

/-- Decodes the items of an array, all of them or none. -/
def decodeItems? : List Json → Option (List Value)
  | [] => some []
  | item :: rest => do
    let first ← decode? item
    let others ← decodeItems? rest
    return first :: others

/-- Decodes the members of an object one by one into a map. -/
def decodeMembers? (decoded : OrderedMap Value) : List (String × Json) → Option (OrderedMap Value)
  | [] => some decoded
  | (name, value) :: rest => do
    let value ← decode? value
    decodeMembers? (decoded.insert name value) rest

end

/-- The map of values that an object decodes to. -/
def decodeMap? : Json → Option (OrderedMap Value)
  | .object members => decodeMembers? {} members
  | _ => none

/-! ## From a text -/

/-- The value that a text decodes to. -/
def decodeText (s : String) : Option Value :=
  match Json.read s with
  | .ok j => decode? j
  | .error _ => none

/-- The map of values that a text decodes to. -/
def decodeMapText (s : String) : Option (OrderedMap Value) :=
  match Json.read s with
  | .ok j => decodeMap? j
  | .error _ => none

end Value

/-- The record that a text decodes to. -/
def Record.decodeText (s : String) : Option Record := Value.decodeMapText s

end RecordQuery
