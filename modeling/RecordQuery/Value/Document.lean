import RecordQuery.Json.Reader
import RecordQuery.Json.Writer
import RecordQuery.Value.Basic

/-!
# Values as documents

Every document is a value, and every value can be written as a document. The two number models
differ: a document has natural numbers and negative ones, a value has words with and without a sign.
A natural number becomes a signed word whenever it fits one, and a double that is not finite is
written as `null`. These are the only places where a value does not come back as it was.
-/

namespace RecordQuery

/-! ## Numbers -/

/-- The number of a document's number. -/
def Number.ofNumeral : Json.Numeral → Number
  | .natural n => .ofUInt64 n
  | .negative n => .signed (.ofInt (-(n + 1 : Int)))
  | .float negative rank => .float (.finite negative rank)

/-- The document of a number. -/
def Number.toJson : Number → Json
  | .signed i =>
    if h : i.toInt < 0 then
      .number (.negative ⟨(-i.toInt - 1).toNat, by
        have := i.le_toInt
        simp only [Nat.pow_eq]
        omega⟩)
    else .number (.natural (.ofNat i.toInt.toNat))
  | .unsigned u => .number (.natural u)
  | .float (.finite negative rank) => .number (.float negative rank)
  | .float _ => .null

namespace Value

/-! ## Values -/

mutual

/-- The value of a document. -/
def ofJson : Json → Value
  | .null => .null
  | .bool b => .bool b
  | .number n => .number (.ofNumeral n)
  | .text s => .text s
  | .array items => .sequence (ofItems items)
  | .object members => .record (OrderedMap.ofList (ofMembers members))

/-- The values of the items of an array. -/
def ofItems : List Json → List Value
  | [] => []
  | item :: rest => ofJson item :: ofItems rest

/-- The fields that the members of an object give. -/
def ofMembers : List (String × Json) → List (String × Value)
  | [] => []
  | (name, value) :: rest => (name, ofJson value) :: ofMembers rest

end

mutual

/-- The document of a value. -/
def toJson : Value → Json
  | .null => .null
  | .bool b => .bool b
  | .number n => n.toJson
  | .text s => .text s
  | .sequence items => .array (toItems items)
  | .record ⟨fields⟩ => .object (toMembers fields)

/-- The items that a sequence is written as. -/
def toItems : List Value → List Json
  | [] => []
  | item :: rest => item.toJson :: toItems rest

/-- The members that the fields of a record are written as. -/
def toMembers : List (String × Value) → List (String × Json)
  | [] => []
  | (name, value) :: rest => (name, value.toJson) :: toMembers rest

end

/-- The text of a value. -/
def toText (v : Value) : String := v.toJson.toText

end Value

/-- The text of a record. -/
def Record.toText (r : Record) : String := Value.toText (.record r)

end RecordQuery
