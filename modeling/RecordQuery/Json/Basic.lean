import RecordQuery.Float.Binary64
import RecordQuery.OrderedMap

/-!
# JSON documents

The tree that a JSON text denotes. Objects are lists of members in the order of the text, repeated
names included; `Json.merged` gives the document its usual reading, in which a repeated name keeps
its first place and takes its last value.

Numbers come in three kinds, and the type leaves no number two forms: natural numbers of one word,
negative integers of one word, and finite doubles.
-/

namespace RecordQuery

/-- A number of a document. -/
inductive Json.Numeral where
  /-- A natural number below `2 ^ 64`. -/
  | natural (n : UInt64)
  /-- The negative integer `-(n + 1)`. -/
  | negative (n : Fin (Nat.pow 2 63))
  /-- A finite double, by its sign and its rank. -/
  | float (negative : Bool) (rank : Fin Binary64.rankLimit)
  deriving DecidableEq

/-- A document. -/
inductive Json where
  /-- The word `null`. -/
  | null
  /-- The words `true` and `false`. -/
  | bool (b : Bool)
  /-- A number. -/
  | number (n : Json.Numeral)
  /-- A text. -/
  | text (s : String)
  /-- An array. -/
  | array (items : List Json)
  /-- An object, with its members in order. -/
  | object (members : List (String × Json))

namespace Json

/-! ## Repeated names -/

mutual

/-- The document in which a repeated name of an object keeps its first place and takes its last
value, at every depth. -/
def merged : Json → Json
  | .array items => .array (mergedItems items)
  | .object members => .object (OrderedMap.ofList (mergedMembers members)).entries
  | .null => .null
  | .bool b => .bool b
  | .number n => .number n
  | .text s => .text s

/-- Merges every item of an array. -/
def mergedItems : List Json → List Json
  | [] => []
  | item :: rest => item.merged :: mergedItems rest

/-- Merges the value of every member of an object. -/
def mergedMembers : List (String × Json) → List (String × Json)
  | [] => []
  | (name, value) :: rest => (name, value.merged) :: mergedMembers rest

end

end Json

end RecordQuery
