import RecordQuery.Number
import RecordQuery.OrderedMap

/-!
# Values and records

A field of a record holds a value: nothing, a truth value, a number, a text, a sequence of values,
or another record. A record is a map from field names to values in order of insertion.

Equality is deep. Sequences are equal item by item; records are equal as maps, whatever the order of
their fields; numbers are equal by value, so that what is not a number equals nothing, and neither
does a value that holds it. Values of different kinds are never equal.
-/

namespace RecordQuery

/-- A value of a field. -/
inductive Value where
  /-- Present, but nothing. -/
  | null
  /-- A truth value. -/
  | bool (b : Bool)
  /-- A number. -/
  | number (n : Number)
  /-- A text. -/
  | text (s : String)
  /-- A sequence of values. -/
  | sequence (items : List Value)
  /-- A nested record. -/
  | record (fields : OrderedMap Value)

/-- A record: values under field names, in order of insertion. -/
abbrev Record := OrderedMap Value

instance : Inhabited Value := ⟨.null⟩

namespace Value

/-! ## Kinds -/

/-- The kinds of values. -/
inductive Kind where
  /-- The kind of `Value.null`. -/
  | null
  /-- The kind of truth values. -/
  | bool
  /-- The kind of numbers. -/
  | number
  /-- The kind of texts. -/
  | text
  /-- The kind of sequences. -/
  | sequence
  /-- The kind of records. -/
  | record
  deriving DecidableEq, Repr

/-- The name of a kind in messages. -/
def Kind.name : Kind → String
  | .null => "null"
  | .bool => "bool"
  | .number => "number"
  | .text => "text"
  | .sequence => "sequence"
  | .record => "record"

/-- The kind of a value. -/
def kind : Value → Kind
  | .null => .null
  | .bool _ => .bool
  | .number _ => .number
  | .text _ => .text
  | .sequence _ => .sequence
  | .record _ => .record

/-! ## Views -/

/-- Whether a value is of a kind. -/
def isKind (v : Value) (k : Kind) : Bool := v.kind == k

/-- The truth value, if the value is one. -/
def bool? : Value → Option Bool
  | .bool b => some b
  | _ => none

/-- The number, if the value is one. -/
def number? : Value → Option Number
  | .number n => some n
  | _ => none

/-- The text, if the value is one. -/
def text? : Value → Option String
  | .text s => some s
  | _ => none

/-- The items, if the value is a sequence. -/
def items? : Value → Option (List Value)
  | .sequence items => some items
  | _ => none

/-- The record, if the value is one. -/
def record? : Value → Option Record
  | .record r => some r
  | _ => none

/-- The record that a value is; a value of another kind is handed back. -/
def toRecord : Value → Except Value Record
  | .record r => .ok r
  | v => .error v

/-- Changes the record that a value is, in its place; a value of another kind stays as it is. -/
def modifyRecord (f : Record → Record) : Value → Value
  | .record r => .record (f r)
  | v => v

/-! ## Equality -/

mutual

/-- Deep equality. -/
def same : Value → Value → Bool
  | .null, .null => true
  | .bool a, .bool b => a == b
  | .number a, .number b => a.sameValue b
  | .text a, .text b => a == b
  | .sequence xs, .sequence ys => sameItems xs ys
  | .record ⟨xs⟩, .record ⟨ys⟩ => xs.length == ys.length && sameFields xs ys
  | _, _ => false

/-- Equality of two sequences, item by item. -/
def sameItems : List Value → List Value → Bool
  | [], [] => true
  | x :: xs, y :: ys => same x y && sameItems xs ys
  | _, _ => false

/-- Whether every entry of the first list is found in the second with an equal value. -/
def sameFields : List (String × Value) → List (String × Value) → Bool
  | [], _ => true
  | (name, x) :: xs, ys =>
    (match OrderedMap.lookup name ys with
      | some y => same x y
      | none => false) && sameFields xs ys

end

instance : BEq Value := ⟨same⟩

end Value

namespace Record

/-- Equality of records as maps. -/
def same (r s : Record) : Bool := Value.same (.record r) (.record s)

instance : BEq Record := ⟨same⟩

end Record

end RecordQuery
