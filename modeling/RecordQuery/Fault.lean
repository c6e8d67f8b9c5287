import RecordQuery.Config
import RecordQuery.Lookups
import RecordQuery.Pattern.Basic

/-!
# Faults

The ways in which an operation of the library can fail. Only misuse fails: a record that lacks a
field, or has a value of a kind that an operator does not accept, is a record that does not match.
Faults say what went wrong; how they are worded is said once, by `Fault.message`.
-/

namespace RecordQuery

/-- Why a text is not a specifier. -/
inductive SpecifierFault where
  /-- The text is empty. -/
  | empty
  /-- A part between delimiters is empty. -/
  | emptySegment
  /-- The path has no segments. -/
  | emptyPath
  deriving DecidableEq, Repr

/-- The wording of a fault. -/
def SpecifierFault.message : SpecifierFault → String
  | .empty => "specifier is empty"
  | .emptySegment => "empty path segment"
  | .emptyPath => "key path is empty"

/-- Why an operation failed. -/
inductive Fault where
  /-- A collection was to be built from values one of which is not a record. -/
  | notARecordAt (index : Nat) (found : Value.Kind)
  /-- A collection was to be built from a document that is not an array. -/
  | notAnArray (found : Value.Kind)
  /-- A value was to enter a collection that is not a record. -/
  | notARecord (found : Value.Kind)
  /-- A place beyond the end of a collection was written to. -/
  | outOfBounds (index size : Nat)
  /-- A specifier cannot be read. -/
  | badSpecifier (specifier : String) (cause : SpecifierFault)
  /-- A name is no operator's. -/
  | unknownOperator (name : String)
  /-- The target of a pattern operator is not a text. -/
  | patternNotText (specifier : String) (found : Value.Kind)
  /-- The target of a pattern operator is not a pattern. -/
  | badPattern (specifier : String) (cause : PatternFault)
  /-- Lookups were to be read from a document that is not an object. -/
  | lookupsNotNamed (found : Value.Kind)
  /-- A single record was asked for without any lookup. -/
  | noLookups
  /-- The configuration cannot be used. -/
  | badConfig (cause : ConfigFault)
  /-- A single record was asked for and none matches. -/
  | noneFound (lookups : Lookups)
  /-- A single record was asked for and several match. -/
  | severalFound (count : Nat)
  /-- A text is not a document. -/
  | badDocument (cause : Json.ReadFault)

/-- The wording of a fault. -/
def Fault.message : Fault → String
  | .notARecordAt index found =>
    "every element of a collection must be a record, found " ++ found.name ++ " at index "
      ++ toString index
  | .notAnArray found =>
    "a collection must be built from an array of records, found " ++ found.name
  | .notARecord found => "all elements must be records, tried to add a " ++ found.name
  | .outOfBounds index size =>
    "index " ++ toString index ++ " out of bounds for collection of length " ++ toString size
  | .badSpecifier specifier cause =>
    "invalid field specifier '" ++ specifier ++ "': " ++ cause.message
  | .unknownOperator name => "'" ++ name ++ "' is not a valid lookup operator"
  | .patternNotText specifier found =>
    "invalid pattern for '" ++ specifier ++ "': expected a text pattern, got " ++ found.name
  | .badPattern specifier cause =>
    "invalid pattern for '" ++ specifier ++ "': " ++ cause.message
  | .lookupsNotNamed found =>
    "lookups must be named specifier/target pairs, got " ++ found.name
  | .noLookups => "get_one requires at least one lookup, e.g. lookups! \x7b id = 1 \x7d"
  | .badConfig cause => "invalid lookup configuration: " ++ cause.message
  | .noneFound lookups => "no records found with the following filter: " ++ lookups.text
  | .severalFound count => "expected to find 1 record but found " ++ toString count
  | .badDocument .truncated => "invalid JSON: unexpected end"
  | .badDocument .malformed => "invalid JSON: malformed"

end RecordQuery
