import RecordQuery.Text.EditDistance

/-!
# Lookup operators

An operator is the relation that a lookup asks for between a value of a record and its target. It is
written as the last part of a specifier, by its name. A part that almost spells a name is likely a
slip; `Operator.resembling?` says which operator may have been meant.
-/

namespace RecordQuery

/-- The relations that a lookup can ask for. -/
inductive Operator where
  /-- Deep equality. -/
  | exact
  /-- Equality of texts up to case. -/
  | exactIgnoringCase
  /-- Being a member of the target: an item of a sequence, a part of a text, or a field name. -/
  | memberOf
  /-- Being matched by the target, a pattern. -/
  | pattern
  /-- Being matched by the target up to case. -/
  | patternIgnoringCase
  /-- Having the target as a part of a text or as an item of a sequence. -/
  | contains
  /-- Having the target as a part of a text up to case. -/
  | containsIgnoringCase
  deriving DecidableEq, Repr, Inhabited

namespace Operator

/-- Every operator, in the order in which names are looked up. -/
def all : List Operator :=
  [exact, exactIgnoringCase, memberOf, pattern, patternIgnoringCase, contains,
   containsIgnoringCase]

/-- The name that specifiers end with. -/
def name : Operator → String
  | exact => "exact"
  | exactIgnoringCase => "iexact"
  | memberOf => "in"
  | pattern => "regex"
  | patternIgnoringCase => "iregex"
  | contains => "contains"
  | containsIgnoringCase => "icontains"

/-- The operator with a name, letter by letter. -/
def named? (name : String) : Option Operator := all.find? (·.name == name)

/-- Whether case is ignored. -/
def ignoresCase : Operator → Bool
  | exactIgnoringCase | patternIgnoringCase | containsIgnoringCase => true
  | _ => false

/-- Whether the target is a pattern. -/
def takesPattern : Operator → Bool
  | pattern | patternIgnoringCase => true
  | _ => false

/-! ## Slips -/

/-- The length from which a name is long enough to be recognised in a misspelling. -/
def leastFuzzyLength : Nat := 5

/-- Whether a text without capitals spells a name up to one edit. Short names have to be spelt
exactly. -/
def isNear (lowered : List Char) (op : Operator) : Bool :=
  lowered == op.name.toList ||
    (leastFuzzyLength ≤ op.name.length && editDistance lowered op.name.toList ≤ 1)

/-- The first operator that a text resembles, whatever the case of its letters. -/
def resembling? (text : String) : Option Operator :=
  all.find? (isNear (text.toList.map Char.toLower))

end Operator

end RecordQuery
