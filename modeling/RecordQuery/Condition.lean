import RecordQuery.Pattern
import RecordQuery.Specifier
import RecordQuery.Text.LowerCase
import RecordQuery.Text.Occurrence

/-!
# Conditions

A condition is one lookup made ready: its specifier has been read, and its target has been prepared
for its operator, so that testing a record reads no specifier, reads no pattern and lower-cases no
target again.

A condition holds of a record if it holds of some value that its path reaches. A value of a kind
that the operator does not accept never fulfils it, and neither does a field that is not there.
-/

namespace RecordQuery

/-- A target prepared for its operator. -/
inductive Operand where
  /-- Compared as it is. -/
  | plain
  /-- A text in lower case. -/
  | lowered (target : List Char)
  /-- A pattern that has been read. -/
  | pattern (p : Pattern)
  /-- A target that no value can fulfil. -/
  | unmatchable

/-- A lookup made ready. -/
structure Condition where
  /-- The specifier it was read from. -/
  specifier : String
  /-- The path to the values that are tested. -/
  path : Path
  /-- The relation that is asked for. -/
  operator : Operator
  /-- The target as it was given. -/
  target : Value
  /-- The target as it was prepared. -/
  operand : Operand

namespace Condition

/-! ## Preparation -/

/-- Prepares a target for an operator. -/
def prepare (specifier : String) (operator : Operator) (target : Value) : Except Fault Operand :=
  match operator with
  | .pattern | .patternIgnoringCase =>
    match target with
    | .text s =>
      match Pattern.compile operator.ignoresCase s with
      | .ok p => .ok (.pattern p)
      | .error cause => .error (.badPattern specifier cause)
    | v => .error (.patternNotText specifier v.kind)
  | .exactIgnoringCase | .containsIgnoringCase =>
    match target with
    | .text s => .ok (.lowered (Text.lower s.toList))
    | _ => .ok .unmatchable
  | .exact | .memberOf | .contains => .ok .plain

/-- Makes a lookup ready. -/
def compile (config : Config) (specifier : String) (target : Value) : Logged Condition := do
  let { path, operator } ← Specifier.read config specifier
  let operand ← .ofExcept (prepare specifier operator target)
  .report (.prepared specifier path operator)
  return { specifier, path, operator, target, operand }

/-! ## Tests -/

/-- Whether a value is a member of a target. -/
def isMember (found : Value) : Value → Bool
  | .sequence items => items.any (· == found)
  | .text whole =>
    match found with
    | .text part => Text.occursIn part.toList whole.toList
    | _ => false
  | .record fields =>
    match found with
    | .text name => fields.contains name
    | _ => false
  | _ => false

/-- Whether a value has a target as a part or an item. -/
def hasPart (found target : Value) : Bool :=
  match found, target with
  | .text whole, .text part => Text.occursIn part.toList whole.toList
  | .sequence items, target => items.any (· == target)
  | _, _ => false

/-- Whether a value fulfils the condition. -/
def matchesValue (c : Condition) (found : Value) : Bool :=
  match c.operator with
  | .exact => found == c.target
  | .memberOf => isMember found c.target
  | .contains => hasPart found c.target
  | .exactIgnoringCase =>
    match c.operand, found with
    | .lowered target, .text s => Text.lower s.toList == target
    | _, _ => false
  | .containsIgnoringCase =>
    match c.operand, found with
    | .lowered target, .text s => Text.occursIn target (Text.lower s.toList)
    | _, _ => false
  | .pattern | .patternIgnoringCase =>
    match c.operand, found with
    | .pattern p, .text s => p.isMatch s
    | _, _ => false

/-- Whether some value that was reached fulfils the condition. -/
def matchesResolved (c : Condition) : Resolved → Bool
  | .notFound => false
  | .one found => c.matchesValue found
  | .any candidates => candidates.any c.matchesValue

/-- Whether a record fulfils the condition. -/
def isMatch (c : Condition) (r : Record) : Bool := c.matchesResolved (c.path.resolve r)

end Condition

end RecordQuery
