import RecordQuery.Pattern.Machine
import RecordQuery.Pattern.Marks
import RecordQuery.Pattern.Places
import RecordQuery.Pattern.Reader

/-!
# Patterns

A pattern is a text read as a regular expression. It matches a text if some part of it matches,
unless the pattern says where matches start and end. Patterns of excessive depth or size are refused
when they are read, so that no search with an accepted one gets out of hand.
-/

namespace RecordQuery

/-- A pattern that has been read. -/
structure Pattern where
  /-- What the pattern matches. -/
  expression : Regex CharClass Assertion

namespace Pattern

/-- Reads a pattern; `ignoreCase` is the flag that it starts with. -/
def compile (ignoreCase : Bool) (text : String) : Except PatternFault Pattern := do
  let form ← read { ignoreCase } text.toList
  if form.fits then .ok ⟨form.expression⟩ else .error .tooLarge

/-- Whether a pattern matches some part of a text. Sets of places are tried first, because marks
take long where many parts of a pattern are at work at the same time. -/
def isMatch (p : Pattern) (text : String) : Bool :=
  let cs := text.toList
  let holds (a : Assertion) (before after : Option Char) : Bool := a.holds before after
  match p.expression.occursByPlaces? CodePoints.contains holds cs with
  | some found => found
  | none => p.expression.occursByMarks CodePoints.contains holds cs

end Pattern

end RecordQuery
