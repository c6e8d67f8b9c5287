import RecordQuery.Pattern.Form

/-!
# Regular expressions

A regular expression here is built over two kinds of leaves: one character out of a class, and an
assertion about the place between two characters. The type leaves open what classes and assertions
are, because a search puts in their stead what they come to on a given text.

Whether a match exists does not depend on which of several matches is preferred, nor on which of
them are remembered, so expressions do not say it.
-/

namespace RecordQuery

/-- Regular expressions over classes `σ` and assertions `α`. -/
inductive Regex (σ α : Type) where
  /-- Matches the empty text. -/
  | empty
  /-- Matches one character of a class. -/
  | one (cls : σ)
  /-- Matches the empty text at places where an assertion holds. -/
  | assert (a : α)
  /-- Matches what the first part matches, followed by what the second does. -/
  | seq (first second : Regex σ α)
  /-- Matches what either part matches. -/
  | alt (first second : Regex σ α)
  /-- Matches so many matches of the body, one after the other; without a bound, any number from
  the least on. -/
  | iterate (least : Nat) (most : Option Nat) (body : Regex σ α)

namespace Regex

variable {σ α : Type}

/-- Matches the parts one after the other. -/
def concat (parts : List (Regex σ α)) : Regex σ α := combine seq empty parts

/-- Matches any of the parts, of which there is at least one. -/
def anyOf (parts : List (Regex σ α)) : Regex σ α := combine alt empty parts

/-- The number of leaves, with bounded repetitions written out. -/
def leaves : Regex σ α → Nat
  | .empty => 1
  | .one _ => 1
  | .assert _ => 1
  | .seq r s => r.leaves + s.leaves
  | .alt r s => r.leaves + s.leaves
  | .iterate least most r => max 1 (max least (most.getD 0)) * r.leaves

end Regex

/-! ## Expressions of forms -/

mutual

/-- The expression that a form stands for. -/
def Form.expression : Form → Regex CharClass Assertion
  | .empty => .empty
  | .text cs => .concat (cs.map fun c ↦ .one (.single c))
  | .one _ s => .one s
  | .assert a => .assert a
  | .iterate least most _ body => .iterate least most body.expression
  | .group body => body.expression
  | .concat parts => .concat (Form.expressions parts)
  | .choice alternatives => .anyOf (Form.expressions alternatives)

/-- The expressions that forms stand for. -/
def Form.expressions : List Form → List (Regex CharClass Assertion)
  | [] => []
  | form :: rest => form.expression :: Form.expressions rest

end

end RecordQuery
