import RecordQuery.Pattern.Regex

/-!
# Searching with marks

While a text is read, marks on the leaves of an expression tell which leaves have just read a
character in some match that is under way. The next character moves every mark on to the leaves that
may read it. Parts without marks that no mark enters are left alone, so that a character costs no
more than the parts that are at work.

Whether a part matches the empty text can depend on the place, because of assertions. Where it does
not, it is settled when the expression is built.
-/

namespace RecordQuery

/-- What is known of a statement about a part before the place is known. -/
inductive Verdict where
  /-- It is false everywhere. -/
  | no
  /-- It is true everywhere. -/
  | yes
  /-- It depends on the place. -/
  | unsettled
  deriving DecidableEq, Repr

namespace Verdict

/-- The verdict on a truth value. -/
def ofBool (b : Bool) : Verdict := if b then yes else no

/-- Both statements. -/
def and : Verdict → Verdict → Verdict
  | no, _ => no
  | _, no => no
  | yes, yes => yes
  | _, _ => unsettled

/-- Either statement. -/
def or : Verdict → Verdict → Verdict
  | yes, _ => yes
  | _, yes => yes
  | no, no => no
  | _, _ => unsettled

end Verdict

/-- Expressions with marks. Parts made of others keep whether there is a mark in them (`active`),
whether they match the empty text (`skips`), and whether a match that is under way in them ends at
the present place (`ends`). -/
inductive Marked (σ α : Type) where
  /-- Matches the empty text. -/
  | empty
  /-- Matches one character of a class, and has just done so if there is a mark. -/
  | one (cls : σ) (mark : Bool)
  /-- Matches the empty text at places where an assertion holds. -/
  | assert (a : α)
  /-- Matches what the first part matches, followed by what the second does. -/
  | seq (active : Bool) (skips ends : Verdict) (first second : Marked σ α)
  /-- Matches what either part matches. -/
  | alt (active : Bool) (skips ends : Verdict) (first second : Marked σ α)
  /-- Matches any number of matches of the body, one after the other. -/
  | star (active : Bool) (ends : Verdict) (body : Marked σ α)

namespace Marked

variable {σ α : Type}

/-! ## Building -/

/-- Whether there is a mark. -/
def active : Marked σ α → Bool
  | .empty => false
  | .one _ mark => mark
  | .assert _ => false
  | .seq active _ _ _ _ => active
  | .alt active _ _ _ _ => active
  | .star active _ _ => active

/-- Whether the empty text is matched. -/
def skips : Marked σ α → Verdict
  | .empty => .yes
  | .one _ _ => .no
  | .assert _ => .unsettled
  | .seq _ skips _ _ _ => skips
  | .alt _ skips _ _ _ => skips
  | .star _ _ _ => .yes

/-- Whether a match that is under way ends here. -/
def ends : Marked σ α → Verdict
  | .empty => .no
  | .one _ mark => .ofBool mark
  | .assert _ => .no
  | .seq _ _ ends _ _ => ends
  | .alt _ _ ends _ _ => ends
  | .star _ ends _ => ends

/-- The sequence of two parts. -/
def inSequence (r s : Marked σ α) : Marked σ α :=
  .seq (r.active || s.active) (r.skips.and s.skips) (s.ends.or (r.ends.and s.skips)) r s

/-- The choice between two parts. -/
def either (r s : Marked σ α) : Marked σ α :=
  .alt (r.active || s.active) (r.skips.or s.skips) (r.ends.or s.ends) r s

/-- A part repeated. -/
def anyNumber (r : Marked σ α) : Marked σ α := .star r.active r.ends r

/-- So many copies of a part in sequence, made of copies of half the number. The fuel bounds how
often a half is taken, and `count` suffices. -/
def copiesFrom (r : Marked σ α) : Nat → Nat → Marked σ α
  | fuel + 1, count =>
    if count = 0 then .empty
    else if count = 1 then r
    else
      let half := copiesFrom r fuel (count / 2)
      if count % 2 = 0 then half.inSequence half else (half.inSequence half).inSequence r
  | 0, _ => .empty

/-- So many copies of a part in sequence. -/
def copies (count : Nat) (r : Marked σ α) : Marked σ α := copiesFrom r count count

/-- An expression without marks. -/
def ofRegex : Regex σ α → Marked σ α
  | .empty => .empty
  | .one cls => .one cls false
  | .assert a => .assert a
  | .seq r s => (ofRegex r).inSequence (ofRegex s)
  | .alt r s => (ofRegex r).either (ofRegex s)
  | .iterate least most r =>
    let r := ofRegex r
    match most with
    | none => (copies least r).inSequence r.anyNumber
    | some most => (copies least r).inSequence (copies (most - least) (.either .empty r))

/-! ## At a place -/

/-- Whether the empty text is matched at a place, given which assertions hold there. -/
def skipsAt (holds : α → Bool) : Marked σ α → Bool
  | .empty => true
  | .one _ _ => false
  | .assert a => holds a
  | .seq _ skips _ r s =>
    match skips with
    | .yes => true
    | .no => false
    | .unsettled => r.skipsAt holds && s.skipsAt holds
  | .alt _ skips _ r s =>
    match skips with
    | .yes => true
    | .no => false
    | .unsettled => r.skipsAt holds || s.skipsAt holds
  | .star _ _ _ => true

/-- Whether a match that is under way ends at a place, given which assertions hold there. -/
def endsAt (holds : α → Bool) : Marked σ α → Bool
  | .empty => false
  | .one _ mark => mark
  | .assert _ => false
  | .seq _ _ ends r s =>
    match ends with
    | .yes => true
    | .no => false
    | .unsettled => s.endsAt holds || (r.endsAt holds && s.skipsAt holds)
  | .alt _ _ ends r s =>
    match ends with
    | .yes => true
    | .no => false
    | .unsettled => r.endsAt holds || s.endsAt holds
  | .star _ ends r =>
    match ends with
    | .yes => true
    | .no => false
    | .unsettled => r.endsAt holds

/-- Reads the character behind a place. `reads` tells which classes it is in, `holds` which
assertions hold at the place, and `entered` whether a match may start there. -/
def read (reads : σ → Bool) (holds : α → Bool) (entered : Bool) : Marked σ α → Marked σ α
  | .empty => .empty
  | .one cls mark => if entered then .one cls (reads cls) else if mark then .one cls false
                     else .one cls mark
  | .assert a => .assert a
  | .seq active skips ends r s =>
    if entered || active then
      (r.read reads holds entered).inSequence
        (s.read reads holds ((entered && r.skipsAt holds) || r.endsAt holds))
    else .seq active skips ends r s
  | .alt active skips ends r s =>
    if entered || active then
      (r.read reads holds entered).either (s.read reads holds entered)
    else .alt active skips ends r s
  | .star active ends r =>
    if entered || active then (r.read reads holds (entered || r.endsAt holds)).anyNumber
    else .star active ends r

/-! ## Searching -/

/-- Whether a match ends at the place before the text or later. `before` is the character before
it. -/
def occursFrom (contains : σ → Char → Bool) (holds : α → Option Char → Option Char → Bool)
    (before : Option Char) (r : Marked σ α) : List Char → Bool
  | [] => r.skipsAt (holds · before none) || r.endsAt (holds · before none)
  | c :: rest =>
    let holdsHere (a : α) : Bool := holds a before (some c)
    r.skipsAt holdsHere || r.endsAt holdsHere
      || occursFrom contains holds (some c) (r.read (contains · c) holdsHere true) rest

end Marked

/-- Whether there is a match in a text, given what classes and assertions mean. -/
def Regex.occursByMarks {σ α : Type} (contains : σ → Char → Bool)
    (holds : α → Option Char → Option Char → Bool) (r : Regex σ α) (cs : List Char) : Bool :=
  (Marked.ofRegex r).occursFrom contains holds none cs

end RecordQuery
