import RecordQuery.Pattern.Assertion

/-!
# Forms of patterns

A pattern that has been read is kept in a form in which patterns that say the same in simple ways
look the same. Sequences and choices are not nested in their like, neighbouring characters of a
sequence are one text, a choice between characters is a class, and what all alternatives of a choice
start with stands in front of it. The functions that build forms see to this, and only they are used
to build them.

The form of a pattern settles what it matches and how large it is. For the size it matters whether
two parts are written alike, down to whether a repetition prefers few rounds.
-/

namespace RecordQuery

/-- The form of a pattern. -/
inductive Form where
  /-- Matches the empty text. -/
  | empty
  /-- Matches a text that is not empty. -/
  | text (cs : List Char)
  /-- Matches one character of a class of one of the two alphabets, which has no members or more
  than one. -/
  | one (unicode : Bool) (cls : CharClass)
  /-- Matches the empty text at places where an assertion holds. -/
  | assert (a : Assertion)
  /-- Matches so many matches of the body, one after the other; without a bound, any number from
  the least on. Whether few rounds are preferred changes no search. -/
  | iterate (least : Nat) (most : Option Nat) (lazy : Bool) (body : Form)
  /-- Remembers what the body matches. -/
  | group (body : Form)
  /-- Matches what two or more parts match, one after the other. -/
  | concat (parts : List Form)
  /-- Matches what one of two or more alternatives matches. -/
  | choice (alternatives : List Form)

namespace Form

/-! ## Properties -/

mutual

/-- Whether only the empty text can be matched. -/
def isOnlyEmpty : Form → Bool
  | .empty => true
  | .text _ => false
  | .one _ _ => false
  | .assert _ => true
  | .iterate _ _ _ body => body.isOnlyEmpty
  | .group body => body.isOnlyEmpty
  | .concat parts => areOnlyEmpty parts
  | .choice alternatives => areOnlyEmpty alternatives

/-- Whether all of several forms match the empty text only. -/
def areOnlyEmpty : List Form → Bool
  | [] => true
  | part :: rest => part.isOnlyEmpty && areOnlyEmpty rest

end

mutual

/-- The least number of characters of a match. There is none if a class without members is part of
the form, even where there are alternatives to it. -/
def leastLength? : Form → Option Nat
  | .empty => some 0
  | .text cs => some cs.length
  | .one _ cls => if cls.ranges.isEmpty then none else some 1
  | .assert _ => some 0
  | .iterate least _ _ body => body.leastLength?.map (least * ·)
  | .group body => body.leastLength?
  | .concat parts => (leastLengths? parts).map (List.foldl (· + ·) 0)
  | .choice alternatives => (leastLengths? alternatives).bind List.min?

/-- The least numbers of characters of matches of several forms, if there are such numbers. -/
def leastLengths? : List Form → Option (List Nat)
  | [] => some []
  | part :: rest =>
    match part.leastLength?, leastLengths? rest with
    | some n, some ns => some (n :: ns)
    | _, _ => none

end

/-- Whether every match is known to have a character. -/
def consumes (form : Form) : Bool := form.leastLength?.any (0 < ·)

mutual

/-- Whether every match is bound by an assertion at its start or, if `backwards`, at its end. -/
def demands (a : Assertion) (backwards : Bool) : Form → Bool
  | .empty => false
  | .text _ => false
  | .one _ _ => false
  | .assert b => a == b
  | .iterate least _ _ body => 0 < least && body.demands a backwards
  | .group body => body.demands a backwards
  | .concat parts => (partsDemand a backwards parts).1
  | .choice alternatives => allDemand a backwards alternatives

/-- Whether a sequence is bound by an assertion at its start or end, and whether it can match the
empty text only. -/
def partsDemand (a : Assertion) (backwards : Bool) : List Form → Bool × Bool
  | [] => (false, true)
  | part :: rest =>
    let (bound, onlyEmpty) := partsDemand a backwards rest
    let boundHere := part.demands a backwards
    let onlyEmptyHere := part.isOnlyEmpty
    (if backwards then bound || (onlyEmpty && boundHere) else boundHere || (onlyEmptyHere && bound),
      onlyEmptyHere && onlyEmpty)

/-- Whether each of several forms is bound by an assertion at its start or end. -/
def allDemand (a : Assertion) (backwards : Bool) : List Form → Bool
  | [] => true
  | part :: rest => part.demands a backwards && allDemand a backwards rest

end

mutual

/-- Whether two forms are the same. A group is the same as no other, since each remembers a match of
its own. -/
def same : Form → Form → Bool
  | .empty, .empty => true
  | .text cs, .text ds => cs == ds
  | .one u s, .one v t => u == v && s == t
  | .assert a, .assert b => a == b
  | .iterate least most lazy body, .iterate least' most' lazy' body' =>
    least == least' && most == most' && lazy == lazy' && body.same body'
  | .concat parts, .concat parts' => sameAll parts parts'
  | .choice alternatives, .choice alternatives' => sameAll alternatives alternatives'
  | _, _ => false

/-- Whether the forms of two lists are the same, one by one. -/
def sameAll : List Form → List Form → Bool
  | [], [] => true
  | part :: rest, part' :: rest' => part.same part' && sameAll rest rest'
  | _, _ => false

end

/-! ## Building -/

/-- A character of a class, which is a certain one if the class has a single member. -/
def ofClass (unicode : Bool) (s : CharClass) : Form :=
  let s := if s.containsCode 0xD800 then s.diff .surrogates else s
  match s.ranges[0]?, s.ranges.size with
  | none, _ => .one false .empty
  | some r, 1 => if r.first = r.last then .text [Char.ofNat r.first] else .one unicode s
  | some _, _ => .one unicode s

/-- The parts of a form as a sequence. -/
def parts : Form → List Form
  | .empty => []
  | .concat parts => parts
  | form => [form]

/-- Puts a text, given backwards, in front of parts unless it is empty. -/
def pushText (run : List Char) (done : List Form) : List Form :=
  if run.isEmpty then done else .text run.reverse :: done

/-- Joins neighbouring texts. `done` are the parts before, the last of them first, and `run` is the
text before, backwards. -/
def joinTexts (done : List Form) (run : List Char) : List Form → List Form
  | [] => (pushText run done).reverse
  | .text cs :: rest => joinTexts done (cs.reverse ++ run) rest
  | part :: rest => joinTexts (part :: pushText run done) [] rest

/-- The sequence of forms. -/
def sequence (forms : List Form) : Form :=
  match joinTexts [] [] (forms.flatMap parts) with
  | [] => .empty
  | [part] => part
  | parts => .concat parts

/-- The alternatives of a form as a choice. -/
def alternatives : Form → List Form
  | .choice alternatives => alternatives
  | form => [form]

/-- The class of a form that is one certain character. -/
def character? : Form → Option CharClass
  | .text [c] => some (.single c)
  | _ => none

/-- The class of a form that is one character out of several. -/
def class? : Form → Option CharClass
  | .one _ s => some s
  | _ => none

/-- A choice of characters or of classes as one class. -/
def mergedClass? (forms : List Form) : Option Form :=
  (forms.mapM character? <|> forms.mapM class?).map fun sets ↦ ofClass true (.unionOf sets)

/-- How many parts at the front of two lists are the same. -/
def sharedLength : List Form → List Form → Nat
  | part :: rest, part' :: rest' => if part.same part' then sharedLength rest rest' + 1 else 0
  | _, _ => 0

/-- The parts of a sequence. -/
def sequenceParts? : Form → Option (List Form)
  | .concat parts => some parts
  | _ => none

/-- What all of two or more sequences start with, and what remains of each. -/
def sharedFront? (forms : List Form) : Option (List Form × List (List Form)) :=
  match forms.mapM sequenceParts? with
  | some (first :: second :: others) =>
    let others := second :: others
    let shared := others.foldl (fun n parts ↦ min n (sharedLength first parts)) first.length
    if shared = 0 then none
    else some (first.take shared, (first :: others).map (·.drop shared))
  | _ => none

/-- The choice between forms which do not all start alike. -/
def choiceApart (forms : List Form) : Form :=
  match forms.flatMap alternatives with
  | [] => .one false .empty
  | [form] => form
  | forms => (mergedClass? forms).getD (.choice forms)

/-- The choice between forms. What all of them start with is put in front; the rests of two of them
then start differently, so that there is nothing more to put in front. -/
def anyOf (forms : List Form) : Form :=
  let forms := forms.flatMap alternatives
  match mergedClass? forms, sharedFront? forms with
  | none, some (front, rests) => sequence (front ++ [choiceApart (rests.map sequence)])
  | _, _ => choiceApart forms

/-- A form repeated. Where only the empty text can be matched, more than one round changes
nothing. -/
def repeated (least : Nat) (most : Option Nat) (lazy : Bool) (body : Form) : Form :=
  let (least, most) :=
    if body.isOnlyEmpty then (min least 1, some (min (most.getD 1) 1)) else (least, most)
  if least = 0 ∧ most = some 0 then .empty
  else if least = 1 ∧ most = some 1 then body
  else .iterate least most lazy body

end Form

end RecordQuery
