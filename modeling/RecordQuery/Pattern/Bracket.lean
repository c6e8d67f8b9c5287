import RecordQuery.Pattern.Escape

/-!
# Classes in brackets

Brackets hold characters, ranges, named classes and further brackets, whose union they are. Unions
can be combined by intersection, difference and symmetric difference, all of the same strength and
taken from the left. A caret at the front makes the complement, after folding.

Along with its set every part carries its height, the number of brackets and combinations nested in
it, because patterns may not be nested too deeply.
-/

namespace RecordQuery

namespace Pattern

/-- A part of a class with its height. -/
structure ClassPart where
  /-- The set. -/
  set : CharClass
  /-- How deeply brackets and combinations are nested. -/
  height : Nat

namespace ClassPart

/-- The union of parts, the last of which comes first. -/
def union (parts : List ClassPart) : ClassPart :=
  match parts with
  | [] => ⟨.empty, 0⟩
  | [part] => part
  | parts =>
    { set := .unionOf (parts.map (·.set))
      height := parts.foldl (fun h part ↦ max h part.height) 0 + 1 }

end ClassPart

/-- The ways to combine two classes. -/
inductive ClassOp where
  /-- Members of both. -/
  | inter
  /-- Members of the first alone. -/
  | diff
  /-- Members of exactly one. -/
  | symmDiff

/-- Combines two sets. -/
def ClassOp.apply : ClassOp → CharClass → CharClass → CharClass
  | .inter, s, t => s.inter t
  | .diff, s, t => s.diff t
  | .symmDiff, s, t => s.symmDiff t

/-- A left operand that waits for its right one. -/
abbrev Pending := Option (ClassPart × ClassOp)

/-- Combines the union of parts with the operand that waits for it. -/
def Pending.combine (flags : Flags) (pending : Pending) (parts : List ClassPart) :
    Except PatternFault ClassPart := do
  let right := ClassPart.union parts
  let some (left, op) := pending | .ok right
  let height := max left.height right.height + 1
  checkHeight height
  let operand (part : ClassPart) : CharClass :=
    if flags.ignoreCase then part.set.folded flags.unicode else part.set
  .ok ⟨op.apply (operand left) (operand right), height⟩

/-! ## Opening -/

/-- Takes hyphens at the front, which stand for themselves. The result is their number and the rest.
The fuel bounds their number. -/
def takeHyphens (flags : Flags) : Nat → List Char → Nat × List Char
  | fuel + 1, '-' :: rest =>
    let (count, rest) := takeHyphens flags fuel (flags.skip rest)
    (count + 1, rest)
  | _, cs => (0, cs)

/-- Reads the front of a class after its bracket: whether it is negated, and the hyphens or the
closing bracket that stand for themselves there. The fuel bounds the number of hyphens. -/
def openClass (flags : Flags) (fuel : Nat) (cs : List Char) :
    Bool × List ClassPart × List Char :=
  let cs := flags.skip cs
  let (negated, cs) := match cs with
    | '^' :: rest => (true, flags.skip rest)
    | cs => (false, cs)
  match takeHyphens flags fuel cs with
  | (0, ']' :: rest) => (negated, [⟨.single ']', 0⟩], flags.skip rest)
  | (count, rest) => (negated, List.replicate count ⟨.single '-', 0⟩, rest)

/-- A named class of ASCII characters between colons, after the bracket. -/
def asciiClass? (cs : List Char) : Option (Bool × CharClass × List Char) :=
  match cs with
  | ':' :: rest =>
    let (negated, rest) := match rest with
      | '^' :: rest => (true, rest)
      | rest => (false, rest)
    match rest.dropWhile (· != ':') with
    | ':' :: ']' :: after =>
      (CharClass.asciiNamed? (.ofList (rest.takeWhile (· != ':')))).map fun s ↦ (negated, s, after)
    | _ => none
  | _ => none

/-! ## Ranges -/

/-- The first character that is not skipped, as seen from a hyphen. A comment is not passed over
here: its first sign counts. -/
def peek (flags : Flags) (cs : List Char) : Option Char :=
  if flags.verbose then
    match cs.dropWhile Property.isBlank with
    | '#' :: rest => (rest.dropWhile Property.isBlank).head?
    | rest => rest.head?
  else cs.head?

/-- Reads one member of a class. -/
def readMember (flags : Flags) : Reader Primitive
  | [] => .error .unclosedClass
  | '\\' :: rest => readEscape flags rest
  | c :: rest => .ok (.literal c, rest)

/-- The set that a primitive stands for in a class. -/
def Primitive.inClass (flags : Flags) : Primitive → Except PatternFault CharClass
  | .literal c => if !flags.unicode ∧ 0x80 ≤ c.toNat then .error .beyondAscii else .ok (.single c)
  | .cls s => .ok s
  | .assertion _ => .error .badEscape

/-- The set from one primitive to another. -/
def rangeOf (flags : Flags) : Primitive → Primitive → Except PatternFault CharClass
  | .literal first, .literal last =>
    if last < first then .error .badRange
    else if !flags.unicode ∧ 0x80 ≤ last.toNat then .error .beyondAscii
    else .ok (.range first last)
  | _, _ => .error .badRange

/-- Reads a member of a class, or a range. -/
def readRange (flags : Flags) : Reader ClassPart := fun cs ↦ do
  let (first, rest) ← readMember flags cs
  match flags.skip rest with
  | [] => .error .unclosedClass
  | '-' :: after =>
    if peek flags after = some ']' ∨ peek flags after = some '-' then do
      let s ← first.inClass flags
      .ok (⟨s, 0⟩, '-' :: after)
    else do
      let (last, rest) ← readMember flags (flags.skip after)
      let s ← rangeOf flags first last
      .ok (⟨s, 0⟩, rest)
  | rest => do
    let s ← first.inClass flags
    .ok (⟨s, 0⟩, rest)

/-! ## Classes -/

/-- Reads a class up to its closing bracket. `parts` are the members since the last combination, the
last of them first, and `room` is how many brackets may yet be opened in each other. The fuel bounds
the number of members, and the length of the text suffices. -/
def readClassBody (flags : Flags) :
    (fuel room : Nat) → Pending → List ClassPart → Reader ClassPart
  | 0, _, _, _, _ => .error .unclosedClass
  | fuel + 1, room, pending, parts, cs =>
    match flags.skip cs with
    | [] => .error .unclosedClass
    | ']' :: rest => do
      let combined ← pending.combine flags parts
      .ok (combined, rest)
    | '&' :: '&' :: rest => do
      let combined ← pending.combine flags parts
      readClassBody flags fuel room (some (combined, .inter)) [] rest
    | '-' :: '-' :: rest => do
      let combined ← pending.combine flags parts
      readClassBody flags fuel room (some (combined, .diff)) [] rest
    | '~' :: '~' :: rest => do
      let combined ← pending.combine flags parts
      readClassBody flags fuel room (some (combined, .symmDiff)) [] rest
    | '[' :: rest =>
      match asciiClass? rest, room with
      | some (negated, s, rest), _ => do
        let s ← finishClass flags negated s
        readClassBody flags fuel room pending (⟨s, 0⟩ :: parts) rest
      | none, 0 => .error .tooDeep
      | none, room + 1 => do
        let (negated, opening, rest) := openClass flags fuel rest
        let (inner, rest) ← readClassBody flags fuel room none opening rest
        let s ← finishClass flags negated inner.set
        readClassBody flags fuel (room + 1) pending (⟨s, inner.height + 1⟩ :: parts) rest
    | cs => do
      let (part, rest) ← readRange flags cs
      readClassBody flags fuel room pending (part :: parts) rest

/-- Reads a class after its opening bracket. -/
def readClass (flags : Flags) (fuel room : Nat) : Reader ClassPart := fun cs ↦ do
  let (negated, opening, rest) := openClass flags fuel cs
  let (inner, rest) ← readClassBody flags fuel room none opening rest
  let s ← finishClass flags negated inner.set
  .ok (⟨s, inner.height + 1⟩, rest)

end Pattern

end RecordQuery
