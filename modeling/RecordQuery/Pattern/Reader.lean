import RecordQuery.Pattern.Bracket
import RecordQuery.Pattern.Form
import RecordQuery.Text.Digits
import RecordQuery.Unicode.Latest
import Std.Data.TreeSet.Basic

/-!
# Reading patterns

A pattern is alternatives of sequences of signs, each of which may be repeated; parentheses make one
sign of a pattern. Flags can be set for a group or for what remains of one.

Reading gives the form of a pattern, and along with it the height: how many groups, classes,
repetitions, sequences and alternatives are nested in each other. A sequence or a choice of one part
adds nothing to the height of that part.
-/

namespace RecordQuery

namespace Pattern

/-- A part of a pattern. -/
structure Part where
  /-- The form of it. -/
  form : Form
  /-- How deeply its parts are nested. -/
  height : Nat
  /-- Whether it can be repeated, which the setting of flags cannot. -/
  repeatable : Bool := true

namespace Part

/-- The height of parts side by side. -/
def heightOf : List Part → Nat
  | [] => 0
  | [part] => part.height
  | parts => parts.foldl (fun h part ↦ max h part.height) 0 + 1

/-- The sequence of parts, the last of which comes first. -/
def sequence (parts : List Part) : Except PatternFault Part := do
  let height := heightOf parts
  checkHeight height
  .ok { form := .sequence (parts.reverse.map (·.form)), height }

/-- The choice between a sequence of parts and the alternatives before it; of both, the last comes
first. -/
def choice (alternatives parts : List Part) : Except PatternFault Part := do
  let last ← sequence parts
  if alternatives.isEmpty then return last
  let alternatives := last :: alternatives
  let height := heightOf alternatives
  checkHeight height
  .ok { form := .anyOf (alternatives.reverse.map (·.form)), height }

/-- A group, which may remember what it matches. -/
def group (inner : Part) (remembers : Bool) : Except PatternFault Part := do
  let height := inner.height + 1
  checkHeight height
  .ok { form := if remembers then .group inner.form else inner.form, height }

/-- A part repeated. -/
def repeated (inner : Part) (least : Nat) (most : Option Nat) (lazy : Bool) :
    Except PatternFault Part := do
  if !inner.repeatable then .error .nothingToRepeat
  let height := inner.height + 1
  checkHeight height
  .ok { form := inner.form.repeated least most lazy, height }

end Part

/-- What has been settled so far while a pattern is read. -/
structure State where
  /-- The flags in force. -/
  flags : Flags
  /-- The names of groups. -/
  names : Std.TreeSet String := {}

/-! ## Single signs -/

/-- A part that is a single sign. -/
def Primitive.part (flags : Flags) : Primitive → Part
  | .literal c =>
    let s : CharClass := .single c
    let s := if flags.ignoreCase then s.folded flags.unicode else s
    { form := .ofClass flags.unicode s, height := 0 }
  | .cls s => { form := .ofClass flags.unicode s, height := 0 }
  | .assertion a => { form := .assert a, height := 0 }

/-- The characters that a point stands for. -/
def dot (flags : Flags) : CharClass :=
  .compl <|
    if flags.dotMatchesAll then .empty
    else if flags.carriageReturns then .union (.single '\n') (.single '\r')
    else .single '\n'

/-- Reads a sign that is neither a parenthesis, a bracket, a bar nor a repetition. -/
def readSign (flags : Flags) : Reader Part
  | [] => .error .unclosedGroup
  | '\\' :: rest => do
    let (primitive, rest) ← readEscape flags rest
    .ok (primitive.part flags, rest)
  | '.' :: rest =>
    if flags.unicode then .ok ((Primitive.cls (dot flags)).part flags, rest)
    else .error .beyondAscii
  | '^' :: rest =>
    let a := if flags.multiLine then .lineStart flags.carriageReturns else .textStart
    .ok ((Primitive.assertion a).part flags, rest)
  | '$' :: rest =>
    let a := if flags.multiLine then .lineEnd flags.carriageReturns else .textEnd
    .ok ((Primitive.assertion a).part flags, rest)
  | c :: rest => .ok ((Primitive.literal c).part flags, rest)

/-! ## Repetitions -/

/-- Repeats the last part, after the signs that say how often. A question mark asks for few rounds
instead of many. -/
def repeatLast (flags : Flags) (least : Nat) (most : Option Nat) (parts : List Part) :
    Reader (List Part) := fun cs ↦
  match parts with
  | [] => .error .nothingToRepeat
  | part :: parts =>
    match cs with
    | '?' :: rest => do
      let part ← part.repeated least most !flags.swapGreed
      .ok (part :: parts, rest)
    | cs => do
      let part ← part.repeated least most flags.swapGreed
      .ok (part :: parts, cs)

/-- Takes digits at the front, with what may be skipped after each. The fuel bounds their number. -/
def takeDigits (flags : Flags) : Nat → List Char → List Char × List Char
  | fuel + 1, c :: rest =>
    if c.isDigit then
      let (digits, rest) := takeDigits flags fuel (flags.skip rest)
      (c :: digits, rest)
    else ([], c :: rest)
  | _, cs => ([], cs)

/-- Reads a bound, with blanks around it; `none` where there are no digits. The fuel bounds their
number. -/
def readBound (flags : Flags) (fuel : Nat) : Reader (Option Nat) := fun cs ↦
  let (digits, rest) := takeDigits flags fuel (cs.dropWhile Property.isBlank)
  let rest := flags.skip (rest.dropWhile Property.isBlank)
  if digits.isEmpty then .ok (none, rest)
  else if Digits.value digits < Nat.pow 2 32 then .ok (some (Digits.value digits), rest)
  else .error .badCount

/-- Reads the bounds of a repetition after its opening brace. The fuel bounds the number of
digits. -/
def readBounds (flags : Flags) (fuel : Nat) : Reader (Nat × Option Nat) := fun cs ↦ do
  let (least?, rest) ← readBound flags fuel (flags.skip cs)
  let some least := least? | .error .badCount
  match rest with
  | '}' :: rest => .ok ((least, some least), flags.skip rest)
  | ',' :: rest =>
    match flags.skip rest with
    | '}' :: rest => .ok ((least, none), flags.skip rest)
    | rest => do
      let (most?, rest) ← readBound flags fuel rest
      match most?, rest with
      | some most, '}' :: rest =>
        if least ≤ most then .ok ((least, some most), flags.skip rest) else .error .badCount
      | _, _ => .error .badCount
  | _ => .error .badCount

/-! ## Groups -/

/-- Whether a character can stand in the name of a group, at its front or elsewhere. -/
def isNameChar (front : Bool) (c : Char) : Bool :=
  c = '_' || Latest.alphabetic.contains c
    || (!front && (['.', '[', ']'].contains c || Latest.numeric.contains c))

/-- Reads the name of a group up to its angle bracket. -/
def readName (state : State) : Reader State := fun cs ↦
  let name := cs.takeWhile (· != '>')
  match cs.dropWhile (· != '>') with
  | [] => .error .badGroupName
  | _ :: rest =>
    match name with
    | [] => .error .badGroupName
    | c :: others =>
      if !isNameChar true c ∨ !others.all (isNameChar false) then .error .badGroupName
      else if state.names.contains (.ofList name) then .error .repeatedGroupName
      else .ok ({ state with names := state.names.insert (.ofList name) }, rest)

/-- Reads flags up to a colon or a closing parenthesis, which stays in the rest. `seen` are the
flags so far, `on` tells whether flags are being set or cleared, and `dangling` whether a hyphen was
last. -/
def readFlags (seen : List Flag) (on dangling : Bool) (flags : Flags) : Reader Flags
  | [] => .error .unclosedGroup
  | c :: rest =>
    if c = ':' ∨ c = ')' then
      if dangling then .error .badFlags
      else if c = ')' ∧ seen.isEmpty then .error .nothingToRepeat
      else .ok (flags, c :: rest)
    else if c = '-' then
      if on then readFlags seen false true flags rest else .error .badFlags
    else
      match Flag.lettered? c with
      | none => .error .badFlags
      | some flag =>
        if seen.contains flag then .error .badFlags
        else readFlags (flag :: seen) on false (flags.set on flag) rest

/-- What a parenthesis begins. -/
inductive Opening where
  /-- A group, which may remember what it matches. -/
  | group (remembers : Bool)
  /-- The setting of flags for what remains of the present group. -/
  | flags

/-- Reads the front of a group after its parenthesis. -/
def readOpening (state : State) : Reader (Opening × State) := fun cs ↦
  match state.flags.skip cs with
  | '?' :: '=' :: _ | '?' :: '!' :: _ | '?' :: '<' :: '=' :: _ | '?' :: '<' :: '!' :: _ =>
    .error .lookAround
  | '?' :: 'P' :: '<' :: rest | '?' :: '<' :: rest => do
    let (state, rest) ← readName state rest
    .ok ((.group true, state), rest)
  | '?' :: rest => do
    let (flags, rest) ← readFlags [] true false state.flags rest
    match rest with
    | ':' :: rest => .ok ((.group false, { state with flags }), rest)
    | rest => .ok ((.flags, { state with flags }), rest.drop 1)
  | rest => .ok ((.group true, state), rest)

/-! ## Patterns -/

/-- Reads a pattern up to the end of the text or to a closing parenthesis, which stays in the rest.
`alternatives` and `parts` hold what has been read, the last first, and `room` is how many groups
may yet be opened in each other. The fuel bounds the number of signs, and the length of the text
suffices. -/
def readBody : (fuel room : Nat) → List Part → List Part → State → Reader (Part × State)
  | 0, _, _, _, _, _ => .error .unclosedGroup
  | fuel + 1, room, alternatives, parts, state, cs =>
    match state.flags.skip cs with
    | [] => do
      let part ← Part.choice alternatives parts
      .ok ((part, state), [])
    | ')' :: rest => do
      let part ← Part.choice alternatives parts
      .ok ((part, state), ')' :: rest)
    | '|' :: rest => do
      let alternative ← Part.sequence parts
      readBody fuel room (alternative :: alternatives) [] state rest
    | '(' :: rest => do
      let ((opening, inner), rest) ← readOpening state rest
      match opening, room with
      | .group _, 0 => .error .tooDeep
      | .group remembers, room + 1 =>
        let ((body, after), rest) ← readBody fuel room [] [] inner rest
        match rest with
        | ')' :: rest =>
          let group ← body.group remembers
          readBody fuel (room + 1) alternatives (group :: parts)
            { after with flags := state.flags } rest
        | _ => .error .unclosedGroup
      | .flags, room =>
        let setting : Part := { form := .empty, height := 0, repeatable := false }
        readBody fuel room alternatives (setting :: parts) inner rest
    | '[' :: rest => do
      let (cls, rest) ← readClass state.flags fuel room rest
      checkHeight cls.height
      let part : Part := { form := .ofClass state.flags.unicode cls.set, height := cls.height }
      readBody fuel room alternatives (part :: parts) state rest
    | '?' :: rest => do
      let (parts, rest) ← repeatLast state.flags 0 (some 1) parts rest
      readBody fuel room alternatives parts state rest
    | '*' :: rest => do
      let (parts, rest) ← repeatLast state.flags 0 none parts rest
      readBody fuel room alternatives parts state rest
    | '+' :: rest => do
      let (parts, rest) ← repeatLast state.flags 1 none parts rest
      readBody fuel room alternatives parts state rest
    | '{' :: rest => do
      let ((least, most), rest) ← readBounds state.flags fuel rest
      let (parts, rest) ← repeatLast state.flags least most parts rest
      readBody fuel room alternatives parts state rest
    | rest => do
      let (part, rest) ← readSign state.flags rest
      readBody fuel room alternatives (part :: parts) state rest

/-- The form of the pattern that a text is, under the flags it starts with. -/
def read (flags : Flags) (cs : List Char) : Except PatternFault Form := do
  let ((part, _), rest) ← readBody (cs.length + 1) heightLimit [] [] { flags } cs
  if rest.isEmpty then .ok part.form else .error .unopenedGroup

end Pattern

end RecordQuery
