import RecordQuery.Pattern.Beginnings
import RecordQuery.Pattern.Machine.Sharing
import RecordQuery.Pattern.Machine.Words

/-!
# Machines of patterns

To look for a pattern two machines are built, which read a text byte by byte with every repetition
written out: one forwards, which also remembers what groups match, and one backwards. A pattern is
too large if either of them is.

A pattern that comes to a choice between a few texts, or is nothing but a choice between very many,
is looked for in another way and needs no machine.
-/

namespace RecordQuery

namespace Form

/-! ## Texts -/

/-- The bytes of a text, in the order in which they are read. -/
def bytesOf (backwards : Bool) (cs : List Char) : List UInt8 :=
  let bytes := cs.flatMap String.utf8EncodeChar
  if backwards then bytes.reverse else bytes

/-- The texts that forms are, if all of them are texts. -/
def texts? (forms : List Form) : Option (List (List Char)) :=
  forms.mapM fun
    | .text cs => some cs
    | _ => none

/-! ## Growth -/

/-- The choice between parts, which has a fork to them and a state in which they meet. -/
def choiceGrowth : List Growth → Growth
  | first :: second :: others =>
    let fork := Growth.states 2 (Machine.waySize * (others.length + 2))
    .all (first :: second :: fork :: others)
  | parts => .all parts

/-- A part repeated; `consumes` tells whether all its matches have a character. -/
def iterateGrowth (consumes : Bool) (least : Nat) (most : Option Nat) (part : Growth) : Growth :=
  match least, most with
  | 0, none =>
    if consumes then .all [.fork 2, part] else .all [part, .fork 2, .fork 2, .state]
  | least, none => .all [.copies least part, .fork 2]
  | 0, some 1 => .all [.fork 2, part, .state]
  | least, some most =>
    if least = most then .copies least part
    else
      let front := if least = 0 then .state else .copies least part
      .all [front, .state, .copies (most - least) (.all [.fork 2, part])]

mutual

/-- How a form makes a machine grow that reads forwards or backwards. -/
def growth (backwards : Bool) : Form → Growth
  | .empty => .state
  | .text cs => .states (cs.foldl (fun n c ↦ n + c.utf8Size) 0) 0
  | .one _ s => Machine.ofClass backwards s
  | .assert _ => .state
  | .iterate least most _ body =>
    iterateGrowth body.consumes least most (body.growth backwards)
  | .group body =>
    if backwards then body.growth backwards
    else .all [.state, body.growth backwards, .state]
  | .concat parts =>
    let parts := growths backwards parts
    .all (if backwards then parts.reverse else parts)
  | .choice alternatives =>
    match texts? alternatives with
    | some texts => .words (texts.map (bytesOf backwards))
    | none => choiceGrowth (growths backwards alternatives)

/-- How forms make a machine grow. -/
def growths (backwards : Bool) : List Form → List Growth
  | [] => []
  | form :: rest => form.growth backwards :: growths backwards rest

end

/-! ## Whole patterns -/

/-- What passes over the bytes before a match: a fork and a state for any byte, unless a match can
only be where the text starts or, backwards, ends. -/
def frontGrowth (backwards : Bool) (form : Form) : Growth :=
  if form.demands (if backwards then .textEnd else .textStart) backwards then .state
  else .all [.fork 2, .choice 1]

/-- The machine for a pattern, with the state for a match. The whole of a match is remembered as
that of a group is. -/
def machine? (backwards : Bool) (form : Form) : Option Machine :=
  (Growth.all [form.frontGrowth backwards, (Form.group form).growth backwards, .state]).run ⟨0, 0⟩

/-- The number of texts from which on a choice between them needs no machine. -/
def manyTexts : Nat := 3000

/-- Whether a pattern is nothing but a choice between very many texts. -/
def isManyTexts : Form → Bool
  | .choice alternatives => manyTexts ≤ alternatives.length && (texts? alternatives).isSome
  | _ => false

/-- Whether a pattern needs no machines, or machines for it are small enough. -/
def fits (form : Form) : Bool :=
  form.isManyTexts || ((form.machine? false).isSome && (form.machine? true).isSome)
    || form.isFewTexts

end Form

end RecordQuery
