import RecordQuery.Json.Numeral
import RecordQuery.Text.Hexadecimal

/-!
# Reading JSON

The reader turns a text into the document it denotes, or says whether the text ended too early or
went wrong. It accepts the standard grammar and nothing more, grants 127 levels of arrays and
objects, and refuses half a surrogate pair.

## Recursion

The levels granted are the recursion argument of `readValue`: an array or an object hands the reader
for one level less to the loop over its items. The loops themselves run as long as there is text,
and their fuel is the length of it, which every round shortens.

## Passing over

`passValue` checks that a value is well formed without reading it. Nobody sees such a value, so it
may be nested to any depth, and neither the size of its numbers nor the pairing of its surrogates is
looked at.
-/

namespace RecordQuery

namespace Json

/-- The levels of arrays and objects that a text may have. -/
def levelsGranted : Nat := 127

/-- Blanks between the parts of a document. -/
def isBlank (c : Char) : Bool := c = ' ' || c = '\n' || c = '\t' || c = '\r'

/-- Drops blanks at the front. -/
def skipBlanks (cs : List Char) : List Char := cs.dropWhile isBlank

/-- Reads the rest of a fixed word. -/
def readWord {α : Type} (word : List Char) (value : α) : Reader α := fun cs ↦
  match word, cs with
  | [], rest => .ok (value, rest)
  | _ :: _, [] => .error .truncated
  | w :: word, c :: rest => if w = c then readWord word value rest else .error .malformed

/-! ## Texts -/

/-- The four hexadecimal digits of an escape. A rest too short for four bytes ends too early,
whatever it holds. -/
def readUnit : Reader Nat
  | a :: b :: c :: d :: rest =>
    match Hexadecimal.value? [a, b, c, d] with
    | some n => .ok (n, rest)
    | none => .error .malformed
  | cs => .error (if (String.ofList cs).utf8ByteSize < 4 then .truncated else .malformed)

/-- The second half of a surrogate pair, after a first half with the given unit. -/
def readSecondHalf (first : Nat) : Reader Char
  | [] => .error .truncated
  | '\\' :: [] => .error .truncated
  | '\\' :: 'u' :: rest => do
    let (second, rest) ← readUnit rest
    if 0xDC00 ≤ second ∧ second ≤ 0xDFFF then
      .ok (.ofNat (0x10000 + (first - 0xD800) * 0x400 + (second - 0xDC00)), rest)
    else .error .malformed
  | _ => .error .malformed

/-- The characters that an escape of one letter stands for. -/
def letterEscape? : Char → Option Char
  | '"' => some '"'
  | '\\' => some '\\'
  | '/' => some '/'
  | 'b' => some '\x08'
  | 'f' => some '\x0c'
  | 'n' => some '\n'
  | 'r' => some '\r'
  | 't' => some '\t'
  | _ => none

/-- Reads an escape after its backslash. -/
def readEscape : Reader Char
  | [] => .error .truncated
  | 'u' :: rest => do
    let (unit, rest) ← readUnit rest
    if unit < 0xD800 ∨ 0xDFFF < unit then .ok (.ofNat unit, rest)
    else if unit ≤ 0xDBFF then readSecondHalf unit rest
    else .error .malformed
  | c :: rest =>
    match letterEscape? c with
    | some escaped => .ok (escaped, rest)
    | none => .error .malformed

/-- Reads a text up to its closing quote. -/
def readChars : Nat → Reader (List Char)
  | _, [] => .error .truncated
  | 0, _ => .error .truncated
  | fuel + 1, c :: rest =>
    if c = '"' then .ok ([], rest)
    else if c = '\\' then do
      let (first, rest) ← readEscape rest
      let (others, rest) ← readChars fuel rest
      .ok (first :: others, rest)
    else if c.toNat < 0x20 then .error .malformed
    else do
      let (others, rest) ← readChars fuel rest
      .ok (c :: others, rest)

/-- Reads a text after its opening quote. -/
def readText : Reader String := fun cs ↦ do
  let (chars, rest) ← readChars cs.length cs
  .ok (String.ofList chars, rest)

/-! ## Arrays and objects -/

/-- Reads items up to the closing bracket; there is at least one. -/
def readItemsFrom {α : Type} (item : Reader α) : Nat → Reader (List α)
  | 0, _ => .error .truncated
  | fuel + 1, cs => do
    let (first, rest) ← item cs
    match skipBlanks rest with
    | [] => .error .truncated
    | ']' :: rest => .ok ([first], rest)
    | ',' :: rest => do
      let (others, rest) ← readItemsFrom item fuel rest
      .ok (first :: others, rest)
    | _ => .error .malformed

/-- Reads the items of an array after its opening bracket. -/
def readItems {α : Type} (item : Reader α) : Reader (List α) := fun cs ↦
  match skipBlanks cs with
  | ']' :: rest => .ok ([], rest)
  | rest => readItemsFrom item (rest.length + 1) rest

/-- Reads one member: a name, a colon, and a value that may be read in a way that depends on the
name. -/
def readMember {ν α : Type} (name : Reader ν) (value : ν → Reader α) : Reader (ν × α) := fun cs ↦
  match skipBlanks cs with
  | '"' :: rest => do
    let (n, rest) ← name rest
    match skipBlanks rest with
    | ':' :: rest => do
      let (v, rest) ← value n rest
      .ok ((n, v), rest)
    | rest => .error (missing rest)
  | rest => .error (missing rest)

/-- Reads members up to the closing brace; there is at least one. -/
def readMembersFrom {ν α : Type} (name : Reader ν) (value : ν → Reader α) :
    Nat → Reader (List (ν × α))
  | 0, _ => .error .truncated
  | fuel + 1, cs => do
    let (first, rest) ← readMember name value cs
    match skipBlanks rest with
    | [] => .error .truncated
    | '}' :: rest => .ok ([first], rest)
    | ',' :: rest => do
      let (others, rest) ← readMembersFrom name value fuel rest
      .ok (first :: others, rest)
    | _ => .error .malformed

/-- Reads the members of an object after its opening brace. -/
def readMembers {ν α : Type} (name : Reader ν) (value : ν → Reader α) :
    Reader (List (ν × α)) := fun cs ↦
  match skipBlanks cs with
  | '}' :: rest => .ok ([], rest)
  | rest => readMembersFrom name value (rest.length + 1) rest

/-! ## Values -/

/-- Reads a value whose parts are read by `inner?`; without it no array or object is granted. -/
def readOneOf (inner? : Option (Reader Json)) : Reader Json := fun cs ↦
  match skipBlanks cs with
  | [] => .error .truncated
  | 'n' :: rest => readWord "ull".toList .null rest
  | 't' :: rest => readWord "rue".toList (.bool true) rest
  | 'f' :: rest => readWord "alse".toList (.bool false) rest
  | '"' :: rest => do
    let (s, rest) ← readText rest
    .ok (.text s, rest)
  | '[' :: rest =>
    match inner? with
    | none => .error .malformed
    | some inner => do
      let (items, rest) ← readItems inner rest
      .ok (.array items, rest)
  | '{' :: rest =>
    match inner? with
    | none => .error .malformed
    | some inner => do
      let (members, rest) ← readMembers readText (fun _ ↦ inner) rest
      .ok (.object members, rest)
  | c :: rest =>
    if c = '-' ∨ c.isDigit then do
      let (n, rest) ← readNumeral (c :: rest)
      .ok (.number n, rest)
    else .error .malformed

/-- Reads a value with so many levels of arrays and objects. -/
def readValue : Nat → Reader Json
  | 0 => readOneOf none
  | levels + 1 => readOneOf (some (readValue levels))

/-- Runs a reader on a whole text. -/
def readAll {α : Type} (reader : Reader α) (s : String) : Except ReadFault α := do
  let (value, rest) ← reader s.toList
  if (skipBlanks rest).isEmpty then .ok value else .error .malformed

/-- The document of a text, its members as they are written. -/
def read (s : String) : Except ReadFault Json := readAll (readValue levelsGranted) s

/-- The document of a text, repeated names merged. -/
def parse (s : String) : Except ReadFault Json := merged <$> read s

/-! ## Passing over -/

/-- Passes over a text up to its closing quote. -/
def passChars : Nat → Reader Unit
  | _, [] => .error .truncated
  | 0, _ => .error .truncated
  | fuel + 1, c :: rest =>
    if c = '"' then .ok ((), rest)
    else if c = '\\' then
      match rest with
      | [] => .error .truncated
      | 'u' :: rest => do
        let (_, rest) ← readUnit rest
        passChars fuel rest
      | e :: rest => if (letterEscape? e).isSome then passChars fuel rest else .error .malformed
    else if c.toNat < 0x20 then .error .malformed
    else passChars fuel rest

/-- Passes over a text after its opening quote. -/
def passText : Reader Unit := fun cs ↦ passChars cs.length cs

/-- Passes over a number. -/
def passNumeral : Reader Unit := fun cs ↦ do
  let (_, rest) ← unsignedLiteral (if cs.head? = some '-' then cs.tail else cs)
  .ok ((), rest)

/-- Passes over a value. The fuel bounds the depth of nesting, and the length of the text
suffices. -/
def passNested : Nat → Reader Unit
  | 0, _ => .error .truncated
  | fuel + 1, cs =>
    match skipBlanks cs with
    | [] => .error .truncated
    | 'n' :: rest => readWord "ull".toList () rest
    | 't' :: rest => readWord "rue".toList () rest
    | 'f' :: rest => readWord "alse".toList () rest
    | '"' :: rest => passText rest
    | '[' :: rest => do
      let (_, rest) ← readItems (passNested fuel) rest
      .ok ((), rest)
    | '{' :: rest => do
      let (_, rest) ← readMembers passText (fun _ ↦ passNested fuel) rest
      .ok ((), rest)
    | c :: rest => if c = '-' ∨ c.isDigit then passNumeral (c :: rest) else .error .malformed

/-- Passes over a value. -/
def passValue : Reader Unit := fun cs ↦ passNested (cs.length + 1) cs

end Json

end RecordQuery
