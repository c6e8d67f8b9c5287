import RecordQuery.Pattern.Assertion
import RecordQuery.Pattern.Basic
import RecordQuery.Text.Hexadecimal

/-!
# Escapes of patterns

What a backslash and the signs after it stand for: a character by its number or its letter, a named
class, an assertion, or a sign of punctuation taken as itself. Whatever is none of these is refused.
-/

namespace RecordQuery

namespace Pattern

/-- What a single sign of a pattern stands for. -/
inductive Primitive where
  /-- A character. -/
  | literal (c : Char)
  /-- A character of a class. -/
  | cls (s : CharClass)
  /-- An assertion. -/
  | assertion (a : Assertion)

/-! ## Characters by number -/

/-- The character with a number. -/
def character? (n : Nat) : Option Char := if n.isValidChar then some (.ofNat n) else none

/-- Reads so many hexadecimal digits. -/
def readHexDigits (flags : Flags) (value : Nat) : Nat → Reader Nat
  | 0, cs => .ok (value, cs)
  | _ + 1, [] => .error .badEscape
  | count + 1, c :: rest =>
    match Hexadecimal.digit? c with
    | some d => readHexDigits flags (16 * value + d) count (flags.skip rest)
    | none => .error .badEscape

/-- Reads the number of a character, after the letter that announces so many digits. Braces hold any
number of digits. -/
def readNumbered (flags : Flags) (digits : Nat) : Reader Char := fun cs ↦
  match flags.skip cs with
  | '{' :: rest =>
    match flags.upToBrace? false rest with
    | none => .error .badEscape
    | some (inside, rest) =>
      match inside.isEmpty, (Hexadecimal.value? inside).bind character? with
      | false, some c => .ok (c, flags.skip rest)
      | _, _ => .error .badEscape
  | cs => do
    let (n, rest) ← readHexDigits flags 0 digits cs
    match character? n with
    | none => .error .badEscape
    | some c =>
      if digits = 2 ∧ 0x80 ≤ n ∧ !flags.unicode then .error .beyondAscii else .ok (c, rest)

/-! ## Named classes -/

/-- Cuts a text at the first occurrence of a separator. -/
def cutAtFirst? (separator : List Char) : List Char → Option (List Char × List Char)
  | [] => none
  | c :: rest =>
    if separator.isPrefixOf (c :: rest) then some ([], (c :: rest).drop separator.length)
    else (cutAtFirst? separator rest).map fun (before, after) ↦ (c :: before, after)

/-- The class that a name stands for, or a property and its value with a separator between them. The
result also tells whether the separator asks for every other value instead. -/
def namedClass? (name : List Char) : Option (Bool × CharClass) :=
  let valued (cut : List Char × List Char) : Option CharClass :=
    CharacterSet.valued? (.ofList cut.1) (.ofList cut.2)
  match cutAtFirst? ['!', '='] name with
  | some cut => (valued cut).map (true, ·)
  | none =>
    match cutAtFirst? [':'] name <|> cutAtFirst? ['='] name with
    | some cut => (valued cut).map (false, ·)
    | none => (CharacterSet.named? (.ofList name)).map (false, ·)

/-- A class under the flags, and its complement if it is negated. -/
def finishClass (flags : Flags) (negated : Bool) (s : CharClass) : Except PatternFault CharClass :=
  let s := if flags.ignoreCase then s.folded flags.unicode else s
  if !negated then .ok s else if flags.unicode then .ok s.compl else .error .beyondAscii

/-- Reads the name of a class: one letter, or a text in braces. -/
def readNamed (flags : Flags) (negated : Bool) : Reader CharClass := fun cs ↦ do
  let (name, rest) ← match flags.skip cs with
    | [] => .error .badEscape
    | '\\' :: _ => .error .unknownClass
    | '{' :: rest =>
      match flags.upToBrace? false rest with
      | none => .error .badEscape
      | some named => .ok named
    | c :: rest => .ok ([c], flags.skip rest)
  if !flags.unicode then .error .beyondAscii
  match namedClass? name with
  | none => .error .unknownClass
  | some (others, s) => do
    let s ← finishClass flags (negated != others) s
    .ok (s, rest)

/-! ## Edges of words -/

/-- The demand with a name. -/
def wordEdge? : String → Option WordEdge
  | "start" => some .start
  | "end" => some .stop
  | "start-half" => some .startHalf
  | "end-half" => some .stopHalf
  | _ => none

/-- Reads the name of a demand on the edge of a word, if one stands in braces here. Braces that
start with something else than a letter or a hyphen belong to what follows. -/
def readWordEdge (flags : Flags) : Reader WordEdge := fun cs ↦
  match cs with
  | '{' :: rest =>
    match flags.skip rest with
    | [] => .error .badEscape
    | c :: after =>
      if c.isAlpha ∨ c = '-' then
        match flags.upToBrace? false (c :: after) with
        | none => .error .badEscape
        | some (name, rest) =>
          match wordEdge? (.ofList name) with
          | some edge => .ok (edge, rest)
          | none => .error .badEscape
      else .ok (.boundary, cs)
  | _ => .ok (.boundary, cs)

/-! ## Any escape -/

/-- The characters that letters stand for. -/
def controlLetter? : Char → Option Char
  | 'a' => some '\x07'
  | 'f' => some '\x0c'
  | 't' => some '\t'
  | 'n' => some '\n'
  | 'r' => some '\r'
  | 'v' => some '\x0b'
  | _ => none

/-- Whether a backslash makes a character stand for itself: ASCII, but neither letters nor digits,
nor the angle brackets, which stand for edges of words. -/
def isEscapable (c : Char) : Bool := c.toNat < 0x80 && !c.isAlphanum && c != '<' && c != '>'

/-- The class with a letter; capitals stand for complements. -/
def letteredClass? (unicode : Bool) : Char → Option CharClass
  | 'd' => some (.digit unicode)
  | 's' => some (.space unicode)
  | 'w' => some (.word unicode)
  | _ => none

/-- Reads what follows a backslash. -/
def readEscape (flags : Flags) : Reader Primitive
  | [] => .error .badEscape
  | c :: rest =>
    let edge (e : WordEdge) : Primitive := .assertion (.word e flags.unicode)
    let asLiteral : Char × List Char → Primitive × List Char := fun (c, rest) ↦ (.literal c, rest)
    let asClass : CharClass × List Char → Primitive × List Char := fun (s, rest) ↦ (.cls s, rest)
    match c with
    | 'x' => asLiteral <$> readNumbered flags 2 rest
    | 'u' => asLiteral <$> readNumbered flags 4 rest
    | 'U' => asLiteral <$> readNumbered flags 8 rest
    | 'p' => asClass <$> readNamed flags false rest
    | 'P' => asClass <$> readNamed flags true rest
    | 'A' => .ok (.assertion .textStart, rest)
    | 'z' => .ok (.assertion .textEnd, rest)
    | 'B' => .ok (edge .interior, rest)
    | '<' => .ok (edge .start, rest)
    | '>' => .ok (edge .stop, rest)
    | 'b' => (fun (e, rest) ↦ (edge e, rest)) <$> readWordEdge flags rest
    | c =>
      if isEscapable c then .ok (.literal c, rest)
      else
        match controlLetter? c, letteredClass? flags.unicode c,
          letteredClass? flags.unicode c.toLower with
        | some control, _, _ => .ok (.literal control, rest)
        | none, some s, _ => .ok (.cls s, rest)
        | none, none, some s =>
          if flags.unicode then .ok (.cls s.compl, rest) else .error .beyondAscii
        | none, none, none => .error .badEscape

end Pattern

end RecordQuery
