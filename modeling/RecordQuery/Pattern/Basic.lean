import RecordQuery.Unicode.Property

/-!
# Reading patterns: faults, heights, flags and blanks

What all parts of the reader of patterns share. The flags in force decide how a character is read,
so they accompany every reader. In verbose patterns blanks are skipped between the signs of a
pattern, and so is the rest of a line from a number sign on.

The height of a part of a pattern is how many parts are nested in each other there. It is limited,
and parts are refused as soon as they exceed the limit, so that nothing is made of them.
-/

namespace RecordQuery

/-- Why a text is not a pattern. -/
inductive PatternFault where
  /-- A parenthesis is not closed. -/
  | unclosedGroup
  /-- A parenthesis is closed that is not open. -/
  | unopenedGroup
  /-- The pattern asks to look ahead or behind. -/
  | lookAround
  /-- The name of a group is not a name. -/
  | badGroupName
  /-- Two groups have the same name. -/
  | repeatedGroupName
  /-- The flags of a group are missing, repeated or unknown. -/
  | badFlags
  /-- There is nothing that could be repeated. -/
  | nothingToRepeat
  /-- The bounds of a repetition are malformed or out of order. -/
  | badCount
  /-- A backslash stands before something that it cannot escape here. -/
  | badEscape
  /-- No set of characters has this name. -/
  | unknownClass
  /-- A bracket is not closed. -/
  | unclosedClass
  /-- A range of characters is malformed or out of order. -/
  | badRange
  /-- Something reaches beyond ASCII while the pattern is confined to it. -/
  | beyondAscii
  /-- The parts of the pattern are nested too deeply. -/
  | tooDeep
  /-- The pattern is too large once its repetitions are written out. -/
  | tooLarge
  deriving DecidableEq, Repr

/-- The wording of a fault. -/
def PatternFault.message : PatternFault → String
  | .unclosedGroup => "unclosed group"
  | .unopenedGroup => "unopened group"
  | .lookAround => "looking ahead or behind is not supported"
  | .badGroupName => "invalid group name"
  | .repeatedGroupName => "duplicate group name"
  | .badFlags => "invalid flags"
  | .nothingToRepeat => "nothing to repeat"
  | .badCount => "invalid repetition count"
  | .badEscape => "invalid escape sequence"
  | .unknownClass => "unknown character class"
  | .unclosedClass => "unclosed character class"
  | .badRange => "invalid character class range"
  | .beyondAscii => "characters beyond ASCII are not allowed here"
  | .tooDeep => "too deeply nested"
  | .tooLarge => "too large"

namespace Pattern

/-- A step of reading a pattern: what was read, and the rest. -/
abbrev Reader (α : Type) := List Char → Except PatternFault (α × List Char)

/-! ## Heights -/

/-- The height that parts of a pattern may have. -/
def heightLimit : Nat := 250

/-- Refuses a height beyond the limit. -/
def checkHeight (height : Nat) : Except PatternFault Unit :=
  if heightLimit < height then .error .tooDeep else .ok ()

/-! ## Flags -/

/-- The flags of a pattern. -/
inductive Flag where
  /-- Case does not matter. -/
  | ignoreCase
  /-- The signs for start and end are about lines. -/
  | multiLine
  /-- A point stands for line ends too. -/
  | dotMatchesAll
  /-- Repetitions prefer few rounds unless they are asked to, and many if they are. -/
  | swapGreed
  /-- Characters are those of Unicode. -/
  | unicode
  /-- Carriage returns end lines too. -/
  | carriageReturns
  /-- Blanks and comments are skipped. -/
  | verbose
  deriving DecidableEq, Repr

/-- The flag with a letter. -/
def Flag.lettered? : Char → Option Flag
  | 'i' => some .ignoreCase
  | 'm' => some .multiLine
  | 's' => some .dotMatchesAll
  | 'U' => some .swapGreed
  | 'u' => some .unicode
  | 'R' => some .carriageReturns
  | 'x' => some .verbose
  | _ => none

/-- The flags in force at some place of a pattern. -/
structure Flags where
  /-- Case does not matter. -/
  ignoreCase : Bool := false
  /-- The signs for start and end are about lines. -/
  multiLine : Bool := false
  /-- A point stands for line ends too. -/
  dotMatchesAll : Bool := false
  /-- Repetitions prefer few rounds unless they are asked to, and many if they are. -/
  swapGreed : Bool := false
  /-- Characters are those of Unicode. -/
  unicode : Bool := true
  /-- Carriage returns end lines too. -/
  carriageReturns : Bool := false
  /-- Blanks and comments are skipped. -/
  verbose : Bool := false

namespace Flags

/-- Sets a flag. -/
def set (flags : Flags) (on : Bool) : Flag → Flags
  | .ignoreCase => { flags with ignoreCase := on }
  | .multiLine => { flags with multiLine := on }
  | .dotMatchesAll => { flags with dotMatchesAll := on }
  | .swapGreed => { flags with swapGreed := on }
  | .unicode => { flags with unicode := on }
  | .carriageReturns => { flags with carriageReturns := on }
  | .verbose => { flags with verbose := on }

end Flags

/-! ## Blanks and comments -/

/-- Drops blanks and comments at the front; `inComment` tells where the text starts. -/
def skipComments (inComment : Bool) : List Char → List Char
  | [] => []
  | c :: rest =>
    if inComment then skipComments (c != '\n') rest
    else if Property.isBlank c then skipComments false rest
    else if c = '#' then skipComments true rest
    else c :: rest

/-- Drops what the flags say to skip at the front. -/
def Flags.skip (flags : Flags) (cs : List Char) : List Char :=
  if flags.verbose then skipComments false cs else cs

/-- The characters up to a closing brace, without what the flags say to skip, and what follows the
brace. -/
def Flags.upToBrace? (flags : Flags) (inComment : Bool) :
    List Char → Option (List Char × List Char)
  | [] => none
  | c :: rest =>
    if inComment then flags.upToBrace? (c != '\n') rest
    else if c = '}' then some ([], rest)
    else if flags.verbose && Property.isBlank c then flags.upToBrace? false rest
    else if flags.verbose && c = '#' then flags.upToBrace? true rest
    else (flags.upToBrace? false rest).map fun (inside, after) ↦ (c :: inside, after)

end Pattern

end RecordQuery
