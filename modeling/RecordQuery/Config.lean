import RecordQuery.Json.Reader
import RecordQuery.Text.Occurrence

/-!
# Configuration of lookups

How specifiers are cut into parts and what the parts mean: the delimiter between parts, the marker
that stands for any field, and what to do with a last part that looks like a misspelt operator.

A configuration can hold anything. Whether specifiers can be cut without ambiguity is asked for by
`Config.fault?`, when a filter is prepared.
-/

namespace RecordQuery

/-- What to do with a last part that resembles an operator without naming one. -/
inductive SlipPolicy where
  /-- Take it as one more key. -/
  | literalKey
  /-- Refuse the specifier. -/
  | reject
  deriving DecidableEq, Repr

/-- The name of a policy in documents. -/
def SlipPolicy.name : SlipPolicy → String
  | .literalKey => "literal_key"
  | .reject => "reject"

/-- The policy with a name. -/
def SlipPolicy.named? (name : String) : Option SlipPolicy :=
  [SlipPolicy.literalKey, .reject].find? (·.name == name)

/-- The settings by which specifiers are read. -/
structure Config where
  /-- The text between the parts of a specifier. -/
  delimiter : String := "__"
  /-- The part that stands for any field. -/
  anyFieldMarker : String := "_any"
  /-- What to do with a misspelt operator. -/
  slipPolicy : SlipPolicy := .literalKey
  deriving DecidableEq, Repr, Inhabited

/-- Why a configuration cannot be used. -/
inductive ConfigFault where
  /-- The delimiter is empty. -/
  | emptyDelimiter
  /-- The marker is empty. -/
  | emptyMarker
  /-- The marker would be cut by the delimiter. -/
  | markerHoldsDelimiter (marker delimiter : String)
  deriving DecidableEq, Repr

/-- The wording of a fault. -/
def ConfigFault.message : ConfigFault → String
  | .emptyDelimiter => "delimiter must not be empty"
  | .emptyMarker => "any-field marker must not be empty"
  | .markerHoldsDelimiter marker delimiter =>
    "any-field marker '" ++ marker ++ "' contains the delimiter '" ++ delimiter ++ "'"

namespace Config

/-- The first reason, if there is one, for which specifiers could not be cut unambiguously. -/
def fault? (c : Config) : Option ConfigFault :=
  if c.delimiter.isEmpty then some .emptyDelimiter
  else if c.anyFieldMarker.isEmpty then some .emptyMarker
  else if Text.occursIn c.delimiter.toList c.anyFieldMarker.toList then
    some (.markerHoldsDelimiter c.anyFieldMarker c.delimiter)
  else none

/-! ## Reading from a document

A configuration is written as an object whose members may be missing, or as an array of the settings
in their order, which may end early. Members with other names are passed over unread. A setting
given twice is refused, and so is one of the wrong kind.
-/

/-- One setting of a configuration, or a member that is none. -/
inductive Setting where
  /-- The delimiter. -/
  | delimiter (s : String)
  /-- The marker for any field. -/
  | anyFieldMarker (s : String)
  /-- The policy. -/
  | slipPolicy (p : SlipPolicy)
  /-- A member that is no setting. -/
  | other

/-- Reads a text after blanks. -/
def readQuoted : Json.Reader String := fun cs ↦
  match Json.skipBlanks cs with
  | '"' :: rest => Json.readText rest
  | rest => .error (Json.missing rest)

/-- Reads the word `null` after blanks. -/
def readNull : Json.Reader Unit := fun cs ↦ Json.readWord "null".toList () (Json.skipBlanks cs)

/-- The policy with a name that was read. -/
def policyNamed (name : String) : Json.Reader SlipPolicy := fun rest ↦
  match SlipPolicy.named? name with
  | some p => .ok (p, rest)
  | none => .error .malformed

/-- Reads a policy: its name, or an object whose only member has that name and is `null`. -/
def readPolicy : Json.Reader SlipPolicy := fun cs ↦
  match Json.skipBlanks cs with
  | '{' :: rest => do
    let ((name, ()), rest) ← Json.readMember Json.readText (fun _ ↦ readNull) rest
    match Json.skipBlanks rest with
    | '}' :: rest => policyNamed name rest
    | rest => .error (Json.missing rest)
  | rest => do
    let (name, rest) ← readQuoted rest
    policyNamed name rest

/-- The name of each setting, with its reader, in their order. -/
def settings : List (String × Json.Reader Setting) :=
  [("delimiter", fun cs ↦ (fun (s, rest) ↦ (.delimiter s, rest)) <$> readQuoted cs),
   ("any_field_marker", fun cs ↦ (fun (s, rest) ↦ (.anyFieldMarker s, rest)) <$> readQuoted cs),
   ("unknown_operator", fun cs ↦ (fun (p, rest) ↦ (.slipPolicy p, rest)) <$> readPolicy cs)]

/-- Reads the value of a member with a name. -/
def readSetting (name : String) : Json.Reader Setting := fun cs ↦
  match settings.lookup name with
  | some reader => reader cs
  | none => (fun ((), rest) ↦ (.other, rest)) <$> Json.passValue cs

/-- Applies a setting. -/
def apply (c : Config) : Setting → Config
  | .delimiter s => { c with delimiter := s }
  | .anyFieldMarker s => { c with anyFieldMarker := s }
  | .slipPolicy p => { c with slipPolicy := p }
  | .other => c

/-- The configuration of the members of an object, if no setting is given twice. -/
def ofMembers (members : List (String × Setting)) : Except Json.ReadFault Config :=
  if settings.any fun s ↦ 1 < members.countP (·.1 == s.1) then .error .malformed
  else .ok (members.foldl (fun c m ↦ c.apply m.2) {})

/-- Reads the elements of an array that follow an element, each by the reader of its place. -/
def readMorePlaces : List (Json.Reader Setting) → Config → Json.Reader Config
  | readers, c, cs =>
    match Json.skipBlanks cs, readers with
    | ']' :: rest, _ => .ok (c, rest)
    | ',' :: rest, reader :: readers => do
      let (setting, rest) ← reader rest
      readMorePlaces readers (c.apply setting) rest
    | rest, _ => .error (Json.missing rest)

/-- Reads a configuration after the opening bracket of an array. -/
def readArray : Json.Reader Config := fun cs ↦
  match Json.skipBlanks cs, settings.map (·.2) with
  | ']' :: rest, _ => .ok ({}, rest)
  | rest, reader :: readers => do
    let (setting, rest) ← reader rest
    readMorePlaces readers (apply {} setting) rest
  | rest, [] => .error (Json.missing rest)

/-- Reads a configuration. -/
def read : Json.Reader Config := fun cs ↦
  match Json.skipBlanks cs with
  | '[' :: rest => readArray rest
  | '{' :: rest => do
    let (members, rest) ← Json.readMembers Json.readText readSetting rest
    let c ← ofMembers members
    .ok (c, rest)
  | rest => .error (Json.missing rest)

/-- The configuration that a text denotes. -/
def parse (s : String) : Except Json.ReadFault Config := Json.readAll read s

end Config

end RecordQuery
