import RecordQuery.Logged
import RecordQuery.Text.Pieces

/-!
# Specifiers

A specifier is the text by which a lookup says what it is about: the parts of a path and, after
them, the name of an operator. The last part counts as an operator if it names one and is not the
only part; without an operator equality is asked for.

A last part that resembles an operator without naming one is kept as a key, and reported, or
refused, as the configuration says.
-/

namespace RecordQuery

/-- The operator with a name. -/
def Operator.read (name : String) : Except Fault Operator :=
  match Operator.named? name with
  | some op => .ok op
  | none => .error (.unknownOperator name)

/-- The path of some segments. -/
def Path.ofSegments (segments : List Segment) : Except Fault Path :=
  match Path.ofSegments? segments with
  | some path => .ok path
  | none => .error (.badSpecifier "" .emptyPath)

/-- A specifier that has been read. -/
structure Specifier where
  /-- The path into records. -/
  path : Path
  /-- The operator to apply to what the path reaches. -/
  operator : Operator
  deriving DecidableEq, Repr

namespace Specifier

/-- The parts of a specifier, if there is no empty one. -/
def parts (config : Config) (specifier : String) : Except SpecifierFault (List String) :=
  if specifier.isEmpty then .error .empty
  else
    let pieces := Text.pieces config.delimiter.toList specifier.toList
    if pieces.any List.isEmpty then .error .emptySegment else .ok (pieces.map String.ofList)

/-- The operator that the last of several parts resembles without naming one. -/
def slip? (parts : List String) : Option (String × Operator) :=
  match parts with
  | [] | [_] => none
  | parts =>
    match parts.getLast? with
    | none => none
    | some last =>
      if (Operator.named? last).isSome then none
      else (Operator.resembling? last).map fun op ↦ (last, op)

/-- Separates the parts of the path from the operator. -/
def split (parts : List String) : List String × Operator :=
  match parts with
  | [] | [_] => (parts, .exact)
  | _ =>
    match parts.getLast?.bind Operator.named? with
    | some op => (parts.dropLast, op)
    | none => (parts, .exact)

/-- The segment that a part stands for. -/
def segment (config : Config) (part : String) : Segment :=
  if part = config.anyFieldMarker then .anyField else .key part

/-- Reads a specifier. -/
def read (config : Config) (specifier : String) : Logged Specifier := do
  let parts ← match parts config specifier with
    | .ok parts => pure parts
    | .error cause => .fail (.badSpecifier specifier cause)
  match slip? parts, config.slipPolicy with
  | some (last, _), .reject => .fail (.unknownOperator last)
  | some (last, op), .literalKey => .report (.slipKept specifier last op)
  | none, _ => pure ()
  let (keys, operator) := split parts
  let path ← .ofExcept (Path.ofSegments (keys.map (segment config)))
  return ⟨path, operator⟩

end Specifier

end RecordQuery
