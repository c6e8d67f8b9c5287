import RecordQuery.Value.Basic

/-!
# Paths into records

A path leads from a record to values: segment by segment, each a field name or the wildcard for any
field. A path without wildcards reaches one value or none. A path with wildcards reaches every value
that some choice of fields reaches, level by level and in the order of the fields. Only records are
entered; a path that would have to go on from another value ends without reaching anything.
-/

namespace RecordQuery

/-! ## Paths -/

/-- One step of a path. -/
inductive Segment where
  /-- The field with a name. -/
  | key (name : String)
  /-- Every field. -/
  | anyField
  deriving DecidableEq, Repr

namespace Segment

/-- Whether a segment is the wildcard. -/
def isAnyField : Segment → Bool
  | anyField => true
  | key _ => false

/-- The text of a segment in messages. -/
def text : Segment → String
  | key name => name
  | anyField => "*"

end Segment

/-- A path: at least one segment, outermost first. -/
structure Path where
  /-- The segments. -/
  segments : List Segment
  /-- There is a segment. -/
  segments_ne_nil : segments ≠ []
  deriving DecidableEq, Repr

namespace Path

/-- The path of some segments, if there are any. -/
def ofSegments? (segments : List Segment) : Option Path :=
  if h : segments ≠ [] then some ⟨segments, h⟩ else none

/-- The number of segments. -/
def length (p : Path) : Nat := p.segments.length

/-- Whether there are no segments; never so. -/
def isEmpty (p : Path) : Bool := p.segments.isEmpty

/-- Whether a segment is the wildcard. -/
def hasAnyField (p : Path) : Bool := p.segments.any Segment.isAnyField

/-- The text of a path in messages, with points between the segments. -/
def text (p : Path) : String := String.intercalate "." (p.segments.map Segment.text)

end Path

/-! ## What a path reaches -/

/-- What a path reaches in a record. -/
inductive Resolved where
  /-- A path without wildcards that cannot be followed. -/
  | notFound
  /-- The value at the end of a path without wildcards. -/
  | one (v : Value)
  /-- The values at the ends of a path with wildcards. -/
  | any (vs : List Value)

namespace Resolved

/-- Whether a path could not be followed. -/
def isNotFound : Resolved → Bool
  | notFound => true
  | _ => false

/-- The values that were reached. -/
def candidates : Resolved → List Value
  | notFound => []
  | one v => [v]
  | any vs => vs

end Resolved

namespace Path

/-- Follows keys, one at a time. -/
def walk : List Segment → Record → Resolved
  | [], _ => .notFound
  | .anyField :: _, _ => .notFound
  | .key name :: rest, r =>
    match r.get? name with
    | none => .notFound
    | some v =>
      match rest, v with
      | [], v => .one v
      | rest, .record nested => walk rest nested
      | _, _ => .notFound

/-- The values that one segment reaches from some records. -/
def reach : Segment → List Record → List Value
  | .key name, records => records.filterMap (·.get? name)
  | .anyField, records => records.flatMap (·.values)

/-- The values that segments reach from some records, level by level, as long as there are records
to go on from. -/
def spread : List Segment → List Record → List Value
  | [], _ => []
  | [last], records => reach last records
  | s :: rest, records =>
    let level := (reach s records).filterMap Value.record?
    if level.isEmpty then [] else spread rest level

/-- What a path reaches in a record. -/
def resolve (p : Path) (r : Record) : Resolved :=
  if p.hasAnyField then .any (spread p.segments [r]) else walk p.segments r

end Path

end RecordQuery
