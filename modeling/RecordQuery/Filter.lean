import RecordQuery.Condition

/-!
# Filters

A filter is a list of conditions, all of which a record has to fulfil. The empty filter lets every
record pass. A filter is prepared once, under a configuration, and used on any records.

Records are filtered together with their positions in the collection that they come from, so that
what a filter selects can be found there again.
-/

namespace RecordQuery

/-- A record at a position of a collection. -/
structure Placed where
  /-- The position. -/
  position : Nat
  /-- The record. -/
  record : Record

/-- Records with their positions in a list. -/
def Placed.number (records : List Record) : List Placed :=
  records.zipIdx.map fun (record, position) ↦ { position, record }

/-- The conditions that records have to fulfil. -/
structure Filter where
  /-- The conditions, in the order of the lookups. -/
  conditions : List Condition

namespace Filter

/-- Prepares every lookup, if the configuration can be used. The first lookup that cannot be
prepared decides how preparation fails. -/
def compile (config : Config) (lookups : Lookups) : Logged Filter := do
  match config.fault? with
  | some cause => .fail (.badConfig cause)
  | none => pure ()
  let conditions ← lookups.entries.mapM fun (specifier, target) ↦
    Condition.compile config specifier target
  return ⟨conditions⟩

/-- Whether there are no conditions. -/
def isEmpty (f : Filter) : Bool := f.conditions.isEmpty

/-- Whether a record fulfils every condition. -/
def isMatch (f : Filter) (r : Record) : Bool := f.conditions.all (·.isMatch r)

/-- The records that pass, in their order. -/
def select (f : Filter) (candidates : List Placed) : Logged (List Placed) := do
  let found := candidates.filter (f.isMatch ·.record)
  .report (.filtered f.conditions.length candidates.length found.length)
  return found

/-- The number of records that pass. -/
def count (f : Filter) (records : List Record) : Nat := records.countP f.isMatch

/-- Whether a record passes. -/
def any (f : Filter) (records : List Record) : Bool := records.any f.isMatch

/-- The one record that passes among the candidates. At least one lookup is required. -/
def selectOne (config : Config) (lookups : Lookups) (candidates : List Placed) : Logged Placed := do
  if lookups.isEmpty then .fail .noLookups
  else
    let f ← compile config lookups
    match ← f.select candidates with
    | [] => .fail (.noneFound lookups)
    | [found] => return found
    | several => .fail (.severalFound several.length)

end Filter

end RecordQuery
