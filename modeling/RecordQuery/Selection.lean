import RecordQuery.Filter

/-!
# Selections

A selection is what a filter found in a collection: some of its records, each with its position, in
the order of the collection. It can be narrowed by further lookups, under the configuration of the
collection that it comes from.
-/

namespace RecordQuery

/-- Records of a collection, in its order. -/
structure Selection where
  /-- The records with their positions. -/
  found : List Placed
  /-- The configuration of the collection. -/
  config : Config

namespace Selection

/-! ## Views -/

/-- The selected records. -/
def records (s : Selection) : List Record := s.found.map (·.record)

/-- The positions of the selected records. -/
def positions (s : Selection) : List Nat := s.found.map (·.position)

/-- The number of selected records. -/
def size (s : Selection) : Nat := s.found.length

/-- Whether nothing is selected. -/
def isEmpty (s : Selection) : Bool := s.found.isEmpty

/-- The record at a place of the selection. -/
def get? (s : Selection) (i : Nat) : Option Record := s.records[i]?

/-- The first record. -/
def first? (s : Selection) : Option Record := s.records.head?

/-- Whether a selection has the given records, in this order. -/
def hasRecords (s : Selection) (records : List Record) : Bool := s.records == records

/-- Equality of two selections, by their records and configurations. -/
def same (s t : Selection) : Bool := s.hasRecords t.records && s.config == t.config

/-! ## Narrowing -/

/-- What further lookups find among the selected records. -/
def filter (s : Selection) (lookups : Lookups) : Logged Selection := do
  let f ← Filter.compile s.config lookups
  let found ← f.select s.found
  return { s with found }

/-- What lookups find that are applied one after the other. -/
def filterAll (s : Selection) (chain : List Lookups) : Logged Selection := chain.foldlM filter s

/-- The only record that lookups find among the selected ones. -/
def getOne (s : Selection) (lookups : Lookups) : Logged Placed :=
  Filter.selectOne s.config lookups s.found

end Selection

end RecordQuery
