import RecordQuery.Selection

/-!
# Collections of records

A collection is a list of records with a configuration for the lookups that are made on it. Values
of other kinds never get in: what accepts a value checks that it is a record, before it looks at
anything else.

A collection is changed in place. What fails in the middle is not undone, so all that is checked is
checked before the first write, and an operation that fails leaves the collection as it was.
-/

namespace RecordQuery

/-- A list of records, with the configuration for lookups on it. -/
structure Collection where
  /-- The records, in order. -/
  records : List Record := []
  /-- The configuration. -/
  config : Config := {}

namespace Collection

/-! ## Building -/

/-- The collection of some records, with the default configuration. -/
def ofRecords (records : List Record) : Collection := { records }

/-- The records that values are, counting positions from the given one. -/
def recordsOf (position : Nat) : List Value → Except Fault (List Record)
  | [] => .ok []
  | .record r :: rest => do
    let others ← recordsOf (position + 1) rest
    .ok (r :: others)
  | v :: _ => .error (.notARecordAt position v.kind)

/-- The collection of some values, all of which have to be records. -/
def ofValues (values : List Value) : Except Fault Collection := do
  let records ← recordsOf 0 values
  .ok (ofRecords records)

/-- The collection of a document, which has to be an array of objects. -/
def ofJson (j : Json) : Except Fault Collection :=
  match Value.ofJson j with
  | .sequence values => ofValues values
  | v => .error (.notAnArray v.kind)

/-- The collection that a text denotes. -/
def parse (s : String) : Except Fault Collection :=
  match Json.parse s with
  | .ok j => ofJson j
  | .error cause => .error (.badDocument cause)

/-! ## Views -/

/-- The number of records. -/
def size (c : Collection) : Nat := c.records.length

/-- Whether there are no records. -/
def isEmpty (c : Collection) : Bool := c.records.isEmpty

/-- The record at a position. -/
def get? (c : Collection) (i : Nat) : Option Record := c.records[i]?

/-- The text of a collection: an array of its records. -/
def toText (c : Collection) : String := Value.toText (.sequence (c.records.map .record))

/-- Equality of the records, in order, and of the configurations. -/
def same (c d : Collection) : Bool := c.records == d.records && c.config == d.config

/-! ## Changing -/

/-- The record that a value is, if it may enter a collection. -/
def element (v : Value) : Except Fault Record :=
  match v with
  | .record r => .ok r
  | v => .error (.notARecord v.kind)

/-- Takes the given configuration. -/
def withConfig (c : Collection) (config : Config) : Collection := { c with config }

/-- Appends a record. -/
def pushRecord (c : Collection) (r : Record) : Collection := { c with records := c.records ++ [r] }

/-- What works on a collection in place: it answers or fails, and leaves the collection behind as it
was written until then. -/
abbrev InPlace (α : Type) := ExceptT Fault (StateM Collection) α

namespace InPlace

variable {α : Type}

/-- The answer or the fault, and the collection that is left behind. -/
def runOn (p : InPlace α) (c : Collection) : Except Fault α × Collection := p.run.run c

/-- The answer and the collection, unless there is a fault. -/
def result (p : InPlace α) (c : Collection) : Except Fault (α × Collection) :=
  match p.runOn c with
  | (.ok a, c) => .ok (a, c)
  | (.error f, _) => .error f

/-- Appends a value, which has to be a record. -/
def push (v : Value) : InPlace Unit := do
  let r ← element v
  modifyThe Collection (·.pushRecord r)

/-- Puts a value, which has to be a record, at a position and moves what was there and behind. -/
def insert (i : Nat) (v : Value) : InPlace Unit := do
  let r ← element v
  let c ← get
  if i ≤ c.size then modifyThe Collection fun c ↦ { c with records := c.records.insertIdx i r }
  else throw (.outOfBounds i c.size)

/-- Puts a value, which has to be a record, in the place of another record, which is handed out. -/
def set (i : Nat) (v : Value) : InPlace Record := do
  let r ← element v
  let c ← get
  match c.get? i with
  | some old =>
    modifyThe Collection fun c ↦ { c with records := c.records.set i r }
    return old
  | none => throw (.outOfBounds i c.size)

end InPlace

/-- The collection with a value appended, which has to be a record. -/
def push (c : Collection) (v : Value) : Except Fault Collection :=
  (·.2) <$> (InPlace.push v).result c

/-- The collection with a value put at a position, which has to be a record. -/
def insert (c : Collection) (i : Nat) (v : Value) : Except Fault Collection :=
  (·.2) <$> (InPlace.insert i v).result c

/-- The record in whose place a value is put, which has to be a record, and the collection
afterwards. -/
def set (c : Collection) (i : Nat) (v : Value) : Except Fault (Record × Collection) :=
  (InPlace.set i v).result c

/-- Appends records. -/
def extend (c : Collection) (records : List Record) : Collection :=
  { c with records := c.records ++ records }

/-- Changes the record at a position, if there is one. -/
def modify (c : Collection) (i : Nat) (f : Record → Record) : Collection :=
  { c with records := c.records.modify i f }

/-! ## Filtering -/

/-- All records of a collection. -/
def all (c : Collection) : Selection := ⟨Placed.number c.records, c.config⟩

/-- What lookups find. -/
def filter (c : Collection) (lookups : Lookups) : Logged Selection := c.all.filter lookups

/-- The only record that lookups find. -/
def getOne (c : Collection) (lookups : Lookups) : Logged Placed := c.all.getOne lookups

/-- The positions of the records that lookups find. They are settled before anything is changed. -/
def matching (c : Collection) (lookups : Lookups) : Logged (List Nat) := do
  let f ← Filter.compile c.config lookups
  return (c.all.found.filter (f.isMatch ·.record)).map (·.position)

/-- Edits the records that lookups find, one after the other, and answers how many there are. Each
may be edited in another way, told by how many were found before it. -/
def InPlace.editMatching (lookups : Lookups) (edits : Nat → Record → Record) : InPlace Nat := do
  let positions ← ((← get).matching lookups).outcome
  positions.zipIdx.forM fun (i, n) ↦ modifyThe Collection (·.modify i (edits n))
  return positions.length

/-- Edits all records that lookups find in the same way. The result is the number of these records
and the collection after the changes; only the preparation of the lookups is reported. -/
def modifyMatching (c : Collection) (lookups : Lookups) (f : Record → Record) :
    Logged (Nat × Collection) where
  events := (c.matching lookups).events
  outcome := (InPlace.editMatching lookups fun _ ↦ f).result c

end Collection

namespace Selection

/-- The collection of the selected records, with the configuration they were selected under. -/
def toCollection (s : Selection) : Collection := ⟨s.records, s.config⟩

end Selection

end RecordQuery
