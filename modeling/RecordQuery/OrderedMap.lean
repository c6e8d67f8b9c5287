/-!
# Maps that remember the order of insertion

A map from names to values whose entries stay in the order in which their names first arrived.
Writing under a name that is present replaces the value where it stands; removing a name closes the
gap, and writing it again puts it last. Both records and sets of lookups are such maps.

A map is its list of entries. That no name occurs twice is a property of the maps that the
operations here build, not part of the type: values hold records that hold values, and a proof
inside that recursion would stand in the way of every induction over it.
-/

namespace RecordQuery

/-- A map from names to values, in order of insertion. -/
structure OrderedMap (α : Type) where
  /-- The names with their values, in order. -/
  entries : List (String × α)

namespace OrderedMap

variable {α β : Type}

/-- The map without entries. -/
def empty : OrderedMap α := ⟨[]⟩

instance : EmptyCollection (OrderedMap α) := ⟨empty⟩

/-! ## Reading -/

/-- The value at the first entry with a name. -/
def lookup (name : String) : List (String × α) → Option α
  | [] => none
  | (k, v) :: rest => if k = name then some v else lookup name rest

/-- The value stored under a name. -/
def get? (m : OrderedMap α) (name : String) : Option α := lookup name m.entries

/-- Whether a name is present. -/
def contains (m : OrderedMap α) (name : String) : Bool := (m.get? name).isSome

/-- The number of entries. -/
def size (m : OrderedMap α) : Nat := m.entries.length

/-- Whether there are no entries. -/
def isEmpty (m : OrderedMap α) : Bool := m.entries.isEmpty

/-- The names, in order. -/
def keys (m : OrderedMap α) : List String := m.entries.map Prod.fst

/-- The values, in order. -/
def values (m : OrderedMap α) : List α := m.entries.map Prod.snd

/-! ## Writing -/

/-- Writes a value under a name, and hands out the value that it replaces. -/
def exchange (name : String) (value : α) : List (String × α) → Option α × List (String × α)
  | [] => (none, [(name, value)])
  | (k, v) :: rest =>
    if k = name then (some v, (k, value) :: rest)
    else ((exchange name value rest).1, (k, v) :: (exchange name value rest).2)

/-- Takes the first entry with a name out, and hands out its value. -/
def extract (name : String) : List (String × α) → Option α × List (String × α)
  | [] => (none, [])
  | (k, v) :: rest =>
    if k = name then (some v, rest)
    else ((extract name rest).1, (k, v) :: (extract name rest).2)

/-- Writes a value under a name; the first component is the value that was there before. -/
def getThenInsert? (m : OrderedMap α) (name : String) (value : α) : Option α × OrderedMap α :=
  ((exchange name value m.entries).1, ⟨(exchange name value m.entries).2⟩)

/-- Removes a name; the first component is the value that was there before. -/
def getThenErase? (m : OrderedMap α) (name : String) : Option α × OrderedMap α :=
  ((extract name m.entries).1, ⟨(extract name m.entries).2⟩)

/-- Writes a value under a name. -/
def insert (m : OrderedMap α) (name : String) (value : α) : OrderedMap α :=
  (m.getThenInsert? name value).2

/-- Removes a name. -/
def erase (m : OrderedMap α) (name : String) : OrderedMap α := (m.getThenErase? name).2

/-- Writes entries one after the other. -/
def insertMany (m : OrderedMap α) (entries : List (String × α)) : OrderedMap α :=
  entries.foldl (fun m e ↦ m.insert e.1 e.2) m

/-- The map that collecting entries in order gives. -/
def ofList (entries : List (String × α)) : OrderedMap α := empty.insertMany entries

/-- Changes every value in its place, each as its name asks. -/
def mapEntries (f : String → α → β) (m : OrderedMap α) : OrderedMap β :=
  ⟨m.entries.map fun e ↦ (e.1, f e.1 e.2)⟩

/-- Changes every value in its place, whatever its name. -/
def mapValues (f : α → β) (m : OrderedMap α) : OrderedMap β := m.mapEntries fun _ ↦ f

/-- Changes the value under a name in its place, if the name is present. -/
def modify (m : OrderedMap α) (name : String) (f : α → α) : OrderedMap α :=
  match m.get? name with
  | some value => m.insert name (f value)
  | none => m

end OrderedMap

end RecordQuery
