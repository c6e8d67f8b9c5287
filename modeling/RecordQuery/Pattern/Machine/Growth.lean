/-!
# Growth of machines

A machine that looks for a pattern is built state by state, and all that is kept of it here is how
many states it has and how much memory they take. Building one part after the other adds to both
until the machine is too large.

The number that a state gets is the number of states before it. It matters because the states of
classes are shared in a way that depends on their numbers.
-/

namespace RecordQuery

/-- How far a machine has grown. -/
structure Machine where
  /-- The number of its states. -/
  states : Nat
  /-- The memory that they take beyond that of a state that leads to one other. -/
  extra : Nat
  deriving DecidableEq, Repr

namespace Machine

/-- The memory of a state that leads to one other. -/
def stateSize : Nat := 32

/-- What a fork takes for each of its ways. -/
def waySize : Nat := 4

/-- What a state takes for each range of bytes if it does not wait for a single one. -/
def choiceSize : Nat := 8

/-- The memory that a machine may take: ten mebibytes. -/
def limit : Nat := 10 * Nat.pow 2 20

/-- The memory of a machine. -/
def size (m : Machine) : Nat := stateSize * m.states + m.extra

/-- The machine unless it is too large. -/
def checked (m : Machine) : Option Machine := if limit < m.size then none else some m

end Machine

/-- A part of a machine, as the growth that building it causes; there is none if the machine gets
too large. -/
structure Growth where
  /-- Builds the part. -/
  run : Machine → Option Machine

namespace Growth

/-- States that have a memory beyond the least. -/
def states (count extra : Nat) : Growth :=
  ⟨fun m ↦ Machine.checked ⟨m.states + count, m.extra + extra⟩⟩

/-- A state that leads to one other. -/
def state : Growth := states 1 0

/-- A fork with so many ways. -/
def fork (ways : Nat) : Growth := states 1 (Machine.waySize * ways)

/-- A state that ends a part in which several ways meet, and one that waits for one of several
ranges of bytes. -/
def choice (ranges : Nat) : Growth := states 2 (Machine.choiceSize * ranges)

/-- Parts built one after the other. -/
def all (parts : List Growth) : Growth := ⟨fun m ↦ parts.foldlM (fun m part ↦ part.run m) m⟩

/-- Builds a part so many times. -/
def runTimes (part : Growth) : Nat → Machine → Option Machine
  | 0, m => some m
  | count + 1, m =>
    match part.run m with
    | some m => runTimes part count m
    | none => none

/-- So many copies of a part. -/
def copies (count : Nat) (part : Growth) : Growth := ⟨runTimes part count⟩

end Growth

end RecordQuery
