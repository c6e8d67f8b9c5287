import RecordQuery.Pattern.CharClass
import RecordQuery.Pattern.Machine.Growth
import RecordQuery.Unicode.Utf8
import Std.Data.TreeMap.Basic

/-!
# Classes in machines

A machine reads bytes, so a class of characters becomes a part that reads the byte forms of its
members. A class of ASCII characters takes one state that waits for a byte of several ranges. Any
other class takes more, and states that would be alike are shared.

What has been built is kept in a table with a fixed number of slots. A state is put into the slot
that a hash of it names, where it displaces what was there before, and a state that has been
displaced is built anew when it is needed again. The hash takes in the numbers of states, so that a
class does not take the same memory everywhere.

A machine that reads texts backwards has a fork with a way for every sequence of ranges of bytes;
sequences share the states with which they end, that is, those for the first bytes of characters. A
machine that reads forwards has no such fork: its states lead on by several ranges each, and any two
states that lead to the same states by the same ranges are one.
-/

namespace RecordQuery

namespace Machine

/-! ## Tables of states -/

/-- Starts a hash. -/
def hashStart : UInt64 := 14695981039346656037

/-- Takes a number into a hash: the 64-bit hash of Fowler, Noll and Vo. -/
def hashWith (h : UInt64) (n : Nat) : UInt64 := (h ^^^ n.toUInt64) * 1099511628211

/-- What is remembered of the states of a class while it is built. -/
structure Shared (κ : Type) where
  /-- The number that the next state gets. -/
  next : Nat
  /-- The memory of states beyond the least. -/
  extra : Nat
  /-- The states by their slots: by what they are told apart, and their numbers. -/
  table : Std.TreeMap Nat (κ × Nat)

namespace Shared

variable {κ : Type} [BEq κ]

/-- A table without states, in a machine. -/
def start (m : Machine) : Shared κ := ⟨m.states, m.extra, .empty⟩

/-- The machine so far. -/
def machine (s : Shared κ) : Machine := ⟨s.next, s.extra⟩

/-- The number of a state, which is built with so much memory beyond the least unless it is in its
slot. -/
def state (s : Shared κ) (slot : Nat) (key : κ) (extra : Nat) : Nat × Shared κ :=
  let build : Nat × Shared κ :=
    (s.next, ⟨s.next + 1, s.extra + extra, s.table.insert slot (key, s.next)⟩)
  match s.table.get? slot with
  | some (found, number) => if found == key then (number, s) else build
  | none => build

end Shared

/-! ## Backwards -/

/-- The number of slots for states that read one range of bytes. -/
def rangeSlots : UInt64 := 1000

/-- The state that reads a byte of a range and then leads to another state. -/
def rangeState (target : Nat) (r : CodeRange) (s : Shared (Nat × CodeRange)) :
    Nat × Shared (Nat × CodeRange) :=
  let slot := hashWith (hashWith (hashWith hashStart target) r.first) r.last % rangeSlots
  s.state slot.toNat (target, r) 0

/-- Builds the states for sequences of ranges of bytes; `last` is the state that all of them lead
to in the end. -/
def sequenceStates (last : Nat) (sequences : List (List CodeRange))
    (s : Shared (Nat × CodeRange)) : Shared (Nat × CodeRange) :=
  sequences.foldl (fun s ranges ↦
    (ranges.foldl (fun (target, s) r ↦ rangeState target r s) (last, s)).2) s

/-- A class with characters beyond ASCII, read backwards. -/
def backwardClass (sequences : Thunk (List (List CodeRange))) : Growth :=
  ⟨fun m ↦ do
    let grown ← (Growth.states 2 (waySize * sequences.get.length)).run m
    (sequenceStates (m.states + 1) sequences.get (.start grown)).machine.checked⟩

/-! ## Forwards -/

/-- A state that is being built: where it leads by which ranges, the last first, and the range that
leads to the state below it. -/
structure Branch where
  /-- The ranges with the states that they lead to. -/
  ways : List (CodeRange × Nat)
  /-- The last range, which leads to a state that is still being built. -/
  onward? : Option CodeRange

/-- The states of a class by where they lead. -/
abbrev Branches := Shared (List (CodeRange × Nat))

/-- The number of slots for states that lead on by several ranges. -/
def branchSlots : UInt64 := 10000

/-- Settles that the last range leads to a state. -/
def Branch.settled (b : Branch) (target : Nat) : Branch :=
  match b.onward? with
  | some r => ⟨(r, target) :: b.ways, none⟩
  | none => b

/-- The state that leads to others by ranges. -/
def branchState (b : Branch) (s : Branches) : Nat × Branches :=
  let ways := b.ways.reverse
  let hash := ways.foldl (fun h (r, target) ↦
    hashWith (hashWith (hashWith h r.first) r.last) target) hashStart
  s.state (hash % branchSlots).toNat ways (choiceSize * ways.length)

/-- Builds states of which each leads to the next, the last first, and gives the number of the
first; `last` is the state that the last of them leads to. -/
def finishBranches (last : Nat) : List Branch → Branches → Nat × Branches
  | [], s => (last, s)
  | b :: below, s =>
    let (target, s) := finishBranches last below s
    branchState (b.settled target) s

/-- Adds a sequence of ranges, which follows those added before, to the states that are being
built. Those of them that it has no part in are finished. -/
def addSequence (last : Nat) : List Branch → List CodeRange → Branches → List Branch × Branches
  | b :: below, r :: rest, s =>
    if b.onward? == some r then
      let (below, s) := addSequence last below rest s
      (b :: below, s)
    else
      let (target, s) := finishBranches last below s
      ({ b.settled target with onward? := some r } :: rest.map (⟨[], some ·⟩), s)
  | branches, _, s => (branches, s)

/-- A class with characters beyond ASCII, read forwards. -/
def forwardClass (sequences : Thunk (List (List CodeRange))) : Growth :=
  ⟨fun m ↦ do
    let last := m.states
    let grown ← Growth.state.run m
    let (branches, s) := sequences.get.foldl
      (fun (branches, s) ranges ↦ addSequence last branches ranges s)
      ([⟨[], none⟩], (Shared.start grown : Branches))
    (finishBranches last branches s).2.machine.checked⟩

/-! ## Classes -/

/-- A character of a class. The sequences of its bytes are worked out when they are first needed,
and only once for all copies of the class. -/
def ofClass (backwards : Bool) (s : CharClass) : Growth :=
  if s.ranges.all (·.last < 0x80) then .choice s.ranges.size
  else
    let sequences : Thunk (List (List CodeRange)) :=
      .mk fun _ ↦ s.ranges.toList.flatMap Utf8.sequences
    if backwards then backwardClass sequences else forwardClass sequences

end Machine

end RecordQuery
