import RecordQuery.Pattern.Machine.Growth

/-!
# Choices between texts in machines

A choice between texts becomes a tree in which texts share what they start with. Which of two texts
comes first in the choice must not get lost where one continues the other. So a node of the tree
keeps its branches in rounds, and a text that ends at a node closes the round of branches there.

A node becomes a state for every round that has branches, and a fork that leads to these and, once
for every closed round, to the end. A node at which nothing goes on takes nothing.
-/

namespace RecordQuery

mutual

/-- A node of a tree of texts. -/
inductive WordTree where
  /-- A node at which so many rounds of branches have been closed. -/
  | node (closed : Nat) (branches : WordBranches)

/-- The branches of a node, in the order of their rounds. -/
inductive WordBranches where
  /-- No branches. -/
  | none
  /-- A branch by a byte, in a round, before others. -/
  | branch (round : Nat) (byte : UInt8) (tree : WordTree) (others : WordBranches)

end

/-! ## Building -/

/-- The tree of one text. -/
def WordTree.ofBytes : List UInt8 → WordTree
  | [] => .node 1 .none
  | b :: rest => .node 0 (.branch 0 b (ofBytes rest) .none)

mutual

/-- Adds a text. If it ends where nothing goes on and another one has ended, nothing changes. -/
def WordTree.add (bytes : List UInt8) : WordTree → WordTree
  | .node closed branches =>
    match bytes with
    | [] =>
      match branches with
      | .none => .node (max closed 1) .none
      | branches => .node (closed + 1) branches
    | b :: rest => .node closed (branches.add closed b rest)

/-- Adds a text that goes on by a byte, in the present round. -/
def WordBranches.add (present : Nat) (b : UInt8) (rest : List UInt8) :
    WordBranches → WordBranches
  | .none => .branch present b (.ofBytes rest) .none
  | .branch round byte tree others =>
    if round = present ∧ byte = b then .branch round byte (tree.add rest) others
    else .branch round byte tree (others.add present b rest)

end

/-- The tree of several texts. -/
def WordTree.ofTexts (texts : List (List UInt8)) : WordTree :=
  texts.foldl (fun tree bytes ↦ tree.add bytes) (.node 0 .none)

/-! ## Size -/

/-- Whether nothing goes on at a node. -/
def WordTree.isLeaf : WordTree → Bool
  | .node _ .none => true
  | _ => false

/-- The rounds of branches. -/
def WordBranches.rounds : WordBranches → List Nat
  | .none => []
  | .branch round _ _ others => round :: others.rounds

/-- The states for the branches of a node and for the fork to them; `ways` has the number of ways
of every round that has any. -/
def Machine.ofRounds (closed : Nat) (ways : List Nat) : Machine :=
  { states := ways.length + 1
    extra := waySize * (ways.length + closed)
      + choiceSize * (ways.filter (1 < ·)).foldl (· + ·) 0 }

/-- The states of two parts. -/
def Machine.add (m n : Machine) : Machine := ⟨m.states + n.states, m.extra + n.extra⟩

mutual

/-- The states for a node and for what is below it. -/
def WordTree.machine : WordTree → Machine
  | .node closed branches =>
    let ways := (branches.rounds.splitBy (· == ·)).map List.length
    (Machine.ofRounds closed ways).add branches.machine

/-- The states for the nodes at the end of branches. -/
def WordBranches.machine : WordBranches → Machine
  | .none => ⟨0, 0⟩
  | .branch _ _ tree others =>
    if tree.isLeaf then others.machine else tree.machine.add others.machine

end

/-- A choice between texts, with the state in which they end. -/
def Growth.words (texts : List (List UInt8)) : Growth :=
  let m := (WordTree.ofTexts texts).machine
  .states (m.states + 1) m.extra

end RecordQuery
