import Mathlib.Data.List.Infix
import Mathlib.Order.Basic
import Mathlib.Order.Bounds.Defs
import Mathlib.Order.MinMax
import RecordQuery.Text.EditDistance

/-!
# Edits of a text

The distance between two texts is computed as the least cost of writing them side by side, where a
character stands opposite to the same one, to another one, or to nothing. That this is the least
number of edits takes two steps. An alignment is a sequence of edits, one for each column that costs
something. Conversely, a text that is aligned with another stays aligned with it when that is edited
once more, at no more than the cost of one further column.

The rows of the computation grow at their ends, and so do the initial parts of the texts that they
are about. The recursion on texts takes them from the front, which is why the texts are reversed
here until the rows have been dealt with.

A row is written over an older one, so while it is being written it is right up to a place only.
Nothing behind that place is looked up before it has been written. So it does not matter what the
older row was, but that it was as long.
-/

namespace RecordQuery

namespace Text

/-! ## Edits and alignments -/

/-- A character of a text is inserted, deleted, or replaced. -/
inductive Edit : List Char → List Char → Prop
  /-- A character is inserted in front. -/
  | insertion (c : Char) (a : List Char) : Edit a (c :: a)
  /-- The first character is deleted. -/
  | deletion (c : Char) (a : List Char) : Edit (c :: a) a
  /-- The first character is replaced. -/
  | substitution (c d : Char) (a : List Char) : Edit (c :: a) (d :: a)
  /-- The edit is made further in. -/
  | later {a b : List Char} (x : Char) (h : Edit a b) : Edit (x :: a) (x :: b)

/-- So many edits, one after the other. -/
inductive Edits : Nat → List Char → List Char → Prop
  /-- Without an edit a text stays as it is. -/
  | refl (a : List Char) : Edits 0 a a
  /-- One more edit is made. -/
  | tail {n : Nat} {a b c : List Char} (h : Edits n a b) (hedit : Edit b c) : Edits (n + 1) a c

/-- Two texts side by side, at the cost of so many columns with different sides. -/
inductive Alignment : Nat → List Char → List Char → Prop
  /-- Two empty texts. -/
  | nil : Alignment 0 [] []
  /-- A character is opposite to the same. -/
  | keep {n : Nat} {a b : List Char} (c : Char) (h : Alignment n a b) :
    Alignment n (c :: a) (c :: b)
  /-- A character is opposite to another. -/
  | change {n : Nat} {a b : List Char} (c d : Char) (h : Alignment n a b) :
    Alignment (n + 1) (c :: a) (d :: b)
  /-- A character of the first text is opposite to nothing. -/
  | drop {n : Nat} {a b : List Char} (c : Char) (h : Alignment n a b) :
    Alignment (n + 1) (c :: a) b
  /-- A character of the second text is opposite to nothing. -/
  | add {n : Nat} {a b : List Char} (d : Char) (h : Alignment n a b) :
    Alignment (n + 1) a (d :: b)

variable {m n : Nat} {a b c : List Char}

theorem Edits.cons (x : Char) (h : Edits n a b) : Edits n (x :: a) (x :: b) := by
  induction h with
  | refl a => exact .refl _
  | tail _ hedit ih => exact .tail ih (.later x hedit)

theorem Edits.head (hedit : Edit a b) (h : Edits n b c) : Edits (n + 1) a c := by
  induction h with
  | refl b => exact .tail (.refl a) hedit
  | tail _ hlast ih => exact .tail (ih hedit) hlast

theorem edits_zero_iff : Edits 0 a b ↔ a = b := by
  constructor
  · intro h
    cases h
    rfl
  · rintro rfl
    exact .refl a

namespace Alignment

theorem edits (h : Alignment n a b) : Edits n a b := by
  induction h with
  | nil => exact .refl []
  | keep c _ ih => exact ih.cons c
  | change c d _ ih => exact .head (.substitution c d _) (ih.cons d)
  | drop c _ ih => exact .head (.deletion c _) ih
  | add d _ ih => exact .tail ih (.insertion d _)

theorem refl (a : List Char) : Alignment 0 a a := by
  induction a with
  | nil => exact .nil
  | cons c a ih => exact .keep c ih

theorem append (h : Alignment m a b) {a' b' : List Char} (h' : Alignment n a' b') :
    Alignment (m + n) (a ++ a') (b ++ b') := by
  induction h with
  | nil => simpa using h'
  | keep c _ ih => exact .keep c ih
  | change c d _ ih => rw [Nat.add_right_comm]; exact .change c d ih
  | drop c _ ih => rw [Nat.add_right_comm]; exact .drop c ih
  | add d _ ih => rw [Nat.add_right_comm]; exact .add d ih

theorem reverse (h : Alignment n a b) : Alignment n a.reverse b.reverse := by
  induction h with
  | nil => exact .nil
  | keep c _ ih => simpa using ih.append (.keep c .nil)
  | change c d _ ih => simpa using ih.append (.change c d .nil)
  | drop c _ ih => simpa using ih.append (.drop c .nil)
  | add d _ ih => simpa using ih.append (.add d .nil)

/-- An alignment with nothing drops all characters. -/
theorem dropAll (a : List Char) : Alignment a.length a [] := by
  induction a with
  | nil => exact .nil
  | cons c a ih => exact .drop c ih

theorem symm (h : Alignment n a b) : Alignment n b a := by
  induction h with
  | nil => exact .nil
  | keep c _ ih => exact .keep c ih
  | change c d _ ih => exact .change d c ih
  | drop c _ ih => exact .add c ih
  | add d _ ih => exact .drop d ih

theorem length_le (h : Alignment n a b) : a.length ≤ b.length + n := by
  induction h with
  | nil => exact Nat.le_refl 0
  | keep c _ ih | change c d _ ih | drop c _ ih | add d _ ih =>
    simp only [List.length_cons]
    omega

/-- The columns up to the first character of the second text can be split off. -/
theorem exists_split {x : Char} (h : Alignment n a (x :: b)) :
    ∃ k l front back, k + l = n ∧ front ++ back = a ∧
      Alignment k front [x] ∧ Alignment l back b := by
  generalize hb : x :: b = b' at h
  induction h with
  | nil => cases hb
  | @keep n a _ c h =>
    obtain ⟨rfl, rfl⟩ := List.cons.inj hb
    exact ⟨0, n, [x], a, Nat.zero_add n, rfl, .keep x .nil, h⟩
  | @change n a _ c d h =>
    obtain ⟨rfl, rfl⟩ := List.cons.inj hb
    exact ⟨1, n, [c], a, Nat.add_comm 1 n, rfl, .change c x .nil, h⟩
  | drop c _ ih =>
    obtain ⟨k, l, front, back, rfl, rfl, hfront, hback⟩ := ih hb
    exact ⟨k + 1, l, c :: front, back, Nat.add_right_comm k 1 l, rfl, .drop c hfront, hback⟩
  | @add n a _ d h =>
    obtain ⟨rfl, rfl⟩ := List.cons.inj hb
    exact ⟨1, n, [], a, Nat.add_comm 1 n, rfl, .add x .nil, h⟩

/-- One more edit costs at most one more column. -/
theorem exists_of_edit (h : Alignment n a b) (hedit : Edit b c) :
    ∃ m ≤ n + 1, Alignment m a c := by
  induction hedit generalizing n a with
  | insertion x b => exact ⟨n + 1, le_rfl, .add x h⟩
  | deletion x b =>
    obtain ⟨k, l, front, back, rfl, rfl, hfront, hback⟩ := h.exists_split
    -- What was opposite to the character or in front of that is left without an opposite.
    have hle : front.length ≤ 1 + k := hfront.length_le
    exact ⟨front.length + l, by omega, (dropAll front).append hback⟩
  | substitution x y b =>
    obtain ⟨k, l, front, back, rfl, rfl, hfront, hback⟩ := h.exists_split
    -- The new character takes the place of one in front, if there is one to be had.
    cases front with
    | nil =>
      have hpos : 1 ≤ 0 + k := hfront.symm.length_le
      exact ⟨1 + l, by omega, .append (.add y .nil) hback⟩
    | cons z front =>
      have hle : front.length + 1 ≤ 1 + k := hfront.length_le
      exact ⟨front.length + 1 + l, by omega, .append (.change z y (dropAll front)) hback⟩
  | later x _ ih =>
    obtain ⟨k, l, front, back, rfl, rfl, hfront, hback⟩ := h.exists_split
    obtain ⟨m, hm, h⟩ := ih hback
    exact ⟨k + m, by omega, hfront.append h⟩

end Alignment

theorem Edits.exists_alignment (h : Edits n a b) : ∃ m ≤ n, Alignment m a b := by
  induction h with
  | refl a => exact ⟨0, le_rfl, .refl a⟩
  | tail _ hedit ih =>
    obtain ⟨m, hm, h⟩ := ih
    obtain ⟨k, hk, h⟩ := h.exists_of_edit hedit
    exact ⟨k, by omega, h⟩

/-! ## The least cost -/

/-- The least cost of an alignment. -/
def cost : List Char → List Char → Nat
  | [], b => b.length
  | _ :: a, [] => a.length + 1
  | c :: a, d :: b =>
    min (min (cost a b + if c = d then 0 else 1) (cost a (d :: b) + 1)) (cost (c :: a) b + 1)

theorem cost_nil_left (b : List Char) : cost [] b = b.length := by rw [cost]

theorem cost_nil_right (a : List Char) : cost a [] = a.length := by
  cases a <;> simp [cost]

/-- The least cost is the cost of an alignment. -/
theorem alignment_cost (a b : List Char) : Alignment (cost a b) a b := by
  induction a generalizing b with
  | nil =>
    rw [cost_nil_left]
    exact (Alignment.dropAll b).symm
  | cons c a ih =>
    induction b with
    | nil =>
      rw [cost_nil_right]
      exact Alignment.dropAll (c :: a)
    | cons d b ihb =>
      have hboth : Alignment (cost a b + if c = d then 0 else 1) (c :: a) (d :: b) := by
        split
        · rename_i heq
          rw [heq]
          exact .keep d (ih b)
        · exact .change c d (ih b)
      have hdrop : Alignment (cost a (d :: b) + 1) (c :: a) (d :: b) := .drop c (ih _)
      have hadd : Alignment (cost (c :: a) b + 1) (c :: a) (d :: b) := .add d ihb
      rw [cost]
      exact min_rec' (fun n ↦ Alignment n _ _) (min_rec' (fun n ↦ Alignment n _ _) hboth hdrop) hadd

theorem cost_cons_left_le (c : Char) (a b : List Char) : cost (c :: a) b ≤ cost a b + 1 := by
  cases b with
  | nil => rw [cost, cost_nil_right]
  | cons d b =>
    rw [cost]
    exact (min_le_left _ _).trans (min_le_right _ _)

theorem cost_cons_right_le (a : List Char) (d : Char) (b : List Char) :
    cost a (d :: b) ≤ cost a b + 1 := by
  cases a with
  | nil => rw [cost, cost, List.length_cons]
  | cons c a =>
    rw [cost]
    exact min_le_right _ _

theorem cost_cons_cons_le (c d : Char) (a b : List Char) :
    cost (c :: a) (d :: b) ≤ cost a b + if c = d then 0 else 1 := by
  rw [cost]
  exact (min_le_left _ _).trans (min_le_left _ _)

theorem Alignment.cost_le (h : Alignment n a b) : cost a b ≤ n := by
  induction h with
  | nil => exact (cost_nil_left []).le
  | @keep n a b c _ ih =>
    have hstep := cost_cons_cons_le c c a b
    rw [if_pos rfl] at hstep
    exact hstep.trans ih
  | @change n a b c d _ ih =>
    have hstep := cost_cons_cons_le c d a b
    split at hstep <;> omega
  | @drop n a b c _ ih => exact (cost_cons_left_le c a b).trans (Nat.succ_le_succ ih)
  | @add n a b d _ ih => exact (cost_cons_right_le a d b).trans (Nat.succ_le_succ ih)

/-- Reversing both texts reverses their alignments, which costs nothing. -/
theorem cost_reverse (a b : List Char) : cost a.reverse b.reverse = cost a b := by
  refine le_antisymm (alignment_cost a b).reverse.cost_le ?_
  simpa using (alignment_cost a.reverse b.reverse).reverse.cost_le

theorem cost_comm (a b : List Char) : cost a b = cost b a :=
  le_antisymm (alignment_cost b a).symm.cost_le (alignment_cost a b).symm.cost_le

/-- An alignment of so little cost exists if so few edits suffice. -/
theorem cost_le_iff : cost a b ≤ n ↔ ∃ m ≤ n, Edits m a b := by
  constructor
  · exact fun h ↦ ⟨_, h, (alignment_cost a b).edits⟩
  · rintro ⟨m, hm, h⟩
    obtain ⟨k, hk, h⟩ := h.exists_alignment
    exact h.cost_le.trans (hk.trans hm)

/-! ## Rows -/

open EditDistance

/-- The row of a text, which is read from its end. -/
def rowOf (a b : List Char) : List Nat := b.inits.map fun front ↦ cost a front.reverse

theorem length_rowOf (a b : List Char) : (rowOf a b).length = b.length + 1 := by
  rw [rowOf, List.length_map, List.length_inits]

theorem getElem?_rowOf (a front rest : List Char) :
    (rowOf a (front ++ rest))[front.length]? = some (cost a front.reverse) := by
  have hlt : front.length < (front ++ rest).inits.length := by
    rw [List.length_inits, List.length_append]
    omega
  rw [rowOf, List.getElem?_map, List.getElem?_eq_getElem hlt, List.getElem_inits,
    List.take_left, Option.map_some]

theorem getElem?_rowOf_succ (a front : List Char) (d : Char) (rest : List Char) :
    (rowOf a (front ++ d :: rest))[front.length + 1]? = some (cost a (d :: front.reverse)) := by
  simpa using getElem?_rowOf a (front ++ [d]) rest

/-- The entries of a row are right up to a place. Those behind it may be left over from an older
row. -/
structure RightUpTo (place : Nat) (row full : List Nat) : Prop where
  /-- The row has the right length. -/
  length_eq : row.length = full.length
  /-- The entries up to the place are right. -/
  getElem?_eq : ∀ i ≤ place, row[i]? = full[i]?

namespace RightUpTo

variable {place : Nat} {row full : List Nat}

theorem eq (h : RightUpTo place row full) (hend : full.length ≤ place + 1) : row = full := by
  refine List.ext_getElem? fun i ↦ ?_
  by_cases hi : i ≤ place
  · exact h.getElem?_eq i hi
  · rw [List.getElem?_eq_none (by rw [h.length_eq]; omega), List.getElem?_eq_none (by omega)]

/-- The entry at the next place is written. -/
theorem exists_overwrite? {entry : Nat} (h : RightUpTo place row full)
    (hentry : full[place + 1]? = some entry) :
    ∃ row', overwrite? row (place + 1) entry = some row' ∧ RightUpTo (place + 1) row' full := by
  have hlt : place + 1 < row.length := by
    rw [h.length_eq]
    exact (List.getElem?_eq_some_iff.mp hentry).1
  refine ⟨row.set (place + 1) entry, if_pos hlt, ?_, ?_⟩
  · rw [List.length_set, h.length_eq]
  · intro i hi
    by_cases hlast : i = place + 1
    · rw [hlast, List.getElem?_set_self hlt, hentry]
    · rw [List.getElem?_set_ne (Ne.symm hlast)]
      exact h.getElem?_eq i (by omega)

end RightUpTo

/-- Once the entries for the front are right, those for the rest get right, whatever stood there. -/
theorem fillBehind?_rowOf {c : Char} {a front rest : List Char} {row : List Nat}
    (h : RightUpTo front.length row (rowOf (c :: a) (front ++ rest))) :
    fillBehind? c (rowOf a (front ++ rest)) front.length rest row =
      some (rowOf (c :: a) (front ++ rest)) := by
  induction rest generalizing front row with
  | nil =>
    have hrow : row = rowOf (c :: a) (front ++ []) :=
      h.eq (by rw [length_rowOf, List.append_nil])
    rw [fillBehind?, hrow]
  | cons d rest ih =>
    have hleft : row[front.length]? = some (cost (c :: a) front.reverse) := by
      rw [h.getElem?_eq _ le_rfl, getElem?_rowOf]
    obtain ⟨row', hrow', h'⟩ := h.exists_overwrite? (getElem?_rowOf_succ (c :: a) front d rest)
    -- The next entry is what the recursion for the cost makes of its three neighbours.
    have hentry : min (min (cost a front.reverse + if c = d then 0 else 1)
        (cost a (d :: front.reverse) + 1)) (cost (c :: a) front.reverse + 1) =
          cost (c :: a) (d :: front.reverse) := by rw [cost]
    have hnext := @ih (front ++ [d]) row'
    rw [List.length_append, List.append_assoc] at hnext
    rw [fillBehind?, getElem?_rowOf, getElem?_rowOf_succ, hleft]
    simp only [Option.bind_eq_bind, Option.bind_some, hentry, hrow']
    exact hnext h'

/-- Reading a character turns the row of what has been read into the next one. -/
theorem next?_rowOf (b read : List Char) (c : Char) {spare : List Nat}
    (hspare : spare.length = b.length + 1) :
    Rows.next? b read.length c ⟨rowOf read b, spare⟩ =
      some ⟨rowOf (c :: read) b, rowOf read b⟩ := by
  have hcorner : (rowOf (c :: read) b)[0]? = some (read.length + 1) := by
    have hfirst := getElem?_rowOf (c :: read) [] b
    rwa [List.reverse_nil, cost_nil_right] at hfirst
  have hwritten : overwrite? spare 0 (read.length + 1) = some (spare.set 0 (read.length + 1)) :=
    if_pos (by omega)
  have hright : RightUpTo 0 (spare.set 0 (read.length + 1)) (rowOf (c :: read) b) := by
    refine ⟨by rw [List.length_set, hspare, length_rowOf], fun i hi ↦ ?_⟩
    obtain rfl := Nat.le_zero.mp hi
    rw [hcorner, List.getElem?_set_self (by omega)]
  have hfilled : fillBehind? c (rowOf read b) 0 b (spare.set 0 (read.length + 1)) =
      some (rowOf (c :: read) b) := @fillBehind?_rowOf c read [] b _ hright
  rw [Rows.next?, hwritten]
  simp only [Option.bind_eq_bind, Option.bind_some, hfilled]
  rfl

/-- The rows stay those of the text that was read up to them. -/
theorem readFrom?_rowOf (b rest read : List Char) {spare : List Nat}
    (hspare : spare.length = b.length + 1) :
    ∃ spare', Rows.readFrom? b read.length rest ⟨rowOf read b, spare⟩ =
      some ⟨rowOf (rest.reverse ++ read) b, spare'⟩ := by
  induction rest generalizing read spare with
  | nil => exact ⟨spare, rfl⟩
  | cons c rest ih =>
    obtain ⟨spare', hrest⟩ := ih (c :: read) (length_rowOf read b)
    refine ⟨spare', ?_⟩
    rw [Rows.readFrom?, next?_rowOf b read c hspare]
    simpa using hrest

theorem first_eq_rowOf (b : List Char) :
    Rows.first b = ⟨rowOf [] b, List.replicate (b.length + 1) 0⟩ := by
  have hrow : List.range (b.length + 1) = rowOf [] b := by
    refine List.ext_getElem (by rw [List.length_range, length_rowOf]) fun i hi _ ↦ ?_
    rw [List.length_range] at hi
    simp only [rowOf, List.getElem_range, List.getElem_map, List.getElem_inits, cost_nil_left,
      List.length_reverse, List.length_take]
    omega
  rw [Rows.first, hrow]

/-- Every place that is looked up or written to is in its row. -/
theorem editDistance?_eq (a b : List Char) : editDistance? a b = some (cost a b) := by
  obtain ⟨spare, hread⟩ := readFrom?_rowOf b a [] (List.length_replicate (a := 0))
  have hlast := getElem?_rowOf a.reverse b []
  rw [List.append_nil, List.length_nil] at hread
  rw [List.append_nil, cost_reverse] at hlast
  rw [editDistance?, first_eq_rowOf, hread]
  exact hlast

theorem editDistance_eq_cost (a b : List Char) : editDistance a b = cost a b := by
  rw [editDistance, editDistance?_eq, Option.getD_some]

/-- What is computed is the least number of edits. -/
theorem editDistance_le_iff : editDistance a b ≤ n ↔ ∃ m ≤ n, Edits m a b := by
  rw [editDistance_eq_cost, cost_le_iff]

theorem editDistance_eq_zero_iff : editDistance a b = 0 ↔ a = b := by
  constructor
  · intro hzero
    obtain ⟨m, hm, hedits⟩ := editDistance_le_iff.mp (Nat.le_zero.mpr hzero)
    rw [Nat.le_zero.mp hm] at hedits
    exact edits_zero_iff.mp hedits
  · rintro rfl
    exact Nat.le_zero.mp (editDistance_le_iff.mpr ⟨0, le_rfl, .refl a⟩)

/-- **The distance is the least number of edits.** For no two texts is an entry looked up or written
at a place that its row does not have. The result is the least number of insertions, deletions and
substitutions of single characters that turn the one text into the other. So it is the same both
ways, and zero for equal texts only. -/
theorem editDistance_isLeast (a b : List Char) :
    editDistance? a b = some (editDistance a b) ∧
      IsLeast {n | Edits n a b} (editDistance a b) ∧
      editDistance b a = editDistance a b ∧
      (editDistance a b = 0 ↔ a = b) := by
  have hcomputed : editDistance? a b = some (editDistance a b) := by
    rw [editDistance?_eq, editDistance_eq_cost]
  have hreached : Edits (editDistance a b) a b := by
    rw [editDistance_eq_cost]
    exact (alignment_cost a b).edits
  have hcomm : editDistance b a = editDistance a b := by
    rw [editDistance_eq_cost, editDistance_eq_cost, cost_comm]
  refine ⟨hcomputed, ⟨hreached, ?_⟩, hcomm, editDistance_eq_zero_iff⟩
  intro n hn
  exact editDistance_le_iff.mpr ⟨n, le_rfl, hn⟩

-- Two letters that change places are no single edit.
example : editDistance "icontian".toList "icontain".toList = 2 := by
  decide

end Text

end RecordQuery
