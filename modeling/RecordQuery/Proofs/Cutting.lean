import RecordQuery.Text.Pieces

/-!
# Cutting texts

What it is to cut a text is said here without a way of doing it. A text in which the delimiter does
not occur is in one piece. Any other is cut at the first occurrence, and what stands behind it is
cut likewise. A text can be cut in one way only, and this way is the one in which pieces are found
character by character. Putting the delimiter back between the pieces restores the text.

Joining pieces and cutting the result does not always find the pieces again, as the delimiter may be
met earlier than it was put. Where it is not, is settled piece by piece.
-/

namespace RecordQuery

namespace Text

/-- The delimiter cuts a text into pieces, from the left and without overlap. -/
inductive Splits (d : List Char) : List Char → List (List Char) → Prop
  /-- The delimiter does not occur. -/
  | whole {cs : List Char} (h : ¬d <:+: cs) : Splits d cs [cs]
  /-- The delimiter first occurs behind a piece, and what stands behind it is cut likewise. -/
  | cut {cs front rest : List Char} {pieces : List (List Char)} (hcs : cs = front ++ d ++ rest)
      (hfirst : ∀ before after, cs = before ++ d ++ after → front.length ≤ before.length)
      (h : Splits d rest pieces) : Splits d cs (front :: pieces)

namespace Splits

variable {d cs : List Char} {pieces pieces' : List (List Char)}

theorem ne_nil (h : Splits d cs pieces) : pieces ≠ [] := by
  cases h <;> simp

/-- There is only one way to cut a text. -/
theorem unique (h : Splits d cs pieces) (h' : Splits d cs pieces') : pieces = pieces' := by
  induction h generalizing pieces' with
  | whole hnot =>
    cases h' with
    | whole => rfl
    | @cut _ front rest _ hcs _ _ => exact absurd ⟨front, rest, hcs.symm⟩ hnot
  | @cut cs front rest _ hcs hfirst _ ih =>
    cases h' with
    | whole hnot => exact absurd ⟨front, rest, hcs.symm⟩ hnot
    | @cut _ front' rest' _ hcs' hfirst' h' =>
      -- Neither of the two first cuts is made later than the other.
      have hlength : front.length = front'.length :=
        Nat.le_antisymm (hfirst front' rest' hcs') (hfirst' front rest hcs)
      rw [hcs, List.append_assoc, List.append_assoc] at hcs'
      obtain ⟨rfl, hrest⟩ := List.append_inj hcs' hlength
      obtain rfl := List.append_cancel_left hrest
      rw [ih h']

/-- Nothing of a text is lost but the delimiters between the pieces. -/
theorem intercalate_eq (h : Splits d cs pieces) : d.intercalate pieces = cs := by
  induction h with
  | whole => exact List.intercalate_singleton
  | cut hcs _ h ih =>
    rw [List.intercalate_cons_of_ne_nil h.ne_nil, ih, hcs, List.append_assoc]

theorem not_infix_of_mem (hd : d ≠ []) (h : Splits d cs pieces) {piece : List Char}
    (hp : piece ∈ pieces) : ¬d <:+: piece := by
  induction h with
  | whole hnot => rwa [List.mem_singleton.mp hp]
  | @cut cs front rest _ hcs hfirst _ ih =>
    rcases List.mem_cons.mp hp with rfl | hp
    · -- An occurrence within a piece would begin before the cut behind it.
      rintro ⟨before, after, hpiece⟩
      have hle : piece.length ≤ before.length :=
        hfirst before (after ++ d ++ rest) (by rw [hcs, ← hpiece]; simp)
      have hlength := congrArg List.length hpiece
      have hpos := List.length_pos_iff.mpr hd
      rw [List.length_append, List.length_append] at hlength
      omega
    · exact ih hp

/-- A further character in front belongs to the first piece, unless the delimiter begins with it. -/
theorem extendFirst {c : Char} (h : Splits d cs pieces) (hc : ¬d <+: c :: cs) :
    Splits d (c :: cs) (extendFirst c pieces) := by
  cases h with
  | whole hnot =>
    refine .whole fun hinfix ↦ ?_
    rcases List.infix_cons_iff.mp hinfix with hprefix | hinfix
    · exact hc hprefix
    · exact hnot hinfix
  | @cut _ front rest _ hcs hfirst h =>
    refine .cut (by rw [hcs]; rfl) (fun before after heq ↦ ?_) h
    cases before with
    | nil => exact absurd ⟨after, heq.symm⟩ hc
    | cons b before =>
      obtain ⟨-, heq⟩ := List.cons.inj heq
      exact Nat.succ_le_succ (hfirst before after heq)

end Splits

/-- Pieces are found by cutting. Characters that are dropped are those of a delimiter whose
occurrence has just begun. -/
theorem splits_piecesAfter {d : List Char} (hd : d ≠ []) (dropped : Nat) (cs : List Char) :
    Splits d (cs.drop dropped) (piecesAfter d dropped cs) := by
  fun_induction piecesAfter d dropped cs with
  | case1 dropped =>
    rw [List.drop_nil]
    exact .whole fun h ↦ hd (List.eq_nil_of_infix_nil h)
  | case2 dropped c rest ih => exact ih
  | case3 c rest hprefix ih =>
    obtain ⟨tail, htail⟩ := List.isPrefixOf_iff_prefix.mp hprefix
    have hdrop : rest.drop (d.length - 1) = tail := by
      have hpos := List.length_pos_iff.mpr hd
      rw [← List.drop_succ_cons (a := c), ← htail, Nat.sub_add_cancel hpos, List.drop_left]
    rw [hdrop] at ih
    exact .cut htail.symm (fun _ _ _ ↦ Nat.zero_le _) ih
  | case4 c rest hprefix ih =>
    exact ih.extendFirst fun h ↦ hprefix (List.isPrefixOf_iff_prefix.mpr h)

theorem pieces_eq_iff {d cs : List Char} (hd : d ≠ []) {parts : List (List Char)} :
    pieces d cs = parts ↔ Splits d cs parts := by
  have hsplits : Splits d cs (pieces d cs) := by
    rw [pieces, if_neg (by simpa using hd)]
    exact splits_piecesAfter hd 0 cs
  constructor
  · rintro rfl
    exact hsplits
  · exact hsplits.unique

/-- An empty delimiter also stands before all characters, so the first piece is empty. -/
theorem nil_mem_pieces_nil (cs : List Char) : [] ∈ pieces [] cs := List.mem_cons_self

/-! ## Joining -/

/-- A delimiter that is put behind a text occurs nowhere before: neither within the text nor across
its end. -/
def FirstBehind (d cs : List Char) : Prop :=
  ∀ before after, cs ++ d = before ++ d ++ after → cs.length ≤ before.length

namespace FirstBehind

variable {d cs : List Char}

/-- What stands behind the delimiter does not matter. -/
theorem length_le (h : FirstBehind d cs) {rest before after : List Char}
    (heq : cs ++ d ++ rest = before ++ d ++ after) : cs.length ≤ before.length := by
  refine Nat.le_of_not_lt fun hlt ↦ ?_
  have hle : (before ++ d).length ≤ (cs ++ d).length := by
    rw [List.length_append, List.length_append]
    omega
  -- An occurrence that begins within the text ends before the delimiter does.
  have hprefix : before ++ d <+: cs ++ d :=
    List.prefix_of_prefix_length_le ⟨after, rfl⟩ ⟨rest, heq⟩ hle
  obtain ⟨after', hafter⟩ := hprefix
  exact Nat.not_lt.mpr (h before after' hafter.symm) hlt

theorem not_isInfix (hd : d ≠ []) (h : FirstBehind d cs) : ¬d <:+: cs := by
  rintro ⟨before, after, rfl⟩
  have hle := h before (after ++ d) (by simp)
  have hpos := List.length_pos_iff.mpr hd
  rw [List.length_append, List.length_append] at hle
  omega

/-- A text that has no character of the delimiter cannot meet it. -/
theorem of_disjoint (hd : d ≠ []) (h : ∀ c ∈ cs, c ∉ d) : FirstBehind d cs := by
  intro before after heq
  rw [List.append_assoc, List.append_eq_append_iff] at heq
  rcases heq with ⟨front, rfl, -⟩ | ⟨overlap, rfl, heq⟩
  · rw [List.length_append]
    omega
  · cases overlap with
    | nil => simp
    | cons c overlap =>
      obtain ⟨c', d', rfl⟩ := List.exists_cons_of_ne_nil hd
      obtain ⟨rfl, -⟩ := List.cons.inj heq
      exact absurd List.mem_cons_self (h _ (by simp))

end FirstBehind

/-- Behind the first of several pieces stands the delimiter, which is met first there. -/
theorem Splits.exists_of_cons {d cs front : List Char} {pieces : List (List Char)}
    (hne : pieces ≠ []) (h : Splits d cs (front :: pieces)) :
    ∃ rest, cs = front ++ d ++ rest ∧ FirstBehind d front ∧ Splits d rest pieces := by
  cases h with
  | whole => exact absurd rfl hne
  | @cut _ _ rest _ hcs hfirst h =>
    refine ⟨rest, hcs, fun before after heq ↦ hfirst before (after ++ rest) ?_, h⟩
    rw [hcs, heq, List.append_assoc]

/-- Cutting undoes joining exactly if the delimiter is met first behind each piece, and not within
the last. -/
theorem splits_intercalate_iff {d : List Char} (hd : d ≠ []) (init : List (List Char))
    (last : List Char) : Splits d (d.intercalate (init ++ [last])) (init ++ [last]) ↔
      (∀ piece ∈ init, FirstBehind d piece) ∧ ¬d <:+: last := by
  induction init with
  | nil =>
    rw [List.nil_append, List.intercalate_singleton]
    constructor
    · exact fun h ↦ ⟨nofun, h.not_infix_of_mem hd List.mem_cons_self⟩
    · exact fun h ↦ .whole h.2
  | cons front init ih =>
    have hne : init ++ [last] ≠ [] := by simp
    have hjoin : d.intercalate (front :: (init ++ [last])) =
        front ++ d ++ d.intercalate (init ++ [last]) := by
      rw [List.intercalate_cons_of_ne_nil hne, List.append_assoc]
    rw [List.cons_append, hjoin, List.forall_mem_cons, and_assoc, ← ih]
    constructor
    · intro h
      obtain ⟨rest, hcs, hfront, h⟩ := h.exists_of_cons hne
      obtain rfl := List.append_cancel_left hcs
      exact ⟨hfront, h⟩
    · exact fun ⟨hfront, h⟩ ↦ .cut rfl (fun _ _ ↦ hfront.length_le) h

/-- Whether a delimiter is met first behind a text can be found out by cutting. -/
theorem firstBehind_iff_pieces {d cs : List Char} (hd : d ≠ []) :
    FirstBehind d cs ↔ pieces d (cs ++ d) = [cs, []] := by
  have h := splits_intercalate_iff hd [cs] []
  simp only [List.intercalate, List.forall_mem_singleton, List.infix_nil, hd] at h
  rw [pieces_eq_iff hd]
  simpa using h.symm

end Text

end RecordQuery
