import Mathlib.Logic.Relation
import RecordQuery.Proofs.Equality

/-!
# Equality and rearrangement

Equality of well-formed values is symmetric and transitive. What it lacks of an equivalence is due
to what is not a number, and to nothing else: a value equals itself exactly if every number within
it is one. Such a value also equals whatever it becomes when the fields of its records, at any
depth, are put into another order.

The order of fields is changed here in one record at a time, as often as one likes. That is as
general as changing it everywhere at once, and leaves all other parts of a value untouched.
-/

namespace RecordQuery

namespace Value

/-! ## Values that equal themselves -/

theorem sequence_same_self_iff {xs : List Value} :
    (Value.sequence xs).same (.sequence xs) = true ↔ ∀ x ∈ xs, x.same x = true := by
  rw [same_sequence, sameItems_iff, List.forall₂_same]

/-- Records are equal if each field of one is a field of the other, with an equal value. -/
theorem record_same_of_entries {r s : Record} (hs : s.keys.Nodup) (hsize : r.size = s.size)
    (h : ∀ e ∈ r.entries, ∃ y, (e.1, y) ∈ s.entries ∧ e.2.same y = true) :
    (Value.record r).same (.record s) = true := by
  refine Record.same_iff_entries.mpr ⟨hsize, fun e he ↦ ?_⟩
  obtain ⟨y, hy, hsame⟩ := h e he
  exact ⟨y, (OrderedMap.lookup_eq_some_iff_mem hs).mpr hy, hsame⟩

theorem record_same_self_iff {r : Record} (hr : r.keys.Nodup) :
    (Value.record r).same (.record r) = true ↔ ∀ e ∈ r.entries, e.2.same e.2 = true := by
  constructor
  · intro h e he
    obtain ⟨y, hget, hsame⟩ := (Record.same_iff_entries.mp h).2 e he
    -- Under the name of a field nothing but the field itself is found.
    have hself : r.get? e.1 = some e.2 := (OrderedMap.lookup_eq_some_iff_mem hr).mpr he
    have hy : y = e.2 := Option.some.inj (hget.symm.trans hself)
    rw [hy] at hsame
    exact hsame
  · exact fun h ↦ record_same_of_entries hr rfl fun e he ↦ ⟨e.2, he, h e he⟩

/-- A value equals itself exactly if all numbers within it are numbers. -/
theorem same_self_iff {v : Value} (hv : v.WellFormed) :
    v.same v = true ↔ v.EachNumber (· ≠ .float .nan) := by
  induction hv with
  | null => simp
  | bool b => simp
  | number n => rw [same_number, Number.sameValue_self_iff, eachNumber_number_iff]
  | text s => simp
  | sequence _ ih =>
    rw [sequence_same_self_iff, eachNumber_sequence_iff]
    exact forall₂_congr ih
  | @record r hkeys _ ih =>
    rw [record_same_self_iff hkeys, eachNumber_record_iff, OrderedMap.values, List.forall_mem_map]
    exact forall₂_congr fun e he ↦ ih e.2 (List.mem_map_of_mem he)

/-! ## Rearranging -/

/-- The fields of one record within a value are put into another order. -/
inductive Reorders : Value → Value → Prop
  /-- The record is the value itself. -/
  | here {r s : Record} (h : r.entries.Perm s.entries) : Reorders (.record r) (.record s)
  /-- The record is within an item of a sequence. -/
  | item {v w : Value} (front back : List Value) (h : Reorders v w) :
    Reorders (.sequence (front ++ v :: back)) (.sequence (front ++ w :: back))
  /-- The record is within a field of a record. -/
  | field {v w : Value} (front back : List (String × Value)) (name : String) (h : Reorders v w) :
    Reorders (.record ⟨front ++ (name, v) :: back⟩) (.record ⟨front ++ (name, w) :: back⟩)

/-- The fields of records within a value are put into other orders. -/
def Rearranges : Value → Value → Prop := Relation.ReflTransGen Reorders

variable {v w : Value}

theorem Reorders.wellFormed (h : Reorders v w) (hv : v.WellFormed) : w.WellFormed := by
  induction h with
  | @here r s h =>
    obtain ⟨hkeys, hvalues⟩ := wellFormed_record_iff.mp hv
    refine wellFormed_record_iff.mpr ⟨(h.map Prod.fst).nodup_iff.mp hkeys, fun x hx ↦ ?_⟩
    exact hvalues x ((h.map Prod.snd).mem_iff.mpr hx)
  | item front back _ ih =>
    simp only [wellFormed_sequence_iff, List.forall_mem_append, List.forall_mem_cons] at hv ⊢
    exact ⟨hv.1, ih hv.2.1, hv.2.2⟩
  | field front back name _ ih =>
    simp only [wellFormed_record_iff, OrderedMap.keys, OrderedMap.values, List.map_append,
      List.map_cons, List.forall_mem_append, List.forall_mem_cons] at hv ⊢
    exact ⟨hv.1, hv.2.1, ih hv.2.2.1, hv.2.2.2⟩

/-- A value that equals itself also equals what it is after one record has been reordered. -/
theorem Reorders.same (h : Reorders v w) (hv : v.WellFormed) (hself : v.same v = true) :
    v.same w = true := by
  have hw := h.wellFormed hv
  induction h with
  | @here r s h =>
    have hself := (record_same_self_iff (OrderedMap.WellFormed.nodup_keys hv)).mp hself
    refine record_same_of_entries (OrderedMap.WellFormed.nodup_keys hw) h.length_eq fun e he ↦ ?_
    exact ⟨e.2, h.mem_iff.mp he, hself e he⟩
  | @item x y front back _ ih =>
    have hx : x ∈ front ++ x :: back := by simp
    have hy : y ∈ front ++ y :: back := by simp
    have hself := sequence_same_self_iff.mp hself
    have hxy := ih (hv.of_mem_sequence hx) (hself x hx) (hw.of_mem_sequence hy)
    rw [List.forall_mem_append, List.forall_mem_cons] at hself
    rw [same_sequence, sameItems_iff]
    exact List.rel_append (List.forall₂_same.mpr hself.1)
      (.cons hxy (List.forall₂_same.mpr hself.2.2))
  | @field x y front back name _ ih =>
    have hself := (record_same_self_iff (OrderedMap.WellFormed.nodup_keys hv)).mp hself
    rw [wellFormed_record_iff, OrderedMap.values, List.forall_mem_map] at hv hw
    have hx : (name, x) ∈ front ++ (name, x) :: back := by simp
    have hy : (name, y) ∈ front ++ (name, y) :: back := by simp
    have hxy := ih (hv.2 _ hx) (hself _ hx) (hw.2 _ hy)
    refine record_same_of_entries hw.1 (by simp [OrderedMap.size]) fun e he ↦ ?_
    rcases List.mem_append.mp he with hfront | hback
    · exact ⟨e.2, List.mem_append_left _ hfront, hself e he⟩
    · rcases List.mem_cons.mp hback with rfl | hback
      · exact ⟨y, hy, hxy⟩
      · exact ⟨e.2, List.mem_append_right _ (List.mem_cons_of_mem _ hback), hself e he⟩

/-- However often records are reordered, the value stays equal to what it was. -/
theorem Rearranges.alike (h : Rearranges v w) (hv : v.WellFormed) (hself : v.same v = true) :
    v.Alike w := by
  induction h with
  | refl => exact ⟨hv, hv, hself⟩
  | tail _ hstep ih =>
    -- What equals a value equals itself, so that the next step can be taken from it.
    have hmiddle := ih.symm.trans ih
    have hlast := hstep.wellFormed hmiddle.left
    exact ih.trans ⟨hmiddle.left, hlast, hstep.same hmiddle.left hmiddle.same⟩

/-! ## The laws -/

/-- **Equality of values is an equivalence except for what is not a number.** Between values in
which no record repeats a name it is symmetric and transitive. A value equals itself exactly if
each number within it is one, and if it does, it also equals all of its rearrangements. -/
theorem same_partial_equivalence :
    (∀ v w : Value, v.WellFormed → w.WellFormed → v.same w = true → w.same v = true) ∧
    (∀ u v w : Value, u.WellFormed → v.WellFormed → w.WellFormed →
      u.same v = true → v.same w = true → u.same w = true) ∧
    (∀ v : Value, v.WellFormed → (v.same v = true ↔ v.EachNumber (· ≠ .float .nan))) ∧
    (∀ v w : Value, v.WellFormed → Rearranges v w → v.same v = true →
      w.same v = true ∧ v.same w = true) := by
  refine ⟨fun _ _ ↦ same_symm, fun _ _ _ hu _ _ ↦ same_trans hu, fun _ ↦ same_self_iff, ?_⟩
  intro v w hv h hself
  have halike := h.alike hv hself
  exact ⟨halike.symm.same, halike.same⟩

/-- A value with a number in a record in a sequence in a record. -/
def nested (n : Number) : Value := .record ⟨[
  ("name", .text "Ann"),
  ("pets", .sequence [.null, .record ⟨[("kind", .text "cat"), ("age", .number n)]⟩])]⟩

/-- The same with the fields of both records the other way round. -/
def turned (n : Number) : Value := .record ⟨[
  ("pets", .sequence [.null, .record ⟨[("age", .number n), ("kind", .text "cat")]⟩]),
  ("name", .text "Ann")]⟩

/-- Minus zero as a double equals zero as a word, wherever it stands and in any order of fields. -/
theorem same_partial_equivalence_nested :
    (nested (.signed 0)).WellFormed ∧ (turned (.signed 0)).WellFormed ∧
    Rearranges (nested (.signed 0)) (turned (.signed 0)) ∧
    (nested (.float (.zero true))).same (nested (.signed 0)) = true ∧
    (nested (.signed 0)).same (nested (.signed 0)) = true ∧
    (nested (.signed 0)).same (turned (.signed 0)) = true ∧
    (nested (.float (.zero true))).same (turned (.signed 0)) = true ∧
    (turned (.signed 0)).same (nested (.float (.zero true))) = true ∧
    ¬(nested (.float .nan)).same (nested (.float .nan)) = true := by
  have hnested (n : Number) : (nested n).WellFormed := by
    simp [nested, OrderedMap.keys, OrderedMap.values]
  have hturned : (turned (.signed 0)).WellFormed := by
    simp [turned, OrderedMap.keys, OrderedMap.values]
  have hrearranges : Rearranges (nested (.signed 0)) (turned (.signed 0)) := by
    refine .tail (.single ?_) (.here (.swap ..))
    exact .field [_] [] _ (.item [_] [] (.here (.swap ..)))
  have hfloat : (nested (.float (.zero true))).same (nested (.signed 0)) = true := by decide +kernel
  obtain ⟨hsymm, htrans, hself, hturn⟩ := same_partial_equivalence
  have hnumbers : (nested (.signed 0)).EachNumber (· ≠ .float .nan) := by
    simp [nested, OrderedMap.values]
  have hsame := (hself _ (hnested _)).mpr hnumbers
  have hboth := hturn _ _ (hnested _) hrearranges hsame
  have hmixed := htrans _ _ _ (hnested _) (hnested _) hturned hfloat hboth.2
  refine ⟨hnested _, hturned, hrearranges, hfloat, hsame, hboth.2, hmixed,
    hsymm _ _ (hnested _) hturned hmixed, fun h ↦ ?_⟩
  simpa [nested, OrderedMap.values] using (hself _ (hnested _)).mp h

end Value

end RecordQuery
