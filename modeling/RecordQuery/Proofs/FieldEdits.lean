import RecordQuery.Condition
import RecordQuery.Proofs.Ends
import RecordQuery.Proofs.Entries

/-!
# Edits of fields, seen along paths

A path that begins with a name asks a record for one field and for nothing else. So an edit of a
field shows along the paths that begin with its name, and along no others, whatever comes later in
them. Along those it shows what the field holds afterwards.

An edit within a nested record is an edit of the field that holds it. It shows along fewer paths:
only along those that go on with the name that was written there, or with a wildcard.
-/

namespace RecordQuery

/-- What a record can be after one edit of the field with a name. -/
inductive Record.EditedAt (name : String) (r : Record) : Record → Prop
  /-- A value is written into the field. -/
  | insert (v : Value) : EditedAt name r (r.insert name v)
  /-- The field is removed. -/
  | erase : EditedAt name r (r.erase name)
  /-- The value of the field, if there is one, is changed in its place. -/
  | modify (f : Value → Value) : EditedAt name r (r.modify name f)

/-- Under other names all is as before. -/
theorem Record.EditedAt.get?_eq {name other : String} {r s : Record} (h : r.EditedAt name s)
    (hne : other ≠ name) : s.get? other = r.get? other := by
  cases h with
  | insert v => rw [OrderedMap.get?_insert, if_neg hne.symm]
  | erase => exact OrderedMap.lookup_extract_of_ne hne.symm r.entries
  | modify f => rw [OrderedMap.get?_modify, if_neg hne.symm]

namespace Path

/-! ## Paths that begin with a name -/

/-- The path that consists of a name. -/
def single (name : String) : Path := ⟨[.key name], List.cons_ne_nil _ _⟩

/-- The path that follows another from the record under a name. -/
def under (name : String) (p : Path) : Path := ⟨.key name :: p.segments, List.cons_ne_nil _ _⟩

/-- What a path reaches that comes to no value: with wildcards it reaches nothing, without them it
is not found. -/
def deadEnd (p : Path) : Resolved := if p.hasAnyField then .any [] else .notFound

theorem eq_single_or_under {p : Path} {name : String} {rest : List Segment}
    (h : p.segments = .key name :: rest) :
    p = single name ∨ ∃ q, q.segments = rest ∧ p = under name q := by
  obtain ⟨segments, hne⟩ := p
  obtain rfl : segments = .key name :: rest := h
  cases rest with
  | nil => exact Or.inl rfl
  | cons s rest => exact Or.inr ⟨⟨s :: rest, List.cons_ne_nil _ _⟩, rfl, rfl⟩

theorem resolve_single (name : String) (r : Record) :
    (single name).resolve r = match r.get? name with
      | some v => .one v
      | none => .notFound := by
  change walk [.key name] r = _
  rw [walk]
  cases r.get? name <;> rfl

theorem resolve_under (name : String) (q : Path) (r : Record) :
    (under name q).resolve r = match r.get? name with
      | some (.record nested) => q.resolve nested
      | _ => q.deadEnd := by
  obtain ⟨segments, hne⟩ := q
  obtain ⟨s, rest, rfl⟩ := List.exists_cons_of_ne_nil hne
  cases hany : hasAnyField ⟨s :: rest, hne⟩ with
  | true =>
    have hunder : (under name ⟨s :: rest, hne⟩).hasAnyField = true := hany
    rw [resolve_of_hasAnyField hunder, deadEnd, if_pos hany]
    cases hget : r.get? name with
    | none => simp [under, ends, step, hget]
    | some v =>
      cases v with
      | record nested =>
        simp [under, ends, step, hget, Value.record?, resolve_of_hasAnyField hany]
      | _ => simp [under, ends, step, hget, Value.record?]
  | false =>
    have hunder : (under name ⟨s :: rest, hne⟩).hasAnyField = false := hany
    simp only [resolve, hunder, hany, deadEnd, Bool.false_eq_true, if_false]
    rw [under, walk]
    cases hget : r.get? name with
    | none => rfl
    | some v => cases v <;> rfl

/-- Of a record a path that begins with a name sees what stands under the name. -/
theorem resolve_congr {p : Path} {name : String} {rest : List Segment} {r s : Record}
    (h : p.segments = .key name :: rest) (hget : s.get? name = r.get? name) :
    p.resolve s = p.resolve r := by
  rcases eq_single_or_under h with rfl | ⟨q, -, rfl⟩
  · rw [resolve_single, resolve_single, hget]
  · rw [resolve_under, resolve_under, hget]

/-- Where there is no such name, nothing is reached. -/
theorem resolve_of_get?_eq_none {p : Path} {name : String} {rest : List Segment} {r : Record}
    (h : p.segments = .key name :: rest) (hget : r.get? name = none) :
    p.resolve r = p.deadEnd := by
  rcases eq_single_or_under h with rfl | ⟨q, -, rfl⟩
  · rw [resolve_single, hget]
    rfl
  · rw [resolve_under, hget]
    rfl

/-! ## Edits within nested records -/

/-- Writing into a nested record does not show along a path that goes on with another name. -/
theorem resolve_under_modifyRecord {q : Path} {name field second : String} {rest : List Segment}
    (h : q.segments = .key second :: rest) (hne : second ≠ field) (r : Record) (v : Value) :
    (under name q).resolve (r.modify name (Value.modifyRecord (·.insert field v))) =
      (under name q).resolve r := by
  rw [resolve_under, resolve_under, OrderedMap.get?_modify, if_pos rfl]
  cases r.get? name with
  | none => rfl
  | some w =>
    cases w with
    | record nested =>
      have hget : (nested.insert field v).get? second = nested.get? second :=
        (Record.EditedAt.insert v).get?_eq hne
      exact resolve_congr h hget
    | _ => rfl

/-- **An edit shows along the paths through the field, and along no others.** A path that begins
with another name reaches the same before and after, so that every condition on it holds as before.
A value that is written is what its name reaches; a path that goes on goes on from it if it is a
record, and comes to nothing otherwise. All paths through a field that was removed come to nothing.
Writing into a nested record does not show along paths that begin with two names, unless these are
the name of the record and the name that was written. -/
theorem resolve_after_edit (r : Record) (name : String) :
    (∀ (p : Path) first rest, p.segments = .key first :: rest → first ≠ name →
      ∀ s, r.EditedAt name s → p.resolve s = p.resolve r ∧
        ∀ c : Condition, c.path = p → c.isMatch s = c.isMatch r) ∧
    (∀ v, (single name).resolve (r.insert name v) = .one v) ∧
    (∀ q nested, (under name q).resolve (r.insert name (.record nested)) = q.resolve nested) ∧
    (∀ q v, v.record? = none → (under name q).resolve (r.insert name v) = (under name q).deadEnd) ∧
    (r.keys.Nodup → ∀ (p : Path) rest, p.segments = .key name :: rest →
      p.resolve (r.erase name) = p.deadEnd) ∧
    ∀ field v (p : Path) first second rest, p.segments = .key first :: .key second :: rest →
      ¬(first = name ∧ second = field) →
      p.resolve (r.modify name (Value.modifyRecord (·.insert field v))) = p.resolve r := by
  have hinsert (v : Value) : (r.insert name v).get? name = some v := by
    rw [OrderedMap.get?_insert, if_pos rfl]
  refine ⟨fun p first rest hp hne s hs ↦ ?_, fun v ↦ ?_, fun q nested ↦ ?_, fun q v hv ↦ ?_,
    fun hr p rest hp ↦ ?_, fun field v p first second rest hp hne ↦ ?_⟩
  · have hresolve := resolve_congr hp (hs.get?_eq hne)
    refine ⟨hresolve, ?_⟩
    rintro c rfl
    rw [Condition.isMatch, hresolve, Condition.isMatch]
  · rw [resolve_single, hinsert]
  · rw [resolve_under, hinsert]
  · rw [resolve_under, hinsert]
    cases v with
    | record nested => cases hv
    | _ => rfl
  · have hget : (r.erase name).get? name = none := by rw [OrderedMap.get?_erase hr, if_pos rfl]
    exact resolve_of_get?_eq_none hp hget
  · by_cases hfirst : first = name
    · subst hfirst
      rcases eq_single_or_under hp with rfl | ⟨q, hq, rfl⟩
      · cases hp
      · exact resolve_under_modifyRecord hq (fun hsecond ↦ hne ⟨rfl, hsecond⟩) r v
    · exact resolve_congr hp ((Record.EditedAt.modify _).get?_eq hfirst)

/-- Ann leaves the household, or only gets older. -/
theorem resolve_after_edit_household :
    resolve ⟨[.key "bob", .anyField], by decide⟩ (household.erase "ann") =
      .any [.text "Rome", .number (.signed 7)] ∧
    (single "ann").resolve (household.insert "ann" .null) = .one .null ∧
    (under "ann" (single "age")).resolve (household.insert "ann" (.text "Ann")) = .notFound ∧
    resolve ⟨[.key "ann", .anyField], by decide⟩ (household.erase "ann") = .any [] ∧
    (under "ann" (single "town")).resolve
        (household.modify "ann" (Value.modifyRecord (·.insert "age" (.number (.signed 32))))) =
      .one (.text "Oslo") := by
  obtain ⟨hother, hvalue, -, hend, herase, hnested⟩ := resolve_after_edit household "ann"
  have hkeys : household.keys.Nodup := by decide
  refine ⟨?_, hvalue .null, hend (single "age") (.text "Ann") rfl, ?_, ?_⟩
  · exact (hother ⟨[.key "bob", .anyField], by decide⟩ _ _ rfl (by decide) _ .erase).1
  · exact herase hkeys ⟨[.key "ann", .anyField], by decide⟩ _ rfl
  · exact hnested "age" _ (under "ann" (single "town")) _ _ _ rfl (by decide)

end Path

end RecordQuery
