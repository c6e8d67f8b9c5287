import RecordQuery.Proofs.Documents
import RecordQuery.Proofs.Ends
import RecordQuery.Proofs.Histories

/-!
# Well-formed values

The type of maps does not keep a name from occurring twice, but no operation makes it happen. A
value is well-formed if it does not happen in any record within it; so are all records and lookups
that a program can come by. They are read from documents, where names may be repeated, and then
edited: reading leaves no repetition, and no edit brings one back.
-/

namespace RecordQuery

namespace Value

/-- In no record within a value does a name occur twice. -/
inductive WellFormed : Value → Prop
  /-- There is no record in nothing. -/
  | null : WellFormed .null
  /-- There is no record in a truth value. -/
  | bool (b : Bool) : WellFormed (.bool b)
  /-- There is no record in a number. -/
  | number (n : Number) : WellFormed (.number n)
  /-- There is no record in a text. -/
  | text (s : String) : WellFormed (.text s)
  /-- The records in a sequence are those in its items. -/
  | sequence {items : List Value} (h : ∀ v ∈ items, WellFormed v) : WellFormed (.sequence items)
  /-- The records in a record are itself and those in its fields. -/
  | record {r : Record} (hkeys : r.keys.Nodup) (hvalues : ∀ v ∈ r.values, WellFormed v) :
    WellFormed (.record r)

attribute [simp] WellFormed.null WellFormed.bool WellFormed.number WellFormed.text

end Value

namespace OrderedMap

/-- In a record, or in lookups, no name occurs twice, on the outside or further in. -/
def WellFormed (m : OrderedMap Value) : Prop := Value.WellFormed (.record m)

variable {m : OrderedMap Value}

theorem wellFormed_iff :
    m.WellFormed ↔ m.keys.Nodup ∧ ∀ v ∈ m.values, Value.WellFormed v := by
  constructor
  · intro h
    cases h with
    | record hkeys hvalues => exact ⟨hkeys, hvalues⟩
  · exact fun ⟨hkeys, hvalues⟩ ↦ .record hkeys hvalues

theorem WellFormed.nodup_keys (h : m.WellFormed) : m.keys.Nodup := (wellFormed_iff.mp h).1

theorem WellFormed.of_mem_values (h : m.WellFormed) {v : Value} (hv : v ∈ m.values) :
    v.WellFormed := (wellFormed_iff.mp h).2 v hv

theorem WellFormed.of_get? (h : m.WellFormed) {name : String} {v : Value}
    (hv : m.get? name = some v) : v.WellFormed := h.of_mem_values (mem_values_of_get?_eq_some hv)

/-! ## Writing -/

theorem wellFormed_empty : WellFormed {} := wellFormed_iff.mpr ⟨List.nodup_nil, nofun⟩

theorem WellFormed.insert (h : m.WellFormed) (name : String) {v : Value} (hv : v.WellFormed) :
    (m.insert name v).WellFormed := by
  refine wellFormed_iff.mpr ⟨nodup_keys_insert h.nodup_keys name v, fun w hw ↦ ?_⟩
  rcases mem_values_of_mem_values_insert hw with rfl | hw
  · exact hv
  · exact h.of_mem_values hw

theorem WellFormed.erase (h : m.WellFormed) (name : String) : (m.erase name).WellFormed :=
  wellFormed_iff.mpr ⟨h.nodup_keys.sublist (keys_erase_sublist m name), fun _ hv ↦
    h.of_mem_values ((values_erase_sublist m name).mem hv)⟩

theorem WellFormed.insertMany (h : m.WellFormed) {entries : List (String × Value)}
    (hentries : ∀ e ∈ entries, e.2.WellFormed) : (m.insertMany entries).WellFormed := by
  induction entries generalizing m with
  | nil => exact h
  | cons e entries ih =>
    obtain ⟨he, hentries⟩ := List.forall_mem_cons.mp hentries
    exact ih (h.insert e.1 he) hentries

theorem WellFormed.modify (h : m.WellFormed) (name : String) {f : Value → Value}
    (hf : ∀ v, v.WellFormed → (f v).WellFormed) : (m.modify name f).WellFormed := by
  rw [OrderedMap.modify]
  split
  · rename_i v hget
    exact h.insert name (hf v (h.of_get? hget))
  · exact h

theorem WellFormed.mapEntries (h : m.WellFormed) {f : String → Value → Value}
    (hf : ∀ name v, v.WellFormed → (f name v).WellFormed) : (m.mapEntries f).WellFormed := by
  have hkeys : (m.mapEntries f).keys.Nodup := by
    rw [keys_mapEntries]
    exact h.nodup_keys
  refine wellFormed_iff.mpr ⟨hkeys, fun w hw ↦ ?_⟩
  obtain ⟨name, hget⟩ := (mem_values_iff_exists_get? hkeys).mp hw
  rw [get?_mapEntries] at hget
  obtain ⟨v, hv, rfl⟩ := Option.map_eq_some_iff.mp hget
  exact hf name v (h.of_get? hv)

/-- Entries may repeat a name before they are collected, but not afterwards. -/
theorem wellFormed_ofList {entries : List (String × Value)}
    (h : ∀ e ∈ entries, e.2.WellFormed) : (ofList entries).WellFormed :=
  wellFormed_empty.insertMany h

/-! ## Editing -/

/-- What an edit writes is well-formed, and what it changes stays so. -/
def Edit.KeepsWellFormed : Edit Value → Prop
  | insert _ v => v.WellFormed
  | erase _ => True
  | extend entries => ∀ e ∈ entries, e.2.WellFormed
  | modify _ f => ∀ v, v.WellFormed → (f v).WellFormed
  | mapEntries f => ∀ name v, v.WellFormed → (f name v).WellFormed

theorem WellFormed.edit (h : m.WellFormed) {e : Edit Value} (he : e.KeepsWellFormed) :
    (m.edit e).WellFormed := by
  cases e with
  | insert name v => exact h.insert name he
  | erase name => exact h.erase name
  | extend entries => exact h.insertMany he
  | modify name f => exact h.modify name he
  | mapEntries f => exact h.mapEntries he

/-- However often a map is edited, no name gets to occur twice. -/
theorem WellFormed.run (h : m.WellFormed) {edits : List (Edit Value)}
    (hedits : ∀ e ∈ edits, e.KeepsWellFormed) : (m.run edits).WellFormed := by
  induction edits generalizing m with
  | nil => exact h
  | cons e edits ih =>
    obtain ⟨he, hedits⟩ := List.forall_mem_cons.mp hedits
    exact ih (h.edit he) hedits

end OrderedMap

namespace Value

@[simp] theorem wellFormed_record_iff {r : Record} :
    (Value.record r).WellFormed ↔ r.keys.Nodup ∧ ∀ v ∈ r.values, v.WellFormed :=
  OrderedMap.wellFormed_iff

@[simp] theorem wellFormed_sequence_iff {items : List Value} :
    (Value.sequence items).WellFormed ↔ ∀ v ∈ items, v.WellFormed :=
  ⟨fun | .sequence h => h, .sequence⟩

theorem WellFormed.of_mem_sequence {items : List Value} (h : (Value.sequence items).WellFormed)
    {v : Value} (hv : v ∈ items) : v.WellFormed := wellFormed_sequence_iff.mp h v hv

end Value

/-! ## Numbers within values -/

namespace Value

/-- All numbers within a value are of some kind. -/
inductive EachNumber (p : Number → Prop) : Value → Prop
  /-- There is no number in nothing. -/
  | null : EachNumber p .null
  /-- There is no number in a truth value. -/
  | bool (b : Bool) : EachNumber p (.bool b)
  /-- A number is the only one within it. -/
  | number {n : Number} (h : p n) : EachNumber p (.number n)
  /-- There is no number in a text. -/
  | text (s : String) : EachNumber p (.text s)
  /-- The numbers in a sequence are those in its items. -/
  | sequence {items : List Value} (h : ∀ v ∈ items, EachNumber p v) : EachNumber p (.sequence items)
  /-- The numbers in a record are those in its fields. -/
  | record {r : Record} (h : ∀ v ∈ r.values, EachNumber p v) : EachNumber p (.record r)

attribute [simp] EachNumber.null EachNumber.bool EachNumber.text

section EachNumber

variable {p : Number → Prop}

@[simp] theorem eachNumber_number_iff {n : Number} : EachNumber p (.number n) ↔ p n :=
  ⟨fun | .number h => h, .number⟩

@[simp] theorem eachNumber_sequence_iff {items : List Value} :
    EachNumber p (.sequence items) ↔ ∀ v ∈ items, EachNumber p v :=
  ⟨fun | .sequence h => h, .sequence⟩

@[simp] theorem eachNumber_record_iff {r : Record} :
    EachNumber p (.record r) ↔ ∀ v ∈ r.values, EachNumber p v :=
  ⟨fun | .record h => h, .record⟩

theorem EachNumber.imp {q : Number → Prop} {v : Value} (h : EachNumber p v)
    (himp : ∀ n, p n → q n) : EachNumber q v := by
  induction h with
  | null => exact .null
  | bool b => exact .bool b
  | number h => exact .number (himp _ h)
  | text s => exact .text s
  | sequence _ ih => exact .sequence ih
  | record _ ih => exact .record ih

end EachNumber

end Value

/-! ## Documents -/

namespace Value

/-- The value of a document is well-formed, even where the document repeats names. -/
theorem wellFormed_ofJson (j : Json) : (ofJson j).WellFormed := by
  induction j using Json.induct with
  | null => exact .null
  | bool b => exact .bool b
  | number n => exact .number _
  | text s => exact .text s
  | array items ih =>
    rw [ofJson_array]
    exact .sequence (List.forall_mem_map.mpr ih)
  | object members ih =>
    rw [ofJson_object, ← OrderedMap.ofList_map]
    exact OrderedMap.wellFormed_ofList (List.forall_mem_map.mpr ih)

/-- **No name occurs twice in what has been read and edited.** A record that is read from a document
is well-formed whatever names the document repeats, and so is all that becomes of it by edits, if
the values that they write are. -/
theorem wellFormed_run_of_decode? {j : Json} {r : Record} (h : decode? j = some (.record r))
    {edits : List (OrderedMap.Edit Value)} (hedits : ∀ e ∈ edits, e.KeepsWellFormed) :
    (r.run edits).WellFormed := by
  have hread : ofJson j = .record r := by
    rw [decode?_eq_some] at h
    exact Option.some.inj h
  have hr : r.WellFormed := by
    rw [OrderedMap.WellFormed, ← hread]
    exact wellFormed_ofJson j
  exact hr.run hedits

end Value

/-! ## Along paths -/

namespace Path

theorem wellFormed_of_mem_step {s : Segment} {r : Record} (hr : r.WellFormed) {v : Value}
    (hv : v ∈ step s r) : v.WellFormed := by
  cases s with
  | key name => exact hr.of_get? (Option.mem_toList.mp hv)
  | anyField => exact hr.of_mem_values hv

/-- All that a path leads to is well-formed where it starts from a well-formed record. -/
theorem wellFormed_of_mem_ends {segments : List Segment} {r : Record} (hr : r.WellFormed)
    {v : Value} (hv : v ∈ ends segments r) : v.WellFormed := by
  induction segments generalizing r with
  | nil => cases hv
  | cons s rest ih =>
    cases rest with
    | nil => exact wellFormed_of_mem_step hr hv
    | cons t rest =>
      obtain ⟨nested, hnested, hv⟩ := mem_ends_cons_cons.mp hv
      exact ih (wellFormed_of_mem_step hr hnested) hv

end Path

end RecordQuery
