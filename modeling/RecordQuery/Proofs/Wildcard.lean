import RecordQuery.Proofs.Meaning
import RecordQuery.Proofs.WellFormed

/-!
# Wildcards

A wildcard stands for any field, so a path with wildcards stands for the paths that put the name of
a field in the place of each of them. A condition holds of what the path with wildcards reaches
exactly if it holds of what one of these paths reaches, although the former are followed level by
level and the latter one key after the other.
-/

namespace RecordQuery

/-- Whether a segment can stand for the field with a name. -/
def Segment.Admits : Segment → String → Prop
  | key k, name => k = name
  | anyField, _ => True

namespace Path

/-- Whether a path without wildcards comes from a path by naming a field for every wildcard. -/
def Admits (p q : Path) : Prop :=
  ∃ names, q.segments = names.map Segment.key ∧ List.Forall₂ Segment.Admits p.segments names

theorem mem_step_iff {r : Record} (hr : r.keys.Nodup) (s : Segment) (v : Value) :
    v ∈ step s r ↔ ∃ name, s.Admits name ∧ r.get? name = some v := by
  cases s with
  | key k => simp [step, Segment.Admits]
  | anyField => simp [step, Segment.Admits, OrderedMap.mem_values_iff_exists_get? hr]

theorem mem_ends_iff_exists_names {segments : List Segment} {r : Record} (hr : r.WellFormed)
    (v : Value) : v ∈ ends segments r ↔
      ∃ names, List.Forall₂ Segment.Admits segments names ∧
        v ∈ ends (names.map Segment.key) r := by
  induction segments generalizing r with
  | nil => simp [ends]
  | cons s rest ih =>
    cases rest with
    | nil =>
      simp only [ends, mem_step_iff hr.nodup_keys, List.forall₂_cons_left_iff,
        List.forall₂_nil_left_iff]
      constructor
      · rintro ⟨name, hname, hget⟩
        exact ⟨[name], ⟨name, [], hname, rfl, rfl⟩, by simp [ends, step, hget]⟩
      · rintro ⟨names, ⟨name, _, hname, rfl, rfl⟩, hv⟩
        exact ⟨name, hname, by simpa [ends, step] using hv⟩
    | cons t rest =>
      rw [mem_ends_cons_cons]
      constructor
      · rintro ⟨nested, hnested, hv⟩
        -- The names for the remaining segments are those of the record that is entered.
        have hwf : OrderedMap.WellFormed nested := wellFormed_of_mem_step hr hnested
        obtain ⟨name, hname, hget⟩ := (mem_step_iff hr.nodup_keys s _).mp hnested
        obtain ⟨names, hnames, hv⟩ := (ih hwf).mp hv
        cases hnames with
        | @cons _ n _ names hn hnames =>
          refine ⟨name :: n :: names, .cons hname (.cons hn hnames), ?_⟩
          exact mem_ends_cons_cons.mpr ⟨nested, by simp [step, hget], hv⟩
      · rintro ⟨names, hnames, hv⟩
        cases hnames with
        | @cons _ name _ names hname hnames =>
          cases hnames with
          | @cons _ n _ names hn hnames =>
            obtain ⟨nested, hnested, hv⟩ := mem_ends_cons_cons.mp hv
            have hget : r.get? name = some (.record nested) := by simpa [step] using hnested
            refine ⟨nested, (mem_step_iff hr.nodup_keys s _).mpr ⟨name, hname, hget⟩, ?_⟩
            exact (ih (hr.of_get? hget)).mpr ⟨n :: names, .cons hn hnames, hv⟩

theorem ends_anyField_of_isEmpty {level : Record} (h : level.isEmpty = true)
    (rest : List Segment) : ends (.anyField :: rest) level = [] := by
  have hstep : step .anyField level = [] := by
    obtain ⟨entries⟩ := level
    cases entries with
    | nil => rfl
    | cons e entries => cases h
  cases rest with
  | nil => exact hstep
  | cons t rest => simp [ends, hstep]

/-- A wildcard in records without fields leads nowhere. -/
theorem ends_eq_nil_of_isEmpty {front rest : List Segment} {r : Record}
    (h : ∀ level ∈ recordsAt front r, level.isEmpty = true) :
    ends (front ++ .anyField :: rest) r = [] := by
  rw [ends_append, List.flatMap_eq_nil_iff]
  exact fun level hlevel ↦ ends_anyField_of_isEmpty (h level hlevel) rest

end Path

namespace Condition

/-- **A wildcard is an existential over names.** Where all records that a wildcard is about are
without fields, or there are none, nothing is reached, and that is no failure to find. -/
theorem matchesResolved_iff_exists_admits (c : Condition) (p : Path) {r : Record}
    (hr : r.WellFormed) :
    (c.matchesResolved (p.resolve r) = true ↔
      ∃ q, p.Admits q ∧ q.hasAnyField = false ∧ c.matchesResolved (q.resolve r) = true) ∧
    ∀ front rest, p.segments = front ++ .anyField :: rest →
      (∀ level ∈ Path.recordsAt front r, level.isEmpty = true) →
      p.resolve r = .any [] ∧ c.matchesResolved (p.resolve r) = false := by
  constructor
  · simp only [matchesResolved_iff_exists_mem_ends]
    constructor
    · rintro ⟨found, hfound, hmatch⟩
      obtain ⟨names, hnames, hfound⟩ := (Path.mem_ends_iff_exists_names hr found).mp hfound
      have hne : names.map Segment.key ≠ [] := by
        intro h
        rw [h] at hfound
        cases hfound
      refine ⟨⟨names.map Segment.key, hne⟩, ⟨names, rfl, hnames⟩, ?_, found, hfound, hmatch⟩
      simp [Path.hasAnyField, Segment.isAnyField]
    · rintro ⟨q, ⟨names, hq, hnames⟩, -, found, hfound, hmatch⟩
      rw [hq] at hfound
      exact ⟨found, (Path.mem_ends_iff_exists_names hr found).mpr ⟨names, hnames, hfound⟩, hmatch⟩
  · intro front rest hp hempty
    have hany : p.hasAnyField = true := by
      simp [Path.hasAnyField, hp, Segment.isAnyField]
    have hresolve : p.resolve r = .any [] := by
      rw [Path.resolve_of_hasAnyField hany, hp, Path.ends_eq_nil_of_isEmpty hempty]
    exact ⟨hresolve, by rw [hresolve]; rfl⟩

/-- A record with fields that cannot be entered, that lead nowhere, and that lead somewhere. -/
def person : Record :=
  ⟨[("age", .number (.signed 32)), ("work", .record ⟨[]⟩),
    ("home", .record ⟨[("city", .text "Oslo")]⟩)]⟩

/-- The condition that some field of a record holds a record whose city is Oslo. -/
def inOslo : Condition :=
  ⟨"_any__city", ⟨[.anyField, .key "city"], by decide⟩, .exact, .text "Oslo", .plain⟩

theorem exists_admits_person :
    person.WellFormed ∧
    (∃ q, inOslo.path.Admits q ∧ q.hasAnyField = false ∧
      inOslo.matchesResolved (q.resolve person) = true) ∧
    (∀ level ∈ Path.recordsAt [.key "work"] person, level.isEmpty = true) ∧
    inOslo.matchesResolved (Path.resolve ⟨[.key "work", .anyField], by decide⟩ person) =
      false := by
  have hr : person.WellFormed := by
    simp [person, OrderedMap.wellFormed_iff, OrderedMap.keys, OrderedMap.values]
  have hempty : ∀ level ∈ Path.recordsAt [.key "work"] person, level.isEmpty = true := by
    simp [person, Path.recordsAt, Path.step, OrderedMap.get?, OrderedMap.lookup, Value.record?,
      OrderedMap.isEmpty]
  refine ⟨hr, ?_, hempty, ?_⟩
  · exact (matchesResolved_iff_exists_admits inOslo inOslo.path hr).1.mp (by decide)
  · exact ((matchesResolved_iff_exists_admits inOslo _ hr).2 [.key "work"] [] rfl hempty).2

end Condition

end RecordQuery
