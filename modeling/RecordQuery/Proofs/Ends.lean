import Mathlib.Data.List.Basic
import RecordQuery.Path

/-!
# The ends of a path

A path is followed in two ways: one key after the other where it has no wildcards, and otherwise
level by level, with all records of a level at once. Here the values that a path leads to are stated
by recursion along the path, from one record at a time, and both ways are shown to find exactly
these, in the same order and each as often.
-/

namespace RecordQuery

theorem Value.record?_eq_some_iff {v : Value} {r : Record} :
    v.record? = some r ↔ v = .record r := by
  cases v <;> simp [record?]

namespace Path

/-- The values of a record that one segment stands for. -/
def step : Segment → Record → List Value
  | .key name, r => (r.get? name).toList
  | .anyField, r => r.values

/-- The values that segments lead to from a record: a last segment leads to the values it stands
for, any other to where the remaining segments lead from those of its values that are records. -/
def ends : List Segment → Record → List Value
  | [], _ => []
  | [last], r => step last r
  | s :: t :: rest, r => ((step s r).filterMap Value.record?).flatMap (ends (t :: rest))

theorem mem_ends_cons_cons {s t : Segment} {rest : List Segment} {r : Record} {v : Value} :
    v ∈ ends (s :: t :: rest) r ↔
      ∃ nested, Value.record nested ∈ step s r ∧ v ∈ ends (t :: rest) nested := by
  simp only [ends, List.mem_flatMap, List.mem_filterMap, Value.record?_eq_some_iff,
    exists_eq_right]

/-- The records at which segments arrive, and from which a longer path goes on. -/
def recordsAt : List Segment → Record → List Record
  | [], r => [r]
  | s :: rest, r => ((step s r).filterMap Value.record?).flatMap (recordsAt rest)

theorem ends_append (front : List Segment) (s : Segment) (rest : List Segment) (r : Record) :
    ends (front ++ s :: rest) r = (recordsAt front r).flatMap (ends (s :: rest)) := by
  induction front generalizing r with
  | nil => simp [recordsAt]
  | cons t front ih =>
    have hcons : ends (t :: (front ++ s :: rest)) r =
        ((step t r).filterMap Value.record?).flatMap (ends (front ++ s :: rest)) := by
      cases front <;> rfl
    rw [List.cons_append, hcons, recordsAt, List.flatMap_assoc, funext ih]

/-! ## Level by level -/

theorem reach_eq_flatMap_step (s : Segment) (records : List Record) :
    reach s records = records.flatMap (step s) := by
  cases s with
  | key name => exact List.filterMap_eq_flatMap_toList _ _
  | anyField => rfl

theorem spread_eq_flatMap_ends (segments : List Segment) (records : List Record) :
    spread segments records = records.flatMap (ends segments) := by
  -- A level holds the records that all records of the level before it lead to.
  induction segments generalizing records with
  | nil => simp [spread, ends]
  | cons s rest ih =>
    cases rest with
    | nil => exact reach_eq_flatMap_step s records
    | cons t rest =>
      have hcons : spread (s :: t :: rest) records =
          ((reach s records).filterMap Value.record?).flatMap (ends (t :: rest)) := by
        simp only [spread, List.isEmpty_iff]
        split
        · -- From a level without records nothing further would be reached.
          rename_i hlevel
          rw [hlevel, List.flatMap_nil]
        · exact ih _
      rw [hcons, reach_eq_flatMap_step, List.filterMap_flatMap, List.flatMap_assoc]
      rfl

/-! ## One key after the other -/

theorem candidates_walk {segments : List Segment} (h : segments.any Segment.isAnyField = false)
    (r : Record) : (walk segments r).candidates = ends segments r := by
  induction segments generalizing r with
  | nil => rfl
  | cons s rest ih =>
    rw [List.any_cons, Bool.or_eq_false_iff] at h
    cases s with
    | anyField => cases h.1
    | key name =>
      rw [walk]
      cases hget : r.get? name with
      | none => cases rest <;> simp [ends, step, hget, Resolved.candidates]
      | some v =>
        cases rest with
        | nil => simp [ends, step, hget, Resolved.candidates]
        | cons t rest =>
          cases v with
          | record nested => simp [ends, step, hget, Value.record?, ih h.2]
          | _ => simp [ends, step, hget, Value.record?, Resolved.candidates]

/-- Following keys never results in several values. -/
theorem walk_cases (segments : List Segment) (r : Record) :
    walk segments r = .notFound ∨ ∃ v, walk segments r = .one v := by
  induction segments generalizing r with
  | nil => exact .inl rfl
  | cons s rest ih =>
    cases s with
    | anyField => exact .inl rfl
    | key name =>
      rw [walk]
      cases r.get? name with
      | none => exact .inl rfl
      | some v =>
        cases rest with
        | nil => exact .inr ⟨v, rfl⟩
        | cons t rest =>
          cases v with
          | record nested => exact ih nested
          | _ => exact .inl rfl

/-! ## Both -/

theorem resolve_of_hasAnyField {p : Path} (h : p.hasAnyField = true) (r : Record) :
    p.resolve r = .any (ends p.segments r) := by
  rw [resolve, if_pos h, spread_eq_flatMap_ends, List.flatMap_singleton]

/-- What a path reaches is what it leads to. -/
theorem candidates_resolve (p : Path) (r : Record) :
    (p.resolve r).candidates = ends p.segments r := by
  cases h : p.hasAnyField with
  | true => rw [resolve_of_hasAnyField h, Resolved.candidates]
  | false => rw [resolve, if_neg (by simp [h]), candidates_walk h]

/-- **A path is resolved to its ends.** With a wildcard in it, a path reaches all values that it
leads to, in their order and each as often, and if there are none, it still counts as found. Without
wildcards there is at most one such value, which is what the path reaches; if there is none, the
path is not found. Going level by level would have come to the same. -/
theorem resolve_follows_ends (p : Path) (r : Record) :
    (p.hasAnyField = true → p.resolve r = .any (ends p.segments r)) ∧
    (p.hasAnyField = false →
      (ends p.segments r).length ≤ 1 ∧
      (ends p.segments r = [] → p.resolve r = .notFound) ∧
      (∀ v, ends p.segments r = [v] → p.resolve r = .one v) ∧
      (walk p.segments r).candidates = spread p.segments [r]) := by
  refine ⟨fun h ↦ resolve_of_hasAnyField h r, fun h ↦ ?_⟩
  have hends := candidates_walk h r
  have hresolve : p.resolve r = walk p.segments r := by rw [resolve, if_neg (by simp [h])]
  have hspread : spread p.segments [r] = ends p.segments r := by
    rw [spread_eq_flatMap_ends, List.flatMap_singleton]
  rw [hresolve, hspread, ← hends]
  rcases walk_cases p.segments r with hwalk | ⟨v, hwalk⟩
  · simp [hwalk, Resolved.candidates]
  · simp [hwalk, Resolved.candidates]

/-- A record with records, and with something else, among its fields. -/
def household : Record := ⟨[
  ("ann", .record ⟨[("age", .number (.signed 31)), ("town", .text "Oslo")]⟩),
  ("since", .text "May"),
  ("bob", .record ⟨[("town", .text "Rome"), ("age", .number (.signed 7))]⟩),
  ("cat", .record ⟨[("age", .number (.signed 7))]⟩)]⟩

theorem resolve_follows_ends_household :
    resolve ⟨[.anyField, .key "age"], by decide⟩ household =
      .any [.number (.signed 31), .number (.signed 7), .number (.signed 7)] ∧
    resolve ⟨[.key "since", .anyField], by decide⟩ household = .any [] ∧
    resolve ⟨[.key "bob", .key "town"], by decide⟩ household = .one (.text "Rome") ∧
    resolve ⟨[.key "since", .key "town"], by decide⟩ household = .notFound := by
  refine ⟨?_, ?_, ?_, ?_⟩
  · exact (resolve_follows_ends ⟨[.anyField, .key "age"], by decide⟩ household).1 rfl
  · exact (resolve_follows_ends ⟨[.key "since", .anyField], by decide⟩ household).1 rfl
  · have htown := (resolve_follows_ends ⟨[.key "bob", .key "town"], by decide⟩ household).2 rfl
    exact htown.2.2.1 _ rfl
  · have hnone := (resolve_follows_ends ⟨[.key "since", .key "town"], by decide⟩ household).2 rfl
    exact hnone.2.1 rfl

end Path

end RecordQuery
