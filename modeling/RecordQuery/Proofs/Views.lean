import RecordQuery.Proofs.Chaining
import RecordQuery.Proofs.Changes

/-!
# Views of a filter

What a filter finds can be seen in several ways: as a list, as a number, as a question of yes or no,
as positions at which something is to be changed, or as the one record that somebody asked for. Each
goes through the records on its own. They agree, whatever chain of filters the records come from,
since every chain hands on records at their positions and in their order.
-/

namespace RecordQuery

/-! ## Numbered records -/

namespace Placed

theorem mem_number_iff {records : List Record} {p : Placed} :
    p ∈ number records ↔ records[p.position]? = some p.record := by
  rw [number, List.mem_map]
  constructor
  · rintro ⟨⟨r, i⟩, hmem, rfl⟩
    exact List.mem_zipIdx_iff_getElem?.mp hmem
  · intro h
    exact ⟨(p.record, p.position), List.mem_zipIdx_iff_getElem?.mpr h, rfl⟩

theorem pairwise_position_number (records : List Record) :
    ((number records).map position).Pairwise (· < ·) := by
  have hrange : (number records).map position = List.range' 0 records.length := by
    rw [number, List.map_map]
    exact (List.map_congr_left fun _ _ ↦ rfl).trans (List.zipIdx_map_snd 0 records)
  rw [hrange]
  exact List.pairwise_lt_range'

end Placed

namespace Selection

/-! ## Parts of collections -/

/-- A selection is a part of a collection. -/
structure IsPart (s : Selection) (c : Collection) : Prop where
  /-- The configuration is that of the collection. -/
  config_eq : s.config = c.config
  /-- The records are some of the collection, at their positions and in their order. -/
  sublist : s.found.Sublist c.all.found

section Parts

variable {s t : Selection} {c : Collection} {l : Lookups} {f : Filter}

theorem isPart_all (c : Collection) : c.all.IsPart c := ⟨rfl, List.Sublist.refl _⟩

theorem IsPart.passing (h : s.IsPart c) (f : Filter) : (s.passing f).IsPart c :=
  ⟨h.config_eq, List.filter_sublist.trans h.sublist⟩

theorem outcome_filter_of_ok (h : (Filter.compile s.config l).outcome = .ok f) :
    (s.filter l).outcome = .ok (s.passing f) := by
  rw [outcome_filter, h]
  rfl

theorem outcome_filter_of_error {e : Fault} (h : (Filter.compile s.config l).outcome = .error e) :
    (s.filter l).outcome = .error e := by
  rw [outcome_filter, h]
  rfl

theorem IsPart.of_filter (h : s.IsPart c) (ht : (s.filter l).outcome = .ok t) : t.IsPart c := by
  cases hl : (Filter.compile s.config l).outcome with
  | ok f =>
    rw [outcome_filter_of_ok hl] at ht
    exact Except.ok.inj ht ▸ h.passing f
  | error e =>
    rw [outcome_filter_of_error hl] at ht
    cases ht

/-- Whatever a chain finds is a part of what it started from. -/
theorem IsPart.of_filterAll {chain : List Lookups} (h : s.IsPart c)
    (ht : (s.filterAll chain).outcome = .ok t) : t.IsPart c := by
  induction chain generalizing s with
  | nil => exact Except.ok.inj ht ▸ h
  | cons l rest ih =>
    rw [filterAll_cons, Logged.outcome_bind_eq_ok] at ht
    obtain ⟨between, hbetween, ht⟩ := ht
    exact ih (h.of_filter hbetween) ht

theorem IsPart.pairwise_positions (h : s.IsPart c) : s.positions.Pairwise (· < ·) :=
  (Placed.pairwise_position_number c.records).sublist (h.sublist.map Placed.position)

theorem IsPart.getElem?_eq (h : s.IsPart c) {p : Placed} (hp : p ∈ s.found) :
    c.records[p.position]? = some p.record := Placed.mem_number_iff.mp (h.sublist.subset hp)

/-- A position tells which record it is. -/
theorem IsPart.mem_found_iff (h : s.IsPart c) {i : Nat} {r : Record} :
    ⟨i, r⟩ ∈ s.found ↔ i ∈ s.positions ∧ c.records[i]? = some r := by
  constructor
  · intro hmem
    exact ⟨List.mem_map.mpr ⟨_, hmem, rfl⟩, h.getElem?_eq hmem⟩
  · rintro ⟨hi, hr⟩
    obtain ⟨⟨j, q⟩, hmem, rfl⟩ := List.mem_map.mp hi
    have hq := h.getElem?_eq hmem
    rw [hr] at hq
    exact Option.some.inj hq ▸ hmem

theorem IsPart.mem_passing_iff (h : s.IsPart c) {i : Nat} {r : Record} :
    ⟨i, r⟩ ∈ (s.passing f).found ↔
      i ∈ s.positions ∧ c.records[i]? = some r ∧ f.isMatch r = true := by
  rw [Selection.passing, List.mem_filter, h.mem_found_iff, and_assoc]

end Parts

/-! ## Counting and asking -/

section Counting

variable (s : Selection) (f : Filter)

theorem count_eq_length : f.count s.records = (s.passing f).found.length := by
  rw [Filter.count, records, List.countP_map, passing, ← List.countP_eq_length_filter]
  rfl

theorem any_iff_ne_nil : f.any s.records = true ↔ (s.passing f).found ≠ [] := by
  rw [Filter.any, records, List.any_map, List.any_eq_true, passing, ne_eq, List.filter_eq_nil_iff]
  simp

end Counting

/-! ## Asking for one -/

/-- How a request for the one record ends that lookups find. -/
inductive EndsWith (l : Lookups) : List Placed → Except Fault Placed → Prop
  /-- There is exactly one. -/
  | one (p : Placed) : EndsWith l [p] (.ok p)
  /-- There is none. -/
  | none : EndsWith l [] (.error (.noneFound l))
  /-- There are several, equal ones counted as often as they are there. -/
  | several {found : List Placed} (h : 2 ≤ found.length) :
      EndsWith l found (.error (.severalFound found.length))

section One

variable {s : Selection} {l : Lookups} {f : Filter}

theorem outcome_getOne_of_isEmpty (h : l.isEmpty = true) :
    (s.getOne l).outcome = .error .noLookups := by
  rw [getOne, Filter.selectOne, if_pos h]
  rfl

theorem outcome_getOne_of_error {e : Fault} (hne : l.isEmpty = false)
    (h : (Filter.compile s.config l).outcome = .error e) : (s.getOne l).outcome = .error e := by
  rw [getOne, Filter.selectOne, if_neg (Bool.eq_false_iff.mp hne)]
  exact Logged.outcome_bind_of_error h _

theorem endsWith_outcome_getOne (hne : l.isEmpty = false)
    (h : (Filter.compile s.config l).outcome = .ok f) :
    EndsWith l (s.passing f).found (s.getOne l).outcome := by
  rw [getOne, Filter.selectOne, if_neg (Bool.eq_false_iff.mp hne), Logged.outcome_bind_of_ok h,
    Logged.outcome_bind_of_ok (f.outcome_select s.found)]
  rw [passing]
  generalize s.found.filter (f.isMatch ·.record) = found
  cases found with
  | nil => exact .none
  | cons p rest =>
    cases rest with
    | nil => exact .one p
    | cons q rest => exact .several (Nat.le_add_left 2 rest.length)

end One

/-! ## Agreement -/

theorem outcome_matching (c : Collection) (l : Lookups) :
    (c.matching l).outcome = (c.filter l).outcome.map positions := by
  have hfilter : (c.filter l).outcome = (Filter.compile c.config l).outcome.map c.all.passing :=
    outcome_filter c.all l
  rw [Collection.matching, Logged.outcome_bind, hfilter]
  cases (Filter.compile c.config l).outcome <;> rfl

/-- **All views of a filter agree.** Whatever a chain of filters has left of a collection, selecting
finds the records among them that pass, each at its position, and the positions increase. The count
is the number of records found, and whether there is any is whether something is found. A filter
that cannot be prepared fails alike in every view, and changing in place happens at the positions
that filtering finds. Asking for one record needs lookups, whatever the configuration; then it needs
a filter, and then it hands out what is found if that is one record, and otherwise says how many
there are. -/
theorem views_agree {c : Collection} {chain : List Lookups} {s : Selection}
    (hs : (c.all.filterAll chain).outcome = .ok s) (l : Lookups) :
    (∀ f, (Filter.compile c.config l).outcome = .ok f →
      ∃ found, (f.select s.found).outcome = .ok found ∧
        (s.filter l).outcome = .ok { found, config := c.config } ∧
        (found.map Placed.position).Pairwise (· < ·) ∧
        (∀ i r, ⟨i, r⟩ ∈ found ↔
          i ∈ s.positions ∧ c.records[i]? = some r ∧ f.isMatch r = true) ∧
        f.count s.records = found.length ∧
        (f.any s.records = true ↔ found ≠ []) ∧
        (l.isEmpty = false → EndsWith l found (s.getOne l).outcome)) ∧
    (∀ e, (Filter.compile c.config l).outcome = .error e →
      (s.filter l).outcome = .error e ∧
        (l.isEmpty = false → (s.getOne l).outcome = .error e)) ∧
    (l.isEmpty = true → (s.getOne l).outcome = .error .noLookups) ∧
    (c.matching l).outcome = (c.filter l).outcome.map positions := by
  have hpart : s.IsPart c := (isPart_all c).of_filterAll hs
  rw [← hpart.config_eq]
  refine ⟨fun f hf ↦ ?_, fun e he ↦ ⟨?_, fun hne ↦ ?_⟩, fun hempty ↦ ?_, ?_⟩
  · refine ⟨(s.passing f).found, f.outcome_select s.found, outcome_filter_of_ok hf, ?_, ?_, ?_, ?_,
      fun hne ↦ ?_⟩
    · exact (hpart.passing f).pairwise_positions
    · exact fun i r ↦ hpart.mem_passing_iff
    · exact s.count_eq_length f
    · exact s.any_iff_ne_nil f
    · exact endsWith_outcome_getOne hne hf
  · exact outcome_filter_of_error he
  · exact outcome_getOne_of_error hne he
  · exact outcome_getOne_of_isEmpty hempty
  · exact outcome_matching c l

open Collection (guest named)

/-- Guests, two of whom are alike. -/
def guests : Collection := .ofRecords [guest "eve", guest "ann", guest "bob", guest "ann"]

/-- The guests but for the first. -/
def others : Selection := ⟨[⟨1, guest "ann"⟩, ⟨2, guest "bob"⟩, ⟨3, guest "ann"⟩], {}⟩

theorem views_agree_guests :
    (guests.all.filterAll [⟨[("name__in", .text "ann or bob")]⟩]).outcome = .ok others ∧
      (∃ f, (Filter.compile guests.config named).outcome = .ok f ∧
        (f.select others.found).outcome = .ok [⟨1, guest "ann"⟩, ⟨3, guest "ann"⟩] ∧
        f.count others.records = 2 ∧ f.any others.records = true ∧
        EndsWith named [⟨1, guest "ann"⟩, ⟨3, guest "ann"⟩] (others.getOne named).outcome) ∧
      (others.getOne ⟨[("name__regex", .null)]⟩).outcome =
        .error (.patternNotText "name__regex" .null) ∧
      (others.getOne {}).outcome = .error .noLookups := by
  have hothers :
      (guests.all.filterAll [⟨[("name__in", .text "ann or bob")]⟩]).outcome = .ok others := rfl
  obtain ⟨f, hf⟩ : ∃ f, (Filter.compile guests.config named).outcome = .ok f := ⟨_, rfl⟩
  refine ⟨hothers, ⟨f, hf, ?_⟩, ?_, ?_⟩
  · obtain ⟨found, hselect, hfilter, -, -, hcount, hany, hone⟩ := (views_agree hothers named).1 f hf
    have hfound : found = [⟨1, guest "ann"⟩, ⟨3, guest "ann"⟩] :=
      congrArg Selection.found (Except.ok.inj hfilter.symm)
    rw [hfound] at hselect hcount hany hone
    exact ⟨hselect, hcount, hany.mpr (List.cons_ne_nil _ _), hone rfl⟩
  · exact ((views_agree hothers ⟨[("name__regex", .null)]⟩).2.1 _ rfl).2 rfl
  · exact (views_agree hothers {}).2.2.1 rfl

end Selection

end RecordQuery
