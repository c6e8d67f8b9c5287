import RecordQuery.Proofs.Changes
import RecordQuery.Proofs.Histories
import RecordQuery.Proofs.Views

/-!
# Editing what lookups find

Lookups can be made in order to edit the records that they find. The edits may well concern the
fields that the lookups ask for, and after the first edit the collection is not what the lookups
were made on. It makes no difference: the records are found before any of them is edited, each is
edited once and where it stands, and nothing else is touched.
-/

namespace RecordQuery

namespace Collection

/-! ## Single edits -/

theorem get?_modify (c : Collection) (i : Nat) (f : Record → Record) (j : Nat) :
    (c.modify i f).get? j = if i = j then (c.get? j).map f else c.get? j := by
  rw [get?, modify, List.getElem?_modify, get?]
  split
  · rfl
  · exact Option.map_id_apply

theorem size_modify (c : Collection) (i : Nat) (f : Record → Record) :
    (c.modify i f).size = c.size := List.length_modify ..

/-! ## One edit after the other -/

/-- Makes edits at positions, each told which edit is to be made there. -/
def editEach (edits : Nat → Record → Record) (c : Collection) (targets : List (Nat × Nat)) :
    Collection :=
  targets.foldl (fun c target ↦ c.modify target.1 (edits target.2)) c

section EditEach

variable {edits : Nat → Record → Record} {targets : List (Nat × Nat)}

theorem size_editEach (c : Collection) : (c.editEach edits targets).size = c.size := by
  induction targets generalizing c with
  | nil => rfl
  | cons target targets ih => exact (ih _).trans (size_modify c target.1 _)

theorem config_editEach (c : Collection) : (c.editEach edits targets).config = c.config := by
  induction targets generalizing c with
  | nil => rfl
  | cons target targets ih => exact ih _

theorem get?_editEach_of_not_mem (c : Collection) {i : Nat} (h : i ∉ targets.map Prod.fst) :
    (c.editEach edits targets).get? i = c.get? i := by
  induction targets generalizing c with
  | nil => rfl
  | cons target targets ih =>
    rw [List.map_cons, List.mem_cons, not_or] at h
    refine (ih _ h.2).trans ?_
    rw [get?_modify, if_neg (Ne.symm h.1)]

/-- No position is edited twice, so what is edited is what was there at first. -/
theorem get?_editEach_of_mem (c : Collection) (hpositions : (targets.map Prod.fst).Nodup)
    {i n : Nat} (h : (i, n) ∈ targets) :
    (c.editEach edits targets).get? i = (c.get? i).map (edits n) := by
  induction targets generalizing c with
  | nil => cases h
  | cons target targets ih =>
    obtain ⟨hfresh, hpositions⟩ := List.nodup_cons.mp hpositions
    rcases List.mem_cons.mp h with rfl | h
    · refine (get?_editEach_of_not_mem _ hfresh).trans ?_
      rw [get?_modify, if_pos rfl]
    · have hne : target.1 ≠ i := fun heq ↦ hfresh (heq ▸ List.mem_map_of_mem h)
      refine (ih _ hpositions h).trans ?_
      rw [get?_modify, if_neg hne]

end EditEach

/-! ## Finding and editing -/

namespace InPlace

theorem runOn_forM_modifyThe {β : Type} (f : β → Collection → Collection) (l : List β)
    (c : Collection) : (l.forM fun b ↦ modifyThe Collection (f b) : InPlace PUnit).runOn c =
      (.ok (), l.foldl (fun c b ↦ f b c) c) := by
  induction l generalizing c with
  | nil => rfl
  | cons b l ih =>
    rw [List.forM, runOn_bind, runOn_modifyThe]
    exact ih (f b c)

variable {l : Lookups} {c : Collection}

/-- What cannot be found is not edited. -/
theorem runOn_editMatching_of_error {fault : Fault} (h : (c.matching l).outcome = .error fault)
    (edits : Nat → Record → Record) : (editMatching l edits).runOn c = (.error fault, c) := by
  rw [editMatching, runOn_bind, runOn_get]
  simp only [runOn_bind, runOn_liftM, h]

/-- Everything is found before anything is edited. -/
theorem runOn_editMatching_of_ok {positions : List Nat}
    (h : (c.matching l).outcome = .ok positions) (edits : Nat → Record → Record) :
    (editMatching l edits).runOn c =
      (.ok positions.length, c.editEach edits positions.zipIdx) := by
  rw [editMatching, runOn_bind, runOn_get]
  simp only [runOn_bind, runOn_liftM, h]
  rw [runOn_forM_modifyThe]
  rfl

end InPlace

variable {l : Lookups} {c : Collection} {f : Filter}

theorem outcome_matching_of_error {fault : Fault}
    (h : (Filter.compile c.config l).outcome = .error fault) :
    (c.matching l).outcome = .error fault := Logged.outcome_bind_of_error h _

theorem outcome_matching_of_ok (h : (Filter.compile c.config l).outcome = .ok f) :
    (c.matching l).outcome = .ok (c.all.passing f).positions := Logged.outcome_bind_of_ok h _

theorem mem_positions_passing_all {i : Nat} :
    i ∈ (c.all.passing f).positions ↔ ∃ r, c.get? i = some r ∧ f.isMatch r = true := by
  rw [Selection.positions, List.mem_map]
  constructor
  · rintro ⟨p, hp, rfl⟩
    obtain ⟨hp, hmatch⟩ := List.mem_filter.mp hp
    exact ⟨p.record, Placed.mem_number_iff.mp hp, hmatch⟩
  · rintro ⟨r, hr, hmatch⟩
    exact ⟨⟨i, r⟩, List.mem_filter.mpr ⟨Placed.mem_number_iff.mpr hr, hmatch⟩, rfl⟩

theorem pairwise_positions_passing_all : (c.all.passing f).positions.Pairwise (· < ·) :=
  ((Selection.isPart_all c).passing f).pairwise_positions

theorem get?_editEach_positions {positions : List Nat} (h : positions.Pairwise (· < ·))
    (edits : Nat → Record → Record) {n i : Nat} (hi : positions[n]? = some i) :
    (c.editEach edits positions.zipIdx).get? i = (c.get? i).map (edits n) := by
  refine get?_editEach_of_mem c ?_ (List.mem_zipIdx_iff_getElem?.mpr hi)
  rw [List.zipIdx_map_fst]
  exact h.imp Nat.ne_of_lt

theorem get?_editEach_elsewhere {positions : List Nat} (edits : Nat → Record → Record) {i : Nat}
    (hi : i ∉ positions) : (c.editEach edits positions.zipIdx).get? i = c.get? i := by
  refine get?_editEach_of_not_mem c ?_
  rwa [List.zipIdx_map_fst]

/-- One edit for all records that match is the edit of each record, provided that it matches. -/
theorem editEach_alike (c : Collection) (f : Filter) (g : Record → Record) :
    c.editEach (fun _ ↦ g) (c.all.passing f).positions.zipIdx =
      { c with records := c.records.map fun r ↦ if f.isMatch r then g r else r } := by
  have hrecords : (c.editEach (fun _ ↦ g) (c.all.passing f).positions.zipIdx).records =
      c.records.map fun r ↦ if f.isMatch r then g r else r := by
    refine List.ext_getElem? fun i ↦ ?_
    rw [List.getElem?_map]
    change get? _ i = (c.get? i).map _
    by_cases hi : i ∈ (c.all.passing f).positions
    · obtain ⟨n, hn⟩ := List.getElem?_of_mem hi
      obtain ⟨r, hr, hmatch⟩ := mem_positions_passing_all.mp hi
      rw [get?_editEach_positions pairwise_positions_passing_all _ hn, hr, Option.map_some,
        Option.map_some, if_pos hmatch]
    · rw [get?_editEach_elsewhere _ hi]
      cases hr : c.get? i with
      | none => rfl
      | some r =>
        have hmatch : ¬f.isMatch r = true := fun h ↦ hi (mem_positions_passing_all.mpr ⟨r, hr, h⟩)
        rw [Option.map_some, if_neg hmatch]
  have hconfig : (c.editEach (fun _ ↦ g) (c.all.passing f).positions.zipIdx).config = c.config :=
    config_editEach c
  rw [← hrecords, ← hconfig]

/-! ## The whole -/

/-- **Nothing but what was found is edited.** If the lookups cannot be prepared, the collection is
left as it was. Otherwise the positions are those of the matching records, in their order, whatever
is going to be done there. The record at each of them becomes what its edit makes of the record that
was found; all other records, their number and the configuration stay. Where every record is edited
alike, each record becomes its edited self if it matched, and else stays itself. -/
theorem editMatching_touches_found (c : Collection) (l : Lookups) :
    (∀ fault, (Filter.compile c.config l).outcome = .error fault →
      (∀ edits, (InPlace.editMatching l edits).runOn c = (.error fault, c)) ∧
        ∀ g, (c.modifyMatching l g).outcome = .error fault) ∧
    ∀ f, (Filter.compile c.config l).outcome = .ok f →
      ∃ positions, (c.matching l).outcome = .ok positions ∧
        positions.Pairwise (· < ·) ∧
        (∀ i, i ∈ positions ↔ ∃ r, c.get? i = some r ∧ f.isMatch r = true) ∧
        (∀ edits, ∃ d, (InPlace.editMatching l edits).runOn c = (.ok positions.length, d) ∧
          d.size = c.size ∧ d.config = c.config ∧
          (∀ n i, positions[n]? = some i → d.get? i = (c.get? i).map (edits n)) ∧
          ∀ i, i ∉ positions → d.get? i = c.get? i) ∧
        ∀ g, (c.modifyMatching l g).outcome =
          .ok (positions.length,
            { c with records := c.records.map fun r ↦ if f.isMatch r then g r else r }) := by
  refine ⟨fun fault h ↦ ?_, fun f h ↦ ?_⟩
  · have hmatching := outcome_matching_of_error h
    refine ⟨InPlace.runOn_editMatching_of_error hmatching, fun g ↦ ?_⟩
    rw [modifyMatching, InPlace.result, InPlace.runOn_editMatching_of_error hmatching]
  · have hmatching := outcome_matching_of_ok h
    have hpairwise := pairwise_positions_passing_all (c := c) (f := f)
    refine ⟨_, hmatching, hpairwise, fun i ↦ mem_positions_passing_all, fun edits ↦ ?_, fun g ↦ ?_⟩
    · refine ⟨_, InPlace.runOn_editMatching_of_ok hmatching edits, size_editEach c,
        config_editEach c, fun n i hi ↦ ?_, fun i hi ↦ ?_⟩
      · exact get?_editEach_positions hpairwise edits hi
      · exact get?_editEach_elsewhere edits hi
    · rw [modifyMatching, InPlace.result, InPlace.runOn_editMatching_of_ok hmatching]
      simp only [editEach_alike]

/-- Lodges a guest in a room, under another name. -/
def lodge (room : Nat) (r : Record) : Record :=
  r.run [.insert "room" (.number (.unsigned (.ofNat room))), .erase "name",
    .insert "name" (.text "eve")]

open Selection (guests) in
/-- Two guests are found by a name that they lose on the way. -/
theorem editMatching_touches_found_twins :
    (∃ d, (InPlace.editMatching named lodge).runOn guests = (.ok 2, d) ∧
      d.get? 0 = some (guest "eve") ∧ d.get? 1 = some (lodge 0 (guest "ann")) ∧
      d.get? 2 = some (guest "bob") ∧ d.get? 3 = some (lodge 1 (guest "ann"))) ∧
    (guests.modifyMatching named (lodge 7)).outcome =
      .ok (2, .ofRecords [guest "eve", lodge 7 (guest "ann"), guest "bob",
        lodge 7 (guest "ann")]) ∧
    (InPlace.editMatching ⟨[("name__regex", .null)]⟩ lodge).runOn guests =
      (.error (.patternNotText "name__regex" .null), guests) := by
  obtain ⟨f, hf⟩ : ∃ f, (Filter.compile guests.config named).outcome = .ok f := ⟨_, rfl⟩
  obtain ⟨positions, hmatching, -, -, hedits, halike⟩ :=
    (editMatching_touches_found guests named).2 f hf
  obtain rfl : positions = [1, 3] := Except.ok.inj hmatching.symm
  obtain ⟨d, hrun, -, -, hfound, hother⟩ := hedits lodge
  refine ⟨⟨d, hrun, ?_, ?_, ?_, ?_⟩, ?_, ?_⟩
  · exact hother 0 (by decide)
  · exact hfound 0 1 rfl
  · exact hother 2 (by decide)
  · exact hfound 1 3 rfl
  · obtain rfl : f = _ := Except.ok.inj (hf.symm.trans rfl)
    exact halike (lodge 7)
  · exact ((editMatching_touches_found guests _).1 _ rfl).1 lodge

end Collection

end RecordQuery
