import RecordQuery.Collection
import RecordQuery.Proofs.Ends

/-!
# Changes of collections

Seen from outside a collection is a plain list of records with a configuration beside it. What a
change does to such a list is said here by rules, which show what stays in front of the place of the
change and behind it; whatever changes are made, one after the other, a collection answers as the
list does and ends with the records of the list.

## Refused changes

The operations write to a collection while they run, and nothing undoes a write. So that a refused
change leaves all as it was is a fact about the order of their steps: whatever is asked of the value
and of the position is asked before the first write, and of the value before the position.
-/

namespace RecordQuery

/-- Something to be done to a collection in place. -/
inductive Change where
  /-- A value is to be appended. -/
  | push (v : Value)
  /-- A record is to be appended. -/
  | pushRecord (r : Record)
  /-- A value is to be put at a position, in front of what is there. -/
  | insert (i : Nat) (v : Value)
  /-- A value is to be put in the place of what is at a position. -/
  | set (i : Nat) (v : Value)
  /-- Records are to be appended. -/
  | extend (records : List Record)
  /-- The record at a position, if there is one, is to be edited in some way. -/
  | edit (i : Nat) (f : Record → Record)
  /-- Another configuration is to be taken. -/
  | configure (config : Config)

/-- What a change answers: why it is refused, or the record that was there before, where it concerns
one that is there. -/
abbrev Change.Answer := Except Fault (Option Record)

namespace Change

/-! ## What happens to a plain list -/

/-- The value that a change is to bring in, if it is not known to be a record. -/
def candidate? : Change → Option Value
  | push v | insert _ v | set _ v => some v
  | _ => none

/-- The configuration that a change is to bring in. -/
def config? : Change → Option Config
  | configure config => some config
  | _ => none

/-- Why a change is refused where there are so many records. -/
inductive Refused : Change → Nat → Fault → Prop
  /-- The value is no record, wherever it was to be put. -/
  | notRecord {change : Change} {v : Value} {count : Nat} (h : change.candidate? = some v)
      (hv : v.record? = none) : Refused change count (.notARecord v.kind)
  /-- A record can be put behind the last one, but not further away. -/
  | insertBeyond {i count : Nat} {r : Record} (h : count < i) :
      Refused (insert i (.record r)) count (.outOfBounds i count)
  /-- Only a record that is there can be replaced. -/
  | setBeyond {i count : Nat} {r : Record} (h : count ≤ i) :
      Refused (set i (.record r)) count (.outOfBounds i count)

/-- What a change answers, and what it makes of a list of records. -/
inductive Effect : Change → List Record → Answer → List Record → Prop
  /-- A refused change does nothing. -/
  | refused {change : Change} {records : List Record} {f : Fault}
      (h : Refused change records.length f) : Effect change records (.error f) records
  /-- A value that is a record comes last. -/
  | pushed (r : Record) (records : List Record) :
      Effect (push (.record r)) records (.ok none) (records ++ [r])
  /-- A record comes last. -/
  | pushedRecord (r : Record) (records : List Record) :
      Effect (pushRecord r) records (.ok none) (records ++ [r])
  /-- A record comes in between. -/
  | inserted (front : List Record) (r : Record) (back : List Record) :
      Effect (insert front.length (.record r)) (front ++ back) (.ok none) (front ++ r :: back)
  /-- A record goes and another takes its place. -/
  | replaced (front : List Record) (old r : Record) (back : List Record) :
      Effect (set front.length (.record r)) (front ++ old :: back) (.ok (some old))
        (front ++ r :: back)
  /-- Several records come last. -/
  | extended (records more : List Record) :
      Effect (extend more) records (.ok none) (records ++ more)
  /-- A record is edited where it stands. -/
  | edited (front : List Record) (old : Record) (f : Record → Record) (back : List Record) :
      Effect (edit front.length f) (front ++ old :: back) (.ok (some old)) (front ++ f old :: back)
  /-- There is no record to edit. -/
  | unedited {i : Nat} (f : Record → Record) {records : List Record} (h : records.length ≤ i) :
      Effect (edit i f) records (.ok none) records
  /-- Only the configuration changes. -/
  | configured (config : Config) (records : List Record) :
      Effect (configure config) records (.ok none) records

/-- What changes answer that are made one after the other, and what they make of a list. -/
inductive Effects : List Change → List Record → List Answer → List Record → Prop
  /-- Nothing happens. -/
  | nil (records : List Record) : Effects [] records [] records
  /-- One change happens, and then others. -/
  | cons {change : Change} {rest : List Change} {before between after : List Record}
      {answer : Answer} {answers : List Answer} (h : Effect change before answer between)
      (hrest : Effects rest between answers after) :
      Effects (change :: rest) before (answer :: answers) after

/-! ## What happens to a collection -/

open Collection in
/-- Makes a change. -/
def perform : Change → InPlace (Option Record)
  | push v => do
    InPlace.push v
    return none
  | pushRecord r => do
    modifyThe Collection (·.pushRecord r)
    return none
  | insert i v => do
    InPlace.insert i v
    return none
  | set i v => do
    let old ← InPlace.set i v
    return some old
  | extend records => do
    modifyThe Collection (·.extend records)
    return none
  | edit i f => do
    let old := (← get).get? i
    modifyThe Collection (·.modify i f)
    return old
  | configure config => do
    modifyThe Collection (·.withConfig config)
    return none

end Change

namespace Collection

/-- Makes changes one after the other, whether they are refused or not. -/
def run (c : Collection) : List Change → List Change.Answer × Collection
  | [] => ([], c)
  | change :: rest =>
    let (answer, next) := change.perform.runOn c
    let (answers, last) := next.run rest
    (answer :: answers, last)

end Collection

/-! ## Running a change -/

namespace Collection.InPlace

variable {α β : Type}

@[simp] theorem runOn_pure (a : α) (c : Collection) : (pure a : InPlace α).runOn c = (.ok a, c) :=
  rfl

@[simp] theorem runOn_throw (f : Fault) (c : Collection) :
    (throw f : InPlace α).runOn c = (.error f, c) := rfl

@[simp] theorem runOn_get (c : Collection) : (get : InPlace Collection).runOn c = (.ok c, c) := rfl

@[simp] theorem runOn_modifyThe (f : Collection → Collection) (c : Collection) :
    (modifyThe Collection f : InPlace PUnit).runOn c = (.ok (), f c) := rfl

@[simp] theorem runOn_liftM (r : Except Fault α) (c : Collection) :
    (liftM r : InPlace α).runOn c = (r, c) := rfl

/-- What fails leaves the collection to nobody else, but does not restore it either. -/
theorem runOn_bind (p : InPlace α) (next : α → InPlace β) (c : Collection) :
    (p >>= next).runOn c = match p.runOn c with
      | (.ok a, d) => (next a).runOn d
      | (.error f, d) => (.error f, d) := by
  change (ExceptT.bindCont next (p.runOn c).1).run (p.runOn c).2 = _
  rcases p.runOn c with ⟨f | a, d⟩ <;> rfl

variable {c : Collection} {i : Nat}

theorem runOn_insert_of_le (h : i ≤ c.size) (r : Record) : (insert i (.record r)).runOn c =
    (.ok (), { c with records := c.records.insertIdx i r }) := by
  simp only [insert, element, runOn_bind, runOn_liftM, runOn_get, if_pos h, runOn_modifyThe]

theorem runOn_insert_of_lt (h : c.size < i) (r : Record) : (insert i (.record r)).runOn c =
    (.error (.outOfBounds i c.size), c) := by
  simp only [insert, element, runOn_bind, runOn_liftM, runOn_get, if_neg (Nat.not_le.mpr h),
    runOn_throw]

theorem runOn_set_of_some {old : Record} (h : c.get? i = some old) (r : Record) :
    (set i (.record r)).runOn c = (.ok old, { c with records := c.records.set i r }) := by
  simp only [set, element, runOn_bind, runOn_liftM, runOn_get, h, runOn_modifyThe, runOn_pure]

theorem runOn_set_of_none (h : c.get? i = none) (r : Record) :
    (set i (.record r)).runOn c = (.error (.outOfBounds i c.size), c) := by
  simp only [set, element, runOn_bind, runOn_liftM, runOn_get, h, runOn_throw]

end Collection.InPlace

namespace Change

open Collection

variable {change : Change} {c : Collection} {front back : List Record} {old : Record} {i : Nat}

/-! ## Single changes -/

/-- A change that is refused leaves all as it was. -/
theorem runOn_perform_of_refused {f : Fault} (h : change.Refused c.size f) :
    change.perform.runOn c = (.error f, c) := by
  cases h with
  | notRecord h hv =>
    cases change with
    | push w | insert i w | set i w =>
      obtain rfl := Option.some.inj h
      cases w with
      | record r => cases hv
      | _ => rfl
    | _ => cases h
  | insertBeyond h => rw [perform, InPlace.runOn_bind, InPlace.runOn_insert_of_lt h]
  | setBeyond h =>
    have hget : c.get? _ = none := List.getElem?_eq_none h
    rw [perform, InPlace.runOn_bind, InPlace.runOn_set_of_none hget]

theorem runOn_perform_insert (h : c.records = front ++ back) (r : Record) :
    (insert front.length (.record r)).perform.runOn c =
      (.ok none, { c with records := front ++ r :: back }) := by
  have hle : front.length ≤ c.size := by simp [size, h]
  have hinsert : (front ++ back).insertIdx front.length r = front ++ r :: back :=
    List.modifyTailIdx_add (List.cons r) 0 front back
  rw [perform, InPlace.runOn_bind, InPlace.runOn_insert_of_le hle, h, hinsert]
  rfl

theorem runOn_perform_set (h : c.records = front ++ old :: back) (r : Record) :
    (set front.length (.record r)).perform.runOn c =
      (.ok (some old), { c with records := front ++ r :: back }) := by
  have hget : c.get? front.length = some old := by simp [get?, h]
  have hset : (front ++ old :: back).set front.length r = front ++ r :: back := by simp
  rw [perform, InPlace.runOn_bind, InPlace.runOn_set_of_some hget, h, hset]
  rfl

theorem runOn_perform_edit (i : Nat) (f : Record → Record) (c : Collection) :
    (edit i f).perform.runOn c =
      (.ok c.records[i]?, { c with records := c.records.modify i f }) := rfl

theorem runOn_perform_edit_of_append (h : c.records = front ++ old :: back)
    (f : Record → Record) : (edit front.length f).perform.runOn c =
      (.ok (some old), { c with records := front ++ f old :: back }) := by
  have hmodify : (front ++ old :: back).modify front.length f = front ++ f old :: back := by
    rw [List.modify_eq_take_drop, List.take_left, List.drop_left, List.modifyHead_cons]
  have hget : (front ++ old :: back)[front.length]? = some old := by simp
  rw [runOn_perform_edit, h, hmodify, hget]

theorem runOn_perform_edit_of_le (h : c.records.length ≤ i) (f : Record → Record) :
    (edit i f).perform.runOn c = (.ok none, c) := by
  rw [runOn_perform_edit, List.getElem?_eq_none h, List.modify_eq_self h]

/-- A change that has an effect on the records of a collection has it when it is run. -/
theorem Effect.runOn_perform {answer : Answer} {records : List Record}
    (h : Effect change c.records answer records) :
    (change.perform.runOn c).1 = answer ∧ (change.perform.runOn c).2.records = records := by
  generalize hbefore : c.records = before at h
  cases h with
  | refused h =>
    rw [← hbefore] at h
    rw [runOn_perform_of_refused h]
    exact ⟨rfl, hbefore⟩
  | pushed r => exact ⟨rfl, congrArg (· ++ [r]) hbefore⟩
  | pushedRecord r => exact ⟨rfl, congrArg (· ++ [r]) hbefore⟩
  | inserted front r back =>
    rw [runOn_perform_insert hbefore]
    exact ⟨rfl, rfl⟩
  | replaced front old r back =>
    rw [runOn_perform_set hbefore]
    exact ⟨rfl, rfl⟩
  | extended _ more => exact ⟨rfl, congrArg (· ++ more) hbefore⟩
  | edited front old f back =>
    rw [runOn_perform_edit_of_append hbefore]
    exact ⟨rfl, rfl⟩
  | unedited f h =>
    rw [← hbefore] at h
    rw [runOn_perform_edit_of_le h]
    exact ⟨rfl, hbefore⟩
  | configured config => exact ⟨rfl, hbefore⟩

/-- Wherever a position is, either there is a record at it or it is behind the last one. -/
theorem exists_append_cons_or_length_le (records : List Record) (i : Nat) :
    (∃ front old back, records = front ++ old :: back ∧ front.length = i) ∨
      records.length ≤ i := by
  rcases Nat.lt_or_ge i records.length with h | h
  · refine Or.inl ⟨records.take i, records[i], records.drop (i + 1), ?_, ?_⟩
    · rw [List.getElem_cons_drop, List.take_append_drop]
    · rw [List.length_take, Nat.min_eq_left (Nat.le_of_lt h)]
  · exact Or.inr h

theorem exists_effect_of_record {bring : Value → Change} {records : List Record}
    (hbring : ∀ v, (bring v).candidate? = some v)
    (h : ∀ r, ∃ answer after, Effect (bring (.record r)) records answer after) (v : Value) :
    ∃ answer after, Effect (bring v) records answer after := by
  cases hv : v.record? with
  | some r =>
    obtain rfl := Value.record?_eq_some_iff.mp hv
    exact h r
  | none => exact ⟨_, _, .refused (.notRecord (hbring v) hv)⟩

/-- There is a rule for every case: a value is a record or is none, and a position is that of some
record or is behind the last one. -/
theorem exists_effect (change : Change) (records : List Record) :
    ∃ answer after, Effect change records answer after := by
  cases change with
  | push v => exact exists_effect_of_record (fun _ ↦ rfl) (fun r ↦ ⟨_, _, .pushed r records⟩) v
  | pushRecord r => exact ⟨_, _, .pushedRecord r records⟩
  | insert i v =>
    refine exists_effect_of_record (fun _ ↦ rfl) (fun r ↦ ?_) v
    rcases Nat.lt_or_ge records.length i with h | h
    · exact ⟨_, _, .refused (.insertBeyond h)⟩
    · have heffect := Effect.inserted (records.take i) r (records.drop i)
      rw [List.take_append_drop, List.length_take, Nat.min_eq_left h] at heffect
      exact ⟨_, _, heffect⟩
  | set i v =>
    refine exists_effect_of_record (fun _ ↦ rfl) (fun r ↦ ?_) v
    rcases exists_append_cons_or_length_le records i with ⟨front, old, back, rfl, rfl⟩ | h
    · exact ⟨_, _, .replaced front old r back⟩
    · exact ⟨_, _, .refused (.setBeyond h)⟩
  | extend more => exact ⟨_, _, .extended records more⟩
  | edit i f =>
    rcases exists_append_cons_or_length_le records i with ⟨front, old, back, rfl, rfl⟩ | h
    · exact ⟨_, _, .edited front old f back⟩
    · exact ⟨_, _, .unedited f h⟩
  | configure config => exact ⟨_, _, .configured config records⟩

/-- The effects of a change on the records of a collection are what running it does to them. -/
theorem effect_iff {answer : Answer} {records : List Record} :
    Effect change c.records answer records ↔
      answer = (change.perform.runOn c).1 ∧ records = (change.perform.runOn c).2.records := by
  constructor
  · intro h
    exact ⟨h.runOn_perform.1.symm, h.runOn_perform.2.symm⟩
  · rintro ⟨rfl, rfl⟩
    obtain ⟨answer, after, h⟩ := exists_effect change c.records
    rwa [← h.runOn_perform.1, ← h.runOn_perform.2] at h

theorem Effect.refused_of_error {records after : List Record} {f : Fault}
    (h : Effect change records (.error f) after) : change.Refused records.length f := by
  cases h with
  | refused h => exact h

/-- A change fails for a reason that there is against it, and for no other. -/
theorem runOn_perform_eq_error_iff {f : Fault} :
    (change.perform.runOn c).1 = .error f ↔ change.Refused c.size f := by
  constructor
  · intro h
    have heffect : Effect change c.records (.error f) (change.perform.runOn c).2.records :=
      effect_iff.mpr ⟨h.symm, rfl⟩
    exact heffect.refused_of_error
  · intro h
    rw [runOn_perform_of_refused h]

/-- Nothing but another configuration changes the configuration. -/
theorem config_runOn_perform (change : Change) (c : Collection) :
    (change.perform.runOn c).2.config = change.config?.getD c.config := by
  cases change with
  | insert i v =>
    cases v with
    | record r =>
      rcases Nat.lt_or_ge c.size i with h | h
      · rw [runOn_perform_of_refused (.insertBeyond h)]
        rfl
      · rw [perform, InPlace.runOn_bind, InPlace.runOn_insert_of_le h]
        rfl
    | _ => rfl
  | set i v =>
    cases v with
    | record r =>
      cases h : c.get? i with
      | some old =>
        rw [perform, InPlace.runOn_bind, InPlace.runOn_set_of_some h]
        rfl
      | none =>
        rw [perform, InPlace.runOn_bind, InPlace.runOn_set_of_none h]
        rfl
    | _ => rfl
  | push v => cases v <;> rfl
  | _ => rfl

end Change

/-! ## Whole runs -/

namespace Collection

theorem run_cons (c : Collection) (change : Change) (rest : List Change) :
    c.run (change :: rest) =
      ((change.perform.runOn c).1 :: ((change.perform.runOn c).2.run rest).1,
        ((change.perform.runOn c).2.run rest).2) := rfl

theorem effects_iff {c : Collection} {changes : List Change} {answers : List Change.Answer}
    {records : List Record} : Change.Effects changes c.records answers records ↔
      answers = (c.run changes).1 ∧ records = (c.run changes).2.records := by
  induction changes generalizing c answers with
  | nil =>
    constructor
    · rintro ⟨⟩
      exact ⟨rfl, rfl⟩
    · rintro ⟨rfl, rfl⟩
      exact .nil c.records
  | cons change rest ih =>
    rw [run_cons]
    constructor
    · rintro (_ | ⟨h, hrest⟩)
      obtain ⟨rfl, rfl⟩ := Change.effect_iff.mp h
      obtain ⟨rfl, hrecords⟩ := ih.mp hrest
      exact ⟨rfl, hrecords⟩
    · rintro ⟨rfl, rfl⟩
      exact .cons (Change.effect_iff.mpr ⟨rfl, rfl⟩) (ih.mpr ⟨rfl, rfl⟩)

theorem config_run (c : Collection) (changes : List Change) :
    (c.run changes).2.config = (changes.filterMap Change.config?).getLast?.getD c.config := by
  induction changes generalizing c with
  | nil => rfl
  | cons change rest ih =>
    rw [run_cons, ih, Change.config_runOn_perform]
    cases h : change.config? with
    | none => rw [List.filterMap_cons_none h, Option.getD_none]
    | some config =>
      rw [List.filterMap_cons_some h, List.getLast?_cons, Option.getD_some, Option.getD_some]

/-- **A collection is a plain list that refuses what is no record and what is out of bounds.**
Whatever is done to it, one change after the other, it answers as the rules say and has the records
that the rules leave; its configuration is the last that it was given. At every point a change fails
exactly for the reasons that there are against it, and then nothing has happened. -/
theorem run_refines_list (c : Collection) (changes : List Change) :
    (∀ answers records, Change.Effects changes c.records answers records ↔
      answers = (c.run changes).1 ∧ records = (c.run changes).2.records) ∧
    (c.run changes).2.config = (changes.filterMap Change.config?).getLast?.getD c.config ∧
    ∀ change : Change, let d := (c.run changes).2
      (∀ f, (change.perform.runOn d).1 = .error f ↔ change.Refused d.size f) ∧
      (∀ f, (change.perform.runOn d).1 = .error f → (change.perform.runOn d).2 = d) ∧
      (change.config? = none → (change.perform.runOn d).2.config = d.config) := by
  refine ⟨fun answers records ↦ effects_iff, config_run c changes, fun change ↦ ?_⟩
  intro d
  refine ⟨fun f ↦ ?_, fun f hf ↦ ?_, fun hconfig ↦ ?_⟩
  · exact Change.runOn_perform_eq_error_iff
  · have hrefused := Change.runOn_perform_eq_error_iff.mp hf
    rw [Change.runOn_perform_of_refused hrefused]
  · rw [Change.config_runOn_perform, hconfig, Option.getD_none]

/-- A guest with a name. -/
def guest (name : String) : Record := ⟨[("name", .text name)]⟩

/-- Changes of which the first, the third and the fifth are refused. -/
def arrivals : List Change :=
  [.push (.text "ann"), .insert 1 (.record (guest "bob")), .insert 3 (.record (guest "eve")),
   .insert 0 (.record (guest "dan")), .set 3 (.record (guest "eve")),
   .set 1 (.record (guest "eve")), .edit 2 (·.insert "room" (.text "7")), .edit 3 fun _ ↦ {},
   .configure { delimiter := "." }]

theorem run_refines_list_arrivals :
    Change.Effects arrivals [guest "ann"]
      [.error (.notARecord .text), .ok none, .error (.outOfBounds 3 2), .ok none,
       .error (.outOfBounds 3 3), .ok (some (guest "ann")), .ok (some (guest "bob")), .ok none,
       .ok none]
      [guest "dan", guest "eve", (guest "bob").insert "room" (.text "7")] ∧
    ((ofRecords [guest "ann"]).run arrivals).2.config = { delimiter := "." } ∧
    let d := ((ofRecords [guest "ann"]).run arrivals).2
    ((Change.set 9 .null).perform.runOn d).1 = .error (.notARecord .null) ∧
      ((Change.set 9 .null).perform.runOn d).2 = d ∧
      ((Change.set 9 .null).perform.runOn d).2.config = d.config := by
  obtain ⟨heffects, hconfig, hstep⟩ := run_refines_list (ofRecords [guest "ann"]) arrivals
  obtain ⟨-, hsame, hkeep⟩ := hstep (.set 9 .null)
  exact ⟨(heffects _ _).mpr ⟨rfl, rfl⟩, hconfig, rfl, hsame _ rfl, hkeep rfl⟩

end Collection

end RecordQuery
