import RecordQuery.Proofs.SpecifierWriting
import RecordQuery.Proofs.Views

/-!
# Events of filters

What filtering reports can be foretold from the lookups alone, but for the number of records found.
Every lookup that is prepared is reported, behind the slip in its specifier if one was kept there,
and the first that cannot be prepared ends the report. Only if all are prepared do the records get
filtered, which is reported last. Asking for one record reports what filtering does, however it ends
then.

## Slips of lookups that fail

A slip is reported while the specifier is read, and a lookup can still fail afterwards, if its
target is no pattern. That a failing lookup reports nothing is due to the slip itself: it is kept as
a key, so equality is asked for, and equality takes any target.
-/

namespace RecordQuery

/-! ## Events of sequences -/

namespace Logged

variable {α β : Type} {m : Logged α}

theorem events_bind_of_ok {a : α} (h : m.outcome = .ok a) (next : α → Logged β) :
    (m >>= next).events = m.events ++ (next a).events := by
  rw [bind_eq, bind, h]

theorem events_bind_of_error {f : Fault} (h : m.outcome = .error f) (next : α → Logged β) :
    (m >>= next).events = m.events := by
  rw [bind_eq, bind, h]

theorem events_bind_pure (m : Logged α) (g : α → β) :
    (m >>= fun a ↦ Pure.pure (g a)).events = m.events := by
  cases h : m.outcome with
  | ok a =>
    rw [events_bind_of_ok h]
    exact List.append_nil _
  | error f => exact events_bind_of_error h _

section Lists

variable {f : α → Logged β} {a : α}

theorem events_mapM_cons_of_ok {b : β} (h : (f a).outcome = .ok b) (as : List α) :
    ((a :: as).mapM f).events = (f a).events ++ (as.mapM f).events := by
  rw [List.mapM_cons, events_bind_of_ok h, events_bind_pure]

theorem events_mapM_cons_of_error {e : Fault} (h : (f a).outcome = .error e) (as : List α) :
    ((a :: as).mapM f).events = (f a).events := by
  rw [List.mapM_cons, events_bind_of_error h]

end Lists

end Logged

/-! ## Slips that are kept -/

namespace Specifier

/-- The last of several parts of a specifier is kept as a key although it resembles an operator. -/
structure KeepsSlip (config : Config) (specifier last : String) (near : Operator) : Prop where
  /-- Slips are kept. -/
  policy : config.slipPolicy = .literalKey
  /-- There are several parts, and this is the last. -/
  parts : ∃ parts, HasParts config specifier parts ∧ 2 ≤ parts.length ∧
    parts.getLast? = some last
  /-- It names no operator. -/
  not_named : ∀ op : Operator, op.name ≠ last
  /-- It resembles one. -/
  resembles : Operator.resembling? last = some near

variable {config : Config} {specifier last : String} {near : Operator} {parts : List String}

theorem keepsSlip_iff (h : HasParts config specifier parts) :
    KeepsSlip config specifier last near ↔
      config.slipPolicy = .literalKey ∧ slip? parts = some (last, near) := by
  rw [slip?_eq_some_iff]
  constructor
  · rintro ⟨hpolicy, ⟨parts', h', hlength, hlast⟩, hnot, hnear⟩
    have hparts : parts = parts' :=
      Except.ok.inj ((parts_eq_ok_iff.mpr h).symm.trans (parts_eq_ok_iff.mpr h'))
    subst hparts
    exact ⟨hpolicy, hlength, hlast, hnot, hnear⟩
  · rintro ⟨hpolicy, hlength, hlast, hnot, hnear⟩
    exact ⟨hpolicy, ⟨parts, h, hlength, hlast⟩, hnot, hnear⟩

/-- A slip is reported if it is kept. -/
theorem events_read_of_keepsSlip (h : KeepsSlip config specifier last near) :
    (read config specifier).events = [.slipKept specifier last near] := by
  obtain ⟨parts, hparts, -, -⟩ := h.parts
  obtain ⟨hpolicy, hslip⟩ := (keepsSlip_iff hparts).mp h
  rw [read, parts_eq_ok_iff.mpr hparts, Logged.events_bind_of_ok (Logged.outcome_pure parts)]
  simp only [hslip, hpolicy]
  rw [Logged.events_bind_of_ok (Logged.outcome_report _), Logged.events_bind_pure]
  rfl

/-- Nothing else is reported while a specifier is read. -/
theorem events_read_of_not_keepsSlip (h : ∀ last near, ¬KeepsSlip config specifier last near) :
    (read config specifier).events = [] := by
  rw [read]
  cases hparts : Specifier.parts config specifier with
  | error cause => rfl
  | ok parts =>
    rw [Logged.events_bind_of_ok (Logged.outcome_pure parts)]
    rcases hslip : slip? parts with _ | ⟨last, near⟩
    · simp only [hslip, Logged.events_bind_pure]
      rfl
    · cases hpolicy : config.slipPolicy with
      | reject =>
        simp only [hslip]
        rfl
      | literalKey =>
        exact absurd ((keepsSlip_iff (parts_eq_ok_iff.mp hparts)).mpr ⟨hpolicy, hslip⟩) (h _ _)

/-- A specifier with a slip that is kept asks for equality. -/
theorem KeepsSlip.exists_outcome_read (h : KeepsSlip config specifier last near) :
    ∃ s, (read config specifier).outcome = .ok s ∧ s.operator = .exact := by
  obtain ⟨parts, hparts, -, hlast⟩ := h.parts
  have hno : ¬(config.slipPolicy = .reject ∧ ∃ last, Slips parts last) := by
    rintro ⟨hpolicy, -⟩
    rw [h.policy] at hpolicy
    cases hpolicy
  obtain ⟨s, hs, -, hoperator⟩ := Specifier.exists_outcome_read hparts hno
  rw [split_of_not_named hlast h.not_named] at hoperator
  exact ⟨s, hs, hoperator⟩

/-- A lookup with a slip that is kept has no fault, whatever its target. -/
theorem KeepsSlip.not_entryFault (h : KeepsSlip config specifier last near) (target : Value)
    (f : Fault) : ¬Lookups.EntryFault config specifier target f := by
  obtain ⟨s, hs, hoperator⟩ := h.exists_outcome_read
  have htakes : ∀ {s'}, (read config specifier).outcome = .ok s' →
      s'.operator.takesPattern ≠ true := by
    intro s' hs'
    obtain rfl := Except.ok.inj (hs.symm.trans hs')
    rw [hoperator]
    exact nofun
  intro hfault
  cases hfault with
  | unread h =>
    rw [hs] at h
    cases h
  | notText hs' hop _ => exact htakes hs' hop
  | badPattern hs' hop _ _ => exact htakes hs' hop

end Specifier

/-! ## Lookups that are prepared -/

namespace Condition

variable {config : Config} {specifier : String} {target : Value}

/-- A lookup that fails reports nothing. -/
theorem events_compile_of_fault {f : Fault} (h : Lookups.EntryFault config specifier target f) :
    (compile config specifier target).events = [] := by
  have hread : (Specifier.read config specifier).events = [] :=
    Specifier.events_read_of_not_keepsSlip fun last near hslip ↦ hslip.not_entryFault target f h
  have herror := outcome_compile_eq_error.mpr h
  rw [compile] at herror ⊢
  rcases Logged.outcome_bind_eq_error.mp herror with hunread | ⟨s, hs, hrest⟩
  · rw [Logged.events_bind_of_error hunread, hread]
  · rw [Logged.events_bind_of_ok hs, hread, List.nil_append]
    rcases Logged.outcome_bind_eq_error.mp hrest with hprepare | ⟨operand, -, hrest⟩
    · exact Logged.events_bind_of_error hprepare _
    · cases hrest

/-- A lookup that is prepared reports so, after what reading its specifier reports. -/
theorem events_compile_of_read {s : Specifier}
    (hok : ∀ f, ¬Lookups.EntryFault config specifier target f)
    (hs : (Specifier.read config specifier).outcome = .ok s) :
    (compile config specifier target).events =
      (Specifier.read config specifier).events ++ [.prepared specifier s.path s.operator] := by
  obtain ⟨c, hc⟩ := exists_outcome_compile_eq_ok_iff.mpr hok
  obtain ⟨s', operand, hs', hoperand, -⟩ := outcome_compile_eq_ok.mp hc
  obtain rfl := Except.ok.inj (hs.symm.trans hs')
  have hprepare : (Logged.ofExcept (prepare specifier s.operator target)).outcome = .ok operand :=
    hoperand
  rw [compile, Logged.events_bind_of_ok hs, Logged.events_bind_of_ok hprepare]
  rfl

end Condition

namespace Lookups

/-- What is reported of lookups that are prepared one after the other. -/
inductive Reports (config : Config) : List (String × Value) → List Event → Prop
  /-- There are no lookups left. -/
  | done : Reports config [] []
  /-- A lookup that cannot be prepared is the last that is looked at. -/
  | failed {specifier : String} {target : Value} {rest : List (String × Value)} {f : Fault}
      (h : EntryFault config specifier target f) : Reports config ((specifier, target) :: rest) []
  /-- A lookup is prepared in whose specifier a slip was kept. -/
  | slipped {specifier last : String} {target : Value} {rest : List (String × Value)}
      {near : Operator} {s : Specifier} {events : List Event}
      (hok : ∀ f, ¬EntryFault config specifier target f)
      (hs : (Specifier.read config specifier).outcome = .ok s)
      (hslip : Specifier.KeepsSlip config specifier last near)
      (hrest : Reports config rest events) : Reports config ((specifier, target) :: rest)
        (.slipKept specifier last near :: .prepared specifier s.path s.operator :: events)
  /-- A lookup is prepared in whose specifier there is nothing to remark. -/
  | prepared {specifier : String} {target : Value} {rest : List (String × Value)} {s : Specifier}
      {events : List Event} (hok : ∀ f, ¬EntryFault config specifier target f)
      (hs : (Specifier.read config specifier).outcome = .ok s)
      (hno : ∀ last near, ¬Specifier.KeepsSlip config specifier last near)
      (hrest : Reports config rest events) : Reports config ((specifier, target) :: rest)
        (.prepared specifier s.path s.operator :: events)

variable {config : Config} {entries : List (String × Value)} {events : List Event}

theorem Reports.events_mapM (h : Reports config entries events) :
    (entries.mapM fun e ↦ Condition.compile config e.1 e.2).events = events := by
  induction h with
  | done => rfl
  | @failed specifier target rest f h =>
    have herror := Condition.outcome_compile_eq_error.mpr h
    exact (Logged.events_mapM_cons_of_error (a := (specifier, target)) herror rest).trans
      (Condition.events_compile_of_fault h)
  | @slipped specifier last target rest near s events hok hs hslip _ ih =>
    obtain ⟨c, hc⟩ := Condition.exists_outcome_compile_eq_ok_iff.mpr hok
    refine (Logged.events_mapM_cons_of_ok (a := (specifier, target)) hc rest).trans ?_
    rw [Condition.events_compile_of_read hok hs, Specifier.events_read_of_keepsSlip hslip, ih]
    rfl
  | @prepared specifier target rest s events hok hs hno _ ih =>
    obtain ⟨c, hc⟩ := Condition.exists_outcome_compile_eq_ok_iff.mpr hok
    refine (Logged.events_mapM_cons_of_ok (a := (specifier, target)) hc rest).trans ?_
    rw [Condition.events_compile_of_read hok hs, Specifier.events_read_of_not_keepsSlip hno, ih]
    rfl

/-- There is a rule for every list of lookups. -/
theorem exists_reports (config : Config) (entries : List (String × Value)) :
    ∃ events, Reports config entries events := by
  induction entries with
  | nil => exact ⟨[], .done⟩
  | cons e rest ih =>
    obtain ⟨specifier, target⟩ := e
    obtain ⟨events, hrest⟩ := ih
    by_cases hok : ∀ f, ¬EntryFault config specifier target f
    · obtain ⟨c, hc⟩ := Condition.exists_outcome_compile_eq_ok_iff.mpr hok
      obtain ⟨s, operand, hs, -, -⟩ := Condition.outcome_compile_eq_ok.mp hc
      by_cases hslip : ∃ last near, Specifier.KeepsSlip config specifier last near
      · obtain ⟨last, near, hslip⟩ := hslip
        exact ⟨_, .slipped hok hs hslip hrest⟩
      · exact ⟨_, .prepared hok hs (fun last near h ↦ hslip ⟨last, near, h⟩) hrest⟩
    · obtain ⟨f, hf⟩ := not_forall_not.mp hok
      exact ⟨[], .failed hf⟩

end Lookups

/-! ## Filters -/

namespace Filter

variable {config : Config}

theorem events_compile_of_fault {cause : ConfigFault} (h : config.fault? = some cause)
    (l : Lookups) : (compile config l).events = [] := by
  rw [compile, h]
  rfl

theorem events_compile_of_no_fault (h : config.fault? = none) (l : Lookups) :
    (compile config l).events =
      (l.entries.mapM fun e ↦ Condition.compile config e.1 e.2).events := by
  rw [compile, h]
  exact Logged.events_bind_pure _ _

end Filter

namespace Selection

variable {s : Selection} {l : Lookups}

theorem events_filter_of_error {f : Fault}
    (h : (Filter.compile s.config l).outcome = .error f) :
    (s.filter l).events = (Filter.compile s.config l).events := by
  rw [filter, Logged.events_bind_of_error h]

theorem events_filter_of_ok {f : Filter} (h : (Filter.compile s.config l).outcome = .ok f) :
    (s.filter l).events = (Filter.compile s.config l).events ++
      [.filtered l.size s.size (s.passing f).size] := by
  have hlength : f.conditions.length = l.size :=
    (List.Forall₂.length_eq (Filter.outcome_compile_eq_ok.mp h).2).symm
  rw [filter, Logged.events_bind_of_ok h, ← hlength]
  rfl

/-- Asking for one record reports what filtering does. -/
theorem events_getOne (hne : l.isEmpty = false) :
    (s.getOne l).events = (s.filter l).events := by
  rw [getOne, Filter.selectOne, if_neg (Bool.eq_false_iff.mp hne)]
  cases h : (Filter.compile s.config l).outcome with
  | error f => rw [events_filter_of_error h, Logged.events_bind_of_error h]
  | ok f =>
    rw [filter, Logged.events_bind_of_ok h, Logged.events_bind_of_ok h,
      Logged.events_bind_of_ok (f.outcome_select s.found),
      Logged.events_bind_of_ok (f.outcome_select s.found)]
    -- Whatever is made of what was found, it is not reported.
    congr 2
    generalize s.found.filter (f.isMatch ·.record) = found
    rcases found with _ | ⟨p, _ | ⟨q, rest⟩⟩ <;> rfl

/-! ## Calls -/

/-- What filtering a selection reports. -/
inductive Logs (s : Selection) (l : Lookups) : List Event → Prop
  /-- Nothing, if the configuration cannot be used. -/
  | unusable {cause : ConfigFault} (h : s.config.fault? = some cause) : Logs s l []
  /-- What is reported of the lookups alone, if one of them cannot be prepared. -/
  | stopped {f : Fault} {events : List Event} (hconfig : s.config.fault? = none)
      (hfault : l.FirstFault s.config f) (h : Lookups.Reports s.config l.entries events) :
      Logs s l events
  /-- What is reported of the lookups, and then how many they are, how many records there were and
  how many of them were found. -/
  | finished {events : List Event} {t : Selection} (hconfig : s.config.fault? = none)
      (hok : ∀ e ∈ l.entries, ∀ f, ¬Lookups.EntryFault s.config e.1 e.2 f)
      (h : Lookups.Reports s.config l.entries events) (ht : (s.filter l).outcome = .ok t) :
      Logs s l (events ++ [.filtered l.size s.size t.size])

theorem Logs.events_filter {events : List Event} (h : s.Logs l events) :
    (s.filter l).events = events := by
  cases h with
  | unusable h =>
    rw [events_filter_of_error (Filter.outcome_compile_of_fault h l),
      Filter.events_compile_of_fault h]
  | stopped hconfig hfault h =>
    have herror := Filter.outcome_compile_eq_error.mpr (Or.inr ⟨hconfig, hfault⟩)
    rw [events_filter_of_error herror, Filter.events_compile_of_no_fault hconfig, h.events_mapM]
  | finished hconfig hok h ht =>
    obtain ⟨f, hf⟩ := Filter.exists_outcome_compile_eq_ok_iff.mpr ⟨hconfig, hok⟩
    obtain rfl := Except.ok.inj ((outcome_filter_of_ok hf).symm.trans ht)
    rw [events_filter_of_ok hf, Filter.events_compile_of_no_fault hconfig, h.events_mapM]

/-- There is a rule for every call. -/
theorem exists_logs (s : Selection) (l : Lookups) : ∃ events, s.Logs l events := by
  cases hconfig : s.config.fault? with
  | some cause => exact ⟨[], .unusable hconfig⟩
  | none =>
    obtain ⟨events, h⟩ := Lookups.exists_reports s.config l.entries
    cases hl : (Filter.compile s.config l).outcome with
    | ok f =>
      have hok := (Filter.exists_outcome_compile_eq_ok_iff.mp ⟨f, hl⟩).2
      exact ⟨_, .finished hconfig hok h (outcome_filter_of_ok hl)⟩
    | error f =>
      rcases Filter.outcome_compile_eq_error.mp hl with ⟨cause, hcause, -⟩ | ⟨-, hfault⟩
      · rw [hconfig] at hcause
        cases hcause
      · exact ⟨events, .stopped hconfig hfault h⟩

theorem logs_iff {events : List Event} : s.Logs l events ↔ events = (s.filter l).events := by
  constructor
  · exact fun h ↦ h.events_filter.symm
  · rintro rfl
    obtain ⟨events, h⟩ := exists_logs s l
    rwa [h.events_filter]

/-- **Events mirror the call.** Filtering reports what the rules say and nothing else, and asking
for one record reports the same, however it ends, but nothing if there are no lookups. A collection
is filtered as the selection of all its records. The trace is made of the lookups that were prepared
and of nothing else, and only what a filter reports at its end is worded as its end. -/
theorem events_mirror_call (s : Selection) (l : Lookups) :
    (∀ events, s.Logs l events ↔ events = (s.filter l).events) ∧
      (s.getOne l).events = (if l.isEmpty then [] else (s.filter l).events) ∧
      (∀ c : Collection, c.filter l = c.all.filter l ∧ c.getOne l = c.all.getOne l ∧
        c.all.size = c.size) ∧
      (∀ e : Event, e.level = .trace ↔ ∃ specifier path op, e = .prepared specifier path op) ∧
      ∀ e : Event, e.message = "filter pass complete" ↔
        ∃ conditions candidates found, e = .filtered conditions candidates found := by
  refine ⟨fun events ↦ logs_iff, ?_, fun c ↦ ⟨rfl, rfl, ?_⟩, fun e ↦ ?_, fun e ↦ ?_⟩
  · cases hl : l.isEmpty with
    | true =>
      rw [getOne, Filter.selectOne, if_pos hl]
      rfl
    | false => exact events_getOne hl
  · rw [size, Collection.all, Placed.number, List.length_map, List.length_zipIdx, Collection.size]
  · cases e <;> simp [Event.level]
  · cases e <;> simp [Event.message]

example : (Collection.filter {} ⟨[("a__exakt", .null), ("b__regex", .null), ("c", .null)]⟩).events =
    [.slipKept "a__exakt" "exakt" .exact,
      .prepared "a__exakt" ⟨[.key "a", .key "exakt"], List.cons_ne_nil _ _⟩ .exact] := by
  decide +kernel

end Selection

end RecordQuery
