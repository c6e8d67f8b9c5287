import RecordQuery.Filter
import RecordQuery.Proofs.Ends
import RecordQuery.Proofs.Entries
import RecordQuery.Proofs.Outcome

/-!
# The meaning of lookups

What lookups ask of a record is stated here without any preparation: an operator is a relation
between a value and the target as it was given, and a record is accepted if every lookup relates
some value at the ends of its path to its target. The faults of lookups are stated likewise, as
facts about a specifier and a target.

Filters prepare all this once, and choose for each operator what to keep of its target. That nothing
is lost by it is the matter of this file: a filter is prepared exactly if there is no fault, fails
with the first fault otherwise, and selects exactly the accepted records.
-/

namespace RecordQuery

/-! ## Operators as relations -/

/-- A text in which a pattern, read from the target, matches some part. -/
def Pattern.Finds (ignoreCase : Bool) (found target : Value) : Prop :=
  ∃ s t p, found = .text s ∧ target = .text t ∧ compile ignoreCase t = .ok p ∧ p.isMatch s = true

/-- The relation between a found value and a target that an operator stands for. -/
def Operator.Relates : Operator → Value → Value → Prop
  | exact, found, target => (found == target) = true
  | exactIgnoringCase, found, target =>
    ∃ s t, found = .text s ∧ target = .text t ∧ Text.lower s.toList = Text.lower t.toList
  | memberOf, found, target =>
    (∃ items, target = .sequence items ∧ ∃ item ∈ items, (item == found) = true) ∨
      (∃ part whole, found = .text part ∧ target = .text whole ∧ part.toList <:+: whole.toList) ∨
      (∃ name fields, found = .text name ∧ target = .record fields ∧ name ∈ fields.keys)
  | pattern, found, target => Pattern.Finds false found target
  | patternIgnoringCase, found, target => Pattern.Finds true found target
  | contains, found, target =>
    (∃ whole part, found = .text whole ∧ target = .text part ∧ part.toList <:+: whole.toList) ∨
      (∃ items, found = .sequence items ∧ ∃ item ∈ items, (item == target) = true)
  | containsIgnoringCase, found, target =>
    ∃ s t, found = .text s ∧ target = .text t ∧ Text.lower t.toList <:+: Text.lower s.toList

namespace Lookups

/-! ## Accepted records and faults -/

/-- What is wrong with a single lookup: its specifier cannot be read, or its operator takes a
pattern and the target is none. -/
inductive EntryFault (config : Config) (specifier : String) (target : Value) : Fault → Prop
  /-- The specifier cannot be read. -/
  | unread {f : Fault} (h : (Specifier.read config specifier).outcome = .error f) :
      EntryFault config specifier target f
  /-- The target of a pattern operator is not a text. -/
  | notText {s : Specifier} (h : (Specifier.read config specifier).outcome = .ok s)
      (hop : s.operator.takesPattern = true) (ht : target.text? = none) :
      EntryFault config specifier target (.patternNotText specifier target.kind)
  /-- The target of a pattern operator cannot be read as a pattern. -/
  | badPattern {s : Specifier} {text : String} {cause : PatternFault}
      (h : (Specifier.read config specifier).outcome = .ok s)
      (hop : s.operator.takesPattern = true) (ht : target = .text text)
      (hp : Pattern.compile s.operator.ignoresCase text = .error cause) :
      EntryFault config specifier target (.badPattern specifier cause)

/-- The fault of the first lookup that has one. -/
def FirstFault (config : Config) (lookups : Lookups) (f : Fault) : Prop :=
  ∃ before specifier target after, lookups.entries = before ++ (specifier, target) :: after ∧
    (∀ e ∈ before, ∀ g, ¬EntryFault config e.1 e.2 g) ∧ EntryFault config specifier target f

/-- A record has, for every lookup, some value at the ends of the path that the operator relates to
the target. -/
def Accept (config : Config) (lookups : Lookups) (r : Record) : Prop :=
  ∀ e ∈ lookups.entries, ∃ s, (Specifier.read config e.1).outcome = .ok s ∧
    ∃ found ∈ Path.ends s.path.segments r, s.operator.Relates found e.2

end Lookups

theorem Value.eq_text_of_text? {v : Value} {s : String} (h : v.text? = some s) : v = .text s := by
  cases v <;> cases h
  rfl

namespace Condition

/-! ## Conditions -/

theorem isMember_iff (found target : Value) :
    isMember found target = true ↔ Operator.memberOf.Relates found target := by
  rw [Operator.Relates]
  cases target with
  | sequence items => simp [isMember]
  | text whole => cases found <;> simp [isMember, Text.occursIn_iff_infix]
  | record fields => cases found <;> simp [isMember, OrderedMap.contains_eq_true_iff]
  | _ => simp [isMember]

theorem hasPart_iff (found target : Value) :
    hasPart found target = true ↔ Operator.contains.Relates found target := by
  rw [Operator.Relates]
  cases found with
  | text whole => cases target <;> simp [hasPart, Text.occursIn_iff_infix]
  | sequence items => simp [hasPart]
  | _ => simp [hasPart]

/-! ### Preparation -/

section Pattern

variable {specifier : String} {operator : Operator} (hop : operator.takesPattern = true)
include hop

theorem prepare_text_of_takesPattern (s : String) : prepare specifier operator (.text s) =
    match Pattern.compile operator.ignoresCase s with
    | .ok p => .ok (.pattern p)
    | .error cause => .error (.badPattern specifier cause) := by
  cases operator with
  | pattern => rfl
  | patternIgnoringCase => rfl
  | _ => cases hop

theorem prepare_of_text?_eq_none {target : Value} (h : target.text? = none) :
    prepare specifier operator target = .error (.patternNotText specifier target.kind) := by
  cases target with
  | text s => cases h
  | _ =>
    cases operator with
    | pattern => rfl
    | patternIgnoringCase => rfl
    | _ => cases hop

theorem relates_iff_finds (found target : Value) :
    operator.Relates found target ↔ Pattern.Finds operator.ignoresCase found target := by
  cases operator with
  | pattern => exact Iff.rfl
  | patternIgnoringCase => exact Iff.rfl
  | _ => cases hop

end Pattern

theorem prepare_of_takesPattern_eq_false {operator : Operator} (h : operator.takesPattern = false)
    (specifier : String) (target : Value) :
    ∃ operand, prepare specifier operator target = .ok operand := by
  cases operator <;> cases h <;> cases target <;> exact ⟨_, rfl⟩

/-- Preparing a target fails for operators that take a pattern only. -/
theorem prepare_eq_error {specifier : String} {operator : Operator} {target : Value} {f : Fault} :
    prepare specifier operator target = .error f ↔ operator.takesPattern = true ∧
      ((target.text? = none ∧ f = .patternNotText specifier target.kind) ∨
        ∃ text cause, target = .text text ∧
          Pattern.compile operator.ignoresCase text = .error cause ∧
          f = .badPattern specifier cause) := by
  cases hop : operator.takesPattern with
  | false =>
    obtain ⟨operand, hok⟩ := prepare_of_takesPattern_eq_false hop specifier target
    simp [hok]
  | true =>
    cases htext : target.text? with
    | none =>
      rw [prepare_of_text?_eq_none hop htext, Except.error.injEq, eq_comm]
      constructor
      · exact fun hf ↦ ⟨rfl, Or.inl ⟨rfl, hf⟩⟩
      · rintro ⟨-, ⟨-, hf⟩ | ⟨text, cause, rfl, -⟩⟩
        · exact hf
        · cases htext
    | some text =>
      obtain rfl := Value.eq_text_of_text? htext
      rw [prepare_text_of_takesPattern hop]
      cases hp : Pattern.compile operator.ignoresCase text with
      | ok p => simp [hp]
      | error cause => simp [hp, eq_comm]

/-- A prepared target serves its operator as the target itself does. -/
theorem matchesValue_iff_relates {specifier : String} {path : Path} {operator : Operator}
    {target : Value} {operand : Operand} (h : prepare specifier operator target = .ok operand)
    (found : Value) : matchesValue ⟨specifier, path, operator, target, operand⟩ found = true ↔
      operator.Relates found target := by
  cases hop : operator.takesPattern with
  | true =>
    rw [relates_iff_finds hop]
    -- A target other than a text was refused, so there would be no operand.
    cases htext : target.text? with
    | none => rw [prepare_of_text?_eq_none hop htext] at h; cases h
    | some text =>
      obtain rfl := Value.eq_text_of_text? htext
      rw [prepare_text_of_takesPattern hop] at h
      cases hp : Pattern.compile operator.ignoresCase text with
      | error cause => rw [hp] at h; cases h
      | ok p =>
        rw [hp] at h
        cases h
        cases operator <;> cases hop <;> cases found <;>
          simp_all [matchesValue, Pattern.Finds, Operator.ignoresCase]
  | false =>
    cases operator with
    | exact => exact Iff.rfl
    | memberOf => exact isMember_iff found target
    | contains => exact hasPart_iff found target
    | exactIgnoringCase =>
      cases target <;> cases h <;> cases found <;> simp [matchesValue, Operator.Relates]
    | containsIgnoringCase =>
      cases target <;> cases h <;> cases found <;>
        simp [matchesValue, Operator.Relates, Text.occursIn_iff_infix]
    | pattern => cases hop
    | patternIgnoringCase => cases hop

/-! ### Whole conditions -/

theorem outcome_compile_eq_ok {config : Config} {specifier : String} {target : Value}
    {c : Condition} : (compile config specifier target).outcome = .ok c ↔
      ∃ s operand, (Specifier.read config specifier).outcome = .ok s ∧
        prepare specifier s.operator target = .ok operand ∧
        c = ⟨specifier, s.path, s.operator, target, operand⟩ := by
  rw [compile, Logged.outcome_bind_eq_ok]
  constructor
  · rintro ⟨s, hs, h⟩
    obtain ⟨operand, hoperand, h⟩ := Logged.outcome_bind_eq_ok.mp h
    exact ⟨s, operand, hs, hoperand, (Except.ok.inj h).symm⟩
  · rintro ⟨s, operand, hs, hoperand, rfl⟩
    exact ⟨s, hs, Logged.outcome_bind_eq_ok.mpr ⟨operand, hoperand, rfl⟩⟩

theorem outcome_compile_eq_error {config : Config} {specifier : String} {target : Value}
    {f : Fault} : (compile config specifier target).outcome = .error f ↔
      Lookups.EntryFault config specifier target f := by
  rw [compile, Logged.outcome_bind_eq_error]
  constructor
  · rintro (h | ⟨s, hs, h⟩)
    · exact .unread h
    · have hprepare : prepare specifier s.operator target = .error f := by
        rcases Logged.outcome_bind_eq_error.mp h with h | ⟨operand, -, h⟩
        · exact h
        · cases h
      obtain ⟨hop, ⟨ht, rfl⟩ | ⟨text, cause, ht, hp, rfl⟩⟩ := prepare_eq_error.mp hprepare
      · exact .notText hs hop ht
      · exact .badPattern hs hop ht hp
  · intro h
    cases h with
    | unread h => exact Or.inl h
    | notText hs hop ht =>
      refine Or.inr ⟨_, hs, Logged.outcome_bind_of_error ?_ _⟩
      exact prepare_eq_error.mpr ⟨hop, Or.inl ⟨ht, rfl⟩⟩
    | badPattern hs hop ht hp =>
      refine Or.inr ⟨_, hs, Logged.outcome_bind_of_error ?_ _⟩
      exact prepare_eq_error.mpr ⟨hop, Or.inr ⟨_, _, ht, hp, rfl⟩⟩

/-- A lookup becomes a condition unless it has a fault. -/
theorem exists_outcome_compile_eq_ok_iff {config : Config} {specifier : String} {target : Value} :
    (∃ c, (compile config specifier target).outcome = .ok c) ↔
      ∀ f, ¬Lookups.EntryFault config specifier target f := by
  simp only [← outcome_compile_eq_error]
  cases (compile config specifier target).outcome <;> simp

theorem matchesResolved_eq_any (c : Condition) (reached : Resolved) :
    c.matchesResolved reached = reached.candidates.any c.matchesValue := by
  cases reached <;> simp [matchesResolved, Resolved.candidates]

/-- A condition holds of what a path reaches if it holds of some value at its ends. -/
theorem matchesResolved_iff_exists_mem_ends (c : Condition) (p : Path) (r : Record) :
    c.matchesResolved (p.resolve r) = true ↔
      ∃ found ∈ Path.ends p.segments r, c.matchesValue found = true := by
  rw [matchesResolved_eq_any, Path.candidates_resolve, List.any_eq_true]

end Condition

namespace Filter

/-! ## Filters -/

theorem outcome_compile_of_fault {config : Config} {cause : ConfigFault}
    (h : config.fault? = some cause) (lookups : Lookups) :
    (compile config lookups).outcome = .error (.badConfig cause) := by
  rw [compile, h]
  rfl

theorem outcome_compile_of_no_fault {config : Config} (h : config.fault? = none)
    (lookups : Lookups) : (compile config lookups).outcome =
      ((lookups.entries.mapM fun e ↦ Condition.compile config e.1 e.2) >>= fun conditions ↦
        pure ⟨conditions⟩).outcome := by
  rw [compile, h]

/-- A filter that was prepared has one condition for every lookup. -/
theorem outcome_compile_eq_ok {config : Config} {lookups : Lookups} {filter : Filter} :
    (compile config lookups).outcome = .ok filter ↔ config.fault? = none ∧
      List.Forall₂ (fun e c ↦ (Condition.compile config e.1 e.2).outcome = .ok c)
        lookups.entries filter.conditions := by
  cases h : config.fault? with
  | some cause => simp [outcome_compile_of_fault h]
  | none =>
    rw [outcome_compile_of_no_fault h, Logged.outcome_bind_eq_ok]
    simp only [Logged.outcome_mapM_eq_ok, Logged.outcome_pure, Except.ok.injEq, true_and]
    constructor
    · rintro ⟨conditions, hall, rfl⟩
      exact hall
    · exact fun hall ↦ ⟨filter.conditions, hall, rfl⟩

theorem outcome_compile_eq_error {config : Config} {lookups : Lookups} {f : Fault} :
    (compile config lookups).outcome = .error f ↔
      (∃ cause, config.fault? = some cause ∧ f = .badConfig cause) ∨
        (config.fault? = none ∧ lookups.FirstFault config f) := by
  cases h : config.fault? with
  | some cause => simp [outcome_compile_of_fault h, eq_comm]
  | none =>
    rw [outcome_compile_of_no_fault h, Logged.outcome_bind_eq_error]
    simp only [Logged.outcome_mapM_eq_error, Logged.outcome_pure, reduceCtorEq, and_false,
      exists_false, or_false, false_and, true_and, false_or,
      Condition.exists_outcome_compile_eq_ok_iff, Condition.outcome_compile_eq_error]
    constructor
    · rintro ⟨before, ⟨specifier, target⟩, after, heq, hbefore, h⟩
      exact ⟨before, specifier, target, after, heq, hbefore, h⟩
    · rintro ⟨before, specifier, target, after, heq, hbefore, h⟩
      exact ⟨before, (specifier, target), after, heq, hbefore, h⟩

/-- A filter can be prepared unless something is wrong. -/
theorem exists_outcome_compile_eq_ok_iff {config : Config} {lookups : Lookups} :
    (∃ filter, (compile config lookups).outcome = .ok filter) ↔ config.fault? = none ∧
      ∀ e ∈ lookups.entries, ∀ f, ¬Lookups.EntryFault config e.1 e.2 f := by
  constructor
  · rintro ⟨filter, h⟩
    obtain ⟨hconfig, hall⟩ := outcome_compile_eq_ok.mp h
    refine ⟨hconfig, fun e he ↦ Condition.exists_outcome_compile_eq_ok_iff.mp ?_⟩
    obtain ⟨i, hi, rfl⟩ := List.getElem_of_mem he
    exact ⟨_, (List.forall₂_iff_get.mp hall).2 i hi ((List.Forall₂.length_eq hall) ▸ hi)⟩
  · rintro ⟨hconfig, hlookups⟩
    cases h : (compile config lookups).outcome with
    | ok filter => exact ⟨filter, rfl⟩
    | error f =>
      exfalso
      rcases outcome_compile_eq_error.mp h with ⟨cause, hcause, -⟩ | ⟨-, hfirst⟩
      · rw [hconfig] at hcause
        cases hcause
      · obtain ⟨before, specifier, target, after, heq, -, hfault⟩ := hfirst
        exact hlookups (specifier, target) (by simp [heq]) f hfault

theorem outcome_select (filter : Filter) (candidates : List Placed) :
    (filter.select candidates).outcome =
      .ok (candidates.filter (filter.isMatch ·.record)) := rfl

/-- Every lookup that has been prepared keeps its meaning, and so do all of them together. -/
theorem isMatch_iff_accept {config : Config} {lookups : Lookups} {filter : Filter}
    (h : (compile config lookups).outcome = .ok filter) (r : Record) :
    filter.isMatch r = true ↔ lookups.Accept config r := by
  obtain ⟨-, hall⟩ := outcome_compile_eq_ok.mp h
  rw [isMatch, List.all_eq_true, Lookups.Accept]
  -- Conditions and lookups stand side by side, and so the induction is on both.
  generalize lookups.entries = entries at hall
  generalize filter.conditions = conditions at hall
  induction hall with
  | nil => simp
  | @cons e c entries conditions hc _ ih =>
    obtain ⟨s, operand, hs, hoperand, rfl⟩ := Condition.outcome_compile_eq_ok.mp hc
    rw [List.forall_mem_cons, List.forall_mem_cons, ih, Condition.isMatch,
      Condition.matchesResolved_iff_exists_mem_ends]
    simp only [Condition.matchesValue_iff_relates hoperand, hs, Except.ok.injEq,
      exists_eq_left']

open Classical in
/-- **Filters mean their lookups.** Preparing a filter fails exactly for a configuration that cannot
be used and otherwise with the fault of the first lookup that has one. Where there is no fault, the
filter selects the accepted records, in their order and at their positions. -/
theorem compile_select_meaning (config : Config) (lookups : Lookups) :
    (∀ f, (compile config lookups).outcome = .error f ↔
      (∃ cause, config.fault? = some cause ∧ f = .badConfig cause) ∨
        (config.fault? = none ∧ lookups.FirstFault config f)) ∧
    (config.fault? = none →
      (∀ e ∈ lookups.entries, ∀ f, ¬Lookups.EntryFault config e.1 e.2 f) →
      ∃ filter, (compile config lookups).outcome = .ok filter ∧
        ∀ records, (filter.select (Placed.number records)).outcome =
          .ok ((Placed.number records).filter fun p ↦ lookups.Accept config p.record)) := by
  refine ⟨fun f ↦ outcome_compile_eq_error, fun hconfig hlookups ↦ ?_⟩
  obtain ⟨filter, h⟩ := exists_outcome_compile_eq_ok_iff.mpr ⟨hconfig, hlookups⟩
  refine ⟨filter, h, fun records ↦ ?_⟩
  rw [outcome_select]
  congr 2
  funext p
  rw [Bool.eq_iff_iff, decide_eq_true_iff]
  exact isMatch_iff_accept h p.record

open Classical in
theorem compile_select_meaning_member :
    Config.fault? {} = none ∧
    (∀ f, ¬Lookups.EntryFault {} "_any__in" (.sequence [.text "Oslo", .null]) f) ∧
    ∃ filter, (compile {} ⟨[("_any__in", .sequence [.text "Oslo", .null])]⟩).outcome = .ok filter ∧
      ∀ records, (filter.select (Placed.number records)).outcome =
        .ok ((Placed.number records).filter fun p ↦
          Lookups.Accept {} ⟨[("_any__in", .sequence [.text "Oslo", .null])]⟩ p.record) := by
  have hconfig : Config.fault? {} = none := rfl
  have hfault : ∀ f, ¬Lookups.EntryFault {} "_any__in" (.sequence [.text "Oslo", .null]) f :=
    Condition.exists_outcome_compile_eq_ok_iff.mp ⟨_, rfl⟩
  refine ⟨hconfig, hfault, (compile_select_meaning {} _).2 hconfig ?_⟩
  simpa using hfault

end Filter

end RecordQuery
