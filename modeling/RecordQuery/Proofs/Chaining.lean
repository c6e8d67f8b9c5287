import RecordQuery.Collection
import RecordQuery.Proofs.Meaning

/-!
# Chains of filters

Lookups can be applied at once or one after the other. Where no specifier has two targets, it makes
no difference: the same records are found at the same positions, and where something is wrong the
same fault is reported.

## Why the fault is the same

Merging keeps the first lookups where they stand and puts the others behind them, without those that
are there already. A lookup that is left out was prepared before, under the same configuration and
with the same target, so it has no fault; of the others the first with a fault stays the first.

## Copies

A collection that is copied from a selection numbers its records anew, but has the same records and
the same configuration. So everything but the positions is as it would have been without the copy.
-/

namespace RecordQuery

namespace Lookups

/-- Where both have a target under a specifier, it is the same. -/
def Compatible (l m : Lookups) : Prop :=
  ∀ e ∈ l.entries, ∀ e' ∈ m.entries, e.1 = e'.1 → e.2 = e'.2

/-- Lookups with all pairs of others inserted. -/
def merge (l m : Lookups) : Lookups := l.insertMany m.entries

/-- Lookups with all pairs of several others inserted, one after the other. -/
def mergeAll (l : Lookups) (others : List Lookups) : Lookups := others.foldl merge l

theorem compatible_self {l : Lookups} (hl : l.keys.Nodup) : l.Compatible l := fun _ he _ he' h ↦
  congrArg Prod.snd (List.inj_on_of_nodup_map hl he he' h)

/-! ## Merged lookups -/

section Merge

variable {l m : Lookups} (hm : m.keys.Nodup) (h : l.Compatible m)
include hm h

theorem entries_merge :
    (l.merge m).entries = l.entries ++ m.entries.filter fun e ↦ !l.contains e.1 :=
  OrderedMap.entries_insertMany hm fun e he v hv ↦
    h (e.1, v) (OrderedMap.mem_of_lookup_eq_some hv) e he rfl

omit hm in
/-- A lookup whose specifier is there already is there itself. -/
theorem mem_entries_of_contains {e : String × Value} (he : e ∈ m.entries)
    (hcontains : l.contains e.1 = true) : e ∈ l.entries := by
  obtain ⟨v, hv⟩ := Option.isSome_iff_exists.mp hcontains
  have hmem := OrderedMap.mem_of_lookup_eq_some hv
  obtain rfl : v = e.2 := h (e.1, v) hmem e he rfl
  exact hmem

theorem mem_entries_merge_iff {e : String × Value} :
    e ∈ (l.merge m).entries ↔ e ∈ l.entries ∨ e ∈ m.entries := by
  rw [entries_merge hm h, List.mem_append, List.mem_filter]
  constructor
  · exact Or.imp_right And.left
  · rintro (he | he)
    · exact Or.inl he
    · cases hcontains : l.contains e.1 with
      | true => exact Or.inl (mem_entries_of_contains h he hcontains)
      | false => exact Or.inr ⟨he, rfl⟩

theorem accept_merge_iff {config : Config} {r : Record} :
    (l.merge m).Accept config r ↔ l.Accept config r ∧ m.Accept config r := by
  simp only [Accept, mem_entries_merge_iff hm h, or_imp, forall_and]

theorem firstFault_merge_left {config : Config} {f : Fault} (hf : l.FirstFault config f) :
    (l.merge m).FirstFault config f := by
  obtain ⟨before, specifier, target, after, heq, hbefore, hfault⟩ := hf
  refine ⟨before, specifier, target, after ++ m.entries.filter fun e ↦ !l.contains e.1, ?_,
    hbefore, hfault⟩
  rw [entries_merge hm h, heq, List.append_assoc, List.cons_append]

theorem firstFault_merge_right {config : Config} {f : Fault}
    (hl : ∀ e ∈ l.entries, ∀ g, ¬EntryFault config e.1 e.2 g) (hf : m.FirstFault config f) :
    (l.merge m).FirstFault config f := by
  obtain ⟨before, specifier, target, after, heq, hbefore, hfault⟩ := hf
  have hmem : (specifier, target) ∈ m.entries := by
    rw [heq]
    exact List.mem_append_right _ List.mem_cons_self
  have hnew : l.contains specifier = false := by
    rw [Bool.eq_false_iff]
    exact fun hcontains ↦ hl _ (mem_entries_of_contains h hmem hcontains) f hfault
  refine ⟨l.entries ++ before.filter fun e ↦ !l.contains e.1, specifier, target,
    after.filter fun e ↦ !l.contains e.1, ?_, ?_, hfault⟩
  · rw [entries_merge hm h, heq, List.filter_append, List.filter_cons_of_pos (by simp [hnew]),
      List.append_assoc]
  · rw [List.forall_mem_append]
    exact ⟨hl, fun e he ↦ hbefore e (List.mem_of_mem_filter he)⟩

theorem Compatible.merge_left {n : Lookups} (hln : l.Compatible n) (hmn : m.Compatible n) :
    (l.merge m).Compatible n := by
  intro e he
  rcases (mem_entries_merge_iff hm h).mp he with he | he
  · exact hln e he
  · exact hmn e he

end Merge

/-- Merging lookups with themselves changes nothing. -/
theorem merge_self {l : Lookups} (hl : l.keys.Nodup) : l.merge l = l := by
  have hcontains : ∀ e ∈ l.entries, l.contains e.1 = true := fun e he ↦
    OrderedMap.contains_eq_true_iff.mpr (List.mem_map_of_mem he)
  refine congrArg OrderedMap.mk ((entries_merge hl (compatible_self hl)).trans ?_)
  rw [List.filter_eq_nil_iff.mpr fun e he ↦ by simp [hcontains e he], List.append_nil]

end Lookups

/-! ## Merged filters -/

namespace Filter

variable {l m : Lookups} (hm : m.keys.Nodup) (h : l.Compatible m) {config : Config} {a b : Filter}
  {f : Fault}
include hm h

theorem outcome_compile_merge_of_error_left (hl : (compile config l).outcome = .error f) :
    (compile config (l.merge m)).outcome = .error f :=
  outcome_compile_eq_error.mpr ((outcome_compile_eq_error.mp hl).imp_right
    (And.imp_right (Lookups.firstFault_merge_left hm h)))

theorem outcome_compile_merge_of_error_right (hl : (compile config l).outcome = .ok a)
    (hr : (compile config m).outcome = .error f) :
    (compile config (l.merge m)).outcome = .error f := by
  obtain ⟨-, hfree⟩ := exists_outcome_compile_eq_ok_iff.mp ⟨a, hl⟩
  exact outcome_compile_eq_error.mpr ((outcome_compile_eq_error.mp hr).imp_right
    (And.imp_right (Lookups.firstFault_merge_right hm h hfree)))

/-- Merged lookups are prepared if both are, and a record passes if it passes both. -/
theorem exists_outcome_compile_merge (hl : (compile config l).outcome = .ok a)
    (hr : (compile config m).outcome = .ok b) :
    ∃ c, (compile config (l.merge m)).outcome = .ok c ∧
      ∀ r, c.isMatch r = (a.isMatch r && b.isMatch r) := by
  obtain ⟨hconfig, hfree⟩ := exists_outcome_compile_eq_ok_iff.mp ⟨a, hl⟩
  obtain ⟨-, hfree'⟩ := exists_outcome_compile_eq_ok_iff.mp ⟨b, hr⟩
  obtain ⟨c, hc⟩ := exists_outcome_compile_eq_ok_iff.mpr ⟨hconfig, fun e he ↦
    ((Lookups.mem_entries_merge_iff hm h).mp he).elim (hfree e) (hfree' e)⟩
  refine ⟨c, hc, fun r ↦ ?_⟩
  rw [Bool.eq_iff_iff, Bool.and_eq_true, isMatch_iff_accept hc, isMatch_iff_accept hl,
    isMatch_iff_accept hr, Lookups.accept_merge_iff hm h]

end Filter

namespace Selection

/-! ## One filter after the other -/

/-- The selected records that pass a filter. -/
def passing (s : Selection) (f : Filter) : Selection :=
  { s with found := s.found.filter (f.isMatch ·.record) }

theorem outcome_filter (s : Selection) (l : Lookups) :
    (s.filter l).outcome = (Filter.compile s.config l).outcome.map s.passing := by
  rw [filter, Logged.outcome_bind]
  cases (Filter.compile s.config l).outcome <;> rfl

theorem passing_eq_of_isMatch {s : Selection} {a b c : Filter}
    (h : ∀ r, c.isMatch r = (a.isMatch r && b.isMatch r)) :
    s.passing c = (s.passing a).passing b := by
  simp only [passing, List.filter_filter, h, Bool.and_comm]

theorem outcome_filter_merge {l m : Lookups} (hm : m.keys.Nodup) (h : l.Compatible m)
    (s : Selection) : (s.filter (l.merge m)).outcome = (s.filter l >>= (·.filter m)).outcome := by
  have hstep : (s.filter l >>= (·.filter m)).outcome =
      (Filter.compile s.config l).outcome.bind fun a ↦
        (Filter.compile s.config m).outcome.map (s.passing a).passing := by
    rw [Logged.outcome_bind, outcome_filter]
    cases (Filter.compile s.config l).outcome with
    | error f => rfl
    | ok a => exact outcome_filter (s.passing a) m
  rw [hstep, outcome_filter]
  cases hl : (Filter.compile s.config l).outcome with
  | error f =>
    rw [Filter.outcome_compile_merge_of_error_left hm h hl]
    rfl
  | ok a =>
    cases hr : (Filter.compile s.config m).outcome with
    | error f =>
      rw [Filter.outcome_compile_merge_of_error_right hm h hl hr]
      rfl
    | ok b =>
      obtain ⟨c, hc, hmatch⟩ := Filter.exists_outcome_compile_merge hm h hl hr
      rw [hc]
      exact congrArg Except.ok (passing_eq_of_isMatch hmatch)

theorem filterAll_cons (s : Selection) (l : Lookups) (rest : List Lookups) :
    s.filterAll (l :: rest) = s.filter l >>= (·.filterAll rest) := List.foldlM_cons

/-- A chain finds what its merged lookups find. -/
theorem outcome_filter_mergeAll (s : Selection) (first : Lookups) (rest : List Lookups)
    (hkeys : ∀ l ∈ rest, (OrderedMap.keys l).Nodup)
    (hcompatible : (first :: rest).Pairwise Lookups.Compatible) :
    (s.filter (first.mergeAll rest)).outcome =
      (s.filter first >>= (·.filterAll rest)).outcome := by
  induction rest generalizing first with
  | nil =>
    change (s.filter first).outcome = (s.filter first >>= pure).outcome
    rw [bind_pure]
  | cons m rest ih =>
    obtain ⟨hfirst, hcompatible⟩ := List.pairwise_cons.mp hcompatible
    obtain ⟨hm, hrest⟩ := List.pairwise_cons.mp hcompatible
    obtain ⟨hkeysm, hkeys⟩ := List.forall_mem_cons.mp hkeys
    have hfm := hfirst m List.mem_cons_self
    have hchain : s.filter first >>= (·.filterAll (m :: rest)) =
        s.filter first >>= (·.filter m) >>= (·.filterAll rest) := by
      rw [bind_assoc]
      exact congrArg _ (funext fun t ↦ filterAll_cons t m rest)
    -- Merging the first two gives a shorter chain.
    rw [hchain, Logged.outcome_bind, ← outcome_filter_merge hkeysm hfm, ← Logged.outcome_bind]
    refine ih (first.merge m) hkeys (List.pairwise_cons.mpr ⟨fun n hn ↦ ?_, hrest⟩)
    exact .merge_left hkeysm hfm (hfirst n (List.mem_cons_of_mem _ hn)) (hm n hn)

/-! ## Copies -/

theorem toCollection_passing (s : Selection) (f : Filter) :
    (s.passing f).toCollection = ⟨s.records.filter f.isMatch, s.config⟩ := by
  rw [toCollection, records, records, passing, List.filter_map]
  rfl

theorem toCollection_all (c : Collection) : c.all.toCollection = c := by
  have hrecords : c.all.records = c.records := by
    rw [Collection.all, records, Placed.number, List.map_map]
    exact (List.map_congr_left fun _ _ ↦ rfl).trans (List.zipIdx_map_fst 0 c.records)
  rw [toCollection, hrecords]
  rfl

/-- Selections with the same records under the same configuration go on alike. -/
theorem map_toCollection_filterAll {s t : Selection} (h : s.toCollection = t.toCollection)
    (chain : List Lookups) :
    (s.filterAll chain).outcome.map toCollection =
      (t.filterAll chain).outcome.map toCollection := by
  induction chain generalizing s t with
  | nil => exact congrArg Except.ok h
  | cons l rest ih =>
    obtain ⟨hrecords, hconfig⟩ := Collection.mk.inj h
    rw [filterAll_cons, filterAll_cons, Logged.outcome_bind, Logged.outcome_bind, outcome_filter,
      outcome_filter, hconfig]
    cases (Filter.compile t.config l).outcome with
    | error f => rfl
    | ok f =>
      refine ih ?_
      rw [toCollection_passing, toCollection_passing, hrecords, hconfig]

end Selection

/-- **Chains are conjunctions.** Filtering by merged lookups ends as filtering by the one and then
by the other, with the same records at the same positions or with the same fault; so does a chain of
any length, and filtering twice by the same lookups is filtering once. A copy of what the front of
a chain has found goes on as the chain does, with equal records, the same configuration and the same
faults. -/
theorem Collection.chain_eq_conjunction (c : Collection) :
    (∀ l m : Lookups, m.keys.Nodup → l.Compatible m →
      (c.filter (l.merge m)).outcome = (c.filter l >>= (·.filter m)).outcome) ∧
    (∀ l : Lookups, l.keys.Nodup →
      (c.filter l >>= (·.filter l)).outcome = (c.filter l).outcome) ∧
    (∀ (first : Lookups) (rest : List Lookups),
      (∀ l ∈ rest, (OrderedMap.keys l).Nodup) →
      (first :: rest).Pairwise Lookups.Compatible →
      (c.filter (first.mergeAll rest)).outcome =
        (c.filter first >>= (·.filterAll rest)).outcome) ∧
    (∀ (front rest : List Lookups) (s : Selection), (c.all.filterAll front).outcome = .ok s →
      (s.toCollection.all.filterAll rest).outcome.map Selection.toCollection =
        (c.all.filterAll (front ++ rest)).outcome.map Selection.toCollection) := by
  refine ⟨fun l m hm h ↦ ?_, fun l hl ↦ ?_, fun first rest hkeys hcompatible ↦ ?_,
    fun front rest s hs ↦ ?_⟩
  · exact c.all.outcome_filter_merge hm h
  · have hmerge := c.all.outcome_filter_merge hl (Lookups.compatible_self hl)
    rw [Lookups.merge_self hl] at hmerge
    exact hmerge.symm
  · exact c.all.outcome_filter_mergeAll first rest hkeys hcompatible
  · have hchain : c.all.filterAll (front ++ rest) =
        c.all.filterAll front >>= (·.filterAll rest) := List.foldlM_append
    rw [hchain, Logged.outcome_bind_of_ok hs]
    exact Selection.map_toCollection_filterAll (Selection.toCollection_all s.toCollection) rest

namespace Collection

/-- Three records, of which only the second has both the name and the town. -/
def residents : Collection :=
  .ofRecords [⟨[("name", .text "ann"), ("town", .text "Rome")]⟩,
    ⟨[("name", .text "ann"), ("town", .text "Oslo")]⟩,
    ⟨[("name", .text "bob"), ("town", .text "Oslo")]⟩]

/-- A lookup for the name. -/
def named : Lookups := ⟨[("name", .text "ann")]⟩

/-- A lookup for the town, and the one for the name behind it. -/
def settled : Lookups := ⟨[("town__contains", .text "sl"), ("name", .text "ann")]⟩

/-- Lookups the first of which cannot be read. -/
def spoilt : Lookups := ⟨[("town__", .null), ("name", .text "ann")]⟩

theorem chain_eq_conjunction_residents :
    (∀ l ∈ [settled, spoilt], (OrderedMap.keys l).Nodup) ∧
    [named, settled, spoilt].Pairwise Lookups.Compatible ∧
    (residents.filter (named.merge settled)).outcome =
      (residents.filter named >>= (·.filter settled)).outcome ∧
    (residents.filter settled >>= (·.filter settled)).outcome =
      (residents.filter settled).outcome ∧
    (residents.filter (named.mergeAll [settled, spoilt])).outcome =
      (residents.filter named >>= (·.filterAll [settled, spoilt])).outcome ∧
    ∃ s, (residents.all.filterAll [settled]).outcome = .ok s ∧ s.positions = [1] ∧
      (s.toCollection.all.filterAll [named, spoilt]).outcome.map Selection.toCollection =
        (residents.all.filterAll [settled, named, spoilt]).outcome.map Selection.toCollection := by
  obtain ⟨hpair, htwice, hchain, hcopy⟩ := residents.chain_eq_conjunction
  have hkeys : ∀ l ∈ [settled, spoilt], (OrderedMap.keys l).Nodup := by
    simp [settled, spoilt, OrderedMap.keys]
  have hcompatible : [named, settled, spoilt].Pairwise Lookups.Compatible := by
    simp only [List.pairwise_cons, List.forall_mem_cons, Lookups.Compatible, named, settled,
      spoilt]
    simp
  have hsettled := hkeys settled List.mem_cons_self
  refine ⟨hkeys, hcompatible, hpair named settled hsettled ?_, htwice settled hsettled,
    hchain named [settled, spoilt] hkeys hcompatible, _, rfl, by decide +kernel,
    hcopy [settled] [named, spoilt] _ rfl⟩
  exact (List.pairwise_cons.mp hcompatible).1 settled List.mem_cons_self

end Collection

end RecordQuery
