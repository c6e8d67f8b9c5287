import RecordQuery.Collection
import RecordQuery.Proofs.Equality
import RecordQuery.Proofs.Meaning

/-!
# Equal records under equal lookups

Equal values may differ in the order of their fields and in what their numbers are made of, at any
depth. Filters cannot tell: no operator takes notice of it, a path leads to equal values from equal
records, and lookups are accepted whatever their order. Here this is carried from operators to whole
collections. One direction is shown each time, and symmetry of equality supplies the other.
-/

namespace RecordQuery

/-! ## Operators -/

theorem Value.Alike.beq_of_beq {v v' w w' : Value} (hv : v.Alike v') (hw : w.Alike w')
    (h : (v == w) = true) : (v' == w') = true :=
  ((hv.symm.trans ⟨hv.left, hw.left, h⟩).trans hw).same

section Operator

variable {found found' target target' : Value} (hf : found.Alike found')
  (ht : target.Alike target')
include hf ht

theorem Pattern.Finds.of_alike {ignoreCase : Bool} (h : Finds ignoreCase found target) :
    Finds ignoreCase found' target' := by
  obtain ⟨s, t, p, rfl, rfl, hp, hs⟩ := h
  exact ⟨s, t, p, hf.eq_text, ht.eq_text, hp, hs⟩

/-- Operators cannot tell equal values apart, on either side. -/
theorem Operator.Relates.of_alike {operator : Operator} (h : operator.Relates found target) :
    operator.Relates found' target' := by
  cases operator with
  | exact => exact hf.beq_of_beq ht h
  | exactIgnoringCase =>
    obtain ⟨s, t, rfl, rfl, hst⟩ := h
    exact ⟨s, t, hf.eq_text, ht.eq_text, hst⟩
  | memberOf =>
    rcases h with ⟨items, rfl, item, hitem, h⟩ | ⟨part, whole, rfl, rfl, h⟩ |
      ⟨name, fields, rfl, rfl, h⟩
    · obtain ⟨items', rfl, hitems⟩ := ht.exists_items
      obtain ⟨item', hitem', halike⟩ := hitems item hitem
      exact Or.inl ⟨items', rfl, item', hitem', halike.beq_of_beq hf h⟩
    · exact Or.inr (Or.inl ⟨part, whole, hf.eq_text, ht.eq_text, h⟩)
    · obtain ⟨fields', rfl, halike⟩ := ht.exists_record
      exact Or.inr (Or.inr ⟨name, fields', hf.eq_text, rfl, halike.keys_perm.mem_iff.mp h⟩)
  | pattern => exact Pattern.Finds.of_alike hf ht h
  | patternIgnoringCase => exact Pattern.Finds.of_alike hf ht h
  | contains =>
    rcases h with ⟨whole, part, rfl, rfl, h⟩ | ⟨items, rfl, item, hitem, h⟩
    · exact Or.inl ⟨whole, part, hf.eq_text, ht.eq_text, h⟩
    · obtain ⟨items', rfl, hitems⟩ := hf.exists_items
      obtain ⟨item', hitem', halike⟩ := hitems item hitem
      exact Or.inr ⟨items', rfl, item', hitem', halike.beq_of_beq ht h⟩
  | containsIgnoringCase =>
    obtain ⟨s, t, rfl, rfl, hst⟩ := h
    exact ⟨s, t, hf.eq_text, ht.eq_text, hst⟩

end Operator

/-! ## Paths -/

namespace Path

variable {r s : Record} {v : Value}

theorem exists_mem_step_of_alike (h : (Value.record r).Alike (.record s)) {segment : Segment}
    (hv : v ∈ step segment r) : ∃ w ∈ step segment s, v.Alike w := by
  cases segment with
  | key name =>
    have hget : r.get? name = some v := Option.mem_toList.mp hv
    obtain ⟨w, hw, halike⟩ := h.exists_mem_entries (OrderedMap.mem_of_lookup_eq_some hget)
    -- Only a name that occurs once leads to the entry that was found.
    have hkeys := OrderedMap.WellFormed.nodup_keys h.right
    exact ⟨w, Option.mem_toList.mpr ((OrderedMap.lookup_eq_some_iff_mem hkeys).mpr hw), halike⟩
  | anyField =>
    obtain ⟨e, he, rfl⟩ := List.mem_map.mp hv
    obtain ⟨w, hw, halike⟩ := h.exists_mem_entries he
    exact ⟨w, List.mem_map.mpr ⟨_, hw, rfl⟩, halike⟩

/-- From equal records a path leads to equal values, though perhaps in another order. -/
theorem exists_mem_ends_of_alike {segments : List Segment}
    (h : (Value.record r).Alike (.record s)) (hv : v ∈ ends segments r) :
    ∃ w ∈ ends segments s, v.Alike w := by
  induction segments generalizing r s with
  | nil => cases hv
  | cons segment rest ih =>
    cases rest with
    | nil => exact exists_mem_step_of_alike h hv
    | cons t rest =>
      obtain ⟨nested, hnested, hv⟩ := mem_ends_cons_cons.mp hv
      obtain ⟨w, hw, halike⟩ := exists_mem_step_of_alike h hnested
      obtain ⟨nested', rfl, halike⟩ := halike.exists_record
      obtain ⟨w, hw', hvw⟩ := ih halike hv
      exact ⟨w, mem_ends_cons_cons.mpr ⟨nested', hw, hw'⟩, hvw⟩

end Path

/-! ## Lookups -/

namespace Lookups

variable {config : Config}

theorem EntryFault.of_alike {specifier : String} {target target' : Value} {f : Fault}
    (ht : target.Alike target') (h : EntryFault config specifier target f) :
    EntryFault config specifier target' f := by
  cases h with
  | unread h => exact .unread h
  | notText h hop hnone =>
    rw [ht.kind_eq]
    refine .notText h hop ?_
    cases htext : target'.text? with
    | none => rfl
    | some s =>
      rw [Value.eq_text_of_text? htext] at ht
      rw [ht.symm.eq_text] at hnone
      cases hnone
  | badPattern h hop htext hp =>
    subst htext
    exact .badPattern h hop ht.eq_text hp

variable {l m : Lookups} (h : (Value.record l).Alike (.record m))
include h

theorem noFault_of_alike (hl : ∀ e ∈ l.entries, ∀ f, ¬EntryFault config e.1 e.2 f) :
    ∀ e ∈ m.entries, ∀ f, ¬EntryFault config e.1 e.2 f := by
  intro e he f hfault
  obtain ⟨target, hmem, halike⟩ := h.symm.exists_mem_entries he
  exact hl _ hmem f (hfault.of_alike halike)

theorem Accept.of_alike {r s : Record} (hr : (Value.record r).Alike (.record s))
    (hl : l.Accept config r) : m.Accept config s := by
  intro e he
  obtain ⟨target, hmem, halike⟩ := h.symm.exists_mem_entries he
  -- Both targets stand under one specifier, which is read without regard to them.
  obtain ⟨specifier, hread, found, hfound, hrelates⟩ := hl _ hmem
  obtain ⟨found', hfound', hff⟩ := Path.exists_mem_ends_of_alike hr hfound
  exact ⟨specifier, hread, found', hfound', hrelates.of_alike hff halike.symm⟩

end Lookups

/-! ## Filters -/

namespace Filter

variable {config : Config} {l m : Lookups}

/-- Lookups that are free of faults whenever others are, and accept related records together with
these, can be prepared whenever these can, and to the same effect. -/
theorem follows_compile {R : Record → Record → Prop}
    (hfault : (∀ e ∈ l.entries, ∀ f, ¬Lookups.EntryFault config e.1 e.2 f) →
      ∀ e ∈ m.entries, ∀ f, ¬Lookups.EntryFault config e.1 e.2 f)
    (haccept : ∀ r s, R r s → (l.Accept config r ↔ m.Accept config s)) :
    Logged.Follows (fun f g ↦ ∀ r s, R r s → f.isMatch r = g.isMatch s) (compile config l)
      (compile config m) := by
  intro f hf
  obtain ⟨hconfig, hl⟩ := exists_outcome_compile_eq_ok_iff.mp ⟨f, hf⟩
  obtain ⟨g, hg⟩ := exists_outcome_compile_eq_ok_iff.mpr ⟨hconfig, hfault hl⟩
  refine ⟨g, hg, fun r s hrs ↦ ?_⟩
  rw [Bool.eq_iff_iff, isMatch_iff_accept hf, isMatch_iff_accept hg]
  exact haccept r s hrs

theorem agree_compile_of_alike (h : (Value.record l).Alike (.record m)) :
    Logged.Agree (fun f g ↦ ∀ r s, (Value.record r).Alike (.record s) → f.isMatch r = g.isMatch s)
      (compile config l) (compile config m) := by
  have hfollows {l m : Lookups} (h : (Value.record l).Alike (.record m)) :
      Logged.Follows
        (fun f g ↦ ∀ r s, (Value.record r).Alike (.record s) → f.isMatch r = g.isMatch s)
        (compile config l) (compile config m) :=
    follows_compile (Lookups.noFault_of_alike h) fun r s hrs ↦
      ⟨.of_alike h hrs, .of_alike h.symm hrs.symm⟩
  refine ⟨hfollows h, (hfollows h.symm).imp fun g f hgf r s hrs ↦ ?_⟩
  exact (hgf s r hrs.symm).symm

/-- The order of lookups does not matter, even where their targets do not equal themselves. -/
theorem agree_compile_of_perm (h : l.entries.Perm m.entries) :
    Logged.Agree (fun f g ↦ ∀ r, f.isMatch r = g.isMatch r) (compile config l)
      (compile config m) := by
  have hforall (P : String × Value → Prop) : (∀ e ∈ l.entries, P e) ↔ ∀ e ∈ m.entries, P e :=
    forall_congr' fun e ↦ imp_congr_left h.mem_iff
  constructor
  · refine (follows_compile (R := Eq) (hforall _).mp ?_).imp fun f g hfg r ↦ hfg r r rfl
    rintro r _ rfl
    exact hforall _
  · refine (follows_compile (R := Eq) (hforall _).mpr ?_).imp fun g f hgf r ↦ (hgf r r rfl).symm
    rintro r _ rfl
    exact (hforall _).symm

end Filter

/-! ## Collections -/

/-- Equal records at the same position. -/
def Placed.Alike (p q : Placed) : Prop :=
  p.position = q.position ∧ (Value.record p.record).Alike (.record q.record)

section

variable {rs ss : List Record}

theorem beq_records_iff :
    (rs == ss) = true ↔ List.Forall₂ (fun r s ↦ Record.same r s = true) rs ss := by
  induction rs generalizing ss with
  | nil => cases ss <;> simp
  | cons r rs ih =>
    cases ss with
    | nil => simp
    | cons s ss =>
      rw [List.cons_beq_cons, Bool.and_eq_true, ih, List.forall₂_cons]
      rfl

theorem Placed.forall₂_number
    (h : List.Forall₂ (fun r s ↦ (Value.record r).Alike (.record s)) rs ss) :
    List.Forall₂ Placed.Alike (Placed.number rs) (Placed.number ss) := by
  rw [number, number, List.forall₂_map_left_iff, List.forall₂_map_right_iff]
  generalize 0 = start
  induction h generalizing start with
  | nil => exact .nil
  | cons hrs _ ih => exact .cons ⟨rfl, hrs⟩ (ih (start + 1))

end

namespace Selection

variable {a b : Selection} (h : List.Forall₂ Placed.Alike a.found b.found)
include h

theorem same_of_alike (hconfig : a.config = b.config) : a.same b = true := by
  rw [same, Bool.and_eq_true, hasRecords, beq_records_iff, hconfig]
  refine ⟨?_, beq_self_eq_true b.config⟩
  rw [records, records, List.forall₂_map_left_iff, List.forall₂_map_right_iff]
  exact h.imp fun _ _ hpq ↦ hpq.2.same

theorem positions_eq_of_alike : a.positions = b.positions := by
  rw [positions, positions, ← List.forall₂_eq_eq_eq, List.forall₂_map_left_iff,
    List.forall₂_map_right_iff]
  exact h.imp fun _ _ hpq ↦ hpq.1

end Selection

namespace Collection

theorem agree_filter {c d : Collection} {l m : Lookups}
    (hrecords : List.Forall₂ (fun r s ↦ (Value.record r).Alike (.record s)) c.records d.records)
    (hconfig : c.config = d.config) (h : (Value.record l).Alike (.record m)) :
    Logged.Agree (fun a b ↦ a.same b = true ∧ a.positions = b.positions) (c.filter l)
      (d.filter m) := by
  rw [filter, filter, Selection.filter, Selection.filter, all, all, ← hconfig]
  refine (Filter.agree_compile_of_alike h).bind fun f g hfg ↦ ?_
  have hfound : List.Forall₂ Placed.Alike ((Placed.number c.records).filter (f.isMatch ·.record))
      ((Placed.number d.records).filter (g.isMatch ·.record)) := by
    refine List.rel_filter (fun p q hpq ↦ ?_) (Placed.forall₂_number hrecords)
    exact Bool.eq_iff_iff.mp (hfg p.record q.record hpq.2)
  refine (Logged.agree_of_ok (Filter.outcome_select f _) (Filter.outcome_select g _) hfound).bind ?_
  intro found found' hff
  exact Logged.agree_of_ok rfl rfl
    ⟨Selection.same_of_alike hff rfl, Selection.positions_eq_of_alike hff⟩

/-- Well-formed records of equal collections are alike, place by place. -/
theorem forall₂_alike {c d : Collection} (hc : ∀ r ∈ c.records, OrderedMap.WellFormed r)
    (hd : ∀ r ∈ d.records, OrderedMap.WellFormed r) (h : (c.records == d.records) = true) :
    List.Forall₂ (fun r s ↦ (Value.record r).Alike (.record s)) c.records d.records := by
  obtain ⟨hlength, hget⟩ := List.forall₂_iff_get.mp (beq_records_iff.mp h)
  refine List.forall₂_iff_get.mpr ⟨hlength, fun i hi hi' ↦ ?_⟩
  exact ⟨hc _ (List.get_mem ..), hd _ (List.get_mem ..), hget i hi hi'⟩

end Collection

/-- **Filtering respects equality.** Equal lookups can be prepared together, and then accept equal
records together; so equal collections yield equal selections. The order of the lookups never
matters, not even where something in them is not a number. -/
theorem Filter.respects_same (config : Config) (l m : Lookups) :
    (l.WellFormed → m.WellFormed → l.same m = true →
      Logged.Agree
        (fun f g ↦ ∀ r s : Record, r.WellFormed → s.WellFormed → Record.same r s = true →
          f.isMatch r = g.isMatch s)
        (compile config l) (compile config m) ∧
      ∀ c d : Collection, (∀ r ∈ c.records, OrderedMap.WellFormed r) →
        (∀ r ∈ d.records, OrderedMap.WellFormed r) → c.same d = true →
        Logged.Agree (fun a b ↦ a.same b = true ∧ a.positions = b.positions) (c.filter l)
          (d.filter m)) ∧
    (l.entries.Perm m.entries →
      Logged.Agree (fun f g ↦ ∀ r, f.isMatch r = g.isMatch r) (compile config l)
        (compile config m)) := by
  refine ⟨fun hl hm hsame ↦ ⟨?_, fun c d hc hd hcd ↦ ?_⟩, fun hperm ↦ ?_⟩
  · refine (agree_compile_of_alike ⟨hl, hm, hsame⟩).imp fun f g hfg r s hr hs hrs ↦ ?_
    exact hfg r s ⟨hr, hs, hrs⟩
  · rw [Collection.same, Bool.and_eq_true] at hcd
    have hrecords := Collection.forall₂_alike hc hd hcd.1
    exact Collection.agree_filter hrecords (eq_of_beq hcd.2) ⟨hl, hm, hsame⟩
  · exact agree_compile_of_perm hperm

namespace Filter

/-- Fields of a record, and lookups that it fulfils. -/
def original : OrderedMap Value :=
  ⟨[("age", .number (.unsigned 2)),
    ("home", .record ⟨[("zip", .number (.signed 150)), ("city", .text "Oslo")]⟩)]⟩

/-- The same in another order, and with other kinds of numbers. -/
def restated : OrderedMap Value :=
  ⟨[("home", .record ⟨[("city", .text "Oslo"), ("zip", .number (.unsigned 150))]⟩),
    ("age", .number (.float (.finite false ⟨2 ^ 62, by decide⟩)))]⟩

theorem respects_same_restated :
    (original.WellFormed ∧ restated.WellFormed ∧ Lookups.same original restated = true ∧
      (Collection.ofRecords [original]).same (Collection.ofRecords [restated]) = true) ∧
    Logged.Agree (fun f g ↦ f.isMatch original = g.isMatch restated) (compile {} original)
      (compile {} restated) ∧
    Logged.Agree (fun a b ↦ a.same b = true ∧ a.positions = b.positions)
      ((Collection.ofRecords [original]).filter original)
      ((Collection.ofRecords [restated]).filter restated) ∧
    Logged.Agree (fun f g ↦ ∀ r, f.isMatch r = g.isMatch r)
      (compile {} ⟨[("age", .number (.float .nan)), ("home", .null)]⟩)
      (compile {} ⟨[("home", .null), ("age", .number (.float .nan))]⟩) := by
  have hl : original.WellFormed := by
    simp [original, OrderedMap.wellFormed_iff, OrderedMap.keys, OrderedMap.values]
  have hm : restated.WellFormed := by
    simp [restated, OrderedMap.wellFormed_iff, OrderedMap.keys, OrderedMap.values]
  have hsame : Lookups.same original restated = true := by decide +kernel
  have hcd : (Collection.ofRecords [original]).same (Collection.ofRecords [restated]) = true := by
    decide +kernel
  obtain ⟨hcompile, hfilter⟩ := (respects_same {} original restated).1 hl hm hsame
  refine ⟨⟨hl, hm, hsame, hcd⟩, hcompile.imp fun f g hfg ↦ hfg _ _ hl hm hsame, ?_, ?_⟩
  · exact hfilter _ _ (by simpa [Collection.ofRecords] using hl)
      (by simpa [Collection.ofRecords] using hm) hcd
  · exact (respects_same {} ⟨[("age", .number (.float .nan)), ("home", .null)]⟩
      ⟨[("home", .null), ("age", .number (.float .nan))]⟩).2 (List.Perm.swap ..)

end Filter

end RecordQuery
