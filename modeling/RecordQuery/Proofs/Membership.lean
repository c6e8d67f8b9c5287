import RecordQuery.Proofs.Rearrangement
import RecordQuery.Proofs.Views

/-!
# Membership in sequences

Asking whether a value is among the items of a sequence is asking whether it equals one of them. Two
things stand in between. Membership compares an item with what was found, equality compares what was
found with its target, and only between well-formed values does the side not matter. And a path may
lead to several values, so that one question is whether some value is among the items, the other
whether some item is a value that the path leads to.

So a sequence of targets is as good as the set of its items: neither their order nor their number
shows in what is found. An item that holds what is not a number may as well be left out, since it
equals nothing.
-/

namespace RecordQuery

/-- Only a value all of whose numbers are numbers equals anything. -/
theorem Value.eachNumber_of_same {v w : Value} (hv : v.WellFormed) (hw : w.WellFormed)
    (h : v.same w = true) : v.EachNumber (· ≠ .float .nan) :=
  (same_self_iff hv).mp (same_trans hv h (same_symm hv hw h))

namespace Condition

/-! ## The two conditions -/

/-- The condition that some value at the ends of a path is among the items of a sequence. -/
def among (specifier : String) (path : Path) (items : List Value) : Condition :=
  ⟨specifier, path, .memberOf, .sequence items, .plain⟩

/-- The condition that some value at the ends of a path equals a target. -/
def equalTo (specifier : String) (path : Path) (target : Value) : Condition :=
  ⟨specifier, path, .exact, target, .plain⟩

section

variable {config : Config} {specifier specifier' : String} {path : Path} {items items' : List Value}
  {target : Value} {r : Record}

theorem outcome_compile_among
    (h : (Specifier.read config specifier).outcome = .ok ⟨path, .memberOf⟩) :
    (compile config specifier (.sequence items)).outcome = .ok (among specifier path items) :=
  outcome_compile_eq_ok.mpr ⟨_, _, h, rfl, rfl⟩

theorem outcome_compile_equalTo
    (h : (Specifier.read config specifier).outcome = .ok ⟨path, .exact⟩) :
    (compile config specifier target).outcome = .ok (equalTo specifier path target) :=
  outcome_compile_eq_ok.mpr ⟨_, _, h, rfl, rfl⟩

theorem isMatch_among_iff : (among specifier path items).isMatch r = true ↔
    ∃ item ∈ items, ∃ found ∈ Path.ends path.segments r, (item == found) = true := by
  rw [isMatch, matchesResolved_iff_exists_mem_ends]
  constructor
  · rintro ⟨found, hfound, h⟩
    obtain ⟨item, hitem, h⟩ := List.any_eq_true.mp h
    exact ⟨item, hitem, found, hfound, h⟩
  · rintro ⟨item, hitem, found, hfound, h⟩
    exact ⟨found, hfound, List.any_eq_true.mpr ⟨item, hitem, h⟩⟩

theorem isMatch_equalTo_iff : (equalTo specifier path target).isMatch r = true ↔
    ∃ found ∈ Path.ends path.segments r, (found == target) = true :=
  matchesResolved_iff_exists_mem_ends _ path r

/-- A record has a value among the items exactly if it has a value that equals one of them. -/
theorem isMatch_among_iff_exists_equalTo (hitems : (Value.sequence items).WellFormed)
    (hr : r.WellFormed) : (among specifier path items).isMatch r = true ↔
      ∃ item ∈ items, (equalTo specifier' path item).isMatch r = true := by
  rw [isMatch_among_iff]
  refine exists_congr fun item ↦ and_congr_right fun hitem ↦ ?_
  -- Item and value found stay the same on both sides, and only change sides in the comparison.
  rw [isMatch_equalTo_iff]
  refine exists_congr fun found ↦ and_congr_right fun hfound ↦ ?_
  have hitem' : item.WellFormed := hitems.of_mem_sequence hitem
  have hfound' : found.WellFormed := Path.wellFormed_of_mem_ends hr hfound
  exact ⟨Value.same_symm hitem' hfound', Value.same_symm hfound' hitem'⟩

/-! ## What a sequence finds -/

theorem isMatch_among_congr (h : ∀ v, v ∈ items ↔ v ∈ items') :
    (among specifier path items).isMatch r = (among specifier path items').isMatch r := by
  rw [Bool.eq_iff_iff, isMatch_among_iff, isMatch_among_iff]
  simp only [h]

theorem isMatch_among_append : (among specifier path (items ++ items')).isMatch r =
    ((among specifier path items).isMatch r || (among specifier path items').isMatch r) := by
  rw [Bool.eq_iff_iff, Bool.or_eq_true, isMatch_among_iff, isMatch_among_iff, isMatch_among_iff]
  simp only [List.mem_append, or_and_right, exists_or]

theorem isMatch_among_nil : (among specifier path []).isMatch r = false := by
  rw [Bool.eq_false_iff, ne_eq, isMatch_among_iff]
  rintro ⟨_, hitem, -⟩
  cases hitem

/-- An item within which something is not a number finds nothing. -/
theorem isMatch_among_singleton_of_not_eachNumber {item : Value} (hitem : item.WellFormed)
    (hr : r.WellFormed) (h : ¬item.EachNumber (· ≠ .float .nan)) :
    (among specifier path [item]).isMatch r = false := by
  rw [Bool.eq_false_iff, ne_eq, isMatch_among_iff]
  rintro ⟨item', hmem, found, hfound, hsame⟩
  obtain rfl := List.mem_singleton.mp hmem
  exact h (Value.eachNumber_of_same hitem (Path.wellFormed_of_mem_ends hr hfound) hsame)

theorem isMatch_among_drop {front back : List Value} {item : Value} (hitem : item.WellFormed)
    (hr : r.WellFormed) (h : ¬item.EachNumber (· ≠ .float .nan)) :
    (among specifier path (front ++ item :: back)).isMatch r =
      (among specifier path (front ++ back)).isMatch r := by
  have hcons : front ++ item :: back = front ++ ([item] ++ back) := rfl
  rw [hcons, isMatch_among_append, isMatch_among_append, isMatch_among_append,
    isMatch_among_singleton_of_not_eachNumber hitem hr h, Bool.false_or]

end

end Condition

/-! ## One lookup beside others -/

namespace Lookups

/-- Lookups among which one stands that has the given specifier and target. -/
def beside (front back : List (String × Value)) (specifier : String) (target : Value) : Lookups :=
  ⟨front ++ (specifier, target) :: back⟩

theorem mem_beside_iff {front back : List (String × Value)} {specifier : String} {target : Value}
    {e : String × Value} : e ∈ (beside front back specifier target).entries ↔
      e ∈ front ++ back ∨ e = (specifier, target) := by
  simp only [beside, List.mem_append, List.mem_cons]
  exact or_left_comm.trans or_comm

end Lookups

namespace Filter

/-- A record passes a filter that one more lookup has been put into if it passed before and fulfils
the condition that the lookup becomes. -/
theorem exists_compile_beside {config : Config} {front back : List (String × Value)}
    {specifier : String} {target : Value} {f : Filter} {c : Condition}
    (hf : (compile config ⟨front ++ back⟩).outcome = .ok f)
    (hc : (Condition.compile config specifier target).outcome = .ok c) :
    ∃ g, (compile config (Lookups.beside front back specifier target)).outcome = .ok g ∧
      ∀ r, g.isMatch r = (f.isMatch r && c.isMatch r) := by
  obtain ⟨hconfig, hfree⟩ := exists_outcome_compile_eq_ok_iff.mp ⟨f, hf⟩
  -- The one lookup by itself makes a filter too, so that both parts are told by their lookups.
  have hsingle : (compile config ⟨[(specifier, target)]⟩).outcome = .ok ⟨[c]⟩ :=
    outcome_compile_eq_ok.mpr ⟨hconfig, .cons hc .nil⟩
  obtain ⟨-, hfree'⟩ := exists_outcome_compile_eq_ok_iff.mp ⟨_, hsingle⟩
  obtain ⟨g, hg⟩ : ∃ g, (compile config (Lookups.beside front back specifier target)).outcome =
      .ok g := by
    refine exists_outcome_compile_eq_ok_iff.mpr ⟨hconfig, fun e he ↦ ?_⟩
    rcases Lookups.mem_beside_iff.mp he with he | rfl
    · exact hfree e he
    · exact hfree' _ (List.mem_singleton.mpr rfl)
  refine ⟨g, hg, fun r ↦ ?_⟩
  have hone : (⟨[c]⟩ : Filter).isMatch r = c.isMatch r := Bool.and_true _
  rw [← hone, Bool.eq_iff_iff, Bool.and_eq_true, isMatch_iff_accept hg, isMatch_iff_accept hf,
    isMatch_iff_accept hsingle]
  simp only [Lookups.Accept, Lookups.mem_beside_iff, or_imp, forall_and, List.mem_singleton]

end Filter

namespace Condition

/-- **Being among the items is being equal to one of them.** On every path, a lookup with a sequence
for its items becomes a condition that a record fulfils exactly if, for some item, it fulfils the
condition of equality with that item. So whatever other lookups it stands beside, what it finds in a
collection depends on the set of its items only; more items find the union of what the parts find,
no items find nothing, and an item within which something is not a number finds nothing more. -/
theorem among_iff_exists_equalTo {config : Config} {path : Path} {specifier specifier' : String}
    (hamong : (Specifier.read config specifier).outcome = .ok ⟨path, .memberOf⟩)
    (hequal : (Specifier.read config specifier').outcome = .ok ⟨path, .exact⟩) :
    (∀ items, (compile config specifier (.sequence items)).outcome =
      .ok (among specifier path items)) ∧
    (∀ target, (compile config specifier' target).outcome =
      .ok (equalTo specifier' path target)) ∧
    (∀ items (r : Record), (Value.sequence items).WellFormed → r.WellFormed →
      ((among specifier path items).isMatch r = true ↔
        ∃ item ∈ items, (equalTo specifier' path item).isMatch r = true)) ∧
    ∀ (records : List Record) (front back : List (String × Value)),
      (∃ f, (Filter.compile config ⟨front ++ back⟩).outcome = .ok f) →
      ∃ found : List Value → List Placed,
        (∀ items, (Collection.filter ⟨records, config⟩
          (Lookups.beside front back specifier (.sequence items))).outcome =
            .ok ⟨found items, config⟩) ∧
        (∀ items items', (∀ v, v ∈ items ↔ v ∈ items') → found items = found items') ∧
        (∀ items items' p, p ∈ found (items ++ items') ↔ p ∈ found items ∨ p ∈ found items') ∧
        found [] = [] ∧
        ((∀ r ∈ records, OrderedMap.WellFormed r) →
          ∀ before item after, item.WellFormed → ¬item.EachNumber (· ≠ .float .nan) →
            found (before ++ item :: after) = found (before ++ after)) := by
  refine ⟨fun items ↦ outcome_compile_among hamong, fun target ↦ outcome_compile_equalTo hequal,
    fun items r ↦ isMatch_among_iff_exists_equalTo, fun records front back ⟨f, hf⟩ ↦ ?_⟩
  -- The other lookups are the same for all sequences of items, and decide independently of them.
  refine ⟨fun items ↦ (Placed.number records).filter fun p ↦
    f.isMatch p.record && (among specifier path items).isMatch p.record, fun items ↦ ?_,
    fun items items' h ↦ ?_, fun items items' p ↦ ?_, ?_,
    fun hrecords before item after hitem hnumbers ↦ ?_⟩
  · obtain ⟨g, hg, hmatch⟩ := Filter.exists_compile_beside hf (outcome_compile_among hamong)
    have hfilter := Selection.outcome_filter_of_ok (s := Collection.all ⟨records, config⟩) hg
    rw [Selection.passing] at hfilter
    simp only [hmatch] at hfilter
    exact hfilter
  · simp only [isMatch_among_congr h]
  · simp only [List.mem_filter, isMatch_among_append, Bool.and_or_distrib_left, Bool.or_eq_true,
      and_or_left]
  · simp only [isMatch_among_nil, Bool.and_false, List.filter_false]
  · refine List.filter_congr fun p hp ↦ ?_
    have hrecord : p.record ∈ records := List.mem_of_getElem? (Placed.mem_number_iff.mp hp)
    rw [isMatch_among_drop hitem (hrecords p.record hrecord) hnumbers]

/-- The path to the ages of all who belong to a household. -/
def ages : Path := ⟨[.anyField, .key "age"], by decide⟩

theorem among_iff_exists_equalTo_household :
    (Value.sequence [.null, .number (.float .nan), .number (.unsigned 7)]).WellFormed ∧
    Path.household.WellFormed ∧
    (among "_any__age__in" ages [.null, .number (.float .nan), .number (.unsigned 7)]).isMatch
      Path.household = true ∧
    ∃ found : List Value → List Placed,
      (∀ items, (Collection.filter (.ofRecords [Path.household])
        ⟨[("since__iexact", .text "MAY"), ("_any__age__in", .sequence items)]⟩).outcome =
          .ok ⟨found items, {}⟩) ∧
      found [.null, .number (.float .nan), .number (.unsigned 7)] =
        found [.number (.unsigned 7), .null, .number (.unsigned 7)] := by
  have hitems :
      (Value.sequence [.null, .number (.float .nan), .number (.unsigned 7)]).WellFormed := by
    simp
  have hhousehold : Path.household.WellFormed := by
    simp [Path.household, OrderedMap.wellFormed_iff, OrderedMap.keys, OrderedMap.values]
  have hamong : (Specifier.read {} "_any__age__in").outcome = .ok ⟨ages, .memberOf⟩ := rfl
  have hequal : (Specifier.read {} "_any__age").outcome = .ok ⟨ages, .exact⟩ := rfl
  obtain ⟨-, -, hmatch, hfound⟩ := among_iff_exists_equalTo hamong hequal
  obtain ⟨found, hfilter, hsame, -, -, hdrop⟩ := hfound [Path.household]
    [("since__iexact", .text "MAY")] [] ⟨_, rfl⟩
  refine ⟨hitems, hhousehold, (hmatch _ _ hitems hhousehold).mpr ?_, found, hfilter, ?_⟩
  · exact ⟨.number (.unsigned 7), by simp, by decide +kernel⟩
  · have hnan : ¬(Value.number (.float .nan)).EachNumber (· ≠ .float .nan) := by simp
    refine (hdrop (by simpa using hhousehold) [.null] _ [.number (.unsigned 7)] (.number _)
      hnan).trans (hsame _ _ fun v ↦ ?_)
    simp [or_comm, or_left_comm]

end Condition

end RecordQuery
