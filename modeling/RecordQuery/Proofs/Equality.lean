import Mathlib.Data.List.Forall2
import Mathlib.Data.List.Perm.Subperm
import RecordQuery.Proofs.ExactValue
import RecordQuery.Proofs.WellFormed

/-!
# Equality of values

Equality is tested from the left: the fields of one record are looked up in another. Between records
in which no name occurs twice this amounts to a relation without sides, namely that both say the
same of every name. So equality is symmetric and transitive for well-formed values. It is reflexive
only where no number is missing, since what is not a number does not equal itself.
-/

namespace RecordQuery

namespace Value

/-! ## What equals a value -/

@[simp] theorem same_null : Value.null.same .null = true := rfl

@[simp] theorem same_bool (a b : Bool) : (Value.bool a).same (.bool b) = (a == b) := rfl

@[simp] theorem same_number (a b : Number) :
    (Value.number a).same (.number b) = a.sameValue b := rfl

@[simp] theorem same_text (a b : String) : (Value.text a).same (.text b) = (a == b) := rfl

@[simp] theorem same_sequence (xs ys : List Value) :
    (Value.sequence xs).same (.sequence ys) = sameItems xs ys := rfl

theorem same_record (r s : Record) : (Value.record r).same (.record s) =
    (r.entries.length == s.entries.length && sameFields r.entries s.entries) := rfl

theorem null_same_iff {w : Value} : Value.null.same w = true ↔ w = .null := by
  cases w with
  | null => simp
  | _ => exact ⟨nofun, nofun⟩

theorem bool_same_iff {b : Bool} {w : Value} : (Value.bool b).same w = true ↔ w = .bool b := by
  cases w with
  | bool c => simp [@eq_comm _ b]
  | _ => exact ⟨nofun, nofun⟩

theorem number_same_iff {n : Number} {w : Value} :
    (Value.number n).same w = true ↔ ∃ m, w = .number m ∧ n.sameValue m = true := by
  cases w with
  | number m => simp
  | _ => exact ⟨nofun, nofun⟩

theorem text_same_iff {s : String} {w : Value} : (Value.text s).same w = true ↔ w = .text s := by
  cases w with
  | text t => simp [@eq_comm _ s]
  | _ => exact ⟨nofun, nofun⟩

theorem sameItems_iff {xs ys : List Value} :
    sameItems xs ys = true ↔ List.Forall₂ (fun x y ↦ x.same y = true) xs ys := by
  induction xs generalizing ys with
  | nil =>
    cases ys with
    | nil => exact ⟨fun _ ↦ .nil, fun _ ↦ rfl⟩
    | cons y ys => exact ⟨nofun, nofun⟩
  | cons x xs ih =>
    cases ys with
    | nil => exact ⟨nofun, nofun⟩
    | cons y ys =>
      have hcons : sameItems (x :: xs) (y :: ys) = (x.same y && sameItems xs ys) := rfl
      rw [hcons, Bool.and_eq_true, ih, List.forall₂_cons]

theorem sequence_same_iff {xs : List Value} {w : Value} : (Value.sequence xs).same w = true ↔
    ∃ ys, w = .sequence ys ∧ List.Forall₂ (fun x y ↦ x.same y = true) xs ys := by
  cases w with
  | sequence ys => simp [sameItems_iff]
  | _ => exact ⟨nofun, nofun⟩

theorem sameFields_iff {xs ys : List (String × Value)} : sameFields xs ys = true ↔
    ∀ e ∈ xs, ∃ y, OrderedMap.lookup e.1 ys = some y ∧ e.2.same y = true := by
  induction xs with
  | nil => exact ⟨fun _ ↦ nofun, fun _ ↦ rfl⟩
  | cons e xs ih =>
    obtain ⟨name, x⟩ := e
    rw [sameFields, Bool.and_eq_true, ih, List.forall_mem_cons]
    refine and_congr_left' ?_
    cases OrderedMap.lookup name ys <;> simp

theorem record_same_iff {r : Record} {w : Value} :
    (Value.record r).same w = true ↔ ∃ s, w = .record s ∧ Record.same r s = true := by
  cases w with
  | record s => simp [Record.same]
  | _ => exact ⟨nofun, nofun⟩

end Value

/-! ## Records as maps -/

namespace Record

variable {r s : Record}

theorem same_iff_entries : Record.same r s = true ↔ r.size = s.size ∧
    ∀ e ∈ r.entries, ∃ y, s.get? e.1 = some y ∧ e.2.same y = true := by
  rw [same, Value.same_record, Bool.and_eq_true, beq_iff_eq, Value.sameFields_iff]
  rfl

/-- Records of one size, of which one has all names of the other, have the same names. -/
theorem keys_perm_of_same (hr : r.keys.Nodup) (h : Record.same r s = true) :
    r.keys.Perm s.keys := by
  obtain ⟨hsize, hentries⟩ := same_iff_entries.mp h
  have hsubset : r.keys ⊆ s.keys := by
    intro name hname
    obtain ⟨e, he, rfl⟩ := List.mem_map.mp hname
    obtain ⟨y, hy, -⟩ := hentries e he
    exact OrderedMap.lookup_isSome_iff.mp (Option.isSome_of_eq_some hy)
  refine (List.Nodup.subperm hr hsubset).perm_of_length_le ?_
  simpa [OrderedMap.keys, OrderedMap.size] using hsize.ge

/-- Equal records say equal things of every name. -/
theorem same_iff (hr : r.keys.Nodup) (hs : s.keys.Nodup) : Record.same r s = true ↔
    ∀ name, Option.Rel (fun x y ↦ x.same y = true) (r.get? name) (s.get? name) := by
  constructor
  · intro h name
    obtain ⟨-, hentries⟩ := same_iff_entries.mp h
    cases hget : r.get? name with
    | some x =>
      obtain ⟨y, hy, hxy⟩ := hentries (name, x) (OrderedMap.mem_of_lookup_eq_some hget)
      rw [hy]
      exact .some hxy
    | none =>
      have hnone : s.get? name = none := by
        rw [OrderedMap.get?_eq_none_iff, ← (keys_perm_of_same hr h).mem_iff]
        exact OrderedMap.get?_eq_none_iff.mp hget
      rw [hnone]
      exact .none
  · intro h
    have hkeys : r.keys.Perm s.keys := by
      refine (List.perm_ext_iff_of_nodup hr hs).mpr fun name ↦ not_iff_not.mp ?_
      rw [← OrderedMap.get?_eq_none_iff, ← OrderedMap.get?_eq_none_iff]
      have hrel := h name
      cases hr' : r.get? name <;> cases hs' : s.get? name <;> simp_all
    refine same_iff_entries.mpr ⟨?_, fun e he ↦ ?_⟩
    · simpa [OrderedMap.keys, OrderedMap.size] using hkeys.length_eq
    · have hget : r.get? e.1 = some e.2 := (OrderedMap.lookup_eq_some_iff_mem hr).mpr he
      have hrel := h e.1
      rw [hget] at hrel
      generalize s.get? e.1 = found at hrel ⊢
      cases hrel with
      | some hxy => exact ⟨_, rfl, hxy⟩

end Record

/-! ## Laws -/

namespace Value

variable {u v w : Value}

/-- What a value equals also equals it. -/
theorem same_symm (hv : v.WellFormed) (hw : w.WellFormed) (h : v.same w = true) :
    w.same v = true := by
  induction hv generalizing w with
  | null => rw [null_same_iff.mp h]; rfl
  | bool b => rw [bool_same_iff.mp h]; simp
  | number n =>
    obtain ⟨m, rfl, hnm⟩ := number_same_iff.mp h
    exact number_same_iff.mpr ⟨n, rfl, Number.sameValue_symm hnm⟩
  | text s => rw [text_same_iff.mp h]; simp
  | @sequence xs _ ih =>
    obtain ⟨ys, rfl, hall⟩ := sequence_same_iff.mp h
    obtain ⟨hlength, hget⟩ := List.forall₂_iff_get.mp hall
    refine sequence_same_iff.mpr ⟨xs, rfl, List.forall₂_iff_get.mpr ⟨hlength.symm, ?_⟩⟩
    intro i hi hi'
    exact ih _ (List.get_mem ..) (hw.of_mem_sequence (List.get_mem ..)) (hget i hi' hi)
  | @record r hkeys _ ih =>
    obtain ⟨s, rfl, hsame⟩ := record_same_iff.mp h
    have hkeys' := OrderedMap.WellFormed.nodup_keys hw
    refine record_same_iff.mpr ⟨r, rfl, (Record.same_iff hkeys' hkeys).mpr fun name ↦ ?_⟩
    -- What two records say of a name can be compared from either side.
    have hrel := (Record.same_iff hkeys hkeys').mp hsame name
    cases hget : r.get? name with
    | none =>
      cases hget' : s.get? name with
      | none => exact .none
      | some y => simp [hget, hget'] at hrel
    | some x =>
      cases hget' : s.get? name with
      | none => simp [hget, hget'] at hrel
      | some y =>
        rw [hget, hget', Option.rel_some_some] at hrel
        have hmem : x ∈ r.values := OrderedMap.mem_values_of_get?_eq_some hget
        exact .some (ih x hmem (OrderedMap.WellFormed.of_get? hw hget') hrel)

theorem same_trans (hu : u.WellFormed) (huv : u.same v = true) (hvw : v.same w = true) :
    u.same w = true := by
  induction hu generalizing v w with
  | null => rwa [null_same_iff.mp huv] at hvw
  | bool b => rwa [bool_same_iff.mp huv] at hvw
  | number n =>
    obtain ⟨m, rfl, hnm⟩ := number_same_iff.mp huv
    obtain ⟨k, rfl, hmk⟩ := number_same_iff.mp hvw
    exact number_same_iff.mpr ⟨k, rfl, Number.sameValue_trans hnm hmk⟩
  | text s => rwa [text_same_iff.mp huv] at hvw
  | @sequence xs _ ih =>
    obtain ⟨ys, rfl, hxy⟩ := sequence_same_iff.mp huv
    obtain ⟨zs, rfl, hyz⟩ := sequence_same_iff.mp hvw
    obtain ⟨hlength, hget⟩ := List.forall₂_iff_get.mp hxy
    obtain ⟨hlength', hget'⟩ := List.forall₂_iff_get.mp hyz
    refine sequence_same_iff.mpr ⟨zs, rfl, List.forall₂_iff_get.mpr ⟨hlength.trans hlength', ?_⟩⟩
    intro i hi hi'
    have hi'' : i < ys.length := hlength ▸ hi
    exact ih _ (List.get_mem ..) (hget i hi hi'') (hget' i hi'' hi')
  | @record r _ _ ih =>
    obtain ⟨s, rfl, hrs⟩ := record_same_iff.mp huv
    obtain ⟨t, rfl, hst⟩ := record_same_iff.mp hvw
    obtain ⟨hsize, hentries⟩ := Record.same_iff_entries.mp hrs
    obtain ⟨hsize', hentries'⟩ := Record.same_iff_entries.mp hst
    refine record_same_iff.mpr ⟨t, rfl, ?_⟩
    refine Record.same_iff_entries.mpr ⟨hsize.trans hsize', fun e he ↦ ?_⟩
    obtain ⟨y, hy, hxy⟩ := hentries e he
    obtain ⟨z, hz, hyz⟩ := hentries' (e.1, y) (OrderedMap.mem_of_lookup_eq_some hy)
    exact ⟨z, hz, ih e.2 (List.mem_map.mpr ⟨e, he, rfl⟩) hxy hyz⟩

/-! ## Equal well-formed values -/

/-- Two well-formed values are equal. -/
structure Alike (v w : Value) : Prop where
  /-- The first is well-formed. -/
  left : v.WellFormed
  /-- The second is well-formed. -/
  right : w.WellFormed
  /-- They are equal. -/
  same : v.same w = true

namespace Alike

theorem symm (h : v.Alike w) : w.Alike v := ⟨h.right, h.left, same_symm h.left h.right h.same⟩

theorem trans (huv : u.Alike v) (hvw : v.Alike w) : u.Alike w :=
  ⟨huv.left, hvw.right, same_trans huv.left huv.same hvw.same⟩

theorem kind_eq (h : v.Alike w) : v.kind = w.kind := by
  have hsame := h.same
  cases v with
  | null => rw [null_same_iff.mp hsame]
  | bool b => rw [bool_same_iff.mp hsame]
  | number n => obtain ⟨m, rfl, -⟩ := number_same_iff.mp hsame; rfl
  | text s => rw [text_same_iff.mp hsame]
  | sequence xs => obtain ⟨ys, rfl, -⟩ := sequence_same_iff.mp hsame; rfl
  | record r => obtain ⟨s, rfl, -⟩ := record_same_iff.mp hsame; rfl

theorem eq_text {s : String} (h : (Value.text s).Alike w) : w = .text s :=
  text_same_iff.mp h.same

theorem exists_items {xs : List Value} (h : (Value.sequence xs).Alike w) :
    ∃ ys, w = .sequence ys ∧ ∀ x ∈ xs, ∃ y ∈ ys, x.Alike y := by
  obtain ⟨ys, rfl, hall⟩ := sequence_same_iff.mp h.same
  obtain ⟨hlength, hget⟩ := List.forall₂_iff_get.mp hall
  refine ⟨ys, rfl, fun x hx ↦ ?_⟩
  obtain ⟨i, hi, rfl⟩ := List.getElem_of_mem hx
  have hi' : i < ys.length := hlength ▸ hi
  have hy : ys[i] ∈ ys := List.getElem_mem hi'
  exact ⟨ys[i], hy, h.left.of_mem_sequence hx, h.right.of_mem_sequence hy, hget i hi hi'⟩

theorem exists_record {r : Record} (h : (Value.record r).Alike w) :
    ∃ s, w = .record s ∧ (Value.record r).Alike (.record s) := by
  obtain ⟨s, rfl, -⟩ := record_same_iff.mp h.same
  exact ⟨s, rfl, h⟩

section Record

variable {r s : Record} (h : (Value.record r).Alike (.record s))
include h

theorem keys_perm : r.keys.Perm s.keys :=
  Record.keys_perm_of_same (OrderedMap.WellFormed.nodup_keys h.left) h.same

theorem exists_mem_entries {e : String × Value} (he : e ∈ r.entries) :
    ∃ y, (e.1, y) ∈ s.entries ∧ e.2.Alike y := by
  obtain ⟨y, hy, hsame⟩ := (Record.same_iff_entries.mp h.same).2 e he
  have hleft := OrderedMap.WellFormed.of_mem_values h.left (List.mem_map.mpr ⟨e, he, rfl⟩)
  exact ⟨y, OrderedMap.mem_of_lookup_eq_some hy, hleft, OrderedMap.WellFormed.of_get? h.right hy,
    hsame⟩

end Record

end Alike

end Value

end RecordQuery
