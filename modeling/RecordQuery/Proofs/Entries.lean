import Mathlib.Data.List.Nodup
import RecordQuery.OrderedMap

/-!
# Entries of ordered maps

An ordered map is its list of entries, and what it says of a name is what the first entry with that
name says. Where no name occurs twice there is no other, and reading a map by name is the same as
going through its entries.
-/

namespace RecordQuery

namespace OrderedMap

variable {α β : Type} {name : String} {v : α}

@[simp] theorem entries_empty : (∅ : OrderedMap α).entries = [] := rfl

theorem mem_of_lookup_eq_some {entries : List (String × α)} (h : lookup name entries = some v) :
    (name, v) ∈ entries := by
  induction entries with
  | nil => cases h
  | cons e entries ih =>
    obtain ⟨k, w⟩ := e
    rw [lookup] at h
    split at h
    · rename_i hk
      rw [← hk, ← Option.some.inj h]
      exact List.mem_cons_self
    · exact List.mem_cons_of_mem _ (ih h)

theorem lookup_isSome_iff {entries : List (String × α)} :
    (lookup name entries).isSome = true ↔ name ∈ entries.map Prod.fst := by
  induction entries with
  | nil => simp [lookup]
  | cons e entries ih =>
    obtain ⟨k, w⟩ := e
    rw [lookup, List.map_cons, List.mem_cons]
    by_cases hk : k = name
    · simp [hk]
    · simp [hk, ih, Ne.symm hk]

theorem lookup_eq_some_iff_mem {entries : List (String × α)}
    (h : (entries.map Prod.fst).Nodup) : lookup name entries = some v ↔ (name, v) ∈ entries := by
  refine ⟨mem_of_lookup_eq_some, fun hmem ↦ ?_⟩
  -- Something is found under the name, and there is nothing else to find than `v`.
  have hname : name ∈ entries.map Prod.fst := List.mem_map.mpr ⟨_, hmem, rfl⟩
  obtain ⟨w, hw⟩ := Option.isSome_iff_exists.mp (lookup_isSome_iff.mpr hname)
  have heq : (name, w) = (name, v) :=
    List.inj_on_of_nodup_map h (mem_of_lookup_eq_some hw) hmem rfl
  rw [hw, (Prod.mk.inj heq).2]

theorem contains_eq_true_iff {m : OrderedMap α} : m.contains name = true ↔ name ∈ m.keys :=
  lookup_isSome_iff

theorem get?_eq_none_iff {m : OrderedMap α} : m.get? name = none ↔ name ∉ m.keys := by
  rw [← contains_eq_true_iff, contains, Option.not_isSome_iff_eq_none]

theorem mem_values_of_get?_eq_some {m : OrderedMap α} (h : m.get? name = some v) :
    v ∈ m.values :=
  List.mem_map.mpr ⟨_, mem_of_lookup_eq_some h, rfl⟩

/-- Every value stands under some name, and can be read by it if no name occurs twice. -/
theorem mem_values_iff_exists_get? {m : OrderedMap α} (h : m.keys.Nodup) :
    v ∈ m.values ↔ ∃ name, m.get? name = some v := by
  constructor
  · intro hv
    obtain ⟨⟨k, w⟩, hmem, rfl⟩ := List.mem_map.mp hv
    exact ⟨k, (lookup_eq_some_iff_mem h).mpr hmem⟩
  · rintro ⟨name, hget⟩
    exact mem_values_of_get?_eq_some hget

/-! ## Writing -/

theorem keys_exchange (name : String) (v : α) (entries : List (String × α)) :
    (exchange name v entries).2.map Prod.fst =
      if name ∈ entries.map Prod.fst then entries.map Prod.fst
      else entries.map Prod.fst ++ [name] := by
  induction entries with
  | nil => simp [exchange]
  | cons e entries ih =>
    obtain ⟨k, w⟩ := e
    rw [exchange]
    by_cases hk : k = name
    · simp [hk]
    · rw [if_neg hk, List.map_cons, ih]
      by_cases hmem : name ∈ entries.map Prod.fst
      · rw [if_pos hmem, List.map_cons, if_pos (List.mem_cons_of_mem k hmem)]
      · have hnot : name ∉ k :: entries.map Prod.fst := by
          rw [List.mem_cons, not_or]
          exact ⟨Ne.symm hk, hmem⟩
        rw [if_neg hmem, List.map_cons, if_neg hnot]
        rfl

theorem mem_of_mem_exchange {e : String × α} {entries : List (String × α)}
    (h : e ∈ (exchange name v entries).2) : e = (name, v) ∨ e ∈ entries := by
  induction entries with
  | nil => exact Or.inl (List.mem_singleton.mp h)
  | cons e' entries ih =>
    obtain ⟨k, w⟩ := e'
    rw [exchange] at h
    split at h
    · rename_i hk
      rcases List.mem_cons.mp h with rfl | h
      · exact Or.inl (by rw [hk])
      · exact Or.inr (List.mem_cons_of_mem _ h)
    · rcases List.mem_cons.mp h with rfl | h
      · exact Or.inr List.mem_cons_self
      · exact (ih h).imp_right (List.mem_cons_of_mem _)

theorem lookup_exchange (name' : String) (v : α) (entries : List (String × α)) :
    lookup name (exchange name' v entries).2 = if name' = name then some v else lookup name entries
    := by
  induction entries with
  | nil => rfl
  | cons e entries ih =>
    obtain ⟨k, w⟩ := e
    rw [exchange]
    by_cases hk : k = name'
    · rw [if_pos hk, lookup, lookup, hk]
      split <;> rfl
    · rw [if_neg hk, lookup, lookup, ih]
      by_cases hname : k = name
      · rw [if_pos hname, if_pos hname, if_neg fun h ↦ hk (hname.trans h.symm)]
      · rw [if_neg hname, if_neg hname]

/-- Writing what is there already changes nothing. -/
theorem exchange_of_lookup_eq_some {entries : List (String × α)}
    (h : lookup name entries = some v) : (exchange name v entries).2 = entries := by
  induction entries with
  | nil => cases h
  | cons e entries ih =>
    obtain ⟨k, w⟩ := e
    rw [lookup] at h
    rw [exchange]
    split at h
    · rename_i hk
      rw [if_pos hk, Option.some.inj h]
    · rename_i hk
      rw [if_neg hk, ih h]

theorem exchange_of_lookup_eq_none {entries : List (String × α)} (h : lookup name entries = none)
    (v : α) : (exchange name v entries).2 = entries ++ [(name, v)] := by
  induction entries with
  | nil => rfl
  | cons e entries ih =>
    obtain ⟨k, w⟩ := e
    rw [lookup] at h
    rw [exchange]
    split at h
    · cases h
    · rename_i hk
      rw [if_neg hk, ih h]
      rfl

/-- What is handed out is what was there. -/
theorem exchange_fst (name : String) (v : α) (entries : List (String × α)) :
    (exchange name v entries).1 = lookup name entries := by
  induction entries with
  | nil => rfl
  | cons e entries ih =>
    obtain ⟨k, w⟩ := e
    rw [exchange, lookup]
    split
    · rfl
    · exact ih

theorem extract_fst (name : String) (entries : List (String × α)) :
    (extract name entries).1 = lookup name entries := by
  induction entries with
  | nil => rfl
  | cons e entries ih =>
    obtain ⟨k, w⟩ := e
    rw [extract, lookup]
    split
    · rfl
    · exact ih

theorem keys_extract (name : String) (entries : List (String × α)) :
    (extract name entries).2.map Prod.fst = (entries.map Prod.fst).erase name := by
  induction entries with
  | nil => rfl
  | cons e entries ih =>
    obtain ⟨k, w⟩ := e
    rw [extract, List.map_cons]
    by_cases hk : k = name
    · rw [if_pos hk, hk, List.erase_cons_head]
    · rw [if_neg hk, List.map_cons, ih, List.erase_cons_tail (by simpa using hk)]

theorem lookup_extract_of_ne {name' : String} (h : name' ≠ name) (entries : List (String × α)) :
    lookup name (extract name' entries).2 = lookup name entries := by
  induction entries with
  | nil => rfl
  | cons e entries ih =>
    obtain ⟨k, w⟩ := e
    rw [extract, lookup]
    by_cases hk : k = name'
    · rw [if_pos hk, if_neg fun hname ↦ h (hk.symm.trans hname)]
    · rw [if_neg hk, lookup, ih]

theorem extract_sublist (name : String) (entries : List (String × α)) :
    (extract name entries).2.Sublist entries := by
  induction entries with
  | nil => exact .slnil
  | cons e entries ih =>
    obtain ⟨k, w⟩ := e
    rw [extract]
    split
    · exact List.sublist_cons_self _ _
    · exact ih.cons_cons _

/-- A name that is new comes last, and any other keeps its place. -/
theorem keys_insert (m : OrderedMap α) (name : String) (v : α) :
    (m.insert name v).keys = if name ∈ m.keys then m.keys else m.keys ++ [name] :=
  keys_exchange name v m.entries

theorem nodup_keys_insert {m : OrderedMap α} (h : m.keys.Nodup) (name : String) (v : α) :
    (m.insert name v).keys.Nodup := by
  rw [keys_insert]
  split
  · exact h
  · rename_i hnot
    rw [List.nodup_append]
    refine ⟨h, List.nodup_singleton name, fun k hk k' hk' ↦ ?_⟩
    rw [List.mem_singleton.mp hk']
    exact ne_of_mem_of_not_mem hk hnot

theorem get?_insert (m : OrderedMap α) (name' : String) (v : α) :
    (m.insert name' v).get? name = if name' = name then some v else m.get? name :=
  lookup_exchange name' v m.entries

theorem mem_keys_insert {m : OrderedMap α} {name' : String} :
    name ∈ (m.insert name' v).keys ↔ name' = name ∨ name ∈ m.keys := by
  rw [← contains_eq_true_iff, ← contains_eq_true_iff, contains, contains, get?_insert]
  split
  · rename_i hname
    exact iff_of_true rfl (Or.inl hname)
  · rename_i hname
    rw [or_iff_right hname]

theorem insert_of_get?_eq_some {m : OrderedMap α} (h : m.get? name = some v) :
    m.insert name v = m := congrArg OrderedMap.mk (exchange_of_lookup_eq_some h)

theorem entries_insert_of_get?_eq_none {m : OrderedMap α} (h : m.get? name = none) (v : α) :
    (m.insert name v).entries = m.entries ++ [(name, v)] := exchange_of_lookup_eq_none h v

theorem nodup_keys_insertMany {m : OrderedMap α} (h : m.keys.Nodup)
    (entries : List (String × α)) : (m.insertMany entries).keys.Nodup := by
  induction entries generalizing m with
  | nil => exact h
  | cons e entries ih => exact ih (nodup_keys_insert h e.1 e.2)

/-- Entries that a map does not contradict follow it in their order, those left out that it has
already. -/
theorem entries_insertMany {m : OrderedMap α} {entries : List (String × α)}
    (hkeys : (entries.map Prod.fst).Nodup)
    (hagree : ∀ e ∈ entries, ∀ v, m.get? e.1 = some v → v = e.2) :
    (m.insertMany entries).entries = m.entries ++ entries.filter fun e ↦ !m.contains e.1 := by
  induction entries generalizing m with
  | nil => exact (List.append_nil _).symm
  | cons e entries ih =>
    obtain ⟨hfresh, hkeys⟩ := List.nodup_cons.mp hkeys
    obtain ⟨he, hagree⟩ := List.forall_mem_cons.mp hagree
    have hstep : m.insertMany (e :: entries) = (m.insert e.1 e.2).insertMany entries := rfl
    have hget : ∀ e' ∈ entries, (m.insert e.1 e.2).get? e'.1 = m.get? e'.1 := by
      intro e' he'
      have hmem : e'.1 ∈ entries.map Prod.fst := List.mem_map_of_mem he'
      rw [get?_insert, if_neg fun h : e.1 = e'.1 ↦ hfresh (h ▸ hmem)]
    rw [hstep, ih hkeys fun e' he' ↦ hget e' he' ▸ hagree e' he']
    have hrest : (entries.filter fun e' ↦ !(m.insert e.1 e.2).contains e'.1) =
        entries.filter fun e' ↦ !m.contains e'.1 :=
      List.filter_congr fun e' he' ↦ by rw [contains, hget e' he', contains]
    rw [hrest]
    cases h : m.get? e.1 with
    | some v =>
      have hmem : m.contains e.1 = true := Option.isSome_of_eq_some h
      obtain rfl := he v h
      rw [insert_of_get?_eq_some h, List.filter_cons_of_neg (by simp [hmem])]
    | none =>
      have hmem : m.contains e.1 = false := by rw [contains, h, Option.isSome_none]
      rw [entries_insert_of_get?_eq_none h, List.filter_cons_of_pos (by simp [hmem]),
        List.append_assoc, List.singleton_append]

/-- Entries whose names differ are collected as they are. -/
theorem ofList_eq_mk {entries : List (String × α)} (hkeys : (entries.map Prod.fst).Nodup) :
    ofList entries = ⟨entries⟩ := by
  have hagree : ∀ e ∈ entries, ∀ v, (empty : OrderedMap α).get? e.1 = some v → v = e.2 :=
    fun _ _ _ ↦ nofun
  have hfilter : (entries.filter fun e ↦ !(empty : OrderedMap α).contains e.1) = entries :=
    List.filter_eq_self.mpr fun _ _ ↦ rfl
  refine congrArg OrderedMap.mk ((entries_insertMany hkeys hagree).trans ?_)
  rw [hfilter]
  rfl

theorem nodup_keys_ofList (entries : List (String × α)) : (ofList entries).keys.Nodup :=
  nodup_keys_insertMany (m := empty) List.nodup_nil entries

theorem mem_values_of_mem_values_insert {m : OrderedMap α} {w : α}
    (h : w ∈ (m.insert name v).values) : w = v ∨ w ∈ m.values := by
  obtain ⟨e, he, rfl⟩ := List.mem_map.mp h
  rcases mem_of_mem_exchange he with rfl | he
  · exact Or.inl rfl
  · exact Or.inr (List.mem_map_of_mem he)

/-- A name that goes leaves the others in their order. -/
theorem keys_erase (m : OrderedMap α) (name : String) : (m.erase name).keys = m.keys.erase name :=
  keys_extract name m.entries

theorem get?_erase {m : OrderedMap α} (h : m.keys.Nodup) (name' : String) :
    (m.erase name').get? name = if name' = name then none else m.get? name := by
  split
  · rename_i hname
    rw [get?_eq_none_iff, keys_erase, hname]
    exact h.not_mem_erase
  · rename_i hname
    exact lookup_extract_of_ne hname m.entries

theorem keys_modify (m : OrderedMap α) (name : String) (f : α → α) :
    (m.modify name f).keys = m.keys := by
  rw [modify]
  cases h : m.get? name with
  | some w =>
    have hmem : name ∈ m.keys := contains_eq_true_iff.mp (Option.isSome_of_eq_some h)
    rw [keys_insert, if_pos hmem]
  | none => rfl

theorem get?_modify (m : OrderedMap α) (name' : String) (f : α → α) :
    (m.modify name' f).get? name = if name' = name then (m.get? name).map f else m.get? name := by
  rw [modify]
  cases h : m.get? name' with
  | some w =>
    rw [get?_insert]
    split
    · rename_i hname
      rw [← hname, h, Option.map_some]
    · rfl
  | none =>
    change m.get? name = _
    split
    · rename_i hname
      rw [← hname, h, Option.map_none]
    · rfl

theorem keys_erase_sublist (m : OrderedMap α) (name : String) :
    (m.erase name).keys.Sublist m.keys := (extract_sublist name m.entries).map _

theorem values_erase_sublist (m : OrderedMap α) (name : String) :
    (m.erase name).values.Sublist m.values := (extract_sublist name m.entries).map _

/-! ## Changing every value -/

theorem keys_mapEntries (f : String → α → β) (m : OrderedMap α) :
    (m.mapEntries f).keys = m.keys := List.map_map ..

theorem get?_mapEntries (f : String → α → β) (m : OrderedMap α) :
    (m.mapEntries f).get? name = (m.get? name).map (f name) := by
  rw [get?, get?, mapEntries]
  induction m.entries with
  | nil => rfl
  | cons e entries ih =>
    rw [List.map_cons, lookup, lookup, ih]
    split
    · rename_i hk
      rw [← hk, Option.map_some]
    · rfl

theorem mapEntries_congr {f g : String → α → β} {m : OrderedMap α}
    (h : ∀ e ∈ m.entries, f e.1 e.2 = g e.1 e.2) : m.mapEntries f = m.mapEntries g :=
  congrArg mk (List.map_congr_left fun e he ↦ by rw [h e he])

theorem keys_mapValues (f : α → β) (m : OrderedMap α) : (m.mapValues f).keys = m.keys :=
  keys_mapEntries _ m

theorem mapValues_congr {f g : α → β} {m : OrderedMap α} (h : ∀ v ∈ m.values, f v = g v) :
    m.mapValues f = m.mapValues g :=
  mapEntries_congr fun e he ↦ h e.2 (List.mem_map_of_mem he)

theorem exchange_map (f : α → β) (name : String) (v : α) (entries : List (String × α)) :
    (exchange name (f v) (entries.map fun e ↦ (e.1, f e.2))).2 =
      (exchange name v entries).2.map fun e ↦ (e.1, f e.2) := by
  induction entries with
  | nil => rfl
  | cons e entries ih =>
    obtain ⟨k, w⟩ := e
    rw [List.map_cons, exchange, exchange]
    split
    · rfl
    · rw [ih]
      rfl

theorem insert_mapValues (f : α → β) (m : OrderedMap α) (name : String) (v : α) :
    (m.mapValues f).insert name (f v) = (m.insert name v).mapValues f :=
  congrArg mk (exchange_map f name v m.entries)

theorem insertMany_mapValues (f : α → β) (m : OrderedMap α) (entries : List (String × α)) :
    (m.mapValues f).insertMany (entries.map fun e ↦ (e.1, f e.2)) =
      (m.insertMany entries).mapValues f := by
  induction entries generalizing m with
  | nil => rfl
  | cons e entries ih =>
    have hstep := ih (m.insert e.1 e.2)
    rwa [← insert_mapValues] at hstep

/-- Values may be changed before they are collected or afterwards. -/
theorem ofList_map (f : α → β) (entries : List (String × α)) :
    ofList (entries.map fun e ↦ (e.1, f e.2)) = (ofList entries).mapValues f :=
  insertMany_mapValues f empty entries

end OrderedMap

end RecordQuery
