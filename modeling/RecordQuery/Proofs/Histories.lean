import Mathlib.Data.List.Induction
import Mathlib.Data.List.Pairwise
import RecordQuery.Proofs.Entries

/-!
# Histories of ordered maps

What an ordered map holds can be told from what was done to it, without a look at its entries. A
name is present if it was put and not dropped since; it stands where it arrived, which is when it
was put while it was absent, and putting it again does not move it. Its value is what was last put
under it, with the changes since. Records and sets of lookups are ordered maps alike, and all that
can be done to either is said here once.
-/

namespace RecordQuery

namespace OrderedMap

variable {α : Type}

/-! ## Edits -/

/-- Something to be done to a map. -/
inductive Edit (α : Type) where
  /-- A value is to be written under a name. -/
  | insert (name : String) (v : α)
  /-- A name is to be removed. -/
  | erase (name : String)
  /-- Entries are to be written one after the other. -/
  | extend (entries : List (String × α))
  /-- The value under a name, if there is one, is to be changed in its place. -/
  | modify (name : String) (f : α → α)
  /-- Every value is to be changed in its place. -/
  | mapEntries (f : String → α → α)

/-- Makes an edit. -/
def edit (m : OrderedMap α) : Edit α → OrderedMap α
  | .insert name v => m.insert name v
  | .erase name => m.erase name
  | .extend entries => m.insertMany entries
  | .modify name f => m.modify name f
  | .mapEntries f => m.mapEntries f

/-- Makes edits one after the other. -/
def run (m : OrderedMap α) (edits : List (Edit α)) : OrderedMap α := edits.foldl edit m

/-! ## What is done to names -/

/-- Something that is done to names and their values. -/
inductive Step (α : Type) where
  /-- A value is put under a name. -/
  | put (name : String) (v : α)
  /-- A name is dropped. -/
  | drop (name : String)
  /-- Values are changed, each as its name asks. -/
  | change (f : String → α → α)

/-- Entries are put one by one. -/
def puts (entries : List (String × α)) : List (Step α) := entries.map fun e ↦ .put e.1 e.2

/-- What an edit does, step by step. -/
def Edit.steps : Edit α → List (Step α)
  | insert name v => [.put name v]
  | erase name => [.drop name]
  | extend entries => puts entries
  | modify name f => [.change fun k v ↦ if k = name then f v else v]
  | mapEntries f => [.change f]

/-- All that is done when entries are collected and edits made afterwards. -/
def history (start : List (String × α)) (edits : List (Edit α)) : List (Step α) :=
  puts start ++ edits.flatMap Edit.steps

/-- A name is present if it was put and has not been dropped since. -/
def Present (steps : List (Step α)) (name : String) : Prop :=
  ∃ before v after, steps = before ++ .put name v :: after ∧ .drop name ∉ after

/-- A name has been present since a step if it was absent before it, put by it and has not been
dropped since. -/
def Arrived (steps : List (Step α)) (name : String) (i : Nat) : Prop :=
  ∃ before v after, steps = before ++ .put name v :: after ∧ .drop name ∉ after ∧
    ¬Present before name ∧ before.length = i

/-- What a step makes of the value under a name. -/
def Step.onValue (name : String) (value : Option α) : Step α → Option α
  | put k v => if k = name then some v else value
  | drop k => if k = name then none else value
  | change f => value.map (f name)

/-- The value that was last written under a name, if it has not been dropped since. -/
def written (steps : List (Step α)) (name : String) : Option α :=
  steps.foldl (Step.onValue name) none

/-! ## One more step -/

section OneMore

variable {steps : List (Step α)} {step : Step α} {name : String} {i : Nat}

theorem concat_eq_append_cons_iff {β : Type} {l before after : List β} {a b : β} :
    l ++ [a] = before ++ b :: after ↔ (l = before ∧ a = b ∧ after = []) ∨
      ∃ rest, l = before ++ b :: rest ∧ after = rest ++ [a] := by
  constructor
  · intro h
    rcases List.eq_nil_or_concat after with rfl | ⟨rest, c, rfl⟩
    · obtain ⟨hl, ha⟩ := List.append_inj' h rfl
      exact Or.inl ⟨hl, List.singleton_inj.mp ha, rfl⟩
    · rw [List.concat_eq_append, ← List.cons_append, ← List.append_assoc] at h
      obtain ⟨hl, ha⟩ := List.append_inj' h rfl
      exact Or.inr ⟨rest, hl, by rw [List.concat_eq_append, ha]⟩
  · rintro (⟨rfl, rfl, rfl⟩ | ⟨rest, rfl, rfl⟩)
    · rfl
    · rw [List.append_assoc, List.cons_append]

theorem present_concat_iff : Present (steps ++ [step]) name ↔
    (∃ v, step = .put name v) ∨ (Present steps name ∧ step ≠ .drop name) := by
  constructor
  · rintro ⟨before, v, after, heq, hafter⟩
    rcases concat_eq_append_cons_iff.mp heq with ⟨-, rfl, -⟩ | ⟨rest, rfl, rfl⟩
    · exact Or.inl ⟨v, rfl⟩
    · rw [List.mem_append, List.mem_singleton, not_or] at hafter
      exact Or.inr ⟨⟨before, v, rest, rfl, hafter.1⟩, Ne.symm hafter.2⟩
  · rintro (⟨v, rfl⟩ | ⟨⟨before, v, after, rfl, hafter⟩, hstep⟩)
    · exact ⟨steps, v, [], rfl, List.not_mem_nil⟩
    · refine ⟨before, v, after ++ [step], List.append_assoc .., ?_⟩
      rw [List.mem_append, List.mem_singleton, not_or]
      exact ⟨hafter, Ne.symm hstep⟩

theorem arrived_concat_iff : Arrived (steps ++ [step]) name i ↔
    ((∃ v, step = .put name v) ∧ ¬Present steps name ∧ steps.length = i) ∨
      (Arrived steps name i ∧ step ≠ .drop name) := by
  constructor
  · rintro ⟨before, v, after, heq, hafter, habsent, hi⟩
    rcases concat_eq_append_cons_iff.mp heq with ⟨rfl, rfl, -⟩ | ⟨rest, rfl, rfl⟩
    · exact Or.inl ⟨⟨v, rfl⟩, habsent, hi⟩
    · rw [List.mem_append, List.mem_singleton, not_or] at hafter
      exact Or.inr ⟨⟨before, v, rest, rfl, hafter.1, habsent, hi⟩, Ne.symm hafter.2⟩
  · rintro (⟨⟨v, rfl⟩, habsent, hi⟩ | ⟨⟨before, v, after, rfl, hafter, habsent, hi⟩, hstep⟩)
    · exact ⟨steps, v, [], rfl, List.not_mem_nil, habsent, hi⟩
    · refine ⟨before, v, after ++ [step], List.append_assoc .., ?_, habsent, hi⟩
      rw [List.mem_append, List.mem_singleton, not_or]
      exact ⟨hafter, Ne.symm hstep⟩

theorem not_present_nil : ¬Present ([] : List (Step α)) name := by
  rintro ⟨before, v, after, heq, -⟩
  exact List.append_ne_nil_of_right_ne_nil before (List.cons_ne_nil _ _) heq.symm

/-- Whatever is present has arrived at some step. -/
theorem exists_arrived_iff : (∃ i, Arrived steps name i) ↔ Present steps name := by
  constructor
  · rintro ⟨i, before, v, after, heq, hafter, -, -⟩
    exact ⟨before, v, after, heq, hafter⟩
  · intro h
    induction steps using List.reverseRecOn with
    | nil => exact absurd h not_present_nil
    | append_singleton steps step ih =>
      by_cases hpresent : Present steps name ∧ step ≠ .drop name
      · obtain ⟨i, hi⟩ := ih hpresent.1
        exact ⟨i, arrived_concat_iff.mpr (Or.inr ⟨hi, hpresent.2⟩)⟩
      · obtain ⟨v, rfl⟩ := (present_concat_iff.mp h).resolve_right hpresent
        have habsent : ¬Present steps name := fun h ↦ hpresent ⟨h, nofun⟩
        exact ⟨_, arrived_concat_iff.mpr (Or.inl ⟨⟨v, rfl⟩, habsent, rfl⟩)⟩

theorem Arrived.lt_length (h : Arrived steps name i) : i < steps.length := by
  obtain ⟨before, v, after, rfl, -, -, rfl⟩ := h
  rw [List.length_append, List.length_cons]
  exact Nat.lt_add_of_pos_right (Nat.succ_pos _)

/-- What was there already did not arrive just now. -/
theorem Arrived.of_concat (hpresent : Present steps name) (h : Arrived (steps ++ [step]) name i) :
    Arrived steps name i := by
  rcases arrived_concat_iff.mp h with ⟨-, habsent, -⟩ | ⟨h, -⟩
  · exact absurd hpresent habsent
  · exact h

theorem Arrived.eq_length (habsent : ¬Present steps name) (h : Arrived (steps ++ [step]) name i) :
    i = steps.length := by
  rcases arrived_concat_iff.mp h with ⟨-, -, hi⟩ | ⟨h, -⟩
  · exact hi.symm
  · exact absurd (exists_arrived_iff.mp ⟨i, h⟩) habsent

theorem written_concat : written (steps ++ [step]) name = step.onValue name (written steps name) :=
  List.foldl_append ..

end OneMore

/-! ## Maps and what was done to them -/

/-- The first of two names arrived before the second. -/
def Before (steps : List (Step α)) (a b : String) : Prop :=
  ∀ i j, Arrived steps a i → Arrived steps b j → i < j

/-- A map holds what is left of the steps, in the order of arrival. -/
structure Holds (steps : List (Step α)) (m : OrderedMap α) : Prop where
  /-- No name occurs twice. -/
  nodup : m.keys.Nodup
  /-- The names are the ones that are present. -/
  mem_keys_iff : ∀ name, name ∈ m.keys ↔ Present steps name
  /-- They are in the order in which they arrived. -/
  ordered : m.keys.Pairwise (Before steps)
  /-- The values are those last written. -/
  get?_eq : ∀ name, m.get? name = written steps name

namespace Holds

variable {steps : List (Step α)} {m : OrderedMap α}

theorem empty : Holds [] (∅ : OrderedMap α) where
  nodup := List.nodup_nil
  mem_keys_iff _ := iff_of_false List.not_mem_nil not_present_nil
  ordered := .nil
  get?_eq _ := rfl

/-- One more step does not change the order of the names that were there before. -/
theorem ordered_of_sublist (h : Holds steps m) {keys : List String} (hsub : keys.Sublist m.keys)
    (step : Step α) : keys.Pairwise (Before (steps ++ [step])) := by
  refine (h.ordered.sublist hsub).imp_of_mem fun ha hb hbefore i j hi hj ↦ ?_
  have hpresent : ∀ {name}, name ∈ keys → Present steps name := fun hname ↦
    (h.mem_keys_iff _).mp (hsub.subset hname)
  exact hbefore i j (hi.of_concat (hpresent ha)) (hj.of_concat (hpresent hb))

theorem insert (h : Holds steps m) (name : String) (v : α) :
    Holds (steps ++ [.put name v]) (m.insert name v) where
  nodup := nodup_keys_insert h.nodup name v
  mem_keys_iff k := by
    have hput : (∃ w, Step.put name v = .put k w) ↔ name = k :=
      ⟨fun ⟨w, hw⟩ ↦ (Step.put.inj hw).1, fun hk ↦ ⟨v, hk ▸ rfl⟩⟩
    have hkeep : Step.put name v ≠ .drop k := nofun
    rw [mem_keys_insert, present_concat_iff, hput, and_iff_left hkeep, h.mem_keys_iff]
  ordered := by
    have hold := h.ordered_of_sublist (List.Sublist.refl _) (.put name v)
    rw [keys_insert]
    split
    · exact hold
    · rename_i hname
      refine List.pairwise_append.mpr ⟨hold, List.pairwise_singleton _ _, ?_⟩
      -- A name that is new arrives with this step, and all the others came earlier.
      intro k hk k' hk' i j hi hj
      obtain rfl := List.mem_singleton.mp hk'
      rw [hj.eq_length fun hpresent ↦ hname ((h.mem_keys_iff _).mpr hpresent)]
      exact (hi.of_concat ((h.mem_keys_iff k).mp hk)).lt_length
  get?_eq k := by
    rw [written_concat, get?_insert, h.get?_eq]
    rfl

theorem erase (h : Holds steps m) (name : String) :
    Holds (steps ++ [.drop name]) (m.erase name) where
  nodup := h.nodup.sublist (keys_erase_sublist m name)
  mem_keys_iff k := by
    have hdrop : Step.drop (α := α) name ≠ .drop k ↔ k ≠ name :=
      not_congr ⟨fun hk ↦ (Step.drop.inj hk).symm, fun hk ↦ hk ▸ rfl⟩
    have hput : ¬∃ w : α, Step.drop name = .put k w := nofun
    rw [present_concat_iff, or_iff_right hput, hdrop, keys_erase, h.nodup.mem_erase_iff,
      h.mem_keys_iff, and_comm]
  ordered := h.ordered_of_sublist (keys_erase_sublist m name) _
  get?_eq k := by
    rw [written_concat, get?_erase h.nodup, h.get?_eq]
    rfl

theorem change (h : Holds steps m) {m' : OrderedMap α} {f : String → α → α}
    (hkeys : m'.keys = m.keys) (hget : ∀ name, m'.get? name = (m.get? name).map (f name)) :
    Holds (steps ++ [.change f]) m' where
  nodup := hkeys ▸ h.nodup
  mem_keys_iff k := by
    have hput : ¬∃ w : α, Step.change f = .put k w := nofun
    have hdrop : Step.change f ≠ .drop k := nofun
    rw [present_concat_iff, or_iff_right hput, and_iff_left hdrop, hkeys, h.mem_keys_iff]
  ordered := hkeys ▸ h.ordered_of_sublist (List.Sublist.refl _) _
  get?_eq k := by
    rw [written_concat, hget, h.get?_eq]
    rfl

theorem insertMany (h : Holds steps m) (entries : List (String × α)) :
    Holds (steps ++ puts entries) (m.insertMany entries) := by
  induction entries generalizing m steps with
  | nil => rwa [puts, List.map_nil, List.append_nil]
  | cons e entries ih =>
    have hrest := ih (h.insert e.1 e.2)
    rwa [List.append_assoc] at hrest

/-- Every edit does what its steps say. -/
theorem edit (h : Holds steps m) (e : Edit α) : Holds (steps ++ e.steps) (m.edit e) := by
  cases e with
  | insert name v => exact h.insert name v
  | erase name => exact h.erase name
  | extend entries => exact h.insertMany entries
  | modify name f =>
    refine h.change (keys_modify m name f) fun k ↦ (get?_modify m name f).trans ?_
    by_cases hk : name = k
    · simp [hk]
    · simp [hk, Ne.symm hk]
  | mapEntries f => exact h.change (keys_mapEntries f m) fun _ ↦ get?_mapEntries f m

theorem run (h : Holds steps m) (edits : List (Edit α)) :
    Holds (steps ++ edits.flatMap Edit.steps) (m.run edits) := by
  induction edits generalizing m steps with
  | nil => rwa [List.flatMap_nil, List.append_nil]
  | cons e edits ih =>
    have hrest := ih (h.edit e)
    rwa [List.append_assoc] at hrest

end Holds

/-! ## Collecting -/

theorem ofList_concat (entries : List (String × α)) (e : String × α) :
    ofList (entries ++ [e]) = (ofList entries).insert e.1 e.2 := List.foldl_append ..

/-- Names are collected where they occur first. -/
theorem keys_ofList (entries : List (String × α)) :
    (ofList entries).keys = (entries.map Prod.fst).eraseDups := by
  induction entries using List.reverseRecOn with
  | nil => rfl
  | append_singleton entries e ih =>
    rw [ofList_concat, keys_insert, ih, List.map_append, List.eraseDups_append]
    by_cases hmem : e.1 ∈ entries.map Prod.fst
    · rw [if_pos (List.mem_eraseDups.mpr hmem)]
      simp [List.removeAll, hmem]
    · rw [if_neg (mt List.mem_eraseDups.mp hmem)]
      simp [List.removeAll, hmem, List.eraseDups_cons]

/-- Values are collected from where their names occur last. -/
theorem get?_ofList (entries : List (String × α)) (name : String) :
    (ofList entries).get? name = lookup name entries.reverse := by
  induction entries using List.reverseRecOn with
  | nil => rfl
  | append_singleton entries e ih =>
    rw [ofList_concat, get?_insert, ih, List.reverse_append, List.reverse_singleton,
      List.singleton_append, lookup]

/-! ## The order and the values -/

theorem map_get?_keys {m : OrderedMap α} (h : m.keys.Nodup) :
    m.keys.map m.get? = m.values.map some := by
  rw [keys, values, List.map_map, List.map_map]
  exact List.map_congr_left fun e he ↦ (lookup_eq_some_iff_mem h).mpr he

theorem keys_insert_erase {m : OrderedMap α} (h : m.keys.Nodup) (name : String) (v : α) :
    ((m.erase name).insert name v).keys = m.keys.erase name ++ [name] := by
  rw [keys_insert, keys_erase, if_neg h.not_mem_erase]

/-- **An ordered map is what its history says.** Whatever is collected and whatever edits are made
afterwards, one after the other, the names are those that were put and not dropped since, none of
them twice, in the order of the putting that made each present; names, values and entries are listed
side by side, and the value under a name is what was last written there. At every point, writing
under a name that is present leaves the order as it is, removing one leaves the others as they are,
and writing it again puts it last; both hand out the value that was there. Collecting keeps the
first place and the last value of every name, and entries may be added in one go or in two. -/
theorem run_follows_history (start : List (String × α)) (edits : List (Edit α)) :
    let m := (ofList start).run edits
    let steps := history start edits
    m.keys.Nodup ∧
      (∀ name, name ∈ m.keys ↔ ∃ i, Arrived steps name i) ∧
      m.keys.Pairwise (Before steps) ∧
      (∀ name, m.get? name = written steps name) ∧
      (∀ name, m.get? name = none ↔ m.contains name = false) ∧
      m.entries = m.keys.zip m.values ∧
      m.keys.map m.get? = m.values.map some ∧
      m.size = m.keys.length ∧
      (∀ name v, (m.getThenInsert? name v).1 = m.get? name ∧
        (m.getThenErase? name).1 = m.get? name ∧
        (name ∈ m.keys → (m.insert name v).keys = m.keys) ∧
        (m.erase name).keys = m.keys.erase name ∧
        ((m.erase name).insert name v).keys = m.keys.erase name ++ [name]) ∧
      (∀ xs ys, (m.insertMany xs).insertMany ys = m.insertMany (xs ++ ys)) ∧
      (ofList start).keys = (start.map Prod.fst).eraseDups ∧
      ∀ name, (ofList start).get? name = lookup name start.reverse := by
  intro m steps
  have hstart : Holds (puts start) (ofList start) := Holds.empty.insertMany start
  have hm : Holds steps m := hstart.run edits
  refine ⟨hm.nodup, fun name ↦ ?_, hm.ordered, hm.get?_eq, fun name ↦ ?_, ?_,
    map_get?_keys hm.nodup, ?_, fun name v ↦ ⟨?_, ?_, fun hname ↦ ?_, ?_, ?_⟩, fun xs ys ↦ ?_,
    keys_ofList start, get?_ofList start⟩
  · rw [exists_arrived_iff, hm.mem_keys_iff]
  · rw [contains, Option.isSome_eq_false_iff, Option.isNone_iff_eq_none]
  · exact List.zip_of_prod rfl rfl
  · rw [size, keys, List.length_map]
  · exact exchange_fst name v m.entries
  · exact extract_fst name m.entries
  · rw [keys_insert, if_pos hname]
  · exact keys_erase m name
  · exact keys_insert_erase hm.nodup name v
  · exact List.foldl_append.symm

/-- A name is collected twice. -/
def twice : List (String × Nat) := [("a", 1), ("b", 2), ("a", 3)]

/-- The name that was collected twice goes, comes back, and is changed. -/
def moved : List (Edit Nat) := [.erase "a", .insert "a" 4, .modify "a" (· + 1)]

theorem run_follows_history_moved :
    ((ofList twice).run moved).entries = [("b", 2), ("a", 5)] ∧
      Before (history twice moved) "b" "a" ∧
      written (history twice moved) "a" = some 5 ∧
      "a" ∈ ((ofList twice).run moved).keys ∧
      (((ofList twice).run moved).insert "a" 6).keys = ((ofList twice).run moved).keys := by
  obtain ⟨-, -, hordered, hget, -, -, -, -, hnext, -⟩ := run_follows_history twice moved
  have hentries : ((ofList twice).run moved).entries = [("b", 2), ("a", 5)] := rfl
  have hmem : "a" ∈ ((ofList twice).run moved).keys := by
    rw [keys, hentries]
    decide
  refine ⟨hentries, ?_, (hget "a").symm, hmem, (hnext "a" 6).2.2.1 hmem⟩
  rw [keys, hentries] at hordered
  exact (List.pairwise_cons.mp hordered).1 "a" List.mem_cons_self

end OrderedMap

end RecordQuery
