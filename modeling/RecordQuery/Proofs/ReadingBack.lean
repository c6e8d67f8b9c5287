import RecordQuery.Collection
import RecordQuery.Proofs.DocumentText
import RecordQuery.Proofs.Equality

/-!
# Values that are read back

A value is written as the text of a document, and the text can be decoded to a value again. What
comes back is the value, with two exceptions: an unsigned word that a signed one could hold comes
back signed, and a double that is not finite comes back as nothing. The first exception keeps the
number, so a value without doubles comes back as an equal one.

## What is needed

The numbers have to be words, and the nesting no deeper than readers grant. For documents that is
all, but in a record no name may occur twice, since it would come back once. No record that a
program can come by repeats a name, so nothing is lost by asking for it.
-/

namespace RecordQuery

/-! ## Numbers -/

namespace Number

/-- A word, with or without a sign. -/
inductive IsWord : Number → Prop
  /-- A signed word. -/
  | signed (i : Int64) : IsWord (.signed i)
  /-- An unsigned word. -/
  | unsigned (u : UInt64) : IsWord (.unsigned u)

attribute [simp] IsWord.signed IsWord.unsigned

/-- A number that is neither infinite nor no number at all. -/
inductive IsFinite : Number → Prop
  /-- A signed word. -/
  | signed (i : Int64) : IsFinite (.signed i)
  /-- An unsigned word. -/
  | unsigned (u : UInt64) : IsFinite (.unsigned u)
  /-- A finite double. -/
  | float (negative : Bool) (rank : Fin Binary64.rankLimit) :
    IsFinite (.float (.finite negative rank))

theorem IsWord.isFinite {n : Number} (h : n.IsWord) : n.IsFinite := by
  cases h with
  | signed i => exact .signed i
  | unsigned u => exact .unsigned u

/-- What a number comes back as. -/
def restored : Number → Value
  | .signed i => .number (.signed i)
  | .unsigned u => .number (.ofUInt64 u)
  | .float (.finite negative rank) => .number (.float (.finite negative rank))
  | .float _ => .null

theorem ofJson_toJson (n : Number) : Value.ofJson n.toJson = n.restored := by
  cases n with
  | signed i =>
    rw [toJson]
    split
    · rename_i h
      have hi : -(((-i.toInt - 1).toNat : Int) + 1) = i.toInt := by omega
      rw [Value.ofJson, ofNumeral, hi, Int64.ofInt_toInt, restored]
    · rename_i h
      have hi : i.toInt.toNat < Nat.pow 2 63 := by
        have := i.toInt_lt
        rw [Nat.pow_eq]
        omega
      have hword : (UInt64.ofNat i.toInt.toNat).toNat = i.toInt.toNat :=
        UInt64.toNat_ofNat_of_lt' (hi.trans (by decide))
      have hint : (i.toInt.toNat : Int) = i.toInt := Int.toNat_of_nonneg (by omega)
      rw [Value.ofJson, ofNumeral, ofUInt64, hword, if_pos hi, hint, Int64.ofInt_toInt, restored]
  | unsigned u => rfl
  | float x => cases x <;> rfl

theorem IsWord.fits_toJson {n : Number} (h : n.IsWord) (levels : Nat) :
    Json.Fits levels n.toJson := by
  cases h with
  | signed i =>
    rw [toJson]
    split
    · exact .number (.negative _)
    · exact .number (.natural _)
  | unsigned u => exact .number (.natural u)

theorem amount?_ofUInt64 (u : UInt64) : (ofUInt64 u).amount? = (Number.unsigned u).amount? := by
  rw [ofUInt64]
  split
  · rename_i h
    have hu : (Int64.ofInt u.toNat).toInt = u.toNat :=
      Int64.toInt_ofInt_of_le (by omega) (by simp only [Nat.pow_eq] at h; omega)
    rw [amount?, hu]
    rfl
  · rfl

/-- A finite number comes back as the number it was, and no other does. -/
theorem restored_same_iff {n : Number} :
    n.restored.same (.number n) = true ↔ n.IsFinite := by
  constructor
  · intro h
    cases n with
    | signed i => exact .signed i
    | unsigned u => exact .unsigned u
    | float x =>
      cases x with
      | finite negative rank => exact .float negative rank
      | nan => cases h
      | infinite negative => cases h
  · intro h
    cases h with
    | signed i => exact sameValue_iff.mpr ⟨_, rfl, rfl⟩
    | unsigned u => exact sameValue_iff.mpr ⟨_, amount?_ofUInt64 u, rfl⟩
    | float negative rank => exact sameValue_iff.mpr ⟨_, rfl, rfl⟩

end Number

namespace Value

/-! ## What comes back -/

mutual

/-- What a value comes back as when it is written and read. -/
def restored : Value → Value
  | .null => .null
  | .bool b => .bool b
  | .number n => n.restored
  | .text s => .text s
  | .sequence items => .sequence (restoredItems items)
  | .record ⟨fields⟩ => .record ⟨restoredFields fields⟩

/-- What the items of a sequence come back as. -/
def restoredItems : List Value → List Value
  | [] => []
  | item :: rest => item.restored :: restoredItems rest

/-- What the fields of a record come back as, under their names. -/
def restoredFields : List (String × Value) → List (String × Value)
  | [] => []
  | (name, value) :: rest => (name, value.restored) :: restoredFields rest

end

theorem restored_sequence (items : List Value) :
    (Value.sequence items).restored = .sequence (items.map restored) := by
  have hitems : restoredItems items = items.map restored := by
    induction items with
    | nil => rfl
    | cons item items ih => rw [restoredItems, ih, List.map_cons]
  rw [restored, hitems]

theorem restored_record (r : Record) :
    (Value.record r).restored = .record (r.mapValues restored) := by
  obtain ⟨fields⟩ := r
  have hfields : restoredFields fields = fields.map fun e ↦ (e.1, e.2.restored) := by
    induction fields with
    | nil => rfl
    | cons field fields ih => rw [restoredFields, ih, List.map_cons]
  rw [restored, hfields, OrderedMap.mapValues, OrderedMap.mapEntries]

theorem toJson_sequence (items : List Value) :
    (Value.sequence items).toJson = .array (items.map toJson) := by
  have hitems : toItems items = items.map toJson := by
    induction items with
    | nil => rfl
    | cons item items ih => rw [toItems, ih, List.map_cons]
  rw [toJson, hitems]

theorem toJson_record (r : Record) :
    (Value.record r).toJson = .object (r.mapValues toJson).entries := by
  obtain ⟨fields⟩ := r
  have hfields : toMembers fields = fields.map fun e ↦ (e.1, e.2.toJson) := by
    induction fields with
    | nil => rfl
    | cons field fields ih => rw [toMembers, ih, List.map_cons]
  rw [toJson, hfields, OrderedMap.mapValues, OrderedMap.mapEntries]

/-- The document of a record whose names differ has the values of its fields under their names. -/
theorem ofList_mapValues_ofJson {r : Record} (hkeys : r.keys.Nodup) :
    (OrderedMap.ofList (r.mapValues toJson).entries).mapValues ofJson =
      r.mapValues fun v ↦ ofJson v.toJson := by
  rw [OrderedMap.ofList_eq_mk (by rwa [← OrderedMap.keys_mapValues toJson] at hkeys)]
  exact congrArg OrderedMap.mk (List.map_map ..)

/-- Converting to a document and back. -/
theorem ofJson_toJson {v : Value} (h : v.WellFormed) : ofJson v.toJson = v.restored := by
  induction h with
  | null => rfl
  | bool b => rfl
  | number n => exact n.ofJson_toJson
  | text s => rfl
  | sequence _ ih =>
    rw [toJson_sequence, ofJson_array, restored_sequence, List.map_map]
    exact congrArg sequence (List.map_congr_left ih)
  | record hkeys _ ih =>
    rw [toJson_record, ofJson_object, restored_record, ofList_mapValues_ofJson hkeys]
    exact congrArg record (OrderedMap.mapValues_congr ih)

/-! ## Levels of a value -/

mutual

/-- The number of sequences and records that are nested in a value, itself included. -/
def depth : Value → Nat
  | .sequence items => depthOfItems items + 1
  | .record ⟨fields⟩ => depthOfFields fields + 1
  | _ => 0

/-- The depth of the deepest item. -/
def depthOfItems : List Value → Nat
  | [] => 0
  | item :: rest => max item.depth (depthOfItems rest)

/-- The depth of the deepest field. -/
def depthOfFields : List (String × Value) → Nat
  | [] => 0
  | (_, value) :: rest => max value.depth (depthOfFields rest)

end

theorem depth_sequence (items : List Value) :
    (Value.sequence items).depth = depthOfItems items + 1 := by rw [depth]

theorem depth_record (r : Record) : (Value.record r).depth = depthOfItems r.values + 1 := by
  obtain ⟨fields⟩ := r
  have hfields : depthOfFields fields = depthOfItems (fields.map Prod.snd) := by
    induction fields with
    | nil => rfl
    | cons field fields ih => rw [depthOfFields, ih, List.map_cons, depthOfItems]
  rw [depth, hfields, OrderedMap.values]

theorem depth_le_depthOfItems {items : List Value} {v : Value} (hv : v ∈ items) :
    v.depth ≤ depthOfItems items := by
  induction hv with
  | head => exact Nat.le_max_left ..
  | tail _ _ ih => exact ih.trans (Nat.le_max_right ..)

theorem fits_toJson {v : Value} (hwords : v.EachNumber Number.IsWord) {levels : Nat}
    (hdepth : v.depth ≤ levels) : Json.Fits levels v.toJson := by
  induction hwords generalizing levels with
  | null => exact .null
  | bool b => exact .bool b
  | number h => exact h.fits_toJson levels
  | text s => exact .text s
  | sequence _ ih =>
    rw [depth_sequence] at hdepth
    obtain ⟨more, rfl⟩ := Nat.exists_eq_add_of_le' hdepth
    rw [toJson_sequence]
    refine .array (List.forall_mem_map.mpr fun v hv ↦ ih v hv ?_)
    exact (depth_le_depthOfItems hv).trans (Nat.le_add_left _ more)
  | record _ ih =>
    rw [depth_record] at hdepth
    obtain ⟨more, rfl⟩ := Nat.exists_eq_add_of_le' hdepth
    rw [toJson_record]
    refine .object (List.forall_mem_map.mpr fun e he ↦ ih e.2 (List.mem_map_of_mem he) ?_)
    exact (depth_le_depthOfItems (List.mem_map_of_mem he)).trans (Nat.le_add_left _ more)

/-- Finite numbers come back as the numbers they were, so the value that comes back is an equal one.
-/
theorem restored_same_iff {v : Value} (hwf : v.WellFormed) :
    v.restored.same v = true ↔ v.EachNumber Number.IsFinite := by
  induction hwf with
  | null => exact iff_of_true rfl .null
  | bool b => exact iff_of_true (bool_same_iff.mpr rfl) (.bool b)
  | number n => rw [eachNumber_number_iff, ← Number.restored_same_iff, restored]
  | text s => exact iff_of_true (text_same_iff.mpr rfl) (.text s)
  | sequence _ ih =>
    rw [restored_sequence, same_sequence, sameItems_iff, List.forall₂_map_left_iff,
      List.forall₂_same, eachNumber_sequence_iff]
    exact forall₂_congr ih
  | @record r hkeys _ ih =>
    rw [restored_record, eachNumber_record_iff, OrderedMap.values, List.forall_mem_map]
    have hfield : ∀ e ∈ r.entries, (∃ w, r.get? e.1 = some w ∧ e.2.restored.same w = true) ↔
        e.2.EachNumber Number.IsFinite := by
      intro e he
      -- The field is found in the old record under the name that it has kept.
      have hget : r.get? e.1 = some e.2 := (OrderedMap.lookup_eq_some_iff_mem hkeys).mpr he
      rw [hget, ← ih e.2 (List.mem_map_of_mem he)]
      simp
    have hsize : (r.mapValues restored).size = r.size := List.length_map ..
    refine Record.same_iff_entries.trans ((and_iff_right hsize).trans ?_)
    exact List.forall_mem_map.trans (forall₂_congr hfield)

/-! ## Texts -/

/-- A value that can be written and read back: without doubles, without repeated names, and nested
no deeper than readers grant. -/
structure Portable (v : Value) : Prop where
  /-- In no record within the value does a name occur twice. -/
  wellFormed : v.WellFormed
  /-- The numbers within the value are words. -/
  words : v.EachNumber Number.IsWord
  /-- There are at most 127 nested sequences and records. -/
  depth_le : v.depth ≤ 127

theorem Portable.of_mem_sequence {items : List Value} (h : (Value.sequence items).Portable)
    {v : Value} (hv : v ∈ items) : v.Portable where
  wellFormed := h.wellFormed.of_mem_sequence hv
  words := eachNumber_sequence_iff.mp h.words v hv
  depth_le := by
    have hdepth := depth_sequence items ▸ h.depth_le
    exact ((depth_le_depthOfItems hv).trans (Nat.le_add_right _ 1)).trans hdepth

theorem Portable.restored_same {v : Value} (h : v.Portable) : v.restored.same v = true :=
  (restored_same_iff h.wellFormed).mpr (h.words.imp fun _ ↦ Number.IsWord.isFinite)

theorem Portable.read_toText {v : Value} (h : v.Portable) : Json.read v.toText = .ok v.toJson :=
  Json.read_toText (fits_toJson h.words h.depth_le)

theorem Portable.decodeText_toText {v : Value} (h : v.Portable) :
    decodeText v.toText = some v.restored := by
  rw [decodeText, h.read_toText, ← ofJson_toJson h.wellFormed]
  exact decode?_eq_some v.toJson

theorem Portable.decodeMapText_toText {r : Record} (h : (Value.record r).Portable) :
    decodeMapText r.toText = some (r.mapValues restored) := by
  have hkeys : r.keys.Nodup := OrderedMap.WellFormed.nodup_keys h.wellFormed
  have hvalues : ∀ v ∈ r.values, ofJson v.toJson = v.restored := fun v hv ↦
    ofJson_toJson (OrderedMap.WellFormed.of_mem_values h.wellFormed hv)
  rw [decodeMapText, Record.toText, h.read_toText]
  simp only [toJson_record, decodeMap?_object, ofList_mapValues_ofJson hkeys]
  rw [OrderedMap.mapValues_congr hvalues]

end Value

namespace Collection

theorem recordsOf_map_record (position : Nat) (records : List Record) :
    recordsOf position (records.map .record) = .ok records := by
  induction records generalizing position with
  | nil => rfl
  | cons r records ih =>
    rw [List.map_cons, recordsOf, ih]
    rfl

theorem parse_toText {c : Collection} (h : (Value.sequence (c.records.map .record)).Portable) :
    parse c.toText = .ok (ofRecords (c.records.map (·.mapValues Value.restored))) := by
  have hrestored : (c.records.map Value.record).map Value.restored =
      (c.records.map (·.mapValues Value.restored)).map Value.record := by
    rw [List.map_map, List.map_map]
    exact List.map_congr_left fun r _ ↦ Value.restored_record r
  rw [parse, Json.parse, toText, h.read_toText]
  simp only [Functor.map, Except.map, ofJson, Value.ofJson_merged, Value.ofJson_toJson h.wellFormed,
    Value.restored_sequence, hrestored, ofValues, recordsOf_map_record]
  rfl

theorem beq_records {f : Record → Record} {records : List Record}
    (h : ∀ r ∈ records, Record.same (f r) r = true) : (records.map f == records) = true := by
  induction records with
  | nil => rfl
  | cons r records ih =>
    obtain ⟨hr, h⟩ := List.forall_mem_cons.mp h
    rw [List.map_cons, List.cons_beq_cons, Bool.and_eq_true]
    exact ⟨hr, ih h⟩

theorem restored_same {c : Collection} (h : (Value.sequence (c.records.map .record)).Portable) :
    (ofRecords (c.records.map (·.mapValues Value.restored))).same (c.withConfig {}) = true := by
  have hsame : ∀ r ∈ c.records, Record.same (r.mapValues Value.restored) r = true := by
    intro r hr
    have hrestored := (h.of_mem_sequence (List.mem_map_of_mem hr)).restored_same
    rwa [Value.restored_record] at hrestored
  rw [same, Bool.and_eq_true]
  refine ⟨?_, beq_self_eq_true _⟩
  exact beq_records hsame

end Collection

/-- **What is written is read back.** The text of a portable value decodes to what the value is
restored as, and that equals the value; so does the text of a record, as a record. The text of a
collection denotes the collection of its restored records, in their order and with the default
configuration. -/
theorem toText_reads_back :
    (∀ v : Value, v.Portable →
      Value.decodeText v.toText = some v.restored ∧ v.restored.same v = true) ∧
    (∀ r : Record, (Value.record r).Portable →
      Record.decodeText r.toText = some (r.mapValues Value.restored) ∧
        Record.same (r.mapValues Value.restored) r = true) ∧
    ∀ c : Collection, (Value.sequence (c.records.map .record)).Portable →
      Collection.parse c.toText = .ok (.ofRecords (c.records.map (·.mapValues Value.restored))) ∧
        (Collection.ofRecords (c.records.map (·.mapValues Value.restored))).same
          (c.withConfig {}) = true := by
  refine ⟨fun v h ↦ ?_, fun r h ↦ ?_, fun c h ↦ ?_⟩
  · exact ⟨h.decodeText_toText, h.restored_same⟩
  · have hsame := h.restored_same
    rw [Value.restored_record] at hsame
    exact ⟨h.decodeMapText_toText, hsame⟩
  · exact ⟨Collection.parse_toText h, Collection.restored_same h⟩

/-- A record of what is hardest to write, around a number: characters that need an escape, in a name
as well, words at their limits, and empty containers. -/
def Record.awkward (n : Number) : Record := ⟨[
  ("\"\\\x01\n", .sequence [.number n, .number (.unsigned 18446744073709551615),
    .number (.signed (-9223372036854775808)), .sequence [], .record {}, .null, .bool true]),
  ("é😀/", .text "\x1f\x08\t\x7f")]⟩

/-- An unsigned word that a signed one could hold comes back signed, and nothing else changes. -/
theorem toText_reads_back_awkward :
    (Record.awkward (.unsigned 7)).toText = "\x7b\"\\\"\\\\\\u0001\\n\":[7,18446744073709551615," ++
      "-9223372036854775808,[],\x7b\x7d,null,true],\"é😀/\":\"\\u001f\\b\\t\x7f\"\x7d" ∧
    Value.decodeText (Value.record (Record.awkward (.unsigned 7))).toText =
      some (.record (Record.awkward (.signed 7))) ∧
    Record.decodeText (Record.awkward (.unsigned 7)).toText =
      some (Record.awkward (.signed 7)) ∧
    Collection.parse
        (Collection.toText ⟨[Record.awkward (.unsigned 7), {}], { delimiter := "." }⟩) =
      .ok (.ofRecords [Record.awkward (.signed 7), {}]) := by
  have hportable :
      (Value.sequence [.record (Record.awkward (.unsigned 7)), .record {}]).Portable :=
    { wellFormed := by simp [Record.awkward, OrderedMap.keys, OrderedMap.values]
      words := by simp [Record.awkward, OrderedMap.values]
      depth_le := by decide }
  obtain ⟨hvalue, hrecord, hcollection⟩ := toText_reads_back
  refine ⟨rfl, ?_, ?_, ?_⟩
  · exact (hvalue _ (hportable.of_mem_sequence (.head _))).1
  · exact (hrecord _ (hportable.of_mem_sequence (.head _))).1
  · exact (hcollection ⟨[Record.awkward (.unsigned 7), {}], { delimiter := "." }⟩ hportable).1

end RecordQuery
