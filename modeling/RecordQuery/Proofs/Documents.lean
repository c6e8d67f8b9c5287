import RecordQuery.Proofs.Entries
import RecordQuery.Value.Decoding
import RecordQuery.Value.Document

/-!
# Documents and their values

Two routes lead from a document to a value. One asks what the document is and converts its parts;
the other tries the kinds of values one after the other, and takes the members of an object one by
one. Both give every document the same value, repeated names included, and it makes no difference
whether repeated names are merged before: collecting the members does the same.

## Induction

Documents nest through lists, so a proof about them would need a statement for every kind of list.
`Json.induct` has these settled once: what is to be shown of an array or an object may be assumed
of all that is in it.
-/

namespace RecordQuery

namespace Json

/-- Induction over documents: what an array or an object has if all that is in it has it, every
document has. -/
theorem induct {motive : Json → Prop} (null : motive .null) (bool : ∀ b, motive (.bool b))
    (number : ∀ n, motive (.number n)) (text : ∀ s, motive (.text s))
    (array : ∀ items, (∀ j ∈ items, motive j) → motive (.array items))
    (object : ∀ members, (∀ m ∈ members, motive m.2) → motive (.object members)) (j : Json) :
    motive j := by
  refine @Json.rec motive (fun items ↦ ∀ j ∈ items, motive j)
    (fun members ↦ ∀ m ∈ members, motive m.2) (fun m ↦ motive m.2) null bool number text array
    object ?_ ?_ ?_ ?_ ?_ j
  · exact nofun
  · exact fun _ _ hitem hitems ↦ List.forall_mem_cons.mpr ⟨hitem, hitems⟩
  · exact nofun
  · exact fun _ _ hmember hmembers ↦ List.forall_mem_cons.mpr ⟨hmember, hmembers⟩
  · exact fun _ _ hvalue ↦ hvalue

/-! ## Repeated names -/

theorem mergedItems_eq_map (items : List Json) : mergedItems items = items.map merged := by
  induction items with
  | nil => rfl
  | cons item items ih => rw [mergedItems, ih, List.map_cons]

theorem mergedMembers_eq_map (members : List (String × Json)) :
    mergedMembers members = members.map fun m ↦ (m.1, m.2.merged) := by
  induction members with
  | nil => rfl
  | cons member members ih => rw [mergedMembers, ih, List.map_cons]

end Json

namespace Value

theorem ofItems_eq_map (items : List Json) : ofItems items = items.map ofJson := by
  induction items with
  | nil => rfl
  | cons item items ih => rw [ofItems, ih, List.map_cons]

theorem ofMembers_eq_map (members : List (String × Json)) :
    ofMembers members = members.map fun m ↦ (m.1, ofJson m.2) := by
  induction members with
  | nil => rfl
  | cons member members ih => rw [ofMembers, ih, List.map_cons]

theorem ofJson_array (items : List Json) :
    ofJson (.array items) = .sequence (items.map ofJson) := by
  rw [ofJson, ofItems_eq_map]

theorem ofJson_object (members : List (String × Json)) :
    ofJson (.object members) = .record ((OrderedMap.ofList members).mapValues ofJson) := by
  rw [ofJson, ofMembers_eq_map, OrderedMap.ofList_map]

/-- Merging repeated names does not change the value of a document. -/
theorem ofJson_merged (j : Json) : ofJson j.merged = ofJson j := by
  induction j using Json.induct with
  | null => rfl
  | bool b => rfl
  | number n => rfl
  | text s => rfl
  | array items ih =>
    rw [Json.merged, Json.mergedItems_eq_map, ofJson_array, ofJson_array, List.map_map]
    exact congrArg sequence (List.map_congr_left ih)
  | object members ih =>
    -- Values may be taken before the members are collected, and what is collected once stays so.
    have hmembers : (members.map fun m ↦ (m.1, ofJson m.2.merged)) =
        members.map fun m ↦ (m.1, ofJson m.2) :=
      List.map_congr_left fun m hm ↦ by rw [ih m hm]
    rw [Json.merged, Json.mergedMembers_eq_map, ofJson_object, ofJson_object,
      OrderedMap.ofList_eq_mk (OrderedMap.nodup_keys_ofList _), ← OrderedMap.ofList_map,
      List.map_map, ← OrderedMap.ofList_map, ← hmembers]
    rfl

/-! ## Decoding by trial -/

theorem decode?_number (n : Json.Numeral) :
    decode? (.number n) = (Number.decode? n).map .number := by
  simp [decode?, decodeNull?, decodeBool?, decodeNumber?, decodeText?]

theorem decode?_array (items : List Json) :
    decode? (.array items) = (decodeItems? items).map .sequence := by
  simp [decode?, decodeNull?, decodeBool?, decodeNumber?, decodeText?]

theorem decode?_object (members : List (String × Json)) :
    decode? (.object members) = (decodeMembers? {} members).map .record := by
  simp [decode?, decodeNull?, decodeBool?, decodeNumber?, decodeText?]

end Value

/-- A double accepts whatever a signed and an unsigned word refuse. -/
theorem Number.decode?_eq_some (n : Json.Numeral) : decode? n = some (ofNumeral n) := by
  cases n with
  | natural n =>
    rw [decode?, signedWord?, ofNumeral, ofUInt64]
    split <;> rfl
  | negative n => rfl
  | float negative rank => rfl

namespace Value

theorem decodeItems?_eq_some {items : List Json}
    (h : ∀ j ∈ items, decode? j = some (ofJson j)) :
    decodeItems? items = some (items.map ofJson) := by
  induction items with
  | nil => rfl
  | cons item items ih =>
    obtain ⟨hitem, h⟩ := List.forall_mem_cons.mp h
    rw [decodeItems?, hitem, ih h]
    rfl

theorem decodeMembers?_eq_some {members : List (String × Json)}
    (h : ∀ m ∈ members, decode? m.2 = some (ofJson m.2)) (decoded : OrderedMap Value) :
    decodeMembers? decoded members =
      some (decoded.insertMany (members.map fun m ↦ (m.1, ofJson m.2))) := by
  induction members generalizing decoded with
  | nil => rfl
  | cons member members ih =>
    obtain ⟨hmember, h⟩ := List.forall_mem_cons.mp h
    rw [decodeMembers?, hmember]
    exact ih h _

/-- Some kind accepts every document, and makes the value of it that the document has. -/
theorem decode?_eq_some (j : Json) : decode? j = some (ofJson j) := by
  induction j using Json.induct with
  | null => rfl
  | bool b => rfl
  | number n => rw [decode?_number, Number.decode?_eq_some]; rfl
  | text s => rfl
  | array items ih => rw [decode?_array, decodeItems?_eq_some ih, ofJson_array]; rfl
  | object members ih =>
    rw [decode?_object, decodeMembers?_eq_some ih, ofJson_object, ← OrderedMap.ofList_map]
    rfl

/-- A map is decoded from an object as the record that the object would be. -/
theorem decodeMap?_object (members : List (String × Json)) :
    decodeMap? (.object members) = some ((OrderedMap.ofList members).mapValues ofJson) := by
  rw [← OrderedMap.ofList_map]
  exact decodeMembers?_eq_some (fun m _ ↦ decode?_eq_some m.2) {}

end Value

end RecordQuery
