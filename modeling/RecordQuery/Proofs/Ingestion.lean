import RecordQuery.Lookups.Reading
import RecordQuery.Proofs.ReadingBack

/-!
# From texts to values and collections

A text becomes a value in two ways. It can be read as a document, in which repeated names are merged
and which is then converted; or the kinds of values are tried on what is written, each name writing
over what it had. Both ways accept the same texts and make the same of them, as values, as records
and as lookups.

A collection is built from values, from a document, or from a text, and each of these ends in one of
a few ways. Here they are stated as relations between what is handed in and how it ends, without
going through the values one by one: either all of them are records, or the first that is none is to
blame. The functions are shown to end exactly as these relations say.
-/

namespace RecordQuery

/-! ## Two routes from a text -/

namespace Value

/-- The value that is found by trial is the value of the document. -/
theorem decodeText_eq_some_iff {s : String} {v : Value} :
    decodeText s = some v ↔ ∃ j, Json.parse s = .ok j ∧ ofJson j = v := by
  rw [decodeText, Json.parse]
  cases Json.read s with
  | error cause =>
    constructor
    · intro h
      cases h
    · rintro ⟨j, hj, -⟩
      cases hj
  | ok j =>
    change decode? j = some v ↔ ∃ k, Except.ok j.merged = .ok k ∧ ofJson k = v
    -- Merging names may change the document, but not its value.
    rw [decode?_eq_some, Option.some.injEq, ← ofJson_merged]
    constructor
    · exact fun h ↦ ⟨j.merged, rfl, h⟩
    · rintro ⟨k, hk, h⟩
      rwa [Except.ok.inj hk]

theorem decodeMap?_eq_some_iff {j : Json} {m : OrderedMap Value} :
    decodeMap? j = some m ↔ ofJson j = .record m := by
  cases j with
  | object members =>
    rw [decodeMap?_object, ofJson_object, Option.some.injEq, Value.record.injEq]
  | _ => exact ⟨nofun, nofun⟩

/-- A text decodes to a map of values exactly if it decodes to a record. -/
theorem decodeMapText_eq_some_iff {s : String} {m : OrderedMap Value} :
    decodeMapText s = some m ↔ decodeText s = some (.record m) := by
  rw [decodeMapText, decodeText]
  cases Json.read s with
  | error cause =>
    constructor
    · intro h
      cases h
    · intro h
      cases h
  | ok j =>
    change decodeMap? j = some m ↔ decode? j = some (.record m)
    rw [decodeMap?_eq_some_iff, decode?_eq_some, Option.some.injEq]

end Value

theorem Lookups.ofJson_eq_ok_iff {j : Json} {l : Lookups} :
    Lookups.ofJson j = .ok l ↔ Value.ofJson j = .record l := by
  rw [Lookups.ofJson]
  cases Value.ofJson j with
  | record fields => rw [Except.ok.injEq, Value.record.injEq]
  | _ => exact ⟨nofun, nofun⟩

/-- **Both routes from a text lead to the same.** By trial a text is accepted exactly if it is a
document, and then as the value of the document: kind by kind, number by number and name by name,
even if names are repeated. It is accepted as a record exactly if that value is one, and then as
this record; and as lookups exactly if they can be read from the document, and then as these. -/
theorem Value.decoding_agrees_with_reading (s : String) :
    ((Value.decodeText s).isSome = true ↔ ∃ j, Json.parse s = .ok j) ∧
    (∀ v, Value.decodeText s = some v ↔ ∃ j, Json.parse s = .ok j ∧ Value.ofJson j = v) ∧
    (∀ r, Record.decodeText s = some r ↔
      ∃ j, Json.parse s = .ok j ∧ Value.ofJson j = .record r) ∧
    (∀ l, Lookups.decodeText s = some l ↔
      ∃ j, Json.parse s = .ok j ∧ Lookups.ofJson j = .ok l) := by
  refine ⟨?_, fun v ↦ decodeText_eq_some_iff, fun r ↦ ?_, fun l ↦ ?_⟩
  · rw [Option.isSome_iff_exists]
    constructor
    · rintro ⟨v, h⟩
      obtain ⟨j, hj, -⟩ := decodeText_eq_some_iff.mp h
      exact ⟨j, hj⟩
    · rintro ⟨j, hj⟩
      exact ⟨Value.ofJson j, decodeText_eq_some_iff.mpr ⟨j, hj, rfl⟩⟩
  · rw [Record.decodeText, decodeMapText_eq_some_iff, decodeText_eq_some_iff]
  · rw [Lookups.decodeText, decodeMapText_eq_some_iff, decodeText_eq_some_iff]
    simp only [Lookups.ofJson_eq_ok_iff]

/-! ## Building collections -/

/-- The kind of value that a document denotes. -/
def Json.kind : Json → Value.Kind
  | .null => .null
  | .bool _ => .bool
  | .number _ => .number
  | .text _ => .text
  | .array _ => .sequence
  | .object _ => .record

theorem Value.kind_ofJson (j : Json) : (ofJson j).kind = j.kind := by
  cases j with
  | _ => rfl

theorem Value.exists_eq_record_iff {v : Value} : (∃ r, v = .record r) ↔ v.kind = .record := by
  cases v with
  | record r => exact ⟨fun _ ↦ rfl, fun _ ↦ ⟨r, rfl⟩⟩
  | _ => exact ⟨nofun, nofun⟩

namespace Collection

/-- How building a collection from values ends. -/
inductive BuiltFrom : List Value → Except Fault Collection → Prop
  /-- All of them are records, which become the collection, under the default configuration. -/
  | admitted (records : List Record) :
    BuiltFrom (records.map .record) (.ok { records, config := {} })
  /-- The first that is not a record is refused, by its position and its kind. -/
  | refused (records : List Record) {v : Value} (rest : List Value) (h : v.kind ≠ .record) :
    BuiltFrom (records.map .record ++ v :: rest) (.error (.notARecordAt records.length v.kind))

/-- How building a collection from a document ends. -/
inductive BuiltFromDocument : Json → Except Fault Collection → Prop
  /-- It is an array, and the values of its items decide. -/
  | array {items : List Json} {outcome : Except Fault Collection}
    (h : BuiltFrom (items.map Value.ofJson) outcome) : BuiltFromDocument (.array items) outcome
  /-- A document of another kind is refused by its kind. -/
  | refused {j : Json} (h : j.kind ≠ .sequence) :
    BuiltFromDocument j (.error (.notAnArray j.kind))

/-- How building a collection from a text ends. -/
inductive BuiltFromText : String → Except Fault Collection → Prop
  /-- It is a document, which decides. -/
  | read {s : String} {j : Json} {outcome : Except Fault Collection}
    (hread : Json.parse s = .ok j) (h : BuiltFromDocument j outcome) : BuiltFromText s outcome
  /-- It is not a document, for some cause. -/
  | unread {s : String} {cause : Json.ReadFault} (h : Json.parse s = .error cause) :
    BuiltFromText s (.error (.badDocument cause))

/-! ### Values -/

theorem recordsOf_refused {v : Value} (hv : v.kind ≠ .record) (records : List Record)
    (position : Nat) (rest : List Value) :
    recordsOf position (records.map .record ++ v :: rest) =
      .error (.notARecordAt (position + records.length) v.kind) := by
  induction records generalizing position with
  | nil =>
    cases v with
    | record r => exact absurd rfl hv
    | _ => rfl
  | cons r records ih =>
    rw [List.map_cons, List.cons_append, recordsOf, ih, List.length_cons, Nat.add_right_comm]
    rfl

/-- Values are records up to some first one that is none, or to their end. -/
theorem exists_records_append (values : List Value) :
    (∃ records : List Record, values = records.map .record) ∨
      ∃ (records : List Record) (v : Value) (rest : List Value),
        values = records.map .record ++ v :: rest ∧ v.kind ≠ .record := by
  induction values with
  | nil => exact Or.inl ⟨[], rfl⟩
  | cons v values ih =>
    by_cases hv : v.kind = .record
    · obtain ⟨r, rfl⟩ := Value.exists_eq_record_iff.mpr hv
      rcases ih with ⟨records, rfl⟩ | ⟨records, w, rest, rfl, hw⟩
      · exact Or.inl ⟨r :: records, rfl⟩
      · exact Or.inr ⟨r :: records, w, rest, rfl, hw⟩
    · exact Or.inr ⟨[], v, values, rfl, hv⟩

/-- Values are records if each of them is of that kind. -/
theorem exists_eq_map_record {values : List Value} (h : ∀ v ∈ values, v.kind = .record) :
    ∃ records : List Record, values = records.map .record := by
  rcases exists_records_append values with hall | ⟨records, v, rest, rfl, hv⟩
  · exact hall
  · exact absurd (h v (by simp)) hv

theorem ofValues_map_record (records : List Record) :
    ofValues (records.map .record) = .ok { records, config := {} } := by
  rw [ofValues, recordsOf_map_record]
  rfl

theorem ofValues_refused {v : Value} (hv : v.kind ≠ .record) (records : List Record)
    (rest : List Value) :
    ofValues (records.map .record ++ v :: rest) =
      .error (.notARecordAt records.length v.kind) := by
  rw [ofValues, recordsOf_refused hv, Nat.zero_add]
  rfl

theorem ofValues_eq_iff {values : List Value} {outcome : Except Fault Collection} :
    ofValues values = outcome ↔ BuiltFrom values outcome := by
  constructor
  · rintro rfl
    rcases exists_records_append values with ⟨records, rfl⟩ | ⟨records, v, rest, rfl, hv⟩
    · rw [ofValues_map_record]
      exact .admitted records
    · rw [ofValues_refused hv]
      exact .refused records rest hv
  · intro h
    cases h with
    | admitted records => exact ofValues_map_record records
    | refused records rest hv => exact ofValues_refused hv records rest

theorem exists_ofValues_eq_ok_iff {values : List Value} :
    (∃ c, ofValues values = .ok c) ↔ ∀ v ∈ values, v.kind = .record := by
  constructor
  · rintro ⟨c, hc⟩
    cases ofValues_eq_iff.mp hc with
    | admitted records => exact List.forall_mem_map.mpr fun r _ ↦ rfl
  · intro h
    obtain ⟨records, rfl⟩ := exists_eq_map_record h
    exact ⟨_, ofValues_map_record records⟩

/-- Values are refused for one of them exactly if it is the first that is not a record. -/
theorem ofValues_eq_notARecordAt_iff {values : List Value} {i : Nat} {k : Value.Kind} :
    ofValues values = .error (.notARecordAt i k) ↔
      ∃ front v back, values = front ++ v :: back ∧ (∀ w ∈ front, w.kind = .record) ∧
        v.kind = k ∧ k ≠ .record ∧ i = front.length := by
  constructor
  · intro h
    cases ofValues_eq_iff.mp h with
    | refused records rest hv =>
      refine ⟨_, _, rest, rfl, List.forall_mem_map.mpr fun r _ ↦ rfl, rfl, hv, ?_⟩
      rw [List.length_map]
  · rintro ⟨front, v, back, rfl, hfront, rfl, hv, rfl⟩
    obtain ⟨records, rfl⟩ := exists_eq_map_record hfront
    rw [ofValues_refused hv, List.length_map]

/-! ### Documents and texts -/

theorem ofJson_array (items : List Json) :
    ofJson (.array items) = ofValues (items.map Value.ofJson) := by
  rw [ofJson, Value.ofJson_array]

theorem ofJson_of_kind_ne {j : Json} (h : j.kind ≠ .sequence) :
    ofJson j = .error (.notAnArray j.kind) := by
  cases j with
  | array items => exact absurd rfl h
  | _ => rfl

theorem ofJson_eq_iff {j : Json} {outcome : Except Fault Collection} :
    ofJson j = outcome ↔ BuiltFromDocument j outcome := by
  constructor
  · rintro rfl
    by_cases h : j.kind = .sequence
    · cases j with
      | array items => exact .array (ofValues_eq_iff.mp (ofJson_array items).symm)
      | _ => cases h
    · rw [ofJson_of_kind_ne h]
      exact .refused h
  · intro h
    cases h with
    | array h => rw [ofJson_array, ofValues_eq_iff.mpr h]
    | refused h => exact ofJson_of_kind_ne h

theorem parse_of_read {s : String} {j : Json} (h : Json.parse s = .ok j) :
    parse s = ofJson j := by
  rw [parse, h]

theorem parse_of_unread {s : String} {cause : Json.ReadFault} (h : Json.parse s = .error cause) :
    parse s = .error (.badDocument cause) := by
  rw [parse, h]

theorem parse_eq_iff {s : String} {outcome : Except Fault Collection} :
    parse s = outcome ↔ BuiltFromText s outcome := by
  constructor
  · rintro rfl
    cases h : Json.parse s with
    | ok j => exact .read h (ofJson_eq_iff.mp (parse_of_read h).symm)
    | error cause =>
      rw [parse_of_unread h]
      exact .unread h
  · intro h
    cases h with
    | read hread h => rw [parse_of_read hread, ofJson_eq_iff.mpr h]
    | unread h => exact parse_of_unread h

/-- A text is refused for an item exactly if this is its first that is not an object. -/
theorem parse_eq_notARecordAt_iff {s : String} {i : Nat} {k : Value.Kind} :
    parse s = .error (.notARecordAt i k) ↔
      ∃ front item back, Json.parse s = .ok (.array (front ++ item :: back)) ∧
        (∀ j ∈ front, j.kind = .record) ∧ item.kind = k ∧ k ≠ .record ∧ i = front.length := by
  constructor
  · intro h
    cases parse_eq_iff.mp h with
    | read hread h =>
      cases h with
      | array h =>
        -- The values are those of the items, so they are parted where the items are.
        obtain ⟨records, v, rest, heq, hrecords, hv, hk, hi⟩ :=
          ofValues_eq_notARecordAt_iff.mp (ofValues_eq_iff.mpr h)
        obtain ⟨front, tail, rfl, rfl, htail⟩ := List.map_eq_append_iff.mp heq
        obtain ⟨item, back, rfl, rfl, -⟩ := List.map_eq_cons_iff.mp htail
        rw [List.forall_mem_map] at hrecords
        simp only [Value.kind_ofJson, List.length_map] at hrecords hv hi
        exact ⟨front, item, back, hread, hrecords, hv, hk, hi⟩
  · rintro ⟨front, item, back, hread, hfront, hitem, hk, rfl⟩
    have hkinds : ∀ v ∈ front.map Value.ofJson, v.kind = .record :=
      List.forall_mem_map.mpr fun j hj ↦ (Value.kind_ofJson j).trans (hfront j hj)
    rw [parse_of_read hread, ofJson_array, List.map_append, List.map_cons,
      ofValues_eq_notARecordAt_iff]
    refine ⟨_, _, _, rfl, hkinds, (Value.kind_ofJson item).trans hitem, hk, ?_⟩
    rw [List.length_map]

/-- **Only records get in, and the first value that is none is to blame.** Building a collection
from values, from a document and from a text ends as the relations for them say. So it succeeds for
values exactly if each of them is a record; and where one item of a text is to blame, it is the
first that is not an object. The records of a collection can be taken for values, and give a
collection of the same records. -/
theorem built_from_records_only :
    (∀ values outcome, ofValues values = outcome ↔ BuiltFrom values outcome) ∧
    (∀ values, (∃ c, ofValues values = .ok c) ↔ ∀ v ∈ values, v.kind = .record) ∧
    (∀ j outcome, ofJson j = outcome ↔ BuiltFromDocument j outcome) ∧
    (∀ s outcome, parse s = outcome ↔ BuiltFromText s outcome) ∧
    (∀ s i k, parse s = .error (.notARecordAt i k) ↔
      ∃ front item back, Json.parse s = .ok (.array (front ++ item :: back)) ∧
        (∀ j ∈ front, j.kind = .record) ∧ item.kind = k ∧ k ≠ .record ∧ i = front.length) ∧
    ∀ c : Collection,
      ofValues (c.records.map .record) = .ok { records := c.records, config := {} } := by
  refine ⟨fun values outcome ↦ ofValues_eq_iff, fun values ↦ exists_ofValues_eq_ok_iff,
    fun j outcome ↦ ofJson_eq_iff, fun s outcome ↦ parse_eq_iff, fun s i k ↦ ?_, fun c ↦ ?_⟩
  · exact parse_eq_notARecordAt_iff
  · exact ofValues_map_record c.records

example : ofValues [.record {}, .text "x", .null] = .error (.notARecordAt 1 .text) := rfl

end Collection

end RecordQuery
