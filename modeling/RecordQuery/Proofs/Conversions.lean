import RecordQuery.Proofs.ReadingBack

/-!
# Converting back and forth

A document in which no object repeats a name is the document of its value: nothing of it is lost on
the way, not even the order of members. The other way round two things are lost, whether an unsigned
word could have been a signed one and which of the doubles that are not finite one was. So
converting a value to a document and back gives what `Value.restored` says, and converting that once
more changes nothing.
-/

namespace RecordQuery

namespace Json

/-! ## Documents that name each member once -/

/-- In no object within a document does a name occur twice. -/
inductive NamesOnce : Json → Prop
  /-- There is no object in the word `null`. -/
  | null : NamesOnce .null
  /-- There is no object in a truth value. -/
  | bool (b : Bool) : NamesOnce (.bool b)
  /-- There is no object in a number. -/
  | number (n : Numeral) : NamesOnce (.number n)
  /-- There is no object in a text. -/
  | text (s : String) : NamesOnce (.text s)
  /-- The objects in an array are those in its items. -/
  | array {items : List Json} (h : ∀ j ∈ items, NamesOnce j) : NamesOnce (.array items)
  /-- The objects in an object are itself and those in its members. -/
  | object {members : List (String × Json)} (hnames : (members.map Prod.fst).Nodup)
    (h : ∀ m ∈ members, NamesOnce m.2) : NamesOnce (.object members)

/-- Where no name is repeated there is nothing to merge. -/
theorem merged_eq_self {j : Json} (h : j.NamesOnce) : j.merged = j := by
  induction h with
  | null => rfl
  | bool b => rfl
  | number n => rfl
  | text s => rfl
  | @array items _ ih =>
    have hitems : items.map merged = items.map id := List.map_congr_left ih
    rw [merged, mergedItems_eq_map, hitems, List.map_id]
  | @object members hnames _ ih =>
    have hmembers : (members.map fun m ↦ (m.1, m.2.merged)) = members.map id :=
      List.map_congr_left fun m hm ↦ by rw [ih m hm]; rfl
    rw [merged, mergedMembers_eq_map, hmembers, List.map_id, OrderedMap.ofList_eq_mk hnames]

end Json

/-! ## From documents to values and back -/

/-- Each kind of number of a document has a kind of number of values that is written as it. -/
theorem Number.toJson_ofNumeral (n : Json.Numeral) : (ofNumeral n).toJson = .number n := by
  cases n with
  | natural n =>
    rw [ofNumeral, ofUInt64]
    split
    · rename_i h
      have hint : (Int64.ofInt n.toNat).toInt = n.toNat :=
        Int64.toInt_ofInt_of_le (by omega) (by simp only [Nat.pow_eq] at h; omega)
      rw [toJson, dif_neg (by omega), hint, Int.toNat_natCast, UInt64.ofNat_toNat]
    · rfl
  | negative n =>
    have hn := n.isLt
    simp only [Nat.pow_eq] at hn
    have hint : (Int64.ofInt (-(n + 1 : Int))).toInt = -(n + 1 : Int) :=
      Int64.toInt_ofInt_of_le (by omega) (by omega)
    rw [ofNumeral, toJson]
    split
    · refine congrArg (fun m ↦ Json.number (.negative m)) (Fin.ext ?_)
      simp only [hint]
      omega
    · rename_i h
      exact absurd (hint ▸ h) (by omega)
  | float negative rank => rfl

/-- The document of a number is a number, or the word `null`. -/
theorem Number.namesOnce_toJson (n : Number) : n.toJson.NamesOnce := by
  cases n with
  | signed i =>
    rw [toJson]
    split
    · exact .number _
    · exact .number _
  | unsigned u => exact .number _
  | float x =>
    cases x with
    | finite negative rank => exact .number _
    | nan => exact .null
    | infinite negative => exact .null

namespace Value

/-- A document whose repeated names are merged is what its value is written as. -/
theorem toJson_ofJson (j : Json) : (ofJson j).toJson = j.merged := by
  induction j using Json.induct with
  | null => rfl
  | bool b => rfl
  | number n => exact Number.toJson_ofNumeral n
  | text s => rfl
  | array items ih =>
    rw [ofJson_array, toJson_sequence, List.map_map, Json.merged, Json.mergedItems_eq_map]
    exact congrArg Json.array (List.map_congr_left ih)
  | object members ih =>
    have hmembers : (members.map fun m ↦ (m.1, (ofJson m.2).toJson)) =
        members.map fun m ↦ (m.1, m.2.merged) :=
      List.map_congr_left fun m hm ↦ by rw [ih m hm]
    rw [ofJson_object, toJson_record, ← OrderedMap.ofList_map, ← OrderedMap.ofList_map,
      List.map_map, Json.merged, Json.mergedMembers_eq_map, ← hmembers]
    rfl

/-- The document of a well-formed value names each member once. -/
theorem namesOnce_toJson {v : Value} (h : v.WellFormed) : v.toJson.NamesOnce := by
  induction h with
  | null => exact .null
  | bool b => exact .bool b
  | number n => exact n.namesOnce_toJson
  | text s => exact .text s
  | sequence _ ih =>
    rw [toJson_sequence]
    exact .array (List.forall_mem_map.mpr ih)
  | @record r hkeys _ ih =>
    rw [toJson_record]
    have hnames : (r.mapValues toJson).keys.Nodup := by rwa [OrderedMap.keys_mapValues]
    exact .object hnames (List.forall_mem_map.mpr fun e he ↦ ih e.2 (List.mem_map_of_mem he))

/-- **Converting back and forth loses next to nothing.** A document that names each member once is
what its value is written as. A value without repeated names comes back with those unsigned words
signed that a signed word can hold, and with nothing in the place of doubles that are not finite;
so it comes back as an equal value exactly if all of its numbers are finite. Going back and forth a
second time changes nothing. -/
theorem conversions_restore :
    (∀ j : Json, j.NamesOnce → (ofJson j).toJson = j) ∧
    ∀ v : Value, v.WellFormed →
      ofJson v.toJson = v.restored ∧
      (v.restored.same v = true ↔ v.EachNumber Number.IsFinite) ∧
      ofJson (ofJson v.toJson).toJson = ofJson v.toJson := by
  have hdocument (j : Json) (h : j.NamesOnce) : (ofJson j).toJson = j := by
    rw [toJson_ofJson, Json.merged_eq_self h]
  refine ⟨hdocument, fun v hv ↦ ⟨ofJson_toJson hv, restored_same_iff hv, ?_⟩⟩
  rw [hdocument v.toJson (namesOnce_toJson hv)]

/-- A document of numbers at the limits of their kinds, with its members in no special order. -/
def limits : Json := .object [
  ("words", .array [.number (.natural 9223372036854775807), .number (.natural 9223372036854775808),
    .number (.negative ⟨9223372036854775807, by decide⟩)]),
  ("doubles", .array [(Number.float (.zero true)).toJson, .number (.float false ⟨1, by decide⟩)]),
  ("", .object [])]

/-- A record with two numbers in a sequence. -/
def pair (m n : Number) : Record := ⟨[("pair", .sequence [.number m, .number n])]⟩

/-- Minus zero comes back, and minus infinity does not. -/
theorem conversions_restore_limits :
    limits.NamesOnce ∧ (ofJson limits).toJson = limits ∧
    ofJson (Value.record (pair (.unsigned 7) (.float (.zero true)))).toJson =
      .record (pair (.signed 7) (.float (.zero true))) ∧
    (Value.record (pair (.unsigned 7) (.float (.zero true)))).restored.same
      (.record (pair (.unsigned 7) (.float (.zero true)))) = true ∧
    ¬(Value.record (pair (.unsigned 7) (.float (.infinite true)))).restored.same
      (.record (pair (.unsigned 7) (.float (.infinite true)))) = true := by
  have hlimits : limits.NamesOnce := by
    refine .object (by decide) ?_
    simp [Json.NamesOnce.array, Json.NamesOnce.number, Json.NamesOnce.object,
      Number.namesOnce_toJson]
  have hpair (m n : Number) : (Value.record (pair m n)).WellFormed := by
    simp [pair, OrderedMap.keys, OrderedMap.values]
  obtain ⟨hdocument, hvalue⟩ := conversions_restore
  obtain ⟨hback, hsame, -⟩ := hvalue _ (hpair (.unsigned 7) (.float (.zero true)))
  obtain ⟨-, hlost, -⟩ := hvalue _ (hpair (.unsigned 7) (.float (.infinite true)))
  refine ⟨hlimits, hdocument _ hlimits, hback, hsame.mpr ?_, fun h ↦ ?_⟩
  · have hfinite : (Number.float (.zero true)).IsFinite := .float true _
    simp [pair, OrderedMap.values, hfinite, Number.IsFinite.unsigned]
  · have hfinite : (Number.float (.infinite true)).IsFinite := by
      simpa [pair, OrderedMap.values, Number.IsFinite.unsigned] using hlost.mp h
    cases hfinite

end Value

end RecordQuery
