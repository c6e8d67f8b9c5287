import Mathlib
import RecordQuery.Proofs.ExactValue

/-!
# What numbers denote

A word denotes an integer, and the 64 bits of a double denote a rational number, an infinity, or
nothing. Counts of grains, by which numbers are compared elsewhere, are a device of this library;
here the bits are read as the interchange format says, as a sign, an exponent and a fraction, and
the order of numbers is shown to be the order of the rational numbers they denote. No side of a
comparison is ever rounded.

## Whole parts

A double among the words is ordered against one by its whole part, which is cut off towards zero.
That part is an integer far within 128 bits, so a program that keeps it in so many loses nothing.
-/

namespace RecordQuery

/-- A rational number or an infinity. -/
abbrev ExtendedRat := WithBot (WithTop ℚ)

/-- A rational number among them. -/
def ExtendedRat.finite (q : ℚ) : ExtendedRat := ((q : WithTop ℚ) : WithBot _)

theorem ExtendedRat.finite_inj {p q : ℚ} : finite p = finite q ↔ p = q := by
  rw [finite, finite, WithBot.coe_inj, WithTop.coe_inj]

/-- The integer that a rational number becomes when it is cut off towards zero. -/
def truncated (q : ℚ) : Int := if q < 0 then ⌈q⌉ else ⌊q⌋

/-! ## Cutting off -/

theorem truncated_of_nonneg {q : ℚ} (h : 0 ≤ q) : truncated q = ⌊q⌋ := if_neg (not_lt.mpr h)

theorem truncated_neg {q : ℚ} (h : 0 ≤ q) : truncated (-q) = -⌊q⌋ := by
  rw [truncated]
  split
  · exact Int.ceil_neg
  · rename_i hnot
    obtain rfl : q = 0 := le_antisymm (by linarith) h
    simp

theorem floor_natCast_div (count G : Nat) : ⌊(count : ℚ) / G⌋ = ((count / G : Nat) : Int) := by
  rw [Rat.floor_natCast_div_natCast, Int.natCast_div]

theorem strictMono_div_natCast {G : Nat} (hG : 0 < G) :
    StrictMono fun count : Int ↦ (count : ℚ) / G := by
  have hG' : (0 : ℚ) < G := by exact_mod_cast hG
  exact fun i j hij ↦ div_lt_div_of_pos_right (by exact_mod_cast hij) hG'

/-- The whole part of a quotient is the quotient itself if there is no remainder, and less than it
otherwise. -/
theorem compare_whole_quotient {G : Nat} (hG : 0 < G) (count : Nat) :
    compare (((count / G : Nat) : Int) : ℚ) ((count : ℚ) / G) =
      if count % G = 0 then .eq else .lt := by
  have hG' : (G : ℚ) ≠ 0 := by exact_mod_cast hG.ne'
  have hthen := Binary64.compare_whole_then hG (count / G : Nat) count
  rw [compare_eq_iff_eq.mpr rfl, Ordering.eq_then] at hthen
  rw [hthen, ← compare_strictMono (strictMono_div_natCast hG), Int.cast_mul, Int.cast_natCast G,
    mul_div_cancel_right₀ _ hG', Int.cast_natCast count]

/-! ## Amounts as rational numbers -/

namespace Amount

/-- The rational number, or infinity, that an amount of grains is. -/
def value : Amount → ExtendedRat :=
  WithBot.map (WithTop.map fun count : Int ↦ (count : ℚ) / Binary64.grainsPerUnit)

@[simp] theorem value_finite (count : Int) :
    value (finite count) = .finite (count / Binary64.grainsPerUnit) := rfl

theorem value_strictMono : StrictMono value :=
  (strictMono_div_natCast Binary64.grainsPerUnit_pos).withTop_map.withBot_map

end Amount

namespace Binary64

/-! ## Bits -/

/-- Whether the sign bit of a word is set. -/
def signBit (bits : Nat) : Bool := decide (bits / 2 ^ 63 % 2 = 1)

/-- The eleven bits of exponent below the sign. -/
def exponentField (bits : Nat) : Nat := bits / 2 ^ 52 % 2 ^ 11

/-- The 52 bits of fraction below the exponent. -/
def fractionField (bits : Nat) : Nat := bits % 2 ^ 52

/-- The magnitude with an exponent and a fraction. That the least exponent goes without a leading
one is what lets magnitudes reach down to zero. -/
def magnitude (exponent fraction : Nat) : ℚ :=
  if exponent = 0 then fraction * 2 ^ (-1074 : ℤ)
  else (2 ^ 52 + fraction) * 2 ^ ((exponent : ℤ) - 1075)

/-- What a word of 64 bits denotes as a double. The greatest exponent is kept for the infinities and
for what is not a number. -/
def denoted? (bits : Nat) : Option ExtendedRat :=
  if exponentField bits = 2047 then
    if fractionField bits = 0 then some (if signBit bits then ⊥ else ⊤) else none
  else
    let q := magnitude (exponentField bits) (fractionField bits)
    some (.finite (if signBit bits then -q else q))

/-- What a double denotes. -/
def value? (x : Binary64) : Option ExtendedRat := denoted? x.toBits

theorem toBits_nan : nan.toBits = rankLimit + 2 ^ 51 := rfl

theorem toBits_infinite (negative : Bool) :
    (infinite negative).toBits = (if negative then 2 ^ 63 else 0) + rankLimit := rfl

theorem toBits_finite (negative : Bool) (rank : Fin rankLimit) :
    (finite negative rank).toBits = (if negative then 2 ^ 63 else 0) + rank := rfl

/-- The bits of a sign and a rank. -/
theorem fields_sign_rank (negative : Bool) (rank : Nat) (h : rank < 2 ^ 63) :
    let bits := (if negative then 2 ^ 63 else 0) + rank
    signBit bits = negative ∧ exponentField bits = rank / 2 ^ 52 ∧
      fractionField bits = rank % 2 ^ 52 := by
  cases negative <;> simp [signBit, exponentField, fractionField] <;> omega

theorem inv_grainsPerUnit : (grainsPerUnit : ℚ)⁻¹ = 2 ^ (-1074 : ℤ) := by decide +kernel

theorem grains_div_grainsPerUnit (rank : Nat) :
    (grains rank : ℚ) / grainsPerUnit = magnitude (rank / 2 ^ 52) (rank % 2 ^ 52) := by
  rw [magnitude, div_eq_mul_inv, inv_grainsPerUnit]
  split
  · rename_i hsmall
    have hlt : rank < 2 ^ 52 := by omega
    rw [grains_of_lt hlt, Nat.mod_eq_of_lt hlt]
  · rename_i hlarge
    have hexp : ((rank / 2 ^ 52 : Nat) : ℤ) - 1075 = ((rank / 2 ^ 52 - 1 : Nat) : ℤ) + -1074 := by
      omega
    rw [grains_of_le (by omega), hexp, zpow_add₀ two_ne_zero, zpow_natCast,
      Nat.cast_mul, Nat.cast_add, Nat.cast_pow, Nat.cast_pow, Nat.cast_ofNat, mul_assoc]

theorem rankLimit_eq : rankLimit = 2047 * 2 ^ 52 := by rw [rankLimit, Nat.pow_eq]

theorem value?_finite (negative : Bool) (rank : Fin rankLimit) :
    (finite negative rank).value? =
      some (.finite (signedGrains negative rank / grainsPerUnit)) := by
  have hrank : (rank : Nat) < 2047 * 2 ^ 52 := rankLimit_eq ▸ rank.isLt
  obtain ⟨hsign, hexp, hfrac⟩ := fields_sign_rank negative rank (by omega)
  rw [value?, toBits_finite, denoted?, hsign, hexp, hfrac, if_neg (by omega),
    ← grains_div_grainsPerUnit]
  cases negative <;>
    simp only [signedGrains, Bool.false_eq_true, if_true, if_false, Int.cast_neg, neg_div,
      Int.cast_natCast]

/-- What a double denotes is its amount. -/
theorem value?_eq (x : Binary64) : x.value? = x.amount?.map Amount.value := by
  cases x with
  | nan =>
    have hlt : rankLimit + 2 ^ 51 < 2 ^ 63 := by rw [rankLimit_eq]; norm_num
    obtain ⟨-, hexp, hfrac⟩ := fields_sign_rank false _ hlt
    have hexp' : (rankLimit + 2 ^ 51) / 2 ^ 52 = 2047 := by rw [rankLimit_eq]; omega
    have hfrac' : ¬(rankLimit + 2 ^ 51) % 2 ^ 52 = 0 := by rw [rankLimit_eq]; omega
    rw [if_neg Bool.false_ne_true, Nat.zero_add] at hexp hfrac
    rw [value?, toBits_nan, denoted?, hexp, hfrac, if_pos hexp', if_neg hfrac']
    rfl
  | infinite negative =>
    have hlt : rankLimit < 2 ^ 63 := by rw [rankLimit_eq]; norm_num
    obtain ⟨hsign, hexp, hfrac⟩ := fields_sign_rank negative _ hlt
    have hexp' : rankLimit / 2 ^ 52 = 2047 := by rw [rankLimit_eq]; omega
    have hfrac' : rankLimit % 2 ^ 52 = 0 := by rw [rankLimit_eq]; omega
    rw [value?, toBits_infinite, denoted?, hsign, hexp, hfrac, if_pos hexp', if_pos hfrac']
    cases negative <;> rfl
  | finite negative rank => exact value?_finite negative rank

/-- All words are the bits of doubles, except those that denote nothing, which one of them stands
for. -/
theorem exists_toBits_eq {bits : Nat} (h : bits < 2 ^ 64) :
    denoted? bits = none ∨ ∃ x : Binary64, x.toBits = bits := by
  have hsign : ∃ negative : Bool, (if negative then 2 ^ 63 else 0) + bits % 2 ^ 63 = bits := by
    by_cases hle : 2 ^ 63 ≤ bits
    · exact ⟨true, by rw [if_pos rfl]; omega⟩
    · exact ⟨false, by rw [if_neg Bool.false_ne_true]; omega⟩
  obtain ⟨negative, hbits⟩ := hsign
  rcases lt_trichotomy (bits % 2 ^ 63) rankLimit with hlt | heq | hgt
  · refine Or.inr ⟨.finite negative ⟨bits % 2 ^ 63, hlt⟩, ?_⟩
    rw [toBits_finite]
    exact hbits
  · refine Or.inr ⟨.infinite negative, ?_⟩
    rw [toBits_infinite, ← heq]
    exact hbits
  · rw [rankLimit_eq] at hgt
    refine Or.inl ?_
    rw [denoted?, exponentField, fractionField, if_pos (by omega), if_neg (by omega)]

/-! ## Whole parts -/

/-- The place of a rational number among the words. -/
def Location.ofRat (q : ℚ) : Location :=
  if q < -2 ^ 63 then .below else if 2 ^ 64 ≤ q then .above
  else .among (truncated q) (compare (truncated q : ℚ) q)

theorem Location.ofRat_quotient {G : Nat} (hG : 0 < G) (count : Nat) :
    ofRat ((count : ℚ) / G) = if Nat.pow 2 64 ≤ count / G then .above
      else .among (count / G : Nat) (if count % G = 0 then .eq else .lt) := by
  have hG' : (0 : ℚ) < G := by exact_mod_cast hG
  have hnonneg : (0 : ℚ) ≤ (count : ℚ) / G := by positivity
  have hfar : Nat.pow 2 64 ≤ count / G ↔ (2 ^ 64 : ℚ) ≤ (count : ℚ) / G := by
    rw [Nat.pow_eq, Nat.le_div_iff_mul_le hG, le_div_iff₀ hG']
    exact_mod_cast Iff.rfl
  rw [ofRat, if_neg (by linarith), truncated_of_nonneg hnonneg, floor_natCast_div,
    compare_whole_quotient hG]
  simp only [hfar]

theorem Location.ofRat_neg_quotient {G : Nat} (hG : 0 < G) (count : Nat) :
    ofRat (-((count : ℚ) / G)) = if Nat.pow 2 63 * G < count then .below
      else .among (-(count / G : Nat)) (if count % G = 0 then .eq else .gt) := by
  have hG' : (0 : ℚ) < G := by exact_mod_cast hG
  have hnonneg : (0 : ℚ) ≤ (count : ℚ) / G := by positivity
  have hfar : Nat.pow 2 63 * G < count ↔ -((count : ℚ) / G) < -2 ^ 63 := by
    rw [Nat.pow_eq, neg_lt_neg_iff, lt_div_iff₀ hG']
    exact_mod_cast Iff.rfl
  rw [ofRat, if_neg (c := 2 ^ 64 ≤ -((count : ℚ) / G)) (by linarith), truncated_neg hnonneg,
    floor_natCast_div, Int.cast_neg, compare_neg_right, neg_neg, compare_whole_quotient hG,
    apply_ite Ordering.swap]
  simp only [hfar, Ordering.swap]

/-- A double lies where the rational number that it denotes does. -/
theorem location?_eq {x : Binary64} {q : ℚ} (h : x.value? = some (.finite q)) :
    x.location? = some (.ofRat q) := by
  cases x with
  | nan => rw [value?_eq] at h; cases h
  | infinite negative => rw [value?_eq] at h; cases negative <;> cases h
  | finite negative rank =>
    rw [value?_finite, Option.some.injEq, ExtendedRat.finite_inj] at h
    rw [← h, location?, signedGrains]
    cases negative with
    | false =>
      simp only [Bool.false_eq_true, if_false, Int.cast_natCast,
        Location.ofRat_quotient grainsPerUnit_pos]
      split <;> rfl
    | true =>
      simp only [if_true, Int.cast_neg, Int.cast_natCast, neg_div,
        Location.ofRat_neg_quotient grainsPerUnit_pos]
      split <;> rfl

theorem truncated_bounds {q : ℚ} (hlow : -2 ^ 63 ≤ q) (hhigh : q < 2 ^ 64) :
    -2 ^ 63 ≤ truncated q ∧ truncated q < 2 ^ 64 := by
  rw [truncated]
  split
  · rename_i hneg
    have hceil : ⌈q⌉ ≤ 0 := Int.ceil_nonpos.mpr hneg.le
    have hle : (-2 ^ 63 : ℚ) ≤ ⌈q⌉ := hlow.trans (Int.le_ceil q)
    exact ⟨by exact_mod_cast hle, by omega⟩
  · rename_i hnonneg
    have hfloor : 0 ≤ ⌊q⌋ := Int.floor_nonneg.mpr (not_lt.mp hnonneg)
    have hlt : (⌊q⌋ : ℚ) < 2 ^ 64 := (Int.floor_le q).trans_lt hhigh
    exact ⟨by omega, by exact_mod_cast hlt⟩

/-- A double that is ordered by its whole part denotes a rational number, of which it is the whole
part, and one that is no further from zero than words are. -/
theorem exists_value?_of_location? {x : Binary64} {whole : Int} {behind : Ordering}
    (h : x.location? = some (.among whole behind)) :
    ∃ q, x.value? = some (.finite q) ∧ whole = truncated q ∧ -2 ^ 63 ≤ q ∧ q < 2 ^ 64 := by
  cases x with
  | nan => cases h
  | infinite negative => cases negative <;> cases h
  | finite negative rank =>
    have hvalue := value?_finite negative rank
    refine ⟨_, hvalue, ?_⟩
    rw [location?_eq hvalue, Option.some.injEq, Location.ofRat] at h
    split at h
    · cases h
    · split at h
      · cases h
      · rename_i hlow hhigh
        obtain ⟨rfl, -⟩ := Location.among.inj h
        exact ⟨rfl, not_lt.mp hlow, not_le.mp hhigh⟩

end Binary64

/-! ## Numbers -/

namespace Number

/-- What a number denotes; `none` for what is not a number. -/
def value? : Number → Option ExtendedRat
  | .signed i => some (.finite i.toInt)
  | .unsigned u => some (.finite u.toNat)
  | .float x => x.value?

theorem value?_eq (a : Number) : a.value? = a.amount?.map Amount.value := by
  have hG : (Binary64.grainsPerUnit : ℚ) ≠ 0 := by exact_mod_cast Binary64.grainsPerUnit_pos.ne'
  have hword (i : Int) :
      Amount.value (.finite (i * Binary64.grainsPerUnit)) = .finite (i : ℚ) := by
    rw [Amount.value_finite, Int.cast_mul, Int.cast_natCast, mul_div_cancel_right₀ _ hG]
  cases a with
  | signed i => rw [amount?, Option.map_some, hword, value?]
  | unsigned u => rw [amount?, Option.map_some, hword, value?, Int.cast_natCast]
  | float x => exact x.value?_eq

theorem value?_eq_none_iff {a : Number} : a.value? = none ↔ a = .float .nan := by
  rw [value?_eq, Option.map_eq_none_iff, amount?_eq_none_iff]

theorem compare?_eq_compare_value? (a b : Number) :
    a.compare? b = do return compare (← a.value?) (← b.value?) := by
  rw [compare?_eq, value?_eq, value?_eq]
  cases a.amount? with
  | none => rfl
  | some x =>
    cases b.amount? with
    | none => rfl
    | some y => exact congrArg some (compare_strictMono Amount.value_strictMono x y).symm

theorem compare?_eq_none_iff {a b : Number} :
    a.compare? b = none ↔ a = .float .nan ∨ b = .float .nan := by
  rw [compare?_eq_compare_value?, ← value?_eq_none_iff, ← value?_eq_none_iff]
  cases a.value? <;> cases b.value? <;> simp

theorem compare?_of_value? {a b : Number} {x y : ExtendedRat} (ha : a.value? = some x)
    (hb : b.value? = some y) : a.compare? b = some (compare x y) := by
  rw [compare?_eq_compare_value?, ha, hb]
  rfl

theorem sameValue_iff_value? {a b : Number} :
    a.sameValue b = true ↔ ∃ x, a.value? = some x ∧ b.value? = some x := by
  rw [sameValue, compare?_eq_compare_value?, beq_iff_eq, compare_eq_some_eq_iff]

theorem value?_zero (negative : Bool) :
    (Number.float (.zero negative)).value? = some (.finite 0) := by
  have hzero : Binary64.signedGrains negative 0 = 0 := by cases negative <;> rfl
  rw [value?, Binary64.zero, Binary64.value?_finite, hzero, Int.cast_zero, zero_div]

/-- **Comparison is exact.** There is none with what is not a number, which all words denote that
are the bits of no double. Otherwise it is the order of what the two sides denote. A whole part is
taken only of doubles among the words, and fits 128 bits. -/
theorem compare?_exact :
    (∀ a b : Number, a.compare? b = none ↔ a = .float .nan ∨ b = .float .nan) ∧
    (∀ a : Number, a.value? = none ↔ a = .float .nan) ∧
    (∀ (a b : Number) (x y : ExtendedRat), a.value? = some x → b.value? = some y →
      a.compare? b = some (compare x y)) ∧
    (∀ a b : Number, a.sameValue b = true ↔ ∃ x, a.value? = some x ∧ b.value? = some x) ∧
    (∀ negative : Bool, (Number.float (.zero negative)).sameValue (.signed 0) = true) ∧
    (∀ (u : UInt64) (i : Int64), (Number.unsigned u).sameValue (.signed i) = true ↔
      (u.toNat : Int) = i.toInt) ∧
    (∀ bits < 2 ^ 64, Binary64.denoted? bits = none ∨ ∃ x : Binary64, x.toBits = bits) ∧
    (∀ (x : Binary64) (whole : Int) (behind : Ordering),
      x.location? = some (.among whole behind) →
      (∃ q, x.value? = some (.finite q) ∧ whole = truncated q) ∧
        -2 ^ 127 ≤ whole ∧ whole < 2 ^ 127) := by
  refine ⟨fun _ _ ↦ compare?_eq_none_iff, fun _ ↦ value?_eq_none_iff,
    fun _ _ _ _ ↦ compare?_of_value?, fun _ _ ↦ sameValue_iff_value?, fun negative ↦ ?_,
    fun u i ↦ ?_, fun _ ↦ Binary64.exists_toBits_eq, fun x whole behind h ↦ ?_⟩
  · exact sameValue_iff_value?.mpr ⟨_, value?_zero negative, rfl⟩
  · rw [sameValue_iff_value?]
    constructor
    · rintro ⟨x, hu, hi⟩
      have heq := Option.some.inj (hu.trans hi.symm)
      exact_mod_cast ExtendedRat.finite_inj.mp heq
    · intro h
      refine ⟨_, rfl, ?_⟩
      rw [value?, ← h, Int.cast_natCast]
  · obtain ⟨q, hq, rfl, hlow, hhigh⟩ := Binary64.exists_value?_of_location? h
    obtain ⟨hlow, hhigh⟩ := Binary64.truncated_bounds hlow hhigh
    exact ⟨⟨q, hq, rfl⟩, by omega, by omega⟩

/-- The double `2 ^ 53`, from which on not every integer is a double. -/
def firstGap : Binary64 := .finite false ⟨1076 * 2 ^ 52, by decide +kernel⟩

/-- The double `-2.5`. -/
def minusTwoAndAHalf : Binary64 := .finite true ⟨1024 * 2 ^ 52 + 2 ^ 50, by decide +kernel⟩

theorem compare?_exact_neighbours :
    (Number.signed 9007199254740993).compare? (.float firstGap) = some .gt ∧
    Number.value? (.signed 9007199254740993) = some (.finite 9007199254740993) ∧
    Number.value? (.float firstGap) = some (.finite 9007199254740992) ∧
    (0xfff0000000000000 < 2 ^ 64 ∧ (Binary64.denoted? 0xfff0000000000000 = none ∨
      ∃ x : Binary64, x.toBits = 0xfff0000000000000)) ∧
    minusTwoAndAHalf.location? = some (.among (-2) .gt) ∧
    ∃ q, minusTwoAndAHalf.value? = some (.finite q) ∧ -2 = truncated q := by
  obtain ⟨-, -, hcompare, -, -, -, hbits, hwhole⟩ := compare?_exact
  have hword : Number.value? (.signed 9007199254740993) = some (.finite 9007199254740993) := rfl
  have hfloat : Number.value? (.float firstGap) = some (.finite 9007199254740992) := by
    have hq : (Binary64.signedGrains false (1076 * 2 ^ 52) : ℚ) / Binary64.grainsPerUnit =
        9007199254740992 := by decide +kernel
    rw [value?, firstGap, Binary64.value?_finite, hq]
  have hlocation : minusTwoAndAHalf.location? = some (.among (-2) .gt) := by decide +kernel
  refine ⟨?_, hword, hfloat, ⟨by norm_num, hbits _ (by norm_num)⟩, hlocation,
    (hwhole _ _ _ hlocation).1⟩
  rw [hcompare _ _ _ _ hword hfloat, Option.some.injEq, compare_gt_iff_gt]
  exact WithBot.coe_lt_coe.mpr (WithTop.coe_lt_coe.mpr (by norm_num))

end Number

end RecordQuery
