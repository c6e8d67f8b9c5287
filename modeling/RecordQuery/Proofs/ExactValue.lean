import Mathlib
import RecordQuery.Number

/-!
# Exact values of numbers

Every number of a record except what is not a number is a whole number of grains or an infinity: a
word as many times as one is, a finite double by its count of grains. Numbers are compared here by
these amounts, and the comparison that records use is shown to be this one. The ranks of doubles
ascend with their counts of grains, and a word is ordered against a double by whole part and
remainder as it is by the count itself.

It follows that equality of numbers is symmetric and transitive, between words and doubles as well.
-/

namespace RecordQuery

/-! ## Comparison along maps -/

theorem compare_strictMono {α β : Type} [LinearOrder α] [LinearOrder β] {f : α → β}
    (hf : StrictMono f) (x y : α) : compare (f x) (f y) = compare x y := by
  rw [← cmp_eq_compare, ← cmp_eq_compare, hf.cmp_map_eq]

theorem compare_neg_right {α : Type} [AddCommGroup α] [LinearOrder α] [IsOrderedAddMonoid α]
    (x y : α) : compare x (-y) = (compare (-x) y).swap := by
  have hneg : StrictAnti (Neg.neg : α → α) := fun _ _ h ↦ neg_lt_neg h
  rw [← cmp_eq_compare, ← cmp_eq_compare, cmp_swap, ← hneg.cmp_map_eq, neg_neg]

/-- Two things compare as equal if both are there and they are the same. -/
theorem compare_eq_some_eq_iff {α : Type} [LinearOrder α] {o p : Option α} :
    (do return compare (← o) (← p)) = some Ordering.eq ↔ ∃ x, o = some x ∧ p = some x := by
  cases o with
  | none => simp
  | some x =>
    cases p with
    | none => simp
    | some y => simpa using eq_comm

/-- What numbers amount to, in grains. -/
abbrev Amount := WithBot (WithTop Int)

/-- An amount that is not infinite. -/
def Amount.finite (count : Int) : Amount := ((count : WithTop Int) : WithBot _)

theorem Amount.finite_strictMono : StrictMono finite :=
  WithBot.coe_strictMono.comp WithTop.coe_strictMono

namespace Binary64

/-! ## Ranks and grains -/

theorem grainsPerUnit_pos : 0 < grainsPerUnit := by
  decide +kernel

theorem grains_of_lt {rank : Nat} (h : rank < 2 ^ 52) : grains rank = rank := by
  have hlt : rank < Nat.pow 2 52 := h
  rw [grains, significand, if_pos hlt, scale, Nat.div_eq_of_lt hlt]
  exact Nat.mul_one rank

theorem grains_of_le {rank : Nat} (h : 2 ^ 52 ≤ rank) :
    grains rank = (2 ^ 52 + rank % 2 ^ 52) * 2 ^ (rank / 2 ^ 52 - 1) := by
  have hnot : ¬rank < Nat.pow 2 52 := Nat.not_lt.mpr h
  rw [grains, significand, if_neg hnot, scale]
  rfl

/-- A magnitude is less than the next. At the end of a run of equally spaced magnitudes the spacing
doubles and the leading digits start over. -/
theorem grains_lt_grains_succ (rank : Nat) : grains rank < grains (rank + 1) := by
  rcases Nat.lt_or_ge (rank + 1) (2 ^ 52) with hsmall | hlarge
  · rw [grains_of_lt hsmall, grains_of_lt (by omega)]
    exact Nat.lt_succ_self rank
  · rw [grains_of_le hlarge]
    rcases Nat.lt_or_ge rank (2 ^ 52) with hlast | hle
    · -- The magnitudes that have fewer than all leading digits end here.
      obtain rfl : rank = 2 ^ 52 - 1 := by omega
      rw [grains_of_lt hlast]
      decide
    · rw [grains_of_le hle]
      rcases Nat.lt_or_ge (rank % 2 ^ 52 + 1) (2 ^ 52) with hsame | hnext
      · have hmod : (rank + 1) % 2 ^ 52 = rank % 2 ^ 52 + 1 := by omega
        have hdiv : (rank + 1) / 2 ^ 52 = rank / 2 ^ 52 := by omega
        rw [hmod, hdiv]
        exact Nat.mul_lt_mul_of_pos_right (by omega) (Nat.two_pow_pos _)
      · have hmod : (rank + 1) % 2 ^ 52 = 0 := by omega
        have hdiv : (rank + 1) / 2 ^ 52 - 1 = rank / 2 ^ 52 - 1 + 1 := by omega
        have hpow : 2 ^ (rank / 2 ^ 52 - 1 + 1) = 2 * 2 ^ (rank / 2 ^ 52 - 1) := Nat.pow_succ'
        rw [hmod, hdiv, hpow, Nat.add_zero, ← Nat.mul_assoc]
        exact Nat.mul_lt_mul_of_pos_right (by omega) (Nat.two_pow_pos _)

theorem grains_strictMono : StrictMono grains := strictMono_nat_of_lt_succ grains_lt_grains_succ

/-- The count of grains of a magnitude, with a sign. -/
def signedGrains (negative : Bool) (rank : Nat) : Int :=
  if negative then -(grains rank : Int) else grains rank

/-- The rank of a magnitude, with a sign. -/
def signedRank (negative : Bool) (rank : Nat) : Int :=
  if negative then -(rank : Int) else rank

theorem signedGrains_lt_of_signedRank_lt {n m : Bool} {a b : Nat}
    (h : signedRank n a < signedRank m b) : signedGrains n a < signedGrains m b := by
  have ha : a ≤ grains a := grains_strictMono.le_apply
  have hb : b ≤ grains b := grains_strictMono.le_apply
  cases n <;> cases m <;>
    simp only [signedRank, signedGrains, Bool.false_eq_true, if_true, if_false] at h ⊢
  · exact_mod_cast grains_strictMono (Int.ofNat_lt.mp h)
  · omega
  · omega
  · have := grains_strictMono (show b < a by omega)
    omega

theorem signedGrains_eq_of_signedRank_eq {n m : Bool} {a b : Nat}
    (h : signedRank n a = signedRank m b) : signedGrains n a = signedGrains m b := by
  have hzero : grains 0 = 0 := rfl
  cases n <;> cases m <;> simp only [signedRank, Bool.false_eq_true, if_true, if_false] at h
  · obtain rfl : a = b := by omega
    rfl
  · obtain ⟨rfl, rfl⟩ : a = 0 ∧ b = 0 := by omega
    rfl
  · obtain ⟨rfl, rfl⟩ : a = 0 ∧ b = 0 := by omega
    rfl
  · obtain rfl : a = b := by omega
    rfl

/-- Signed ranks are ordered as signed counts of grains are. -/
theorem compare_signedRank (n m : Bool) (a b : Nat) :
    compare (signedRank n a) (signedRank m b) = compare (signedGrains n a) (signedGrains m b) := by
  rcases lt_trichotomy (signedRank n a) (signedRank m b) with h | h | h
  · rw [compare_lt_iff_lt.mpr h, compare_lt_iff_lt.mpr (signedGrains_lt_of_signedRank_lt h)]
  · rw [compare_eq_iff_eq.mpr h, compare_eq_iff_eq.mpr (signedGrains_eq_of_signedRank_eq h)]
  · rw [compare_gt_iff_gt.mpr h, compare_gt_iff_gt.mpr (signedGrains_lt_of_signedRank_lt h)]

/-! ## Amounts -/

/-- The grains in a double; `none` for what is not a number. -/
def amount? : Binary64 → Option Amount
  | .nan => none
  | .infinite negative => some (if negative then ⊥ else ⊤)
  | .finite negative rank => some (.finite (signedGrains negative rank))

theorem signedRank_lt_rankLimit (negative : Bool) (rank : Fin rankLimit) :
    -(rankLimit : Int) < signedRank negative rank ∧ signedRank negative rank < rankLimit := by
  have := rank.isLt
  cases negative <;> simp only [signedRank, Bool.false_eq_true, if_true, if_false] <;> omega

/-- Doubles are ordered as their amounts. -/
theorem compare?_eq (x y : Binary64) :
    x.compare? y = do return compare (← x.amount?) (← y.amount?) := by
  cases x with
  | nan => rfl
  | infinite n =>
    cases y with
    | nan => rfl
    | infinite m => cases n <;> cases m <;> rfl
    | finite m b =>
      obtain ⟨hlow, hhigh⟩ := signedRank_lt_rankLimit m b
      cases n with
      | true => exact congrArg some ((compare_lt_iff_lt.mpr hlow).trans rfl)
      | false => exact congrArg some ((compare_gt_iff_gt.mpr hhigh).trans rfl)
  | finite n a =>
    cases y with
    | nan => rfl
    | infinite m =>
      obtain ⟨hlow, hhigh⟩ := signedRank_lt_rankLimit n a
      cases m with
      | true => exact congrArg some ((compare_gt_iff_gt.mpr hlow).trans rfl)
      | false => exact congrArg some ((compare_lt_iff_lt.mpr hhigh).trans rfl)
    | finite m b =>
      refine congrArg some ((compare_signedRank n m a b).trans ?_)
      exact (compare_strictMono Amount.finite_strictMono _ _).symm

/-! ## Words against doubles -/

/-- The whole part decides unless it equals the integer, and then the remainder does. -/
theorem compare_whole_then {G : Nat} (hG : 0 < G) (i : Int) (count : Nat) :
    (compare i ((count / G : Nat) : Int)).then (if count % G = 0 then .eq else .lt) =
      compare (i * G) (count : Int) := by
  have hsplit : (count : Int) = ((count / G : Nat) : Int) * G + ((count % G : Nat) : Int) := by
    exact_mod_cast (Nat.div_add_mod' count G).symm
  have hrem : ((count % G : Nat) : Int) < G := by exact_mod_cast Nat.mod_lt count hG
  generalize hq : ((count / G : Nat) : Int) = q at hsplit
  -- A whole part that is not the integer is away from it by more than any remainder.
  rcases lt_trichotomy i q with h | rfl | h
  · have hle : (i + 1) * G ≤ q * G := Int.mul_le_mul_of_nonneg_right h (by omega)
    rw [compare_lt_iff_lt.mpr h, compare_lt_iff_lt.mpr (by linarith), Ordering.lt_then]
  · rw [compare_eq_iff_eq.mpr rfl, hsplit, Ordering.eq_then]
    split
    · rename_i hzero
      rw [hzero, Nat.cast_zero, add_zero, compare_eq_iff_eq.mpr rfl]
    · rw [compare_lt_iff_lt.mpr (by omega)]
  · have hle : (q + 1) * G ≤ i * G := Int.mul_le_mul_of_nonneg_right h (by omega)
    rw [compare_gt_iff_gt.mpr h, compare_gt_iff_gt.mpr (by linarith), Ordering.gt_then]

theorem compare_neg_whole_then {G : Nat} (hG : 0 < G) (i : Int) (count : Nat) :
    (compare i (-((count / G : Nat) : Int))).then (if count % G = 0 then .eq else .gt) =
      compare (i * G) (-(count : Int)) := by
  rw [compare_neg_right, compare_neg_right, ← neg_mul, ← compare_whole_then hG,
    Ordering.swap_then, apply_ite Ordering.swap]
  rfl

/-- An integer that a word can hold is ordered against a double as their amounts are. -/
theorem compareWord?_eq (x : Binary64) {i : Int} (hi : -2 ^ 63 ≤ i ∧ i < 2 ^ 64) :
    x.compareWord? i = do return compare (Amount.finite (i * grainsPerUnit)) (← x.amount?) := by
  obtain ⟨hlow, hhigh⟩ := hi
  have hG := grainsPerUnit_pos
  cases x with
  | nan => rfl
  | infinite negative => cases negative <;> rfl
  | finite negative rank =>
    simp only [compareWord?, location?, amount?, Option.bind_eq_bind, Option.bind_some,
      Option.pure_def, signedGrains, compare_strictMono Amount.finite_strictMono]
    generalize grains rank = count
    generalize grainsPerUnit = G at hG ⊢
    cases negative with
    | true =>
      simp only [if_true]
      split
      · rename_i hfar
        have hle : -2 ^ 63 * (G : Int) ≤ i * G := Int.mul_le_mul_of_nonneg_right hlow (by omega)
        have hcount : 2 ^ 63 * (G : Int) < count := by exact_mod_cast hfar
        rw [compare_gt_iff_gt.mpr (by linarith)]
        rfl
      · exact congrArg some (compare_neg_whole_then hG i count)
    | false =>
      simp only [Bool.false_eq_true, if_false]
      split
      · rename_i hfar
        have hlt : i * G < 2 ^ 64 * (G : Int) := Int.mul_lt_mul_of_pos_right hhigh (by omega)
        have hcount : 2 ^ 64 * (G : Int) ≤ count := by
          exact_mod_cast (Nat.le_div_iff_mul_le hG).mp hfar
        rw [compare_lt_iff_lt.mpr (by linarith)]
        rfl
      · exact congrArg some (compare_whole_then hG i count)

theorem swap_compareWord?_eq (x : Binary64) {i : Int} (hi : -2 ^ 63 ≤ i ∧ i < 2 ^ 64) :
    (x.compareWord? i).map Ordering.swap =
      do return compare (← x.amount?) (Amount.finite (i * grainsPerUnit)) := by
  rw [compareWord?_eq x hi]
  cases x.amount? with
  | none => rfl
  | some amount => exact congrArg some (Std.OrientedCmp.eq_swap).symm

end Binary64

/-! ## Numbers -/

namespace Number

/-- The grains in a number; `none` for what is not a number. -/
def amount? : Number → Option Amount
  | .signed i => some (.finite (i.toInt * Binary64.grainsPerUnit))
  | .unsigned u => some (.finite (u.toNat * Binary64.grainsPerUnit))
  | .float x => x.amount?

theorem compare_finite_words (i j : Int) :
    compare (Amount.finite (i * Binary64.grainsPerUnit))
      (Amount.finite (j * Binary64.grainsPerUnit)) = compare i j := by
  have hG : (0 : Int) < Binary64.grainsPerUnit := by exact_mod_cast Binary64.grainsPerUnit_pos
  rw [compare_strictMono Amount.finite_strictMono,
    compare_strictMono (f := fun k : Int ↦ k * Binary64.grainsPerUnit)]
  exact fun _ _ h ↦ Int.mul_lt_mul_of_pos_right h hG

/-- Numbers are ordered as their amounts, exactly and whatever they are made of. -/
theorem compare?_eq (a b : Number) :
    a.compare? b = do return compare (← a.amount?) (← b.amount?) := by
  have hsigned (i : Int64) : -2 ^ 63 ≤ i.toInt ∧ i.toInt < 2 ^ 64 :=
    ⟨i.le_toInt, by have := i.toInt_lt; omega⟩
  have hunsigned (u : UInt64) : -2 ^ 63 ≤ (u.toNat : Int) ∧ (u.toNat : Int) < 2 ^ 64 := by
    have := u.toNat_lt
    omega
  cases a with
  | signed i =>
    cases b with
    | signed j => exact congrArg some (compare_finite_words _ _).symm
    | unsigned v => exact congrArg some (compare_finite_words _ _).symm
    | float y => exact y.compareWord?_eq (hsigned i)
  | unsigned u =>
    cases b with
    | signed j => exact congrArg some (compare_finite_words _ _).symm
    | unsigned v =>
      rw [compare?, ← compare_strictMono Int.natCast_strictMono]
      exact congrArg some (compare_finite_words _ _).symm
    | float y => exact y.compareWord?_eq (hunsigned u)
  | float x =>
    cases b with
    | signed j => exact x.swap_compareWord?_eq (hsigned j)
    | unsigned v => exact x.swap_compareWord?_eq (hunsigned v)
    | float y => exact Binary64.compare?_eq x y

theorem sameValue_iff {a b : Number} :
    a.sameValue b = true ↔ ∃ amount, a.amount? = some amount ∧ b.amount? = some amount := by
  rw [sameValue, compare?_eq, beq_iff_eq, compare_eq_some_eq_iff]

theorem amount?_eq_none_iff {a : Number} : a.amount? = none ↔ a = .float .nan := by
  cases a with
  | float x =>
    cases x with
    | nan => exact ⟨fun _ ↦ rfl, fun _ ↦ rfl⟩
    | _ => exact ⟨nofun, nofun⟩
  | _ => exact ⟨nofun, nofun⟩

/-- What is not a number is the only number that does not equal itself. -/
theorem sameValue_self_iff {a : Number} : a.sameValue a = true ↔ a ≠ .float .nan := by
  rw [sameValue_iff, ne_eq, ← amount?_eq_none_iff, ← ne_eq, Option.ne_none_iff_exists']
  simp only [and_self]

theorem sameValue_symm {a b : Number} (h : a.sameValue b = true) : b.sameValue a = true := by
  obtain ⟨amount, ha, hb⟩ := sameValue_iff.mp h
  exact sameValue_iff.mpr ⟨amount, hb, ha⟩

/-- Equality stays transitive from words to doubles and back, since none of them is rounded. -/
theorem sameValue_trans {a b c : Number} (hab : a.sameValue b = true)
    (hbc : b.sameValue c = true) : a.sameValue c = true := by
  obtain ⟨amount, ha, hb⟩ := sameValue_iff.mp hab
  obtain ⟨amount', hb', hc⟩ := sameValue_iff.mp hbc
  obtain rfl : amount = amount' := Option.some.inj (hb.symm.trans hb')
  exact sameValue_iff.mpr ⟨amount, ha, hc⟩

end Number

end RecordQuery
