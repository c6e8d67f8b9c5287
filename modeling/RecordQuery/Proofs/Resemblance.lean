import RecordQuery.Proofs.Events
import RecordQuery.Proofs.Misspelling

/-!
# What a slip is reported to resemble

A slip is reported along with the first operator that it resembles. Nothing compares the operators
that it resembles with one another, and yet the first one is nearly always a closest one: what is
not an operator's name, whatever its case, resembles only operators whose names are one edit away,
and none can be nearer.

The exceptions are the names of the operators that ignore case, written with capitals. Such a name
is that of the operator's counterpart with one letter in front. The counterpart is looked at before,
and one letter is no obstacle to resembling it, so it is reported in place of the operator that has
been named.
-/

namespace RecordQuery

namespace Operator

variable {text : String} {op near : Operator}

/-- Once the letters of a text are made small, no operator's name takes fewer edits to get to than
this one's. -/
def IsClosest (text : String) (op : Operator) : Prop :=
  ∀ other : Operator, editDistance (lowered text) op.name.toList ≤
    editDistance (lowered text) other.name.toList

/-- The operator that asks for the same but heeds case. -/
def heedingCase : Operator → Operator
  | exactIgnoringCase => exact
  | patternIgnoringCase => pattern
  | containsIgnoringCase => contains
  | op => op

theorem heedingCase_eq_self_iff : op.heedingCase = op ↔ op.ignoresCase = false := by
  cases op <;> decide

theorem name_injective : Function.Injective name := by
  intro op op' h
  exact Option.some.inj ((named?_eq_some_iff.mpr h).symm.trans (named?_eq_some_iff.mpr rfl))

theorem editDistance_le_one_of_isNear {cs : List Char} (h : isNear cs op = true) :
    editDistance cs op.name.toList ≤ 1 := by
  refine Text.editDistance_le_iff.mpr ?_
  rcases isNear_iff.mp h with rfl | ⟨-, hedits⟩
  · exact ⟨0, Nat.zero_le 1, .refl _⟩
  · exact hedits

/-! ## Texts that are names whatever their case -/

/-- What is reported of a name in capitals is its operator, or the counterpart that heeds case. -/
theorem resembling?_of_lowered_eq (hname : lowered text = op.name.toList) :
    resembling? text = some op.heedingCase := by
  have hfind : all.find? (isNear op.name.toList) = some op.heedingCase := by
    cases op <;> decide
  rw [← hname] at hfind
  exact hfind

/-- Only the operator itself is closest to its own name. -/
theorem isClosest_iff_of_lowered_eq (hname : lowered text = op.name.toList) :
    IsClosest text near ↔ near = op := by
  have hself : editDistance (lowered text) op.name.toList = 0 :=
    Text.editDistance_eq_zero_iff.mpr hname
  constructor
  · intro h
    have hzero : editDistance (lowered text) near.name.toList = 0 := by
      have hle := h op
      rw [hself] at hle
      exact Nat.le_zero.mp hle
    have hnames : near.name.toList = op.name.toList := by
      rw [← Text.editDistance_eq_zero_iff.mp hzero, hname]
    exact name_injective (String.toList_inj.mp hnames)
  · rintro rfl other
    rw [hself]
    exact Nat.zero_le _

/-! ## Texts that are none -/

/-- What is no name is at least one edit away from every name. -/
theorem isClosest_of_resembling? (hno : ∀ op : Operator, lowered text ≠ op.name.toList)
    (hnear : resembling? text = some near) : IsClosest text near := by
  intro other
  have hone : editDistance (lowered text) near.name.toList ≤ 1 :=
    editDistance_le_one_of_isNear (List.find?_some hnear)
  have hpos : editDistance (lowered text) other.name.toList ≠ 0 :=
    mt Text.editDistance_eq_zero_iff.mp (hno other)
  omega

/-- The operator that is reported is a closest one, except for names of operators that ignore
case. -/
theorem isClosest_iff (hnear : resembling? text = some near) :
    IsClosest text near ↔
      ¬∃ op : Operator, op.ignoresCase = true ∧ lowered text = op.name.toList := by
  by_cases hname : ∃ op : Operator, lowered text = op.name.toList
  · obtain ⟨op, hop⟩ := hname
    obtain rfl : near = op.heedingCase :=
      Option.some.inj (hnear.symm.trans (resembling?_of_lowered_eq hop))
    rw [isClosest_iff_of_lowered_eq hop, heedingCase_eq_self_iff, ← Bool.not_eq_true]
    refine not_congr ⟨fun hignores ↦ ⟨op, hignores, hop⟩, ?_⟩
    rintro ⟨op', hignores, hop'⟩
    have hsame : op' = op := name_injective (String.toList_inj.mp (hop'.symm.trans hop))
    rwa [← hsame]
  · have hno : ∀ op : Operator, lowered text ≠ op.name.toList := not_exists.mp hname
    constructor
    · rintro - ⟨op, -, hop⟩
      exact hno op hop
    · intro _
      exact isClosest_of_resembling? hno hnear

end Operator

namespace Specifier

open Operator

/-- **A slip is reported as a closest operator, but for names of operators that ignore case.** Take
a text that resembles an operator and names none. The operator that it is reported to resemble is a
closest one if and only if the text is not, whatever its case, the name of an operator that ignores
case. For the name of an operator, whatever its case, that operator is reported if it heeds case,
and otherwise its counterpart that does. So it says in the only event of reading a specifier of
several parts that ends with the text, if slips are kept. -/
theorem resembled_closest_iff {text : String} {near : Operator}
    (hnot : ∀ op : Operator, op.name ≠ text) (hnear : resembling? text = some near) :
    (IsClosest text near ↔
      ¬∃ op : Operator, op.ignoresCase = true ∧ lowered text = op.name.toList) ∧
    (∀ op : Operator, lowered text = op.name.toList →
      near = op.heedingCase ∧ (near = op ↔ op.ignoresCase = false)) ∧
    ∀ (config : Config) (specifier : String) (parts : List String),
      config.slipPolicy = .literalKey → HasParts config specifier parts → 2 ≤ parts.length →
      parts.getLast? = some text →
        (read config specifier).events = [.slipKept specifier text near] ∧
        (Event.slipKept specifier text near).fields.lookup "resembles" =
          some (.text near.name) := by
  refine ⟨isClosest_iff hnear, ?_, ?_⟩
  · intro op hop
    obtain rfl : near = op.heedingCase :=
      Option.some.inj (hnear.symm.trans (resembling?_of_lowered_eq hop))
    exact ⟨rfl, heedingCase_eq_self_iff⟩
  · intro config specifier parts hpolicy hparts hseveral hlast
    have hkeeps : KeepsSlip config specifier text near :=
      ⟨hpolicy, ⟨parts, hparts, hseveral, hlast⟩, hnot, hnear⟩
    exact ⟨events_read_of_keepsSlip hkeeps, rfl⟩

/-- Where a letter is missing, the closest operator is reported. For the name of pattern matching up
to case, in capitals, plain pattern matching is reported. -/
theorem resembled_closest_points :
    ((∀ op : Operator, op.name ≠ "Contain") ∧ resembling? "Contain" = some .contains ∧
      IsClosest "Contain" .contains ∧
      (read {} "name__Contain").events = [.slipKept "name__Contain" "Contain" .contains]) ∧
    (∀ op : Operator, op.name ≠ "IREGEX") ∧ resembling? "IREGEX" = some .pattern ∧
      ¬IsClosest "IREGEX" .pattern ∧
      (read {} "name__IREGEX").events = [.slipKept "name__IREGEX" "IREGEX" .pattern] := by
  have hcontain : ∀ op : Operator, op.name ≠ "Contain" := named?_eq_none_iff.mp rfl
  have hregex : ∀ op : Operator, op.name ≠ "IREGEX" := named?_eq_none_iff.mp rfl
  constructor
  · obtain ⟨hclosest, -, hevents⟩ := @resembled_closest_iff _ .contains hcontain rfl
    refine ⟨hcontain, rfl, hclosest.mpr ?_, ?_⟩
    · rintro ⟨op, -, hop⟩
      cases op <;> exact absurd hop (by decide)
    · exact (hevents {} _ ["name", "Contain"] rfl (parts_eq_ok_iff.mp rfl) le_rfl rfl).1
  · obtain ⟨hclosest, -, hevents⟩ := @resembled_closest_iff _ .pattern hregex rfl
    refine ⟨hregex, rfl, fun h ↦ hclosest.mp h ?_, ?_⟩
    · exact ⟨.patternIgnoringCase, rfl, by decide⟩
    · exact (hevents {} _ ["name", "IREGEX"] rfl (parts_eq_ok_iff.mp rfl) le_rfl rfl).1

/-- The name of equality up to case, in capitals, is no operator's name. It is reported to resemble
plain equality, whose name is one edit away, although its own is none away. -/
theorem resembled_not_closest_in_capitals :
    (∀ op : Operator, op.name ≠ "IEXACT") ∧ resembling? "IEXACT" = some .exact ∧
      lowered "IEXACT" = exactIgnoringCase.name.toList ∧
      editDistance (lowered "IEXACT") exact.name.toList = 1 ∧
      editDistance (lowered "IEXACT") exactIgnoringCase.name.toList = 0 ∧
      ¬IsClosest "IEXACT" .exact ∧
      (read {} "name__IEXACT").events = [.slipKept "name__IEXACT" "IEXACT" .exact] := by
  have hnear : editDistance (lowered "IEXACT") exact.name.toList = 1 := by decide
  have hself : editDistance (lowered "IEXACT") exactIgnoringCase.name.toList = 0 := by decide
  refine ⟨named?_eq_none_iff.mp rfl, rfl, by decide, hnear, hself, ?_, rfl⟩
  intro hclosest
  have hle := hclosest .exactIgnoringCase
  rw [hnear, hself] at hle
  exact Nat.not_succ_le_zero 0 hle

end Specifier

end RecordQuery
