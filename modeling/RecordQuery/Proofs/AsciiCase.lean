import RecordQuery.Proofs.IgnoringCase

/-!
# The case of the letters from A to Z

Of texts in which every character is one of the first 128, lower case is as simple as can be: each
character has its own form, and only the letters from A to Z change. So ignoring case such texts are
equal if they are so place by place, up to the case of these letters, and a target is part of such a
text if it equals a stretch of it in this way.

Other characters break this rule from outside. The Kelvin sign becomes the letter k, and what
becomes of a capital sigma depends on what surrounds it. But writing letters from A to Z in their
other case never shows in lower case, whatever text they stand in: each of them has a case, in both
of its forms, and so the surroundings of a sigma look the same.
-/

namespace RecordQuery

namespace Text

/-! ## Characters up to case -/

/-- Two characters are the same, but perhaps for the case of a letter from A to Z. The small letter
comes 32 places behind its capital. -/
inductive SameButCase : Char → Char → Prop
  /-- They are the same. -/
  | same (c : Char) : SameButCase c c
  /-- The first is a capital and the second its small letter. -/
  | lowered {c d : Char} (hc : 'A' ≤ c ∧ c ≤ 'Z') (h : d.toNat = c.toNat + 32) : SameButCase c d
  /-- The second is a capital and the first its small letter. -/
  | raised {c d : Char} (hd : 'A' ≤ d ∧ d ≤ 'Z') (h : c.toNat = d.toNat + 32) : SameButCase c d

theorem capital_iff {c : Char} : 'A' ≤ c ∧ c ≤ 'Z' ↔ 65 ≤ c.toNat ∧ c.toNat ≤ 90 := Iff.rfl

theorem toNat_toLower (c : Char) :
    c.toLower.toNat = if 65 ≤ c.toNat ∧ c.toNat ≤ 90 then c.toNat + 32 else c.toNat := by
  have hcapital : (c.val ≥ 'A'.val ∧ c.val ≤ 'Z'.val) ↔ 65 ≤ c.toNat ∧ c.toNat ≤ 90 := Iff.rfl
  rw [Char.toLower]
  by_cases h : 65 ≤ c.toNat ∧ c.toNat ≤ 90
  · rw [dif_pos (hcapital.mpr h), if_pos h]
    change (c.val + 32).toNat = c.val.toNat + 32
    have hle : c.val.toNat ≤ 90 := h.2
    rw [UInt32.toNat_add]
    exact Nat.mod_eq_of_lt (by simp only [UInt32.reduceToNat]; omega)
  · rw [dif_neg (mt hcapital.mp h), if_neg h]

/-- Characters have the same small letter exactly if they are the same up to case. -/
theorem toLower_eq_iff {c d : Char} : c.toLower = d.toLower ↔ SameButCase c d := by
  rw [← Char.toNat_inj, toNat_toLower, toNat_toLower]
  constructor
  · intro h
    -- Of the two only capitals move, so it matters which of them are capitals.
    by_cases hc : 65 ≤ c.toNat ∧ c.toNat ≤ 90
    · by_cases hd : 65 ≤ d.toNat ∧ d.toNat ≤ 90
      · rw [if_pos hc, if_pos hd] at h
        obtain rfl : c = d := Char.toNat_inj.mp (Nat.add_right_cancel h)
        exact .same c
      · rw [if_pos hc, if_neg hd] at h
        exact .lowered (capital_iff.mpr hc) h.symm
    · by_cases hd : 65 ≤ d.toNat ∧ d.toNat ≤ 90
      · rw [if_neg hc, if_pos hd] at h
        exact .raised (capital_iff.mpr hd) h
      · rw [if_neg hc, if_neg hd] at h
        obtain rfl : c = d := Char.toNat_inj.mp h
        exact .same c
  · intro h
    cases h with
    | same => rfl
    | lowered hc h =>
      rw [capital_iff] at hc
      rw [if_pos hc, if_neg (by omega), h]
    | raised hd h =>
      rw [capital_iff] at hd
      rw [if_neg (by omega), if_pos hd, h]

/-- A character is one of the letters from A to Z, as a capital or small. -/
def IsLetter (c : Char) : Prop := 'A' ≤ c ∧ c ≤ 'Z' ∨ 'a' ≤ c ∧ c ≤ 'z'

theorem isLetter_iff {c : Char} :
    IsLetter c ↔ 65 ≤ c.toNat ∧ c.toNat ≤ 90 ∨ 97 ≤ c.toNat ∧ c.toNat ≤ 122 := Iff.rfl

/-- Characters that are the same up to case are letters, unless they are the same. -/
theorem SameButCase.eq_or_isLetter {c d : Char} (h : SameButCase c d) :
    c = d ∨ IsLetter c ∧ IsLetter d := by
  cases h with
  | same => exact Or.inl rfl
  | lowered hc h =>
    rw [capital_iff] at hc
    exact Or.inr ⟨isLetter_iff.mpr (by omega), isLetter_iff.mpr (by omega)⟩
  | raised hd h =>
    rw [capital_iff] at hd
    exact Or.inr ⟨isLetter_iff.mpr (by omega), isLetter_iff.mpr (by omega)⟩

/-! ## Texts up to case -/

/-- Two texts are of the same length and the same at every place, up to the case of letters from A
to Z. -/
structure SameThroughout (s t : List Char) : Prop where
  /-- They are of the same length. -/
  length_eq : s.length = t.length
  /-- At every place they are the same up to case. -/
  same_at : ∀ i (hs : i < s.length) (ht : i < t.length), SameButCase s[i] t[i]

/-- All characters of a text are among the first 128. -/
def IsAscii (cs : List Char) : Prop := ∀ c ∈ cs, c.toNat < 0x80

section

variable {s t : List Char}

theorem sameThroughout_iff_forall₂ : SameThroughout s t ↔ List.Forall₂ SameButCase s t := by
  rw [List.forall₂_iff_get]
  exact ⟨fun ⟨hlength, h⟩ ↦ ⟨hlength, h⟩, fun ⟨hlength, h⟩ ↦ ⟨hlength, h⟩⟩

theorem map_toLower_eq_iff : s.map Char.toLower = t.map Char.toLower ↔ SameThroughout s t := by
  rw [sameThroughout_iff_forall₂, ← List.forall₂_eq_eq_eq, List.forall₂_map_left_iff,
    List.forall₂_map_right_iff]
  simp only [toLower_eq_iff]

/-- A text in small letters is a part of another exactly if it is the same up to case as some part
of the other as it was written. -/
theorem map_toLower_infix_iff : t.map Char.toLower <:+: s.map Char.toLower ↔
    ∃ stretch, stretch <:+: s ∧ SameThroughout stretch t := by
  rw [List.infix_map_iff]
  refine exists_congr fun stretch ↦ and_congr_right fun _ ↦ ?_
  rw [← map_toLower_eq_iff, eq_comm]

theorem lowerForm_of_lt {c : Char} (h : c.toNat < 0x80) (before after : List Char) :
    lowerForm before c after = [c.toLower] := by
  rw [lowerForm, if_pos h]

theorem lowerAfter_of_isAscii (h : IsAscii s) (before : List Char) :
    lowerAfter before s = s.map Char.toLower := by
  induction s generalizing before with
  | nil => rfl
  | cons c rest ih =>
    obtain ⟨hc, hrest⟩ := List.forall_mem_cons.mp h
    rw [lowerAfter, lowerForm_of_lt hc, ih hrest, List.map_cons, List.singleton_append]

theorem lower_of_isAscii (h : IsAscii s) : lower s = s.map Char.toLower :=
  lowerAfter_of_isAscii h []

end

/-! ## Other case in any text -/

/-- Letters from A to Z have a case, and rules about case do not look past them. -/
theorem IsLetter.cased {c : Char} (h : IsLetter c) :
    Latest.caseIgnorable.contains c = false ∧ Latest.cased.contains c = true := by
  have hletters : ∀ n < 123, 65 ≤ n ∧ n ≤ 90 ∨ 97 ≤ n →
      Latest.caseIgnorable.containsCode n = false ∧ Latest.cased.containsCode n = true := by
    decide +kernel
  rw [isLetter_iff] at h
  exact hletters c.toNat (by omega) (by omega)

theorem meetsCased_cons (c : Char) (cs : List Char) : meetsCased (c :: cs) =
    if Latest.caseIgnorable.contains c then meetsCased cs else Latest.cased.contains c := by
  rw [meetsCased, List.dropWhile_cons]
  cases Latest.caseIgnorable.contains c with
  | true => rw [if_pos rfl, if_pos rfl, meetsCased]
  | false => simp only [Bool.false_eq_true, if_false]

section

variable {s t before before' after after' : List Char}

theorem meetsCased_congr (h : List.Forall₂ SameButCase s t) : meetsCased s = meetsCased t := by
  induction h with
  | nil => rfl
  | @cons c d s t hcd _ ih =>
    rw [meetsCased_cons, meetsCased_cons, ih]
    rcases hcd.eq_or_isLetter with rfl | ⟨hc, hd⟩
    · rfl
    · -- The search ends at a letter, and finds that it has a case.
      obtain ⟨hignorable, hcased⟩ := hc.cased
      obtain ⟨hignorable', hcased'⟩ := hd.cased
      rw [hignorable, hcased, hignorable', hcased']

theorem lowerForm_congr {c d : Char} (hbefore : List.Forall₂ SameButCase before before')
    (hcd : SameButCase c d) (hafter : List.Forall₂ SameButCase after after') :
    lowerForm before c after = lowerForm before' d after' := by
  rcases hcd.eq_or_isLetter with rfl | ⟨hc, hd⟩
  · by_cases hsigma : c = 'Σ'
    · subst hsigma
      rw [lowerForm_sigma, lowerForm_sigma, lowerSigma, lowerSigma, meetsCased_congr hbefore,
        meetsCased_congr hafter]
    · exact lowerForm_of_ne_sigma hsigma ..
  · -- Letters are among the first 128 characters, whose forms do not look around.
    rw [isLetter_iff] at hc hd
    rw [lowerForm_of_lt (by omega), lowerForm_of_lt (by omega), toLower_eq_iff.mpr hcd]

/-- Writing letters from A to Z in their other case does not show in lower case. -/
theorem lowerAfter_congr (hbefore : List.Forall₂ SameButCase before before')
    (h : List.Forall₂ SameButCase s t) : lowerAfter before s = lowerAfter before' t := by
  -- What has been read becomes what stands before, so both grow together.
  induction h generalizing before before' with
  | nil => rfl
  | cons hcd hst ih =>
    rw [lowerAfter, lowerAfter, lowerForm_congr hbefore hcd hst, ih (.cons hcd hbefore)]

theorem lower_congr (h : SameThroughout s t) : lower s = lower t :=
  lowerAfter_congr .nil (sameThroughout_iff_forall₂.mp h)

end

end Text

/-! ## Conditions -/

/-- Two values are the same, but perhaps for the case of letters from A to Z in a text. -/
inductive Value.SameButCase : Value → Value → Prop
  /-- They are the same. -/
  | same (v : Value) : SameButCase v v
  /-- They are texts, and the same up to case. -/
  | text {s t : String} (h : Text.SameThroughout s.toList t.toList) :
    SameButCase (.text s) (.text t)

namespace Condition

/-- The condition that compares texts at the ends of a path in lower case, as an operator says. -/
def inLowerCase (specifier : String) (path : Path) (operator : Operator) (target : String) :
    Condition :=
  ⟨specifier, path, operator, .text target, .lowered (Text.lower target.toList)⟩

section

variable {config : Config} {specifier : String} {path : Path} {operator : Operator} {s t : String}

theorem outcome_compile_inLowerCase
    (hop : operator = .exactIgnoringCase ∨ operator = .containsIgnoringCase)
    (h : (Specifier.read config specifier).outcome = .ok ⟨path, operator⟩) :
    (compile config specifier (.text t)).outcome = .ok (inLowerCase specifier path operator t) := by
  rcases hop with rfl | rfl
  · exact outcome_compile_eq_ok.mpr ⟨_, _, h, rfl, rfl⟩
  · exact outcome_compile_eq_ok.mpr ⟨_, _, h, rfl, rfl⟩

theorem matchesValue_exactIgnoringCase_text :
    (inLowerCase specifier path .exactIgnoringCase t).matchesValue (.text s) =
      (Text.lower s.toList == Text.lower t.toList) := rfl

theorem matchesValue_containsIgnoringCase_text :
    (inLowerCase specifier path .containsIgnoringCase t).matchesValue (.text s) =
      Text.occursIn (Text.lower t.toList) (Text.lower s.toList) := rfl

theorem matchesValue_exactIgnoringCase_iff (hs : Text.IsAscii s.toList)
    (ht : Text.IsAscii t.toList) :
    (inLowerCase specifier path .exactIgnoringCase t).matchesValue (.text s) = true ↔
      Text.SameThroughout s.toList t.toList := by
  rw [matchesValue_exactIgnoringCase_text, beq_iff_eq, Text.lower_of_isAscii hs,
    Text.lower_of_isAscii ht, Text.map_toLower_eq_iff]

theorem matchesValue_containsIgnoringCase_iff (hs : Text.IsAscii s.toList)
    (ht : Text.IsAscii t.toList) :
    (inLowerCase specifier path .containsIgnoringCase t).matchesValue (.text s) = true ↔
      ∃ stretch, stretch <:+: s.toList ∧ Text.SameThroughout stretch t.toList := by
  rw [matchesValue_containsIgnoringCase_text, Text.occursIn_iff_infix, Text.lower_of_isAscii hs,
    Text.lower_of_isAscii ht, Text.map_toLower_infix_iff]

/-- Every text has the empty text as a part. -/
theorem matchesValue_containsIgnoringCase_empty (s : String) :
    (inLowerCase specifier path .containsIgnoringCase "").matchesValue (.text s) = true := by
  rw [matchesValue_containsIgnoringCase_text, Text.occursIn_iff_infix]
  exact List.nil_infix

end

section Case

variable {specifier : String} {path : Path} {operator : Operator} {t t' : String}
  (hop : operator = .exactIgnoringCase ∨ operator = .containsIgnoringCase)
  (ht : Text.SameThroughout t.toList t'.toList)
include hop ht

/-- What is the same up to the case of letters from A to Z is compared alike. -/
theorem matchesValue_inLowerCase_congr {v w : Value} (h : v.SameButCase w) :
    (inLowerCase specifier path operator t).matchesValue v =
      (inLowerCase specifier path operator t').matchesValue w := by
  have htext {s u : String} (hsu : Text.lower s.toList = Text.lower u.toList) :
      (inLowerCase specifier path operator t).matchesValue (.text s) =
        (inLowerCase specifier path operator t').matchesValue (.text u) := by
    rcases hop with rfl | rfl
    · rw [matchesValue_exactIgnoringCase_text, matchesValue_exactIgnoringCase_text, hsu,
        Text.lower_congr ht]
    · rw [matchesValue_containsIgnoringCase_text, matchesValue_containsIgnoringCase_text, hsu,
        Text.lower_congr ht]
  cases h with
  | same v =>
    -- The same text may still meet another target; a value of another kind meets neither.
    cases v with
    | text s => exact htext rfl
    | _ => rcases hop with rfl | rfl <;> rfl
  | text h => exact htext (Text.lower_congr h)

theorem isMatch_inLowerCase_congr {r r' : Record}
    (h : List.Forall₂ Value.SameButCase (path.resolve r).candidates
      (path.resolve r').candidates) :
    (inLowerCase specifier path operator t).isMatch r =
      (inLowerCase specifier path operator t').isMatch r' := by
  rw [isMatch, isMatch, matchesResolved_eq_any, matchesResolved_eq_any]
  change (path.resolve r).candidates.any _ = (path.resolve r').candidates.any _
  generalize (path.resolve r).candidates = vs at h ⊢
  generalize (path.resolve r').candidates = ws at h ⊢
  induction h with
  | nil => rfl
  | cons hvw _ ih =>
    rw [List.any_cons, List.any_cons, ih, matchesValue_inLowerCase_congr hop ht hvw]

end Case

/-- **Ignoring case means ignoring the case of the letters from A to Z.** Of texts whose characters
are among the first 128, equality without regard to case holds exactly if they are of one length and
the same at every place, up to the case of such letters; and a target is found in a text exactly if
it is the same as some stretch of it in this way. The empty target is found in every text. Writing
such letters in their other case, in the target and in whatever texts a path leads to, never changes
a result. -/
theorem ignoringCase_iff_sameThroughout {config : Config} {path : Path}
    {specifier specifier' : String}
    (hexact : (Specifier.read config specifier).outcome = .ok ⟨path, .exactIgnoringCase⟩)
    (hcontains : (Specifier.read config specifier').outcome = .ok ⟨path, .containsIgnoringCase⟩) :
    (∀ t, (compile config specifier (.text t)).outcome =
      .ok (inLowerCase specifier path .exactIgnoringCase t)) ∧
    (∀ t, (compile config specifier' (.text t)).outcome =
      .ok (inLowerCase specifier' path .containsIgnoringCase t)) ∧
    (∀ s t : String, Text.IsAscii s.toList → Text.IsAscii t.toList →
      ((inLowerCase specifier path .exactIgnoringCase t).matchesValue (.text s) = true ↔
        Text.SameThroughout s.toList t.toList) ∧
      ((inLowerCase specifier' path .containsIgnoringCase t).matchesValue (.text s) = true ↔
        ∃ stretch, stretch <:+: s.toList ∧ Text.SameThroughout stretch t.toList)) ∧
    (∀ s : String,
      (inLowerCase specifier' path .containsIgnoringCase "").matchesValue (.text s) = true) ∧
    ∀ t t' : String, Text.SameThroughout t.toList t'.toList →
      (∀ v w : Value, v.SameButCase w →
        (inLowerCase specifier path .exactIgnoringCase t).matchesValue v =
          (inLowerCase specifier path .exactIgnoringCase t').matchesValue w ∧
        (inLowerCase specifier' path .containsIgnoringCase t).matchesValue v =
          (inLowerCase specifier' path .containsIgnoringCase t').matchesValue w) ∧
      ∀ r r' : Record, List.Forall₂ Value.SameButCase (path.resolve r).candidates
          (path.resolve r').candidates →
        (inLowerCase specifier path .exactIgnoringCase t).isMatch r =
          (inLowerCase specifier path .exactIgnoringCase t').isMatch r' ∧
        (inLowerCase specifier' path .containsIgnoringCase t).isMatch r =
          (inLowerCase specifier' path .containsIgnoringCase t').isMatch r' := by
  have hequals : Operator.exactIgnoringCase = .exactIgnoringCase ∨
      Operator.exactIgnoringCase = .containsIgnoringCase := Or.inl rfl
  have hholds : Operator.containsIgnoringCase = .exactIgnoringCase ∨
      Operator.containsIgnoringCase = .containsIgnoringCase := Or.inr rfl
  refine ⟨fun t ↦ outcome_compile_inLowerCase hequals hexact,
    fun t ↦ outcome_compile_inLowerCase hholds hcontains, fun s t hs ht ↦ ⟨?_, ?_⟩,
    matchesValue_containsIgnoringCase_empty, fun t t' ht ↦ ⟨fun v w h ↦ ⟨?_, ?_⟩,
    fun r r' h ↦ ⟨?_, ?_⟩⟩⟩
  · exact matchesValue_exactIgnoringCase_iff hs ht
  · exact matchesValue_containsIgnoringCase_iff hs ht
  · exact matchesValue_inLowerCase_congr hequals ht h
  · exact matchesValue_inLowerCase_congr hholds ht h
  · exact isMatch_inLowerCase_congr hequals ht h
  · exact isMatch_inLowerCase_congr hholds ht h

/-- The path to the field that holds a word. -/
def wordPath : Path := ⟨[.key "word"], by decide⟩

/-- A target of letters and other characters is found in a text. The brackets are as far apart as a
letter from its capital, and still not the same up to case. A sigma ends a word after a capital and
after a small letter alike. -/
theorem ignoringCase_iff_sameThroughout_words :
    (Text.IsAscii "uplink GE-0/0/1".toList ∧ Text.IsAscii "ge-0".toList ∧
      (inLowerCase "word__icontains" wordPath .containsIgnoringCase "ge-0").matchesValue
        (.text "uplink GE-0/0/1") = true) ∧
    (Text.IsAscii "[x]".toList ∧ Text.IsAscii "\x7bX\x7d".toList ∧
      ¬(inLowerCase "word__iexact" wordPath .exactIgnoringCase "[x]").matchesValue
        (.text "\x7bX\x7d") = true) ∧
    Text.SameThroughout "bς".toList "Bς".toList ∧
    (inLowerCase "word__iexact" wordPath .exactIgnoringCase "bς").isMatch (ofWord "bΣ") =
      (inLowerCase "word__iexact" wordPath .exactIgnoringCase "Bς").isMatch (ofWord "BΣ") := by
  have hexact :
      (Specifier.read {} "word__iexact").outcome = .ok ⟨wordPath, .exactIgnoringCase⟩ := rfl
  have hcontains :
      (Specifier.read {} "word__icontains").outcome = .ok ⟨wordPath, .containsIgnoringCase⟩ := rfl
  obtain ⟨-, -, hascii, -, hcase⟩ := ignoringCase_iff_sameThroughout hexact hcontains
  have hlink : Text.IsAscii "uplink GE-0/0/1".toList ∧ Text.IsAscii "ge-0".toList := by
    simp [Text.IsAscii]
  have hbracket : Text.IsAscii "[x]".toList ∧ Text.IsAscii "\x7bX\x7d".toList := by
    simp [Text.IsAscii]
  have hsigma : Text.SameThroughout "bς".toList "Bς".toList :=
    Text.map_toLower_eq_iff.mp (by decide)
  refine ⟨⟨hlink.1, hlink.2, (hascii _ _ hlink.1 hlink.2).2.mpr ?_⟩,
    ⟨hbracket.1, hbracket.2, fun h ↦ ?_⟩, hsigma, ((hcase _ _ hsigma).2 _ _ ?_).1⟩
  · exact ⟨"GE-0".toList, ⟨"uplink ".toList, "/0/1".toList, rfl⟩,
      Text.map_toLower_eq_iff.mp (by decide)⟩
  · have hsame := (hascii _ _ hbracket.2 hbracket.1).1.mp h
    exact absurd (Text.map_toLower_eq_iff.mpr hsame) (by decide)
  · exact .cons (.text (Text.map_toLower_eq_iff.mp (by decide))) .nil

end Condition

end RecordQuery
