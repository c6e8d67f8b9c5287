import RecordQuery.Proofs.Equality
import RecordQuery.Proofs.Meaning

/-!
# Ignoring case

An operator that ignores case compares texts in lower case. Equal texts are equal in lower case too.
For parts of texts there is one catch: what a capital sigma becomes depends on whether it ends a
word, and that depends on what surrounds it. In a target by itself a sigma may end a word that goes
on in the text where the target stands, and then the two are lower-cased differently.

So a part that stands in a text is found there without regard to case if each of its capital sigmas
ends a word there exactly if it ends one in the part by itself. No other character looks around, so
a part without capital sigmas is always found.
-/

namespace RecordQuery

namespace Text

/-! ## Lower case between other characters -/

/-- Whether a word ends between characters, nearest first before it: there is a cased character
before and none after. -/
def WordEnds (before after : List Char) : Prop :=
  meetsCased before = true ∧ meetsCased after = false

theorem lowerSigma_eq_iff {before after before' after' : List Char} :
    lowerSigma before after = lowerSigma before' after' ↔
      (WordEnds before after ↔ WordEnds before' after') := by
  unfold lowerSigma WordEnds
  cases meetsCased before <;> cases meetsCased after <;> cases meetsCased before' <;>
    cases meetsCased after' <;> decide

/-- Lower-cases a text between others, the one before it from its end. -/
def lowerBetween (before after : List Char) : List Char → List Char
  | [] => []
  | c :: rest => lowerForm before c (rest ++ after) ++ lowerBetween (c :: before) after rest

theorem lowerAfter_append (before cs after : List Char) :
    lowerAfter before (cs ++ after) =
      lowerBetween before after cs ++ lowerAfter (cs.reverse ++ before) after := by
  induction cs generalizing before with
  | nil => rfl
  | cons c rest ih =>
    rw [List.cons_append, lowerAfter, ih, lowerBetween, List.append_assoc, List.reverse_cons,
      List.append_assoc, List.singleton_append]

theorem lower_eq_lowerBetween (cs : List Char) : lower cs = lowerBetween [] [] cs := by
  have happend := lowerAfter_append [] cs []
  rwa [List.append_nil, lowerAfter, List.append_nil] at happend

/-- What a text becomes is made up of what its parts become where they are. -/
theorem lower_append (before part after : List Char) :
    lower (before ++ part ++ after) = lowerBetween [] (part ++ after) before ++
      lowerBetween before.reverse after part ++ lowerAfter (before ++ part).reverse after := by
  rw [lower, List.append_assoc, lowerAfter_append, lowerAfter_append, List.append_nil,
    List.reverse_append, List.append_assoc]

/-! ## What surroundings change -/

/-- In two surroundings each capital sigma of a text ends a word or does not, alike. -/
def SigmasAgree (before after before' after' part : List Char) : Prop :=
  ∀ front rest, part = front ++ 'Σ' :: rest →
    (WordEnds (front.reverse ++ before) (rest ++ after) ↔
      WordEnds (front.reverse ++ before') (rest ++ after'))

theorem lowerForm_of_ne_sigma {c : Char} (h : c ≠ 'Σ') (before after before' after' : List Char) :
    lowerForm before c after = lowerForm before' c after' := by
  rw [lowerForm, lowerForm, if_neg h, if_neg h]

theorem lowerForm_sigma (before after : List Char) :
    lowerForm before 'Σ' after = [lowerSigma before after] := rfl

theorem sigmasAgree_cons_iff {before after before' after' rest : List Char} {c : Char} :
    SigmasAgree before after before' after' (c :: rest) ↔
      (c = 'Σ' → (WordEnds before (rest ++ after) ↔ WordEnds before' (rest ++ after'))) ∧
        SigmasAgree (c :: before) after (c :: before') after' rest := by
  constructor
  · intro h
    refine ⟨?_, fun front rest' heq ↦ ?_⟩
    · rintro rfl
      exact h [] rest rfl
    · have hfront := h (c :: front) rest' (by rw [heq, List.cons_append])
      simpa only [List.reverse_cons, List.append_assoc, List.singleton_append] using hfront
  · rintro ⟨hc, h⟩ front rest' heq
    cases front with
    | nil =>
      obtain ⟨rfl, rfl⟩ := List.cons.inj heq
      exact hc rfl
    | cons d front =>
      obtain ⟨rfl, htail⟩ := List.cons.inj heq
      simpa only [List.reverse_cons, List.append_assoc, List.singleton_append] using
        h front rest' htail

theorem length_lowerForm (before : List Char) (c : Char) (after before' after' : List Char) :
    (lowerForm before c after).length = (lowerForm before' c after').length := by
  by_cases h : c = 'Σ'
  · subst h
    rfl
  · rw [lowerForm_of_ne_sigma h]

/-- Two surroundings make the same of a text exactly if they agree on its sigmas. -/
theorem lowerBetween_eq_iff {before after before' after' part : List Char} :
    lowerBetween before after part = lowerBetween before' after' part ↔
      SigmasAgree before after before' after' part := by
  induction part generalizing before before' with
  | nil => exact iff_of_true rfl fun front rest h ↦ by simp at h
  | cons c rest ih =>
    rw [lowerBetween, lowerBetween, sigmasAgree_cons_iff, ← ih]
    constructor
    · intro h
      obtain ⟨hform, hrest⟩ := List.append_inj h (length_lowerForm ..)
      refine ⟨?_, hrest⟩
      rintro rfl
      rwa [lowerForm_sigma, lowerForm_sigma, List.singleton_inj, lowerSigma_eq_iff] at hform
    · rintro ⟨hc, hrest⟩
      rw [hrest]
      by_cases h : c = 'Σ'
      · subst h
        rw [lowerForm_sigma, lowerForm_sigma, lowerSigma_eq_iff.mpr (hc rfl)]
      · rw [lowerForm_of_ne_sigma h]

/-! ## Parts of texts -/

/-- A part stands undisturbed between others: each of its capital sigmas ends a word there exactly
if it ends one in the part by itself. -/
def Undisturbed (before part after : List Char) : Prop :=
  SigmasAgree before.reverse after [] [] part

variable {before part after : List Char}

/-- In place a part becomes what it becomes by itself exactly if it is undisturbed. -/
theorem lowerBetween_eq_lower_iff :
    lowerBetween before.reverse after part = lower part ↔ Undisturbed before part after := by
  rw [lower_eq_lowerBetween, lowerBetween_eq_iff, Undisturbed]

theorem infix_lower_of_undisturbed (h : Undisturbed before part after) :
    lower part <:+: lower (before ++ part ++ after) := by
  rw [lower_append, lowerBetween_eq_lower_iff.mpr h]
  exact ⟨_, _, rfl⟩

theorem undisturbed_of_not_mem (h : 'Σ' ∉ part) : Undisturbed before part after := by
  intro front rest heq
  have hmem : 'Σ' ∈ part := by simp [heq]
  exact absurd hmem h

end Text

/-! ## Operators -/

namespace Operator

/-- The target is a text that stands undisturbed in the text that was found. -/
def FindsUndisturbed (found target : Value) : Prop :=
  ∃ whole part before after, found = .text whole ∧ target = .text part ∧
    whole.toList = before ++ part.toList ++ after ∧ Text.Undisturbed before part.toList after

variable {found target : Value}

theorem FindsUndisturbed.contains (h : FindsUndisturbed found target) :
    contains.Relates found target := by
  obtain ⟨whole, part, before, after, rfl, rfl, heq, -⟩ := h
  exact Or.inl ⟨whole, part, rfl, rfl, before, after, heq.symm⟩

theorem FindsUndisturbed.containsIgnoringCase (h : FindsUndisturbed found target) :
    containsIgnoringCase.Relates found target := by
  obtain ⟨whole, part, before, after, rfl, rfl, heq, hundisturbed⟩ := h
  refine ⟨whole, part, rfl, rfl, ?_⟩
  rw [heq]
  exact Text.infix_lower_of_undisturbed hundisturbed

theorem findsUndisturbed_of_contains {s : String}
    (hpart : ∀ part, target = .text part → 'Σ' ∉ part.toList)
    (h : contains.Relates (.text s) target) : FindsUndisturbed (.text s) target := by
  rcases h with ⟨whole, part, hwhole, rfl, before, after, heq⟩ | ⟨items, hitems, -⟩
  · exact ⟨whole, part, before, after, hwhole, rfl, heq.symm,
      Text.undisturbed_of_not_mem (hpart part rfl)⟩
  · cases hitems

theorem exactIgnoringCase_of_exact {s : String} (h : exact.Relates (.text s) target) :
    exactIgnoringCase.Relates (.text s) target := by
  obtain rfl : target = .text s := Value.text_same_iff.mp h
  exact ⟨s, s, rfl, rfl, rfl⟩

end Operator

namespace Condition

/-! ## Conditions that differ in their operators -/

variable {config : Config} {path : Path} {operator : Operator} {c c' : Condition}

/-- A lookup whose operator takes no pattern becomes, for every target, a condition on its path that
relates what was found to the target. -/
theorem exists_compile_of_read {specifier : String}
    (hread : (Specifier.read config specifier).outcome = .ok ⟨path, operator⟩)
    (hop : operator.takesPattern = false) (target : Value) :
    ∃ c, (compile config specifier target).outcome = .ok c ∧ c.path = path ∧
      ∀ found, c.matchesValue found = true ↔ operator.Relates found target := by
  obtain ⟨operand, hoperand⟩ := prepare_of_takesPattern_eq_false hop specifier target
  exact ⟨_, outcome_compile_eq_ok.mpr ⟨_, _, hread, hoperand, rfl⟩, rfl,
    matchesValue_iff_relates hoperand⟩

theorem isMatch_iff_exists_mem_candidates (c : Condition) (r : Record) :
    c.isMatch r = true ↔
      ∃ found ∈ (c.path.resolve r).candidates, c.matchesValue found = true := by
  rw [isMatch, matchesResolved_eq_any, List.any_eq_true]

/-- One condition accepts all texts that another accepts, and all records in which the path of the
other comes to texts only. -/
def AcceptsTextsOf (c' c : Condition) : Prop :=
  (∀ s, c.matchesValue (.text s) = true → c'.matchesValue (.text s) = true) ∧
    ∀ r, (∀ found ∈ (c.path.resolve r).candidates, found.kind = .text) →
      c.isMatch r = true → c'.isMatch r = true

/-- Of conditions on the same path, what holds of texts holds of records. -/
theorem acceptsTextsOf_of_matchesValue (hpath : c'.path = c.path)
    (h : ∀ s, c.matchesValue (.text s) = true → c'.matchesValue (.text s) = true) :
    c'.AcceptsTextsOf c := by
  refine ⟨h, fun r htexts hr ↦ ?_⟩
  obtain ⟨found, hfound, hmatch⟩ := (isMatch_iff_exists_mem_candidates c r).mp hr
  have hkind : found.kind = .text := htexts found hfound
  rw [isMatch_iff_exists_mem_candidates, hpath]
  cases found with
  | text s => exact ⟨_, hfound, h s hmatch⟩
  | _ => cases hkind

/-- **Ignoring case widens what is found, but for sigmas.** Wherever a target equals a text, it does
so without regard to case. Wherever a target stands undisturbed in a text, it is a part of the text
with regard to case and without; and so a target without capital sigmas is found without regard to
case wherever it is found at all. -/
theorem ignoringCase_widens (config : Config) (path : Path) (target : Value) :
    (∀ specifier specifier',
      (Specifier.read config specifier).outcome = .ok ⟨path, .exact⟩ →
      (Specifier.read config specifier').outcome = .ok ⟨path, .exactIgnoringCase⟩ →
      ∃ c c', (compile config specifier target).outcome = .ok c ∧
        (compile config specifier' target).outcome = .ok c' ∧ c'.AcceptsTextsOf c) ∧
    ∀ specifier specifier',
      (Specifier.read config specifier).outcome = .ok ⟨path, .contains⟩ →
      (Specifier.read config specifier').outcome = .ok ⟨path, .containsIgnoringCase⟩ →
      ∃ c c', (compile config specifier target).outcome = .ok c ∧
        (compile config specifier' target).outcome = .ok c' ∧
        (∀ found, Operator.FindsUndisturbed found target →
          c.matchesValue found = true ∧ c'.matchesValue found = true) ∧
        (∀ r, ∀ found ∈ (path.resolve r).candidates, Operator.FindsUndisturbed found target →
          c.isMatch r = true ∧ c'.isMatch r = true) ∧
        ((∀ part, target = .text part → 'Σ' ∉ part.toList) → c'.AcceptsTextsOf c) := by
  constructor
  · intro specifier specifier' hread hread'
    obtain ⟨c, hcompile, rfl, hc⟩ := exists_compile_of_read hread rfl target
    obtain ⟨c', hcompile', hpath, hc'⟩ := exists_compile_of_read hread' rfl target
    refine ⟨c, c', hcompile, hcompile', acceptsTextsOf_of_matchesValue hpath fun s hs ↦ ?_⟩
    exact (hc' _).mpr (Operator.exactIgnoringCase_of_exact ((hc _).mp hs))
  · intro specifier specifier' hread hread'
    obtain ⟨c, hcompile, rfl, hc⟩ := exists_compile_of_read hread rfl target
    obtain ⟨c', hcompile', hpath, hc'⟩ := exists_compile_of_read hread' rfl target
    have hboth (found : Value) (h : Operator.FindsUndisturbed found target) :
        c.matchesValue found = true ∧ c'.matchesValue found = true :=
      ⟨(hc found).mpr h.contains, (hc' found).mpr h.containsIgnoringCase⟩
    refine ⟨c, c', hcompile, hcompile', hboth, fun r found hfound h ↦ ?_, fun hpart ↦ ?_⟩
    · obtain ⟨hmatch, hmatch'⟩ := hboth found h
      rw [isMatch_iff_exists_mem_candidates, isMatch_iff_exists_mem_candidates, hpath]
      exact ⟨⟨found, hfound, hmatch⟩, found, hfound, hmatch'⟩
    · refine acceptsTextsOf_of_matchesValue hpath fun s hs ↦ ?_
      exact (hboth _ (Operator.findsUndisturbed_of_contains hpart ((hc _).mp hs))).2

/-- A record of one Greek word. -/
def ofWord (word : String) : Record := ⟨[("word", .text word)]⟩

theorem ignoringCase_widens_light :
    (∃ c c', (compile {} "word__exact" (.text "ΦΩΣ")).outcome = .ok c ∧
      (compile {} "word__iexact" (.text "ΦΩΣ")).outcome = .ok c' ∧ c'.AcceptsTextsOf c) ∧
    (∃ c c', (compile {} "word__contains" (.text "ΦΩΣ")).outcome = .ok c ∧
      (compile {} "word__icontains" (.text "ΦΩΣ")).outcome = .ok c' ∧
      c.isMatch (ofWord "ΤΟ ΦΩΣ") = true ∧ c'.isMatch (ofWord "ΤΟ ΦΩΣ") = true) ∧
    ∃ c c', (compile {} "word__contains" (.text "ΦΩ")).outcome = .ok c ∧
      (compile {} "word__icontains" (.text "ΦΩ")).outcome = .ok c' ∧ c'.AcceptsTextsOf c := by
  have hlight : Operator.FindsUndisturbed (.text "ΤΟ ΦΩΣ") (.text "ΦΩΣ") :=
    ⟨_, _, "ΤΟ ".toList, [], rfl, rfl, rfl, Text.lowerBetween_eq_lower_iff.mp (by decide +kernel)⟩
  obtain ⟨hexact, hcontains⟩ := ignoringCase_widens {} ⟨[.key "word"], by decide⟩ (.text "ΦΩΣ")
  refine ⟨hexact "word__exact" "word__iexact" rfl rfl, ?_, ?_⟩
  · obtain ⟨c, c', hc, hc', -, hmatch, -⟩ := hcontains "word__contains" "word__icontains" rfl rfl
    exact ⟨c, c', hc, hc', hmatch (ofWord "ΤΟ ΦΩΣ") _ (List.mem_singleton.mpr rfl) hlight⟩
  · obtain ⟨c, c', hc, hc', -, -, haccepts⟩ :=
      (ignoringCase_widens {} ⟨[.key "word"], by decide⟩ (.text "ΦΩ")).2
        "word__contains" "word__icontains" rfl rfl
    refine ⟨c, c', hc, hc', haccepts fun part hpart ↦ ?_⟩
    obtain rfl := Value.text.inj hpart
    decide

/-- By itself the target ends in a final sigma, but where it stands in the longer word it does not:
with regard to case it is found there, and without it is not. -/
theorem contains_not_containsIgnoringCase_light :
    ∃ c c', (compile {} "word__contains" (.text "ΦΩΣ")).outcome = .ok c ∧
      (compile {} "word__icontains" (.text "ΦΩΣ")).outcome = .ok c' ∧
      (c.matchesValue (.text "ΦΩΣΤΗΡ") = true ∧ c'.matchesValue (.text "ΦΩΣΤΗΡ") = false) ∧
      c.isMatch (ofWord "ΦΩΣΤΗΡ") = true ∧ c'.isMatch (ofWord "ΦΩΣΤΗΡ") = false :=
  ⟨_, _, rfl, rfl, by decide +kernel⟩

end Condition

end RecordQuery
