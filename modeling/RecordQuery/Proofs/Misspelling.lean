import RecordQuery.Proofs.Edits
import RecordQuery.Proofs.SpecifierWriting

/-!
# Misspelt operators

What the two policies for slips have in common, and where they part. A part of a specifier misspells
an operator if it is an operator's name but for capitals, or would be one of the longer names after
one edit. Only that makes a difference: where the last of several parts does so, the specifier is
refused or read with that part as a key, and every other specifier is read, or fails to be, in the
same way.
-/

namespace RecordQuery

/-! ## What misspells an operator -/

namespace Operator

theorem mem_all (op : Operator) : op ∈ all := by
  cases op <;> decide

/-- The names that are recognised in a misspelling: all but the short one. -/
def longNames : List String := ["exact", "iexact", "regex", "iregex", "contains", "icontains"]

theorem mem_longNames_iff {name : String} :
    name ∈ longNames ↔ ∃ op : Operator, leastFuzzyLength ≤ op.name.length ∧ op.name = name := by
  have hnames : longNames = (all.filter (leastFuzzyLength ≤ ·.name.length)).map Operator.name := by
    decide
  rw [hnames, List.mem_map]
  refine exists_congr fun op ↦ and_congr_left' ?_
  rw [List.mem_filter, decide_eq_true_iff]
  exact and_iff_right (mem_all op)

/-- A text with the letters from A to Z made small. All others stay as they are. -/
def lowered (text : String) : List Char := text.toList.map Char.toLower

/-- A text is an operator's name but for capitals, or at most one edit away from a longer name. -/
def Misspells (text : String) : Prop :=
  (∃ op : Operator, lowered text = op.name.toList) ∨
    ∃ name ∈ longNames, ∃ n ≤ 1, Text.Edits n (lowered text) name.toList

theorem isNear_iff {cs : List Char} {op : Operator} : isNear cs op = true ↔
    cs = op.name.toList ∨
      leastFuzzyLength ≤ op.name.length ∧ ∃ n ≤ 1, Text.Edits n cs op.name.toList := by
  rw [isNear, Bool.or_eq_true, Bool.and_eq_true, beq_iff_eq, decide_eq_true_iff, decide_eq_true_iff,
    Text.editDistance_le_iff]

/-- An operator is recognised exactly in what misspells one. -/
theorem exists_resembling?_iff {text : String} :
    (∃ op, resembling? text = some op) ↔ Misspells text := by
  have hfound : (∃ op, resembling? text = some op) ↔ ∃ op, isNear (lowered text) op = true := by
    rw [← Option.isSome_iff_exists, resembling?, List.find?_isSome]
    exact exists_congr fun op ↦ and_iff_right (mem_all op)
  simp only [hfound, isNear_iff, exists_or, Misspells, mem_longNames_iff]
  refine or_congr_right ?_
  constructor
  · rintro ⟨op, hlong, hedits⟩
    exact ⟨op.name, ⟨op, hlong, rfl⟩, hedits⟩
  · rintro ⟨_, ⟨op, hlong, rfl⟩, hedits⟩
    exact ⟨op, hlong, hedits⟩

end Operator

/-! ## Misspelt specifiers -/

namespace Specifier

/-- The last of several parts is no operator's name, and misspells one. -/
structure Misspelt (parts : List String) (last : String) : Prop where
  /-- There are several parts. -/
  several : 2 ≤ parts.length
  /-- This is the last part. -/
  last_eq : parts.getLast? = some last
  /-- It is not a name. -/
  not_name : ∀ op : Operator, op.name ≠ last
  /-- It misspells one. -/
  misspells : Operator.Misspells last

variable {config : Config} {specifier : String} {parts : List String} {last : String}

theorem slips_iff_misspelt : Slips parts last ↔ Misspelt parts last := by
  rw [Slips, Operator.exists_resembling?_iff]
  exact ⟨fun ⟨hseveral, hlast, hnot, hnear⟩ ↦ ⟨hseveral, hlast, hnot, hnear⟩,
    fun h ↦ ⟨h.several, h.last_eq, h.not_name, h.misspells⟩⟩

/-- Into which parts a text is cut does not depend on the policy. -/
theorem hasParts_withPolicy {policy : SlipPolicy} :
    HasParts { config with slipPolicy := policy } specifier parts ↔
      HasParts config specifier parts :=
  ⟨fun h ↦ ⟨h.delimiter_ne, h.specifier_ne, h.splits, h.parts_ne⟩,
    fun h ↦ ⟨h.delimiter_ne, h.specifier_ne, h.splits, h.parts_ne⟩⟩

theorem HasParts.unique {parts' : List String} (h : HasParts config specifier parts)
    (h' : HasParts config specifier parts') : parts = parts' :=
  Except.ok.inj ((parts_eq_ok_iff.mpr h).symm.trans (parts_eq_ok_iff.mpr h'))

/-! ## The two policies -/

/-- What is no specifier is none under either policy, and for the same reason. -/
theorem outcome_read_reject_of_error {f : Fault}
    (h : (read { config with slipPolicy := .literalKey } specifier).outcome = .error f) :
    (read { config with slipPolicy := .reject } specifier).outcome = .error f := by
  rcases outcome_read_eq_error.mp h with ⟨_, _, _, hpolicy, -⟩ | ⟨hnone, hf⟩
  · cases hpolicy
  · refine outcome_read_eq_error.mpr (.inr ⟨?_, hf⟩)
    rintro ⟨parts, hparts⟩
    exact hnone ⟨parts, hasParts_withPolicy.mpr (hasParts_withPolicy.mp hparts)⟩

theorem outcome_read_reject_of_misspelt (hparts : HasParts config specifier parts)
    (h : Misspelt parts last) :
    (read { config with slipPolicy := .reject } specifier).outcome =
      .error (.unknownOperator last) :=
  outcome_read_of_slips (hasParts_withPolicy.mpr hparts) rfl (slips_iff_misspelt.mpr h)

/-- A misspelt operator that is let pass is one more key. -/
theorem read_literalKey_of_misspelt {s : Specifier} (hparts : HasParts config specifier parts)
    (h : Misspelt parts last)
    (hs : (read { config with slipPolicy := .literalKey } specifier).outcome = .ok s) :
    s.operator = .exact ∧ s.path.segments = parts.map (segment config) := by
  obtain ⟨parts', hparts', -, hsegments, hoperator⟩ := outcome_read_eq_ok.mp hs
  obtain rfl : parts = parts' := hparts.unique (hasParts_withPolicy.mp hparts')
  rw [split_of_not_named h.last_eq h.not_name] at hsegments hoperator
  exact ⟨hoperator, hsegments⟩

/-- Without a misspelling there is nothing to refuse. -/
theorem outcome_read_reject_of_not_misspelt {s : Specifier}
    (h : ¬∃ parts last, HasParts config specifier parts ∧ Misspelt parts last)
    (hs : (read { config with slipPolicy := .literalKey } specifier).outcome = .ok s) :
    (read { config with slipPolicy := .reject } specifier).outcome = .ok s := by
  obtain ⟨parts, hparts, -, hread⟩ := outcome_read_eq_ok.mp hs
  have hparts := hasParts_withPolicy.mp hparts
  refine outcome_read_eq_ok.mpr ⟨parts, hasParts_withPolicy.mpr hparts, ?_, hread⟩
  rintro ⟨-, last, hslips⟩
  exact h ⟨parts, last, hparts, slips_iff_misspelt.mp hslips⟩

/-- **Refusing slips refuses the misspellings and changes nothing else.** What fails to be read when
slips are kept fails alike when they are refused. What is read is read alike, unless the last of
several parts misspells an operator: then that part is refused under the name it has, and otherwise
it is the last segment of a path whose values are tested for equality. -/
theorem read_reject_of_literalKey (config : Config) (specifier : String) :
    (∀ f, (read { config with slipPolicy := .literalKey } specifier).outcome = .error f →
      (read { config with slipPolicy := .reject } specifier).outcome = .error f) ∧
    (∀ s, (read { config with slipPolicy := .literalKey } specifier).outcome = .ok s →
      (∀ parts last, HasParts config specifier parts → Misspelt parts last →
        (read { config with slipPolicy := .reject } specifier).outcome =
            .error (.unknownOperator last) ∧
          s.operator = .exact ∧ s.path.segments = parts.map (segment config) ∧
          s.path.segments.getLast? =
            some (if last = config.anyFieldMarker then .anyField else .key last)) ∧
      ((¬∃ parts last, HasParts config specifier parts ∧ Misspelt parts last) →
        (read { config with slipPolicy := .reject } specifier).outcome = .ok s)) := by
  refine ⟨fun _ ↦ outcome_read_reject_of_error, fun s hs ↦ ⟨?_, ?_⟩⟩
  · intro parts last hparts hmisspelt
    obtain ⟨hoperator, hsegments⟩ := read_literalKey_of_misspelt hparts hmisspelt hs
    refine ⟨outcome_read_reject_of_misspelt hparts hmisspelt, hoperator, hsegments, ?_⟩
    rw [hsegments, List.getLast?_map, hmisspelt.last_eq, Option.map_some, segment]
  · intro h
    exact outcome_read_reject_of_not_misspelt h hs

/-- The specifier of two keys. -/
def twoKeys (first second : String) : Specifier := ⟨⟨[.key first, .key second], by simp⟩, .exact⟩

/-- A letter that is missing and capitals misspell an operator, a letter too many in the short name
does not, and an empty part is no slip. -/
theorem read_reject_of_literalKey_points :
    (read { slipPolicy := .literalKey } "name__Exac").outcome = .ok (twoKeys "name" "Exac") ∧
    (read { slipPolicy := .reject } "name__Exac").outcome = .error (.unknownOperator "Exac") ∧
    (read { slipPolicy := .reject } "name__IN").outcome = .error (.unknownOperator "IN") ∧
    (read { slipPolicy := .reject } "name__inn").outcome = .ok (twoKeys "name" "inn") ∧
    (read { slipPolicy := .reject } "name____exac").outcome =
      .error (.badSpecifier "name____exac" .emptySegment) := by
  have hexac : (read { slipPolicy := .literalKey } "name__Exac").outcome =
    .ok (twoKeys "name" "Exac") := rfl
  refine ⟨hexac, ?_, ?_, ?_, ?_⟩
  · have hmisspelt : Misspelt ["name", "Exac"] "Exac" := by
      refine ⟨by decide, rfl, Operator.named?_eq_none_iff.mp rfl, .inr ?_⟩
      refine ⟨"exact", by decide, 1, le_rfl, ?_⟩
      exact .tail (.refl _) (.later 'e' (.later 'x' (.later 'a' (.later 'c' (.insertion 't' [])))))
    exact (((read_reject_of_literalKey {} "name__Exac").2 _ hexac).1 _ _
      (parts_eq_ok_iff.mp rfl) hmisspelt).1
  · have hmisspelt : Misspelt ["name", "IN"] "IN" :=
      ⟨by decide, rfl, Operator.named?_eq_none_iff.mp rfl, .inl ⟨.memberOf, by decide⟩⟩
    exact (((read_reject_of_literalKey {} "name__IN").2 (twoKeys "name" "IN") rfl).1 _ _
      (parts_eq_ok_iff.mp rfl) hmisspelt).1
  · refine ((read_reject_of_literalKey {} "name__inn").2 _ rfl).2 ?_
    rintro ⟨parts, last, hparts, hmisspelt⟩
    obtain rfl : ["name", "inn"] = parts := HasParts.unique (parts_eq_ok_iff.mp rfl) hparts
    obtain ⟨-, hlast, -, op, hop⟩ := slips_iff_misspelt.mpr hmisspelt
    obtain rfl : "inn" = last := Option.some.inj hlast
    cases hop
  · exact (read_reject_of_literalKey {} "name____exac").1 _ rfl

end Specifier

end RecordQuery
