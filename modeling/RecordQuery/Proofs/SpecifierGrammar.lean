import RecordQuery.Specifier
import RecordQuery.Proofs.Cutting
import RecordQuery.Proofs.Outcome

/-!
# The grammar of specifiers

Which texts are specifiers, and of what, is said here by the parts into which the delimiter cuts
them. Reading accepts exactly these texts, whatever the configuration holds. Nothing is lost on the
way: from the path and the operator the text is restored, but for the operator of equality, which
may be named or left out.
-/

namespace RecordQuery

theorem Operator.named?_eq_some_iff {name : String} {op : Operator} :
    named? name = some op ↔ op.name = name := by
  constructor
  · intro h
    have hname := List.find?_some (p := fun op : Operator ↦ op.name == name) h
    exact eq_of_beq hname
  · rintro rfl
    cases op <;> decide

theorem Operator.named?_eq_none_iff {name : String} :
    named? name = none ↔ ∀ op : Operator, op.name ≠ name := by
  simp only [Option.eq_none_iff_forall_ne_some, ne_eq, named?_eq_some_iff]

namespace Specifier

/-! ## Parts -/

/-- The delimiter, which is not empty, cuts a text, which is not empty, into parts none of which is
empty. -/
structure HasParts (config : Config) (specifier : String) (parts : List String) : Prop where
  /-- The delimiter is not empty. -/
  delimiter_ne : config.delimiter ≠ ""
  /-- The text is not empty. -/
  specifier_ne : specifier ≠ ""
  /-- The parts are the pieces of the text. -/
  splits : Text.Splits config.delimiter.toList specifier.toList (parts.map String.toList)
  /-- No part is empty. -/
  parts_ne : ∀ part ∈ parts, part ≠ ""

/-- The last of several parts resembles an operator, and is the name of none. -/
def Slips (parts : List String) (last : String) : Prop :=
  2 ≤ parts.length ∧ parts.getLast? = some last ∧ (∀ op : Operator, op.name ≠ last) ∧
    ∃ op, Operator.resembling? last = some op

variable {config : Config} {specifier : String} {parts : List String}

theorem HasParts.ne_nil (h : HasParts config specifier parts) : parts ≠ [] := by
  rintro rfl
  exact h.splits.ne_nil rfl

theorem parts_eq_ok_iff :
    Specifier.parts config specifier = .ok parts ↔ HasParts config specifier parts := by
  rw [Specifier.parts]
  by_cases hs : specifier = ""
  · rw [if_pos (String.isEmpty_iff.mpr hs)]
    exact ⟨nofun, fun h ↦ absurd hs h.specifier_ne⟩
  rw [if_neg (mt String.isEmpty_iff.mp hs)]
  -- An empty delimiter is no case of the grammar, and always leaves an empty piece.
  by_cases hd : config.delimiter = ""
  · have hany : (Text.pieces config.delimiter.toList specifier.toList).any List.isEmpty = true :=
      List.any_eq_true.mpr ⟨[], by rw [hd]; exact Text.nil_mem_pieces_nil _, rfl⟩
    simp only [hany, if_true]
    exact ⟨nofun, fun h ↦ absurd hd h.delimiter_ne⟩
  have hpieces : Text.pieces config.delimiter.toList specifier.toList =
      parts.map String.toList ↔ Text.Splits config.delimiter.toList specifier.toList
        (parts.map String.toList) := Text.pieces_eq_iff (by simpa using hd)
  constructor
  · intro h
    dsimp only at h
    split at h
    · cases h
    · rename_i hany
      obtain rfl := Except.ok.inj h
      refine ⟨hd, hs, hpieces.mp (by simp), fun part hpart hempty ↦ hany ?_⟩
      obtain ⟨piece, hmem, rfl⟩ := List.mem_map.mp hpart
      exact List.any_eq_true.mpr ⟨piece, hmem, by simpa using hempty⟩
  · intro h
    have hany : ¬(parts.map String.toList).any List.isEmpty = true := by
      rw [List.any_map, List.any_eq_true]
      rintro ⟨part, hpart, hempty⟩
      exact h.parts_ne part hpart (by simpa using hempty)
    rw [hpieces.mpr h.splits, if_neg hany, List.map_map]
    simp

theorem parts_eq_error_iff {cause : SpecifierFault} :
    Specifier.parts config specifier = .error cause ↔
      (¬∃ parts, HasParts config specifier parts) ∧
        cause = if specifier = "" then .empty else .emptySegment := by
  simp only [← parts_eq_ok_iff, Specifier.parts, String.isEmpty_iff]
  split
  · simp [eq_comm]
  · split <;> simp [eq_comm]

theorem slip?_eq_some_iff {last : String} {op : Operator} : slip? parts = some (last, op) ↔
    2 ≤ parts.length ∧ parts.getLast? = some last ∧ (∀ op : Operator, op.name ≠ last) ∧
      Operator.resembling? last = some op := by
  match parts with
  | [] => simp [slip?]
  | [_] => simp [slip?]
  | first :: second :: rest =>
    simp only [slip?]
    generalize (first :: second :: rest).getLast? = found
    cases found with
    | none => simp
    | some found =>
      constructor
      · intro h
        dsimp only at h
        split at h
        · cases h
        · rename_i hnone
          obtain ⟨o, ho, heq⟩ := Option.map_eq_some_iff.mp h
          obtain ⟨rfl, rfl⟩ := Prod.mk.inj heq
          exact ⟨by simp, rfl, Operator.named?_eq_none_iff.mp (by simpa using hnone), ho⟩
      · rintro ⟨-, hlast, hnot, hop⟩
        obtain rfl := Option.some.inj hlast
        simp [Operator.named?_eq_none_iff.mpr hnot, hop]

theorem split_cases (parts : List String) : split parts = (parts, .exact) ∨
    ∃ init op, init ≠ [] ∧ parts = init ++ [Operator.name op] ∧ split parts = (init, op) := by
  match parts with
  | [] => exact Or.inl rfl
  | [_] => exact Or.inl rfl
  | first :: second :: rest =>
    simp only [split]
    cases h : (first :: second :: rest).getLast?.bind Operator.named? with
    | none => exact Or.inl rfl
    | some op =>
      obtain ⟨last, hlast, hop⟩ := Option.bind_eq_some_iff.mp h
      refine Or.inr ⟨_, op, by simp, ?_, rfl⟩
      rw [Operator.named?_eq_some_iff.mp hop, List.dropLast_append_getLast? last hlast]

/-! ## Reading -/

theorem outcome_read_of_parts_eq_error {cause : SpecifierFault}
    (h : Specifier.parts config specifier = .error cause) :
    (read config specifier).outcome = .error (.badSpecifier specifier cause) := by
  rw [read, h]
  rfl

theorem outcome_read_of_slips {last : String} (h : HasParts config specifier parts)
    (hpolicy : config.slipPolicy = .reject) (hslips : Slips parts last) :
    (read config specifier).outcome = .error (.unknownOperator last) := by
  obtain ⟨hlength, hlast, hnot, op, hop⟩ := hslips
  have hslip : slip? parts = some (last, op) := slip?_eq_some_iff.mpr ⟨hlength, hlast, hnot, hop⟩
  rw [read, parts_eq_ok_iff.mpr h, Logged.outcome_bind_of_ok (Logged.outcome_pure parts)]
  simp only [hslip, hpolicy]
  rfl

/-- What cannot be a slip, or need not be taken for one, is read to the end. -/
theorem exists_outcome_read (h : HasParts config specifier parts)
    (hno : ¬(config.slipPolicy = .reject ∧ ∃ last, Slips parts last)) :
    ∃ s, (read config specifier).outcome = .ok s ∧
      s.path.segments = (split parts).1.map (segment config) ∧ s.operator = (split parts).2 := by
  -- An operator is taken off several parts only, which leaves a path behind.
  have hne : (split parts).1.map (segment config) ≠ [] := by
    rw [ne_eq, List.map_eq_nil_iff]
    rcases split_cases parts with hsplit | ⟨init, op, hinit, -, hsplit⟩
    · rw [hsplit]
      exact h.ne_nil
    · rwa [hsplit]
  have hpath : Path.ofSegments ((split parts).1.map (segment config)) =
      .ok ⟨(split parts).1.map (segment config), hne⟩ := by
    rw [Path.ofSegments, Path.ofSegments?, dif_pos hne]
  refine ⟨⟨⟨_, hne⟩, (split parts).2⟩, ?_, rfl, rfl⟩
  rw [read, parts_eq_ok_iff.mpr h, Logged.outcome_bind_of_ok (Logged.outcome_pure parts)]
  rcases hslip : slip? parts with _ | ⟨last, op⟩
  · simp only [hslip, hpath]
    rfl
  · cases hpolicy : config.slipPolicy with
    | literalKey =>
      simp only [hslip, hpath]
      rfl
    | reject =>
      obtain ⟨hlength, hlast, hnot, hop⟩ := slip?_eq_some_iff.mp hslip
      exact absurd ⟨hpolicy, last, hlength, hlast, hnot, op, hop⟩ hno

theorem outcome_read_eq_ok {s : Specifier} : (read config specifier).outcome = .ok s ↔
    ∃ parts, HasParts config specifier parts ∧
      ¬(config.slipPolicy = .reject ∧ ∃ last, Slips parts last) ∧
      s.path.segments = (split parts).1.map (segment config) ∧ s.operator = (split parts).2 := by
  constructor
  · intro h
    cases hparts : Specifier.parts config specifier with
    | error cause =>
      rw [outcome_read_of_parts_eq_error hparts] at h
      cases h
    | ok parts =>
      have hhas := parts_eq_ok_iff.mp hparts
      have hno : ¬(config.slipPolicy = .reject ∧ ∃ last, Slips parts last) := by
        rintro ⟨hpolicy, last, hslips⟩
        rw [outcome_read_of_slips hhas hpolicy hslips] at h
        cases h
      obtain ⟨s', hs', hsegments, hoperator⟩ := exists_outcome_read hhas hno
      obtain rfl : s = s' := Except.ok.inj (h.symm.trans hs')
      exact ⟨parts, hhas, hno, hsegments, hoperator⟩
  · rintro ⟨parts, hhas, hno, hsegments, hoperator⟩
    obtain ⟨⟨⟨segments, hne⟩, operator⟩, hs', hsegments', hoperator'⟩ :=
      exists_outcome_read hhas hno
    obtain ⟨⟨segments', hne'⟩, operator'⟩ := s
    obtain rfl : segments = segments' := hsegments'.trans hsegments.symm
    obtain rfl : operator = operator' := hoperator'.trans hoperator.symm
    exact hs'

theorem outcome_read_eq_error {f : Fault} : (read config specifier).outcome = .error f ↔
    (∃ parts last, HasParts config specifier parts ∧ config.slipPolicy = .reject ∧
      Slips parts last ∧ f = .unknownOperator last) ∨
    ((¬∃ parts, HasParts config specifier parts) ∧
      f = .badSpecifier specifier (if specifier = "" then .empty else .emptySegment)) := by
  constructor
  · intro h
    cases hparts : Specifier.parts config specifier with
    | error cause =>
      rw [outcome_read_of_parts_eq_error hparts] at h
      obtain ⟨hnone, rfl⟩ := parts_eq_error_iff.mp hparts
      exact Or.inr ⟨hnone, (Except.error.inj h).symm⟩
    | ok parts =>
      have hhas := parts_eq_ok_iff.mp hparts
      by_cases hslips : config.slipPolicy = .reject ∧ ∃ last, Slips parts last
      · obtain ⟨hpolicy, last, hslips⟩ := hslips
        rw [outcome_read_of_slips hhas hpolicy hslips] at h
        exact Or.inl ⟨parts, last, hhas, hpolicy, hslips, (Except.error.inj h).symm⟩
      · obtain ⟨s, hs, -⟩ := exists_outcome_read hhas hslips
        rw [hs] at h
        cases h
  · rintro (⟨parts, last, hhas, hpolicy, hslips, rfl⟩ | ⟨hnone, rfl⟩)
    · exact outcome_read_of_slips hhas hpolicy hslips
    · exact outcome_read_of_parts_eq_error (parts_eq_error_iff.mpr ⟨hnone, rfl⟩)

/-! ## Writing -/

/-- The part that a segment is written as. -/
def written (config : Config) : Segment → String
  | .key name => name
  | .anyField => config.anyFieldMarker

/-- The parts of a path, with delimiters between them. -/
def render (config : Config) (path : Path) : String :=
  String.intercalate config.delimiter (path.segments.map (written config))

@[simp] theorem written_segment (part : String) : written config (segment config part) = part := by
  rw [segment]
  split
  · rename_i hmarker
    exact hmarker.symm
  · rfl

theorem HasParts.intercalate_eq (h : HasParts config specifier parts) :
    String.intercalate config.delimiter parts = specifier := by
  rw [← String.toList_inj, String.toList_intercalate, h.splits.intercalate_eq]

theorem HasParts.not_infix (h : HasParts config specifier parts) {part : String}
    (hpart : part ∈ parts) : ¬config.delimiter.toList <:+: part.toList :=
  h.splits.not_infix_of_mem (by simpa using h.delimiter_ne) (List.mem_map_of_mem hpart)

theorem segment_eq_key {part name : String} (h : segment config part = .key name) :
    part = name ∧ part ≠ config.anyFieldMarker := by
  rw [segment] at h
  split at h
  · cases h
  · rename_i hmarker
    exact ⟨Segment.key.inj h, hmarker⟩

/-- A specifier is what its path is written as, with the operator behind it or not. -/
theorem eq_render_of_outcome_read {s : Specifier}
    (h : (read config specifier).outcome = .ok s) :
    (specifier = render config s.path ∧ s.operator = .exact) ∨
      specifier = render config s.path ++ config.delimiter ++ s.operator.name := by
  obtain ⟨parts, hhas, -, hsegments, hoperator⟩ := outcome_read_eq_ok.mp h
  have hrender : render config s.path = String.intercalate config.delimiter (split parts).1 := by
    rw [render, hsegments, List.map_map]
    congr 1
    exact (List.map_congr_left fun part _ ↦ written_segment part).trans (List.map_id _)
  rcases split_cases parts with hsplit | ⟨init, op, hinit, hparts, hsplit⟩
  · rw [hsplit] at hrender hoperator
    exact Or.inl ⟨by rw [hrender, hhas.intercalate_eq], hoperator⟩
  · rw [hsplit] at hrender hoperator
    refine Or.inr ?_
    rw [hrender, hoperator, ← hhas.intercalate_eq, hparts,
      String.intercalate_append_of_ne_nil hinit (by simp), String.intercalate_singleton]

theorem key_of_outcome_read {s : Specifier} (h : (read config specifier).outcome = .ok s)
    {name : String} (hname : .key name ∈ s.path.segments) :
    name ≠ "" ∧ ¬config.delimiter.toList <:+: name.toList ∧ name ≠ config.anyFieldMarker := by
  obtain ⟨parts, hhas, -, hsegments, -⟩ := outcome_read_eq_ok.mp h
  rw [hsegments] at hname
  obtain ⟨part, hpart, hsegment⟩ := List.mem_map.mp hname
  obtain ⟨rfl, hmarker⟩ := segment_eq_key hsegment
  have hmem : part ∈ parts := by
    rcases split_cases parts with hsplit | ⟨init, op, -, hparts, hsplit⟩
    · rwa [hsplit] at hpart
    · rw [hsplit] at hpart
      rw [hparts]
      exact List.mem_append_left _ hpart
  exact ⟨hhas.parts_ne part hmem, hhas.not_infix hmem, hmarker⟩

/-- **Reading accepts exactly the grammar and loses nothing.** Only a slip that is not let pass is
an operator's fault, and a path is never found to be empty. Two texts that are read alike differ at
most by the name of equality behind one of them. -/
theorem read_accepts_grammar (config : Config) :
    (∀ specifier, (∃ s, (read config specifier).outcome = .ok s) ↔
      ∃ parts, HasParts config specifier parts ∧
        ¬(config.slipPolicy = .reject ∧ ∃ last, Slips parts last)) ∧
    (∀ specifier f, (read config specifier).outcome = .error f ↔
      (∃ parts last, HasParts config specifier parts ∧ config.slipPolicy = .reject ∧
        Slips parts last ∧ f = .unknownOperator last) ∨
      ((¬∃ parts, HasParts config specifier parts) ∧
        f = .badSpecifier specifier (if specifier = "" then .empty else .emptySegment))) ∧
    (∀ specifier s, (read config specifier).outcome = .ok s →
      s.path.segments ≠ [] ∧
      (∀ name, .key name ∈ s.path.segments → name ≠ "" ∧
        ¬config.delimiter.toList <:+: name.toList ∧ name ≠ config.anyFieldMarker) ∧
      ((specifier = render config s.path ∧ s.operator = .exact) ∨
        specifier = render config s.path ++ config.delimiter ++ s.operator.name)) ∧
    (∀ specifier specifier' s, (read config specifier).outcome = .ok s →
      (read config specifier').outcome = .ok s → specifier ≠ specifier' →
      specifier = specifier' ++ config.delimiter ++ "exact" ∨
        specifier' = specifier ++ config.delimiter ++ "exact") := by
  refine ⟨fun specifier ↦ ?_, fun specifier f ↦ outcome_read_eq_error,
    fun specifier s h ↦ ?_, fun specifier specifier' s h h' hne ↦ ?_⟩
  · constructor
    · rintro ⟨s, hs⟩
      obtain ⟨parts, hhas, hno, -⟩ := outcome_read_eq_ok.mp hs
      exact ⟨parts, hhas, hno⟩
    · rintro ⟨parts, hhas, hno⟩
      obtain ⟨s, hs, -⟩ := exists_outcome_read hhas hno
      exact ⟨s, hs⟩
  · exact ⟨s.path.segments_ne_nil, fun name ↦ key_of_outcome_read h, eq_render_of_outcome_read h⟩
  · rcases eq_render_of_outcome_read h with ⟨hs, hop⟩ | hs <;>
      rcases eq_render_of_outcome_read h' with ⟨hs', hop'⟩ | hs'
    · exact absurd (hs.trans hs'.symm) hne
    · rw [hop, ← hs] at hs'
      exact Or.inr hs'
    · rw [hop', ← hs'] at hs
      exact Or.inl hs
    · exact absurd (hs.trans hs'.symm) hne

/-- The path that `a___b` denotes: the first two of three underscores are the delimiter. -/
def overlapping : Specifier := ⟨⟨[.key "a", .key "_b"], by decide⟩, .exact⟩

theorem read_accepts_overlapping :
    ((read {} "a___b").outcome = .ok overlapping ∧
      (read {} "a___b__exact").outcome = .ok overlapping) ∧
    (∀ name, .key name ∈ overlapping.path.segments → name ≠ "" ∧
      ¬"__".toList <:+: name.toList ∧ name ≠ "_any") ∧
    ("a___b" = "a___b__exact" ++ "__" ++ "exact" ∨ "a___b__exact" = "a___b" ++ "__" ++ "exact") ∧
    ∃ parts last, HasParts { slipPolicy := .reject } "a__exac" parts ∧ Slips parts last := by
  have hread : (read {} "a___b").outcome = .ok overlapping := rfl
  have hread' : (read {} "a___b__exact").outcome = .ok overlapping := rfl
  have hslip : (read { slipPolicy := .reject } "a__exac").outcome =
      .error (.unknownOperator "exac") := rfl
  refine ⟨⟨hread, hread'⟩, ((read_accepts_grammar {}).2.2.1 _ _ hread).2.1,
    (read_accepts_grammar {}).2.2.2 _ _ _ hread hread' (by decide), ?_⟩
  rcases ((read_accepts_grammar _).2.1 _ _).mp hslip with
    ⟨parts, last, hparts, -, hslips, -⟩ | ⟨-, heq⟩
  · exact ⟨parts, last, hparts, hslips⟩
  · cases heq

end Specifier

end RecordQuery
