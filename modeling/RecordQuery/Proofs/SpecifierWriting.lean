import RecordQuery.Proofs.SpecifierGrammar

/-!
# Writing specifiers

A path is written by its parts, with delimiters between them, and the name of an operator behind it
or not. The text is not always read as what it was meant for: the delimiter may be met early, where
the end of one part and the delimiter behind it overlap, and a key may be taken for the marker or
for an operator.

## What is asked of a part

Being free of the delimiter is not enough for a part that something follows, and nothing more than
`Text.FirstBehind` is needed: by `Text.splits_intercalate_iff` the condition is exact. A path all of
whose parts meet it is read back, under any configuration with a delimiter.

## What a usable configuration promises

`Config.fault?` asks of the marker that it does not hold the delimiter, and nothing of where the two
overlap, nor of the names of operators. So the marker in front of a key, the marker behind a key and
an operator behind a key are each read as such under a condition of its own, which not every usable
configuration meets.
-/

namespace RecordQuery

theorem Config.fault?_eq_none_iff {config : Config} : config.fault? = none ↔
    config.delimiter ≠ "" ∧ config.anyFieldMarker ≠ "" ∧
      ¬config.delimiter.toList <:+: config.anyFieldMarker.toList := by
  rw [fault?, ← Text.occursIn_iff_infix, ne_eq, ne_eq, ← String.isEmpty_iff, ← String.isEmpty_iff]
  split <;> rename_i hd
  · simp [hd]
  · split <;> rename_i hm
    · simp [hm]
    · split <;> rename_i hin <;> simp [hd, hm, hin]

theorem Operator.name_ne_empty (op : Operator) : op.name ≠ "" := by
  cases op <;> decide

namespace Specifier

variable {config : Config} {specifier : String} {parts : List String}

/-! ## Parts that are joined -/

/-- Joined parts are the parts of the text that they make if none is empty, the delimiter is met
first behind each of them, and it does not occur in the last. -/
theorem hasParts_intercalate_iff (hd : config.delimiter ≠ "") (init : List String)
    (last : String) :
    HasParts config (String.intercalate config.delimiter (init ++ [last])) (init ++ [last]) ↔
      (∀ part ∈ init ++ [last], part ≠ "") ∧
        (∀ part ∈ init, Text.FirstBehind config.delimiter.toList part.toList) ∧
          ¬config.delimiter.toList <:+: last.toList := by
  have hd' : config.delimiter.toList ≠ [] := by simpa using hd
  have hcut := Text.splits_intercalate_iff hd' (init.map String.toList) last.toList
  rw [List.forall_mem_map] at hcut
  rw [← hcut]
  constructor
  · intro h
    refine ⟨h.parts_ne, ?_⟩
    simpa using h.splits
  · rintro ⟨hne, hsplits⟩
    refine ⟨hd, fun hempty ↦ ?_, by simpa using hsplits, hne⟩
    -- The empty text is in one piece, and that is empty.
    have hpieces : init.map String.toList ++ [last.toList] = [[]] := by
      refine hsplits.unique ?_
      have hnil := congrArg String.toList hempty
      rw [String.toList_intercalate, List.map_append, List.map_singleton] at hnil
      rw [hnil]
      exact .whole fun h ↦ hd' (List.eq_nil_of_infix_nil h)
    have hlast : last.toList ∈ [[]] := hpieces ▸ List.mem_append_right _ List.mem_cons_self
    exact hne last (by simp) (by simpa using hlast)

theorem split_of_named {op : Operator} (hlength : 2 ≤ parts.length)
    (hlast : parts.getLast?.bind Operator.named? = some op) :
    split parts = (parts.dropLast, op) := by
  match parts with
  | first :: second :: rest => simp only [split, hlast]

theorem split_append_name {init : List String} (hinit : init ≠ []) (op : Operator) :
    split (init ++ [op.name]) = (init, op) := by
  have hpos := List.length_pos_iff.mpr hinit
  have hlength : 2 ≤ (init ++ [op.name]).length := by
    rw [List.length_append, List.length_singleton]
    omega
  have hlast : (init ++ [op.name]).getLast?.bind Operator.named? = some op := by
    rw [List.getLast?_concat, Option.bind_some, Operator.named?_eq_some_iff]
  rw [split_of_named hlength hlast, List.dropLast_concat]

theorem split_eq_self (h : parts.length = 1 ∨
    ∀ last, parts.getLast? = some last → ∀ op : Operator, op.name ≠ last) :
    split parts = (parts, .exact) := by
  rcases split_cases parts with hsplit | ⟨init, op, hinit, rfl, -⟩
  · exact hsplit
  · exfalso
    rcases h with hlength | hlast
    · have hpos := List.length_pos_iff.mpr hinit
      rw [List.length_append, List.length_singleton] at hlength
      omega
    · exact hlast op.name List.getLast?_concat op rfl

theorem split_of_not_named {last : String} (hlast : parts.getLast? = some last)
    (hnot : ∀ op : Operator, op.name ≠ last) : split parts = (parts, .exact) := by
  refine split_eq_self (.inr ?_)
  intro last' hlast'
  obtain rfl := Option.some.inj (hlast.symm.trans hlast')
  exact hnot

/-! ## Paths that are written -/

/-- The parts that a path is written as. -/
def texts (config : Config) (path : Path) : List String := path.segments.map (written config)

/-- A segment whose text is read as itself wherever it stands in a path. -/
structure Legible (config : Config) (s : Segment) : Prop where
  /-- There is a text. -/
  text_ne : written config s ≠ ""
  /-- No key is taken for the marker. -/
  marker_only : written config s = config.anyFieldMarker → s = .anyField
  /-- The text does not bring the delimiter behind it forward. -/
  firstBehind : Text.FirstBehind config.delimiter.toList (written config s).toList

theorem segment_written {s : Segment} (h : Legible config s) :
    segment config (written config s) = s := by
  cases s with
  | key name => exact if_neg fun hname ↦ nomatch h.marker_only hname
  | anyField => exact if_pos rfl

theorem map_segment_texts {path : Path} (h : ∀ s ∈ path.segments, Legible config s) :
    (texts config path).map (segment config) = path.segments := by
  rw [texts, List.map_map]
  exact (List.map_congr_left fun s hs ↦ segment_written (h s hs)).trans (List.map_id _)

/-- The parts of a specifier that was read are its segments as they are written, and the name of
the operator, unless it was left out. -/
theorem hasParts_of_outcome_read {s : Specifier} (h : (read config specifier).outcome = .ok s) :
    HasParts config specifier (texts config s.path) ∨
      HasParts config specifier (texts config s.path ++ [s.operator.name]) := by
  obtain ⟨parts, hhas, -, hsegments, hoperator⟩ := outcome_read_eq_ok.mp h
  have htexts : texts config s.path = (split parts).1 := by
    rw [texts, hsegments, List.map_map]
    exact (List.map_congr_left fun part _ ↦ written_segment part).trans (List.map_id _)
  rcases split_cases parts with hsplit | ⟨init, op, -, rfl, hsplit⟩
  · rw [htexts, hsplit]
    exact Or.inl hhas
  · rw [htexts, hoperator, hsplit]
    exact Or.inr hhas

theorem texts_ne_nil (config : Config) (path : Path) : texts config path ≠ [] :=
  mt List.map_eq_nil_iff.mp path.segments_ne_nil

section Legible

variable {path : Path} (hd : config.delimiter ≠ "")
  (hpath : ∀ s ∈ path.segments, Legible config s)
include hd hpath

theorem hasParts_texts :
    HasParts config (String.intercalate config.delimiter (texts config path))
      (texts config path) := by
  have hne : ∀ part ∈ texts config path, part ≠ "" :=
    List.forall_mem_map.mpr fun s hs ↦ (hpath s hs).text_ne
  have hfirst : ∀ part ∈ texts config path,
      Text.FirstBehind config.delimiter.toList part.toList :=
    List.forall_mem_map.mpr fun s hs ↦ (hpath s hs).firstBehind
  rcases (texts config path).eq_nil_or_concat with hnil | ⟨init, last, hparts⟩
  · exact absurd hnil (texts_ne_nil config path)
  · rw [hparts, List.concat_eq_append] at hne hfirst ⊢
    refine (hasParts_intercalate_iff hd _ _).mpr ⟨hne, fun part hpart ↦ ?_, ?_⟩
    · exact hfirst part (List.mem_append_left _ hpart)
    · exact (hfirst last (by simp)).not_isInfix (by simpa using hd)

theorem hasParts_texts_append_name {op : Operator}
    (hop : ¬config.delimiter.toList <:+: op.name.toList) :
    HasParts config (String.intercalate config.delimiter (texts config path ++ [op.name]))
      (texts config path ++ [op.name]) := by
  refine (hasParts_intercalate_iff hd _ _).mpr ⟨?_, ?_, hop⟩
  · rw [List.forall_mem_append, List.forall_mem_singleton]
    exact ⟨List.forall_mem_map.mpr fun s hs ↦ (hpath s hs).text_ne, op.name_ne_empty⟩
  · exact List.forall_mem_map.mpr fun s hs ↦ (hpath s hs).firstBehind

/-- **What is written is read back.** With the name of an operator behind it, a path is read as
itself whatever its keys are called. Without, its last part must not be taken for an operator, nor
for a slip where slips are refused, unless it is the only part. -/
theorem read_written_path :
    (∀ op : Operator, ¬config.delimiter.toList <:+: op.name.toList →
      (read config (String.intercalate config.delimiter
        (texts config path ++ [op.name]))).outcome = .ok ⟨path, op⟩) ∧
    ((path.length = 1 ∨ ∀ last, (texts config path).getLast? = some last →
        (∀ op : Operator, op.name ≠ last) ∧
          (config.slipPolicy = .reject → Operator.resembling? last = none)) →
      (read config (String.intercalate config.delimiter (texts config path))).outcome =
        .ok ⟨path, .exact⟩) := by
  refine ⟨fun op hop ↦ ?_, fun hlast ↦ ?_⟩
  · refine outcome_read_eq_ok.mpr ⟨_, hasParts_texts_append_name hd hpath hop, ?_, ?_, ?_⟩
    · rintro ⟨-, last, -, hlast, hnot, -⟩
      rw [List.getLast?_concat] at hlast
      exact hnot op (Option.some.inj hlast)
    · rw [split_append_name (texts_ne_nil config path), map_segment_texts hpath]
    · rw [split_append_name (texts_ne_nil config path)]
  · have hlength : (texts config path).length = path.length := List.length_map ..
    have hsplit : split (texts config path) = (texts config path, .exact) := by
      refine split_eq_self ?_
      rw [hlength]
      exact hlast.imp_right fun h last hl ↦ (h last hl).1
    refine outcome_read_eq_ok.mpr ⟨_, hasParts_texts hd hpath, ?_, ?_, ?_⟩
    · rintro ⟨hpolicy, last, hlong, hl, -, op, hop⟩
      rcases hlast with hlone | hlast
      · omega
      · rw [(hlast last hl).2 hpolicy] at hop
        cases hop
    · rw [hsplit, map_segment_texts hpath]
    · rw [hsplit]

end Legible

/-- A path whose keys are called like an operator and like a slip, with the marker between. -/
def misleading : Path := ⟨[.key "in", .anyField, .key "regx"], by decide⟩

theorem legible_of_mem_misleading (policy : SlipPolicy) {s : Segment}
    (hs : s ∈ misleading.segments) : Legible { slipPolicy := policy } s := by
  have hd : "__".toList ≠ [] := by decide
  simp only [misleading, List.mem_cons, List.not_mem_nil, or_false] at hs
  rcases hs with rfl | rfl | rfl <;> cases policy
  all_goals exact ⟨by decide, by decide, (Text.firstBehind_iff_pieces hd).mpr (by decide)⟩

theorem read_written_misleading :
    (∀ s ∈ misleading.segments, Legible { slipPolicy := .reject } s) ∧
    (read { slipPolicy := .reject } "in___any__regx__iexact").outcome =
      .ok ⟨misleading, .exactIgnoringCase⟩ ∧
    (read {} "in___any__regx").outcome = .ok ⟨misleading, .exact⟩ := by
  refine ⟨fun _ ↦ legible_of_mem_misleading .reject, ?_, ?_⟩
  · exact (read_written_path (by decide) fun _ ↦ legible_of_mem_misleading .reject).1
      .exactIgnoringCase (by decide)
  · refine (read_written_path (by decide) fun _ ↦ legible_of_mem_misleading .literalKey).2
      (Or.inr fun last hlast ↦ ?_)
    obtain rfl := Option.some.inj hlast
    exact ⟨fun op ↦ by cases op <;> decide, nofun⟩

/-! ## One segment in front of another, or of an operator -/

theorem intercalate_pair (d a b : String) : String.intercalate d [a, b] = a ++ d ++ b := by
  rw [String.intercalate_cons_of_ne_nil (List.cons_ne_nil b []), String.intercalate_singleton,
    String.append_assoc]

/-- A text with more behind it is not that text. -/
theorem append_append_ne {a d b : String} (hd : d ≠ "") : a ≠ a ++ d ++ b := by
  intro h
  have hlength := congrArg (List.length ∘ String.toList) h
  have hpos : 0 < d.toList.length := List.length_pos_iff.mpr (by simpa using hd)
  simp only [Function.comp_apply, String.toList_append, List.length_append] at hlength
  omega

section Pair

variable (hd : config.delimiter ≠ "") {s t : Segment} (hs : written config s ≠ "")
  (hs' : segment config (written config s) = s)
include hd hs hs'

theorem outcome_read_operator_iff (op : Operator) :
    (read config (written config s ++ config.delimiter ++ op.name)).outcome =
        .ok ⟨⟨[s], List.cons_ne_nil _ _⟩, op⟩ ↔
      Text.FirstBehind config.delimiter.toList (written config s).toList ∧
        ¬config.delimiter.toList <:+: op.name.toList := by
  have hparts := hasParts_intercalate_iff hd [written config s] op.name
  rw [List.singleton_append, intercalate_pair, List.forall_mem_singleton] at hparts
  constructor
  · intro h
    rcases hasParts_of_outcome_read h with h | h
    · exact absurd h.intercalate_eq (append_append_ne hd)
    · exact (hparts.mp h).2
  · intro h
    have hne : ∀ part ∈ [written config s, op.name], part ≠ "" := by
      rw [List.forall_mem_cons, List.forall_mem_singleton]
      exact ⟨hs, op.name_ne_empty⟩
    have hsplit := split_append_name (List.cons_ne_nil (written config s) []) op
    rw [List.singleton_append] at hsplit
    refine outcome_read_eq_ok.mpr ⟨_, hparts.mpr ⟨hne, h⟩, ?_, ?_, ?_⟩
    · rintro ⟨-, last, -, hlast, hnot, -⟩
      exact hnot op (Option.some.inj hlast)
    · rw [hsplit, List.map_singleton, hs']
    · rw [hsplit]

theorem outcome_read_pair_iff (hpolicy : config.slipPolicy = .literalKey)
    (ht : written config t ≠ "") (ht' : segment config (written config t) = t) :
    (read config (written config s ++ config.delimiter ++ written config t)).outcome =
        .ok ⟨⟨[s, t], List.cons_ne_nil _ _⟩, .exact⟩ ↔
      Text.FirstBehind config.delimiter.toList (written config s).toList ∧
        ¬config.delimiter.toList <:+: (written config t).toList ∧
          ∀ op : Operator, op.name ≠ written config t := by
  have hparts := hasParts_intercalate_iff hd [written config s] (written config t)
  rw [List.singleton_append, intercalate_pair, List.forall_mem_singleton] at hparts
  constructor
  · intro h
    have hcut : HasParts config (written config s ++ config.delimiter ++ written config t)
        [written config s, written config t] := by
      rcases hasParts_of_outcome_read h with h | h
      · exact h
      · have heq := h.intercalate_eq
        rw [String.intercalate_append_of_ne_nil (by simp [texts]) (by simp), texts,
          List.map_cons, List.map_singleton, intercalate_pair] at heq
        exact absurd heq.symm (append_append_ne hd)
    refine ⟨(hparts.mp hcut).2.1, (hparts.mp hcut).2.2, fun op hop ↦ ?_⟩
    -- A second part that names an operator would have been taken off.
    have hread := (outcome_read_operator_iff hd hs hs' op).mpr (hop ▸ (hparts.mp hcut).2)
    rw [hop, h] at hread
    cases hread
  · rintro ⟨hfirst, hnot, hop⟩
    have hne : ∀ part ∈ [written config s, written config t], part ≠ "" := by
      rw [List.forall_mem_cons, List.forall_mem_singleton]
      exact ⟨hs, ht⟩
    have hsplit : split [written config s, written config t] =
        ([written config s, written config t], .exact) := split_of_not_named rfl hop
    refine outcome_read_eq_ok.mpr ⟨_, hparts.mpr ⟨hne, hfirst, hnot⟩, ?_, ?_, ?_⟩
    · rw [hpolicy]
      exact nofun
    · rw [hsplit, List.map_cons, List.map_singleton, hs', ht']
    · rw [hsplit]

end Pair

/-- **What a usable configuration leaves open.** The marker in front of a key is read as the
wildcard exactly if its end does not bring the delimiter forward, the marker behind a key exactly if
it is not the name of an operator, and an operator behind a key exactly if its name does not hold
the delimiter. -/
theorem read_of_usable_iff (hconfig : config.fault? = none)
    (hpolicy : config.slipPolicy = .literalKey) {key : String} (hkey : key ≠ "")
    (hdisjoint : ∀ c ∈ key.toList, c ∉ config.delimiter.toList)
    (hname : ∀ op : Operator, op.name ≠ key) (hmarker : key ≠ config.anyFieldMarker)
    (op : Operator) :
    ((read config (config.anyFieldMarker ++ config.delimiter ++ key)).outcome =
        .ok ⟨⟨[.anyField, .key key], List.cons_ne_nil _ _⟩, .exact⟩ ↔
      Text.FirstBehind config.delimiter.toList config.anyFieldMarker.toList) ∧
    ((read config (key ++ config.delimiter ++ config.anyFieldMarker)).outcome =
        .ok ⟨⟨[.key key, .anyField], List.cons_ne_nil _ _⟩, .exact⟩ ↔
      ∀ op : Operator, op.name ≠ config.anyFieldMarker) ∧
    ((read config (key ++ config.delimiter ++ op.name)).outcome =
        .ok ⟨⟨[.key key], List.cons_ne_nil _ _⟩, op⟩ ↔
      ¬config.delimiter.toList <:+: op.name.toList) := by
  obtain ⟨hd, hm, hfree⟩ := Config.fault?_eq_none_iff.mp hconfig
  have hd' : config.delimiter.toList ≠ [] := by simpa using hd
  have hfirst : Text.FirstBehind config.delimiter.toList key.toList := .of_disjoint hd' hdisjoint
  have hkey : written config (.key key) ≠ "" := hkey
  have hm : written config .anyField ≠ "" := hm
  have hkey' : segment config (written config (.key key)) = .key key := if_neg hmarker
  have hmarker' : segment config (written config .anyField) = .anyField := if_pos rfl
  refine ⟨?_, ?_, ?_⟩
  · refine (outcome_read_pair_iff hd hm hmarker' hpolicy hkey hkey').trans ?_
    exact and_iff_left ⟨hfirst.not_isInfix hd', hname⟩
  · refine (outcome_read_pair_iff hd hkey hkey' hpolicy hm hmarker').trans ?_
    exact (and_iff_right hfirst).trans (and_iff_right hfree)
  · exact (outcome_read_operator_iff hd hkey hkey' op).trans (and_iff_right hfirst)

theorem read_of_usable_points :
    Config.fault? { delimiter := ".", anyFieldMarker := "*" } = none ∧
    (∀ op : Operator, op.name ≠ "movie") ∧
    (read { delimiter := ".", anyFieldMarker := "*" } "*.movie").outcome =
      .ok ⟨⟨[.anyField, .key "movie"], List.cons_ne_nil _ _⟩, .exact⟩ := by
  have hconfig : Config.fault? { delimiter := ".", anyFieldMarker := "*" } = none := by decide
  have hname : ∀ op : Operator, op.name ≠ "movie" := fun op ↦ by cases op <;> decide
  refine ⟨hconfig, hname, ?_⟩
  refine (read_of_usable_iff hconfig rfl (by decide) (by simp) hname (by decide) .exact).1.mpr ?_
  exact (Text.firstBehind_iff_pieces (by decide)).mpr (by decide)

/-- None of the three conditions is met by every usable configuration: a marker may end as the
delimiter begins, or be called like an operator, and a delimiter may occur in an operator's name. -/
theorem usable_yet_misread :
    (Config.fault? { anyFieldMarker := "a_" } = none ∧
      (read { anyFieldMarker := "a_" } "a___k").outcome =
        .ok ⟨⟨[.key "a", .key "_k"], List.cons_ne_nil _ _⟩, .exact⟩) ∧
    (Config.fault? { anyFieldMarker := "in" } = none ∧
      (read { anyFieldMarker := "in" } "k__in").outcome =
        .ok ⟨⟨[.key "k"], List.cons_ne_nil _ _⟩, .memberOf⟩) ∧
    (Config.fault? { delimiter := "x" } = none ∧
      (read { delimiter := "x" } "kxexact").outcome =
        .ok ⟨⟨[.key "k", .key "e", .key "act"], List.cons_ne_nil _ _⟩, .exact⟩) :=
  ⟨⟨by decide, rfl⟩, ⟨by decide, rfl⟩, by decide, rfl⟩

end Specifier

end RecordQuery
