/-!
# Occurrences in texts

Whether one text occurs in another as one contiguous part. The other text is read once, and all that
is kept of it is how much of the front of the part it ends with. Where the part goes on differently
from the text, the longest shorter front that the text still ends with is known from the part alone:
it is the longest front, other than the whole, with which what stands there of the part ends. These
*borders* of the fronts of the part are found in the same way, by reading the part.

The time taken is in proportion to the lengths of both texts. That nothing is missed is
`occursIn_iff_infix`.
-/

namespace RecordQuery

namespace Text

/-- How much of the front of a part a text ends with after one more character, if it ended with
`matched` characters of it before. The fuel bounds how often a shorter front is tried, and more than
`matched` suffices. -/
def extendMatch (part : Array Char) (borders : Array Nat) (c : Char) :
    (fuel matched : Nat) → Nat
  | 0, _ => 0
  | fuel + 1, matched =>
    if part[matched]? = some c then matched + 1
    else
      match matched with
      | 0 => 0
      | last + 1 => extendMatch part borders c fuel (borders.getD last 0)

/-- Adds the borders of the fronts that end with each of the given characters, which follow those
whose borders are known. `matched` is the last border. -/
def bordersFrom (part : Array Char) (borders : Array Nat) (matched : Nat) :
    List Char → Array Nat
  | [] => borders
  | c :: rest =>
    let matched := extendMatch part borders c borders.size matched
    bordersFrom part (borders.push matched) matched rest

/-- The borders of the fronts of a part, from the front of one character on. -/
def bordersOf (part : List Char) : Array Nat := bordersFrom part.toArray #[0] 0 part.tail

/-- Whether a part occurs in what has been read and in the given characters after it, and does not
end before these. `matched` is how much of the front of the part has just been read. -/
def occursFrom (part : Array Char) (borders : Array Nat) (matched : Nat) : List Char → Bool
  | [] => matched == part.size
  | c :: rest =>
    matched == part.size
      || occursFrom part borders (extendMatch part borders c part.size matched) rest

/-- Whether a text occurs in another as one contiguous part. -/
def occursIn (part cs : List Char) : Bool :=
  occursFrom part.toArray (bordersOf part) 0 cs

/-! ## Nothing is missed -/

/-- A text ends with so many characters of the front of a part. -/
def EndsWithFront (part : List Char) (k : Nat) (text : List Char) : Prop :=
  k ≤ part.length ∧ part.take k <:+ text

/-- So many characters are the most of the front of a part that a text ends with. -/
def IsLongestFront (part : List Char) (k : Nat) (text : List Char) : Prop :=
  EndsWithFront part k text ∧ ∀ j, EndsWithFront part j text → j ≤ k

/-- The borders of so many fronts of a part are known. A proper end of a front is an end of the
front without its first character. -/
def AreBorders (part : List Char) (borders : Array Nat) (count : Nat) : Prop :=
  ∀ i < count, IsLongestFront part (borders.getD i 0) (part.tail.take i)

theorem endsWithFront_zero (part text : List Char) : EndsWithFront part 0 text :=
  ⟨Nat.zero_le _, List.nil_suffix⟩

theorem EndsWithFront.le_length {part text : List Char} {k : Nat}
    (h : EndsWithFront part k text) : k ≤ text.length := by
  have := h.2.length_le
  rw [List.length_take] at this
  have := h.1
  omega

theorem endsWithFront_append_singleton {part text : List Char} {k : Nat} {c : Char} :
    EndsWithFront part (k + 1) (text ++ [c]) ↔ EndsWithFront part k text ∧ part[k]? = some c := by
  constructor
  · rintro ⟨hk, before, h⟩
    have hlt : k < part.length := hk
    rw [List.take_succ_eq_append_getElem hlt, ← List.append_assoc] at h
    have := List.append_inj' h rfl
    refine ⟨⟨by omega, before, this.1⟩, ?_⟩
    rw [List.getElem?_eq_getElem hlt]
    simpa using this.2
  · rintro ⟨⟨_, before, h⟩, hc⟩
    obtain ⟨hlt, hc⟩ := List.getElem?_eq_some_iff.mp hc
    refine ⟨hlt, before, ?_⟩
    rw [List.take_succ_eq_append_getElem hlt, ← List.append_assoc, h, hc]

/-- The fronts with which a front of a part properly ends are those with which any text ends that
ends with it. -/
theorem endsWithFront_tail_iff {part text : List Char} {j m : Nat}
    (h : EndsWithFront part (m + 1) text) :
    EndsWithFront part j (part.tail.take m) ↔ EndsWithFront part j text ∧ j ≤ m := by
  cases part with
  | nil => exact absurd h.1 (by simp)
  | cons p rest =>
    have hm : m ≤ rest.length := by simpa using h.1
    have hfront : (p :: rest).take (m + 1) = p :: rest.take m := rfl
    constructor
    · intro hj
      have hle := hj.le_length
      rw [List.tail_cons, List.length_take] at hle
      exact ⟨⟨hj.1, hj.2.trans (((List.suffix_cons p _).trans (hfront ▸ List.suffix_refl _)).trans
        h.2)⟩, by omega⟩
    · rintro ⟨hj, hle⟩
      refine ⟨hj.1, ?_⟩
      have hsuffix : (p :: rest).take j <:+ p :: rest.take m := by
        rw [← hfront]
        refine List.suffix_of_suffix_length_le hj.2 h.2 ?_
        simp only [List.length_take, List.length_cons]
        omega
      rcases List.suffix_cons_iff.mp hsuffix with heq | hsuffix
      · have := congrArg List.length heq
        simp only [List.length_take, List.length_cons] at this
        omega
      · exact hsuffix

theorem isLongestFront_extendMatch {part text : List Char} {borders : Array Nat} {count : Nat}
    {c : Char} (hborders : AreBorders part borders count) :
    ∀ (fuel matched : Nat), matched < fuel → matched ≤ count → EndsWithFront part matched text →
      (∀ j, EndsWithFront part j text → part[j]? = some c → j ≤ matched) →
      IsLongestFront part (extendMatch part.toArray borders c fuel matched) (text ++ [c])
  | 0, _, hfuel, _, _, _ => absurd hfuel (Nat.not_lt_zero _)
  | fuel + 1, matched, hfuel, hcount, hends, hmax => by
    unfold extendMatch
    rw [List.getElem?_toArray]
    split
    · rename_i hc
      refine ⟨endsWithFront_append_singleton.mpr ⟨hends, hc⟩, fun j hj ↦ ?_⟩
      cases j with
      | zero => exact Nat.zero_le _
      | succ j =>
        obtain ⟨hj, hjc⟩ := endsWithFront_append_singleton.mp hj
        exact Nat.succ_le_succ (hmax j hj hjc)
    · rename_i hc
      match matched with
      | 0 =>
        refine ⟨endsWithFront_zero _ _, fun j hj ↦ ?_⟩
        cases j with
        | zero => exact Nat.le_refl _
        | succ j =>
          obtain ⟨hj, hjc⟩ := endsWithFront_append_singleton.mp hj
          have := Nat.le_zero.mp (hmax j hj hjc)
          exact absurd (this ▸ hjc) hc
      | last + 1 =>
        have hlongest := hborders last hcount
        have hshorter := (endsWithFront_tail_iff hends).mp hlongest.1
        refine isLongestFront_extendMatch hborders fuel _ (by omega) (by omega) hshorter.1
          fun j hj hjc ↦ hlongest.2 j ((endsWithFront_tail_iff hends).mpr ⟨hj, ?_⟩)
        have hle := hmax j hj hjc
        have hne : j ≠ last + 1 := fun heq ↦ hc (heq ▸ hjc)
        omega

theorem areBorders_bordersFrom {part : List Char} :
    ∀ (rest read : List Char) (borders : Array Nat) (matched : Nat), part.tail = read ++ rest →
      borders.size = read.length + 1 → AreBorders part borders borders.size →
      IsLongestFront part matched read →
      AreBorders part (bordersFrom part.toArray borders matched rest) (part.tail.length + 1)
  | [], read, borders, matched, hread, hsize, hborders, _ => by
    rw [List.append_nil] at hread
    rw [hread, ← hsize]
    exact hborders
  | c :: rest, read, borders, matched, hread, hsize, hborders, hmatched => by
    have hle := hmatched.1.le_length
    have hnext := isLongestFront_extendMatch (c := c) hborders borders.size matched (by omega)
      (by omega) hmatched.1 fun j hj _ ↦ hmatched.2 j hj
    unfold bordersFrom
    refine areBorders_bordersFrom rest (read ++ [c]) _ _ (by simpa using hread) (by simp [hsize])
      (fun i hi ↦ ?_) hnext
    rw [Array.size_push] at hi
    by_cases hlast : i = borders.size
    · subst hlast
      have hfront : part.tail.take borders.size = read ++ [c] := by
        rw [hread, hsize, List.append_cons]
        exact List.take_left' (by simp)
      rw [hfront]
      simpa [Array.getD_eq_getD_getElem?] using hnext
    · have hi : i < borders.size := by omega
      have := hborders i hi
      simpa [Array.getD_eq_getD_getElem?, Array.getElem?_push, hlast] using this

theorem areBorders_bordersOf (part : List Char) :
    AreBorders part (bordersOf part) (part.tail.length + 1) := by
  have hnil : ∀ k, IsLongestFront part k [] ↔ k = 0 := by
    intro k
    constructor
    · exact fun h ↦ Nat.le_zero.mp h.1.le_length
    · rintro rfl
      exact ⟨endsWithFront_zero _ _, fun j hj ↦ hj.le_length⟩
  refine areBorders_bordersFrom part.tail [] #[0] 0 rfl rfl (fun i hi ↦ ?_) ((hnil 0).mpr rfl)
  have : i = 0 := by simpa using hi
  subst this
  simpa using (hnil 0).mpr rfl

theorem occursFrom_iff {part : List Char} {borders : Array Nat}
    (hborders : AreBorders part borders part.length) :
    ∀ (cs text : List Char) (matched : Nat), IsLongestFront part matched text →
      (occursFrom part.toArray borders matched cs = true ↔
        ∃ before after, cs = before ++ after ∧ part <:+ text ++ before) := by
  have hwhole : ∀ {matched text}, IsLongestFront part matched text →
      (matched = part.length ↔ part <:+ text) := by
    intro matched text h
    constructor
    · intro heq
      have := h.1.2
      rwa [heq, List.take_length] at this
    · intro hsuffix
      exact Nat.le_antisymm h.1.1 (h.2 _ ⟨Nat.le_refl _, by rwa [List.take_length]⟩)
  intro cs
  induction cs with
  | nil =>
    intro text matched h
    simp only [occursFrom, List.size_toArray, beq_iff_eq, hwhole h]
    constructor
    · exact fun hsuffix ↦ ⟨[], [], rfl, by simpa using hsuffix⟩
    · rintro ⟨before, after, heq, hsuffix⟩
      have : before = [] := (List.append_eq_nil_iff.mp heq.symm).1
      simpa [this] using hsuffix
  | cons c rest ih =>
    intro text matched h
    simp only [occursFrom, List.size_toArray, Bool.or_eq_true, beq_iff_eq]
    by_cases hfull : matched = part.length
    · simp only [hfull, true_or, true_iff]
      exact ⟨[], c :: rest, rfl, by simpa using (hwhole h).mp hfull⟩
    · have hlt : matched < part.length := Nat.lt_of_le_of_ne h.1.1 hfull
      have hnext := isLongestFront_extendMatch (c := c) hborders part.length matched hlt
        (Nat.le_of_lt hlt) h.1 fun j hj _ ↦ h.2 j hj
      simp only [hfull, false_or, ih _ _ hnext]
      constructor
      · rintro ⟨before, after, rfl, hsuffix⟩
        exact ⟨c :: before, after, rfl, by simpa using hsuffix⟩
      · rintro ⟨before, after, heq, hsuffix⟩
        cases before with
        | nil => exact absurd ((hwhole h).mpr (by simpa using hsuffix)) hfull
        | cons d before =>
          obtain ⟨rfl, rfl⟩ := List.cons.inj heq
          exact ⟨before, after, rfl, by simpa using hsuffix⟩

/-- The search finds a part exactly where it is one. -/
theorem occursIn_iff_infix (part cs : List Char) : occursIn part cs = true ↔ part <:+: cs := by
  have hborders : AreBorders part (bordersOf part) part.length := fun i hi ↦
    areBorders_bordersOf part i (by rw [List.length_tail]; omega)
  have hstart : IsLongestFront part 0 [] := ⟨endsWithFront_zero _ _, fun j hj ↦ hj.le_length⟩
  rw [occursIn, occursFrom_iff hborders cs [] 0 hstart]
  constructor
  · rintro ⟨before, after, rfl, front, h⟩
    exact ⟨front, after, by rw [h, List.nil_append]⟩
  · rintro ⟨front, after, rfl⟩
    exact ⟨front ++ part, after, rfl, by simp⟩

end Text

end RecordQuery
