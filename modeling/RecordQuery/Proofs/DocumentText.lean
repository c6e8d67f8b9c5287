import RecordQuery.Json.Writer
import RecordQuery.Proofs.Documents

/-!
# Reading back what was written

A document is written by putting its text in front of what follows, and read by taking it off
again. The reader gives back the document and leaves what follows, wherever the writer put the text;
hence the text of a document denotes that document. The only exceptions are doubles, whose last
place the reader may miss, and documents that nest deeper than the reader grants.

## What may follow

An array, an object, a text or a word says itself where it ends. A number does not: it ends where
the text goes on with a character that cannot continue it. Inside a document that is a comma or a
closing bracket, so the statements about readers ask for such a rest (`Stops`), and every place at
which a writer puts a document has one.
-/

namespace RecordQuery

namespace Json

/-! ## Whole numbers -/

/-- A number ends before a character that cannot continue it: one that is no digit, no point and no
mark of an exponent. -/
def EndsNumeral (c : Char) : Prop := c.isDigit = false ∧ c ≠ '.' ∧ c ≠ 'e' ∧ c ≠ 'E'

instance (c : Char) : Decidable (EndsNumeral c) := inferInstanceAs (Decidable (_ ∧ _))

/-- A text that does not continue a number in front of it. -/
def Stops (rest : List Char) : Prop := ∀ c ∈ rest.head?, EndsNumeral c

variable {rest : List Char}

@[simp] theorem stops_nil : Stops [] := nofun

@[simp] theorem stops_cons {c : Char} : Stops (c :: rest) ↔ EndsNumeral c := by
  simp [Stops]

theorem takeFitting_of_stops (h : Stops rest) (n : Nat) : takeFitting n rest = (n, 0, rest) := by
  cases rest with
  | nil => rfl
  | cons c rest =>
    rw [takeFitting, if_neg]
    rintro ⟨hdigit, -⟩
    exact absurd hdigit (by simp [(stops_cons.mp h).1])

theorem le_ofDigitChars (digits : List Char) (n : Nat) : n ≤ Nat.ofDigitChars 10 digits n := by
  rw [Nat.ofDigitChars_eq_ofDigitChars_zero]
  have hpow : 0 < 10 ^ digits.length := Nat.pow_pos (by decide)
  exact Nat.le_trans (Nat.le_mul_of_pos_left n hpow) (Nat.le_add_right ..)

theorem takeFitting_append {digits : List Char} (hdigits : ∀ c ∈ digits, c.isDigit = true)
    (hrest : Stops rest) {n : Nat} (hfits : Nat.ofDigitChars 10 digits n < Nat.pow 2 64) :
    takeFitting n (digits ++ rest) = (Nat.ofDigitChars 10 digits n, digits.length, rest) := by
  induction digits generalizing n with
  | nil => exact takeFitting_of_stops hrest n
  | cons c digits ih =>
    obtain ⟨hc, hdigits⟩ := List.forall_mem_cons.mp hdigits
    rw [Nat.ofDigitChars_cons] at hfits ⊢
    -- The first digits spell no more than all of them do, so no digit is refused on the way.
    have hstep : 10 * n + Digits.digit c < Nat.pow 2 64 :=
      Nat.lt_of_le_of_lt (le_ofDigitChars digits _) hfits
    rw [List.cons_append, takeFitting, if_pos ⟨hc, hstep⟩, Digits.digit, ih hdigits hfits]
    rfl

theorem dropWhile_of_stops (h : Stops rest) : rest.dropWhile Char.isDigit = rest := by
  cases rest with
  | nil => rfl
  | cons c rest => rw [List.dropWhile_cons_of_neg (by simp [(stops_cons.mp h).1])]

theorem finishLiteral_of_stops (h : Stops rest) (n : Nat) :
    finishLiteral n none rest = .ok (⟨n, none⟩, rest) := by
  cases rest with
  | nil => rfl
  | cons c rest =>
    obtain ⟨-, -, he, hE⟩ := stops_cons.mp h
    rw [finishLiteral, if_neg (by simp [he, hE])]

theorem afterWhole_of_stops (h : Stops rest) (n : Nat) :
    afterWhole n 0 rest = .ok (⟨n, none⟩, rest) := by
  rw [afterWhole]
  · exact finishLiteral_of_stops h n
  · rintro rest rfl
    exact (stops_cons.mp h).2.1 rfl

/-- The text of a number is not padded with zeros. -/
theorem exists_toDigits_eq_cons {n : Nat} (h : n ≠ 0) :
    ∃ d digits, Nat.toDigits 10 n = d :: digits ∧ d ≠ '0' := by
  induction n using Nat.strongRecOn with
  | ind n ih =>
    -- A number of several digits starts as it does without the last of them.
    rw [Nat.toDigits_eq_if (by decide)]
    split
    · exact ⟨n.digitChar, [], rfl, mt Nat.digitChar_eq_zero.mp h⟩
    · obtain ⟨d, digits, heq, hd⟩ := ih (n / 10) (by omega) (by omega)
      exact ⟨d, digits ++ [(n % 10).digitChar], by rw [heq]; rfl, hd⟩

theorem isDigit_of_mem_toDigits {n : Nat} : ∀ c ∈ Nat.toDigits 10 n, c.isDigit = true :=
  fun _ ↦ Nat.isDigit_of_mem_toDigits (by decide) (by decide)

theorem exists_digit_cons (n : Nat) :
    ∃ d digits, Nat.toDigits 10 n = d :: digits ∧ d.isDigit = true := by
  obtain ⟨d, digits, heq⟩ := List.exists_cons_of_ne_nil (Nat.toDigits_ne_nil (n := n) (b := 10))
  exact ⟨d, digits, heq, isDigit_of_mem_toDigits d (by rw [heq]; exact .head _)⟩

theorem unsignedLiteral_toDigits {n : Nat} (h : n < Nat.pow 2 64) (hrest : Stops rest) :
    unsignedLiteral (Nat.toDigits 10 n ++ rest) = .ok (⟨n, none⟩, rest) := by
  -- A zero is read apart, since no digit may follow it.
  by_cases hn : n = 0
  · subst hn
    rw [Nat.toDigits_zero, List.singleton_append, unsignedLiteral.eq_def]
    cases rest with
    | nil => rfl
    | cons c rest =>
      simp only [(stops_cons.mp hrest).1]
      exact afterWhole_of_stops hrest 0
  · obtain ⟨d, digits, heq, hd⟩ := exists_toDigits_eq_cons hn
    have hvalue : Nat.ofDigitChars 10 (Nat.toDigits 10 n) 0 = n := Nat.ofDigitChars_ten_toDigits
    have htake := takeFitting_append isDigit_of_mem_toDigits hrest (hvalue.symm ▸ h)
    have hdigit : d.isDigit = true := isDigit_of_mem_toDigits d (by rw [heq]; exact .head _)
    rw [hvalue, heq, List.cons_append] at htake
    rw [heq, List.cons_append, unsignedLiteral, if_pos hdigit, htake]
    · dsimp only
      rw [dropWhile_of_stops hrest, Nat.sub_self, afterWhole_of_stops hrest]
    · rintro rfl
      exact hd rfl

/-- The numbers of a document that are whole. -/
inductive Numeral.IsWord : Numeral → Prop
  /-- A natural number. -/
  | natural (n : UInt64) : IsWord (.natural n)
  /-- A negative integer. -/
  | negative (n : Fin (Nat.pow 2 63)) : IsWord (.negative n)

/-- What opens a number is neither a blank nor a closing bracket, and opens nothing else. -/
theorem ne_of_opens_number {c : Char} (h : c = '-' ∨ c.isDigit = true) :
    ∀ d ∈ [' ', '\n', '\t', '\r', 'n', 't', 'f', '"', '[', '{', ']'], c ≠ d := by
  have hnone : ∀ d ∈ [' ', '\n', '\t', '\r', 'n', 't', 'f', '"', '[', '{', ']'],
      ¬(d = '-' ∨ d.isDigit = true) := by simp
  rintro d hd rfl
  exact hnone c hd h

theorem Numeral.IsWord.exists_text_eq_cons {n : Numeral} (h : n.IsWord) :
    ∃ c cs, n.text = c :: cs ∧ (c = '-' ∨ c.isDigit = true) := by
  cases h with
  | natural n =>
    obtain ⟨d, digits, heq, hdigit⟩ := exists_digit_cons n.toNat
    exact ⟨d, digits, heq, .inr hdigit⟩
  | negative n => exact ⟨_, _, rfl, .inl rfl⟩

theorem readNumeral_text {n : Numeral} (hn : n.IsWord) (hrest : Stops rest) :
    readNumeral (n.text ++ rest) = .ok (n, rest) := by
  cases hn with
  | natural n =>
    have hliteral := unsignedLiteral_toDigits n.toNat_lt hrest
    obtain ⟨d, digits, heq, hdigit⟩ := exists_digit_cons n.toNat
    rw [heq, List.cons_append] at hliteral
    rw [Numeral.text, heq, List.cons_append, readNumeral]
    · dsimp only
      rw [hliteral]
      have hvalue : integer? false n.toNat = some (.natural n) := by
        rw [integer?, if_neg (by decide), UInt64.ofNat_toNat]
      simp [Literal.value?, hvalue, bind, Except.bind]
    · rintro rest ⟨⟩
      exact absurd hdigit (by decide)
  | negative n =>
    have hlt : n.val + 1 < Nat.pow 2 64 := by
      have := n.isLt
      simp only [Nat.pow_eq] at this ⊢
      omega
    rw [Numeral.text, List.cons_append, readNumeral]
    dsimp only
    rw [unsignedLiteral_toDigits hlt hrest]
    have hvalue : integer? true (n + 1) = some (.negative n) := by
      rw [integer?, if_pos rfl, dif_pos ⟨Nat.succ_pos _, n.isLt⟩]
      rfl
    simp [Literal.value?, hvalue, bind, Except.bind]

/-! ## Texts -/

/-- A character is written in one of three ways: behind a backslash by a letter that stands for it,
behind a backslash by its number, or as itself. -/
theorem escaped_cases (c : Char) :
    (∃ e, e ≠ 'u' ∧ letterEscape? e = some c ∧ escaped c = ['\\', e]) ∨
    (c.toNat < 0x20 ∧ escaped c = '\\' :: 'u' :: Hexadecimal.padded 4 c.toNat) ∨
    (c ≠ '"' ∧ c ≠ '\\' ∧ ¬ c.toNat < 0x20 ∧ escaped c = [c]) := by
  unfold escaped
  repeat
    split
    · subst_vars
      exact .inl ⟨_, by decide, rfl, rfl⟩
  split
  · exact .inr (.inl ⟨‹_›, rfl⟩)
  · exact .inr (.inr ⟨‹_›, ‹_›, ‹_›, rfl⟩)

theorem readUnit_padded {n : Nat} (h : n < 0x20) (rest : List Char) :
    readUnit (Hexadecimal.padded 4 n ++ rest) = .ok (n, rest) := by
  have hdigits : ∀ n < 0x20, (Hexadecimal.padded 4 n).length = 4 ∧
      Hexadecimal.value? (Hexadecimal.padded 4 n) = some n := by decide
  obtain ⟨hlength, hvalue⟩ := hdigits n h
  match Hexadecimal.padded 4 n, hlength, hvalue with
  | [a, b, c, d], _, hvalue =>
    simp only [List.cons_append, List.nil_append, readUnit, hvalue]

theorem readChars_escaped (fuel : Nat) (c : Char) (rest : List Char) :
    readChars (fuel + 1) (escaped c ++ rest) = (do
      let (cs, rest) ← readChars fuel rest
      .ok (c :: cs, rest)) := by
  rcases escaped_cases c with ⟨e, hu, hletter, heq⟩ | ⟨hlt, heq⟩ | ⟨hquote, hslash, hlt, heq⟩
  · have hescape : readEscape (e :: rest) = .ok (c, rest) := by
      rw [readEscape, hletter]
      exact hu
    rw [heq, List.cons_append, List.singleton_append, readChars, if_neg (by decide), if_pos rfl,
      hescape]
    rfl
  · have hescape : readEscape ('u' :: (Hexadecimal.padded 4 c.toNat ++ rest)) = .ok (c, rest) := by
      rw [readEscape, readUnit_padded hlt]
      have hsmall : c.toNat < 0xD800 ∨ 0xDFFF < c.toNat := by omega
      simp only [bind, Except.bind, if_pos hsmall, Char.ofNat_toNat]
    rw [heq, List.cons_append, List.cons_append, readChars, if_neg (by decide), if_pos rfl, hescape]
    rfl
  · rw [heq, List.singleton_append, readChars, if_neg hquote, if_neg hslash, if_neg hlt]

theorem readChars_writeChars {fuel : Nat} {cs : List Char} (h : cs.length < fuel)
    (rest : List Char) : readChars fuel (writeChars cs rest) = .ok (cs, rest) := by
  induction cs generalizing fuel with
  | nil =>
    cases fuel with
    | zero => cases h
    | succ fuel => rfl
  | cons c cs ih =>
    cases fuel with
    | zero => cases h
    | succ fuel =>
      rw [writeChars, readChars_escaped, ih (Nat.lt_of_succ_lt_succ h)]
      rfl

theorem length_lt_writeChars (cs rest : List Char) :
    cs.length + rest.length < (writeChars cs rest).length := by
  induction cs with
  | nil => simp [writeChars]
  | cons c cs ih =>
    have hpos : 0 < (escaped c).length := by
      rcases escaped_cases c with ⟨e, -, -, heq⟩ | ⟨-, heq⟩ | ⟨-, -, -, heq⟩ <;> simp [heq]
    rw [writeChars, List.length_append, List.length_cons]
    omega

theorem readText_writeChars (s : String) (rest : List Char) :
    readText (writeChars s.toList rest) = .ok (s, rest) := by
  have hfuel := length_lt_writeChars s.toList rest
  rw [readText, readChars_writeChars (by omega)]
  simp only [bind, Except.bind, String.ofList_toList]

/-! ## Lengths

The loops over items and members have the length of the text as their fuel. Every item and every
member writes a character of its own, so the fuel suffices. -/

theorem length_le_writeText (s : String) (rest : List Char) :
    rest.length ≤ (writeText s rest).length := by
  have := length_lt_writeChars s.toList rest
  rw [writeText, List.length_cons]
  omega

theorem length_le_writeMoreItems {items : List Json}
    (h : ∀ j ∈ items, ∀ rest, rest.length ≤ (j.write rest).length) (rest : List Char) :
    items.length + rest.length ≤ (writeMoreItems items rest).length := by
  induction items with
  | nil => exact Nat.le_of_eq (Nat.zero_add _)
  | cons j items ih =>
    obtain ⟨hj, h⟩ := List.forall_mem_cons.mp h
    have hitem := hj (writeMoreItems items rest)
    have hmore := ih h
    rw [writeMoreItems, List.length_cons, List.length_cons]
    omega

theorem length_le_writeMoreMembers {members : List (String × Json)}
    (h : ∀ m ∈ members, ∀ rest, rest.length ≤ (m.2.write rest).length) (rest : List Char) :
    members.length + rest.length ≤ (writeMoreMembers members rest).length := by
  induction members with
  | nil => exact Nat.le_of_eq (Nat.zero_add _)
  | cons m members ih =>
    obtain ⟨name, j⟩ := m
    obtain ⟨hj, h⟩ := List.forall_mem_cons.mp h
    have hname := length_le_writeText name (':' :: j.write (writeMoreMembers members rest))
    have hvalue : _ ≤ (j.write (writeMoreMembers members rest)).length := hj _
    have hmore := ih h
    rw [List.length_cons] at hname
    rw [writeMoreMembers, List.length_cons, List.length_cons]
    omega

theorem length_le_writeItems {items : List Json}
    (h : ∀ j ∈ items, ∀ rest, rest.length ≤ (j.write rest).length) (rest : List Char) :
    items.length + rest.length ≤ (writeItems items rest).length + 1 := by
  cases items with
  | nil => rw [writeItems, List.length_nil]; omega
  | cons j items =>
    obtain ⟨hj, h⟩ := List.forall_mem_cons.mp h
    have hitem := hj (writeMoreItems items rest)
    have hmore := length_le_writeMoreItems h rest
    rw [writeItems, List.length_cons]
    omega

theorem length_le_writeMembers {members : List (String × Json)}
    (h : ∀ m ∈ members, ∀ rest, rest.length ≤ (m.2.write rest).length) (rest : List Char) :
    members.length + rest.length ≤ (writeMembers members rest).length + 1 := by
  cases members with
  | nil => rw [writeMembers, List.length_nil]; omega
  | cons m members =>
    obtain ⟨name, j⟩ := m
    obtain ⟨hj, h⟩ := List.forall_mem_cons.mp h
    have hname := length_le_writeText name (':' :: j.write (writeMoreMembers members rest))
    have hvalue : _ ≤ (j.write (writeMoreMembers members rest)).length := hj _
    have hmore := length_le_writeMoreMembers h rest
    rw [List.length_cons] at hname
    rw [writeMembers, List.length_cons]
    omega

theorem length_le_write (j : Json) (rest : List Char) : rest.length ≤ (j.write rest).length := by
  induction j using induct generalizing rest with
  | null => exact (List.suffix_append ..).length_le
  | bool b => exact (List.suffix_append ..).length_le
  | number n => exact (List.suffix_append ..).length_le
  | text s => exact length_le_writeText s rest
  | array items ih =>
    have hitems := length_le_writeItems ih (']' :: rest)
    rw [List.length_cons] at hitems
    rw [write, List.length_cons]
    omega
  | object members ih =>
    have hmembers := length_le_writeMembers ih ('}' :: rest)
    rw [List.length_cons] at hmembers
    rw [write, List.length_cons]
    omega

/-! ## Items and members -/

/-- A reader that gives back a document wherever it is written. -/
def ReadsBack (reader : Reader Json) (j : Json) : Prop :=
  ∀ rest, Stops rest → reader (j.write rest) = .ok (j, rest)

/-- The text of a document starts with neither a blank nor a closing bracket. -/
def Opens (j : Json) : Prop := ∀ rest, ∃ c cs, j.write rest = c :: cs ∧ isBlank c = false ∧ c ≠ ']'

@[simp] theorem skipBlanks_cons {c : Char} (h : isBlank c = false) (rest : List Char) :
    skipBlanks (c :: rest) = c :: rest := by
  rw [skipBlanks, List.dropWhile_cons_of_neg (by simp [h])]

theorem readItemsFrom_write {reader : Reader Json} {j : Json} {items : List Json}
    (h : ∀ j' ∈ j :: items, ReadsBack reader j') {fuel : Nat} (hfuel : items.length < fuel)
    (rest : List Char) :
    readItemsFrom reader fuel (j.write (writeMoreItems items (']' :: rest))) =
      .ok (j :: items, rest) := by
  induction items generalizing j fuel with
  | nil =>
    obtain ⟨hj, -⟩ := List.forall_mem_cons.mp h
    cases fuel with
    | zero => cases hfuel
    | succ fuel =>
      rw [writeMoreItems, readItemsFrom, hj _ (stops_cons.mpr (by decide))]
      rfl
  | cons j' items ih =>
    obtain ⟨hj, h⟩ := List.forall_mem_cons.mp h
    cases fuel with
    | zero => cases hfuel
    | succ fuel =>
      have hrest := ih h (Nat.lt_of_succ_lt_succ hfuel)
      rw [writeMoreItems, readItemsFrom, hj _ (stops_cons.mpr (by decide))]
      simp only [bind, Except.bind, skipBlanks_cons (c := ',') rfl, hrest]

theorem readItems_write {reader : Reader Json} {items : List Json}
    (h : ∀ j ∈ items, ReadsBack reader j) (hopens : ∀ j ∈ items, Opens j) (rest : List Char) :
    readItems reader (writeItems items (']' :: rest)) = .ok (items, rest) := by
  cases items with
  | nil => rfl
  | cons j items =>
    have hlength := @length_le_writeItems (j :: items) (fun j _ ↦ length_le_write j) (']' :: rest)
    have hfuel : items.length < (writeItems (j :: items) (']' :: rest)).length + 1 := by
      rw [List.length_cons] at hlength
      omega
    have hread := readItemsFrom_write h hfuel rest
    rw [writeItems] at hread ⊢
    obtain ⟨c, cs, heq, hblank, hbracket⟩ := hopens j (.head _) (writeMoreItems items (']' :: rest))
    rw [heq] at hread ⊢
    rw [readItems, skipBlanks_cons hblank]
    split
    · rename_i heq
      exact absurd (List.cons.inj heq).1 hbracket
    · exact hread

theorem readMember_write {reader : Reader Json} {j : Json} (h : ReadsBack reader j) (name : String)
    {rest : List Char} (hrest : Stops rest) :
    readMember readText (fun _ ↦ reader) (writeText name (':' :: j.write rest)) =
      .ok ((name, j), rest) := by
  have hcolon : skipBlanks (':' :: j.write rest) = ':' :: j.write rest := skipBlanks_cons rfl _
  rw [writeText, readMember, skipBlanks_cons rfl]
  simp only [bind, Except.bind, readText_writeChars, hcolon, h rest hrest]

theorem readMembersFrom_write {reader : Reader Json} {name : String} {j : Json}
    {members : List (String × Json)} (h : ∀ m ∈ (name, j) :: members, ReadsBack reader m.2)
    {fuel : Nat} (hfuel : members.length < fuel) (rest : List Char) :
    readMembersFrom readText (fun _ ↦ reader) fuel
        (writeText name (':' :: j.write (writeMoreMembers members ('}' :: rest)))) =
      .ok ((name, j) :: members, rest) := by
  induction members generalizing name j fuel with
  | nil =>
    obtain ⟨hj, -⟩ := List.forall_mem_cons.mp h
    cases fuel with
    | zero => cases hfuel
    | succ fuel =>
      rw [writeMoreMembers, readMembersFrom, readMember_write hj name (stops_cons.mpr (by decide))]
      rfl
  | cons m members ih =>
    obtain ⟨name', j'⟩ := m
    obtain ⟨hj, h⟩ := List.forall_mem_cons.mp h
    cases fuel with
    | zero => cases hfuel
    | succ fuel =>
      have hrest := ih h (Nat.lt_of_succ_lt_succ hfuel)
      rw [writeMoreMembers, readMembersFrom, readMember_write hj name (stops_cons.mpr (by decide))]
      simp only [bind, Except.bind, skipBlanks_cons (c := ',') rfl, hrest]

theorem readMembers_write {reader : Reader Json} {members : List (String × Json)}
    (h : ∀ m ∈ members, ReadsBack reader m.2) (rest : List Char) :
    readMembers readText (fun _ ↦ reader) (writeMembers members ('}' :: rest)) =
      .ok (members, rest) := by
  cases members with
  | nil => rfl
  | cons m members =>
    obtain ⟨name, j⟩ := m
    have hlength := @length_le_writeMembers ((name, j) :: members)
      (fun m _ ↦ length_le_write m.2) ('}' :: rest)
    have hfuel :
        members.length < (writeMembers ((name, j) :: members) ('}' :: rest)).length + 1 := by
      rw [List.length_cons] at hlength
      omega
    have hread := readMembersFrom_write h hfuel rest
    rw [writeMembers, writeText] at hread ⊢
    rw [readMembers, skipBlanks_cons rfl]
    exact hread

/-! ## Documents -/

/-- A document whose numbers are words, and whose arrays and objects nest at most so many levels. -/
inductive Fits : Nat → Json → Prop
  /-- The word `null` has no levels. -/
  | null {levels : Nat} : Fits levels .null
  /-- The words `true` and `false` have no levels. -/
  | bool {levels : Nat} (b : Bool) : Fits levels (.bool b)
  /-- A number has no levels, and has to be a word. -/
  | number {levels : Nat} {n : Numeral} (h : n.IsWord) : Fits levels (.number n)
  /-- A text has no levels. -/
  | text {levels : Nat} (s : String) : Fits levels (.text s)
  /-- An array is a level above its items. -/
  | array {levels : Nat} {items : List Json} (h : ∀ j ∈ items, Fits levels j) :
    Fits (levels + 1) (.array items)
  /-- An object is a level above the values of its members. -/
  | object {levels : Nat} {members : List (String × Json)} (h : ∀ m ∈ members, Fits levels m.2) :
    Fits (levels + 1) (.object members)

theorem Fits.opens {levels : Nat} {j : Json} (h : Fits levels j) : Opens j := by
  intro rest
  cases h with
  | null => exact ⟨_, _, rfl, by decide, by decide⟩
  | bool b => cases b <;> exact ⟨_, _, rfl, by decide, by decide⟩
  | number hn =>
    obtain ⟨c, cs, heq, hc⟩ := hn.exists_text_eq_cons
    have hne := ne_of_opens_number hc
    refine ⟨c, cs ++ rest, ?_, by simp [isBlank, hne], hne _ (by decide)⟩
    rw [write, heq, List.cons_append]
  | text s => exact ⟨_, _, rfl, by decide, by decide⟩
  | array => exact ⟨_, _, rfl, by decide, by decide⟩
  | object => exact ⟨_, _, rfl, by decide, by decide⟩

section OneOf

variable {inner? : Option (Reader Json)}

theorem readOneOf_quote : readOneOf inner? ('"' :: rest) = (do
    let (s, rest) ← readText rest
    .ok (.text s, rest)) := rfl

theorem readOneOf_bracket {inner : Reader Json} : readOneOf (some inner) ('[' :: rest) = (do
    let (items, rest) ← readItems inner rest
    .ok (.array items, rest)) := rfl

theorem readOneOf_brace {inner : Reader Json} : readOneOf (some inner) ('{' :: rest) = (do
    let (members, rest) ← readMembers readText (fun _ ↦ inner) rest
    .ok (.object members, rest)) := rfl

theorem readOneOf_numeral {c : Char} (h : c = '-' ∨ c.isDigit = true) :
    readOneOf inner? (c :: rest) = (do
      let (n, rest) ← readNumeral (c :: rest)
      .ok (.number n, rest)) := by
  have hne := ne_of_opens_number h
  have hblank : isBlank c = false := by simp [isBlank, hne]
  rw [readOneOf, skipBlanks_cons hblank]
  split <;> rename_i heq <;> cases heq
  case h_8 => exact if_pos h
  all_goals exact absurd rfl (hne _ (by decide))

end OneOf

/-- A reader that grants enough levels gives back a document wherever it is written. -/
theorem Fits.readsBack {levels : Nat} {j : Json} (h : Fits levels j) :
    ReadsBack (readValue levels) j := by
  -- What has no levels is read alike whether levels are granted or not.
  have hreader : ∀ levels, ∃ inner?, readValue levels = readOneOf inner? := by
    rintro (_ | levels) <;> exact ⟨_, rfl⟩
  intro rest hrest
  induction h generalizing rest with
  | @null levels =>
    obtain ⟨inner?, heq⟩ := hreader levels
    rw [heq]
    rfl
  | @bool levels b =>
    obtain ⟨inner?, heq⟩ := hreader levels
    rw [heq]
    cases b <;> rfl
  | @number levels n hn =>
    obtain ⟨inner?, heq⟩ := hreader levels
    obtain ⟨c, cs, htext, hc⟩ := hn.exists_text_eq_cons
    have hread := readNumeral_text hn hrest
    rw [htext, List.cons_append] at hread
    rw [heq, write, htext, List.cons_append, readOneOf_numeral hc, hread]
    rfl
  | @text levels s =>
    obtain ⟨inner?, heq⟩ := hreader levels
    rw [heq, write, writeText, readOneOf_quote, readText_writeChars]
    rfl
  | @array levels items h ih =>
    have hopens : ∀ j ∈ items, Opens j := fun j hj ↦ (h j hj).opens
    rw [readValue, write, readOneOf_bracket, readItems_write ih hopens]
    rfl
  | @object levels members h ih =>
    rw [readValue, write, readOneOf_brace, readMembers_write ih]
    rfl

/-- The text of a document denotes that document. -/
theorem read_toText {j : Json} (h : Fits levelsGranted j) : read j.toText = .ok j := by
  rw [read, readAll, toText, String.toList_ofList, h.readsBack [] stops_nil]
  rfl

end Json

end RecordQuery
