import RecordQuery.Unicode.Property

/-!
# Breaks between written signs

The classes of characters by which the Unicode standard divides a text into the signs that a user
sees, for version 16. Most rest on categories and properties; the letters of the Korean script are
told by their places among the code points.

Classes are asked for by their short and long names, normalised as for categories. The class of the
characters that are in no other one cannot be asked for.
-/

namespace RecordQuery

/-- The classes of characters that matter to breaks between written signs. -/
inductive GraphemeBreak where
  /-- The carriage return. -/
  | carriageReturn
  /-- The line feed. -/
  | lineFeed
  /-- Controls and formats that break on both sides. -/
  | control
  /-- Characters that extend what stands before them. -/
  | extend
  /-- The joiner without width. -/
  | joiner
  /-- Letters that spell flags in pairs. -/
  | regionalIndicator
  /-- Characters that belong to what stands after them. -/
  | prepend
  /-- Marks with a width of their own. -/
  | spacingMark
  /-- Leading consonants of Korean syllables. -/
  | leading
  /-- Vowels of Korean syllables. -/
  | vowel
  /-- Trailing consonants of Korean syllables. -/
  | trailing
  /-- Korean syllables without a trailing consonant. -/
  | openSyllable
  /-- Korean syllables with a trailing consonant. -/
  | closedSyllable
  deriving DecidableEq, Repr

namespace GraphemeBreak

/-! ## Tables that complete the categories -/

/-- Letters that are shown before or above the letter after them, besides the marks that span what
they precede. -/
private def precedingLetter : CodePoints := .ofAscending
  [⟨0xD4E, 0xD4E⟩, ⟨0x111C2, 0x111C3⟩, ⟨0x113D1, 0x113D1⟩, ⟨0x1193F, 0x1193F⟩, ⟨0x11941, 0x11941⟩,
   ⟨0x11A3A, 0x11A3A⟩, ⟨0x11A84, 0x11A89⟩, ⟨0x11D46, 0x11D46⟩, ⟨0x11F02, 0x11F02⟩]

/-- Marks with a width of their own that form a sign by themselves. -/
private def separateMark : CodePoints := .ofAscending
  [⟨0x102B, 0x102C⟩, ⟨0x1038, 0x1038⟩, ⟨0x1062, 0x1064⟩, ⟨0x1067, 0x106D⟩, ⟨0x1083, 0x1083⟩,
   ⟨0x1087, 0x108C⟩, ⟨0x108F, 0x108F⟩, ⟨0x109A, 0x109C⟩, ⟨0x1A61, 0x1A61⟩, ⟨0x1A63, 0x1A64⟩,
   ⟨0xAA7B, 0xAA7B⟩, ⟨0xAA7D, 0xAA7D⟩, ⟨0x11720, 0x11721⟩]

/-- Leading consonants of Korean syllables. -/
private def leadingConsonant : CodePoints := .ofAscending
  [⟨0x1100, 0x115F⟩, ⟨0xA960, 0xA97C⟩]

/-- Vowels of Korean syllables, and those of another script that behave like them. -/
private def syllableVowel : CodePoints := .ofAscending
  [⟨0x1160, 0x11A7⟩, ⟨0xD7B0, 0xD7C6⟩, ⟨0x16D63, 0x16D63⟩, ⟨0x16D67, 0x16D6A⟩]

/-- Trailing consonants of Korean syllables. -/
private def trailingConsonant : CodePoints := .ofAscending
  [⟨0x11A8, 0x11FF⟩, ⟨0xD7CB, 0xD7FB⟩]

/-- Korean syllables. -/
private def syllable : CodePoints := .ofAscending
  [⟨0xAC00, 0xD7A3⟩]

/-! ## Membership -/

/-- Characters that extend what stands before them. -/
def extenders : CodePoints := Property.graphemeExtender.union Property.emojiModifier

/-- Controls, formats, and code points that will be such, as far as they break. -/
private def breakingControl : CodePoints :=
  (CodePoints.union
      (Category.membersOf [.lineSeparator, .paragraphSeparator, .control, .format])
      (Category.unassigned.members.inter Property.defaultIgnorable)).diff
    (.unionOf [Property.prependedMark, extenders, .single '\r', .single '\n', .single '\u200D'])

/-- Korean syllables without a trailing consonant: of those with the same consonant and vowel in
front, which are 28, they are the first. -/
private def openSyllables : CodePoints :=
  .ofAscending ((Stretch.mk 0xAC00 0xD7A3 28).ranges)

/-- The members of a class. -/
def members : GraphemeBreak → CodePoints
  | carriageReturn => .single '\r'
  | lineFeed => .single '\n'
  | control => breakingControl
  | extend => extenders
  | joiner => .single '\u200D'
  | regionalIndicator => Property.regionalIndicator
  | prepend => Property.prependedMark.union precedingLetter
  | spacingMark =>
    .unionOf [Category.spacingMark.members.diff (extenders.union separateMark),
      .single '\u0E33', .single '\u0EB3']
  | leading => leadingConsonant
  | vowel => syllableVowel
  | trailing => trailingConsonant
  | openSyllable => openSyllables
  | closedSyllable => syllable.diff openSyllables

/-! ## Names -/

/-- Normalised names of the classes. -/
def named : List (List String × GraphemeBreak) :=
  [(["cr"], carriageReturn),
   (["lf"], lineFeed),
   (["cn", "control"], control),
   (["ex", "extend"], extend),
   (["zwj"], joiner),
   (["ri", "regionalindicator"], regionalIndicator),
   (["pp", "prepend"], prepend),
   (["sm", "spacingmark"], spacingMark),
   (["l"], leading),
   (["v"], vowel),
   (["t"], trailing),
   (["lv"], openSyllable),
   (["lvt"], closedSyllable)]

/-- The class with a normalised name. -/
def named? (name : String) : Option GraphemeBreak :=
  (named.find? (·.1.contains name)).map (·.2)

end GraphemeBreak

end RecordQuery
