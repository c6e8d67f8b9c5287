import RecordQuery.Unicode.GraphemeBreak
import RecordQuery.Unicode.Script

/-!
# Breaks between words

The classes of characters by which the Unicode standard divides a text into words, for version 16.
They rest on categories, properties and scripts, with short tables of exceptions. Names are as for
the classes of breaks between written signs.
-/

namespace RecordQuery

/-- The classes of characters that matter to breaks between words. -/
inductive WordBreak where
  /-- The carriage return. -/
  | carriageReturn
  /-- The line feed. -/
  | lineFeed
  /-- Other ends of lines. -/
  | newline
  /-- Characters that extend what stands before them. -/
  | extend
  /-- The joiner without width. -/
  | joiner
  /-- Letters that spell flags in pairs. -/
  | regionalIndicator
  /-- Formats. -/
  | format
  /-- Katakana and what is used with them. -/
  | katakana
  /-- Hebrew letters. -/
  | hebrewLetter
  /-- Other letters of scripts that set spaces between words. -/
  | letter
  /-- The straight single quotation mark. -/
  | singleQuote
  /-- The straight double quotation mark. -/
  | doubleQuote
  /-- Punctuation inside numbers or words. -/
  | midNumberOrLetter
  /-- Punctuation inside words. -/
  | midLetter
  /-- Punctuation inside numbers. -/
  | midNumber
  /-- Digits and what is used with them. -/
  | numeric
  /-- Characters that connect letters and digits. -/
  | connector
  /-- Spaces that separate. -/
  | space
  deriving DecidableEq, Repr

namespace WordBreak

/-! ## Tables that complete the categories -/

/-- Ends of lines besides carriage returns and line feeds. -/
private def otherLineEnd : CodePoints := .ofAscending
  [⟨0xB, 0xC⟩, ⟨0x85, 0x85⟩, ⟨0x2028, 0x2029⟩]

/-- Spaces that do not separate. -/
private def fixedSpace : CodePoints := .ofAscending
  [⟨0xA0, 0xA0⟩, ⟨0x2007, 0x2007⟩, ⟨0x202F, 0x202F⟩]

/-- Characters that are used with Katakana besides those of the script. -/
private def katakanaMark : CodePoints := .ofAscending
  [⟨0x3031, 0x3035⟩, ⟨0x309B, 0x309C⟩, ⟨0x30A0, 0x30A0⟩, ⟨0x30FC, 0x30FC⟩, ⟨0xFF70, 0xFF70⟩]

/-- Modifiers and punctuation used as letters are. -/
private def letterLike : CodePoints := .ofAscending
  [⟨0x2C2, 0x2C5⟩, ⟨0x2D2, 0x2D7⟩, ⟨0x2DE, 0x2DF⟩, ⟨0x2E5, 0x2EB⟩, ⟨0x2ED, 0x2ED⟩, ⟨0x2EF, 0x2FF⟩,
   ⟨0x55A, 0x55C⟩, ⟨0x55E, 0x55E⟩, ⟨0x58A, 0x58A⟩, ⟨0x5F3, 0x5F3⟩, ⟨0x70F, 0x70F⟩, ⟨0xA708, 0xA716⟩,
   ⟨0xA720, 0xA721⟩, ⟨0xA789, 0xA78A⟩, ⟨0xAB5B, 0xAB5B⟩]

/-- Punctuation inside numbers or words. -/
private def insideNumberOrWord : CodePoints := .ofAscending
  [⟨0x2E, 0x2E⟩, ⟨0x2018, 0x2019⟩, ⟨0x2024, 0x2024⟩, ⟨0xFE52, 0xFE52⟩, ⟨0xFF07, 0xFF07⟩,
   ⟨0xFF0E, 0xFF0E⟩]

/-- Punctuation inside words. -/
private def insideWord : CodePoints := .ofAscending
  [⟨0x3A, 0x3A⟩, ⟨0xB7, 0xB7⟩, ⟨0x387, 0x387⟩, ⟨0x55F, 0x55F⟩, ⟨0x5F4, 0x5F4⟩, ⟨0x2027, 0x2027⟩,
   ⟨0xFE13, 0xFE13⟩, ⟨0xFE55, 0xFE55⟩, ⟨0xFF1A, 0xFF1A⟩]

/-- Punctuation inside numbers. -/
private def insideNumber : CodePoints := .ofAscending
  [⟨0x2C, 0x2C⟩, ⟨0x3B, 0x3B⟩, ⟨0x37E, 0x37E⟩, ⟨0x589, 0x589⟩, ⟨0x60C, 0x60D⟩, ⟨0x66C, 0x66C⟩,
   ⟨0x7F8, 0x7F8⟩, ⟨0x2044, 0x2044⟩, ⟨0xFE50, 0xFE50⟩, ⟨0xFE54, 0xFE54⟩, ⟨0xFF0C, 0xFF0C⟩,
   ⟨0xFF1B, 0xFF1B⟩]

/-! ## Membership -/

/-- Katakana and what is used with them. -/
private def katakanaText : CodePoints := Script.katakana.own.union katakanaMark

/-- Characters that extend what stands before them, marks with a width of their own included. -/
private def extendersAndMarks : CodePoints :=
  GraphemeBreak.extenders.union Category.spacingMark.members

/-- Hebrew letters. -/
private def hebrewLetters : CodePoints := Script.hebrew.own.inter Category.otherLetter.members

/-- Letters that make words, Hebrew ones apart. -/
private def letters : CodePoints :=
  letterLike.union <| Property.alphabetic.diff <| .unionOf
    [Property.ideographic, katakanaText, Script.hiragana.own, extendersAndMarks, hebrewLetters,
      .unionOf (Script.spaceless.map (·.own))]

/-- Decimal digits, the marks that span digits, and two single characters. -/
def numbers : CodePoints :=
  .unionOf [Category.decimalNumber.members, Property.prependedMark.diff (.single '\u070F'),
    .single '\u066B', .single '\u19DA']

/-- The members of a class. -/
def members : WordBreak → CodePoints
  | carriageReturn => .single '\r'
  | lineFeed => .single '\n'
  | newline => otherLineEnd
  | extend => extendersAndMarks
  | joiner => .single '\u200D'
  | regionalIndicator => Property.regionalIndicator
  | format =>
    Category.format.members.diff <| .unionOf
      [extendersAndMarks, Property.prependedMark, .single '\u200B', .single '\u200D']
  | katakana => katakanaText
  | hebrewLetter => hebrewLetters
  | letter => letters
  | singleQuote => .single '\''
  | doubleQuote => .single '"'
  | midNumberOrLetter => insideNumberOrWord
  | midLetter => insideWord
  | midNumber => insideNumber
  | numeric => numbers
  | connector => Category.connectorPunctuation.members.union (.single '\u202F')
  | space => Category.spaceSeparator.members.diff fixedSpace

/-! ## Names -/

/-- Normalised names of the classes. -/
def named : List (List String × WordBreak) :=
  [(["cr"], carriageReturn),
   (["lf"], lineFeed),
   (["nl", "newline"], newline),
   (["extend"], extend),
   (["zwj"], joiner),
   (["ri", "regionalindicator"], regionalIndicator),
   (["fo", "format"], format),
   (["ka", "katakana"], katakana),
   (["hl", "hebrewletter"], hebrewLetter),
   (["le", "aletter"], letter),
   (["sq", "singlequote"], singleQuote),
   (["dq", "doublequote"], doubleQuote),
   (["mb", "midnumlet"], midNumberOrLetter),
   (["ml", "midletter"], midLetter),
   (["mn", "midnum"], midNumber),
   (["nu", "numeric"], numeric),
   (["ex", "extendnumlet"], connector),
   (["wsegspace"], space)]

/-- The class with a normalised name. -/
def named? (name : String) : Option WordBreak := (named.find? (·.1.contains name)).map (·.2)

end WordBreak

end RecordQuery
