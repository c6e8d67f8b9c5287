import RecordQuery.Unicode.WordBreak

/-!
# Breaks between sentences

The classes of characters by which the Unicode standard divides a text into sentences, for version
16. They rest on categories and properties, with short tables of exceptions. Names are as for the
classes of breaks between written signs.
-/

namespace RecordQuery

/-- The classes of characters that matter to breaks between sentences. -/
inductive SentenceBreak where
  /-- The carriage return. -/
  | carriageReturn
  /-- The line feed. -/
  | lineFeed
  /-- Other separators of lines and paragraphs. -/
  | separator
  /-- Characters that extend what stands before them. -/
  | extend
  /-- Formats. -/
  | format
  /-- Spaces. -/
  | space
  /-- Small letters. -/
  | lower
  /-- Capital letters. -/
  | upper
  /-- Letters without case. -/
  | otherLetter
  /-- Digits and what is used with them. -/
  | numeric
  /-- Full stops that also abbreviate. -/
  | fullStop
  /-- Punctuation inside sentences. -/
  | continuation
  /-- Other ends of sentences. -/
  | terminal
  /-- Brackets and quotation marks. -/
  | bracket
  deriving DecidableEq, Repr

namespace SentenceBreak

/-! ## Tables that complete the categories -/

/-- Georgian letters, which count as letters without case. -/
private def georgianLetter : CodePoints := .ofAscending
  [⟨0x10D0, 0x10FA⟩, ⟨0x10FD, 0x10FF⟩, ⟨0x1C90, 0x1CBA⟩, ⟨0x1CBD, 0x1CBF⟩]

/-- Full stops that also abbreviate. -/
private def abbreviatingStop : CodePoints := .ofAscending
  [⟨0x2E, 0x2E⟩, ⟨0x2024, 0x2024⟩, ⟨0xFE52, 0xFE52⟩, ⟨0xFF0E, 0xFF0E⟩]

/-- Punctuation inside sentences. -/
private def insideSentence : CodePoints := .ofAscending
  [⟨0x2C, 0x2D⟩, ⟨0x3A, 0x3B⟩, ⟨0x37E, 0x37E⟩, ⟨0x55D, 0x55D⟩, ⟨0x60C, 0x60D⟩, ⟨0x7F8, 0x7F8⟩,
   ⟨0x1802, 0x1802⟩, ⟨0x1808, 0x1808⟩, ⟨0x2013, 0x2014⟩, ⟨0x3001, 0x3001⟩, ⟨0xFE10, 0xFE11⟩,
   ⟨0xFE13, 0xFE14⟩, ⟨0xFE31, 0xFE32⟩, ⟨0xFE50, 0xFE51⟩, ⟨0xFE54, 0xFE55⟩, ⟨0xFE58, 0xFE58⟩,
   ⟨0xFE63, 0xFE63⟩, ⟨0xFF0C, 0xFF0D⟩, ⟨0xFF1A, 0xFF1B⟩, ⟨0xFF64, 0xFF64⟩]

/-- Separators of lines and paragraphs besides carriage returns and line feeds. -/
private def otherSeparator : CodePoints := .ofAscending
  [⟨0x85, 0x85⟩, ⟨0x2028, 0x2029⟩]

/-- Quotation marks as wide as ideographs. -/
private def wideQuote : CodePoints := .ofAscending
  [⟨0xFF02, 0xFF02⟩, ⟨0xFF07, 0xFF07⟩]

/-- Further quotation marks and the like. -/
private def otherBracket : CodePoints := .ofAscending
  [⟨0x275B, 0x2760⟩, ⟨0x2E00, 0x2E01⟩, ⟨0x2E06, 0x2E08⟩, ⟨0x2E0B, 0x2E0B⟩, ⟨0x1F676, 0x1F678⟩]

/-! ## Membership -/

/-- Characters that extend what stands before them, marks with a width of their own and the joiner
without width included. -/
private def extendersAndJoiner : CodePoints :=
  .unionOf [Property.graphemeExtender, Category.spacingMark.members, .single '\u200D']

/-- Small letters. -/
private def smallLetters : CodePoints :=
  Property.lowercase.diff (Property.graphemeExtender.union georgianLetter)

/-- Capital letters. -/
private def capitalLetters : CodePoints :=
  (Property.uppercase.union Category.titlecaseLetter.members).diff georgianLetter

/-- The members of a class. -/
def members : SentenceBreak → CodePoints
  | carriageReturn => .single '\r'
  | lineFeed => .single '\n'
  | separator => otherSeparator
  | extend => extendersAndJoiner
  | format =>
    (Category.format.members.diff (extendersAndJoiner.union Property.prependedMark)).union
      (.single '\u070F')
  | space => Property.blank.diff (.unionOf [otherSeparator, .single '\r', .single '\n'])
  | lower => smallLetters
  | upper => capitalLetters
  | otherLetter =>
    (Property.alphabetic.union (.single '\u05F3')).diff
      (.unionOf [smallLetters, capitalLetters, extendersAndJoiner])
  | numeric => WordBreak.numbers.union (.single '\u066C')
  | fullStop => abbreviatingStop
  | continuation => insideSentence
  | terminal => Property.sentenceTerminal.diff abbreviatingStop
  | bracket =>
    .unionOf [otherBracket, Property.quotationMark.diff wideQuote,
      Category.membersOf
        [.openPunctuation, .closePunctuation, .initialPunctuation, .finalPunctuation]]

/-! ## Names -/

/-- Normalised names of the classes. -/
def named : List (List String × SentenceBreak) :=
  [(["cr"], carriageReturn),
   (["lf"], lineFeed),
   (["se", "sep"], separator),
   (["ex", "extend"], extend),
   (["fo", "format"], format),
   (["sp"], space),
   (["lo", "lower"], lower),
   (["up", "upper"], upper),
   (["le", "oletter"], otherLetter),
   (["nu", "numeric"], numeric),
   (["at", "aterm"], fullStop),
   (["sc", "scontinue"], continuation),
   (["st", "sterm"], terminal),
   (["cl", "close"], bracket)]

/-- The class with a normalised name. -/
def named? (name : String) : Option SentenceBreak := (named.find? (·.1.contains name)).map (·.2)

end SentenceBreak

end RecordQuery
