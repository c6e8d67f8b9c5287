import RecordQuery.Unicode.Property

/-!
# Letters, numbers and case of the latest version

The tables of properties hold version 16 of the Unicode standard, by which patterns read characters.
The case of texts and the names of groups in patterns follow version 17. It added characters and
took the case from one letter, so its classes are those of version 16 with short tables of what is
new.
-/

namespace RecordQuery

namespace Latest

/-- New alphabetic characters. -/
private def newAlphabetic : CodePoints := .ofAscending
  [⟨0x88F, 0x88F⟩, ⟨0xC5C, 0xC5C⟩, ⟨0xCDC, 0xCDC⟩, ⟨0xA7CE, 0xA7CF⟩, ⟨0xA7D2, 0xA7D2⟩,
   ⟨0xA7D4, 0xA7D4⟩, ⟨0xA7F1, 0xA7F1⟩, ⟨0x10940, 0x10959⟩, ⟨0x10EC5, 0x10EC7⟩, ⟨0x10EFA, 0x10EFB⟩,
   ⟨0x11B60, 0x11B67⟩, ⟨0x11DB0, 0x11DDB⟩, ⟨0x16EA0, 0x16EB8⟩, ⟨0x16EBB, 0x16ED3⟩,
   ⟨0x16FF2, 0x16FF6⟩, ⟨0x187F8, 0x187FF⟩, ⟨0x18D09, 0x18D1E⟩, ⟨0x18D80, 0x18DF2⟩,
   ⟨0x1E6C0, 0x1E6DE⟩, ⟨0x1E6E0, 0x1E6F5⟩, ⟨0x1E6FE, 0x1E6FF⟩, ⟨0x2B73A, 0x2B73F⟩,
   ⟨0x2CEA2, 0x2CEAD⟩, ⟨0x323B0, 0x33479⟩]

/-- New numbers. -/
private def newNumeric : CodePoints := .ofAscending
  [⟨0x11DE0, 0x11DE9⟩, ⟨0x16FF4, 0x16FF6⟩]

/-- New characters that have a case. -/
private def newCased : CodePoints := .ofAscending
  [⟨0xA7CE, 0xA7CF⟩, ⟨0xA7D2, 0xA7D2⟩, ⟨0xA7D4, 0xA7D4⟩, ⟨0xA7F1, 0xA7F1⟩, ⟨0x16EA0, 0x16EB8⟩,
   ⟨0x16EBB, 0x16ED3⟩]

/-- New characters that rules about case look past. -/
private def newIgnorable : CodePoints := .ofAscending
  [⟨0x1ACF, 0x1ADD⟩, ⟨0x1AE0, 0x1AEB⟩, ⟨0xA7F1, 0xA7F1⟩, ⟨0x10EC5, 0x10EC5⟩, ⟨0x10EFA, 0x10EFB⟩,
   ⟨0x11B60, 0x11B60⟩, ⟨0x11B62, 0x11B64⟩, ⟨0x11B66, 0x11B66⟩, ⟨0x11DD9, 0x11DD9⟩,
   ⟨0x16FF2, 0x16FF3⟩, ⟨0x1E6E3, 0x1E6E3⟩, ⟨0x1E6E6, 0x1E6E6⟩, ⟨0x1E6EE, 0x1E6EF⟩,
   ⟨0x1E6F5, 0x1E6F5⟩, ⟨0x1E6FF, 0x1E6FF⟩]

/-- Letters, and what is used as letters are. -/
def alphabetic : CodePoints := Property.alphabetic.union newAlphabetic

/-- Numbers of every kind. -/
def numeric : CodePoints := (Category.membersOf Category.numbers).union newNumeric

/-- Characters that have a case, to which the voiced pharyngeal fricative no longer belongs. -/
def cased : CodePoints := (Property.cased.diff (.single 'ʕ')).union newCased

/-- Characters that rules about case look past. -/
def caseIgnorable : CodePoints := Property.caseIgnorable.union newIgnorable

end Latest

end RecordQuery
