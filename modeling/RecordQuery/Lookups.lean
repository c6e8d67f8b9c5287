import RecordQuery.Value.Document

/-!
# Lookups

What a caller asks of records: targets under specifiers, in the order in which they were given. As
in every ordered map, giving a specifier again replaces its target where it stands.
-/

namespace RecordQuery

/-- Targets under specifiers, in order of insertion. -/
abbrev Lookups := OrderedMap Value

namespace Lookups

/-- One lookup in a message. -/
def entryText (entry : String × Value) : String := entry.1 ++ "=" ++ entry.2.toText

/-- The text of lookups in messages. -/
def text (lookups : Lookups) : String :=
  String.intercalate ", " (lookups.entries.map entryText)

/-- Equality as maps: neither cares about the order of the lookups. -/
def same (l m : Lookups) : Bool := Record.same l m

end Lookups

end RecordQuery
