import RecordQuery.Fault
import RecordQuery.Value.Decoding

/-!
# Reading lookups

Lookups are read from objects, whose members are the lookups. A document of another kind has no
specifiers to offer.
-/

namespace RecordQuery

namespace Lookups

/-- The lookups of a document. -/
def ofJson (j : Json) : Except Fault Lookups :=
  match Value.ofJson j with
  | .record lookups => .ok lookups
  | v => .error (.lookupsNotNamed v.kind)

/-- The lookups that a text decodes to. -/
def decodeText (s : String) : Option Lookups := Value.decodeMapText s

end Lookups

end RecordQuery
