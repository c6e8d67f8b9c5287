import RecordQuery.Pattern.CharClass

/-!
# Assertions of patterns

What a pattern can demand of a place between two characters without reading any: the ends of the
text and of its lines, and the edges of words. Every assertion is settled by the two neighbours of
the place, of which one is missing at an end of the text.
-/

namespace RecordQuery

/-- What is demanded of the two sides of a place, as to words. -/
inductive WordEdge where
  /-- A word starts or ends here. -/
  | boundary
  /-- No word starts or ends here. -/
  | interior
  /-- A word starts here. -/
  | start
  /-- A word ends here. -/
  | stop
  /-- No character of a word stands before. -/
  | startHalf
  /-- No character of a word stands behind. -/
  | stopHalf
  deriving DecidableEq, Repr

/-- A demand on a place of a text. -/
inductive Assertion where
  /-- The text starts here. -/
  | textStart
  /-- The text ends here. -/
  | textEnd
  /-- A line starts here. Lines end with a line feed or, if `carriageReturns` are ends too, with a
  carriage return, a line feed, or both in this order. -/
  | lineStart (carriageReturns : Bool)
  /-- A line ends here. -/
  | lineEnd (carriageReturns : Bool)
  /-- A demand as to words, made of Unicode characters or of ASCII letters, digits and
  underscores. -/
  | word (edge : WordEdge) (unicode : Bool)
  deriving DecidableEq, Repr

namespace WordEdge

/-- Whether a demand is met, given which sides have a character of a word. -/
def holds (before after : Bool) : WordEdge → Bool
  | boundary => before != after
  | interior => before == after
  | start => !before && after
  | stop => before && !after
  | startHalf => !before
  | stopHalf => !after

end WordEdge

namespace Assertion

/-- Whether a demand is met between two neighbours. -/
def holds (before after : Option Char) : Assertion → Bool
  | textStart => before.isNone
  | textEnd => after.isNone
  | lineStart false => before.isNone || before == some '\n'
  | lineEnd false => after.isNone || after == some '\n'
  | lineStart true =>
    before.isNone || before == some '\n' || (before == some '\r' && after != some '\n')
  | lineEnd true =>
    after.isNone || after == some '\r' || (after == some '\n' && before != some '\r')
  | word edge unicode =>
    edge.holds (before.any (CharClass.word unicode).contains)
      (after.any (CharClass.word unicode).contains)

end Assertion

end RecordQuery
