/-!
# Edit distance

The least number of insertions, deletions and substitutions of single characters that turn one text
into another. It is computed row by row: the row of a text `a` holds the distances from `a` to every
initial part of `b`, and reading one more character of `a` gives the next row. Only the row before
is needed for that, so there are two rows: the next one is written over the one that is not needed
any more, and then they change places.

Entries are looked up and written by their place in a row. If a row has no such place, there is no
result.
-/

namespace RecordQuery

namespace EditDistance

/-- Writes an entry over the one at a place. -/
def overwrite? (row : List Nat) (place entry : Nat) : Option (List Nat) :=
  if place < row.length then some (row.set place entry) else none

/-- Writes the entries behind a place over those of an older row, one for each character of the rest
of `b`. `above` is the row before. -/
def fillBehind? (c : Char) (above : List Nat) : Nat → List Char → List Nat → Option (List Nat)
  | _, [], row => some row
  | place, d :: rest, row => do
    let corner ← above[place]?
    let up ← above[place + 1]?
    let left ← row[place]?
    let entry := min (min (corner + if c = d then 0 else 1) (up + 1)) (left + 1)
    let row ← overwrite? row (place + 1) entry
    fillBehind? c above (place + 1) rest row

/-- Two rows. -/
structure Rows where
  /-- The row of what has been read. -/
  last : List Nat
  /-- A row that is not needed any more. -/
  spare : List Nat

namespace Rows

/-- The rows before anything is read. Every initial part of `b` is its own length away from the
empty text. -/
def first (b : List Char) : Rows :=
  ⟨List.range (b.length + 1), List.replicate (b.length + 1) 0⟩

/-- Reads a character that comes after so many others. -/
def next? (b : List Char) (count : Nat) (c : Char) (rows : Rows) : Option Rows := do
  let row ← overwrite? rows.spare 0 (count + 1)
  let row ← fillBehind? c rows.last 0 b row
  return ⟨row, rows.last⟩

/-- Reads the rest of a text, after so many characters. -/
def readFrom? (b : List Char) : Nat → List Char → Rows → Option Rows
  | _, [], rows => some rows
  | count, c :: rest, rows => do
    let rows ← rows.next? b count c
    readFrom? b (count + 1) rest rows

end Rows

end EditDistance

/-- What is computed for two texts: the entry for the whole of `b` in the row of `a`. -/
def editDistance? (a b : List Char) : Option Nat := do
  let rows ← (EditDistance.Rows.first b).readFrom? b 0 a
  rows.last[b.length]?

/-- The least number of edits that turn `a` into `b`. -/
def editDistance (a b : List Char) : Nat := (editDistance? a b).getD 0

end RecordQuery
