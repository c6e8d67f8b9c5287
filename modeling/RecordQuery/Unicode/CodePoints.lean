import RecordQuery.Halving

/-!
# Sets of code points

The properties of the Unicode standard and the classes of patterns are sets of code points. Such a
set is held as ranges that ascend and neither overlap nor touch. Two ascending lists of ranges merge
in one pass, a complement is the list of the gaps, and the other operations rest on these two. A
membership test is one binary search.

Surrogates are code points without a character. Whether a set holds them is of no consequence.

## Tables

A table lists its ranges in ascending order. Where capital and small letters alternate, it lists
stretches of every second code point instead. Tables are plain data, so that membership in them can
be settled by evaluation in the logic and costs a running program no start-up time.
-/

namespace RecordQuery

/-- A range of code points, both ends included. -/
structure CodeRange where
  /-- The least member. -/
  first : Nat
  /-- The greatest member. -/
  last : Nat
  deriving DecidableEq, Repr

/-! ## Stretches -/

/-- A stretch of code points: `first`, `first + step`, and so on up to `last`. -/
structure Stretch where
  /-- The least member. -/
  first : Nat
  /-- The greatest member. -/
  last : Nat
  /-- The distance between neighbouring members. -/
  step : Nat
  deriving DecidableEq, Repr

namespace Stretch

/-- Membership in a stretch. -/
def contains (s : Stretch) (n : Nat) : Bool :=
  s.first ≤ n && n ≤ s.last && (n - s.first) % s.step == 0

/-- The members of a stretch that are in a range, in ascending order. -/
def membersIn (s : Stretch) (r : CodeRange) : List Nat :=
  let first := max s.first r.first
  let last := min s.last r.last
  ((List.range (last + 1 - first)).map (first + ·)).filter s.contains

/-- The ranges that make up a stretch. -/
def ranges (s : Stretch) : List CodeRange :=
  if s.step = 1 then [⟨s.first, s.last⟩]
  else (s.membersIn ⟨s.first, s.last⟩).map fun n ↦ ⟨n, n⟩

end Stretch

/-! ## Ascending lists of ranges -/

namespace CodeRange

/-- Merges a range and the ranges that follow it, which `others` does, into an ascending list. -/
def mergeWith (r : CodeRange) (others : List CodeRange → List CodeRange) :
    List CodeRange → List CodeRange
  | [] => r :: others []
  | s :: rest =>
    if r.first ≤ s.first then r :: others (s :: rest) else s :: mergeWith r others rest

/-- Merges two lists in the order of their first members. -/
def merge : List CodeRange → List CodeRange → List CodeRange
  | [], rs => rs
  | r :: others, rs => mergeWith r (merge others) rs

/-- Joins the ranges of an ascending list that overlap or touch; `current` is the one before them,
which may still grow. -/
def joinAfter (current : CodeRange) : List CodeRange → List CodeRange
  | [] => [current]
  | r :: rest =>
    if r.first ≤ current.last + 1 then joinAfter ⟨current.first, max current.last r.last⟩ rest
    else current :: joinAfter r rest

/-- Joins the ranges of an ascending list that overlap or touch. -/
def join : List CodeRange → List CodeRange
  | [] => []
  | r :: rest => joinAfter r rest

/-- The greatest code point. -/
def greatest : Nat := 0x10FFFF

/-- The gaps of an ascending list of separate ranges, from a code point on. -/
def gapsFrom (next : Nat) : List CodeRange → List CodeRange
  | [] => if next ≤ greatest then [⟨next, greatest⟩] else []
  | r :: rest =>
    if next < r.first then ⟨next, r.first - 1⟩ :: gapsFrom (r.last + 1) rest
    else gapsFrom (r.last + 1) rest

end CodeRange

/-! ## Sets -/

/-- A set of code points, as ascending ranges that neither overlap nor touch. -/
structure CodePoints where
  /-- The ranges, in ascending order. -/
  ranges : Array CodeRange
  deriving DecidableEq, Repr

namespace CodePoints

/-- The set of the members of an ascending list of ranges. -/
def ofAscending (rs : List CodeRange) : CodePoints := ⟨(CodeRange.join rs).toArray⟩

/-- The set of the members of an ascending list of stretches. -/
def ofStretches (stretches : List Stretch) : CodePoints :=
  .ofAscending (stretches.flatMap Stretch.ranges)

/-- The set without members. -/
def empty : CodePoints := ⟨#[]⟩

/-- The set of one character. -/
def single (c : Char) : CodePoints := ⟨#[⟨c.toNat, c.toNat⟩]⟩

/-- The characters from one to another, which is not less. -/
def range (first last : Char) : CodePoints := ⟨#[⟨first.toNat, last.toNat⟩]⟩

/-- The code points without a character. -/
def surrogates : CodePoints := ⟨#[⟨0xD800, 0xDFFF⟩]⟩

/-- The members of either set. -/
def union (s t : CodePoints) : CodePoints :=
  .ofAscending (CodeRange.merge s.ranges.toList t.ranges.toList)

/-- The members of any of the sets. -/
def unionOf (sets : List CodePoints) : CodePoints := combine union empty sets

/-- The code points that are not in the set. -/
def compl (s : CodePoints) : CodePoints := ⟨(CodeRange.gapsFrom 0 s.ranges.toList).toArray⟩

/-- The members of both sets. -/
def inter (s t : CodePoints) : CodePoints := (s.compl.union t.compl).compl

/-- The members of the first set that are not in the second. -/
def diff (s t : CodePoints) : CodePoints := (s.compl.union t).compl

/-- The members of exactly one of the sets. -/
def symmDiff (s t : CodePoints) : CodePoints := (s.diff t).union (t.diff s)

/-! ## Membership -/

/-- Narrows `[low, high)` to the one place where a range that holds `n` can be. The first argument
bounds the number of halvings. -/
def locate (ranges : Array CodeRange) (n : Nat) : Nat → Nat → Nat → Nat
  | 0, low, _ => low
  | steps + 1, low, high =>
    if low + 1 < high then
      let middle := (low + high) / 2
      match ranges[middle]? with
      | some r => if r.first ≤ n then locate ranges n steps middle high
                  else locate ranges n steps low middle
      | none => low
    else low

/-- Membership of a code point. -/
def containsCode (s : CodePoints) (n : Nat) : Bool :=
  match s.ranges[locate s.ranges n s.ranges.size 0 s.ranges.size]? with
  | some r => r.first ≤ n && n ≤ r.last
  | none => false

/-- Membership of a character. -/
def contains (s : CodePoints) (c : Char) : Bool := s.containsCode c.toNat

end CodePoints

end RecordQuery
