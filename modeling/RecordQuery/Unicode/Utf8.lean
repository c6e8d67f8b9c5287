import RecordQuery.Unicode.CodePoints

/-!
# Characters as bytes

In UTF-8 a character is one to four bytes: a first byte that tells how many follow, and then six
bits of its code point in each. The characters of a range of code points have byte forms that can be
told by a few sequences of ranges of bytes, each of which stands for every choice of one byte out of
each of its ranges.
-/

namespace RecordQuery

namespace Utf8

/-- The code points whose byte forms have so many bytes after the first. Surrogates have none. -/
def lengths : List (Nat × CodeRange) :=
  [(0, ⟨0, 0x7F⟩), (1, ⟨0x80, 0x7FF⟩), (2, ⟨0x800, 0xD7FF⟩), (2, ⟨0xE000, 0xFFFF⟩),
   (3, ⟨0x10000, 0x10FFFF⟩)]

/-- The first byte without the bits of the code point, given how many bytes follow. -/
def mark : Nat → Nat
  | 0 => 0
  | 1 => 0xC0
  | 2 => 0xE0
  | _ => 0xF0

/-- The byte form of a code point with so many bytes after the first. -/
def bytes (after n : Nat) : List Nat :=
  (mark after + n / Nat.pow 64 after) ::
    (List.range after).reverse.map fun i ↦ 0x80 + n / Nat.pow 64 i % 64

/-- Cuts a range of code points into blocks, within each of which the bytes vary independently. The
first argument is the number of bytes after the first. A block is a run of whole units of some power
of 64, or lies in one unit. -/
def blocks : Nat → CodeRange → List CodeRange
  | 0, r => [r]
  | after + 1, r =>
    let unit := Nat.pow 64 (after + 1)
    if r.first / unit = r.last / unit then blocks after r
    else
      let (front, first) :=
        if r.first % unit = 0 then ([], r.first)
        else
          let next := (r.first / unit + 1) * unit
          (blocks after ⟨r.first, next - 1⟩, next)
      let (back, stop) :=
        if (r.last + 1) % unit = 0 then ([], r.last + 1)
        else
          let start := r.last / unit * unit
          (blocks after ⟨start, r.last⟩, start)
      front ++ (if first < stop then [⟨first, stop - 1⟩] else []) ++ back

/-- The sequences of byte ranges that tell the byte forms of the characters in a range, in ascending
order. -/
def sequences (r : CodeRange) : List (List CodeRange) :=
  lengths.flatMap fun (after, all) ↦
    let first := max r.first all.first
    let last := min r.last all.last
    if first ≤ last then
      (blocks after ⟨first, last⟩).map fun block ↦
        (bytes after block.first).zipWith CodeRange.mk (bytes after block.last)
    else []

end Utf8

end RecordQuery
