/-!
# Combining by halves

Many items are combined by an operation pairwise: first the two halves of a sequence, then the
results. For an associative operation that is the same as to combine them in a row, but results stay
small for as long as possible, and what is built is only as deep as the logarithm of their number.
-/

namespace RecordQuery

/-- Combines `count` items from `start` on. The fuel bounds the depth, and `count` suffices. -/
def combineFrom {α : Type} (op : α → α → α) (neutral : α) (items : Array α) :
    Nat → Nat → Nat → α
  | fuel + 1, start, count =>
    if count = 0 then neutral
    else if count = 1 then items.getD start neutral
    else
      let half := count / 2
      op (combineFrom op neutral items fuel start half)
        (combineFrom op neutral items fuel (start + half) (count - half))
  | 0, _, _ => neutral

/-- Combines items by an associative operation, in their order. -/
def combine {α : Type} (op : α → α → α) (neutral : α) (items : List α) : α :=
  let items := items.toArray
  combineFrom op neutral items items.size 0 items.size

end RecordQuery
