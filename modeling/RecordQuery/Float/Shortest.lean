import RecordQuery.Float.Binary64

/-!
# The shortest decimal of a double

A double stands for all the reals that round to it, an interval whose ends lie halfway to its two
neighbours. Among the decimals in that interval this file selects one with the fewest digits, and
of those the one nearest to the double. What it selects reads back as the same double, and nothing
shorter does.

The search is the specification made into a loop. On the grid of decimals with `n` significant
digits only the two neighbours of the double can be the nearest point of the interval, so for `n =
1, 2, …` both are tested with exact arithmetic, and the first grid with a hit decides. Seventeen
digits are always enough; should the search ever come out empty, the exact decimal value is the
answer, so that no guess is ever written.
-/

namespace RecordQuery

/-- The number `digits * 10 ^ exponent`. -/
structure Decimal where
  /-- The significant digits, as one number. -/
  digits : Nat
  /-- The power of ten they are multiplied by. -/
  exponent : Int
  deriving DecidableEq, Repr

/-- What to do when two shortest decimals are equally near. -/
inductive Tie where
  /-- Take the one whose last digit is even. -/
  | even
  /-- Take the larger magnitude. -/
  | up
  deriving DecidableEq, Repr

namespace Decimal

/-- Drops zeros at the end of the digits, at most as many as the first argument says. -/
def trim : Nat → Decimal → Decimal
  | 0, d => d
  | steps + 1, d =>
    if d.digits % 10 = 0 ∧ d.digits ≠ 0 then trim steps ⟨d.digits / 10, d.exponent + 1⟩ else d

end Decimal

namespace Binary64

/-- A magnitude over a power of ten, as a quotient of natural numbers; the third component is the
factor that the magnitude's count of grains was multiplied by. -/
structure Scaled where
  /-- The numerator. -/
  num : Nat
  /-- The denominator. -/
  den : Nat
  /-- The factor from a count of grains to the numerator. -/
  factor : Nat

/-- The magnitude with a rank over `10 ^ exponent`. -/
def scaledBy (rank : Nat) (exponent : Int) : Scaled :=
  let up := Nat.pow 10 exponent.toNat
  let down := Nat.pow 10 (-exponent).toNat
  ⟨grains rank * down, up * grainsPerUnit, down⟩

/-- Whether `digits * 10 ^ exponent` is one of the reals that round to the magnitude with a rank.
The ends of the interval count if the rank is even, since a half goes to the even neighbour. -/
def readsBack (rank : Nat) (d : Decimal) : Bool :=
  let s := scaledBy rank d.exponent
  let low := (grains (rank - 1) + grains rank) * s.factor
  let high := (grains rank + grains (rank + 1)) * s.factor
  let point := 2 * d.digits * s.den
  if rank % 2 = 0 then low ≤ point && point ≤ high else low < point && point < high

/-- The number of digits before the point: the least `k` such that the magnitude is below
`10 ^ k`, found by correcting an estimate from the binary logarithm. -/
def digitsBeforePoint (rank : Nat) : Int :=
  let estimate := (((grains rank).log2 : Int) - 1074) * 30103 / 100000
  let below (k : Int) : Bool := (scaledBy rank k).num < (scaledBy rank k).den
  if below estimate then estimate
  else if below (estimate + 1) then estimate + 1
  else estimate + 2

/-- The better of the two neighbours of a magnitude on the grid of multiples of `10 ^ exponent`,
if one of them reads back. -/
def onGrid? (tie : Tie) (rank : Nat) (exponent : Int) : Option Decimal :=
  let s := scaledBy rank exponent
  let below : Decimal := ⟨s.num / s.den, exponent⟩
  let above : Decimal := ⟨s.num / s.den + 1, exponent⟩
  match readsBack rank below, readsBack rank above with
  | false, false => none
  | true, false => some below
  | false, true => some above
  | true, true =>
    match Ord.compare (2 * (s.num % s.den)) s.den with
    | .lt => some below
    | .gt => some above
    | .eq =>
      match tie with
      | .up => some above
      | .even => if below.digits % 2 = 0 then some below else some above

/-- The exact decimal value of the magnitude with a rank. -/
def exactDecimal (rank : Nat) : Decimal := ⟨grains rank * Nat.pow 5 1074, -1074⟩

/-- The shortest decimal that reads back as the magnitude with a rank. -/
def shortest (tie : Tie) (rank : Nat) : Decimal :=
  let before := digitsBeforePoint rank
  let found := (List.range 17).findSome? fun n ↦ onGrid? tie rank (before - (n + 1 : Nat))
  let chosen := found.getD (exactDecimal rank)
  chosen.trim (chosen.digits.log2 + 1)

end Binary64

end RecordQuery
