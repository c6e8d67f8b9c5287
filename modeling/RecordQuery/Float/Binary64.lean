/-!
# Double-precision numbers

Every finite double is a whole number of *grains*, the grain being the least positive double
`2 ^ (-1074)`. That makes exact arithmetic arithmetic of natural numbers: a magnitude is its count
of grains, comparison is comparison of counts, and rounding puts a fraction on the grid of counts
that a double can hold.

## Representation

A finite double is a sign and a *rank*, the place of its magnitude in the ascending list of finite
magnitudes: rank `0` is zero, rank `1` the grain. The rank is also what the interchange format
stores below the sign bit, so bits are read off without a case distinction, and two magnitudes are
ordered as their ranks are.

There is one value that is not a number. The bit patterns that spell it differ, but no operation of
this library tells them apart.

Powers are written `Nat.pow`, which does not depend on what gives the usual sign its meaning.
-/

namespace RecordQuery

/-- The number of finite magnitudes; it is also the rank that infinity would have. -/
def Binary64.rankLimit : Nat := 2047 * Nat.pow 2 52

/-- A double-precision floating-point number. -/
inductive Binary64 where
  /-- Not a number. -/
  | nan
  /-- Infinity, of either sign. -/
  | infinite (negative : Bool)
  /-- A finite number, by its sign and the rank of its magnitude. Zero has two signs. -/
  | finite (negative : Bool) (rank : Fin Binary64.rankLimit)
  deriving DecidableEq

namespace Binary64

/-! ## Ranks and grains -/

/-- The binary exponent of the magnitude with a rank, counted in doublings of the grain. -/
def scale (rank : Nat) : Nat := rank / Nat.pow 2 52 - 1

/-- The leading binary digits of the magnitude with a rank: all 53 of them, or fewer near zero. -/
def significand (rank : Nat) : Nat :=
  if rank < Nat.pow 2 52 then rank else Nat.pow 2 52 + rank % Nat.pow 2 52

/-- The number of grains in the magnitude with a rank. -/
def grains (rank : Nat) : Nat := significand rank * Nat.pow 2 (scale rank)

/-- The rank of a magnitude with at most 53 leading binary digits. -/
def rankOf (count : Nat) : Nat :=
  let doublings := count.log2 - 52
  doublings * Nat.pow 2 52 + count / Nat.pow 2 doublings

/-- How many grains make one. -/
def grainsPerUnit : Nat := Nat.pow 2 1074

/-- The number with a sign and a count of grains; beyond the largest magnitude it is infinite. -/
def ofGrains (negative : Bool) (count : Nat) : Binary64 :=
  if h : rankOf count < rankLimit then .finite negative ⟨rankOf count, h⟩ else .infinite negative

/-- Zero, with a sign. -/
def zero (negative : Bool) : Binary64 := .finite negative ⟨0, by decide⟩

/-! ## Rounding -/

/-- A quotient rounded to the nearest whole number, a half going to the even neighbour. -/
def halfEven (num den : Nat) : Nat :=
  let quotient := num / den
  match compare (2 * (num % den)) den with
  | .lt => quotient
  | .gt => quotient + 1
  | .eq => if quotient % 2 = 0 then quotient else quotient + 1

/-- A quotient rounded to a whole number that has at most `digits` leading binary digits. -/
def roundTo (digits num den : Nat) : Nat :=
  let doublings := (num / den).log2 + 1 - digits
  halfEven num (den * Nat.pow 2 doublings) * Nat.pow 2 doublings

/-- The count of grains nearest to a quotient of counts of ones. -/
def grainsOfRatio (num den : Nat) : Nat := roundTo 53 (num * grainsPerUnit) den

/-- The double nearest to a quotient, with a sign. -/
def ofRatio (negative : Bool) (num den : Nat) : Binary64 :=
  ofGrains negative (grainsOfRatio num den)

/-- The double nearest to an integer. -/
def ofInt (i : Int) : Binary64 := ofRatio (i < 0) i.natAbs 1

/-- The exponents of ten from which on a decimal is certainly infinite, or certainly zero. -/
private def exponentLimit : Nat := 400

/-- A decimal `digits * 10 ^ exponent` as a quotient of natural numbers. Far beyond the range of
doubles the exponent is cut down, which changes no rounding and keeps the numbers small. -/
private def ratioOfDecimal (digits : Nat) (exponent : Int) : Nat × Nat :=
  if 0 ≤ exponent then (digits * Nat.pow 10 (min exponent.toNat exponentLimit), 1)
  else (digits, Nat.pow 10 (min (-exponent).toNat (exponentLimit + digits.log2)))

/-- The double nearest to a decimal `digits * 10 ^ exponent`. -/
def ofDecimal (negative : Bool) (digits : Nat) (exponent : Int) : Binary64 :=
  let (num, den) := ratioOfDecimal digits exponent
  ofRatio negative num den

/-- The double that a decimal becomes when it is first rounded to single precision: 24 leading
binary digits, grains of `2 ^ (-149)`, and magnitudes below `2 ^ 128`. -/
def ofDecimalSingle (negative : Bool) (digits : Nat) (exponent : Int) : Binary64 :=
  let (num, den) := ratioOfDecimal digits exponent
  let count := roundTo 24 (num * Nat.pow 2 149) den
  if count < Nat.pow 2 277 then ofRatio negative count (Nat.pow 2 149) else .infinite negative

/-! ## Bits -/

/-- The interchange form. -/
def toBits : Binary64 → Nat
  | .nan => rankLimit + Nat.pow 2 51
  | .infinite negative => (if negative then Nat.pow 2 63 else 0) + rankLimit
  | .finite negative rank => (if negative then Nat.pow 2 63 else 0) + rank

/-! ## Order -/

/-- The rank with its sign. Both zeros have `0`, and the infinities lie one beyond the largest
finite numbers. -/
def signedRank? : Binary64 → Option Int
  | .nan => none
  | .infinite negative => some (if negative then -rankLimit else rankLimit)
  | .finite negative rank => some (if negative then -(rank : Int) else rank)

/-- Order by value; `none` if either side is not a number. -/
def compare? (x y : Binary64) : Option Ordering := do
  return compare (← x.signedRank?) (← y.signedRank?)

/-- Whether a double is a number and not infinite. -/
def isFinite : Binary64 → Bool
  | .finite _ _ => true
  | _ => false

/-- Where a double lies, seen from the integers that a 64-bit word can hold. -/
inductive Location where
  /-- Below the least of them. -/
  | below
  /-- Above the greatest of them. -/
  | above
  /-- Among them, by its whole part and the order of that part against the double. -/
  | among (whole : Int) (behind : Ordering)
  deriving DecidableEq, Repr

/-- Where a double lies; `none` for what is not a number. The whole part is cut off towards zero. -/
def location? : Binary64 → Option Location
  | .nan => none
  | .infinite negative => some (if negative then .below else .above)
  | .finite negative rank =>
    let count := grains rank
    let whole := count / grainsPerUnit
    let behind := count % grainsPerUnit
    if negative then
      if Nat.pow 2 63 * grainsPerUnit < count then some .below
      else some (.among (-(whole : Int)) (if behind = 0 then .eq else .gt))
    else
      if Nat.pow 2 64 ≤ whole then some .above
      else some (.among whole (if behind = 0 then .eq else .lt))

/-- The order of an integer that a 64-bit word can hold against what lies in a place. Outside the
range of words the side decides. Within it the whole part does, unless it equals the integer, and
then what lies behind the point. -/
def Location.order (i : Int) : Location → Ordering
  | .below => .gt
  | .above => .lt
  | .among whole behind => (compare i whole).then behind

/-- Orders an integer that a 64-bit word can hold against a double, exactly. -/
def compareWord? (i : Int) (x : Binary64) : Option Ordering := x.location?.map (Location.order i)

end Binary64

end RecordQuery
