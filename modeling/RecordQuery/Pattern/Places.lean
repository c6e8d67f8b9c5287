import RecordQuery.Pattern.Regex

/-!
# Searching with sets of places

A text of `n` characters has the places `0 … n`. A set of places is a natural number, place `i`
being its bit `i`. Evaluated on a text, a class is the set of places that one of its characters
follows, an assertion the set of places where it holds, and an expression maps the set of places
where a match may start to the set of places where one may end. Sequences compose, alternatives
unite, and repetitions iterate until the set no longer grows.

This takes time in proportion to the length of the text for every part that is passed, and there is
nothing to backtrack. A repetition without a bound may take as many rounds as there are places,
unless its body is a single character: then one addition does, in which carries run through
stretches of characters of the class. Where there are too many other rounds the search is given up,
since another way to search takes less time then.
-/

namespace RecordQuery

namespace Regex

variable {σ α : Type}

/-! ## Leaves on a text -/

/-- The number whose bit `i` is whether `p` holds of `start + i`, for `count` bits. The fuel bounds
how often a half is taken, and `count` suffices. -/
def bitsFrom (p : Nat → Bool) : Nat → Nat → Nat → Nat
  | fuel + 1, start, count =>
    if count = 0 then 0
    else if count = 1 then if p start then 1 else 0
    else
      let half := count / 2
      bitsFrom p fuel start half ||| bitsFrom p fuel (start + half) (count - half) <<< half
  | 0, _, _ => 0

/-- The set of the places below `count` of which a property holds. -/
def placesWhere (p : Nat → Bool) (count : Nat) : Nat := bitsFrom p count 0 count

/-- The places that a character with a property follows. -/
def placesBefore (p : Char → Bool) (cs : Array Char) : Nat :=
  placesWhere (fun i ↦ cs[i]?.any p) cs.size

/-- The places at which a property of the neighbouring characters holds. -/
def placesBetween (p : Option Char → Option Char → Bool) (cs : Array Char) : Nat :=
  placesWhere (fun i ↦ p (if i = 0 then none else cs[i - 1]?) cs[i]?) (cs.size + 1)

/-! ## Evaluation -/

/-- The sets of places of leaves, each of them worked out once. -/
structure Leaves (σ α : Type) where
  /-- The classes met so far. -/
  classes : List (σ × Nat) := []
  /-- The assertions met so far. -/
  assertions : List (α × Nat) := []

/-- Looks a leaf up, or works it out and adds it. -/
def lookUp {κ : Type} [BEq κ] (leaf : κ) (value : Unit → Nat) (known : List (κ × Nat)) :
    Nat × List (κ × Nat) :=
  match known.lookup leaf with
  | some places => (places, known)
  | none =>
    let places := value ()
    (places, (leaf, places) :: known)

/-- Replaces the leaves of an expression by their sets of places. -/
def evaluate [BEq σ] [BEq α] (onClass : σ → Nat) (onAssertion : α → Nat) :
    Regex σ α → Leaves σ α → Regex Nat Nat × Leaves σ α
  | .empty, known => (.empty, known)
  | .one cls, known =>
    let (places, classes) := lookUp cls (fun _ ↦ onClass cls) known.classes
    (.one places, { known with classes })
  | .assert a, known =>
    let (places, assertions) := lookUp a (fun _ ↦ onAssertion a) known.assertions
    (.assert places, { known with assertions })
  | .seq r s, known =>
    let (r, known) := r.evaluate onClass onAssertion known
    let (s, known) := s.evaluate onClass onAssertion known
    (.seq r s, known)
  | .alt r s, known =>
    let (r, known) := r.evaluate onClass onAssertion known
    let (s, known) := s.evaluate onClass onAssertion known
    (.alt r s, known)
  | .iterate least most r, known =>
    let (r, known) := r.evaluate onClass onAssertion known
    (.iterate least most r, known)

/-! ## Searching -/

/-- Where a search stands. -/
structure Reach where
  /-- The places reached. -/
  places : Nat
  /-- The number of leaves that may yet be passed in further rounds. -/
  effort : Nat

/-- A step of a search, unless it would take too many rounds. -/
abbrev Step := Reach → Option Reach

/-- A step that is a round over so many leaves. -/
def Step.round (step : Step) (leaves : Nat) : Step := fun reach ↦
  if reach.effort < leaves then none else step { reach with effort := reach.effort - leaves }

/-- Makes a step so many times, or until it changes no places. -/
def Step.times (step : Step) : Nat → Step
  | 0, reach => some reach
  | count + 1, reach => do
    let next ← step reach
    if next.places = reach.places then some next else Step.times step count next

/-- Adds the places that up to so many steps reach, and stops when there are no new ones. -/
def Step.spread (step : Step) : Nat → Step
  | 0, reach => some reach
  | count + 1, reach => do
    let next ← step reach
    let places := reach.places ||| next.places
    if places = reach.places then some { next with places }
    else Step.spread step count { next with places }

/-- Adds the places that are reached over characters of a class: adding a place to the class turns
the bits of the stretch from there on around and ends in the place behind it. -/
def spreadOver (cls places : Nat) : Nat := ((places &&& cls) + cls) ^^^ cls ||| places

/-- Goes on to the places where matches can end that start in the places reached, in a text with so
many characters. -/
def reachEnds (size : Nat) : Regex Nat Nat → Step
  | .empty, reach => some reach
  | .one cls, reach => some { reach with places := (reach.places &&& cls) <<< 1 }
  | .assert a, reach => some { reach with places := reach.places &&& a }
  | .seq r s, reach => do
    let reach ← r.reachEnds size reach
    if reach.places = 0 then some reach else s.reachEnds size reach
  | .alt r s, reach => do
    let first ← r.reachEnds size reach
    let second ← s.reachEnds size { first with places := reach.places }
    some { second with places := first.places ||| second.places }
  | .iterate least most r, reach => do
    let reach ← Step.times (r.reachEnds size) least reach
    match most, r with
    | none, .one cls => some { reach with places := spreadOver cls reach.places }
    | none, _ => Step.spread (Step.round (r.reachEnds size) r.leaves) (size + 1) reach
    | some most, _ => Step.spread (r.reachEnds size) (most - least) reach

/-- The number of leaves that are worth passing in further rounds on a text with so many characters.
It is less for longer texts, because sets of places take longer there. -/
def effortOn (size : Nat) : Nat := Nat.pow 2 33 / (size + 1024)

/-- Whether there is a match in a text, given what classes and assertions mean. There is no answer
where the search takes too many rounds. -/
def occursByPlaces? [BEq σ] [BEq α] (contains : σ → Char → Bool)
    (holds : α → Option Char → Option Char → Bool) (r : Regex σ α) (cs : List Char) :
    Option Bool := do
  let cs := cs.toArray
  let onText := r.evaluate (fun cls ↦ placesBefore (contains cls) cs)
    (fun a ↦ placesBetween (holds a) cs) {}
  let reach ← onText.1.reachEnds cs.size ⟨Nat.pow 2 (cs.size + 1) - 1, effortOn cs.size⟩
  some (reach.places != 0)

end Regex

end RecordQuery
