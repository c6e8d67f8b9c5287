import RecordQuery.Pattern.Form

/-!
# Beginnings of matches

The bytes that matches of a pattern begin with, as a short list in which preferred matches come
first. A beginning is whole if nothing follows it in its matches. There is no list where it would
not be short.

Where all beginnings are whole, the pattern comes to a choice between a few texts, and to look for
it is to look for these. A beginning that continues one before it says nothing new and is dropped.
So parts of a pattern can be of no account for it, whatever their size.
-/

namespace RecordQuery

/-- A beginning of matches. -/
structure Beginning where
  /-- The bytes. -/
  bytes : List UInt8
  /-- Whether the matches end here. -/
  whole : Bool
  deriving DecidableEq, Repr

namespace Beginning

/-- What is known of a beginning if more may follow. -/
def goingOn (b : Beginning) : Beginning := { b with whole := false }

/-- A beginning of limited length. -/
def cut (limit : Nat) (b : Beginning) : Beginning :=
  if b.bytes.length ≤ limit then b else ⟨b.bytes.take limit, false⟩

/-- Puts a beginning in front of others. Neighbours with the same bytes are one, which is whole only
if both are. -/
def before (b : Beginning) : List Beginning → List Beginning
  | [] => [b]
  | next :: others =>
    if b.bytes = next.bytes then ⟨b.bytes, b.whole && next.whole⟩ :: others
    else b :: next :: others

/-- Beginnings without equal neighbours. -/
def distinct (bs : List Beginning) : List Beginning := bs.foldr before []

/-- Beginnings without those that continue one before them. -/
def withoutContinued (bs : List Beginning) : List Beginning :=
  (bs.foldl (fun kept b ↦
    if kept.any (·.bytes.isPrefixOf b.bytes) then kept else b :: kept) []).reverse

end Beginning

/-- The beginnings of matches; `none` if nothing is known of them. -/
abbrev Beginnings := Option (List Beginning)

namespace Beginnings

/-! ## Limits -/

/-- The number of beginnings that a list may have. -/
def most : Nat := 250

/-- The length that a beginning may have. -/
def longest : Nat := 100

/-- The length that beginnings are cut to where there are too many. -/
def shortened : Nat := 4

/-- The number of members that a class may have for its members to be listed. -/
def mostMembers : Nat := 10

/-- The number of rounds of a repetition that are looked at. -/
def mostRounds : Nat := 10

/-! ## Combining -/

/-- The beginning of the empty text. -/
def ofEmpty : Beginnings := some [⟨[], true⟩]

/-- The beginning of a text. -/
def ofText (cs : List Char) : Beginnings :=
  some [Beginning.cut longest ⟨cs.flatMap String.utf8EncodeChar, true⟩]

/-- The beginnings of the characters of a class. -/
def ofClass (s : CharClass) : Beginnings :=
  let ranges := s.ranges.toList
  if mostMembers < ranges.foldl (fun n r ↦ n + (r.last + 1 - r.first)) 0 then none
  else
    let members := ranges.flatMap fun r ↦ List.range' r.first (r.last + 1 - r.first)
    some (members.map fun n ↦ ⟨String.utf8EncodeChar (.ofNat n), true⟩)

/-- The beginnings if more may follow. -/
def goingOn (s : Beginnings) : Beginnings := s.map (·.map Beginning.goingOn)

/-- Whether what follows makes a difference. -/
def anyWhole (s : Beginnings) : Bool := s.any (·.any (·.whole))

/-- The beginnings of either of two parts. -/
def unite (s t : Beginnings) : Beginnings := do
  let bs ← s
  let cs ← t
  if bs.length + cs.length ≤ most then some (Beginning.distinct (bs ++ cs))
  else
    let bs := Beginning.distinct (bs.map (.cut shortened))
    let cs := Beginning.distinct (cs.map (.cut shortened))
    if bs.length + cs.length ≤ most then some (Beginning.distinct (bs ++ cs)) else none

/-- The beginnings of a part that is followed by another. -/
def followedBy (s t : Beginnings) : Beginnings := do
  let bs ← s
  match t.filter fun cs ↦ bs.length * cs.length ≤ most with
  | none => if bs.any (·.bytes.isEmpty) then none else some (bs.map .goingOn)
  | some cs =>
    let longer := bs.flatMap fun b ↦
      if b.whole then cs.map fun c ↦ { c with bytes := b.bytes ++ c.bytes } else [b]
    some ((Beginning.distinct longer).map (.cut longest))

/-- Beginnings that are followed by a part so many times. -/
def followedByTimes (t : Beginnings) : Nat → Beginnings → Beginnings
  | 0, s => s
  | count + 1, s => if s.anyWhole then followedByTimes t count (s.followedBy t) else s

/-- The beginnings of a part repeated. -/
def repeated (least : Nat) (upTo : Option Nat) (lazy : Bool) (s : Beginnings) : Beginnings :=
  if least = 0 then
    let rounds := if upTo = some 1 then s else s.goingOn
    if lazy then ofEmpty.unite rounds else rounds.unite ofEmpty
  else
    let front := followedByTimes s (min least mostRounds) ofEmpty
    if upTo = some least ∧ least ≤ mostRounds then front else front.goingOn

/-! ## Texts to look for -/

/-- The ASCII characters that are so frequent in texts that it is of no use to look for one alone.
All bytes of other characters count as frequent. -/
def frequentCharacters : List Char := "\n\r (),-./0129:_abcdefghilmnoprstuvxy|".toList

/-- Whether a byte is worth to be looked for alone. -/
def isRare (b : UInt8) : Bool :=
  b < 0x80 && !frequentCharacters.contains (.ofNat b.toNat)

/-- How many bytes at the front of two lists are the same. -/
def sharedLength : List UInt8 → List UInt8 → Nat
  | b :: rest, c :: rest' => if b = c then sharedLength rest rest' + 1 else 0
  | _, _ => 0

/-- The length that beginnings are cut to before they are looked for, if they are cut. What they
share is looked for instead if it is long, if it is not short and they are many, or if it starts
with a rare byte, which is then looked for alone. `count` is the number of beginnings that there
were before some of them were dropped. -/
def cutLength? (count : Nat) (bs : List Beginning) : Option Nat :=
  match bs with
  | [] => none
  | first :: others =>
    let shared := others.foldl (fun n b ↦ min n (sharedLength first.bytes b.bytes))
      first.bytes.length
    let few := bs.all (·.whole) && bs.length ≤ 16
    if 1 < count && 1 ≤ shared && shared ≤ 3 && first.bytes.head?.any isRare then some 1
    else if 4 < shared || (1 < shared && !few) then some shared
    else none

/-- Whether to look for matches is to look for their beginnings. -/
def areTexts (s : Beginnings) : Bool :=
  s.any fun bs ↦
    let kept := Beginning.withoutContinued bs
    let limit? := cutLength? bs.length kept
    !kept.isEmpty && kept.all fun b ↦
      b.whole && !b.bytes.isEmpty && limit?.all (b.bytes.length ≤ ·)

end Beginnings

/-! ## Beginnings of forms -/

namespace Form

mutual

/-- The beginnings of the matches of a form. -/
def beginnings : Form → Beginnings
  | .empty => .ofEmpty
  | .text cs => .ofText cs
  | .one _ s => .ofClass s
  | .assert _ => .ofEmpty
  | .iterate least most lazy body => body.beginnings.repeated least most lazy
  | .group body => body.beginnings
  | .concat parts => beginningsBehind .ofEmpty parts
  | .choice alternatives => beginningsBeside (some []) alternatives

/-- The beginnings of a sequence, of which the front has certain beginnings. -/
def beginningsBehind (front : Beginnings) : List Form → Beginnings
  | [] => front
  | part :: rest =>
    if front.anyWhole then beginningsBehind (front.followedBy part.beginnings) rest else front

/-- The beginnings of a choice, of which the alternatives before have certain beginnings. -/
def beginningsBeside (others : Beginnings) : List Form → Beginnings
  | [] => others
  | part :: rest =>
    if others.isNone then none else beginningsBeside (others.unite part.beginnings) rest

end

mutual

/-- Whether a form neither remembers what it matches nor has assertions. -/
def isPlain : Form → Bool
  | .empty => true
  | .text _ => true
  | .one _ _ => true
  | .assert _ => false
  | .iterate _ _ _ body => body.isPlain
  | .group _ => false
  | .concat parts => arePlain parts
  | .choice alternatives => arePlain alternatives

/-- Whether several forms are plain. -/
def arePlain : List Form → Bool
  | [] => true
  | part :: rest => part.isPlain && arePlain rest

end

/-- Whether a pattern comes to a choice between a few texts. One that can match the empty text does
not, since the empty text is not looked for. -/
def isFewTexts (form : Form) : Bool :=
  form.isPlain && form.leastLength? != some 0 && form.beginnings.areTexts

end Form

end RecordQuery
