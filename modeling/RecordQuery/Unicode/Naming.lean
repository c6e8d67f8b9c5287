import RecordQuery.Unicode.Age
import RecordQuery.Unicode.SentenceBreak

/-!
# Names of character sets

The sets of characters that the Unicode standard has names for: properties, general categories,
scripts, ages and the classes of breaks. Names are matched loosely. Case, blanks, hyphens and
underscores do not matter, nor does a leading `is`; characters beyond ASCII are dropped.

A name alone is looked for among the properties, then the categories, then the scripts. Three short
names belong to a category although a property shares them. Ages and breaks take the name of the
property and that of its value.
-/

namespace RecordQuery

namespace CharacterSet

/-- The form in which names are compared. A lone `c` left by the removal of `is` keeps it, because
`isc` is the name of something else. -/
def normalised (name : String) : String :=
  let (is, body) := match name.toList with
    | a :: b :: rest =>
      if a.toLower = 'i' ∧ b.toLower = 's' then (true, rest) else (false, a :: b :: rest)
    | cs => (false, cs)
  let kept := body.filter fun c ↦ c.toNat < 0x80 && c != ' ' && c != '_' && c != '-'
  let kept := kept.map Char.toLower
  if is ∧ kept = ['c'] then "isc" else String.ofList kept

/-- The set of a category, by its normalised name. -/
def category? (name : String) : Option CodePoints :=
  if name = "any" then some CodePoints.empty.compl
  else if name = "assigned" then some Category.unassigned.members.compl
  else if name = "ascii" then some (.range '\x00' '\x7f')
  else (Category.named? name).map Category.membersOf

/-- The set with a name. -/
def named? (name : String) : Option CodePoints :=
  let name := normalised name
  let property? := if ["cf", "sc", "lc"].contains name then none else Property.named? name
  property? <|> category? name <|> (Script.named? name).map (·.own)

/-- The set of the characters for which a property that has many values has the given one. -/
def valued? (property value : String) : Option CodePoints :=
  let property := normalised property
  let value := normalised value
  if ["gc", "generalcategory"].contains property then category? value
  else if ["sc", "script"].contains property then (Script.named? value).map (·.own)
  else if ["scx", "scriptextensions"].contains property then
    (Script.named? value).map Script.extended
  else if property = "age" then Edition.holding? value
  else if ["gcb", "graphemeclusterbreak"].contains property then
    (GraphemeBreak.named? value).map GraphemeBreak.members
  else if ["wb", "wordbreak"].contains property then
    (WordBreak.named? value).map WordBreak.members
  else if ["sb", "sentencebreak"].contains property then
    (SentenceBreak.named? value).map SentenceBreak.members
  else none

end CharacterSet

end RecordQuery
