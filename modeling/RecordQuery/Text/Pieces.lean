/-!
# Pieces of texts

The pieces into which a delimiter cuts a text. Cuts are made from the left and do not overlap. The
empty delimiter stands before, between and behind all characters.
-/

namespace RecordQuery

namespace Text

/-- Puts a character in front of the first piece. -/
def extendFirst (c : Char) : List (List Char) → List (List Char)
  | [] => [[c]]
  | piece :: others => (c :: piece) :: others

/-- The pieces of a text that remain after dropping so many characters at its front. -/
def piecesAfter (delimiter : List Char) : Nat → List Char → List (List Char)
  | _, [] => [[]]
  | dropped + 1, _ :: rest => piecesAfter delimiter dropped rest
  | 0, c :: rest =>
    if delimiter.isPrefixOf (c :: rest) then
      [] :: piecesAfter delimiter (delimiter.length - 1) rest
    else extendFirst c (piecesAfter delimiter 0 rest)

/-- The pieces between the occurrences of a delimiter. -/
def pieces (delimiter cs : List Char) : List (List Char) :=
  if delimiter.isEmpty then [] :: cs.map (fun c ↦ [c]) ++ [[]] else piecesAfter delimiter 0 cs

end Text

end RecordQuery
