import SplitPlanning.Text.LetterCase

/-!
# Lower case of a text

Two characters need more than a table: the capital I with a dot above becomes two characters, and a
capital sigma becomes the final form at the end of a word, that is, when a cased letter stands
before it and none after it, characters that may stand inside a word being passed over.
-/

namespace SplitPlanning.Text

/-- Whether the nearest character that is not passed over is a cased letter. -/
def nextIsCased (s : List Char) : Bool :=
  match s.dropWhile isCaseIgnorable with
  | [] => false
  | c :: _ => isCased c

/-- The lower case of a character; the text before it has the nearest character first. -/
def lowerBetween (before : List Char) (c : Char) (after : List Char) : List Char :=
  if c = 'Σ' then
    if nextIsCased before && !nextIsCased after then ['ς'] else ['σ']
  else if c = 'İ' then
    ['i', '\u0307']
  else
    [lowerChar c]

/-- The lower case of a text that follows the characters `before`, nearest first. -/
def lowerAfter (before : List Char) : List Char → List Char
  | [] => []
  | c :: rest => lowerBetween before c rest ++ lowerAfter (c :: before) rest

def lower (s : List Char) : List Char :=
  lowerAfter [] s

end SplitPlanning.Text
