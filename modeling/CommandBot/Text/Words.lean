import CommandBot.Text.Blank

/-!
Words: the pieces between blanks. There is no quoting, so a word is never empty and never holds a
blank. Arguments travel as lists of words and are stored joined by single spaces.
-/

namespace CommandBot.Text

/-- Puts a finished word before the words that follow it; an empty one is no word. -/
def closeWord (word : List Char) (rest : List (List Char)) : List (List Char) :=
  if word.isEmpty then rest else word :: rest

/-- The word that the characters open with (empty when they open with a blank) and the words after
it. -/
def scanWords : List Char → List Char × List (List Char)
  | [] => ([], [])
  | c :: cs =>
    let (word, rest) := scanWords cs
    if isBlank c then ([], closeWord word rest) else (c :: word, rest)

/-- The words of a list of characters. -/
def wordsOf (cs : List Char) : List (List Char) :=
  let (word, rest) := scanWords cs
  closeWord word rest

/-- The words of a text, in order. -/
def words (text : String) : List String :=
  (wordsOf text.toList).map String.ofList

/-- Writes words back with one space between neighbours. -/
def unwords (args : List String) : String :=
  " ".intercalate args

end CommandBot.Text
