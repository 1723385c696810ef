import CommandBot.Text.Case

/-!
The lower-case form of a text. Two capitals need more than their own form: the dotted I, which
becomes two characters, and sigma, which has a form of its own at the end of a word.
-/

namespace CommandBot.Text

/-- A letter with a case comes next, characters that do not count being passed over. -/
def meetsCased (cs : List Char) : Bool :=
  (cs.dropWhile isCaseIgnorable).head?.any isCased

/-- Lower-cases characters, given those before them, the nearest first. -/
def lowerFrom (before : List Char) : List Char → List Char
  | [] => []
  | c :: cs =>
    let lower :=
      if c == 'Σ' then [if meetsCased before && !meetsCased cs then 'ς' else 'σ']
      else if c == 'İ' then ['i', '\u0307']
      else [lowerChar c]
    lower ++ lowerFrom (c :: before) cs

/-- The lower-case form of a text. -/
def lowercase (text : String) : String :=
  String.ofList (lowerFrom [] text.toList)

end CommandBot.Text
