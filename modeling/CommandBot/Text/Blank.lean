/-!
Blank characters. Every place that speaks of blanks (words, trimming, user names, the command mark)
means the one class defined here.
-/

namespace CommandBot.Text

/-- A character is blank when it has the Unicode property `White_Space`: 25 code points, among them
the ideographic space but not the zero-width space. -/
def isBlank (c : Char) : Bool :=
  let n := c.toNat
  (0x09 ≤ n && n ≤ 0x0D) || n == 0x20 || n == 0x85 || n == 0xA0 || n == 0x1680 ||
    (0x2000 ≤ n && n ≤ 0x200A) || n == 0x2028 || n == 0x2029 || n == 0x202F || n == 0x205F ||
    n == 0x3000

theorem isBlank_space : isBlank ' ' = true := by decide

theorem isBlank_carriageReturn : isBlank '\r' = true := by decide

/-- The text holds a blank somewhere. -/
def hasBlank (text : String) : Bool :=
  text.toList.any isBlank

/-- Drops blanks from the end of a list of characters. -/
def dropBlankEnd (cs : List Char) : List Char :=
  (cs.reverse.dropWhile isBlank).reverse

/-- Drops blanks from the end. -/
def trimEnd (text : String) : String :=
  String.ofList (dropBlankEnd text.toList)

/-- Drops blanks from both ends. -/
def trim (text : String) : String :=
  String.ofList (dropBlankEnd (text.toList.dropWhile isBlank))

end CommandBot.Text
