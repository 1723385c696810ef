import CommandBot.Text.Cut

/-!
Lines of a byte stream. A line feed ends a line, one carriage return before it is dropped, and the
last line may lack its end. A line that is not UTF-8 ends the stream.
-/

namespace CommandBot.Text

/-- The lines that can be read from a stream, and whether an unreadable line ended it. -/
structure Lines where
  lines : List String
  broken : Bool

/-- Drops one carriage return at the end. -/
def dropReturn (line : List UInt8) : List UInt8 :=
  if line.getLast? = some 13 then line.dropLast else line

/-- The lines of a stream of bytes, without their ends. What follows the last line feed is a line if
it is not empty, and keeps its carriage return. -/
def splitLines (bytes : List UInt8) : List (List UInt8) :=
  let pieces := splitOn 10 bytes
  let unfinished := (pieces.getLast?.getD [])
  pieces.dropLast.map dropReturn ++ if unfinished.isEmpty then [] else [unfinished]

/-- Decodes lines up to the first one that is not UTF-8. -/
def decodeLines : List (List UInt8) → Lines
  | [] => ⟨[], false⟩
  | line :: lines =>
    match String.fromUTF8? ⟨line.toArray⟩ with
    | none => ⟨[], true⟩
    | some text =>
      let later := decodeLines lines
      ⟨text :: later.lines, later.broken⟩

/-- The lines of a stream. -/
def Lines.ofBytes (bytes : ByteArray) : Lines :=
  decodeLines (splitLines bytes.toList)

end CommandBot.Text
