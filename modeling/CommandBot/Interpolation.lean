import CommandBot.Table

/-!
Environment variables in a text: `${NAME}`, or `${NAME:-default}` with a text to use where the
variable is not set. All placeholders are replaced at once; what is put in is not looked at again.
-/

namespace CommandBot.Interpolation

/-- A placeholder for a variable, with the text to use where it is not set. -/
structure Placeholder where
  name : String
  fallback : Option (List Char)
  deriving DecidableEq, Repr

/-- Letters, digits and underscores, all of them ASCII. -/
def isNameChar (c : Char) : Bool :=
  c.isAlphanum || c == '_'

/-- The placeholder that the characters after a dollar sign write, and how many they are. A name
does not start with a digit, and a fallback goes on to the next closing brace. -/
def placeholder? (cs : List Char) : Option (Placeholder × Nat) :=
  match cs with
  | '{' :: cs =>
    let name := cs.takeWhile isNameChar
    if name.head?.all Char.isDigit then none
    else match cs.dropWhile isNameChar with
      | '}' :: _ => some (⟨String.ofList name, none⟩, name.length + 2)
      | ':' :: '-' :: cs =>
        let fallback := cs.takeWhile (· != '}')
        if fallback.length < cs.length then
          some (⟨String.ofList name, some fallback⟩, name.length + fallback.length + 4)
        else none
      | _ => none
  | _ => none

/-- A piece of a text: a character that stands for itself, or a placeholder. -/
inductive Piece where
  | char (c : Char)
  | variable (placeholder : Placeholder)
  deriving DecidableEq, Repr

/-- The pieces of a text, from left to right. `skip` characters are passed over: the rest of a
placeholder that is a piece already. -/
def piecesFrom : Nat → List Char → List Piece
  | _, [] => []
  | skip + 1, _ :: cs => piecesFrom skip cs
  | 0, c :: cs =>
    match if c == '$' then placeholder? cs else none with
    | some (placeholder, length) => .variable placeholder :: piecesFrom length cs
    | none => .char c :: piecesFrom 0 cs

/-- The pieces of a text. -/
def pieces (text : String) : List Piece := piecesFrom 0 text.toList

/-- The variables that stand in a text. -/
def names (text : String) : List String :=
  (pieces text).filterMap fun
    | .char _ => none
    | .variable placeholder => some placeholder.name

/-- What a piece reads as; nothing if its variable is not set and there is no text to use
instead. -/
def Piece.value? (env : Table String) : Piece → Option (List Char)
  | .char c => some [c]
  | .variable placeholder =>
    ((env.get? placeholder.name).map String.toList) <|> placeholder.fallback

/-- The variable that a piece misses. -/
def Piece.missing? (env : Table String) (piece : Piece) : Option String :=
  match piece with
  | .char _ => none
  | .variable placeholder => if (piece.value? env).isNone then some placeholder.name else none

/-- The text with its placeholders replaced, or the variables that are missing, as often as they
are. -/
def interpolate (env : Table String) (text : String) : Except (List String) String :=
  let pieces := pieces text
  let missing := pieces.filterMap (·.missing? env)
  if missing.isEmpty then
    .ok (String.ofList (pieces.flatMap fun piece => (piece.value? env).getD []))
  else .error missing

end CommandBot.Interpolation
