import CommandBot.Table

/-!
Templates: texts with placeholders `{key}`, where a key is made of ASCII letters, digits and
underscores. All placeholders are replaced at once; what is put in is not looked at again.
-/

namespace CommandBot.Template

/-- The characters that keys of placeholders are made of. -/
def isKeyChar (c : Char) : Bool :=
  c.isAlphanum || c == '_'

/-- The key of the placeholder that stands after an opening brace, and what follows its closing
brace. -/
def key? (cs : List Char) : Option (List Char × List Char) :=
  let key := cs.takeWhile isKeyChar
  match key, cs.dropWhile isKeyChar with
  | _ :: _, '}' :: rest => some (key, rest)
  | _, _ => none

/-- Fills in the placeholders. `skip` characters are passed over: the rest of a placeholder that has
been replaced already. -/
def fillFrom (value : String → List Char) : Nat → List Char → List Char
  | _, [] => []
  | skip + 1, _ :: cs => fillFrom value skip cs
  | 0, c :: cs =>
    match if c == '{' then key? cs else none with
    | some (key, _) => value (String.ofList key) ++ fillFrom value (key.length + 1) cs
    | none => c :: fillFrom value 0 cs

/-- The template with each placeholder replaced by the value under its key, or by nothing if there
is none. -/
def fill (template : String) (values : Table String) : String :=
  String.ofList (fillFrom (fun key => ((values.get? key).getD "").toList) 0 template.toList)

end CommandBot.Template
