import CommandBot.Yaml.Scalar

/-!
Reading a YAML document made of mappings, sequences and scalars, in block and in flow style.
Anchors, aliases, tags, directives, block scalars and explicit keys are refused. A text holds at
most one document.
-/

namespace CommandBot.Yaml

/-- A node of a document. -/
inductive Node where
  | scalar (text : String) (plain : Bool)
  | sequence (items : List Node)
  | mapping (entries : List (Node × Node))

/-- What stands where a node is left out. -/
def Node.empty : Node := .scalar "" true

/-- The mark that a file may start with. -/
def fileMark : Char := '\ufeff'

/-- Goes to the next character that is not a blank, a comment or a line end. Tabs may not stand
where a block may start. A file mark at the start of a line is passed over, but takes up a
column. -/
def advanceFrom (flow comment fresh : Bool) (column : Nat) : List Char → Cursor
  | [] => ⟨[], column, fresh⟩
  | c :: cs =>
    if isBreak c then advanceFrom flow false true 0 cs
    else if comment then advanceFrom flow true fresh (column + 1) cs
    else if c == ' ' || (c == '\t' && (flow || !fresh)) || (c == fileMark && column == 0) then
      advanceFrom flow false fresh (column + 1) cs
    else if c == '#' then advanceFrom flow true fresh (column + 1) cs
    else ⟨c :: cs, column, fresh⟩

/-- The next cursor with content in a block. -/
def Cursor.advance (k : Cursor) : Cursor := advanceFrom false false k.fresh k.column k.rest

/-- The next cursor with content inside brackets. It is fresh if a line ended on the way. -/
def Cursor.advanceFlow (k : Cursor) : Cursor := advanceFrom true false k.fresh k.column k.rest

/-- The cursor behind the next character. -/
def Cursor.step (k : Cursor) (fresh : Bool) : Cursor := ⟨k.rest.drop 1, k.column + 1, fresh⟩

/-- The document ends here. -/
def Cursor.isEnd (k : Cursor) : Bool := k.rest.isEmpty || isMarker k.column k.rest

/-- An item of a sequence starts here. -/
def Cursor.isDash (k : Cursor) : Bool :=
  match k.rest with
  | '-' :: cs => endsWord cs
  | _ => false

/-- The value of a key starts here. -/
def Cursor.isColon (k : Cursor) : Bool :=
  match k.rest with
  | ':' :: cs => endsWord cs
  | _ => false

/-- The greatest number of bytes in UTF-8 from the start of a key to its colon. -/
def keyLimit : Nat := 1024

/-- A key may stand from the first cursor to the second: it is on one line and not too long. -/
def Cursor.spansKey (k next : Cursor) : Bool :=
  let span := k.rest.take (k.rest.length - next.rest.length)
  !span.any isBreak && (String.ofList span).utf8ByteSize ≤ keyLimit

/-- Reads a scalar in either style. -/
def scalar? (flow : Bool) (floor : Nat) (k : Cursor) : Option (Node × Scanned) :=
  match quoted? k with
  | some s => some (.scalar (String.ofList s.text) false, s)
  | none => (plain? flow floor k).map fun s => (.scalar (String.ofList s.text) true, s)

mutual

/-- Reads a node inside brackets. -/
def flowNode? (floor : Nat) : Nat → Cursor → Option (Node × Cursor)
  | 0, _ => none
  | fuel + 1, k =>
    if isMarker k.column k.rest then none
    else match k.rest with
    | '{' :: _ =>
      (flowEntries? floor fuel (k.step false)).map fun (es, k) => (.mapping es, k)
    | '[' :: _ => (flowItems? floor fuel (k.step false)).map fun (ns, k) => (.sequence ns, k)
    | _ => (scalar? true floor k).map fun (n, s) => (n, s.next)

/-- Reads an entry inside brackets: a node, and the value that a colon gives it. -/
def flowEntry? (floor : Nat) : Nat → Cursor → Option (Node × Node × Cursor)
  | 0, _ => none
  | fuel + 1, start => do
    let (key, k) ← flowNode? floor fuel start
    let k := k.advanceFlow
    if k.rest.head? != some ':' then return (key, .empty, k)
    else if !start.spansKey k then none
    else
      let k := (k.step false).advanceFlow
      if k.rest.head?.all fun c => c == ',' || c == ']' || c == '}' then return (key, .empty, k)
      else
        let (value, k) ← flowNode? floor fuel k
        return (key, value, k.advanceFlow)

/-- Reads the entries of a mapping up to its closing brace. -/
def flowEntries? (floor : Nat) : Nat → Cursor → Option (List (Node × Node) × Cursor)
  | 0, _ => none
  | fuel + 1, k => do
    let k := k.advanceFlow
    if k.rest.head? == some '}' then return ([], k.step false)
    else
      let (key, value, k) ← flowEntry? floor fuel k
      match k.rest.head? with
      | some '}' => return ([(key, value)], k.step false)
      | some ',' =>
        let (entries, k) ← flowEntries? floor fuel (k.step false)
        return ((key, value) :: entries, k)
      | _ => none

/-- Reads the items of a sequence up to its closing bracket. An entry is a mapping of its own. -/
def flowItems? (floor : Nat) : Nat → Cursor → Option (List Node × Cursor)
  | 0, _ => none
  | fuel + 1, k => do
    let k := k.advanceFlow
    if k.rest.head? == some ']' then return ([], k.step false)
    else
      let (item, _, k) ← flowEntry? floor fuel k
      match k.rest.head? with
      | some ']' => return ([item], k.step false)
      | some ',' =>
        let (items, k) ← flowItems? floor fuel (k.step false)
        return (item :: items, k)
      | _ => none

end

/-- Reads a key of a block mapping with its colon. -/
def key? (k : Cursor) : Option (Node × Cursor) := do
  let (key, s) ← scalar? false k.column k
  let next := s.next.advance
  if k.spansKey next && next.isColon then return (key, next.step false) else none

mutual

/-- Reads a node of a block whose lines are indented by at least `floor`, and goes to what follows
it. -/
def blockNode? (floor : Nat) : Nat → Cursor → Option (Node × Cursor)
  | 0, _ => none
  | fuel + 1, k =>
    match k.rest with
    | '{' :: _ | '[' :: _ => do
      let (node, next) ← flowNode? floor fuel k
      let next := next.advance
      if !next.fresh && next.isColon then none else return (node, next)
    | _ =>
      if k.isDash then
        if k.fresh then (blockItems? k.column fuel k).map fun (ns, k) => (.sequence ns, k)
        else none
      else
        match scalar? false floor k with
        | none => none
        | some (node, s) =>
          let next := s.next.advance
          if !next.fresh && next.isColon then
            if k.fresh then
              (blockEntries? k.column fuel k).map fun (es, k) => (.mapping es, k)
            else none
          else some (node, next)

/-- Reads the entries of a mapping whose keys stand at a column, the first one at the cursor. -/
def blockEntries? (column : Nat) : Nat → Cursor → Option (List (Node × Node) × Cursor)
  | 0, _ => none
  | fuel + 1, k => do
    let (key, afterColon) ← key? k
    let k := afterColon.advance
    let (value, k) ←
      if k.isEnd then some (.empty, k)
      else if !k.fresh || column < k.column then blockNode? (column + 1) fuel k
      else if k.column == column && k.isDash then
        (blockItems? column fuel k).map fun (ns, k) => (.sequence ns, k)
      else some (.empty, k)
    if k.isEnd || (k.fresh && k.column < column) then return ([(key, value)], k)
    else if !k.fresh || column < k.column then none
    else
      let (entries, k) ← blockEntries? column fuel k
      return ((key, value) :: entries, k)

/-- Reads the items of a sequence whose dashes stand at a column, the first one at the cursor. -/
def blockItems? (column : Nat) : Nat → Cursor → Option (List Node × Cursor)
  | 0, _ => none
  | fuel + 1, k => do
    let k := (k.step true).advance
    let (item, k) ←
      if k.isEnd || k.column ≤ column then some (.empty, k) else blockNode? (column + 1) fuel k
    if k.isEnd || (k.fresh && k.column < column) then return ([item], k)
    else if !k.fresh || column < k.column then none
    else if k.isDash then
      let (items, k) ← blockItems? column fuel k
      return (item :: items, k)
    else return ([item], k)

end

/-- Passes over lines of three points, and says whether nothing else follows. -/
def isFinished : Nat → Cursor → Bool
  | 0, _ => false
  | fuel + 1, k =>
    match k.rest with
    | [] => true
    | '.' :: '.' :: '.' :: cs =>
      isMarker k.column k.rest && isFinished fuel (Cursor.advance ⟨cs, 3, false⟩)
    | _ => false

/-- What follows a line of three dashes, if the cursor is at one. -/
def Cursor.afterDashes? (k : Cursor) : Option Cursor :=
  match k.rest with
  | '-' :: '-' :: '-' :: cs =>
    if isMarker k.column k.rest then some (Cursor.advance ⟨cs, 3, false⟩) else none
  | _ => none

/-- Reads the document at the start of a text. One that is left out has to start with three dashes,
unless the text has no content at all. -/
def documentFrom? (cs : List Char) : Option Node := do
  let start := Cursor.advance ⟨cs, 0, true⟩
  let fuel := 4 * cs.length + 4
  let content := start.afterDashes?.getD start
  if content.isEnd then
    if (start.rest.isEmpty || start.afterDashes?.isSome) && isFinished fuel content then
      some .empty
    else none
  else
    let (node, k) ← blockNode? 0 fuel content
    if k.isEnd && isFinished fuel k then some node else none

/-- The characters that a document may hold. -/
def isPrintable (c : Char) : Bool :=
  let n := c.toNat
  n == 0x09 || n == 0x0A || n == 0x0D || (0x20 ≤ n && n ≤ 0x7E) || n == 0x85 ||
    (0xA0 ≤ n && n ≤ 0xFFFD) || 0x10000 ≤ n

/-- Replaces carriage returns, with or without a line feed, and next-line characters by line
feeds. -/
def normalBreaks : List Char → List Char
  | [] => []
  | '\r' :: '\n' :: cs => '\n' :: normalBreaks cs
  | '\r' :: cs => '\n' :: normalBreaks cs
  | '\u0085' :: cs => '\n' :: normalBreaks cs
  | c :: cs => c :: normalBreaks cs

/-- The document that a text holds. A text without content holds an empty one. -/
def document? (text : String) : Option Node :=
  if text.toList.all isPrintable then documentFrom? (normalBreaks text.toList) else none

end CommandBot.Yaml
