import CommandBot.Table
import CommandBot.Text.Cut

/-!
The files that a bot can see: a tree of directories and files, addressed by paths that start at the
working directory or at the root. Reading and writing fail for the reasons a file system gives; a
write that fails leaves the tree as it is.
-/

namespace CommandBot

/-- Why a file cannot be read or written. -/
inductive FileError where
  | notFound
  | notDirectory
  | isDirectory
  | nameTooLong
  | nulInName
  | notText
  deriving DecidableEq, Repr

/-- The wording of the reason. -/
def FileError.message : FileError → String
  | notFound => "No such file or directory (os error 2)"
  | notDirectory => "Not a directory (os error 20)"
  | isDirectory => "Is a directory (os error 21)"
  | nameTooLong => "File name too long (os error 36)"
  | nulInName => "file name contained an unexpected NUL byte"
  | notText => "stream did not contain valid UTF-8"

/-- What stands at a place of the tree. -/
inductive FileEntry where
  | directory
  | file (content : ByteArray)

/-- A tree of files: entries under their places, a place being written as the names that lead to it
joined by slashes. Some directories have no entry: the working directory, those that it lies in,
whose names are two points each, and the root, which lies before a slash. -/
structure Files where
  entries : Table FileEntry

namespace Files

/-- The tree without files. -/
def empty : Files := ⟨Table.empty⟩

instance : Inhabited Files := ⟨empty⟩

/-- A path cut at its slashes, empty names dropped. -/
structure Path where
  names : List String
  absolute : Bool
  directory : Bool

/-- The path that a text writes. -/
def Path.ofText (text : String) : Path where
  names := ((Text.splitOn '/' text.toList).filter (!·.isEmpty)).map String.ofList
  absolute := text.toList.head? == some '/'
  directory := text.toList.getLast? == some '/'

/-- The greatest number of bytes in a path. -/
def pathLimit : Nat := 4095

/-- The greatest number of bytes in a name. -/
def nameLimit : Nat := 255

/-- The path that a text writes, if it is one to look for. -/
def Path.parse (text : String) : Except FileError Path :=
  if text.toList.contains '\x00' then .error .nulInName
  else if text.isEmpty then .error .notFound
  else if pathLimit < text.utf8ByteSize then .error .nameTooLong
  else .ok (.ofText text)

/-- The place of a list of names, outermost first. -/
def place (names : List String) : String := "/".intercalate names

/-- The names walked where a path starts, innermost first. The name of the root is empty. -/
def Path.start (path : Path) : List String := if path.absolute then [""] else []

/-- The names walked once a walk goes outwards. The root lies in itself. -/
def outwards : List String → List String
  | [] => [".."]
  | [""] => [""]
  | ".." :: outer => ".." :: ".." :: outer
  | _ :: outer => outer

/-- What a path leads to: a directory, a file, or a free place in a directory that exists. -/
inductive Spot where
  | directory
  | file (place : String) (content : ByteArray)
  | free (place : String)

/-- Follows names from a directory. `here` holds the names walked so far, innermost first. -/
def walk (files : Files) (here : List String) : List String → Except FileError Spot
  | [] => .ok .directory
  | "." :: names => files.walk here names
  | ".." :: names => files.walk (outwards here) names
  | name :: names =>
    let spot := place (name :: here).reverse
    if nameLimit < name.utf8ByteSize then .error .nameTooLong
    else match files.entries.get? spot with
      | some .directory => files.walk (name :: here) names
      | some (.file content) =>
        if names.isEmpty then .ok (.file spot content) else .error .notDirectory
      | none => if names.isEmpty then .ok (.free spot) else .error .notFound

/-- What a path leads to. -/
def locate (files : Files) (path : Path) : Except FileError Spot := files.walk path.start path.names

/-- The places that a walk comes past, outermost first. -/
def placesFrom (here : List String) : List String → List String
  | [] => []
  | "." :: names => placesFrom here names
  | ".." :: names => placesFrom (outwards here) names
  | name :: names => place (name :: here).reverse :: placesFrom (name :: here) names

/-- The places that matter to what a path leads to. -/
def places (path : String) : List String :=
  match Path.parse path with
  | .ok path => placesFrom path.start path.names
  | .error _ => []

/-- The bytes of the file at a path. A slash at the end asks for a directory. -/
def read (files : Files) (path : String) : Except FileError ByteArray := do
  let path ← Path.parse path
  match ← files.locate path with
  | .directory => .error .isDirectory
  | .file _ content => if path.directory then .error .notDirectory else .ok content
  | .free _ => .error .notFound

/-- The text of the file at a path. -/
def readText (files : Files) (path : String) : Except FileError String := do
  match String.fromUTF8? (← files.read path) with
  | some text => .ok text
  | none => .error .notText

/-- Something stands at a path. -/
def hasEntry (files : Files) (path : String) : Bool :=
  match files.read path with
  | .ok _ | .error .isDirectory => true
  | .error _ => false

/-- Puts an entry at a place. -/
def put (files : Files) (place : String) (entry : FileEntry) : Files :=
  ⟨files.entries.insert place entry⟩

/-- Replaces the whole file at a path, or makes it if its directory exists. What a slash at the end
follows is not looked at: no file can be made there. -/
def write (files : Files) (path : String) (content : ByteArray) : Except FileError Files := do
  let path ← Path.parse path
  if path.directory then
    match ← files.locate { path with names := path.names.dropLast } with
    | .directory => .error .isDirectory
    | .file .. => .error .notDirectory
    | .free _ => .error .notFound
  else
    match ← files.locate path with
    | .directory => .error .isDirectory
    | .file spot _ | .free spot => .ok (files.put spot (.file content))

end Files

end CommandBot
