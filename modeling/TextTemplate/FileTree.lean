import TextTemplate.Path

/-!
# Files

The files below a directory and what their contents are. A directory exists if a file is in it, and
the directory at the top always does. Of what lies outside the top little is known: there are the
directories above it, which can be written to and in which nothing is found, and under the root the
null device, which is empty and stays so.
-/

namespace TextTemplate

/-- **Why a file cannot be read or written.** -/
inductive FileFault where
  /-- There is no such file. -/
  | missing
  /-- A directory is needed where a file is. -/
  | notDirectory
  /-- A file is needed where a directory is. -/
  | isDirectory
  /-- The path or a name in it is longer than the system allows. -/
  | nameTooLong
  /-- The path holds the character with which the system ends a path. -/
  | zeroCharacter
  /-- Something else, in the words of the system. -/
  | other (wording : String)
deriving DecidableEq, Repr

/-- The wording of a fault. -/
def FileFault.message : FileFault → String
  | .missing => "No such file or directory (os error 2)"
  | .notDirectory => "Not a directory (os error 20)"
  | .isDirectory => "Is a directory (os error 21)"
  | .nameTooLong => "File name too long (os error 36)"
  | .zeroCharacter => "file name contained an unexpected NUL byte"
  | .other wording => wording

/-- Whether a fault means that there is no file of that name, so that none can be found there. -/
def FileFault.isAbsence : FileFault → Bool
  | .other _ => false
  | _ => true

/-- **Files below a directory**, each with the names that lead to it. -/
structure FileTree where
  files : List (List String × String) := []
deriving DecidableEq, Repr

namespace FileTree

/-- What a path leads to. -/
inductive Place where
  | file (names : List String) (content : String)
  | directory (names : List String)
  /-- A directory above the top. -/
  | above
  /-- The root, or one of the directories under it that lead to the null device. -/
  | system (names : List String)
  /-- The null device. -/
  | nullDevice
deriving DecidableEq, Repr

/-- The tree of files given by their paths. -/
def ofList (files : List (String × String)) : FileTree :=
  ⟨files.map fun (path, content) => (Path.pieces path, content)⟩

/-- The files with their paths. -/
def toList (t : FileTree) : List (String × String) :=
  t.files.map fun (names, content) => ("/".intercalate names, content)

/-- What the names lead to. -/
def at? (t : FileTree) (names : List String) : Option Place :=
  match t.files.lookup names with
  | some content => some (.file names content)
  | none => if t.files.any fun (p, _) => names.isPrefixOf p then some (.directory names) else none

/-- The number of bytes that a name may have. -/
def nameLimit : Nat := 255

/-- The number of bytes that a path may have. -/
def pathLimit : Nat := 4095

/-- Whether a piece of a path stays at a place or goes up, and so is no name. -/
def isDots (piece : String) : Bool := piece == "" || piece == "." || piece == ".."

/-- The names that lead from the root to the null device. -/
def nullPath : List String := ["dev", "null"]

/-- What a name stands for in a directory outside the top. -/
def systemAt? (names : List String) : Option Place :=
  if names == nullPath then some .nullDevice
  else if names.isPrefixOf nullPath then some (.system names)
  else none

/-- What a name stands for at a place where names can be looked up. -/
def lookUp (t : FileTree) (name : String) : Place → Option Place
  | .directory names => t.at? (names ++ [name])
  | .system names => systemAt? (names ++ [name])
  | _ => none

/-- The directory that holds a place. The root holds itself. -/
def above : Place → Place
  | .directory names => if names.isEmpty then .above else .directory names.dropLast
  | .system names => .system names.dropLast
  | place => place

/-- Whether a place is no directory. -/
def Place.isFile : Place → Bool
  | .file _ _ | .nullDevice => true
  | _ => false

/-- One step from a place by a piece of a path. -/
def step (t : FileTree) (place : Place) (piece : String) : Except FileFault Place :=
  if place.isFile then throw .notDirectory
  else if piece == "" || piece == "." then return place
  else if piece == ".." then return above place
  else if nameLimit < piece.utf8ByteSize then throw .nameTooLong
  else match t.lookUp piece place with
    | some found => return found
    | none => throw .missing

/-- Where a path starts. -/
def start (path : String) : Place := if Path.isAbsolute path then .system [] else .directory []

/-- The pieces of a path, if the system takes it at all. -/
def pieces (path : String) : Except FileFault (List String) :=
  if path.contains '\x00' then throw .zeroCharacter
  else if path.isEmpty then throw .missing
  else if pathLimit < path.utf8ByteSize then throw .nameTooLong
  else return Path.pieces path

/-- **What a path leads to.** -/
def find (t : FileTree) (path : String) : Except FileFault Place := do
  (← pieces path).foldlM t.step (start path)

/-- **The content of a file.** -/
def read (t : FileTree) (path : String) : Except FileFault String := do
  match ← t.find path with
  | .file _ content => return content
  | .nullDevice => return ""
  | _ => throw .isDirectory

/-- The tree with the content of a file put in. -/
def put (t : FileTree) (names : List String) (content : String) : FileTree :=
  match t.files.lookup names with
  | none => ⟨t.files ++ [(names, content)]⟩
  | some _ => ⟨t.files.map fun (n, c) => if n == names then (n, content) else (n, c)⟩

/-- The pieces of a path in front of the last one, and the last one. The slashes behind it are taken
as a part of it, which makes it no name of a file. -/
def splitLast (pieces : List String) : List String × String :=
  match pieces.reverse.dropWhile (· == "") with
  | [] => (pieces, "")
  | last :: rest => (rest.reverse, if pieces.getLast? == some "" then last ++ "/" else last)

/-- Whether a piece can be the name of a file. -/
def isFileName (piece : String) : Bool :=
  !(isDots piece || piece.contains '/')

/-- **Writes a file**, which need not exist but whose directory has to. Outside the top nothing is
kept of it. -/
def write (t : FileTree) (path content : String) : Except FileFault FileTree := do
  let (directory, name) := splitLast (← pieces path)
  let place ← directory.foldlM t.step (start path)
  if place.isFile then throw .notDirectory
  if !isFileName name then throw .isDirectory
  if nameLimit < name.utf8ByteSize then throw .nameTooLong
  match t.lookUp name place, place with
  | some (.directory _), _ | some (.system _), _ => throw .isDirectory
  | _, .directory names => return t.put (names ++ [name]) content
  | _, _ => return t

/-- **The files that are new or have another content** than in an older tree. -/
def changesSince (t old : FileTree) : List (String × String) :=
  toList ⟨t.files.filter fun (names, content) => old.files.lookup names != some content⟩

end FileTree

end TextTemplate
