/-!
# Paths

A path is names with slashes between them, and starts with a slash if it is absolute. Empty names
and dots stand for nothing, but for a dot at the very start of a path that is not absolute. A parent
is cut out of the path as it is written, so the doubled slashes and dots in the middle stay.
-/

namespace TextTemplate.Path

/-- Whether a path starts at the root. -/
def isAbsolute (path : String) : Bool := path.toList.head? == some '/'

/-- The texts between the slashes. -/
def pieces (path : String) : List String := path.splitOn "/"

/-- The pieces that stand for something, with the others in front of each of them. What stands behind
the last one is left out, and `dots` says whether a dot stands for nothing. -/
def groups (dots : Bool) (skipped : List String) : List String → List (List String)
  | [] => []
  | piece :: rest =>
    if piece == "" || (piece == "." && dots) then groups dots (skipped ++ [piece]) rest
    else (skipped ++ [piece]) :: groups true [] rest

/-- **The directory that a path is in**, as far as its text tells. The root and the empty path are in
none. -/
def parent? (path : String) : Option String :=
  match groups (isAbsolute path) [] (pieces path) with
  | [] => none
  | [_] => some (if isAbsolute path then "/" else "")
  | steps => some ("/".intercalate steps.dropLast.flatten)

/-- **The path of a name in a directory.** -/
def join (directory name : String) : String :=
  if directory.isEmpty then name
  else if directory.toList.getLast? == some '/' then directory ++ name
  else directory ++ "/" ++ name

end TextTemplate.Path
