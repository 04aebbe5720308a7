import TextTemplate.Text.Fold
import TextTemplate.Text.Quoted

/-!
# Sets of names

A set of names that differ in more than the case of ASCII letters. Of the spellings of one name the
set keeps the one it was given first. The names are kept in the order of their folded form, which is
also the order of its UTF-8 bytes, so that two sets of the same names list them alike.
-/

namespace TextTemplate

/-- **A set of names**, listed in the order of their folded form and without two spellings of one
name. -/
structure NameSet where
  names : List String := []
deriving DecidableEq, Repr, Inhabited

namespace NameSet

open Text

/-- The set without names. -/
def empty : NameSet := {}

/-- The folded form of the names, in order. -/
def keys (s : NameSet) : List (List Char) := s.names.map fold

/-- The number of names. -/
def size (s : NameSet) : Nat := s.names.length

/-- Whether there are no names. -/
def isEmpty (s : NameSet) : Bool := s.names.isEmpty

/-- Whether a spelling of the name is in the set. -/
def contains (s : NameSet) (name : String) : Bool := s.names.any fun n => sameName n name

/-- The list with a name put in front of the first one that is greater, unless a spelling of it is
met before. -/
def insertInto (name : String) : List String → List String
  | [] => [name]
  | n :: ns =>
    if fold n < fold name then n :: insertInto name ns
    else if sameName n name then n :: ns
    else name :: n :: ns

/-- **The set with one more name.** A spelling that is already there stays. -/
def insert (s : NameSet) (name : String) : NameSet := ⟨insertInto name s.names⟩

/-- The set without a name. -/
def erase (s : NameSet) (name : String) : NameSet :=
  ⟨s.names.filter fun n => !sameName n name⟩

/-- **Puts a name in** and says whether it was missing. -/
def add (s : NameSet) (name : String) : Bool × NameSet :=
  if s.contains name then (false, s) else (true, s.insert name)

/-- **Takes a name out** and says whether it was there. -/
def remove (s : NameSet) (name : String) : Bool × NameSet := (s.contains name, s.erase name)

/-- The set with the names of a list, put in one after another. -/
def insertMany (s : NameSet) (names : List String) : NameSet := names.foldl insert s

/-- **The set of the names of a list.** -/
def ofList (names : List String) : NameSet := empty.insertMany names

/-- The names in order. -/
def toList (s : NameSet) : List String := s.names

/-- **The names that another set does not have.** -/
def difference (s t : NameSet) : NameSet := ⟨s.names.filter fun n => !t.contains n⟩

/-- **The names of both sets**, spelled as in the first one where it has them. -/
def union (s t : NameSet) : NameSet := s.insertMany t.names

/-- **Whether two sets have the same names**, however they spell them. -/
def sameNames (s t : NameSet) : Bool := s.keys == t.keys

/-- The set between braces, each name between quotes. -/
def describe (s : NameSet) : String :=
  "\x7b" ++ ", ".intercalate (s.names.map quote) ++ "\x7d"

end NameSet

end TextTemplate
