/-!
# Names that differ in letter case

Directive, attribute, assembly and macro names are compared without regard to the case of the
ASCII letters; every other character counts as written. `fold` maps a name to the key that all its
spellings share.
-/

namespace TextTemplate.Text

/-- **The key of a name**: its characters with `A` to `Z` replaced by `a` to `z`. -/
def fold (name : String) : List Char := name.toList.map Char.toLower

/-- Whether two names are spellings of one name. -/
def sameName (a b : String) : Bool := fold a == fold b

end TextTemplate.Text
