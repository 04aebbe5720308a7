/-!
# Blank characters

A character is blank if it has the Unicode property `White_Space`. The property is stable: the
table has had these 25 code points for many versions of the standard.
-/

namespace TextTemplate.Text

/-- The code points with the property `White_Space`, as closed ranges in increasing order. -/
def blankRanges : List (Nat × Nat) :=
  [(0x09, 0x0D), (0x20, 0x20), (0x85, 0x85), (0xA0, 0xA0), (0x1680, 0x1680), (0x2000, 0x200A),
    (0x2028, 0x2029), (0x202F, 0x202F), (0x205F, 0x205F), (0x3000, 0x3000)]

/-- Whether one of the closed ranges holds the code point of the character. -/
def inRanges (ranges : List (Nat × Nat)) (c : Char) : Bool :=
  ranges.any fun (lo, hi) => lo ≤ c.toNat && c.toNat ≤ hi

/-- Whether a character is blank. -/
def isBlank (c : Char) : Bool := inRanges blankRanges c

/-- Whether a text has no character that is not blank. The empty text is blank. -/
def allBlank (s : String) : Bool := s.toList.all isBlank

/-- Characters without the blanks around them. -/
def trimChars (cs : List Char) : List Char :=
  ((cs.dropWhile isBlank).reverse.dropWhile isBlank).reverse

/-- **A text without the blanks around it.** -/
def trim (s : String) : String := String.ofList (trimChars s.toList)

end TextTemplate.Text
