import TextTemplate.Span

/-!
# Cutting texts at byte offsets

Positions are counted in UTF-8 bytes, so a cut can fall inside a character. `dropBytes?` and
`takeBytes?` cut a list of characters at a byte offset and refuse a cut that no character boundary
allows; `slice?` is the two together. Since both recurse on the characters, what they do to a
concatenation follows by induction on the part in front.
-/

namespace TextTemplate.Text

/-- The number of bytes that a list of characters takes in UTF-8. -/
def byteSize : List Char → Nat
  | [] => 0
  | c :: cs => c.utf8Size + byteSize cs

/-- **The characters after the first `n` bytes**, or `none` if these bytes end inside a character
or do not exist. -/
def dropBytes? : Nat → List Char → Option (List Char)
  | 0, cs => some cs
  | _ + 1, [] => none
  | n + 1, c :: cs => if c.utf8Size ≤ n + 1 then dropBytes? (n + 1 - c.utf8Size) cs else none

/-- **The characters of the first `n` bytes**, or `none` if these bytes end inside a character or
do not exist. -/
def takeBytes? : Nat → List Char → Option (List Char)
  | 0, _ => some []
  | _ + 1, [] => none
  | n + 1, c :: cs =>
    if c.utf8Size ≤ n + 1 then (takeBytes? (n + 1 - c.utf8Size) cs).map (c :: ·) else none

/-- The characters covered by a span, or `none` if the span is reversed, reaches past the end or
cuts a character. -/
def cut? (span : Span) (cs : List Char) : Option (List Char) :=
  if span.start ≤ span.stop then
    (dropBytes? span.start cs).bind (takeBytes? (span.stop - span.start))
  else
    none

/-- **The text covered by a span**, under the same conditions as `cut?`. -/
def slice? (span : Span) (s : String) : Option String :=
  (cut? span s.toList).map String.ofList

end TextTemplate.Text
