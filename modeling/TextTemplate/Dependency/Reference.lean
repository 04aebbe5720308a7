import TextTemplate.Text.Search

/-!
# References in texts

A text may refer to something by name, with the name between signs that open and close the reference:
`$(Name)` for a build macro, `%NAME%` for an environment variable. `Form` is one such way of writing.

A library searches texts for references. What is asked of it is a `Library`: the references of a text
one after another, and the text with each of them replaced. Whatever is done with references goes
through a library that is given, so that it can be said what follows from its documented behaviour
alone. `Library.scanning` is the one that is used. It splits a text into references and the characters
between them, from left to right (`Form.pieces`).
-/

namespace TextTemplate.Reference

/-- **A way to write references**: what opens one, the characters of names, and the sign that closes
it. The sign is none of the characters, so a name ends where the sign stands first. -/
structure Form where
  opening : List Char
  inName : Char → Bool
  close : Char
  close_notIn : inName close = false

/-- **A piece of a text**: a reference with its name, or a character that belongs to none. -/
inductive Piece where
  | char (c : Char)
  | reference (name : List Char)
deriving DecidableEq, Repr

namespace Piece

/-- The name in a piece. -/
def name? : Piece → Option (List Char)
  | .char _ => none
  | .reference name => some name

/-- **A piece with its name replaced.** Characters stay. -/
def fill (replacement : List Char → List Char) : Piece → List Char
  | .char c => [c]
  | .reference name => replacement name

end Piece

/-- A reference that was found: all of it, and the name in it. -/
structure Capture where
  whole : String
  name : String
deriving DecidableEq, Repr

namespace Form

variable (form : Form)

/-- The text of a reference. -/
def written (name : List Char) : List Char := form.opening ++ (name ++ [form.close])

/-- The reference to a name, as it is found. -/
def capture (name : String) : Capture := ⟨String.ofList (form.written name.toList), name⟩

/-- Whether anything in a text may open a reference. -/
def opensIn (text : String) : Bool := Text.occursIn form.opening text.toList

/-- The name of the reference at the front of a text, and what follows the reference. -/
def read? (cs : List Char) : Option (List Char × List Char) :=
  if form.opening.isPrefixOf cs then
    let tail := cs.drop form.opening.length
    match tail.takeWhile form.inName, tail.dropWhile form.inName with
    | c :: name, d :: rest => if d = form.close then some (c :: name, rest) else none
    | _, _ => none
  else none

/-- What follows a reference is shorter than the text. -/
theorem read?_length {form : Form} {cs name rest : List Char}
    (h : form.read? cs = some (name, rest)) : rest.length < cs.length := by
  unfold read? at h
  split at h
  · dsimp only at h
    split at h
    · next hdrop =>
      split at h
      · have hle := (List.dropWhile_suffix (l := cs.drop form.opening.length) form.inName).length_le
        rw [hdrop, List.length_cons, List.length_drop] at hle
        simp only [Option.some.injEq, Prod.mk.injEq] at h
        rw [← h.2]
        omega
      · simp at h
    · simp at h
  · simp at h

/-- **The pieces of a text.** At each character a reference is tried first. -/
def pieces (cs : List Char) : List Piece :=
  match h : form.read? cs with
  | some (name, rest) =>
    have := read?_length h
    .reference name :: pieces rest
  | none =>
    match cs with
    | [] => []
    | c :: cs => .char c :: pieces cs
termination_by cs.length

/-- The names in the references of a text, in order. -/
def names (text : String) : List String :=
  ((form.pieces text.toList).filterMap Piece.name?).map String.ofList

end Form

/-- **What is asked of a library that searches texts**: the references of a form in a text, and the
text with each reference replaced by what is given for it. -/
structure Library where
  captures : Form → String → List Capture
  replaceAll : Form → String → (Capture → String) → String

/-- **The library that is used**, which goes through a text once. -/
def Library.scanning : Library where
  captures form text := (form.names text).map form.capture
  replaceAll form text replacement :=
    String.ofList ((form.pieces text.toList).flatMap (Piece.fill fun name =>
      (replacement (form.capture (String.ofList name))).toList))

end TextTemplate.Reference
