import TextTemplate.Document.Basic

/-!
# Places in sources

A place in a template is told to a reader as the path of its document with a line and a column.
Documents are known by their number here, and a number stands for the first document of the family
that has it. `Sources` registers the documents for display, where they are known by an index again,
and remembers the index for each number.

There are two ways to count columns, in bytes and in characters, and they differ also in what they
say of an offset that is no place in the source. In bytes such an offset stands for the end of the
source. In characters an offset inside a character stands for the start of the character, and only
one behind the end for the end.
-/

namespace TextTemplate

/-- **A line and a column**, both counted from one. -/
structure Position where
  line : Nat
  column : Nat
deriving DecidableEq, Repr

namespace Text

/-- The characters behind the last line break. -/
def lastLine (cs : List Char) : List Char := (cs.reverse.takeWhile (· != '\n')).reverse

/-- The offset of the last line break. -/
def lastBreak? : List Char → Option Nat
  | [] => none
  | c :: cs =>
    match lastBreak? cs with
    | some n => some (c.utf8Size + n)
    | none => if c = '\n' then some 0 else none

/-- Where the last line of a text starts, by the last line break. -/
def lastStart (cs : List Char) : Nat := (lastBreak? cs).elim 0 (· + 1)

/-- The number of the line on which a text ends. -/
def lineNumber (cs : List Char) : Nat := cs.count '\n' + 1

/-- The characters that lie within the first `n` bytes as a whole. -/
def wholeChars : Nat → List Char → List Char
  | _, [] => []
  | n, c :: cs => if c.utf8Size ≤ n then c :: wholeChars (n - c.utf8Size) cs else []

/-- **The position of a byte offset, with the column in bytes**: the difference between the offset
and the start of its line, by an arithmetic that is given. -/
def bytePositionBy {m : Type → Type} [Monad m] (arithmetic : OffsetArithmetic m)
    (source : String) (offset : Nat) : m Position := do
  let before := (takeBytes? offset source.toList).getD source.toList
  let width ← arithmetic.sub (byteSize before) (lastStart before)
  return ⟨lineNumber before, width + 1⟩

/-- The position of a byte offset. -/
def bytePosition (source : String) (offset : Nat) : Position :=
  Id.run (bytePositionBy .plain source offset)

/-- **The position of a byte offset, with the column in characters.** -/
def charPosition (source : String) (offset : Nat) : Position :=
  let before := wholeChars offset source.toList
  ⟨lineNumber before, (lastLine before).length + 1⟩

end Text

/-- The position as it is shown behind a path. -/
def Position.render (p : Position) (path : String) : String :=
  path ++ ":" ++ toString p.line ++ ":" ++ toString p.column

/-- **The documents that are registered for display**, in the order in which they were, and the
index of each of them by its number. -/
structure Sources where
  files : List Document := []
  ids : List (Nat × Nat) := []

namespace Sources

/-- The index under which a document of the number is registered. -/
def index? (s : Sources) (fileId : Nat) : Option Nat := s.ids.lookup fileId

/-- The document of a number. -/
def get? (s : Sources) (fileId : Nat) : Option Document :=
  (s.index? fileId).bind (s.files[·]?)

/-- Registers a document, unless there is one of its number. -/
def add (s : Sources) (d : Document) : Sources :=
  if (s.index? d.fileId).isSome then s
  else { files := s.files ++ [d], ids := (d.fileId, s.files.length) :: s.ids }

/-- **The sources of a document**: the document itself and those that it includes. -/
def ofDocument (d : Document) : Sources := d.family.foldl add {}

/-- **Where a span starts**, for a list of places. The number and the span themselves are shown if
no document has that number. -/
def location (s : Sources) (fileId : Nat) (span : Span) : String :=
  match s.get? fileId with
  | some d => (Text.bytePosition d.source span.start).render d.path
  | none =>
    "file#" ++ toString fileId ++ ":" ++ toString span.start ++ ".." ++ toString span.stop

end Sources

end TextTemplate
