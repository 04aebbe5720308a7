import TextTemplate.MappedText
import TextTemplate.Text.Search

/-!
# Generated classes

The source of a class that was generated from a template, with the mappings back to the documents.
Code that the template's author wrote stands between two markers, so that a range of the class can
be told to be the author's: it is, if the last start marker in front of it has not been closed, no
marker stands inside it, and an end marker follows.
-/

namespace TextTemplate

/-- The mark in front of copied code. -/
def codeStart : String := "/*_T4\u200cCodeStart_*/"

/-- The mark behind copied code. -/
def codeEnd : String := "/*_T4\u200cCodeEnd_*/"

/-- **A generated class** and where its copied pieces come from, in the order of the text. -/
structure GeneratedUnit where
  text : String
  mappings : Array Mapping
deriving DecidableEq, Repr, Inhabited

namespace GeneratedUnit

/-- The class whose text is finished. -/
def ofMappedText (m : MappedText) : GeneratedUnit := ⟨m.text, m.mappings⟩

/-- Where a span of the class comes from. -/
def toOrigin? (u : GeneratedUnit) (span : Span) : Except OffsetOverflow (Option Origin) :=
  Mapping.toOrigin? u.mappings span

/-- Where a place of a document stands in the class. -/
def toGenerated? (u : GeneratedUnit) (fileId : Nat) (span : Span) :
    Except OffsetOverflow (Option Span) :=
  Mapping.toGenerated? u.mappings fileId span

/-- **Whether a span lies in code that the author wrote**, between a start marker and the end marker
that closes it. -/
def isUserCode (u : GeneratedUnit) (span : Span) : Bool :=
  let chars := u.text.toList
  match Text.takeBytes? span.start chars, Text.cut? span chars, Text.dropBytes? span.stop chars with
  | some before, some inside, some after =>
    match Text.fromLast? codeStart.toList before with
    | none => false
    | some opened =>
      !Text.occursIn codeEnd.toList opened && !Text.occursIn codeEnd.toList inside
        && !Text.occursIn codeStart.toList inside && Text.occursIn codeEnd.toList after
  | _, _, _ => false

/-- **Where a span of the class comes from, if it is the author's code.** -/
def redirect? (u : GeneratedUnit) (span : Span) : Except OffsetOverflow (Option Origin) :=
  if u.isUserCode span then u.toOrigin? span else return none

end GeneratedUnit

end TextTemplate
