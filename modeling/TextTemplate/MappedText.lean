import TextTemplate.Document.Basic

/-!
# Texts that remember where they come from

A `MappedText` is a text under construction, some pieces of which are copied from documents. For
each such piece it keeps a `Mapping`: where the piece stands in the text, and where it was copied
from. Since a text only grows at its end, the mappings are in the order of the text and do not
overlap; the lookups depend on it.

A lookup that would have to name an offset too large for a word fails with `OffsetOverflow`; this
can only happen if a mapping claims to come from a place of another length than its text.
-/

namespace TextTemplate

/-- **A place in a document.** -/
structure Origin where
  fileId : Nat
  span : Span
deriving DecidableEq, Repr, Inhabited

/-- **A copied piece**: where it stands and where it comes from. -/
structure Mapping where
  generated : Span
  origin : Origin
deriving DecidableEq, Repr, Inhabited

/-- The mapping after its text has moved to the right. -/
def Mapping.shift (offset : Nat) (m : Mapping) : Mapping :=
  { m with generated := m.generated.shift offset }

/-- **A text and where its copied pieces come from.** -/
structure MappedText where
  text : String := ""
  mappings : Array Mapping := #[]
deriving DecidableEq, Repr, Inhabited

namespace MappedText

/-- The length in bytes. -/
def size (m : MappedText) : Nat := m.text.utf8ByteSize

/-- Whether there is no text. -/
def isEmpty (m : MappedText) : Bool := m.size == 0

/-- Adds text that comes from nowhere. -/
def push (text : String) (m : MappedText) : MappedText := { m with text := m.text ++ text }

/-- Adds text and ends the line. -/
def pushLine (text : String) (m : MappedText) : MappedText := (m.push text).push "\n"

/-- Ends the line. -/
def newline (m : MappedText) : MappedText := m.push "\n"

/-- **Adds text copied from a place.** -/
def pushMapped (text : String) (origin : Origin) (m : MappedText) : MappedText where
  text := m.text ++ text
  mappings := m.mappings.push ⟨⟨m.size, m.size + text.utf8ByteSize⟩, origin⟩

/-- Adds the text of a token of a document. -/
def pushToken (token : Token) (fileId : Nat) (m : MappedText) : MappedText :=
  m.pushMapped token.text ⟨fileId, token.span⟩

/-- **Adds another text** with its mappings, which move to where it stands now. -/
def append (m other : MappedText) : MappedText where
  text := m.text ++ other.text
  mappings := m.mappings ++ other.mappings.map (Mapping.shift m.size)

end MappedText

/-! ## Lookups -/

namespace Mapping

/-- Halves the range from `lo` to `hi` until it is empty. -/
def partitionFrom (p : Mapping → Bool) (ms : Array Mapping) (lo hi : Nat) (h : hi ≤ ms.size) : Nat :=
  if hlt : lo < hi then
    let mid := lo + (hi - lo) / 2
    have : mid < ms.size := by omega
    if p ms[mid] then partitionFrom p ms (mid + 1) hi h
    else partitionFrom p ms lo mid (by omega)
  else lo
termination_by hi - lo

/-- **The number of mappings in front for which `p` holds**, found by halving, if `p` holds of no
mapping behind one for which it does not hold. -/
def partitionPoint (p : Mapping → Bool) (ms : Array Mapping) : Nat :=
  partitionFrom p ms 0 ms.size (Nat.le_refl _)

/-- **The mapping whose text covers a span**: the last one that starts no later than the span, if it
also ends no earlier. -/
def containing? (ms : Array Mapping) (span : Span) : Option Mapping :=
  match partitionPoint (fun m => m.generated.start ≤ span.start) ms with
  | 0 => none
  | n + 1 => ms[n]?.filter fun m => span.stop ≤ m.generated.stop

/-- **Where a span of the text comes from**, if one mapping covers it. -/
def toOrigin? (ms : Array Mapping) (span : Span) : Except OffsetOverflow (Option Origin) :=
  if span.stop < span.start then
    return none
  else
    match containing? ms span with
    | none => return none
    | some m => do
      let place ← span.rebase m.generated.start m.origin.span.start
      return some ⟨m.origin.fileId, place⟩

/-- **Where a place of a document stands in the text**, if a mapping comes from around it. Of several
the first one counts. -/
def toGenerated? (ms : Array Mapping) (fileId : Nat) (span : Span) :
    Except OffsetOverflow (Option Span) :=
  if span.stop < span.start then
    return none
  else
    match ms.find? fun m => m.origin.fileId == fileId
        && m.origin.span.start ≤ span.start && span.stop ≤ m.origin.span.stop with
    | none => return none
    | some m => do
      let place ← span.rebase m.origin.span.start m.generated.start
      return some place

end Mapping

end TextTemplate
