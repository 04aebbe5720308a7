/-!
# Spans

A span is a range of byte offsets into some text. Nothing here asks that a span fits its text, or
even that it starts before it stops: spans are read from files and from queries, and the functions
that cut a text are the ones that refuse a span that does not fit.

Offsets are 64-bit words, and a sum or a difference of two of them may be none. What computes with
offsets that it has not checked either fails with `OffsetOverflow` or is written for any
`OffsetArithmetic`: then it runs on plain numbers, and it can be asked whether a check of every step
would have let it pass.
-/

namespace TextTemplate

/-- **A range of byte offsets**, from `start` up to and without `stop`. -/
structure Span where
  start : Nat
  stop : Nat
deriving DecidableEq, Repr, Inhabited

namespace Span

/-- The number of bytes covered; a reversed span covers none. -/
def length (s : Span) : Nat := s.stop - s.start

/-- The span moved to the right by `offset` bytes. -/
def shift (offset : Nat) (s : Span) : Span := ⟨s.start + offset, s.stop + offset⟩

end Span

/-! ## Computing with offsets -/

/-- **A result that is no offset**: a sum too large for a word, or a difference below zero. -/
inductive OffsetOverflow where
  | sum
  | difference
deriving DecidableEq, Repr

/-- The wording of `OffsetOverflow`. -/
def OffsetOverflow.message : OffsetOverflow → String
  | .sum => "attempt to add with overflow"
  | .difference => "attempt to subtract with overflow"

/-- The sum of two offsets. -/
def addOffsets (a b : Nat) : Except OffsetOverflow Nat :=
  if a + b < UInt64.size then return a + b else throw .sum

/-- The difference of two offsets. -/
def subtractOffsets (a b : Nat) : Except OffsetOverflow Nat :=
  if b ≤ a then return a - b else throw .difference

theorem addOffsets_of_lt {a b : Nat} (h : a + b < UInt64.size) : addOffsets a b = .ok (a + b) :=
  if_pos h

theorem addOffsets_of_le {a b : Nat} (h : UInt64.size ≤ a + b) : addOffsets a b = .error .sum :=
  if_neg (Nat.not_lt.mpr h)

theorem subtractOffsets_of_le {a b : Nat} (h : b ≤ a) : subtractOffsets a b = .ok (a - b) :=
  if_pos h

/-- **How offsets are added and subtracted.** -/
structure OffsetArithmetic (m : Type → Type) where
  add : Nat → Nat → m Nat
  sub : Nat → Nat → m Nat

namespace OffsetArithmetic

/-- On plain numbers, where no sum is too large and no difference is below zero. -/
def plain : OffsetArithmetic Id := ⟨fun a b => a + b, fun a b => a - b⟩

/-- With a check of every result. -/
def checked : OffsetArithmetic (Except OffsetOverflow) := ⟨addOffsets, subtractOffsets⟩

end OffsetArithmetic

/-- **The span as far behind another offset** as it is behind `origin`. -/
def Span.rebase (span : Span) (origin base : Nat) : Except OffsetOverflow Span := do
  let lead ← subtractOffsets span.start origin
  let start ← addOffsets base lead
  let length ← subtractOffsets span.stop span.start
  let stop ← addOffsets start length
  return ⟨start, stop⟩

end TextTemplate
