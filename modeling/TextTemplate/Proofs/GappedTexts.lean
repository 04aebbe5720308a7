import TextTemplate.Dependency.Reference

/-!
# Texts with gaps

A text in which some names stand for something else can be cut at these names. What is left are
stretches of plain text with gaps between them, and every reading of the names is a way to fill the
gaps: filling each with the name as it was written gives the text back, filling each with a value
gives the text with the names replaced. The stretches are the same every time.

`Gapped.ofPieces` cuts a text that has been read as a list of single characters and names, and
`Gapped.pieces` is that list again. So a cut text and the list of its pieces say the same
(`ofPieces_pieces`), and what is done to the pieces one by one is a filling (`fill_ofPieces`).
-/

namespace TextTemplate.Text

/-- **A gap in a text**: the name that stands there, and the stretch of plain text behind it. -/
structure Gap where
  name : List Char
  rest : List Char
deriving DecidableEq, Repr

/-- **A text with gaps**: the stretch in front of the first gap, and the gaps in order. -/
structure Gapped where
  lead : List Char
  gaps : List Gap
deriving DecidableEq, Repr

namespace Gapped

/-- **The text with its gaps filled**, according to the names that stand there. -/
def fill (f : List Char → List Char) (g : Gapped) : List Char :=
  g.lead ++ g.gaps.flatMap fun gap => f gap.name ++ gap.rest

/-- The names in the gaps. -/
def names (g : Gapped) : List (List Char) := g.gaps.map Gap.name

/-- The stretches of plain text. -/
def stretches (g : Gapped) : List (List Char) := g.lead :: g.gaps.map Gap.rest

/-- A filling depends only on what it does to the names that are there. -/
theorem fill_congr {g : Gapped} {f f' : List Char → List Char}
    (h : ∀ name ∈ g.names, f name = f' name) : g.fill f = g.fill f' := by
  obtain ⟨lead, gaps⟩ := g
  refine congrArg (lead ++ ·) ?_
  induction gaps with
  | nil => rfl
  | cons gap gaps ih =>
    obtain ⟨hgap, hgaps⟩ := List.forall_mem_cons.mp h
    rw [List.flatMap_cons, List.flatMap_cons, hgap, ih hgaps]

/-! ## Characters and names -/

/-- The text with one more character in front. -/
def cons (c : Char) (g : Gapped) : Gapped := ⟨c :: g.lead, g.gaps⟩

/-- The text with one more gap in front. -/
def consGap (name : List Char) (g : Gapped) : Gapped := ⟨[], ⟨name, g.lead⟩ :: g.gaps⟩

theorem fill_cons (f : List Char → List Char) (c : Char) (g : Gapped) :
    (g.cons c).fill f = c :: g.fill f := rfl

theorem fill_consGap (f : List Char → List Char) (name : List Char) (g : Gapped) :
    (g.consGap name).fill f = f name ++ g.fill f := List.append_assoc (f name) g.lead _

theorem stretches_cons (c : Char) (g : Gapped) :
    (g.cons c).stretches = (c :: g.lead) :: g.gaps.map Gap.rest := rfl

theorem stretches_consGap (name : List Char) (g : Gapped) :
    (g.consGap name).stretches = [] :: g.stretches := rfl

/-- **A text of single characters and names, cut at the names.** -/
def ofPieces : List Reference.Piece → Gapped
  | [] => ⟨[], []⟩
  | .char c :: pieces => (ofPieces pieces).cons c
  | .reference name :: pieces => (ofPieces pieces).consGap name

/-- The single characters and the names of a text with gaps. -/
def pieces (g : Gapped) : List Reference.Piece :=
  g.lead.map .char ++ g.gaps.flatMap fun gap => .reference gap.name :: gap.rest.map .char

/-- **What is done to the pieces one by one is a filling.** -/
theorem fill_ofPieces (f : List Char → List Char) (pieces : List Reference.Piece) :
    (ofPieces pieces).fill f = pieces.flatMap (Reference.Piece.fill f) := by
  induction pieces with
  | nil => rfl
  | cons piece pieces ih =>
    rw [List.flatMap_cons, ← ih]
    cases piece with
    | char c => exact fill_cons f c _
    | reference name => exact fill_consGap f name _

theorem names_ofPieces (pieces : List Reference.Piece) :
    (ofPieces pieces).names = pieces.filterMap Reference.Piece.name? := by
  induction pieces with
  | nil => rfl
  | cons piece pieces ih =>
    cases piece with
    | char c => exact ih
    | reference name => exact congrArg (name :: ·) ih

/-- Characters in front lengthen the first stretch. -/
theorem ofPieces_append (lead : List Char) (pieces : List Reference.Piece) :
    ofPieces (lead.map .char ++ pieces)
      = ⟨lead ++ (ofPieces pieces).lead, (ofPieces pieces).gaps⟩ := by
  induction lead with
  | nil => rfl
  | cons c lead ih =>
    rw [List.map_cons, List.cons_append, ofPieces, ih]
    rfl

/-- **A text with gaps is known by its pieces.** -/
theorem ofPieces_pieces (g : Gapped) : ofPieces g.pieces = g := by
  obtain ⟨lead, gaps⟩ := g
  show ofPieces (lead.map .char ++ gaps.flatMap _) = _
  rw [ofPieces_append]
  induction gaps generalizing lead with
  | nil =>
    show (⟨lead ++ [], []⟩ : Gapped) = _
    rw [List.append_nil]
  | cons gap gaps ih =>
    -- behind the gap the text goes on as one that starts with the stretch of the gap
    have hbehind := ih gap.rest
    rw [← ofPieces_append] at hbehind
    rw [List.flatMap_cons, List.cons_append, ofPieces, hbehind]
    show (⟨lead ++ [], gap :: gaps⟩ : Gapped) = _
    rw [List.append_nil]

end Gapped

end TextTemplate.Text
