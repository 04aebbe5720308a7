import TextTemplate.Generation.Unit
import TextTemplate.Proofs.ByteSlices

/-!
# Generated texts as lists of pieces

A mapped text grows by operations that count bytes. The same text can be described without counting:
it is a list of **pieces**, each of which is either fixed or copied from a place. The text is the
concatenation of the pieces, and the mapping of a copied piece starts where the pieces in front of
it end.

`MappedText.ofPieces` is that description read as a mapped text. Each operation on mapped texts adds
pieces at the end (`push_ofPieces`, `pushMapped_ofPieces`, `append_ofPieces`), so whatever is built
with the operations is known by its pieces (`Made.exists_pieces`); and `mem_mappingsFrom` says where
a mapping stands, which is all that the lookups need to know.
-/

namespace TextTemplate

/-- **A piece of a generated text**: fixed text, or text that was copied from a place, which is the
value of an attribute or the code of a block. -/
inductive Piece where
  | fixed (text : String)
  | value (text : String) (origin : Origin)
  | code (text : String) (origin : Origin)
deriving DecidableEq, Repr

namespace Piece

/-- The text of a piece. -/
def text : Piece → String
  | .fixed text => text
  | .value text _ => text
  | .code text _ => text

/-- Where a piece comes from, if it was copied. -/
def origin? : Piece → Option Origin
  | .fixed _ => none
  | .value _ origin => some origin
  | .code _ origin => some origin

/-- Whether a piece is the code of a block. -/
def isCode : Piece → Bool
  | .code _ _ => true
  | _ => false

/-- The length of a piece in bytes. -/
def width (p : Piece) : Nat := p.text.utf8ByteSize

/-- The length of a list of pieces in bytes. -/
def widthOf : List Piece → Nat
  | [] => 0
  | p :: ps => p.width + widthOf ps

/-- **The text of a list of pieces.** -/
def textOf : List Piece → String
  | [] => ""
  | p :: ps => p.text ++ textOf ps

/-- The mapping of a piece that starts at an offset, if it was copied. -/
def mapping? (offset : Nat) (p : Piece) : Option Mapping :=
  p.origin?.map fun origin => ⟨⟨offset, offset + p.width⟩, origin⟩

/-- **The mappings of a list of pieces**, the first of which starts at an offset. -/
def mappingsFrom : Nat → List Piece → List Mapping
  | _, [] => []
  | offset, p :: ps => (p.mapping? offset).toList ++ mappingsFrom (offset + p.width) ps

/-! ## Concatenation -/

@[simp] theorem widthOf_append (ps qs : List Piece) :
    widthOf (ps ++ qs) = widthOf ps + widthOf qs := by
  induction ps with
  | nil => rw [List.nil_append, widthOf, Nat.zero_add]
  | cons p ps ih => rw [List.cons_append, widthOf, widthOf, ih, Nat.add_assoc]

@[simp] theorem textOf_append (ps qs : List Piece) :
    textOf (ps ++ qs) = textOf ps ++ textOf qs := by
  induction ps with
  | nil => rw [List.nil_append, textOf, String.empty_append]
  | cons p ps ih => rw [List.cons_append, textOf, textOf, ih, String.append_assoc]

/-- The length of the text is the sum of the lengths of the pieces. -/
theorem utf8ByteSize_textOf (ps : List Piece) : (textOf ps).utf8ByteSize = widthOf ps := by
  induction ps with
  | nil => rfl
  | cons p ps ih => rw [textOf, String.utf8ByteSize_append, ih, widthOf, width]

/-- The same, counted on the characters. -/
theorem byteSize_textOf (ps : List Piece) : Text.byteSize (textOf ps).toList = widthOf ps := by
  rw [Text.byteSize_toList, utf8ByteSize_textOf]

/-- The characters of the pieces around one of them, and its own. -/
theorem toList_textOf_split (front : List Piece) (p : Piece) (back : List Piece) :
    (textOf (front ++ p :: back)).toList
      = (textOf front).toList ++ p.text.toList ++ (textOf back).toList := by
  rw [textOf_append, textOf, String.toList_append, String.toList_append, List.append_assoc]

/-- **The text of a piece stands where the pieces in front of it end.** -/
theorem slice?_textOf (front : List Piece) (p : Piece) (back : List Piece) :
    Text.slice? ⟨widthOf front, widthOf front + p.width⟩ (textOf (front ++ p :: back))
      = some p.text := by
  refine Text.slice?_eq_some_iff.mpr
    ⟨(textOf front).toList, (textOf back).toList, toList_textOf_split front p back, ?_, ?_⟩
  · exact byteSize_textOf front
  · rw [byteSize_textOf, Text.byteSize_toList, width]

/-- **A range inside a piece cuts the piece into three parts**, if its ends do not cut characters.
-/
theorem exists_cut {front : List Piece} {p : Piece} {back : List Piece} {span : Span}
    (hspan : span.start ≤ span.stop)
    (hbefore : Text.IsBoundary (textOf (front ++ p :: back)) span.start)
    (hafter : Text.IsBoundary (textOf (front ++ p :: back)) span.stop)
    (hstart : widthOf front ≤ span.start) (hstop : span.stop ≤ widthOf front + p.width) :
    ∃ as mid bs, p.text.toList = as ++ mid ++ bs
      ∧ widthOf front + Text.byteSize as = span.start
      ∧ span.start + Text.byteSize mid = span.stop := by
  obtain ⟨t, ht⟩ := (Text.exists_slice?_iff hspan).mpr ⟨hbefore, hafter⟩
  -- the piece alone has the same part as far behind its start as the whole text
  have hwhole : Text.slice? ⟨0, p.width⟩ p.text = some p.text := by
    refine Text.slice?_eq_some_iff.mpr ⟨[], [], ?_, rfl, ?_⟩
    · rw [List.nil_append, List.append_nil]
    · rw [Text.byteSize_nil, Text.byteSize_toList, Nat.zero_add, width]
  have hpart := Text.slice?_eq_slice? (slice?_textOf front p back) hwhole hstart hspan hstop
  rw [ht] at hpart
  obtain ⟨as, bs, htext, hsize, hsize'⟩ := Text.slice?_eq_some_iff.mp hpart
  dsimp only at hsize hsize'
  exact ⟨as, t.toList, bs, htext, by omega, by omega⟩

@[simp] theorem mappingsFrom_append (offset : Nat) (ps qs : List Piece) :
    mappingsFrom offset (ps ++ qs)
      = mappingsFrom offset ps ++ mappingsFrom (offset + widthOf ps) qs := by
  induction ps generalizing offset with
  | nil => rfl
  | cons p ps ih =>
    rw [List.cons_append, mappingsFrom, mappingsFrom, ih, List.append_assoc, widthOf,
      Nat.add_assoc]

/-- A mapping moves with its piece. -/
theorem mapping?_shift (offset k : Nat) (p : Piece) :
    (p.mapping? offset).map (Mapping.shift k) = p.mapping? (offset + k) := by
  unfold mapping?
  rw [Option.map_map]
  refine Option.map_congr (fun origin _ => ?_)
  simp only [Function.comp_apply, Mapping.shift, Span.shift, Nat.add_right_comm]

/-- **Moving the mappings is starting the pieces later.** -/
theorem map_shift_mappingsFrom (offset k : Nat) (ps : List Piece) :
    (mappingsFrom offset ps).map (Mapping.shift k) = mappingsFrom (offset + k) ps := by
  induction ps generalizing offset with
  | nil => rfl
  | cons p ps ih =>
    rw [mappingsFrom, mappingsFrom, List.map_append, ih, ← mapping?_shift, Nat.add_right_comm,
      Option.toList_map]

/-! ## Where a mapping stands -/

/-- **A mapping is that of a piece, and starts where the pieces in front of it end.** -/
theorem mem_mappingsFrom {offset : Nat} {ps : List Piece} {m : Mapping} :
    m ∈ mappingsFrom offset ps ↔
      ∃ front p back, ps = front ++ p :: back ∧ p.mapping? (offset + widthOf front) = some m := by
  induction ps generalizing offset with
  | nil =>
    constructor
    · intro h
      cases h
    · rintro ⟨front, p, back, h, -⟩
      cases front <;> cases h
  | cons q ps ih =>
    rw [mappingsFrom, List.mem_append, Option.mem_toList, ih]
    constructor
    · rintro (h | ⟨front, p, back, rfl, h⟩)
      · exact ⟨[], q, ps, rfl, h⟩
      · refine ⟨q :: front, p, back, rfl, ?_⟩
        rw [widthOf, ← Nat.add_assoc]
        exact h
    · rintro ⟨front, p, back, hps, h⟩
      cases front with
      | nil =>
        rw [List.nil_append, List.cons.injEq] at hps
        obtain ⟨rfl, rfl⟩ := hps
        exact Or.inl h
      | cons q' front =>
        rw [List.cons_append, List.cons.injEq] at hps
        obtain ⟨rfl, rfl⟩ := hps
        rw [widthOf, ← Nat.add_assoc] at h
        exact Or.inr ⟨front, p, back, rfl, h⟩

/-- The mapping of a copied piece, spelled out. -/
theorem mapping?_eq_some_iff {offset : Nat} {p : Piece} {m : Mapping} :
    p.mapping? offset = some m ↔
      p.origin? = some m.origin ∧ m.generated = ⟨offset, offset + p.width⟩ := by
  unfold mapping?
  rw [Option.map_eq_some_iff]
  constructor
  · rintro ⟨origin, horigin, rfl⟩
    exact ⟨horigin, rfl⟩
  · rintro ⟨horigin, hgenerated⟩
    refine ⟨m.origin, horigin, ?_⟩
    rw [← hgenerated]

/-- The mappings come from where the copied pieces come from, in the same order. -/
theorem map_origin_mappingsFrom (offset : Nat) (ps : List Piece) :
    (mappingsFrom offset ps).map Mapping.origin = ps.filterMap origin? := by
  induction ps generalizing offset with
  | nil => rfl
  | cons p ps ih =>
    rw [mappingsFrom, List.map_append, ih, List.filterMap_cons, mapping?]
    cases p.origin? <;> rfl

/-- No mapping starts before the pieces do, or ends behind them. -/
theorem bounds_of_mem_mappingsFrom {offset : Nat} {ps : List Piece} {m : Mapping}
    (h : m ∈ mappingsFrom offset ps) :
    offset ≤ m.generated.start ∧ m.generated.start ≤ m.generated.stop
      ∧ m.generated.stop ≤ offset + widthOf ps := by
  obtain ⟨front, p, back, rfl, hm⟩ := mem_mappingsFrom.mp h
  obtain ⟨-, hgenerated⟩ := mapping?_eq_some_iff.mp hm
  rw [hgenerated, widthOf_append, widthOf]
  dsimp only
  omega

end Piece

/-! ## The description as a mapped text -/

namespace MappedText

open Piece

/-- **The mapped text that a list of pieces describes.** -/
def ofPieces (ps : List Piece) : MappedText where
  text := textOf ps
  mappings := (mappingsFrom 0 ps).toArray

@[simp] theorem size_ofPieces (ps : List Piece) : (ofPieces ps).size = widthOf ps :=
  utf8ByteSize_textOf ps

/-- **Appending texts is appending their pieces.** -/
@[simp] theorem append_ofPieces (ps qs : List Piece) :
    (ofPieces ps).append (ofPieces qs) = ofPieces (ps ++ qs) := by
  unfold append
  rw [size_ofPieces]
  simp only [ofPieces, textOf_append, mappingsFrom_append, List.map_toArray,
    map_shift_mappingsFrom, Nat.zero_add, List.append_toArray]

/-- Text that comes from nowhere is a fixed piece. -/
@[simp] theorem push_ofPieces (text : String) (ps : List Piece) :
    (ofPieces ps).push text = ofPieces (ps ++ [.fixed text]) := by
  simp only [push, ofPieces, textOf_append, mappingsFrom_append]
  simp only [textOf, Piece.text, String.append_empty, mappingsFrom, mapping?, origin?,
    Option.map_none, Option.toList_none, List.append_nil]

/-- A line is a fixed piece that ends with the end of the line. -/
@[simp] theorem pushLine_ofPieces (text : String) (ps : List Piece) :
    (ofPieces ps).pushLine text = ofPieces (ps ++ [.fixed (text ++ "\n")]) := by
  have h : (ofPieces ps).pushLine text = (ofPieces ps).push (text ++ "\n") := by
    simp only [pushLine, push, String.append_assoc]
  rw [h, push_ofPieces]

/-- The end of a line is a fixed piece. -/
@[simp] theorem newline_ofPieces (ps : List Piece) :
    (ofPieces ps).newline = ofPieces (ps ++ [.fixed "\n"]) := push_ofPieces "\n" ps

/-- **Copied text is a piece that was copied**, from the value of an attribute or the code of a
block alike. -/
theorem pushMapped_ofPieces {p : Piece} {origin : Origin} (h : p.origin? = some origin)
    (ps : List Piece) :
    (ofPieces ps).pushMapped p.text origin = ofPieces (ps ++ [p]) := by
  unfold pushMapped
  rw [size_ofPieces]
  simp only [ofPieces, textOf_append, mappingsFrom_append, mappingsFrom, mapping?, h, textOf,
    String.append_empty, Option.map_some, Option.toList_some, List.append_nil, Nat.zero_add,
    List.push_toArray, width]

/-- The text is empty exactly if every piece is. -/
theorem isEmpty_ofPieces (ps : List Piece) :
    (ofPieces ps).isEmpty = ps.all fun p => p.text.isEmpty := by
  unfold isEmpty
  rw [size_ofPieces]
  induction ps with
  | nil => rfl
  | cons p ps ih =>
    rw [List.all_cons, ← ih, widthOf, width, String.isEmpty_eq_utf8ByteSize_beq_zero]
    rw [Bool.eq_iff_iff, Bool.and_eq_true, beq_iff_eq, beq_iff_eq, beq_iff_eq, Nat.add_eq_zero_iff]

/-! ## Texts that were put together -/

/-- **A text that some sequence of operations has led to**, where every text that was copied and its
origin have the property `P`. -/
inductive Made (P : String → Origin → Prop) : MappedText → Prop where
  | empty : Made P {}
  | push {m : MappedText} (text : String) : Made P m → Made P (m.push text)
  | pushLine {m : MappedText} (text : String) : Made P m → Made P (m.pushLine text)
  | newline {m : MappedText} : Made P m → Made P m.newline
  | pushMapped {m : MappedText} (text : String) (origin : Origin) (hP : P text origin) :
    Made P m → Made P (m.pushMapped text origin)
  | pushToken {m : MappedText} (token : Token) (fileId : Nat)
    (hP : P token.text ⟨fileId, token.span⟩) : Made P m → Made P (m.pushToken token fileId)
  | append {m other : MappedText} : Made P m → Made P other → Made P (m.append other)

/-- **What the operations have put together is known by its pieces.** -/
theorem Made.exists_pieces {P : String → Origin → Prop} {m : MappedText} (h : m.Made P) :
    ∃ ps, m = ofPieces ps ∧ ∀ p ∈ ps, ∀ origin, p.origin? = some origin → P p.text origin := by
  have hfixed : ∀ text, ∀ p ∈ [Piece.fixed text], ∀ origin, p.origin? = some origin →
      P p.text origin := fun _ => List.forall_mem_singleton.mpr nofun
  have hcopied : ∀ text origin, P text origin →
      ∀ p ∈ [Piece.value text origin], ∀ origin, p.origin? = some origin → P p.text origin := by
    intro text origin hP
    refine List.forall_mem_singleton.mpr ?_
    rintro _ ⟨⟩
    exact hP
  induction h with
  | empty => exact ⟨[], rfl, List.forall_mem_nil _⟩
  | push text _ ih =>
    obtain ⟨ps, rfl, hps⟩ := ih
    exact ⟨_, push_ofPieces text ps, List.forall_mem_append.mpr ⟨hps, hfixed _⟩⟩
  | pushLine text _ ih =>
    obtain ⟨ps, rfl, hps⟩ := ih
    exact ⟨_, pushLine_ofPieces text ps, List.forall_mem_append.mpr ⟨hps, hfixed _⟩⟩
  | newline _ ih =>
    obtain ⟨ps, rfl, hps⟩ := ih
    exact ⟨_, newline_ofPieces ps, List.forall_mem_append.mpr ⟨hps, hfixed _⟩⟩
  | pushMapped text origin hP _ ih =>
    obtain ⟨ps, rfl, hps⟩ := ih
    exact ⟨_, pushMapped_ofPieces (p := .value text origin) rfl ps,
      List.forall_mem_append.mpr ⟨hps, hcopied _ _ hP⟩⟩
  | pushToken token fileId hP _ ih =>
    obtain ⟨ps, rfl, hps⟩ := ih
    exact ⟨_, pushMapped_ofPieces (p := .value token.text ⟨fileId, token.span⟩) rfl ps,
      List.forall_mem_append.mpr ⟨hps, hcopied _ _ hP⟩⟩
  | append _ _ ih ihOther =>
    obtain ⟨ps, rfl, hps⟩ := ih
    obtain ⟨qs, rfl, hqs⟩ := ihOther
    exact ⟨_, append_ofPieces ps qs, List.forall_mem_append.mpr ⟨hps, hqs⟩⟩

/-- **Where a mapping of such a text stands**: inside the text, over a copied text of its own length.
-/
theorem Made.of_mem_mappings {P : String → Origin → Prop} {m : MappedText} (h : m.Made P)
    {mapping : Mapping} (hmapping : mapping ∈ m.mappings.toList) :
    mapping.generated.stop ≤ m.size ∧ ∃ text, P text mapping.origin
      ∧ mapping.generated.stop = mapping.generated.start + text.utf8ByteSize := by
  obtain ⟨ps, rfl, hps⟩ := h.exists_pieces
  refine ⟨?_, ?_⟩
  · rw [size_ofPieces, ← Nat.zero_add (widthOf ps)]
    exact (bounds_of_mem_mappingsFrom hmapping).2.2
  · obtain ⟨front, p, back, rfl, hp⟩ := mem_mappingsFrom.mp hmapping
    obtain ⟨horigin, hgenerated⟩ := mapping?_eq_some_iff.mp hp
    refine ⟨p.text, hps p (List.mem_append_right front List.mem_cons_self) _ horigin, ?_⟩
    rw [hgenerated]
    rfl

end MappedText

end TextTemplate
