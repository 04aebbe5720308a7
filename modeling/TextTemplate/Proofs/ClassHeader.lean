import TextTemplate.Document.Builder
import TextTemplate.Proofs.GenerationPass
import TextTemplate.Proofs.Lookups

/-!
# The base class in the header of a class

The header of a class is `public class … : … {`, with the base class in its second gap. Template
directives say which class that is, and they may stand anywhere in a tree of documents, any number
of times. All of them write into the same gap. With no name the gap holds the usual base class, and
with one name it holds that name, mapped to its token. With more names it holds all of them, one
directly behind another: a class that no directive names, and whose whole name no mapping covers.

`Generation.NamesOneBase` says what a header should be. A header is so exactly if at most one
directive of the tree names a base class (`namesOneBase_ofPieces_iff`).
-/

namespace TextTemplate

namespace Mapping

/-- Whether what a mapping stands over has a point, an end included, in common with a range. -/
def touches (place : Span) (m : Mapping) : Bool :=
  m.generated.start ≤ place.stop && place.start ≤ m.generated.stop

/-- A mapping over all of a range touches it. -/
theorem touches_of_covers {place : Span} {m : Mapping} (hplace : place.start ≤ place.stop)
    (h : m.covers place = true) : m.touches place = true := by
  simp only [covers, touches, Bool.and_eq_true, decide_eq_true_eq] at h ⊢
  omega

/-- So the mappings over all of a range are to be found among those that touch it. -/
theorem filter_covers_filter_touches {place : Span} (hplace : place.start ≤ place.stop)
    (ms : List Mapping) :
    (ms.filter (touches place)).filter (covers place) = ms.filter (covers place) := by
  rw [List.filter_filter]
  refine List.filter_congr fun m _ => ?_
  cases hcovers : m.covers place with
  | false => rfl
  | true => rw [touches_of_covers hplace hcovers, Bool.true_and]

end Mapping

namespace Piece

/-! ## A gap between two fixed texts -/

/-- **The text of some pieces stands where the pieces in front of them end.** -/
theorem slice?_textOf_middle (front mid back : List Piece) :
    Text.slice? ⟨widthOf front, widthOf front + widthOf mid⟩ (textOf (front ++ mid ++ back))
      = some (textOf mid) := by
  refine Text.slice?_eq_some_iff.mpr ⟨(textOf front).toList, (textOf back).toList, ?_, ?_, ?_⟩
  · rw [textOf_append, textOf_append, String.toList_append, String.toList_append]
  · exact byteSize_textOf front
  · rw [byteSize_textOf, byteSize_textOf]

/-- **The mappings that touch a gap** between two fixed texts are those of the pieces in it. -/
theorem filter_touches_mappingsFrom (front mid back : List Piece) {s t : String}
    (hs : 0 < s.utf8ByteSize) (ht : 0 < t.utf8ByteSize) :
    (mappingsFrom 0 ((front ++ [.fixed s]) ++ mid ++ (.fixed t :: back))).filter
        (Mapping.touches ⟨widthOf (front ++ [.fixed s]),
          widthOf (front ++ [.fixed s]) + widthOf mid⟩)
      = mappingsFrom (widthOf (front ++ [.fixed s])) mid := by
  have hwidth : widthOf (front ++ [.fixed s]) = widthOf front + s.utf8ByteSize :=
    widthOf_append front [.fixed s]
  -- the fixed texts have no mappings, and keep those on both sides away from the gap
  have hfront : ∀ m ∈ mappingsFrom 0 (front ++ [.fixed s]), m.generated.stop ≤ widthOf front := by
    intro m hm
    rw [mappingsFrom_append] at hm
    have hbounds := bounds_of_mem_mappingsFrom ((List.append_nil _).subst hm)
    omega
  have hback : ∀ offset, ∀ m ∈ mappingsFrom offset (.fixed t :: back),
      offset + t.utf8ByteSize ≤ m.generated.start := by
    intro offset m hm
    have hrest : m ∈ mappingsFrom (offset + t.utf8ByteSize) back := hm
    exact (bounds_of_mem_mappingsFrom hrest).1
  rw [mappingsFrom_append, mappingsFrom_append, List.filter_append, List.filter_append]
  rw [List.filter_eq_nil_iff.mpr, List.filter_eq_self.mpr, List.filter_eq_nil_iff.mpr,
    List.nil_append, List.append_nil, Nat.zero_add]
  · intro m hm
    have hstart := hback _ m hm
    simp only [widthOf_append (front ++ [.fixed s])] at hstart
    simp only [Mapping.touches, Bool.and_eq_true, decide_eq_true_eq]
    omega
  · intro m hm
    have hbounds := bounds_of_mem_mappingsFrom hm
    simp only [Mapping.touches, Bool.and_eq_true, decide_eq_true_eq]
    omega
  · intro m hm
    have hstop := hfront m hm
    simp only [Mapping.touches, Bool.and_eq_true, decide_eq_true_eq]
    omega

/-- Pieces that have no width together are none, if none of them is empty. -/
theorem eq_nil_of_widthOf_eq_zero {ps : List Piece} (hps : ∀ p ∈ ps, 0 < p.width)
    (h : widthOf ps = 0) : ps = [] := by
  cases ps with
  | nil => rfl
  | cons p ps =>
    have hp := hps p List.mem_cons_self
    rw [widthOf] at h
    omega

/-- **A piece that is as wide as all pieces together is alone**, if none of them is empty. -/
theorem eq_singleton_of_widthOf_le {front back : List Piece} {p : Piece}
    (hps : ∀ q ∈ front ++ p :: back, 0 < q.width) (h : widthOf (front ++ p :: back) ≤ p.width) :
    front = [] ∧ back = [] := by
  rw [widthOf_append, widthOf] at h
  constructor
  · exact eq_nil_of_widthOf_eq_zero (fun q hq => hps q (List.mem_append_left _ hq)) (by omega)
  · refine eq_nil_of_widthOf_eq_zero (fun q hq => ?_) (by omega)
    exact hps q (List.mem_append_right _ (List.mem_cons_of_mem _ hq))

/-- **No mapping stands over two pieces**: among the mappings of two or more pieces that are not
empty, none covers all of them. -/
theorem filter_covers_eq_nil {ps : List Piece} (hps : ∀ p ∈ ps, 0 < p.width)
    (hlength : 2 ≤ ps.length) (offset : Nat) :
    (mappingsFrom offset ps).filter (Mapping.covers ⟨offset, offset + widthOf ps⟩) = [] := by
  refine List.filter_eq_nil_iff.mpr fun m hm => ?_
  obtain ⟨front, p, back, rfl, hp⟩ := mem_mappingsFrom.mp hm
  obtain ⟨-, hgenerated⟩ := mapping?_eq_some_iff.mp hp
  intro hcovers
  simp only [Mapping.covers, hgenerated, Bool.and_eq_true, decide_eq_true_eq] at hcovers
  obtain ⟨rfl, rfl⟩ := eq_singleton_of_widthOf_le hps (by omega)
  exact absurd hlength (Nat.not_succ_le_self 1)

end Piece

namespace Visit

/-- **The base class that a node names**: the name in a template directive, unless it is blank. -/
def base? (schema : Schema) (v : Visit) : Option Token :=
  (v.directive? schema .template).bind (·.nonBlankValue? "inherits")

end Visit

namespace Generation

open Visit

/-! ## The pieces around the base class -/

/-- **The base classes that the nodes of a tree name**, in the order of the nodes. -/
def namedBases (schema : Schema) (nodes : List Visit) : List (Visit × Token) :=
  nodes.filterMap fun v => (v.base? schema).map fun base => (v, base)

/-- A name as it is copied into the class. -/
def basePiece (x : Visit × Token) : Piece := x.1.value x.2

/-- The pieces in front of the header. -/
def beforeHeader (schema : Schema) (mode : Mode) (nodes : List Visit) : List Piece :=
  namespaceOpening mode ++ ([line "using System;"] ++ nodes.flatMap (usingLine schema)
    ++ [line ("[" ++ generatedAttribute ++ "]")])

/-- The header up to the base class. -/
def headerStart : String := "public class " ++ className ++ " : "

/-- The header behind the base class, with the end of the line. -/
def headerEnd : String := " \x7b" ++ "\n"

/-- The line of the helper, which is the first one behind the header. -/
def helperLine : Piece :=
  line ("[" ++ generatedAttribute ++ "] private static string " ++ toStringHelper
    ++ "(object value) \x7b return null; \x7d")

/-- The line that starts the method. -/
def methodLine : Piece :=
  line ("[System.CodeDom.Compiler.GeneratedCodeAttribute] public override string "
    ++ "TransformText() \x7b")

/-- The pieces from the parameters on. -/
def afterHost (schema : Schema) (mode : Mode) (nodes : List Visit) : List Piece :=
  nodes.flatMap (property schema)
    ++ (methodLine :: (tailPieces nodes ++ namespaceClosing mode))

/-- The pieces behind the header, with the property of the host between the helper and the
parameters. -/
def afterHeader (schema : Schema) (mode : Mode) (nodes : List Visit) : List Piece :=
  helperLine :: ((if hasHost schema nodes then [line hostProperty] else [])
    ++ afterHost schema mode nodes)

/-- **Where the base class stands**: from the end of `headerStart` to the start of `headerEnd`. -/
def basePlace (schema : Schema) (mode : Mode) (nodes : List Visit) : Span where
  start := Piece.widthOf (beforeHeader schema mode nodes ++ [.fixed headerStart])
  stop := Piece.widthOf (beforeHeader schema mode nodes ++ [.fixed headerStart])
    + Piece.widthOf (baseClasses schema nodes)

/-- **What a header should be**: no directive names a base class and the usual one stands in its
place, or the name in one of the directives stands there, and exactly one mapping covers it, the one
that leads to this name. -/
def NamesOneBase (schema : Schema) (mode : Mode) (d : Document) (unit : GeneratedUnit) : Prop :=
  let place := basePlace schema mode d.visits
  (namedBases schema d.visits = [] ∧ Text.slice? place unit.text = some defaultBaseClass)
    ∨ ∃ x ∈ namedBases schema d.visits, Text.slice? place unit.text = some x.2.text
      ∧ unit.mappings.toList.filter (Mapping.covers place) = [⟨place, ⟨x.1.fileId, x.2.span⟩⟩]

/-- **The layout of a class around its base class.** -/
theorem layout_eq_around_baseClasses (schema : Schema) (mode : Mode) (d : Document) :
    layout schema mode d
      = (beforeHeader schema mode d.visits ++ [.fixed headerStart]) ++ baseClasses schema d.visits
        ++ (.fixed headerEnd :: afterHeader schema mode d.visits) := by
  unfold layout headPieces beforeHeader afterHeader afterHost helperLine methodLine
  simp only [List.append_assoc, List.cons_append, List.nil_append, headerStart, headerEnd, line]

/-- The pieces of the base classes are those of the names. -/
theorem flatMap_baseClass (schema : Schema) (nodes : List Visit) :
    nodes.flatMap (baseClass schema) = (namedBases schema nodes).map basePiece := by
  induction nodes with
  | nil => rfl
  | cons v nodes ih =>
    rw [List.flatMap_cons, ih, namedBases, namedBases, List.filterMap_cons]
    unfold baseClass base?
    cases (v.directive? schema .template).bind (·.nonBlankValue? "inherits") <;> rfl

/-- Without a name the place holds the usual base class. -/
theorem baseClasses_of_nil {schema : Schema} {nodes : List Visit}
    (h : namedBases schema nodes = []) : baseClasses schema nodes = [.fixed defaultBaseClass] := by
  unfold baseClasses
  rw [flatMap_baseClass, h]
  rfl

/-- With a name it holds all names. -/
theorem baseClasses_of_ne_nil {schema : Schema} {nodes : List Visit}
    (h : namedBases schema nodes ≠ []) :
    baseClasses schema nodes = (namedBases schema nodes).map basePiece := by
  unfold baseClasses
  rw [flatMap_baseClass, List.isEmpty_map, List.isEmpty_eq_false_iff.mpr h]
  rfl

/-- The text that stands there. -/
theorem textOf_baseClasses (schema : Schema) (nodes : List Visit) :
    Piece.textOf (baseClasses schema nodes)
      = if ((namedBases schema nodes).map fun x => x.2.text).isEmpty then defaultBaseClass
        else String.join ((namedBases schema nodes).map fun x => x.2.text) := by
  have hjoin : ∀ names : List (Visit × Token),
      Piece.textOf (names.map basePiece) = String.join (names.map fun x => x.2.text) := by
    intro names
    induction names with
    | nil => rfl
    | cons x names ih =>
      rw [List.map_cons, List.map_cons, Piece.textOf, ih, String.join_cons]
      rfl
  rw [List.isEmpty_map]
  cases h : (namedBases schema nodes).isEmpty with
  | true =>
    rw [baseClasses_of_nil (List.isEmpty_iff.mp h), if_pos rfl]
    rfl
  | false =>
    rw [baseClasses_of_ne_nil (List.isEmpty_eq_false_iff.mp h), if_neg Bool.false_ne_true]
    exact hjoin _

/-- The usual base class is not copied, so the mappings are those of the names in any case. -/
theorem mappingsFrom_baseClasses (schema : Schema) (nodes : List Visit) (offset : Nat) :
    Piece.mappingsFrom offset (baseClasses schema nodes)
      = Piece.mappingsFrom offset ((namedBases schema nodes).map basePiece) := by
  by_cases h : namedBases schema nodes = []
  · rw [baseClasses_of_nil h, h]
    rfl
  · rw [baseClasses_of_ne_nil h]

/-- A name that is written is not empty. -/
theorem width_pos_of_mem_namedBases {schema : Schema} {nodes : List Visit} :
    ∀ p ∈ (namedBases schema nodes).map basePiece, 0 < p.width := by
  intro p hp
  rw [← flatMap_baseClass] at hp
  obtain ⟨v, -, hp⟩ := List.mem_flatMap.mp hp
  have hname := isEmpty_eq_false_of_mem_baseClass hp
  rw [String.isEmpty_eq_utf8ByteSize_beq_zero, beq_eq_false_iff_ne] at hname
  exact Nat.pos_of_ne_zero hname

section Header

variable (schema : Schema) (mode : Mode) (d : Document)

/-- **What stands in the place of the base class.** -/
theorem slice?_basePlace :
    Text.slice? (basePlace schema mode d.visits) (Piece.textOf (layout schema mode d))
      = some (Piece.textOf (baseClasses schema d.visits)) := by
  rw [layout_eq_around_baseClasses]
  exact Piece.slice?_textOf_middle ..

/-- **The mappings that touch the base class** are those of the names. -/
theorem filter_touches_basePlace :
    (Piece.mappingsFrom 0 (layout schema mode d)).filter
        (Mapping.touches (basePlace schema mode d.visits))
      = Piece.mappingsFrom (basePlace schema mode d.visits).start
          ((namedBases schema d.visits).map basePiece) := by
  rw [layout_eq_around_baseClasses, ← mappingsFrom_baseClasses]
  exact Piece.filter_touches_mappingsFrom _ _ _ (by decide +kernel) (by decide +kernel)

/-- So those that cover it are to be found among them. -/
theorem filter_covers_basePlace :
    (Piece.mappingsFrom 0 (layout schema mode d)).filter
        (Mapping.covers (basePlace schema mode d.visits))
      = (Piece.mappingsFrom (basePlace schema mode d.visits).start
          ((namedBases schema d.visits).map basePiece)).filter
            (Mapping.covers (basePlace schema mode d.visits)) := by
  have hplace : (basePlace schema mode d.visits).start ≤ (basePlace schema mode d.visits).stop :=
    Nat.le_add_right ..
  rw [← Mapping.filter_covers_filter_touches hplace, filter_touches_basePlace]

variable {schema d}

/-- With two names or more no mapping covers what stands there. -/
theorem filter_covers_of_two_le (h : 2 ≤ (namedBases schema d.visits).length) :
    (Piece.mappingsFrom 0 (layout schema mode d)).filter
      (Mapping.covers (basePlace schema mode d.visits)) = [] := by
  have hne : namedBases schema d.visits ≠ [] := by
    rintro hnil
    rw [hnil] at h
    exact absurd h (by decide)
  rw [filter_covers_basePlace, basePlace, baseClasses_of_ne_nil hne]
  exact Piece.filter_covers_eq_nil width_pos_of_mem_namedBases (by rw [List.length_map]; exact h) _

/-- With one name one mapping covers it, and leads to the name. -/
theorem filter_covers_of_singleton {x : Visit × Token} (h : namedBases schema d.visits = [x]) :
    (Piece.mappingsFrom 0 (layout schema mode d)).filter
        (Mapping.covers (basePlace schema mode d.visits))
      = [⟨basePlace schema mode d.visits, ⟨x.1.fileId, x.2.span⟩⟩] := by
  have hne : namedBases schema d.visits ≠ [] := by
    rw [h]
    exact List.cons_ne_nil _ _
  have hplace : basePlace schema mode d.visits
      = ⟨(basePlace schema mode d.visits).start,
          (basePlace schema mode d.visits).start + (basePiece x).width⟩ := by
    simp only [basePlace, baseClasses_of_ne_nil hne, h, List.map_cons, List.map_nil, Piece.widthOf,
      Nat.add_zero]
  have hmappings : Piece.mappingsFrom (basePlace schema mode d.visits).start
      ((namedBases schema d.visits).map basePiece)
        = [⟨basePlace schema mode d.visits, ⟨x.1.fileId, x.2.span⟩⟩] := by
    rw [h, hplace]
    rfl
  rw [filter_covers_basePlace, hmappings]
  refine List.filter_cons_of_pos ?_
  simp only [Mapping.covers, Nat.le_refl, decide_true, Bool.and_self]

/-- **A header names one base class exactly if at most one directive does.** -/
theorem namesOneBase_ofPieces_iff :
    NamesOneBase schema mode d (.ofPieces (layout schema mode d))
      ↔ (namedBases schema d.visits).length ≤ 1 := by
  have hslice := slice?_basePlace schema mode d
  constructor
  · rintro (⟨hnil, -⟩ | ⟨x, hx, -, hcovers⟩)
    · rw [hnil]
      exact Nat.zero_le 1
    · refine Nat.le_of_lt_succ (Nat.lt_of_not_le fun htwo => ?_)
      have hnone := filter_covers_of_two_le mode htwo
      exact List.cons_ne_nil _ _ (hcovers.symm.trans hnone)
  · intro hlength
    match hnames : namedBases schema d.visits, hlength with
    | [], _ =>
      refine Or.inl ⟨hnames, hslice.trans ?_⟩
      rw [baseClasses_of_nil hnames]
      rfl
    | [x], _ =>
      refine Or.inr ⟨x, hnames ▸ List.mem_singleton_self x, hslice.trans ?_,
        filter_covers_of_singleton mode hnames⟩
      rw [baseClasses_of_ne_nil (hnames ▸ List.cons_ne_nil _ _), hnames]
      exact congrArg some (String.append_empty ..)

end Header

/-- **The header of a class names one base class exactly if at most one directive does.** For every
tree of documents, schema and mode:

* between the two fixed texts of the header stands the usual base class if no directive names one,
  and otherwise the names of all directives, one directly behind another;
* the mappings that touch this place are those of the names, in the order of the directives;
* it is one name, covered by one mapping, or the usual base class without a name, exactly if the
  tree has at most one directive with a name. With more of them no mapping covers the place. -/
theorem generate_namesOneBase_iff (schema : Schema) (mode : Mode) (d : Document) :
    ∃ unit, generate schema mode Stop.never d = .ok unit
      ∧ (let names := (namedBases schema d.visits).map fun x => x.2.text
        unit.text = Piece.textOf (beforeHeader schema mode d.visits) ++ headerStart
          ++ (if names.isEmpty then defaultBaseClass else String.join names) ++ headerEnd
          ++ Piece.textOf (afterHeader schema mode d.visits))
      ∧ unit.mappings.toList.filter (Mapping.touches (basePlace schema mode d.visits))
        = Piece.mappingsFrom (basePlace schema mode d.visits).start
          ((namedBases schema d.visits).map basePiece)
      ∧ (NamesOneBase schema mode d unit ↔ (namedBases schema d.visits).length ≤ 1)
      ∧ (2 ≤ (namedBases schema d.visits).length →
          unit.mappings.toList.filter (Mapping.covers (basePlace schema mode d.visits)) = []) := by
  refine ⟨_, generate_eq_ofPieces_layout schema mode d, ?_, filter_touches_basePlace schema mode d,
    namesOneBase_ofPieces_iff mode, filter_covers_of_two_le mode⟩
  show Piece.textOf (layout schema mode d) = _
  rw [layout_eq_around_baseClasses, Piece.textOf_append, Piece.textOf_append, Piece.textOf_append,
    textOf_baseClasses]
  simp only [Piece.textOf, Piece.text, String.append_empty, String.append_assoc]

/-- A template with two directives that name base classes. -/
def joinedBases : Document :=
  (((Builder.new 0 "two.tt").directive "template" [("inherits", "My.Base")]).directive "template"
    [("inherits", "Other.Base")]).build

/-- **Not every header names one base class**: here it names `My.BaseOther.Base`. -/
theorem not_namesOneBase_joinedBases :
    ∃ unit, generate .standard .designTime Stop.never joinedBases = .ok unit
      ∧ Text.slice? (basePlace .standard .designTime joinedBases.visits) unit.text
        = some "My.BaseOther.Base"
      ∧ unit.mappings = #[⟨⟨108, 115⟩, ⟨0, ⟨23, 30⟩⟩⟩, ⟨⟨115, 125⟩, ⟨0, ⟨57, 67⟩⟩⟩]
      ∧ ¬NamesOneBase .standard .designTime joinedBases unit := by
  have htwo : ¬(namedBases .standard joinedBases.visits).length ≤ 1 := by decide +kernel
  have hbase : Piece.textOf (baseClasses .standard joinedBases.visits) = "My.BaseOther.Base" := by
    decide +kernel
  have hmappings : (Piece.mappingsFrom 0 (layout .standard .designTime joinedBases)).toArray
      = #[⟨⟨108, 115⟩, ⟨0, ⟨23, 30⟩⟩⟩, ⟨⟨115, 125⟩, ⟨0, ⟨57, 67⟩⟩⟩] := by
    decide +kernel
  refine ⟨_, generate_eq_ofPieces_layout .., ?_, hmappings, fun h => ?_⟩
  · exact (slice?_basePlace .standard .designTime joinedBases).trans (congrArg some hbase)
  · exact htwo ((namesOneBase_ofPieces_iff _).mp h)

end Generation

end TextTemplate
