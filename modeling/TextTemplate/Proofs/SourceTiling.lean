import TextTemplate.Proofs.BuiltDocuments

/-!
# A document that was built agrees with its source

A builder computes offsets while it writes. Whatever calls it has seen, and whatever texts it was
given, the offsets are right: every token covers its own text, the nodes that have a text of their
own cover the source without gaps, and the parts of a directive stand in order inside it. The two
kinds of nodes without a text of their own have their place as well: an included document stands
right behind the directive that asks for it, and the mark of a missing token stands between its
neighbours.

What a list of nodes says about the places of its nodes is `Node.Laid`. The nodes of two stretches
that follow each other can be put together (`Laid.append`), so one fact about each call is enough.
The call that says why a value could not be read writes nothing: it changes the error of one
attribute (`Builder.Marks`), and no place depends on that.
-/

namespace TextTemplate

/-! ## Places -/

namespace Span

/-- **Spans that follow each other without gaps**, from one offset to another. -/
def Tile (lo hi : Nat) : List Span → Prop
  | [] => lo = hi
  | s :: spans => s.start = lo ∧ s.start ≤ s.stop ∧ Tile s.stop hi spans

/-- **Spans that stand in order inside a stretch**: each ends before the next one starts. -/
structure InOrder (lo hi : Nat) (spans : List Span) : Prop where
  apart : spans.Pairwise fun s t => s.stop < t.start
  bounds : ∀ s ∈ spans, lo ≤ s.start ∧ s.start ≤ s.stop ∧ s.stop ≤ hi

theorem inOrder_nil (lo hi : Nat) : InOrder lo hi [] :=
  ⟨List.Pairwise.nil, List.forall_mem_nil _⟩

/-- A span in front of a stretch joins the spans of the stretch. -/
theorem InOrder.cons {s : Span} {spans : List Span} {lo mid hi hi' : Nat}
    (h : InOrder mid hi spans) (hlo : lo ≤ s.start) (hle : s.start ≤ s.stop) (hmid : s.stop < mid)
    (hstop : s.stop ≤ hi') (hhi : hi ≤ hi') : InOrder lo hi' (s :: spans) := by
  refine ⟨List.pairwise_cons.mpr ⟨fun t ht => ?_, h.apart⟩, List.forall_mem_cons.mpr ⟨?_, ?_⟩⟩
  · exact Nat.lt_of_lt_of_le hmid (h.bounds t ht).1
  · exact ⟨hlo, hle, hstop⟩
  · intro t ht
    obtain ⟨hstart, hspan, hstop⟩ := h.bounds t ht
    exact ⟨by omega, hspan, Nat.le_trans hstop hhi⟩

end Span

/-- The tokens of an attribute. -/
def Attribute.tokens (a : Attribute) : List Token := a.name :: a.value.toList

namespace Directive

/-- The tokens of a directive. -/
def tokens (d : Directive) : List Token := d.name :: d.attributes.flatMap Attribute.tokens

/-- **A directive whose parts are in order**: its name and its attributes stand one behind the other
inside it, and so do the name and the value of an attribute inside the attribute. -/
structure WellCut (d : Directive) : Prop where
  parts : Span.InOrder d.span.start d.span.stop (d.name.span :: d.attributes.map Attribute.span)
  attributes : ∀ a ∈ d.attributes,
    Span.InOrder a.span.start a.span.stop (a.tokens.map Token.span)

/-- **A directive that asks for an included document**: it is one for includes, its `file` is the path
of the document, and the document takes its span. -/
structure Asks (d : Directive) (part : Include) : Prop where
  name : d.name.text = "include"
  file : d.value? "file" = some part.path
  span : part.span = d.span

end Directive

namespace Node

/-- **The tokens of a node.** -/
def tokens : Node → List Token
  | .text token => [token]
  | .directive d => d.tokens
  | .codeBlock block => block.code.toList
  | .included _ => []
  | .missing _ => []

/-- **Whether a node has a text of its own** in the source. -/
def isWritten : Node → Bool
  | .included _ => false
  | .missing _ => false
  | _ => true

/-- The directive that a node is, which may ask for a document. -/
def asking? : Node → Option Directive
  | .directive d => some d
  | _ => none

/-- The spans of the nodes that have a text of their own. -/
def writtenSpans (nodes : List Node) : List Span := (nodes.filter isWritten).map span

theorem writtenSpans_of_written {node : Node} (h : node.isWritten = true) (nodes : List Node) :
    writtenSpans (node :: nodes) = node.span :: writtenSpans nodes := by
  unfold writtenSpans
  rw [List.filter_cons_of_pos h, List.map_cons]

end Node

/-- **A mark between its neighbours**: it has no width, the nodes in front of it end where it
stands, and those behind it start there. -/
structure MissingToken.Between (marker : MissingToken) (lo hi : Nat) (front back : List Node) :
    Prop where
  empty : marker.span.start = marker.span.stop
  tileFront : Span.Tile lo marker.span.start (Node.writtenSpans front)
  tileBack : Span.Tile marker.span.stop hi (Node.writtenSpans back)
  previous : ∀ node, front.getLast? = some node → node.span.stop = marker.span.start
  next : ∀ node, back.head? = some node → node.span.start = marker.span.stop

/-- **A document that agrees with its source.** -/
structure Document.AgreesWithSource (d : Document) : Prop where
  /-- Every token covers its own text. -/
  tokens : ∀ node ∈ d.nodes, ∀ token ∈ node.tokens, d.slice? token.span = some token.text
  /-- The nodes that have a text of their own cover the source without gaps. -/
  tile : Span.Tile 0 d.size (Node.writtenSpans d.nodes)
  /-- An included document stands right behind the directive that asks for it, and has its span. -/
  included : ∀ front part back, d.nodes = front ++ .included part :: back →
    ∃ before directive, front = before ++ [.directive directive] ∧ directive.Asks part
  /-- The mark of a missing token stands between its neighbours. -/
  missing : ∀ front marker back, d.nodes = front ++ .missing marker :: back →
    marker.Between 0 d.size front back
  /-- The parts of a directive are in order. -/
  directives : ∀ directive ∈ d.directives, directive.WellCut

/-! ## Nodes that are laid out -/

namespace Node

/-- **Nodes that are laid out from one offset to another.** `asking` is the node in front if that is
a directive, and only behind a directive that asks for it a document may be included. -/
inductive Laid : Option Directive → Nat → Nat → List Node → Prop where
  | nil (asking : Option Directive) (lo : Nat) : Laid asking lo lo []
  | written {asking : Option Directive} {lo hi : Nat} {node : Node} {nodes : List Node}
    (hwritten : node.isWritten = true) (hstart : node.span.start = lo)
    (hle : node.span.start ≤ node.span.stop) (hnodes : Laid node.asking? node.span.stop hi nodes) :
    Laid asking lo hi (node :: nodes)
  | included {directive : Directive} {lo hi : Nat} {part : Include} {nodes : List Node}
    (hasks : directive.Asks part) (hnodes : Laid none lo hi nodes) :
    Laid (some directive) lo hi (.included part :: nodes)
  | missing {asking : Option Directive} {lo hi : Nat} {marker : MissingToken} {nodes : List Node}
    (hmarker : marker.span = ⟨lo, lo⟩) (hnodes : Laid none lo hi nodes) :
    Laid asking lo hi (.missing marker :: nodes)

namespace Laid

variable {asking : Option Directive} {lo mid hi : Nat} {front nodes back : List Node}

/-- What needs no directive in front may stand behind one. -/
theorem of_none (h : Laid none lo hi nodes) : Laid asking lo hi nodes := by
  cases h with
  | nil => exact .nil _ _
  | written hwritten hstart hle hnodes => exact .written hwritten hstart hle hnodes
  | missing hmarker hnodes => exact .missing hmarker hnodes

/-- What stands behind a directive may stand behind one that asks for the same documents. -/
theorem of_asks {d d' : Directive} (hasks : ∀ part, d.Asks part → d'.Asks part)
    (h : Laid (some d) lo hi nodes) : Laid (some d') lo hi nodes := by
  cases h with
  | nil => exact .nil _ _
  | written hwritten hstart hle hnodes => exact .written hwritten hstart hle hnodes
  | included hpart hnodes => exact .included (hasks _ hpart) hnodes
  | missing hmarker hnodes => exact .missing hmarker hnodes

/-- **Two stretches that follow each other.** -/
theorem append (h : Laid asking lo mid nodes) (hback : Laid none mid hi back) :
    Laid asking lo hi (nodes ++ back) := by
  induction h with
  | nil => exact hback.of_none
  | written hwritten hstart hle _ ih => exact .written hwritten hstart hle (ih hback)
  | included hasks _ ih => exact .included hasks (ih hback)
  | missing hmarker _ ih => exact .missing hmarker (ih hback)

/-- **The nodes that have a text of their own leave no gaps.** -/
theorem tile (h : Laid asking lo hi nodes) : Span.Tile lo hi (writtenSpans nodes) := by
  induction h with
  | nil => rfl
  | written hwritten hstart hle _ ih =>
    rw [writtenSpans_of_written hwritten]
    exact ⟨hstart, hle, ih⟩
  | included _ _ ih => exact ih
  | missing _ _ ih => exact ih

/-- The first node starts where the stretch does, unless it is an include. -/
theorem start_head? (h : Laid none lo hi nodes) :
    ∀ node, nodes.head? = some node → node.span.start = lo := by
  intro node hnode
  cases h with
  | nil => cases hnode
  | written _ hstart _ _ =>
    cases hnode
    exact hstart
  | missing hmarker _ =>
    cases hnode
    exact congrArg Span.start hmarker

/-- **A document is included right behind a directive that asks for it.** -/
theorem exists_directive {part : Include}
    (h : Laid asking lo hi (front ++ .included part :: back)) :
    (front = [] ∧ ∃ directive, asking = some directive ∧ directive.Asks part)
      ∨ ∃ before directive, front = before ++ [.directive directive]
        ∧ directive.Asks part := by
  induction front generalizing asking lo with
  | nil =>
    cases h with
    | written hwritten _ _ _ => cases hwritten
    | included hasks _ => exact Or.inl ⟨rfl, _, rfl, hasks⟩
  | cons node front ih =>
    refine Or.inr ?_
    have hrest : ∃ asking' lo', Laid asking' lo' hi (front ++ .included part :: back)
        ∧ ∀ d, asking' = some d → node.asking? = some d := by
      cases h with
      | written _ _ _ hnodes => exact ⟨_, _, hnodes, fun _ hd => hd⟩
      | included _ hnodes => exact ⟨_, _, hnodes, nofun⟩
      | missing _ hnodes => exact ⟨_, _, hnodes, nofun⟩
    obtain ⟨asking', lo', hlaid, hasking⟩ := hrest
    rcases ih hlaid with ⟨rfl, directive, hd, hasks⟩ | ⟨before, directive, rfl, hasks⟩
    · -- nothing stands between, so the node is the directive
      replace hd := hasking _ hd
      cases node with
      | directive d => exact ⟨[], d, rfl, Option.some.inj hd ▸ hasks⟩
      | _ => cases hd
    · exact ⟨node :: before, directive, rfl, hasks⟩

/-- **A mark stands between its neighbours.** -/
theorem between {marker : MissingToken} (h : Laid asking lo hi (front ++ .missing marker :: back))
    (hasking : ∀ d, asking = some d → d.span.stop = lo) : marker.Between lo hi front back := by
  induction front generalizing asking lo with
  | nil =>
    cases h with
    | written hwritten _ _ _ => cases hwritten
    | missing hmarker hnodes =>
      have hstart : marker.span.start = lo := congrArg Span.start hmarker
      have hstop : marker.span.stop = lo := congrArg Span.stop hmarker
      refine ⟨hstart.trans hstop.symm, hstart.symm, ?_, nofun, ?_⟩
      · rw [hstop]
        exact hnodes.tile
      · rw [hstop]
        exact hnodes.start_head?
  | cons node front ih =>
    -- the rest of the front starts where the node ends
    have hrest : ∃ asking' lo', Laid asking' lo' hi (front ++ .missing marker :: back)
        ∧ (∀ d, asking' = some d → d.span.stop = lo') ∧ node.span.stop = lo'
        ∧ ∀ spans, Span.Tile lo' marker.span.start spans →
          Span.Tile lo marker.span.start (writtenSpans [node] ++ spans) := by
      cases h with
      | written hwritten hstart hle hnodes =>
        refine ⟨_, _, hnodes, fun d hd => ?_, rfl, fun spans hspans => ?_⟩
        · cases node with
          | directive d =>
            cases hd
            rfl
          | _ => cases hd
        · rw [writtenSpans_of_written hwritten]
          exact ⟨hstart, hle, hspans⟩
      | included hasks hnodes =>
        refine ⟨_, _, hnodes, nofun, ?_, fun _ hspans => hspans⟩
        exact (congrArg Span.stop hasks.span).trans (hasking _ rfl)
      | missing hmarker hnodes =>
        exact ⟨_, _, hnodes, nofun, congrArg Span.stop hmarker, fun _ hspans => hspans⟩
    obtain ⟨asking', lo', hlaid, hasking', hstop, htile⟩ := hrest
    have hbetween := ih hlaid hasking'
    refine ⟨hbetween.empty, ?_, hbetween.tileBack, fun last hlast => ?_, hbetween.next⟩
    · show Span.Tile lo _ (writtenSpans ([node] ++ front))
      unfold writtenSpans at htile ⊢
      rw [List.filter_append, List.map_append]
      exact htile _ hbetween.tileFront
    · cases hfront : front.getLast? with
      | some last' =>
        rw [List.getLast?_cons, hfront] at hlast
        cases hlast
        exact hbetween.previous _ hfront
      | none =>
        rw [List.getLast?_eq_none_iff] at hfront
        subst hfront
        cases hlast
        exact hstop.trans hbetween.tileFront

/-- Nothing is moved if a directive is put in the place of one with the same span that asks for the
same documents. -/
theorem replace_directive {d d' : Directive} (h : Laid asking lo hi (front ++ .directive d :: back))
    (hspan : d'.span = d.span) (hasks : ∀ part, d.Asks part → d'.Asks part) :
    Laid asking lo hi (front ++ .directive d' :: back) := by
  induction front generalizing asking lo with
  | nil =>
    cases h with
    | written _ hstart hle hnodes =>
      have hnode : (Node.directive d').span = (Node.directive d).span := hspan
      refine .written rfl ?_ ?_ ?_
      · rw [hnode]
        exact hstart
      · rw [hnode]
        exact hle
      · rw [hnode]
        exact hnodes.of_asks hasks
  | cons node front ih =>
    cases h with
    | written hwritten hstart hle hnodes => exact .written hwritten hstart hle (ih hnodes)
    | included hpart hnodes => exact .included hpart (ih hnodes)
    | missing hmarker hnodes => exact .missing hmarker (ih hnodes)

end Laid

end Node

/-! ## What the calls write -/

namespace Builder

open Text

/-- A token covers its text if that stands at its offset. -/
theorem slice?_tokenAt {source text : String} {offset : Nat} (front back : String)
    (hsource : source = front ++ text ++ back) (hoffset : offset = front.utf8ByteSize) :
    slice? (tokenAt offset text).span source = some text := by
  refine slice?_eq_some_iff.mpr ⟨front.toList, back.toList, ?_, ?_, ?_⟩
  · rw [hsource, String.toList_append, String.toList_append]
  · rw [byteSize_toList, hoffset]
    rfl
  · rw [byteSize_toList, byteSize_toList, hoffset]
    rfl

/-- What a source covers it covers with more text behind it. -/
theorem slice?_append {span : Span} {source text : String} (h : slice? span source = some text)
    (more : String) : slice? span (source ++ more) = some text := by
  obtain ⟨as, bs, hsource, hstart, hstop⟩ := slice?_eq_some_iff.mp h
  refine slice?_eq_some_iff.mpr ⟨as, bs ++ more.toList, ?_, hstart, hstop⟩
  rw [String.toList_append, hsource, List.append_assoc]

/-- **The tokens of attributes cover their texts.** -/
theorem slice?_attributesAt (attributes : List (String × String)) (front back : String) :
    ∀ a ∈ attributesAt front.utf8ByteSize attributes, ∀ token ∈ a.tokens,
      slice? token.span (front ++ attributesText attributes ++ back) = some token.text := by
  induction attributes generalizing front with
  | nil => exact List.forall_mem_nil _
  | cons pair rest ih =>
    obtain ⟨name, value⟩ := pair
    rw [attributesText]
    refine List.forall_mem_cons.mpr
      ⟨List.forall_mem_cons.mpr ⟨?_, List.forall_mem_singleton.mpr ?_⟩, ?_⟩
    · refine slice?_tokenAt (front ++ " ")
        ("=\"" ++ value ++ "\"" ++ attributesText rest ++ back) ?_ ?_
      · simp only [attributeText, String.append_assoc]
      · rw [String.utf8ByteSize_append]
        rfl
    · refine slice?_tokenAt (front ++ " " ++ name ++ "=\"")
        ("\"" ++ attributesText rest ++ back) ?_ ?_
      · simp only [attributeText, String.append_assoc]
      · rw [String.utf8ByteSize_append, String.utf8ByteSize_append, String.utf8ByteSize_append]
        rfl
    · have hrest := ih (front ++ attributeText name value)
      rw [String.utf8ByteSize_append] at hrest
      have htext : front ++ (attributeText name value ++ attributesText rest) ++ back
          = front ++ attributeText name value ++ attributesText rest ++ back := by
        simp only [String.append_assoc]
      rw [htext]
      exact hrest

/-- **The tokens of a directive cover their texts.** -/
theorem slice?_directiveAt (name : String) (attributes : List (String × String)) (front : String) :
    ∀ token ∈ (directiveAt front.utf8ByteSize name attributes).tokens,
      slice? token.span (front ++ directiveText name attributes) = some token.text := by
  refine List.forall_mem_cons.mpr ⟨?_, ?_⟩
  · refine slice?_tokenAt (front ++ "<#@ ") (attributesText attributes ++ closing) ?_ ?_
    · simp only [directiveText, String.append_assoc]
    · rw [String.utf8ByteSize_append]
  · intro token htoken
    obtain ⟨a, ha, htoken⟩ := List.mem_flatMap.mp htoken
    have hattributes := slice?_attributesAt attributes (front ++ "<#@ " ++ name) closing
    rw [String.utf8ByteSize_append, String.utf8ByteSize_append] at hattributes
    have htext : front ++ directiveText name attributes
        = front ++ "<#@ " ++ name ++ attributesText attributes ++ closing := by
      simp only [directiveText, String.append_assoc]
    rw [htext]
    exact hattributes a ha token htoken

/-- **The code of a block covers its text.** -/
theorem slice?_codeBlock (kind : BlockKind) (code : String) (b : Builder) :
    ∀ token ∈ (if code.isEmpty then none
        else some (tokenAt (b.here + (opening kind).utf8ByteSize) code)).toList,
      slice? token.span (b.source ++ (opening kind ++ code ++ closing)) = some token.text := by
  split
  · exact List.forall_mem_nil _
  · refine List.forall_mem_singleton.mpr (slice?_tokenAt (b.source ++ opening kind) closing ?_ ?_)
    · simp only [String.append_assoc]
    · rw [String.utf8ByteSize_append]
      rfl

/-- **Attributes stand in order**, each behind a blank. -/
theorem inOrder_attributesAt (attributes : List (String × String)) (offset : Nat) :
    Span.InOrder (offset + 1) (offset + (attributesText attributes).utf8ByteSize)
      ((attributesAt offset attributes).map Attribute.span) := by
  induction attributes generalizing offset with
  | nil => exact Span.inOrder_nil _ _
  | cons pair rest ih =>
    obtain ⟨name, value⟩ := pair
    have hsize := utf8ByteSize_attributeText name value
    have hstart : (attributeAt offset name value).span.start = offset + 1 := rfl
    have hstop : (attributeAt offset name value).span.stop
        = offset + 1 + name.utf8ByteSize + 2 + value.utf8ByteSize + 1 := rfl
    rw [attributesText, String.utf8ByteSize_append, ← Nat.add_assoc]
    refine (ih (offset + (attributeText name value).utf8ByteSize)).cons ?_ ?_ ?_ ?_ (Nat.le_refl _)
    all_goals omega

/-- The name and the value of an attribute stand in order inside it. -/
theorem inOrder_attributeAt (attributes : List (String × String)) (offset : Nat) :
    ∀ a ∈ attributesAt offset attributes,
      Span.InOrder a.span.start a.span.stop (a.tokens.map Token.span) := by
  induction attributes generalizing offset with
  | nil => exact List.forall_mem_nil _
  | cons pair rest ih =>
    obtain ⟨name, value⟩ := pair
    refine List.forall_mem_cons.mpr ⟨?_, ih _⟩
    have hparts : (attributeAt offset name value).tokens.map Token.span
        = [⟨offset + 1, offset + 1 + name.utf8ByteSize⟩,
          ⟨offset + 1 + name.utf8ByteSize + 2,
            offset + 1 + name.utf8ByteSize + 2 + value.utf8ByteSize⟩] := rfl
    have hspan : (attributeAt offset name value).span
        = ⟨offset + 1, offset + 1 + name.utf8ByteSize + 2 + value.utf8ByteSize + 1⟩ := rfl
    have hvalue := (Span.inOrder_nil (offset + 1 + name.utf8ByteSize + 2 + value.utf8ByteSize + 1)
      (offset + 1 + name.utf8ByteSize + 2 + value.utf8ByteSize + 1))
    rw [hparts, hspan]
    refine (hvalue.cons (Nat.le_refl _) ?_ ?_ ?_ (Nat.le_refl _)).cons ?_ ?_ ?_ ?_ (Nat.le_refl _)
    all_goals
      dsimp only
      omega

theorem utf8ByteSize_directiveText (name : String) (attributes : List (String × String)) :
    (directiveText name attributes).utf8ByteSize
      = 4 + name.utf8ByteSize + (attributesText attributes).utf8ByteSize + 3 := by
  unfold directiveText
  rw [String.utf8ByteSize_append, String.utf8ByteSize_append, String.utf8ByteSize_append]
  rfl

/-- **The parts of a directive are in order.** -/
theorem wellCut_directiveAt (name : String) (attributes : List (String × String)) (offset : Nat) :
    (directiveAt offset name attributes).WellCut := by
  refine ⟨?_, inOrder_attributeAt attributes _⟩
  have hsize := utf8ByteSize_directiveText name attributes
  show Span.InOrder offset (offset + (directiveText name attributes).utf8ByteSize)
    (⟨offset + 4, offset + 4 + name.utf8ByteSize⟩ :: _)
  refine (inOrder_attributesAt attributes (offset + 4 + name.utf8ByteSize)).cons ?_ ?_ ?_ ?_
    (by omega)
  all_goals
    dsimp only
    omega

/-! ## The error of a value -/

/-- **What the error of a value changes** in a list of nodes: nothing, if there is no directive or
the last one has no attribute of the name, and otherwise the error of the first such attribute of
the last directive. -/
inductive Marks (name message : String) : List Node → List Node → Prop where
  | nothing {nodes : List Node}
    (hlast : ∀ d, (nodes.filterMap Node.directive?).getLast? = some d →
      d.hasAttribute name = false) :
    Marks name message nodes nodes
  | value (front back : List Node) (d : Directive) (before after : List Attribute)
    (a : Attribute) (hback : ∀ node ∈ back, node.directive? = none)
    (hattributes : d.attributes = before ++ a :: after)
    (hbefore : ∀ other ∈ before, sameName other.name.text name = false)
    (hname : sameName a.name.text name = true) :
    Marks name message (front ++ .directive d :: back)
      (front ++ .directive
        { d with attributes := before ++ { a with valueError := some message } :: after } :: back)

/-- The mark goes to the first attribute of the name. -/
theorem markAttribute_append {name message : String} {before : List Attribute} {a : Attribute}
    (hbefore : ∀ other ∈ before, sameName other.name.text name = false)
    (hname : sameName a.name.text name = true) (after : List Attribute) :
    markAttribute name message (before ++ a :: after)
      = before ++ { a with valueError := some message } :: after := by
  induction before with
  | nil => exact if_pos hname
  | cons b before ih =>
    obtain ⟨hb, hbefore⟩ := List.forall_mem_cons.mp hbefore
    rw [List.cons_append, markAttribute, if_neg (Bool.eq_false_iff.mp hb), ih hbefore,
      List.cons_append]

/-- Without an attribute of the name there is no mark. -/
theorem markAttribute_of_not_hasAttribute {name message : String} {attributes : List Attribute}
    (h : ∀ a ∈ attributes, sameName a.name.text name = false) :
    markAttribute name message attributes = attributes := by
  induction attributes with
  | nil => rfl
  | cons a attributes ih =>
    obtain ⟨ha, hrest⟩ := List.forall_mem_cons.mp h
    rw [markAttribute, if_neg (Bool.eq_false_iff.mp ha), ih hrest]

/-- The mark goes to the first directive of a list of nodes. -/
theorem markDirective_append (name message : String) {back : List Node}
    (hback : ∀ node ∈ back, node.directive? = none) (nodes : List Node) :
    markDirective name message (back ++ nodes) = back ++ markDirective name message nodes := by
  induction back with
  | nil => rfl
  | cons node back ih =>
    obtain ⟨hnode, hrest⟩ := List.forall_mem_cons.mp hback
    cases node with
    | directive d => cases hnode
    | _ =>
      rw [List.cons_append, markDirective, ih hrest, List.cons_append]
      intro d hd
      cases hd

/-- **A list of nodes has a last directive or none.** -/
theorem exists_last_directive (nodes : List Node) :
    (∀ node ∈ nodes, node.directive? = none)
      ∨ ∃ front d back, nodes = front ++ .directive d :: back
        ∧ ∀ node ∈ back, node.directive? = none := by
  induction nodes with
  | nil => exact Or.inl (List.forall_mem_nil _)
  | cons node nodes ih =>
    rcases ih with hnone | ⟨front, d, back, rfl, hback⟩
    · cases node with
      | directive d => exact Or.inr ⟨[], d, nodes, rfl, hnone⟩
      | _ => exact Or.inl (List.forall_mem_cons.mpr ⟨rfl, hnone⟩)
    · exact Or.inr ⟨node :: front, d, back, rfl, hback⟩

/-- The last directive is found from the end. -/
theorem nodes_valueError {b : Builder} {front back : List Node} {d : Directive}
    (hnodes : b.nodes = front ++ .directive d :: back)
    (hback : ∀ node ∈ back, node.directive? = none) (name message : String) :
    (b.valueError name message).nodes
      = front ++ .directive { d with attributes := markAttribute name message d.attributes }
        :: back := by
  show (markDirective name message b.nodes.reverse).reverse = _
  have hreverse : ∀ node ∈ back.reverse, node.directive? = none := by
    simpa only [List.mem_reverse] using hback
  rw [hnodes, List.reverse_append, List.reverse_cons, List.append_assoc,
    markDirective_append name message hreverse, List.singleton_append, markDirective]
  simp only [List.reverse_append, List.reverse_cons, List.reverse_reverse, List.append_assoc,
    List.singleton_append]

/-- Without a directive there is no mark. -/
theorem nodes_valueError_of_not_directive {b : Builder}
    (hnone : ∀ node ∈ b.nodes, node.directive? = none) (name message : String) :
    (b.valueError name message).nodes = b.nodes := by
  show (markDirective name message b.nodes.reverse).reverse = _
  have hreverse : ∀ node ∈ b.nodes.reverse, node.directive? = none := by
    simpa only [List.mem_reverse] using hnone
  have hmark := markDirective_append name message hreverse []
  rw [List.append_nil] at hmark
  rw [hmark, markDirective, List.append_nil, List.reverse_reverse]

/-- **An error of a value changes the error of one attribute at most.** -/
theorem marks_valueError (name message : String) (b : Builder) :
    Marks name message b.nodes (b.valueError name message).nodes := by
  rcases exists_last_directive b.nodes with hnone | ⟨front, d, back, hnodes, hback⟩
  · rw [nodes_valueError_of_not_directive hnone]
    refine .nothing fun d hlast => ?_
    rw [List.filterMap_eq_nil_iff.mpr hnone] at hlast
    cases hlast
  · have hmarked := nodes_valueError hnodes hback name message
    cases hfound : d.attribute? name with
    | none =>
      have hattributes : ∀ a ∈ d.attributes, sameName a.name.text name = false := by
        simpa only [Directive.attribute?, List.find?_eq_none, Bool.not_eq_true] using hfound
      rw [hmarked, markAttribute_of_not_hasAttribute hattributes, hnodes]
      refine .nothing fun d' hlast => ?_
      have hd : (Node.directive d).directive? = some d := rfl
      rw [List.filterMap_append, List.filterMap_cons_some hd, List.filterMap_eq_nil_iff.mpr hback,
        List.getLast?_concat] at hlast
      cases hlast
      rw [Directive.hasAttribute, hfound]
      rfl
    | some a =>
      obtain ⟨hname, before, after, hattributes, hbefore⟩ :=
        List.find?_eq_some_iff_append.mp hfound
      have hothers : ∀ other ∈ before, sameName other.name.text name = false := by
        simpa only [Bool.not_eq_true'] using hbefore
      rw [hmarked, hnodes, hattributes, markAttribute_append hothers hname]
      exact .value front back d before after a hback hattributes hothers hname

/-! ## Sequences of calls -/

/-- **What every call keeps**: the tokens cover their texts, the nodes are laid out from the start
of the source to its end, and the parts of each directive are in order. -/
structure Consistent (source : String) (nodes : List Node) : Prop where
  tokens : ∀ node ∈ nodes, ∀ token ∈ node.tokens, slice? token.span source = some token.text
  laid : Node.Laid none 0 source.utf8ByteSize nodes
  cut : ∀ node ∈ nodes, ∀ d, node.directive? = some d → d.WellCut

/-- **A call that writes a text** keeps it, if it does so for the text. -/
theorem Consistent.append {source : String} {nodes : List Node} (h : Consistent source nodes)
    {text : String} {more : List Node}
    (htokens : ∀ node ∈ more, ∀ token ∈ node.tokens,
      slice? token.span (source ++ text) = some token.text)
    (hlaid : Node.Laid none source.utf8ByteSize (source.utf8ByteSize + text.utf8ByteSize) more)
    (hcut : ∀ node ∈ more, ∀ d, node.directive? = some d → d.WellCut) :
    Consistent (source ++ text) (nodes ++ more) := by
  refine ⟨List.forall_mem_append.mpr ⟨fun node hnode token htoken => ?_, htokens⟩, ?_,
    List.forall_mem_append.mpr ⟨h.cut, hcut⟩⟩
  · exact slice?_append (h.tokens node hnode token htoken) text
  · rw [String.utf8ByteSize_append]
    exact h.laid.append hlaid

/-- The error of a value does not change the values. -/
theorem value?_marked {d : Directive} {before after : List Attribute} {a : Attribute}
    (hattributes : d.attributes = before ++ a :: after) (message name : String) :
    { d with attributes := before ++ { a with valueError := some message } :: after }.value? name
      = d.value? name := by
  unfold Directive.value? Directive.valueToken? Directive.attribute?
  rw [hattributes, List.find?_append, List.find?_append]
  cases before.find? fun other => Text.sameName other.name.text name with
  | some other => rfl
  | none =>
    simp only [List.find?_cons]
    cases Text.sameName a.name.text name with
    | true => rfl
    | false => rfl

/-- **The error of a value** keeps it. -/
theorem Consistent.marks {source name message : String} {nodes nodes' : List Node}
    (h : Consistent source nodes) (hmarks : Marks name message nodes nodes') :
    Consistent source nodes' := by
  cases hmarks with
  | nothing _ => exact h
  | value front back d before after a _ hattributes _ _ =>
    obtain ⟨htokens, hlaid, hcut⟩ := h
    rw [List.forall_mem_append, List.forall_mem_cons] at htokens hcut
    refine ⟨List.forall_mem_append.mpr ⟨htokens.1, List.forall_mem_cons.mpr ⟨?_, htokens.2.2⟩⟩,
      hlaid.replace_directive (by rfl) fun part hasks =>
        ⟨hasks.name, (value?_marked hattributes message "file").trans hasks.file, hasks.span⟩,
      List.forall_mem_append.mpr ⟨hcut.1, List.forall_mem_cons.mpr ⟨?_, hcut.2.2⟩⟩⟩
    · have hd := htokens.2.1
      simp only [Node.tokens, Directive.tokens, hattributes, List.flatMap_append,
        List.flatMap_cons] at hd ⊢
      exact hd
    · rintro _ ⟨⟩
      have hd := hcut.2.1 d rfl
      refine ⟨?_, ?_⟩
      · have hparts := hd.parts
        simp only [hattributes, List.map_append, List.map_cons] at hparts ⊢
        exact hparts
      · have hinner := hd.attributes
        rw [hattributes, List.forall_mem_append, List.forall_mem_cons] at hinner
        exact List.forall_mem_append.mpr
          ⟨hinner.1, List.forall_mem_cons.mpr ⟨hinner.2.1, hinner.2.2⟩⟩

/-- The first attribute of a directive that is appended has the value it was given. -/
theorem value?_directiveAt (offset : Nat) (name key value : String)
    (rest : List (String × String)) :
    (directiveAt offset name ((key, value) :: rest)).value? key = some value := by
  have hname : Text.sameName key key = true := beq_self_eq_true _
  unfold Directive.value? Directive.valueToken? Directive.attribute?
  exact congrArg (fun found : Option Attribute => (found.bind Attribute.value).map Token.text)
    (List.find?_cons_of_pos hname)

/-- **Every sequence of calls keeps it.** -/
theorem Made.consistent {b : Builder} (h : Made b) : Consistent b.source b.nodes := by
  induction h with
  | new fileId path => exact ⟨List.forall_mem_nil _, .nil _ _, List.forall_mem_nil _⟩
  | @text b s _ ih =>
    refine ih.append ?_ ?_ ?_
    · refine List.forall_mem_singleton.mpr (List.forall_mem_singleton.mpr ?_)
      exact slice?_tokenAt b.source "" String.append_empty.symm rfl
    · exact .written rfl rfl (Nat.le_add_right _ _) (.nil _ _)
    · exact List.forall_mem_singleton.mpr nofun
  | @directive b name attributes _ ih =>
    refine ih.append ?_ ?_ ?_
    · exact List.forall_mem_singleton.mpr (slice?_directiveAt name attributes b.source)
    · exact .written rfl rfl (Nat.le_add_right _ _) (.nil _ _)
    · refine List.forall_mem_singleton.mpr ?_
      rintro _ ⟨⟩
      exact wellCut_directiveAt name attributes _
  | @valueError b name message _ ih => exact ih.marks (marks_valueError name message b)
  | @codeBlock b kind code _ ih =>
    refine ih.append ?_ ?_ ?_
    · exact List.forall_mem_singleton.mpr (slice?_codeBlock kind code b)
    · exact .written rfl rfl (Nat.le_add_right _ _) (.nil _ _)
    · exact List.forall_mem_singleton.mpr nofun
  | @includeDocument b inner path _ _ ih _ =>
    refine ih.append ?_ ?_ ?_
    · refine List.forall_mem_cons.mpr ⟨?_, List.forall_mem_singleton.mpr (List.forall_mem_nil _)⟩
      exact slice?_directiveAt "include" [("file", path)] b.source
    · have hfile := value?_directiveAt b.here "include" "file" path []
      exact .written rfl rfl (Nat.le_add_right _ _) (.included ⟨rfl, hfile, rfl⟩ (.nil _ _))
    · refine List.forall_mem_cons.mpr ⟨?_, List.forall_mem_singleton.mpr nofun⟩
      rintro _ ⟨⟩
      exact wellCut_directiveAt "include" [("file", path)] _
  | @missing b expected _ ih =>
    refine ih.append ?_ ?_ ?_
    · exact List.forall_mem_singleton.mpr (List.forall_mem_nil _)
    · exact .missing rfl (.nil _ _)
    · exact List.forall_mem_singleton.mpr nofun

end Builder

namespace Document

/-- **A document that was built agrees with its source.** -/
theorem IsBuilt.agreesWithSource {d : Document} (h : d.IsBuilt) : d.AgreesWithSource := by
  obtain ⟨b, hb, rfl⟩ := h
  have hlaid : Node.Laid none 0 b.build.size b.build.nodes := hb.consistent.laid
  refine ⟨hb.consistent.tokens, hlaid.tile, fun front part back hnodes => ?_,
    fun front marker back hnodes => ?_, fun directive hdirective => ?_⟩
  · rw [hnodes] at hlaid
    rcases hlaid.exists_directive with ⟨-, directive, hasking, -⟩ | hdirective
    · cases hasking
    · exact hdirective
  · rw [hnodes] at hlaid
    exact hlaid.between nofun
  · obtain ⟨node, hnode, hdirective⟩ := List.mem_filterMap.mp hdirective
    exact hb.consistent.cut node hnode directive hdirective

end Document

/-- **The output of a builder is consistent with its source.** After every sequence of calls, with
whatever texts, the document built so far and every document that it includes agree with their
sources: each token covers its own text, the nodes that have a text of their own cover the source
without gaps, an included document stands right behind the directive for includes whose file is its
path and has the span of that directive, the mark of a missing token has no width and stands between
its neighbours, and the parts of a directive are in order inside it. And saying why a value could
not be read changes nothing but the error of one attribute. -/
theorem Builder.Made.family_agreesWithSource {b : Builder} (h : b.Made) :
    (∀ member ∈ b.build.family, member.AgreesWithSource)
      ∧ ∀ name message, ∃ nodes, Builder.Marks name message b.build.nodes nodes
        ∧ (b.valueError name message).build = { b.build with nodes := nodes } := by
  have hbuilt : b.build.IsBuilt := ⟨b, h, rfl⟩
  refine ⟨fun member hmember => (hbuilt.of_mem_family member hmember).agreesWithSource, ?_⟩
  intro name message
  exact ⟨_, Builder.marks_valueError name message b, rfl⟩

/-- A template with characters of two bytes, an attribute that is repeated, an error, an included
document whose only block is empty, and two marks. -/
def accentedPage : Builder :=
  ((((((Builder.new 0 "page.tt").text "é").directive "import"
    [("namespace", "A"), ("namespace", "Ü")]).valueError "NAMESPACE" "no such namespace").missing
    "#>").includeDocument "inner.tt"
      ((Builder.new 1 "inner.tt").codeBlock .statement "").build).missing "\x7d"

theorem made_accentedPage : accentedPage.Made :=
  .missing _ (.includeDocument _
    (.missing _ (.valueError _ _ (.directive _ _ (.text _ (.new _ _)))))
    (.codeBlock _ _ (.new _ _)))

/-- The three nodes of the page that have a text of their own cover its 74 bytes, the included document
stands behind the directive that asks for it, and one more error changes no more than the nodes
say. -/
theorem Builder.Made.family_agreesWithSource_accented :
    accentedPage.Made
      ∧ (∀ member ∈ accentedPage.build.family, member.AgreesWithSource)
      ∧ Span.Tile 0 74 (Node.writtenSpans accentedPage.build.nodes)
      ∧ (∃ before directive part back, accentedPage.build.nodes
            = before ++ [.directive directive] ++ .included part :: back
          ∧ part.path = "inner.tt" ∧ directive.Asks part)
      ∧ ∃ nodes, Builder.Marks "FILE" "not found" accentedPage.build.nodes nodes
        ∧ (accentedPage.valueError "FILE" "not found").build
          = { accentedPage.build with nodes := nodes } := by
  obtain ⟨hfamily, hmarks⟩ := Builder.Made.family_agreesWithSource made_accentedPage
  have hsize : accentedPage.build.size = 74 := by decide +kernel
  have hagrees := hfamily _ List.mem_cons_self
  refine ⟨made_accentedPage, hfamily, ?_, ?_, hmarks "FILE" "not found"⟩
  · rw [← hsize]
    exact hagrees.tile
  · obtain ⟨front, part, back, hnodes, hpath⟩ : ∃ front part back, accentedPage.build.nodes
        = front ++ .included part :: back ∧ part.path = "inner.tt" :=
      ⟨[_, _, _, _], _, [_], rfl, rfl⟩
    obtain ⟨before, directive, rfl, hasks⟩ := hagrees.included front part back hnodes
    exact ⟨before, directive, part, back, hnodes, hpath, hasks⟩

end TextTemplate
