import TextTemplate.Proofs.SourceTiling

/-!
# Spans that stand in a source

A span that was read from a file may lie anywhere. One that stands in its source is in order, does not
reach behind the end and cuts no character, so that there is a text under it. The spans of a document
that was built all stand in its source: those of its nodes, of their tokens and of the attributes of
its directives. Besides, a builder leaves some room. What opens a directive stands in front of its
name, and no directive and no block is empty (`Node.HasRoom`).
-/

namespace TextTemplate

open Text

/-- **A span that stands in a source**: it is in order, does not reach behind the end, and cuts no
character. -/
structure Span.StandsIn (source : String) (span : Span) : Prop where
  ordered : span.start ≤ span.stop
  inside : span.stop ≤ source.utf8ByteSize
  start : IsBoundary source span.start
  stop : IsBoundary source span.stop

theorem Span.standsIn_of_slice? {source text : String} {span : Span}
    (h : slice? span source = some text) : span.StandsIn source := by
  obtain ⟨as, bs, -, hstart, hstop⟩ := slice?_eq_some_iff.mp h
  have hordered : span.start ≤ span.stop := by omega
  obtain ⟨hbefore, hafter⟩ := (exists_slice?_iff hordered).mp ⟨text, h⟩
  exact ⟨hordered, hafter.le_utf8ByteSize, hbefore, hafter⟩

/-- The spans of an attribute and of its tokens. -/
def Attribute.spans (a : Attribute) : List Span := a.span :: a.tokens.map Token.span

/-- **The spans of a node**, of its tokens and of its attributes. -/
def Node.spans : Node → List Span
  | .directive d => d.span :: d.name.span :: d.attributes.flatMap Attribute.spans
  | node => node.span :: node.tokens.map Token.span

theorem Node.span_mem_spans (node : Node) : node.span ∈ node.spans := by
  cases node <;> exact List.mem_cons_self

/-- **Room around the texts of a node**: the name of a directive stands four bytes behind its start
and before its end, a block is not empty, and the mark of a missing token is. -/
def Node.HasRoom : Node → Prop
  | .directive d => d.name.span.start = d.span.start + 4 ∧ d.name.span.start < d.span.stop
  | .codeBlock block => block.span.start < block.span.stop
  | .missing marker => marker.span.start = marker.span.stop
  | _ => True

namespace Builder

/-! ## What the calls write -/

/-- A text stands where the text in front of it ends. -/
theorem standsIn_of_append {source : String} {span : Span} (front text back : String)
    (hsource : source = front ++ text ++ back) (hstart : span.start = front.utf8ByteSize)
    (hstop : span.stop = front.utf8ByteSize + text.utf8ByteSize) : span.StandsIn source := by
  obtain ⟨start, stop⟩ := span
  cases hstart
  cases hstop
  exact Span.standsIn_of_slice? (slice?_tokenAt front back hsource rfl)

/-- What stands in a source stands in it with more text behind it. -/
theorem standsIn_append {source : String} {span : Span} (h : span.StandsIn source) (more : String) :
    span.StandsIn (source ++ more) := by
  obtain ⟨text, htext⟩ := (exists_slice?_iff h.ordered).mpr ⟨h.start, h.stop⟩
  exact Span.standsIn_of_slice? (slice?_append htext more)

/-- The attributes of a directive stand in its text. -/
theorem standsIn_attributesAt (attributes : List (String × String)) (front back : String) :
    ∀ a ∈ attributesAt front.utf8ByteSize attributes,
      a.span.StandsIn (front ++ attributesText attributes ++ back) := by
  induction attributes generalizing front with
  | nil => exact List.forall_mem_nil _
  | cons pair rest ih =>
    obtain ⟨name, value⟩ := pair
    have htext : front ++ (attributeText name value ++ attributesText rest) ++ back
        = front ++ attributeText name value ++ attributesText rest ++ back := by
      simp only [String.append_assoc]
    rw [attributesText, htext]
    refine List.forall_mem_cons.mpr ⟨?_, ?_⟩
    · refine standsIn_of_append (front ++ " ") (name ++ "=\"" ++ value ++ "\"")
        (attributesText rest ++ back) ?_ ?_ ?_
      · simp only [attributeText, String.append_assoc]
      · rw [String.utf8ByteSize_append]
        rfl
      · simp only [String.utf8ByteSize_append, ← Nat.add_assoc]
        rfl
    · have hrest := ih (front ++ attributeText name value)
      rw [String.utf8ByteSize_append] at hrest
      exact hrest

/-- **The spans of a directive stand in the source.** -/
theorem standsIn_directiveAt (name : String) (attributes : List (String × String)) (front : String) :
    ∀ span ∈ (Node.directive (directiveAt front.utf8ByteSize name attributes)).spans,
      span.StandsIn (front ++ directiveText name attributes) := by
  have htoken := slice?_directiveAt name attributes front
  have hattributes := standsIn_attributesAt attributes (front ++ "<#@ " ++ name) closing
  rw [String.utf8ByteSize_append, String.utf8ByteSize_append] at hattributes
  have htext : front ++ directiveText name attributes
      = front ++ "<#@ " ++ name ++ attributesText attributes ++ closing := by
    simp only [directiveText, String.append_assoc]
  refine List.forall_mem_cons.mpr ⟨?_, List.forall_mem_cons.mpr ⟨?_, ?_⟩⟩
  · exact standsIn_of_append front _ "" String.append_empty.symm rfl rfl
  · exact Span.standsIn_of_slice? (htoken _ List.mem_cons_self)
  · intro span hspan
    obtain ⟨a, ha, hspan⟩ := List.mem_flatMap.mp hspan
    rcases List.mem_cons.mp hspan with rfl | hspan
    · rw [htext]
      exact hattributes a ha
    · obtain ⟨token, ht, rfl⟩ := List.mem_map.mp hspan
      exact Span.standsIn_of_slice?
        (htoken token (List.mem_cons_of_mem _ (List.mem_flatMap_of_mem ha ht)))

/-- A directive has room for its name. -/
theorem hasRoom_directiveAt (name : String) (attributes : List (String × String)) (offset : Nat) :
    (Node.directive (directiveAt offset name attributes)).HasRoom := by
  have hsize := utf8ByteSize_directiveText name attributes
  refine ⟨rfl, ?_⟩
  show offset + 4 < offset + (directiveText name attributes).utf8ByteSize
  omega

/-- A mark on an attribute leaves what does not depend on the error as it is. -/
theorem map_markAttribute {α : Type} {f : Attribute → α} (name message : String)
    (hf : ∀ a : Attribute, f { a with valueError := some message } = f a)
    (attributes : List Attribute) :
    (markAttribute name message attributes).map f = attributes.map f := by
  induction attributes with
  | nil => rfl
  | cons a attributes ih =>
    rw [markAttribute]
    split
    · rw [List.map_cons, List.map_cons, hf]
    · rw [List.map_cons, List.map_cons, ih]

theorem spans_markAttribute (name message : String) (d : Directive) :
    (Node.directive { d with attributes := markAttribute name message d.attributes }).spans
      = (Node.directive d).spans := by
  have hmap : (markAttribute name message d.attributes).map Attribute.spans
      = d.attributes.map Attribute.spans := map_markAttribute name message (fun _ => rfl) _
  simp only [Node.spans, List.flatMap_def, hmap]

/-! ## Sequences of calls -/

/-- **A node as a builder writes it.** -/
structure WrittenIn (source : String) (node : Node) : Prop where
  spans : ∀ span ∈ node.spans, span.StandsIn source
  room : node.HasRoom

/-- A call that writes a text leaves the nodes in front as they were. -/
theorem forall_writtenIn_append {source : String} {nodes more : List Node}
    (h : ∀ node ∈ nodes, WrittenIn source node) (text : String)
    (hmore : ∀ node ∈ more, WrittenIn (source ++ text) node) :
    ∀ node ∈ nodes ++ more, WrittenIn (source ++ text) node := by
  refine List.forall_mem_append.mpr ⟨fun node hnode => ⟨fun span hspan => ?_, (h node hnode).room⟩,
    hmore⟩
  exact standsIn_append ((h node hnode).spans span hspan) text

/-- **The spans of a document that was built stand in its source**, and there is room around its
texts. -/
theorem Made.writtenIn {b : Builder} (h : Made b) : ∀ node ∈ b.nodes, WrittenIn b.source node := by
  induction h with
  | new fileId path => exact List.forall_mem_nil _
  | @text b s _ ih =>
    refine forall_writtenIn_append ih s (List.forall_mem_singleton.mpr ⟨?_, trivial⟩)
    have hstands : (tokenAt b.here s).span.StandsIn (b.source ++ s) :=
      standsIn_of_append b.source s "" String.append_empty.symm rfl rfl
    exact List.forall_mem_cons.mpr ⟨hstands, List.forall_mem_singleton.mpr hstands⟩
  | @directive b name attributes _ ih =>
    refine forall_writtenIn_append ih _ (List.forall_mem_singleton.mpr ⟨?_, ?_⟩)
    · exact standsIn_directiveAt name attributes b.source
    · exact hasRoom_directiveAt name attributes _
  | @valueError b name message _ ih =>
    have hmap : (b.valueError name message).nodes.map (WrittenIn b.source)
        = b.nodes.map (WrittenIn b.source) := by
      refine map_nodes_valueError name message (fun d => propext ?_) b
      have hspans := spans_markAttribute name message d
      exact ⟨fun h => ⟨hspans ▸ h.spans, h.room⟩, fun h => ⟨hspans.symm ▸ h.spans, h.room⟩⟩
    have hall : ∀ p ∈ b.nodes.map (WrittenIn b.source), p := List.forall_mem_map.mpr ih
    rw [← hmap] at hall
    exact fun node hnode => hall _ (List.mem_map_of_mem hnode)
  | @codeBlock b kind code _ ih =>
    refine forall_writtenIn_append ih _ (List.forall_mem_singleton.mpr ⟨?_, ?_⟩)
    · refine List.forall_mem_cons.mpr
        ⟨standsIn_of_append b.source _ "" String.append_empty.symm rfl rfl, ?_⟩
      intro span hspan
      obtain ⟨token, htoken, rfl⟩ := List.mem_map.mp hspan
      exact Span.standsIn_of_slice? (slice?_codeBlock kind code b token htoken)
    · have hclosing : closing.utf8ByteSize = 3 := rfl
      show b.here < b.here + (opening kind ++ code ++ closing).utf8ByteSize
      rw [String.utf8ByteSize_append, hclosing]
      omega
  | @includeDocument b inner path _ _ ih _ =>
    refine forall_writtenIn_append ih _ (List.forall_mem_cons.mpr ⟨⟨?_, ?_⟩,
      List.forall_mem_singleton.mpr ⟨List.forall_mem_singleton.mpr ?_, trivial⟩⟩)
    · exact standsIn_directiveAt "include" [("file", path)] b.source
    · exact hasRoom_directiveAt "include" [("file", path)] _
    · exact standsIn_directiveAt "include" [("file", path)] b.source _ List.mem_cons_self
  | @missing b expected _ ih =>
    refine forall_writtenIn_append ih _ (List.forall_mem_singleton.mpr
      ⟨List.forall_mem_singleton.mpr ?_, rfl⟩)
    exact standsIn_of_append b.source "" "" (by simp only [String.append_empty]) rfl rfl

end Builder

/-- **The spans of a document that was built stand in its source.** -/
theorem Document.IsBuilt.writtenIn {d : Document} (h : d.IsBuilt) :
    ∀ node ∈ d.nodes, Builder.WrittenIn d.source node := by
  obtain ⟨b, hb, rfl⟩ := h
  exact hb.writtenIn

end TextTemplate
