import TextTemplate.Document.Builder
import TextTemplate.Proofs.SourceMap

/-!
# Documents that were built

A builder writes the source of a document and its nodes side by side. Whatever calls it has seen,
the tokens that can be copied out of the document stand in the source one behind the other, and
between any two of them, and behind the last one, there is at least one character that belongs to
neither: the quote behind the value of an attribute, or the end of a block.

`Token.Within` says this of a list of tokens and of the stretch of the source that they stand in.
Such lists can be put together (`within_append`), so one fact about each call is enough.
-/

namespace TextTemplate

/-! ## Tokens that stand apart -/

/-- A token has the length of its text. -/
def Token.Sized (t : Token) : Prop := t.span.stop = t.span.start + t.text.utf8ByteSize

/-- **Tokens that stand in order inside a stretch of the source**, with something between any two of
them and between the last one and the end of the stretch. -/
structure Token.Within (lo hi : Nat) (tokens : List Token) : Prop where
  sized : ∀ t ∈ tokens, t.Sized
  apart : tokens.Pairwise fun t u => t.span.stop < u.span.start
  bounds : ∀ t ∈ tokens, lo ≤ t.span.start ∧ t.span.stop < hi

namespace Token

theorem within_nil (lo hi : Nat) : Within lo hi [] :=
  ⟨List.forall_mem_nil _, List.Pairwise.nil, List.forall_mem_nil _⟩

theorem within_singleton {lo hi : Nat} {t : Token} (hsized : t.Sized) (hlo : lo ≤ t.span.start)
    (hhi : t.span.stop < hi) : Within lo hi [t] :=
  ⟨List.forall_mem_singleton.mpr hsized, List.pairwise_singleton _ t,
    List.forall_mem_singleton.mpr ⟨hlo, hhi⟩⟩

/-- **Tokens of two neighbouring stretches** stand in order in both together. -/
theorem within_append {lo mid hi : Nat} {ts us : List Token} (hlo : lo ≤ mid) (hhi : mid ≤ hi)
    (hts : Within lo mid ts) (hus : Within mid hi us) : Within lo hi (ts ++ us) := by
  refine ⟨List.forall_mem_append.mpr ⟨hts.sized, hus.sized⟩, ?_,
    List.forall_mem_append.mpr ⟨?_, ?_⟩⟩
  · refine List.pairwise_append.mpr ⟨hts.apart, hus.apart, fun t ht u hu => ?_⟩
    exact Nat.lt_of_lt_of_le (hts.bounds t ht).2 (hus.bounds u hu).1
  · intro t ht
    exact ⟨(hts.bounds t ht).1, Nat.lt_of_lt_of_le (hts.bounds t ht).2 hhi⟩
  · intro u hu
    exact ⟨Nat.le_trans hlo (hus.bounds u hu).1, (hus.bounds u hu).2⟩

/-- A stretch can be made larger. -/
theorem Within.mono {lo lo' hi hi' : Nat} {ts : List Token} (h : Within lo hi ts) (hlo : lo' ≤ lo)
    (hhi : hi ≤ hi') : Within lo' hi' ts :=
  ⟨h.sized, h.apart, fun t ht =>
    ⟨Nat.le_trans hlo (h.bounds t ht).1, Nat.lt_of_lt_of_le (h.bounds t ht).2 hhi⟩⟩

end Token

/-! ## What the calls write -/

namespace Builder

open Token

theorem sized_tokenAt (offset : Nat) (text : String) : (tokenAt offset text).Sized := rfl

theorem utf8ByteSize_attributeText (name value : String) :
    (attributeText name value).utf8ByteSize = name.utf8ByteSize + value.utf8ByteSize + 4 := by
  unfold attributeText
  rw [String.utf8ByteSize_append, String.utf8ByteSize_append, String.utf8ByteSize_append,
    String.utf8ByteSize_append]
  show 1 + name.utf8ByteSize + 2 + value.utf8ByteSize + 1 = _
  omega

/-- The values of attributes stand apart in the text of the attributes. -/
theorem within_attributesAt (attributes : List (String × String)) (offset : Nat) :
    Within offset (offset + (attributesText attributes).utf8ByteSize)
      ((attributesAt offset attributes).filterMap Attribute.value) := by
  induction attributes generalizing offset with
  | nil => exact within_nil _ _
  | cons a attributes ih =>
    obtain ⟨name, value⟩ := a
    have hsize := utf8ByteSize_attributeText name value
    have hrest := ih (offset + (attributeText name value).utf8ByteSize)
    rw [attributesText, String.utf8ByteSize_append, ← Nat.add_assoc]
    show Within _ _ ([tokenAt (offset + 1 + name.utf8ByteSize + 2) value] ++ _)
    refine within_append (Nat.le_add_right _ _) (Nat.le_add_right _ _)
      (within_singleton (sized_tokenAt _ _) ?_ ?_) hrest
    · show offset ≤ offset + 1 + name.utf8ByteSize + 2
      omega
    · show offset + 1 + name.utf8ByteSize + 2 + value.utf8ByteSize < _
      omega

/-- **The values of a directive stand apart in its text.** -/
theorem within_directiveAt (offset : Nat) (name : String) (attributes : List (String × String)) :
    Within offset (offset + (directiveText name attributes).utf8ByteSize)
      (Node.directive (directiveAt offset name attributes)).copyableTokens := by
  have hsize : (directiveText name attributes).utf8ByteSize
      = 4 + name.utf8ByteSize + (attributesText attributes).utf8ByteSize + 3 := by
    unfold directiveText
    rw [String.utf8ByteSize_append, String.utf8ByteSize_append, String.utf8ByteSize_append]
    rfl
  refine (within_attributesAt attributes (offset + 4 + name.utf8ByteSize)).mono ?_ ?_
  · omega
  · omega

/-- **The code of a block stands in its text.** -/
theorem within_codeBlock (kind : BlockKind) (code : String) (b : Builder) :
    Within b.here (b.here + (opening kind ++ code ++ closing).utf8ByteSize)
      (if code.isEmpty then none
        else some (tokenAt (b.here + (opening kind).utf8ByteSize) code)).toList := by
  split
  · exact within_nil _ _
  · refine within_singleton (sized_tokenAt _ _) (Nat.le_add_right _ _) ?_
    have hclosing : closing.utf8ByteSize = 3 := rfl
    show b.here + (opening kind).utf8ByteSize + code.utf8ByteSize < _
    rw [String.utf8ByteSize_append, String.utf8ByteSize_append, hclosing]
    omega

/-! ## Sequences of calls -/

/-- **A builder that some sequence of calls has led to.** A document that is included has been built
in the same way. -/
inductive Made : Builder → Prop where
  | new (fileId : Nat) (path : String) : Made (new fileId path)
  | text {b : Builder} (s : String) : Made b → Made (b.text s)
  | directive {b : Builder} (name : String) (attributes : List (String × String)) :
    Made b → Made (b.directive name attributes)
  | valueError {b : Builder} (name message : String) : Made b → Made (b.valueError name message)
  | codeBlock {b : Builder} (kind : BlockKind) (code : String) :
    Made b → Made (b.codeBlock kind code)
  | includeDocument {b inner : Builder} (path : String) :
    Made b → Made inner → Made (b.includeDocument path inner.build)
  | missing {b : Builder} (expected : String) : Made b → Made (b.missing expected)

/-- What a mark on an attribute does not change of a node, it does not change of any node. -/
theorem map_markDirective {α : Type} {f : Node → α} (name message : String)
    (hf : ∀ d : Directive,
      f (.directive { d with attributes := markAttribute name message d.attributes })
        = f (.directive d)) (nodes : List Node) :
    (markDirective name message nodes).map f = nodes.map f := by
  induction nodes with
  | nil => rfl
  | cons node nodes ih =>
    cases node with
    | directive d => rw [markDirective, List.map_cons, List.map_cons, hf]
    | _ => rw [markDirective, List.map_cons, List.map_cons, ih]; nofun

/-- So a mark does not change it of the nodes of a builder. -/
theorem map_nodes_valueError {α : Type} {f : Node → α} (name message : String)
    (hf : ∀ d : Directive,
      f (.directive { d with attributes := markAttribute name message d.attributes })
        = f (.directive d)) (b : Builder) :
    (b.valueError name message).nodes.map f = b.nodes.map f := by
  show ((markDirective name message b.nodes.reverse).reverse).map f = _
  rw [List.map_reverse, map_markDirective name message hf, List.map_reverse, List.reverse_reverse]

/-- A mark does not change the values. -/
theorem filterMap_value_markAttribute (name message : String) (attributes : List Attribute) :
    (markAttribute name message attributes).filterMap Attribute.value
      = attributes.filterMap Attribute.value := by
  induction attributes with
  | nil => rfl
  | cons a attributes ih =>
    rw [markAttribute]
    split
    · rfl
    · rw [List.filterMap_cons, List.filterMap_cons, ih]

/-- The tokens of the document so far that can be copied. -/
def tokens (b : Builder) : List Token := b.nodes.flatMap Node.copyableTokens

/-- What is appended stands behind what is there. -/
theorem within_tokens_append {b : Builder} (h : Within 0 b.here b.tokens) {text : String}
    {nodes : List Node}
    (hnodes : Within b.here (b.here + text.utf8ByteSize) (nodes.flatMap Node.copyableTokens)) :
    Within 0 (b.append text nodes).here (b.append text nodes).tokens := by
  show Within 0 (b.source ++ text).utf8ByteSize ((b.nodes ++ nodes).flatMap Node.copyableTokens)
  rw [String.utf8ByteSize_append, List.flatMap_append]
  exact within_append (Nat.zero_le _) (Nat.le_add_right _ _) h hnodes

/-- **The tokens of a document that was built stand apart in its source.** -/
theorem Made.within_tokens {b : Builder} (h : Made b) : Within 0 b.here b.tokens := by
  induction h with
  | new fileId path => exact within_nil _ _
  | text s _ ih => exact within_tokens_append ih (within_nil _ _)
  | directive name attributes _ ih =>
    refine within_tokens_append ih ?_
    rw [List.flatMap_cons, List.flatMap_nil, List.append_nil]
    exact within_directiveAt _ name attributes
  | valueError name message _ ih =>
    have hmap := map_nodes_valueError (f := Node.copyableTokens) name message
      (fun d => filterMap_value_markAttribute name message d.attributes)
    unfold tokens at ih ⊢
    rw [List.flatMap_def] at ih ⊢
    rw [hmap]
    exact ih
  | codeBlock kind code _ ih =>
    refine within_tokens_append ih ?_
    rw [List.flatMap_cons, List.flatMap_nil, List.append_nil]
    exact within_codeBlock kind code _
  | includeDocument path _ _ ih _ =>
    refine within_tokens_append ih ?_
    rw [List.flatMap_cons, List.flatMap_cons, List.flatMap_nil, List.append_nil]
    exact (List.append_nil _).symm ▸ within_directiveAt _ "include" [("file", path)]
  | missing expected _ ih => exact within_tokens_append ih (within_nil _ _)

end Builder

/-! ## The documents inside -/

namespace Node

theorem includesOf_eq_flatMap (nodes : List Node) : includesOf nodes = nodes.flatMap includes := by
  induction nodes with
  | nil => rfl
  | cons node nodes ih => rw [includesOf, List.flatMap_cons, ih]

theorem includesOf_append (nodes more : List Node) :
    includesOf (nodes ++ more) = includesOf nodes ++ includesOf more := by
  simp only [includesOf_eq_flatMap, List.flatMap_append]

end Node

namespace Document

/-- **A document that was built**, with everything that it includes. -/
def IsBuilt (d : Document) : Prop := ∃ b : Builder, b.Made ∧ b.build = d

end Document

namespace Builder

/-- **What a document that was built includes was built.** -/
theorem Made.isBuilt_of_mem_includes {b : Builder} (h : Made b) :
    ∀ part ∈ Node.includesOf b.nodes, part.document.IsBuilt := by
  have happend : ∀ {b : Builder} {text : String} {nodes : List Node},
      (∀ part ∈ Node.includesOf b.nodes, part.document.IsBuilt) →
      (∀ part ∈ Node.includesOf nodes, part.document.IsBuilt) →
      ∀ part ∈ Node.includesOf (b.append text nodes).nodes, part.document.IsBuilt := by
    intro b text nodes hb hnodes
    show ∀ part ∈ Node.includesOf (b.nodes ++ nodes), _
    rw [Node.includesOf_append]
    exact List.forall_mem_append.mpr ⟨hb, hnodes⟩
  induction h with
  | new fileId path => exact List.forall_mem_nil _
  | text s _ ih => exact happend ih (List.forall_mem_nil _)
  | directive name attributes _ ih => exact happend ih (List.forall_mem_nil _)
  | valueError name message _ ih =>
    have hmap := map_nodes_valueError (f := Node.includes) name message (fun _ => rfl)
    rw [Node.includesOf_eq_flatMap, List.flatMap_def] at ih ⊢
    rw [hmap]
    exact ih
  | codeBlock kind code _ ih => exact happend ih (List.forall_mem_nil _)
  | @includeDocument b inner path _ hinner ih ihInner =>
    refine happend ih ?_
    show ∀ part ∈ Node.includes (.included _) ++ [], _
    rw [Node.includes_included, List.append_nil]
    exact List.forall_mem_cons.mpr ⟨⟨inner, hinner, rfl⟩, ihInner⟩
  | missing expected _ ih => exact happend ih (List.forall_mem_nil _)

end Builder

namespace Document

/-- Every document of the family of a document that was built was built. -/
theorem IsBuilt.of_mem_family {d : Document} (h : d.IsBuilt) :
    ∀ member ∈ d.family, member.IsBuilt := by
  obtain ⟨b, hb, rfl⟩ := h
  refine List.forall_mem_cons.mpr ⟨⟨b, hb, rfl⟩, fun member hmember => ?_⟩
  obtain ⟨part, hpart, rfl⟩ := List.mem_map.mp hmember
  exact hb.isBuilt_of_mem_includes part hpart

/-- **The tokens of a document that was built stand apart in its source.** -/
theorem IsBuilt.within_tokens {d : Document} (h : d.IsBuilt) :
    Token.Within 0 d.size (d.nodes.flatMap Node.copyableTokens) := by
  obtain ⟨b, hb, rfl⟩ := h
  exact hb.within_tokens

end Document

end TextTemplate
