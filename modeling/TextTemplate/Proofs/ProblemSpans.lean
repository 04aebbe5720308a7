import TextTemplate.Proofs.ProblemPlaces
import TextTemplate.Proofs.WrittenSpans

/-!
# Problems can be shown in the source

A problem is shown where it has its span: under a node, under a token, or from a node to the end of
the source. So if the spans of a document stand in its source, the spans of its problems do. The only
span that is computed is that of a missing token, which is widened by a character to be seen. The
character may have up to four bytes, it is looked for on one side or the other, and the mark may stand
anywhere, also where no text is. `widened_missingTokenSpan` says what comes of a mark that stands in
the source, and `missingTokenSpanBy_checked` that no mark whatever makes the computation fall below
zero or leave the words.

What problems a node can have, and where, is said once, by `ShownFor`.
-/

namespace TextTemplate

open Text

namespace Validation

/-! ## Widening by a character -/

/-- The width of the character in front of an offset, or nothing if there is none. -/
def widthBefore (source : String) (n : Nat) : Nat :=
  charWidth ((takeBytes? n source.toList).bind List.getLast?)

/-- The width of the character behind an offset, or nothing if there is none. -/
def widthAfter (source : String) (n : Nat) : Nat :=
  charWidth ((dropBytes? n source.toList).bind List.head?)

/-- The last character in front of an offset is found. -/
theorem widthBefore_of_split {source : String} {as bs : List Char} {c : Char}
    (h : source.toList = as ++ c :: bs) :
    widthBefore source (byteSize as + c.utf8Size) = c.utf8Size := by
  have hsize : byteSize as + c.utf8Size = byteSize (as ++ [c]) := by
    rw [byteSize_append, byteSize_cons, byteSize_nil, Nat.add_zero]
  unfold widthBefore
  rw [h, hsize, List.append_cons as c bs, takeBytes?_append, Option.bind_some,
    List.getLast?_concat]
  rfl

/-- The first character behind an offset is found. -/
theorem widthAfter_of_split {source : String} {as bs : List Char} {c : Char}
    (h : source.toList = as ++ c :: bs) : widthAfter source (byteSize as) = c.utf8Size := by
  unfold widthAfter
  rw [h, dropBytes?_append, Option.bind_some]
  rfl

/-- **In front of an offset there is a character or there is none**: at the start, or where the
offset cuts a character. -/
theorem widthBefore_cases (source : String) (n : Nat) :
    (widthBefore source n = 0 ∧ (IsBoundary source n → n = 0))
      ∨ ∃ as c bs, source.toList = as ++ c :: bs ∧ byteSize as + c.utf8Size = n := by
  by_cases hn : IsBoundary source n
  · obtain ⟨as, bs, hs, rfl⟩ := hn
    rcases List.eq_nil_or_concat as with rfl | ⟨as, c, rfl⟩
    · exact Or.inl ⟨by rw [widthBefore, byteSize_nil, takeBytes?]; rfl, fun _ => rfl⟩
    · rw [List.concat_eq_append] at hs ⊢
      refine Or.inr ⟨as, c, bs, by rw [hs, List.append_assoc]; rfl, ?_⟩
      rw [byteSize_append, byteSize_cons, byteSize_nil, Nat.add_zero]
  · rw [isBoundary_iff_isSome, Option.not_isSome_iff_eq_none] at hn
    refine Or.inl ⟨by rw [widthBefore, hn]; rfl, fun hboundary => ?_⟩
    rw [isBoundary_iff_isSome, hn] at hboundary
    cases hboundary

/-- **Behind an offset there is a character or there is none**: at the end, or where the offset cuts
a character. -/
theorem widthAfter_cases (source : String) (n : Nat) :
    (widthAfter source n = 0 ∧ (IsBoundary source n → n = source.utf8ByteSize))
      ∨ ∃ as c bs, source.toList = as ++ c :: bs ∧ byteSize as = n := by
  by_cases hn : IsBoundary source n
  · obtain ⟨as, bs, hs, rfl⟩ := hn
    cases bs with
    | nil =>
      refine Or.inl ⟨?_, fun _ => ?_⟩
      · rw [widthAfter, hs, dropBytes?_append]
        rfl
      · rw [← byteSize_toList, hs, List.append_nil]
    | cons c bs => exact Or.inr ⟨as, c, bs, hs, rfl⟩
  · refine Or.inl ⟨?_, fun hboundary => absurd hboundary hn⟩
    have hdrop : dropBytes? n source.toList = none := by
      refine Option.eq_none_iff_forall_ne_some.mpr fun bs hbs => hn ?_
      obtain ⟨as, hs, hsize⟩ := dropBytes?_eq_some_iff.mp hbs
      exact ⟨as, bs, hs, hsize⟩
    rw [widthAfter, hdrop]
    rfl

theorem widthBefore_le (source : String) (n : Nat) : widthBefore source n ≤ n := by
  rcases widthBefore_cases source n with ⟨hzero, -⟩ | ⟨as, c, bs, hs, rfl⟩
  · rw [hzero]
    exact Nat.zero_le n
  · rw [widthBefore_of_split hs]
    exact Nat.le_add_left _ _

theorem add_widthAfter_le {source : String} {n : Nat} (h : n ≤ source.utf8ByteSize) :
    n + widthAfter source n ≤ source.utf8ByteSize := by
  rcases widthAfter_cases source n with ⟨hzero, -⟩ | ⟨as, c, bs, hs, rfl⟩
  · rw [hzero]
    exact h
  · rw [widthAfter_of_split hs, ← byteSize_toList, hs, byteSize_append, byteSize_cons,
      ← Nat.add_assoc]
    exact Nat.le_add_right _ _

/-- **In front of a boundary one character is added**, and none at the start. -/
theorem exists_slice?_before {source : String} {n : Nat} (h : IsBoundary source n) :
    ∃ t : String, slice? ⟨n - widthBefore source n, n⟩ source = some t ∧ t.length = min 1 n := by
  rcases widthBefore_cases source n with ⟨hzero, hstart⟩ | ⟨as, c, bs, hs, rfl⟩
  · obtain rfl := hstart h
    rw [hzero]
    exact ⟨"", slice?_eq_some_iff.mpr ⟨[], source.toList, rfl, rfl, rfl⟩, rfl⟩
  · have hpos := c.utf8Size_pos
    refine ⟨String.ofList [c], slice?_eq_some_iff.mpr ⟨as, bs, ?_, ?_, ?_⟩, ?_⟩
    · rw [hs, String.toList_ofList, List.append_assoc]
      rfl
    · rw [widthBefore_of_split hs, Nat.add_sub_cancel]
    · rw [String.toList_ofList, byteSize_cons, byteSize_nil, Nat.add_zero]
    · rw [String.length_ofList, List.length_singleton]
      omega

/-- **Behind a boundary one character is added**, if it is not the end. -/
theorem exists_slice?_after {source : String} {n : Nat} (h : IsBoundary source n)
    (hn : n ≠ source.utf8ByteSize) :
    ∃ t : String, slice? ⟨n, n + widthAfter source n⟩ source = some t ∧ t.length = 1 := by
  rcases widthAfter_cases source n with ⟨-, hend⟩ | ⟨as, c, bs, hs, rfl⟩
  · exact absurd (hend h) hn
  · refine ⟨String.ofList [c], slice?_eq_some_iff.mpr ⟨as, bs, ?_, rfl, ?_⟩, ?_⟩
    · rw [hs, String.toList_ofList, List.append_assoc]
      rfl
    · rw [String.toList_ofList, widthAfter_of_split hs, byteSize_cons, byteSize_nil, Nat.add_zero]
    · rw [String.length_ofList]
      rfl

/-! ## The mark of a missing token -/

/-- Where a mark is shown, by the widths of the characters around it. -/
theorem missingTokenSpan_eq (source : String) (span : Span) :
    missingTokenSpan source span
      = if source.utf8ByteSize ≤ span.stop then
          ⟨min span.start source.utf8ByteSize
              - widthBefore source (min span.start source.utf8ByteSize),
            min span.stop source.utf8ByteSize⟩
        else ⟨span.start, span.stop + widthAfter source span.stop⟩ := rfl

/-- **No mark makes the computation fail**, be it reversed, behind the end or inside a character: with
a check at the sum and at the difference it comes to the same. -/
theorem missingTokenSpanBy_checked {source : String} (h : source.utf8ByteSize < UInt64.size)
    (span : Span) :
    missingTokenSpanBy .checked source span = .ok (missingTokenSpan source span) := by
  unfold missingTokenSpanBy
  rw [missingTokenSpan_eq]
  by_cases hend : source.utf8ByteSize ≤ span.stop
  · rw [if_pos hend, if_pos hend]
    exact congrArg (· >>= _) (subtractOffsets_of_le (widthBefore_le source _))
  · rw [if_neg hend, if_neg hend]
    have hstop := add_widthAfter_le (Nat.le_of_not_le hend)
    exact congrArg (· >>= _) (addOffsets_of_lt (Nat.lt_of_le_of_lt hstop h))

/-- No mark is shown behind the end of the source. -/
theorem stop_missingTokenSpan_le (source : String) (span : Span) :
    (missingTokenSpan source span).stop ≤ source.utf8ByteSize := by
  rw [missingTokenSpan_eq]
  by_cases hend : source.utf8ByteSize ≤ span.stop
  · rw [if_pos hend]
    exact Nat.min_le_right _ _
  · rw [if_neg hend]
    exact add_widthAfter_le (Nat.le_of_not_le hend)

/-- **A span with one more character**: in front if the span ends at the end of the source and does
not start at its start, and otherwise behind. -/
structure Widened (source : String) (span shown : Span) : Prop where
  contains : shown.start ≤ span.start ∧ span.stop ≤ shown.stop
  left : span.stop = source.utf8ByteSize → shown.stop = span.stop
    ∧ ∃ t : String, slice? ⟨shown.start, span.start⟩ source = some t ∧ t.length = min 1 span.start
  right : span.stop ≠ source.utf8ByteSize → shown.start = span.start
    ∧ ∃ t : String, slice? ⟨span.stop, shown.stop⟩ source = some t ∧ t.length = 1

/-- **A mark that stands in the source is shown with one more character.** -/
theorem widened_missingTokenSpan {source : String} {span : Span} (h : span.StandsIn source) :
    Widened source span (missingTokenSpan source span) := by
  have hstart := Nat.le_trans h.ordered h.inside
  rw [missingTokenSpan_eq]
  by_cases hend : span.stop = source.utf8ByteSize
  · rw [if_pos (Nat.le_of_eq hend.symm), Nat.min_eq_left hstart, Nat.min_eq_left h.inside]
    refine ⟨⟨Nat.sub_le _ _, Nat.le_refl _⟩, fun _ => ⟨rfl, ?_⟩, fun hne => absurd hend hne⟩
    exact exists_slice?_before h.start
  · rw [if_neg fun hle => hend (Nat.le_antisymm h.inside hle)]
    refine ⟨⟨Nat.le_refl _, Nat.le_add_right _ _⟩, fun heq => absurd heq hend, fun _ => ⟨rfl, ?_⟩⟩
    exact exists_slice?_after h.stop hend

namespace Widened

variable {source : String} {span shown : Span}

/-- What has been widened still stands in the source. -/
theorem standsIn (h : Widened source span shown) (hspan : span.StandsIn source) :
    shown.StandsIn source := by
  by_cases hend : span.stop = source.utf8ByteSize
  · obtain ⟨hstop, t, ht, -⟩ := h.left hend
    have hleft := Span.standsIn_of_slice? ht
    exact ⟨Nat.le_trans h.contains.1 (Nat.le_trans hspan.ordered h.contains.2),
      hstop ▸ hspan.inside, hleft.start, hstop ▸ hspan.stop⟩
  · obtain ⟨hstart, t, ht, -⟩ := h.right hend
    have hright := Span.standsIn_of_slice? ht
    exact ⟨Nat.le_trans h.contains.1 (Nat.le_trans hspan.ordered h.contains.2), hright.inside,
      hstart ▸ hspan.start, hright.stop⟩

/-- **It is not empty**, if the source is not. -/
theorem start_lt_stop (h : Widened source span shown) (hspan : span.start ≤ span.stop)
    (hsource : source.utf8ByteSize ≠ 0) : shown.start < shown.stop := by
  -- a text of one character is no empty text
  have hwidth : ∀ {a b : Nat} {t : String}, slice? ⟨a, b⟩ source = some t → t.length = 1 → a < b := by
    intro a b t ht hlength
    obtain ⟨as, bs, -, ha, hb⟩ := slice?_eq_some_iff.mp ht
    have hne : byteSize t.toList ≠ 0 := by
      rw [Ne, byteSize_eq_zero_iff]
      intro hnil
      rw [← String.length_toList, hnil] at hlength
      cases hlength
    dsimp only at ha hb
    omega
  by_cases hend : span.stop = source.utf8ByteSize
  · obtain ⟨hstop, t, ht, hlength⟩ := h.left hend
    have hcontains := h.contains
    by_cases hzero : span.start = 0
    · omega
    · have := hwidth ht (by omega)
      omega
  · obtain ⟨hstart, t, ht, hlength⟩ := h.right hend
    have := hwidth ht hlength
    omega

end Widened

/-! ## What can be found of a node, and where -/

/-- **The problems that a node can have**, by their kind and their span. -/
inductive ShownFor (d : Document) : Node → Diagnostic → Prop where
  | missing {marker : MissingToken} {x : Diagnostic} (hkind : x.kind = .missingToken)
    (hspan : x.span = missingTokenSpan d.source marker.span) : ShownFor d (.missing marker) x
  | order {block : CodeBlock} {x : Diagnostic} (hkind : x.kind = .statementAfterFeature)
    (hspan : x.span = block.span) : ShownFor d (.codeBlock block) x
  | tail {node : Node} {x : Diagnostic} (hcontent : node.isContent = true)
    (hkind : x.kind = .contentAfterLastFeature) (hspan : x.span = ⟨node.span.start, d.size⟩) :
    ShownFor d node x
  | lack {directive : Directive} {x : Diagnostic} (hkind : x.kind = .missingRequiredAttribute)
    (hspan : x.span = directive.name.span) : ShownFor d (.directive directive) x
  | effect {directive : Directive} {x : Diagnostic} (hkind : x.kind = .ignoredDirective)
    (hspan : x.span = directive.span) : ShownFor d (.directive directive) x
  | value {directive : Directive} {x : Diagnostic} {a : Attribute} {value : Token}
    (ha : a ∈ directive.attributes) (hvalue : a.value = some value)
    (hkind : x.kind = .invalidAttributeValue) (hspan : x.span = value.span) :
    ShownFor d (.directive directive) x

section Cases

variable {schema : Schema} {mode : Mode} {d : Document} {i : Nat} {x : Diagnostic}

theorem eq_of_mem_tailProblems {node : Node} (h : x ∈ tailProblems d i node) :
    x.kind = .contentAfterLastFeature ∧ x.span = ⟨node.span.start, d.size⟩ := by
  unfold tailProblems at h
  split at h
  · obtain rfl := List.mem_singleton.mp h
    exact ⟨rfl, rfl⟩
  · cases h

/-- The tail begins with content. -/
theorem shownFor_of_mem_tailProblems {node : Node} (hnode : d.nodes[i]? = some node)
    (h : x ∈ tailProblems d i node) : ShownFor d node x := by
  obtain ⟨hkind, hspan⟩ := eq_of_mem_tailProblems h
  refine .tail ?_ hkind hspan
  unfold tailProblems at h
  split at h
  · rename_i htail
    rw [tail?_eq_some_iff hnode, Bool.and_eq_true] at htail
    exact htail.2
  · cases h

theorem eq_of_mem_lackProblems {directive : Directive} (h : x ∈ lackProblems schema d directive) :
    x.kind = .missingRequiredAttribute ∧ x.span = directive.name.span := by
  obtain ⟨rule, -, hx⟩ := List.mem_flatMap.mp h
  obtain ⟨a, -, rfl⟩ := List.mem_map.mp hx
  exact ⟨rfl, rfl⟩

theorem eq_of_mem_effectProblems {directive : Directive}
    (h : x ∈ effectProblems schema mode d directive) :
    x.kind = .ignoredDirective ∧ x.span = directive.span := by
  unfold effectProblems at h
  split at h
  · obtain rfl := List.mem_singleton.mp h
    exact ⟨rfl, rfl⟩
  · cases h

/-- The problem of an attribute is shown under its value. -/
theorem exists_of_attributeProblem?_eq {directive : Directive} {a : Attribute}
    (h : attributeProblem? schema d directive a = some x) :
    x.kind = .invalidAttributeValue ∧ ∃ value, a.value = some value ∧ x.span = value.span := by
  unfold attributeProblem? at h
  split at h
  · cases h
  · rename_i hvalue _
    cases h
    exact ⟨rfl, _, hvalue, rfl⟩
  · rename_i hvalue _
    obtain ⟨rule, -, rfl⟩ := Option.map_eq_some_iff.mp h
    exact ⟨rfl, _, hvalue, rfl⟩

/-- **Every problem of a node is one of those.** -/
theorem shownFor_of_mem_nodeProblems {node : Node} (hnode : d.nodes[i]? = some node)
    (h : x ∈ nodeProblems schema mode d i node) : ShownFor d node x := by
  cases node with
  | missing marker =>
    obtain rfl := List.mem_singleton.mp h
    exact .missing rfl rfl
  | codeBlock block =>
    rcases List.mem_append.mp h with horder | htail
    · unfold orderProblems at horder
      split at horder
      · obtain rfl := List.mem_singleton.mp horder
        exact .order rfl rfl
      · cases horder
    · exact shownFor_of_mem_tailProblems hnode htail
  | directive directive =>
    simp only [nodeProblems, List.mem_append] at h
    rcases h with ((hlack | heffect) | htail) | hvalue
    · obtain ⟨hkind, hspan⟩ := eq_of_mem_lackProblems hlack
      exact .lack hkind hspan
    · obtain ⟨hkind, hspan⟩ := eq_of_mem_effectProblems heffect
      exact .effect hkind hspan
    · exact shownFor_of_mem_tailProblems hnode htail
    · obtain ⟨a, ha, hx⟩ := List.mem_filterMap.mp hvalue
      obtain ⟨hkind, value, hvalue, hspan⟩ := exists_of_attributeProblem?_eq hx
      exact .value ha hvalue hkind hspan
  | text token => exact shownFor_of_mem_tailProblems hnode h
  | included part => exact shownFor_of_mem_tailProblems hnode h

/-- Every problem of a check is one of those of a node. -/
theorem exists_shownFor (h : x ∈ (located schema mode d).map Prod.snd) :
    ∃ node ∈ d.nodes, ShownFor d node x := by
  rw [map_snd_located] at h
  obtain ⟨⟨node, i⟩, hnode, hx⟩ := List.mem_flatMap.mp h
  have hget := List.mk_mem_zipIdx_iff_getElem?.mp hnode
  exact ⟨node, List.mem_of_getElem? hget, shownFor_of_mem_nodeProblems hget hx⟩

end Cases

/-- Only the mark of a missing token is reported as a missing token. -/
theorem ShownFor.exists_marker {d : Document} {node : Node} {x : Diagnostic} (h : ShownFor d node x)
    (hx : x.kind = .missingToken) :
    ∃ marker, node = .missing marker ∧ x.span = missingTokenSpan d.source marker.span := by
  cases h with
  | missing _ hspan => exact ⟨_, rfl, hspan⟩
  | order hkind _ | lack hkind _ | effect hkind _ => exact absurd (hkind.symm.trans hx) nofun
  | tail _ hkind _ => exact absurd (hkind.symm.trans hx) nofun
  | value _ _ hkind _ => exact absurd (hkind.symm.trans hx) nofun

/-- **Where the spans of a node stand in the source, its problems do.** -/
theorem ShownFor.standsIn {d : Document} {node : Node} {x : Diagnostic} (h : ShownFor d node x)
    (hnode : ∀ span ∈ node.spans, span.StandsIn d.source) : x.span.StandsIn d.source := by
  have hself := hnode _ node.span_mem_spans
  cases h with
  | missing _ hspan =>
    rw [hspan]
    exact (widened_missingTokenSpan hself).standsIn hself
  | order _ hspan =>
    rw [hspan]
    exact hself
  | tail _ _ hspan =>
    rw [hspan]
    exact ⟨Nat.le_trans hself.ordered hself.inside, Nat.le_refl _, hself.start,
      isBoundary_utf8ByteSize _⟩
  | lack _ hspan =>
    rw [hspan]
    exact hnode _ (List.mem_cons_of_mem _ List.mem_cons_self)
  | effect _ hspan =>
    rw [hspan]
    exact hself
  | @value directive _ a value ha hvalue _ hspan =>
    rw [hspan]
    have htoken : value ∈ a.tokens := by
      rw [Attribute.tokens, hvalue]
      exact List.mem_cons_of_mem _ (List.mem_singleton_self value)
    have hmem : value.span ∈ a.spans := List.mem_cons_of_mem _ (List.mem_map_of_mem htoken)
    exact hnode _ (List.mem_cons_of_mem _ (List.mem_cons_of_mem _ (List.mem_flatMap_of_mem ha hmem)))

/-- **Problems can always be shown.** Whatever a document says about its missing tokens, the spans
under which they are shown are computed without falling below zero and without leaving the words, and
do not reach behind the end of the source. If the spans of the document, of its nodes, their tokens
and their attributes, stand in the source, then so do the spans of all its problems. Then a missing
token is shown under its mark and one character more, in front of the mark if that ends at the end of
the source and behind it otherwise; only at the start of the source there is none in front. And it is
shown under something, unless the source is empty. -/
theorem validate_spans_standIn (schema : Schema) (mode : Mode) (d : Document) :
    ∃ problems, validate schema mode Stop.never d = .ok problems
      ∧ (∀ span : Span, (missingTokenSpan d.source span).stop ≤ d.size
          ∧ (d.size < UInt64.size →
              missingTokenSpanBy .checked d.source span = .ok (missingTokenSpan d.source span)))
      ∧ (∀ x ∈ problems, x.kind = .missingToken → ∃ marker, Node.missing marker ∈ d.nodes
          ∧ x.span = missingTokenSpan d.source marker.span)
      ∧ ((∀ node ∈ d.nodes, ∀ span ∈ node.spans, span.StandsIn d.source) →
          (∀ x ∈ problems, x.span.StandsIn d.source)
            ∧ ∀ x ∈ problems, x.kind = .missingToken → ∃ marker, Node.missing marker ∈ d.nodes
              ∧ Widened d.source marker.span x.span
              ∧ (d.size ≠ 0 → x.span.start < x.span.stop)) := by
  have hmark : ∀ x ∈ (located schema mode d).map Prod.snd, x.kind = .missingToken →
      ∃ marker, Node.missing marker ∈ d.nodes
        ∧ x.span = missingTokenSpan d.source marker.span := by
    intro x hx hkind
    obtain ⟨node, hnode, hshown⟩ := exists_shownFor hx
    obtain ⟨marker, rfl, hspan⟩ := hshown.exists_marker hkind
    exact ⟨marker, hnode, hspan⟩
  refine ⟨_, validate_eq_map_located schema mode d, fun span => ?_, hmark, fun hspans => ⟨?_, ?_⟩⟩
  · exact ⟨stop_missingTokenSpan_le _ _, fun hsize => missingTokenSpanBy_checked hsize span⟩
  · intro x hx
    obtain ⟨node, hnode, hshown⟩ := exists_shownFor hx
    exact hshown.standsIn (hspans node hnode)
  · intro x hx hmissing
    obtain ⟨marker, hmarker, hspan⟩ := hmark x hx hmissing
    have hstands := hspans _ hmarker marker.span List.mem_cons_self
    have hwidened := widened_missingTokenSpan hstands
    rw [← hspan] at hwidened
    exact ⟨marker, hmarker, hwidened, hwidened.start_lt_stop hstands.ordered⟩

/-- A page with a mark in front of a letter of two bytes and another one at the end. -/
def markedPage : Builder :=
  ((((Builder.new 0 "page.tt").text "a").missing "#>").text "é").missing "\x7d"

theorem made_markedPage : markedPage.Made :=
  .missing _ (.text _ (.missing _ (.text _ (.new _ _))))

/-- Both marks are shown under the letter, and so would be one that is reversed and lies behind the
end. -/
theorem validate_spans_standIn_marked :
    (∀ node ∈ markedPage.build.nodes, ∀ span ∈ node.spans, span.StandsIn markedPage.build.source)
      ∧ markedPage.build.size < UInt64.size
      ∧ missingTokenSpanBy .checked markedPage.build.source ⟨9, 7⟩ = .ok ⟨1, 3⟩
      ∧ ∃ problems, validate .standard .designTime Stop.never markedPage.build = .ok problems
        ∧ problems.map Diagnostic.span = [⟨1, 3⟩, ⟨1, 3⟩]
        ∧ ∀ x ∈ problems, x.span.StandsIn markedPage.build.source := by
  have hbuilt : markedPage.build.IsBuilt := ⟨markedPage, made_markedPage, rfl⟩
  have hspans := fun node hnode => (hbuilt.writtenIn node hnode).spans
  have hsize : markedPage.build.size < UInt64.size := by decide
  have hshown : (validate .standard .designTime Stop.never markedPage.build).toOption.map
      (·.map Diagnostic.span) = some [⟨1, 3⟩, ⟨1, 3⟩] := by
    decide +kernel
  have hbeyond : missingTokenSpan markedPage.build.source ⟨9, 7⟩ = ⟨1, 3⟩ := by decide +kernel
  obtain ⟨problems, hproblems, hchecked, -, hstand⟩ :=
    validate_spans_standIn .standard .designTime markedPage.build
  refine ⟨hspans, hsize, ?_, problems, hproblems, ?_, (hstand hspans).1⟩
  · rw [(hchecked ⟨9, 7⟩).2 hsize, hbeyond]
  · rw [hproblems] at hshown
    exact Option.some.inj hshown

end Validation

end TextTemplate
