import TextTemplate.Proofs.ProblemSpans

/-!
# The order of problems in the source

A check goes over the nodes in the order in which they stand, so one expects its problems in the order
of their starts. For a document that was built this is nearly so. The problems of different nodes are
in order, since nodes follow each other in the source; this holds even for a missing token at the end
of the source, which is shown one character further left, because no problem of another node starts
inside the last character (`visibleFrom_mono`). Among the problems of one node one pair is out of turn:
that a directive lacks an attribute is shown at its name, and it is reported before what is shown
from the start of the directive, four bytes further left.

That this is the only thing that can go wrong, and when it does, is the main theorem. What comes
before it is stated for any relation that holds where the starts do not go down, so that it serves for
the order itself and for the order but for such pairs.
-/

namespace TextTemplate

open Text

/-! ## Nodes follow each other -/

namespace Node

/-- **Nodes that are laid out follow each other**, included documents apart, which share the place of
the directive in front. -/
theorem Laid.follow {asking : Option Directive} {lo hi : Nat} {nodes : List Node}
    (h : Laid asking lo hi nodes) :
    lo ≤ hi ∧ (∀ node ∈ nodes, node.isIncluded = false → lo ≤ node.span.start)
      ∧ nodes.Pairwise fun a b =>
        a.isIncluded = false → b.isIncluded = false → a.span.stop ≤ b.span.start := by
  induction h with
  | nil => exact ⟨Nat.le_refl _, List.forall_mem_nil _, List.Pairwise.nil⟩
  | written _ hstart hle _ ih =>
    obtain ⟨hhi, hlo, hpairwise⟩ := ih
    subst hstart
    refine ⟨Nat.le_trans hle hhi, List.forall_mem_cons.mpr ⟨fun _ => Nat.le_refl _, ?_⟩,
      List.pairwise_cons.mpr ⟨fun b hb _ => hlo b hb, hpairwise⟩⟩
    exact fun node hnode hincluded => Nat.le_trans hle (hlo node hnode hincluded)
  | included _ _ ih =>
    obtain ⟨hhi, hlo, hpairwise⟩ := ih
    exact ⟨hhi, List.forall_mem_cons.mpr ⟨nofun, hlo⟩,
      List.pairwise_cons.mpr ⟨fun _ _ => nofun, hpairwise⟩⟩
  | missing hmarker _ ih =>
    obtain ⟨hhi, hlo, hpairwise⟩ := ih
    have hstart := congrArg Span.start hmarker
    have hstop := congrArg Span.stop hmarker
    refine ⟨hhi, List.forall_mem_cons.mpr ⟨fun _ => Nat.le_of_eq hstart.symm, hlo⟩,
      List.pairwise_cons.mpr ⟨fun b hb _ hincluded => ?_, hpairwise⟩⟩
    exact Nat.le_trans (Nat.le_of_eq hstop) (hlo b hb hincluded)

end Node

namespace Document

/-- The nodes of a document that was built follow each other. -/
theorem IsBuilt.pairwise_nodes {d : Document} (h : d.IsBuilt) :
    d.nodes.Pairwise fun a b =>
      a.isIncluded = false → b.isIncluded = false → a.span.stop ≤ b.span.start := by
  obtain ⟨b, hb, rfl⟩ := h
  exact hb.consistent.laid.follow.2.2

/-- The parts of a directive that was built are in order. -/
theorem IsBuilt.wellCut {d : Document} (h : d.IsBuilt) {directive : Directive}
    (hdirective : Node.directive directive ∈ d.nodes) : directive.WellCut :=
  h.agreesWithSource.directives directive (List.mem_filterMap.mpr ⟨_, hdirective, rfl⟩)

end Document

namespace Directive.WellCut

variable {directive : Directive} {a : Attribute}

/-- An attribute stands behind the name, inside the directive. -/
theorem attribute_bounds (h : directive.WellCut) (ha : a ∈ directive.attributes) :
    directive.name.span.start ≤ a.span.start ∧ a.span.stop ≤ directive.span.stop := by
  obtain ⟨hname, -⟩ := List.pairwise_cons.mp h.parts.apart
  have hmem : a.span ∈ directive.attributes.map Attribute.span := List.mem_map_of_mem ha
  have hbefore := hname _ hmem
  have hbounds := h.parts.bounds _ List.mem_cons_self
  exact ⟨Nat.le_trans hbounds.2.1 (Nat.le_of_lt hbefore),
    (h.parts.bounds _ (List.mem_cons_of_mem _ hmem)).2.2⟩

/-- A value stands inside its attribute. -/
theorem value_bounds (h : directive.WellCut) (ha : a ∈ directive.attributes) {value : Token}
    (hvalue : a.value = some value) :
    a.span.start ≤ value.span.start ∧ value.span.start ≤ a.span.stop := by
  have hmem : value.span ∈ a.tokens.map Token.span := by
    rw [Attribute.tokens, hvalue]
    exact List.mem_cons_of_mem _ (List.mem_singleton_self _)
  obtain ⟨hlo, hle, hhi⟩ := (h.attributes a ha).bounds _ hmem
  exact ⟨hlo, Nat.le_trans hle hhi⟩

/-- The attributes follow each other. -/
theorem pairwise_attributes (h : directive.WellCut) :
    directive.attributes.Pairwise fun a b => a.span.stop < b.span.start :=
  List.pairwise_map.mp (List.pairwise_cons.mp h.parts.apart).2

end Directive.WellCut

namespace Validation

/-! ## Where a problem starts -/

/-- **From where an offset is shown**: the end of the source from the character in front of it. -/
def visibleFrom (source : String) (n : Nat) : Nat :=
  if n = source.utf8ByteSize then n - widthBefore source n else n

theorem visibleFrom_of_lt {source : String} {n : Nat} (h : n < source.utf8ByteSize) :
    visibleFrom source n = n :=
  if_neg (Nat.ne_of_lt h)

/-- No boundary but the end lies behind the start of the last character. -/
theorem le_sub_widthBefore {source : String} {n : Nat} (h : IsBoundary source n)
    (hn : n ≠ source.utf8ByteSize) :
    n ≤ source.utf8ByteSize - widthBefore source source.utf8ByteSize := by
  have hle := h.le_utf8ByteSize
  rcases widthBefore_cases source source.utf8ByteSize with ⟨hzero, -⟩ | ⟨as, c, bs, hs, hsize⟩
  · rw [hzero]
    exact hle
  · rw [← hsize, widthBefore_of_split hs, Nat.add_sub_cancel]
    obtain ⟨front, rest, hfront, rfl⟩ := h
    refine Nat.le_of_not_lt fun hlt => hn ?_
    -- a front that is longer than all but the last character has that character too
    obtain ⟨more, rfl⟩ := isPrefix_of_byteSize_le ⟨c :: bs, hs.symm⟩ ⟨rest, hfront.symm⟩
      (Nat.le_of_lt hlt)
    rw [hs, List.append_assoc] at hfront
    cases more with
    | nil => exact absurd hlt (by rw [List.append_nil]; exact Nat.lt_irrefl _)
    | cons c' more =>
      obtain ⟨rfl, -⟩ := List.cons.inj (List.append_cancel_left hfront)
      rw [byteSize_append, byteSize_cons] at hle ⊢
      omega

/-- **What comes later is shown later**, if it cuts no character. -/
theorem visibleFrom_mono {source : String} {m n : Nat} (hm : IsBoundary source m)
    (hn : IsBoundary source n) (h : m ≤ n) : visibleFrom source m ≤ visibleFrom source n := by
  unfold visibleFrom
  by_cases hmend : m = source.utf8ByteSize
  · have hnend : n = source.utf8ByteSize := Nat.le_antisymm hn.le_utf8ByteSize (hmend ▸ h)
    exact Nat.le_of_eq (by rw [hmend, hnend])
  · rw [if_neg hmend]
    by_cases hnend : n = source.utf8ByteSize
    · rw [if_pos hnend, hnend]
      exact le_sub_widthBefore hm hmend
    · rw [if_neg hnend]
      exact h

/-- The mark of a missing token is shown from where its offset is. -/
theorem start_missingTokenSpan {source : String} {span : Span} (h : span.StandsIn source)
    (hempty : span.start = span.stop) :
    (missingTokenSpan source span).start = visibleFrom source span.start := by
  rw [missingTokenSpan_eq, visibleFrom, Nat.min_eq_left (Nat.le_trans h.ordered h.inside)]
  by_cases hend : span.start = source.utf8ByteSize
  · rw [if_pos hend, if_pos (Nat.le_of_eq (hend.symm.trans hempty))]
  · rw [if_neg hend, if_neg fun hle => hend (hempty.trans (Nat.le_antisymm h.inside hle))]

/-- Content of a document that was built is not empty. -/
theorem start_lt_stop_of_isContent {d : Document} (hd : d.IsBuilt) {node : Node}
    (hnode : node ∈ d.nodes) (hcontent : node.isContent = true) :
    node.span.start < node.span.stop := by
  have hwritten := hd.writtenIn node hnode
  cases node with
  | text token =>
    obtain ⟨as, bs, -, hstart, hstop⟩ := slice?_eq_some_iff.mp
      (hd.agreesWithSource.tokens _ hnode token (List.mem_singleton_self token))
    have hne : byteSize token.text.toList ≠ 0 := by
      rw [Ne, byteSize_eq_zero_iff]
      intro hnil
      rw [Node.isContent, Token.isBlank, allBlank, hnil] at hcontent
      cases hcontent
    show token.span.start < token.span.stop
    omega
  | directive directive =>
    obtain ⟨hname, hlt⟩ := hwritten.room
    show directive.span.start < directive.span.stop
    omega
  | codeBlock block => exact hwritten.room
  | included part => cases hcontent
  | missing marker => cases hcontent

/-- **A problem of a node is shown from an offset inside the node.** -/
theorem ShownFor.exists_visibleFrom {d : Document} (hd : d.IsBuilt) {node : Node}
    (hnode : node ∈ d.nodes) {x : Diagnostic} (h : ShownFor d node x) :
    node.isIncluded = false ∧ ∃ n, IsBoundary d.source n ∧ node.span.start ≤ n
      ∧ n ≤ node.span.stop ∧ x.span.start = visibleFrom d.source n := by
  have hwritten := hd.writtenIn node hnode
  have hself := hwritten.spans _ node.span_mem_spans
  have hstands := h.standsIn hwritten.spans
  -- a problem that starts before the end of the source is shown from its start
  have hinside : ∀ {n}, x.span.start = n → node.span.start ≤ n → n ≤ node.span.stop →
      n < d.source.utf8ByteSize → ∃ n, IsBoundary d.source n ∧ node.span.start ≤ n
        ∧ n ≤ node.span.stop ∧ x.span.start = visibleFrom d.source n := by
    rintro n rfl hlo hhi hlt
    exact ⟨_, hstands.start, hlo, hhi, (visibleFrom_of_lt hlt).symm⟩
  cases h with
  | missing _ hspan =>
    refine ⟨rfl, _, hself.start, Nat.le_refl _, hself.ordered, ?_⟩
    rw [hspan]
    exact start_missingTokenSpan hself hwritten.room
  | order _ hspan =>
    refine ⟨rfl, hinside (congrArg Span.start hspan) (Nat.le_refl _) hself.ordered ?_⟩
    exact Nat.lt_of_lt_of_le hwritten.room hself.inside
  | tail hcontent _ hspan =>
    have hlt := start_lt_stop_of_isContent hd hnode hcontent
    refine ⟨?_, hinside (congrArg Span.start hspan) (Nat.le_refl _) hself.ordered
      (Nat.lt_of_lt_of_le hlt hself.inside)⟩
    cases node with
    | included part => cases hcontent
    | _ => rfl
  | lack _ hspan =>
    obtain ⟨hname, hlt⟩ := hwritten.room
    refine ⟨rfl, hinside (congrArg Span.start hspan) ?_ (Nat.le_of_lt hlt)
      (Nat.lt_of_lt_of_le hlt hself.inside)⟩
    rw [hname]
    exact Nat.le_add_right _ _
  | @effect directive _ _ hspan =>
    obtain ⟨hname, hlt⟩ := hwritten.room
    refine ⟨rfl, hinside (congrArg Span.start hspan) (Nat.le_refl _) hself.ordered ?_⟩
    have hinside := hself.inside
    show directive.span.start < d.source.utf8ByteSize
    change directive.span.stop ≤ _ at hinside
    omega
  | @value directive _ a value ha hvalue _ hspan =>
    have hcut := hd.wellCut hnode
    obtain ⟨hname, -⟩ := hwritten.room
    obtain ⟨hlo, hhi⟩ := hcut.attribute_bounds ha
    obtain ⟨hstart, hstop⟩ := hcut.value_bounds ha hvalue
    have hcopyable : value ∈ d.nodes.flatMap Node.copyableTokens :=
      List.mem_flatMap_of_mem hnode (List.mem_filterMap.mpr ⟨a, ha, hvalue⟩)
    have hend := (hd.within_tokens.bounds value hcopyable).2
    have hordered := hstands.ordered
    rw [hspan] at hordered
    refine ⟨rfl, hinside (congrArg Span.start hspan) ?_ (Nat.le_trans hstop hhi)
      (Nat.lt_of_le_of_lt hordered hend)⟩
    show directive.span.start ≤ value.span.start
    omega

/-! ## The problems of one node -/

section OneNode

variable {schema : Schema} {mode : Mode} {d : Document} {i : Nat}
variable {S : Diagnostic → Diagnostic → Prop}

/-- Problems that start at one place are in any order. -/
theorem pairwise_of_start_eq (hS : ∀ x y : Diagnostic, x.span.start ≤ y.span.start → S x y)
    {problems : List Diagnostic} {n : Nat} (h : ∀ x ∈ problems, x.span.start = n) :
    problems.Pairwise S := by
  induction problems with
  | nil => exact List.Pairwise.nil
  | cons x problems ih =>
    obtain ⟨hx, hrest⟩ := List.forall_mem_cons.mp h
    refine List.pairwise_cons.mpr ⟨fun y hy => hS x y ?_, ih hrest⟩
    exact Nat.le_of_eq (hx.trans (hrest y hy).symm)

theorem start_of_mem_tailProblems {node : Node} {x : Diagnostic} (h : x ∈ tailProblems d i node) :
    x.span.start = node.span.start := by
  rw [(eq_of_mem_tailProblems h).2]

theorem start_of_mem_orderProblems {block : CodeBlock} {x : Diagnostic}
    (h : x ∈ orderProblems d i block) : x.span.start = block.span.start := by
  unfold orderProblems at h
  split at h
  · obtain rfl := List.mem_singleton.mp h
    rfl
  · cases h

/-- The problems of values are in the order of the attributes. -/
theorem pairwise_attributeProblems (hS : ∀ x y : Diagnostic, x.span.start ≤ y.span.start → S x y)
    {directive : Directive} (hcut : directive.WellCut) :
    (directive.attributes.filterMap (attributeProblem? schema d directive)).Pairwise S := by
  refine List.pairwise_filterMap.mpr (hcut.pairwise_attributes.imp_of_mem ?_)
  intro a b ha hb hab x hx y hy
  obtain ⟨-, value, hvalue, hxspan⟩ := exists_of_attributeProblem?_eq hx
  obtain ⟨-, value', hvalue', hyspan⟩ := exists_of_attributeProblem?_eq hy
  have hbefore := (hcut.value_bounds ha hvalue).2
  have hafter := (hcut.value_bounds hb hvalue').1
  refine hS x y ?_
  rw [hxspan, hyspan]
  omega

/-- **The problems of a directive are in order, but for one pair**: that it lacks attributes comes
before what is shown from its start. -/
theorem pairwise_directiveProblems
    (hS : ∀ x y : Diagnostic, x.span.start ≤ y.span.start → S x y) {directive : Directive}
    (hcut : directive.WellCut)
    (hlack : ∀ x ∈ lackProblems schema d directive, ∀ y ∈ effectProblems schema mode d directive
      ++ tailProblems d i (.directive directive), S x y) :
    (nodeProblems schema mode d i (.directive directive)).Pairwise S := by
  have hname : directive.span.start ≤ directive.name.span.start :=
    (hcut.parts.bounds _ List.mem_cons_self).1
  -- what is shown from the start of the directive, with or without an effect
  have hstart : ∀ y ∈ effectProblems schema mode d directive
      ++ tailProblems d i (.directive directive), y.span.start = directive.span.start := by
    refine List.forall_mem_append.mpr ⟨fun y hy => ?_, fun y hy => start_of_mem_tailProblems hy⟩
    rw [(eq_of_mem_effectProblems hy).2]
  have hlackStart : ∀ x ∈ lackProblems schema d directive,
      x.span.start = directive.name.span.start :=
    fun x hx => congrArg Span.start (eq_of_mem_lackProblems hx).2
  rw [nodeProblems, List.append_assoc (lackProblems schema d directive)]
  refine List.pairwise_append.mpr ⟨List.pairwise_append.mpr
    ⟨pairwise_of_start_eq hS hlackStart, pairwise_of_start_eq hS hstart, hlack⟩,
    pairwise_attributeProblems hS hcut, fun x hx y hy => hS x y ?_⟩
  obtain ⟨a, ha, hproblem⟩ := List.mem_filterMap.mp hy
  obtain ⟨-, value, hvalue, hyspan⟩ := exists_of_attributeProblem?_eq hproblem
  have hbehind : directive.name.span.start ≤ y.span.start := by
    rw [hyspan]
    exact Nat.le_trans (hcut.attribute_bounds ha).1 (hcut.value_bounds ha hvalue).1
  rcases List.mem_append.mp hx with hx | hx
  · rw [hlackStart x hx]
    exact hbehind
  · rw [hstart x hx]
    exact Nat.le_trans hname hbehind

/-- **The problems of any node.** -/
theorem pairwise_nodeProblems (hS : ∀ x y : Diagnostic, x.span.start ≤ y.span.start → S x y)
    (hd : d.IsBuilt) {node : Node} (hnode : node ∈ d.nodes)
    (hlack : ∀ directive, node = .directive directive → ∀ x ∈ lackProblems schema d directive,
      ∀ y ∈ effectProblems schema mode d directive ++ tailProblems d i (.directive directive),
        S x y) :
    (nodeProblems schema mode d i node).Pairwise S := by
  cases node with
  | missing marker => exact List.pairwise_singleton _ _
  | codeBlock block =>
    refine pairwise_of_start_eq (n := block.span.start) hS (List.forall_mem_append.mpr ⟨?_, ?_⟩)
    · exact fun x hx => start_of_mem_orderProblems hx
    · exact fun x hx => start_of_mem_tailProblems hx
  | directive directive => exact pairwise_directiveProblems hS (hd.wellCut hnode) (hlack _ rfl)
  | text token => exact pairwise_of_start_eq hS fun x hx => start_of_mem_tailProblems hx
  | included part => exact pairwise_of_start_eq hS fun x hx => start_of_mem_tailProblems hx

end OneNode

/-! ## The problems of a document -/

variable {schema : Schema} {mode : Mode} {d : Document}

/-- **Problems of different nodes are in order.** So the order is decided inside the directives. -/
theorem pairwise_located {S : Diagnostic → Diagnostic → Prop}
    (hS : ∀ x y : Diagnostic, x.span.start ≤ y.span.start → S x y) (hd : d.IsBuilt)
    (hlack : ∀ i directive, d.nodes[i]? = some (.directive directive) →
      ∀ x ∈ lackProblems schema d directive,
        ∀ y ∈ effectProblems schema mode d directive ++ tailProblems d i (.directive directive),
          S x y) :
    ((located schema mode d).map Prod.snd).Pairwise S := by
  have hpairwise := hd.pairwise_nodes
  rw [← List.zipIdx_map_fst 0 d.nodes, List.pairwise_map] at hpairwise
  rw [map_snd_located]
  refine List.pairwise_flatMap.mpr ⟨?_, hpairwise.imp_of_mem ?_⟩
  · rintro ⟨node, i⟩ hmem
    have hget := List.mk_mem_zipIdx_iff_getElem?.mp hmem
    refine pairwise_nodeProblems hS hd (List.mem_of_getElem? hget) ?_
    rintro directive rfl
    exact hlack i directive hget
  · rintro ⟨a, i⟩ ⟨b, j⟩ hamem hbmem hab x hx y hy
    have hgeta := List.mk_mem_zipIdx_iff_getElem?.mp hamem
    have hgetb := List.mk_mem_zipIdx_iff_getElem?.mp hbmem
    obtain ⟨ha, m, hm, -, hmstop, hxm⟩ :=
      (shownFor_of_mem_nodeProblems hgeta hx).exists_visibleFrom hd (List.mem_of_getElem? hgeta)
    obtain ⟨hb, n, hn, hnstart, -, hyn⟩ :=
      (shownFor_of_mem_nodeProblems hgetb hy).exists_visibleFrom hd (List.mem_of_getElem? hgetb)
    refine hS x y ?_
    rw [hxm, hyn]
    exact visibleFrom_mono hm hn (Nat.le_trans hmstop (Nat.le_trans (hab ha hb) hnstart))

/-- A directive lacks an attribute that the schema requires. -/
def Lacks (schema : Schema) (directive : Directive) : Prop :=
  ∃ rule, schema.byName? directive.name.text = some rule
    ∧ ∃ a ∈ rule.attributes, a.required = true ∧ directive.hasAttribute a.name = false

/-- **Two problems that are out of turn**: that a directive lacks an attribute is reported first and
shown at its name, and what follows is shown from the start of the directive, four bytes before. -/
structure OutOfTurn (d : Document) (x y : Diagnostic) : Prop where
  kinds : x.kind = .missingRequiredAttribute
    ∧ (y.kind = .ignoredDirective ∨ y.kind = .contentAfterLastFeature)
  spans : ∃ directive ∈ d.directives, x.span = directive.name.span
    ∧ y.span.start = directive.span.start
  step : x.span.start = y.span.start + 4

/-- A directive has a problem of this kind exactly if it lacks an attribute. -/
theorem exists_mem_lackProblems_iff {directive : Directive} :
    (∃ x, x ∈ lackProblems schema d directive) ↔ Lacks schema directive := by
  unfold lackProblems Lacks
  cases schema.byName? directive.name.text with
  | none => simp
  | some rule =>
    simp only [Option.toList_some, List.flatMap_cons, List.flatMap_nil, List.append_nil,
      List.mem_map, List.mem_filter, Bool.and_eq_true, Bool.not_eq_true', Option.some.injEq,
      exists_eq_left']
    exact ⟨fun ⟨_, a, ⟨ha, hlacks⟩, _⟩ => ⟨a, ha, hlacks⟩,
      fun ⟨a, ha, hlacks⟩ => ⟨_, a, ⟨ha, hlacks⟩, rfl⟩⟩

/-- It has one of this kind exactly if it is ignored. -/
theorem exists_mem_effectProblems_iff {directive : Directive} :
    (∃ x, x ∈ effectProblems schema mode d directive)
      ↔ schema.kindOf? directive = some .assembly ∧ mode.preprocessed = true := by
  unfold effectProblems
  split <;> simp [*]

/-- A node has one of this kind exactly if the tail begins at its position. -/
theorem exists_mem_tailProblems_iff {i : Nat} {node : Node} :
    (∃ x, x ∈ tailProblems d i node) ↔ d.tail? = some i := by
  unfold tailProblems
  split <;> simp [*]

/-- That a directive lacks an attribute is out of turn with all that is shown from its start. -/
theorem outOfTurn_of_mem (hd : d.IsBuilt) {i : Nat} {directive : Directive}
    (hget : d.nodes[i]? = some (.directive directive)) {x y : Diagnostic}
    (hx : x ∈ lackProblems schema d directive)
    (hy : y ∈ effectProblems schema mode d directive ++ tailProblems d i (.directive directive)) :
    OutOfTurn d x y := by
  have hnode := List.mem_of_getElem? hget
  obtain ⟨hroom, -⟩ := (hd.writtenIn _ hnode).room
  obtain ⟨hxkind, hxspan⟩ := eq_of_mem_lackProblems hx
  have hy : (y.kind = .ignoredDirective ∨ y.kind = .contentAfterLastFeature)
      ∧ y.span.start = directive.span.start := by
    rcases List.mem_append.mp hy with hy | hy
    · obtain ⟨hkind, hspan⟩ := eq_of_mem_effectProblems hy
      exact ⟨Or.inl hkind, congrArg Span.start hspan⟩
    · exact ⟨Or.inr (eq_of_mem_tailProblems hy).1, start_of_mem_tailProblems hy⟩
  refine ⟨⟨hxkind, hy.1⟩, ⟨directive, ?_, hxspan, hy.2⟩, ?_⟩
  · exact List.mem_filterMap.mpr ⟨_, hnode, rfl⟩
  · rw [hxspan, hy.2, hroom]

/-- If the starts never go down, nothing is out of turn. -/
theorem not_mem_of_pairwise (hd : d.IsBuilt)
    (h : ((located schema mode d).map Prod.snd).Pairwise fun x y => x.span.start ≤ y.span.start)
    {i : Nat} {directive : Directive} (hget : d.nodes[i]? = some (.directive directive))
    (hlacks : Lacks schema directive) (y : Diagnostic) :
    y ∉ effectProblems schema mode d directive ++ tailProblems d i (.directive directive) := by
  intro hy
  obtain ⟨x, hx⟩ := exists_mem_lackProblems_iff (d := d).mpr hlacks
  rw [map_snd_located] at h
  have hnode := (List.pairwise_flatMap.mp h).1 _ (List.mk_mem_zipIdx_iff_getElem?.mpr hget)
  change (nodeProblems schema mode d i (.directive directive)).Pairwise _ at hnode
  rw [nodeProblems, List.append_assoc (lackProblems schema d directive)] at hnode
  have hle := (List.pairwise_append.mp (List.pairwise_append.mp hnode).1).2.2 x hx y hy
  have hstep := (outOfTurn_of_mem hd hget hx hy).step
  omega

/-- **The problems of a document that was built are in the order of the source, but for one pair.**
Each one starts no later than those behind it, unless it says that a directive lacks an attribute and
the other one is shown from the start of that directive, which is four bytes before its name. So the
starts of the problems never go down exactly if no directive that lacks an attribute is ignored or is
the first content behind the last feature block. -/
theorem validate_inOrder_iff (schema : Schema) (mode : Mode) {d : Document} (hd : d.IsBuilt) :
    ∃ problems, validate schema mode Stop.never d = .ok problems
      ∧ problems.Pairwise (fun x y => x.span.start ≤ y.span.start ∨ OutOfTurn d x y)
      ∧ (problems.Pairwise (fun x y => x.span.start ≤ y.span.start)
          ↔ ∀ i directive, d.nodes[i]? = some (.directive directive) → Lacks schema directive →
              ¬(schema.kindOf? directive = some .assembly ∧ mode.preprocessed = true)
                ∧ d.tail? ≠ some i) := by
  refine ⟨_, validate_eq_map_located schema mode d, ?_, ?_, ?_⟩
  · refine pairwise_located (fun _ _ => Or.inl) hd fun i directive hget x hx y hy => ?_
    exact Or.inr (outOfTurn_of_mem hd hget hx hy)
  · intro hpairwise i directive hget hlacks
    have hnone := not_mem_of_pairwise hd hpairwise hget hlacks
    refine ⟨fun hignored => ?_, fun htail => ?_⟩
    · obtain ⟨y, hy⟩ := exists_mem_effectProblems_iff (d := d).mpr hignored
      exact hnone y (List.mem_append_left _ hy)
    · obtain ⟨y, hy⟩ := exists_mem_tailProblems_iff.mpr htail
      exact hnone y (List.mem_append_right _ hy)
  · intro hnone
    refine pairwise_located (fun _ _ => id) hd fun i directive hget x hx y hy => ?_
    obtain ⟨hignored, htail⟩ := hnone i directive hget (exists_mem_lackProblems_iff.mp ⟨x, hx⟩)
    rcases List.mem_append.mp hy with hy | hy
    · exact absurd (exists_mem_effectProblems_iff.mp ⟨y, hy⟩) hignored
    · exact absurd (exists_mem_tailProblems_iff.mp ⟨y, hy⟩) htail

/-- A page with an import that does not say what, a statement between two feature blocks, some text
behind them, and a mark at the end. -/
def mixedPage : Builder :=
  ((((((Builder.new 0 "mixed.tt").directive "import" []).codeBlock .feature "int x;").codeBlock
    .statement "x++;").codeBlock .feature "int y;").text "tail").missing "#>"

theorem made_mixedPage : mixedPage.Made :=
  .missing _ (.text _ (.codeBlock _ _ (.codeBlock _ _ (.codeBlock _ _ (.directive _ _ (.new _ _))))))

/-- The import is the only directive of the page, and it is neither ignored nor in the tail. So the
four problems are in order, the last of which is shown under the last letter. -/
theorem validate_inOrder_iff_mixed :
    mixedPage.build.IsBuilt
      ∧ ∃ problems, validate .standard .designTime Stop.never mixedPage.build = .ok problems
        ∧ problems.map (·.span.start) = [4, 26, 49, 52]
        ∧ problems.Pairwise (fun x y => x.span.start ≤ y.span.start) := by
  have hbuilt : mixedPage.build.IsBuilt := ⟨mixedPage, made_mixedPage, rfl⟩
  have hstarts : (validate .standard .designTime Stop.never mixedPage.build).toOption.map
      (·.map (·.span.start)) = some [4, 26, 49, 52] := by
    decide +kernel
  have htail : mixedPage.build.tail? = some 4 := by decide +kernel
  obtain ⟨problems, hproblems, -, hinOrder⟩ := validate_inOrder_iff .standard .designTime hbuilt
  refine ⟨hbuilt, problems, hproblems, ?_, hinOrder.mpr fun i directive hget _ => ⟨nofun, ?_⟩⟩
  · rw [hproblems] at hstarts
    exact Option.some.inj hstarts
  · rw [htail]
    rintro ⟨⟩
    cases hget

/-- A page that asks for an assembly and does not say for which. -/
def bareAssembly : Builder := (Builder.new 0 "bare.tt").directive "assembly" []

theorem made_bareAssembly : bareAssembly.Made := .directive _ _ (.new _ _)

/-- **The starts of problems may go down.** If the page is preprocessed, it is first reported at the
name that an attribute is missing, and then from the start that the directive is ignored. -/
theorem validate_bareAssembly_outOfTurn :
    bareAssembly.build.IsBuilt
      ∧ ∃ problems, validate .standard (.preprocessedIn "App") Stop.never bareAssembly.build
          = .ok problems
        ∧ problems.map Diagnostic.span = [⟨4, 12⟩, ⟨0, 15⟩]
        ∧ ¬problems.Pairwise (fun x y => x.span.start ≤ y.span.start) := by
  have hspans : (validate .standard (.preprocessedIn "App") Stop.never
      bareAssembly.build).toOption.map (·.map Diagnostic.span) = some [⟨4, 12⟩, ⟨0, 15⟩] := by
    decide +kernel
  have hproblems := validate_eq_map_located .standard (.preprocessedIn "App") bareAssembly.build
  rw [hproblems] at hspans
  have hmap := Option.some.inj hspans
  refine ⟨⟨bareAssembly, made_bareAssembly, rfl⟩, _, hproblems, hmap, fun hpairwise => ?_⟩
  have hstarts : [(⟨4, 12⟩ : Span), ⟨0, 15⟩].Pairwise fun s t => s.start ≤ t.start := by
    rw [← hmap]
    exact List.pairwise_map.mpr hpairwise
  revert hstarts
  decide

end Validation

end TextTemplate
