import TextTemplate.Proofs.Traversal
import TextTemplate.Validation

/-!
# The problems of a document, node by node

A check of a document goes over its nodes once and remembers what it has met. What it finds can be
said without the memory: the problems of a node depend on the node, on its position, and on three
positions that the document as a whole determines, those of its first feature block, of its last one
and of the first node behind the last one that must not stand there.

`nodeProblems` says it so, and the last theorem is that a check finds just these problems, in the
order of the nodes. The memory of the check is recovered from the three positions: `Pass.before` is
what the check knows when it comes to a position and `Pass.inside` what it knows once it has entered
the node there. Entering a node takes the one to the other (`enter_before`), leaving it takes that to
what is known at the next position (`leave_inside`), and so a walk takes the check from the first
position to the last. The check is inside the last feature block only between the two, and no other
node is entered meanwhile: what it asks of this never holds.
-/

namespace TextTemplate

/-! ## Positions -/

section Increasing

variable {xs : List Nat}

/-- If the first number of an increasing list is not below a bound, none is. -/
theorem any_lt_head? (h : xs.Pairwise (· < ·)) (n : Nat) :
    xs.head?.any (· < n) = xs.any (· < n) := by
  cases xs with
  | nil => rfl
  | cons x xs =>
    have hx : ∀ y ∈ xs, x < y := fun y hy => List.rel_of_pairwise_cons h hy
    rw [Bool.eq_iff_iff]
    simp only [List.head?_cons, Option.any_some, List.any_cons, Bool.or_eq_true, List.any_eq_true,
      decide_eq_true_eq]
    constructor
    · exact Or.inl
    · rintro (hlt | ⟨y, hy, hlt⟩)
      · exact hlt
      · exact Nat.lt_trans (hx y hy) hlt

/-- The first number of an increasing list is the one that has none of the list below it. -/
theorem head?_eq_some_iff_any_lt (h : xs.Pairwise (· < ·)) (n : Nat) :
    xs.head? = some n ↔ n ∈ xs ∧ xs.any (· < n) = false := by
  rw [← any_lt_head? h]
  cases xs with
  | nil => simp
  | cons x xs =>
    have hx : ∀ y ∈ xs, x < y := fun y hy => List.rel_of_pairwise_cons h hy
    simp only [List.head?_cons, Option.some.injEq, Option.any_some, List.mem_cons,
      decide_eq_false_iff_not]
    constructor
    · rintro rfl
      exact ⟨Or.inl rfl, Nat.lt_irrefl x⟩
    · rintro ⟨rfl | hn, hle⟩
      · rfl
      · exact absurd (hx n hn) hle

end Increasing

/-- A position that is below the next number is below the number or is the number. -/
theorem any_lt_succ (position : Option Nat) (n : Nat) :
    position.any (· < n + 1) = (position.any (· < n) || position == some n) := by
  cases position with
  | none => rfl
  | some m =>
    rw [Bool.eq_iff_iff]
    simp only [Option.any_some, decide_eq_true_eq, Bool.or_eq_true, beq_iff_eq, Option.some.injEq]
    omega

namespace Node

/-- **What must not stand behind the last feature block**: all but blank text, included documents
and the marks of missing tokens. -/
def isContent : Node → Bool
  | .text token => !token.isBlank
  | .directive _ => true
  | .codeBlock _ => true
  | .included _ => false
  | .missing _ => false

/-- **The positions of the nodes that have a property.** -/
def positions (p : Node → Bool) (nodes : List Node) : List Nat :=
  (List.range nodes.length).filter fun i => nodes[i]?.any p

variable {p : Node → Bool} {nodes : List Node}

/-- The positions increase. -/
theorem pairwise_positions : (positions p nodes).Pairwise (· < ·) :=
  List.pairwise_lt_range.filter _

/-- A position is among them if its node has the property. -/
theorem mem_positions {node : Node} {i : Nat} (h : nodes[i]? = some node) :
    i ∈ positions p nodes ↔ p node = true := by
  obtain ⟨hi, -⟩ := List.getElem?_eq_some_iff.mp h
  rw [positions, List.mem_filter, List.mem_range, h, Option.any_some]
  exact and_iff_right hi

/-- The positions in a list with one more node in front. -/
theorem positions_cons (node : Node) :
    positions p (node :: nodes)
      = (if p node then [0] else []) ++ (positions p nodes).map (· + 1) := by
  unfold positions
  rw [List.length_cons, List.range_succ_eq_map, List.filter_cons, List.filter_map]
  show (if p node then 0 :: _ else _) = _
  cases p node with
  | false => rfl
  | true => rfl

/-- **The last feature block is that with the last position.** -/
theorem lastFeature?_eq_getLast? (nodes : List Node) :
    lastFeature? nodes = (positions isFeature nodes).getLast? := by
  induction nodes with
  | nil => rfl
  | cons node nodes ih =>
    rw [lastFeature?, ih, positions_cons, List.getLast?_append, List.getLast?_map]
    cases (positions isFeature nodes).getLast? with
    | some i => rfl
    | none => cases node.isFeature <;> rfl

end Node

namespace Document

/-- The position of the first feature block written in the document itself. -/
def firstFeature? (d : Document) : Option Nat := (Node.positions Node.isFeature d.nodes).head?

/-- The positions behind the last feature block of nodes that must not stand there. -/
def tailPositions (d : Document) : List Nat :=
  (Node.positions Node.isContent d.nodes).filter fun i =>
    (Node.positions Node.isFeature d.nodes).getLast?.any (· < i)

/-- **The position of the first node that must not stand behind the last feature block.** -/
def tail? (d : Document) : Option Nat := d.tailPositions.head?

end Document

/-! ## The problems without the pass -/

namespace Validation

/-- The problem of the node from which on a document must not go on. It covers the rest. -/
def tailProblems (d : Document) (position : Nat) (node : Node) : List Diagnostic :=
  if d.tail? = some position then
    [{ kind := .contentAfterLastFeature
       message := "only whitespace is allowed after the last class feature block"
       span := ⟨node.span.start, d.source.utf8ByteSize⟩
       fileId := d.fileId }]
  else []

/-- The problem of a statement that comes after a feature block. -/
def orderProblems (d : Document) (position : Nat) (block : CodeBlock) : List Diagnostic :=
  if block.kind = .statement ∧ d.firstFeature?.any (· < position) then
    [{ kind := .statementAfterFeature
       message := "statement blocks are not allowed after a class feature block"
       span := block.span
       fileId := d.fileId }]
  else []

/-- The problems of a directive that lacks attributes, one for each in the order of the schema. -/
def lackProblems (schema : Schema) (d : Document) (directive : Directive) : List Diagnostic :=
  (schema.byName? directive.name.text).toList.flatMap fun rule =>
    (rule.attributes.filter fun a => a.required && !directive.hasAttribute a.name).map fun a =>
      { kind := .missingRequiredAttribute
        message := "missing required attribute `" ++ a.name ++ "`"
        span := directive.name.span
        fileId := d.fileId
        fix := some (.addAttribute a.name) }

/-- The problem of a directive that has no effect. -/
def effectProblems (schema : Schema) (mode : Mode) (d : Document) (directive : Directive) :
    List Diagnostic :=
  if schema.kindOf? directive = some .assembly ∧ mode.preprocessed = true then
    [{ kind := .ignoredDirective
       message := "assembly directives are ignored in preprocessed templates"
       span := directive.span
       fileId := d.fileId
       fix := some .removeDirective }]
  else []

/-- The problem of the value of an attribute: that it could not be read, or else that the schema
knows the attribute and does not accept the value. -/
def attributeProblem? (schema : Schema) (d : Document) (directive : Directive) (a : Attribute) :
    Option Diagnostic :=
  match a.value, a.valueError with
  | none, _ => none
  | some value, some message =>
    some { kind := .invalidAttributeValue, message, span := value.span, fileId := d.fileId }
  | some value, none =>
    ((schema.attribute? directive.name.text a.name.text).filter fun rule =>
      !rule.isValid value.text).map fun rule =>
        { kind := .invalidAttributeValue
          message := "invalid attribute value"
          span := value.span
          fileId := d.fileId
          fix := some (.replaceValue rule.suggestions) }

/-- **The problems of the node at a position of a document.** -/
def nodeProblems (schema : Schema) (mode : Mode) (d : Document) (position : Nat) :
    Node → List Diagnostic
  | .missing marker =>
    [{ kind := .missingToken
       message := "missing `" ++ marker.expected ++ "`"
       span := missingTokenSpan d.source marker.span
       fileId := d.fileId }]
  | .codeBlock block => orderProblems d position block ++ tailProblems d position (.codeBlock block)
  | .directive directive =>
    lackProblems schema d directive ++ effectProblems schema mode d directive
      ++ tailProblems d position (.directive directive)
      ++ directive.attributes.filterMap (attributeProblem? schema d directive)
  | .text token => tailProblems d position (.text token)
  | .included part => tailProblems d position (.included part)

/-- What is found of a directive as a whole. -/
theorem directiveProblems_eq (schema : Schema) (mode : Mode) (d : Document) (directive : Directive) :
    directiveProblems schema mode.preprocessed d.fileId directive
      = lackProblems schema d directive ++ effectProblems schema mode d directive := by
  unfold directiveProblems lackProblems effectProblems Schema.kindOf?
  cases schema.byName? directive.name.text with
  | none => rfl
  | some rule =>
    simp only [DirectiveRule.requiredAttributes, List.filter_filter, Option.toList_some,
      List.flatMap_cons, List.flatMap_nil, List.append_nil, Option.map_some, Option.some.injEq,
      Bool.and_eq_true, beq_iff_eq, Bool.and_comm (AttributeRule.required _)]

/-- What is found of the values of a directive. -/
theorem valueProblems_eq (schema : Schema) (d : Document) (directive : Directive) :
    valueProblems schema d.fileId directive
      = directive.attributes.filterMap (attributeProblem? schema d directive) := by
  unfold valueProblems
  congr 1
  funext a
  unfold valueProblem? attributeProblem?
  cases a.value with
  | none => rfl
  | some value =>
    cases a.valueError with
    | some message => rfl
    | none =>
      cases schema.attribute? directive.name.text a.name.text with
      | none => rfl
      | some rule =>
        show (if rule.isValid value.text then none else _) = Option.map _ (Option.filter _ (some rule))
        rw [Option.filter_some]
        cases rule.isValid value.text with
        | true => rfl
        | false => rfl

/-! ## The memory of the pass -/

section Step

variable {schema : Schema} {mode : Mode} {d : Document} {node : Node} {i : Nat}

/-- The nodes up to a position have a feature block if those in front have one or its node is
one. -/
theorem firstFeature?_lt_succ (h : d.nodes[i]? = some node) :
    d.firstFeature?.any (· < i + 1) = (d.firstFeature?.any (· < i) || node.isFeature) := by
  rw [any_lt_succ]
  unfold Document.firstFeature?
  rw [any_lt_head? Node.pairwise_positions, Bool.eq_iff_iff]
  simp only [Bool.or_eq_true, beq_iff_eq, head?_eq_some_iff_any_lt Node.pairwise_positions,
    Node.mem_positions h]
  grind

/-- **Where the tail begins**: behind the last feature block, at the first node that must not stand
there. -/
theorem tail?_eq_some_iff (h : d.nodes[i]? = some node) :
    d.tail? = some i
      ↔ (d.lastFeature?.any (· < i) && !d.tail?.any (· < i) && node.isContent) = true := by
  have hpairwise : d.tailPositions.Pairwise (· < ·) := Node.pairwise_positions.filter _
  have hmem : i ∈ d.tailPositions ↔ node.isContent = true ∧ d.lastFeature?.any (· < i) = true := by
    unfold Document.tailPositions Document.lastFeature?
    rw [List.mem_filter, Node.mem_positions h, Node.lastFeature?_eq_getLast?]
  unfold Document.tail?
  rw [any_lt_head? hpairwise, head?_eq_some_iff_any_lt hpairwise, hmem]
  grind

/-- The last feature block is a feature block. -/
theorem isFeature_of_lastFeature? (h : d.nodes[i]? = some node) (hlast : d.lastFeature? = some i) :
    node.isFeature = true := by
  unfold Document.lastFeature? at hlast
  rw [Node.lastFeature?_eq_getLast?] at hlast
  exact (Node.mem_positions h).mp (List.mem_of_getLast? hlast)

namespace Pass

/-- **What the pass knows when it comes to a position**, with what it has found: which of the three
positions lie behind it. It is inside no node there. -/
def before (d : Document) (position : Nat) (found : List Diagnostic) : Pass where
  seenFeature := d.firstFeature?.any (· < position)
  seenLast := d.lastFeature?.any (· < position)
  insideLast := false
  tailReported := d.tail?.any (· < position)
  found := found

/-- **What the pass knows inside the node at a position**: what it knows at the next position, and
whether the node is the last feature block. -/
def inside (d : Document) (position : Nat) (found : List Diagnostic) : Pass :=
  { before d (position + 1) found with insideLast := d.lastFeature? == some position }

/-- The check of the tail reports a node that must not stand there. -/
theorem checkTail_eq_ite (p : Pass) (hmissing : ∀ marker, node ≠ .missing marker) :
    p.checkTail d node
      = if p.seenLast && !p.insideLast && !p.tailReported && node.isContent then
          { p.report [tailProblem d node] with tailReported := true }
        else p := by
  unfold checkTail
  by_cases hskip : (!p.seenLast || p.insideLast || p.tailReported) = true
  · have hnot : (p.seenLast && !p.insideLast && !p.tailReported && node.isContent) = false := by
      grind
    rw [if_pos hskip, hnot, if_neg Bool.false_ne_true]
  · have hcontent : (p.seenLast && !p.insideLast && !p.tailReported && node.isContent)
        = node.isContent := by
      grind
    rw [if_neg hskip, hcontent]
    cases node with
    | missing marker => exact absurd rfl (hmissing marker)
    | text token =>
      show (if token.isBlank then _ else _) = if !token.isBlank then _ else _
      cases token.isBlank <;> rfl
    | _ => rfl

/-- **The check of the tail** reports the node from which on the document must not go on, whatever
is known of feature blocks in front. -/
theorem checkTail_eq {p : Pass} (h : d.nodes[i]? = some node)
    (hmissing : ∀ marker, node ≠ .missing marker)
    (hlast : p.seenLast = d.lastFeature?.any (· < i)) (hinside : p.insideLast = false)
    (hreported : p.tailReported = d.tail?.any (· < i)) :
    p.checkTail d node
      = { p with
          tailReported := d.tail?.any (· < i + 1), found := p.found ++ tailProblems d i node } := by
  obtain ⟨seen, last, inside, reported, found⟩ := p
  subst hlast hinside hreported
  rw [checkTail_eq_ite _ hmissing, any_lt_succ, tailProblems]
  dsimp only
  rw [Bool.not_false, Bool.and_true]
  -- the condition of the check says that the tail begins at this position
  by_cases htail : d.tail? = some i
  · rw [if_pos ((tail?_eq_some_iff h).mp htail), if_pos htail, htail, beq_self_eq_true, Bool.or_true]
    rfl
  · rw [if_neg fun hcontent => htail ((tail?_eq_some_iff h).mpr hcontent), if_neg htail,
      beq_eq_false_iff_ne.mpr htail, Bool.or_false, List.append_nil]

/-- A node that is no feature block changes nothing but the state of the tail. -/
theorem inside_of_not_feature (h : d.nodes[i]? = some node) (hnode : node.isFeature = false)
    (found : List Diagnostic) :
    inside d i found = { before d i found with tailReported := d.tail?.any (· < i + 1) } := by
  have hlast : d.lastFeature? ≠ some i := by
    intro hlast
    rw [isFeature_of_lastFeature? h hlast] at hnode
    cases hnode
  unfold inside before
  rw [firstFeature?_lt_succ h, hnode, Bool.or_false, any_lt_succ d.lastFeature?,
    beq_eq_false_iff_ne.mpr hlast, Bool.or_false]

/-- A statement block is reported if it comes after a feature block. -/
theorem report_statement_before {block : CodeBlock} (hkind : block.kind = .statement)
    (found : List Diagnostic) :
    (if (before d i found).seenFeature then (before d i found).report [statementProblem d.fileId block]
      else before d i found)
      = before d i (found ++ orderProblems d i block) := by
  unfold orderProblems
  by_cases hseen : (before d i found).seenFeature = true
  · rw [if_pos hseen, if_pos ⟨hkind, hseen⟩]
    rfl
  · rw [if_neg hseen, if_neg fun hboth => hseen hboth.2, List.append_nil]

/-- A block that is no statement has no problem with the blocks in front. -/
theorem orderProblems_eq_nil {block : CodeBlock} (hkind : block.kind ≠ .statement) :
    orderProblems d i block = [] :=
  if_neg fun hboth => hkind hboth.1

/-- **A feature block** is remembered. If it is the last one, so is that, and there is no tail yet.
-/
theorem enter_feature_before {block : CodeBlock} (h : d.nodes[i]? = some (.codeBlock block))
    (hkind : block.kind = .feature) (found : List Diagnostic) :
    (if d.lastFeature? == some i then
        { before d i found with seenFeature := true, seenLast := true, insideLast := true }
      else checkTail d (.codeBlock block) { before d i found with seenFeature := true })
      = inside d i (found ++ tailProblems d i (.codeBlock block)) := by
  have hfeature : (Node.codeBlock block).isFeature = true := by
    rw [Node.isFeature, hkind]
    rfl
  have hfirst : d.firstFeature?.any (· < i + 1) = true := by
    rw [firstFeature?_lt_succ h, hfeature, Bool.or_true]
  by_cases hlast : d.lastFeature? = some i
  -- the tail lies behind the last feature block, so it cannot begin at the block itself
  · have htail : d.tail? ≠ some i := by
      rw [Ne, tail?_eq_some_iff h, hlast, Option.any_some, decide_eq_false (Nat.lt_irrefl i)]
      exact Bool.false_ne_true
    rw [if_pos (beq_iff_eq.mpr hlast), tailProblems, if_neg htail, List.append_nil, inside, before,
      before, hfirst, any_lt_succ d.lastFeature?, any_lt_succ d.tail?, beq_iff_eq.mpr hlast,
      Bool.or_true, beq_eq_false_iff_ne.mpr htail, Bool.or_false]
  · rw [if_neg fun hbeq => hlast (beq_iff_eq.mp hbeq), checkTail_eq h nofun rfl rfl rfl, inside,
      before, before, hfirst, any_lt_succ d.lastFeature?, beq_eq_false_iff_ne.mpr hlast,
      Bool.or_false]

/-- **To enter a node** takes the pass inside it, with the problems of the node. -/
theorem enter_before (h : d.nodes[i]? = some node) (found : List Diagnostic) :
    enter schema mode.preprocessed d node i (before d i found)
      = inside d i (found ++ nodeProblems schema mode d i node) := by
  cases node with
  | missing marker =>
    -- such a mark is never content, so the tail does not begin at it
    have htail : d.tail? ≠ some i := by
      rw [Ne, tail?_eq_some_iff h, Node.isContent, Bool.and_false]
      exact Bool.false_ne_true
    rw [inside_of_not_feature h rfl, any_lt_succ, beq_eq_false_iff_ne.mpr htail, Bool.or_false]
    rfl
  | directive directive =>
    unfold enter
    dsimp only
    rw [checkTail_eq h nofun rfl rfl rfl, inside_of_not_feature h rfl, directiveProblems_eq,
      valueProblems_eq]
    simp only [report, before, nodeProblems, List.append_assoc]
  | codeBlock block =>
    unfold enter nodeProblems
    dsimp only
    cases hkind : block.kind with
    | statement =>
      have hfeature : (Node.codeBlock block).isFeature = false := by
        rw [Node.isFeature, hkind]
        rfl
      dsimp only
      rw [report_statement_before hkind, inside_of_not_feature h hfeature,
        checkTail_eq h nofun rfl rfl rfl, ← List.append_assoc]
      rfl
    | expression =>
      have hfeature : (Node.codeBlock block).isFeature = false := by
        rw [Node.isFeature, hkind]
        rfl
      dsimp only
      rw [orderProblems_eq_nil (by rw [hkind]; nofun), inside_of_not_feature h hfeature,
        checkTail_eq h nofun rfl rfl rfl]
      rfl
    | feature =>
      rw [orderProblems_eq_nil (by rw [hkind]; nofun)]
      exact enter_feature_before h hkind found
  | text token =>
    rw [inside_of_not_feature h rfl]
    exact checkTail_eq h nofun rfl rfl rfl
  | included part =>
    rw [inside_of_not_feature h rfl]
    exact checkTail_eq h nofun rfl rfl rfl

/-- **To leave a node** takes the pass to the next position, whatever the node is. -/
theorem leave_inside (found : List Diagnostic) :
    leave d node i (inside d i found) = before d (i + 1) found := by
  unfold leave inside
  cases d.lastFeature? == some i with
  | true => rfl
  | false => rfl

/-- **A walk over the rest of the nodes** finds the problems of each of them, in order. -/
theorem foldl_visit_before (front nodes : List Node) (hnodes : d.nodes = front ++ nodes)
    (found : List Diagnostic) :
    (nodes.zipIdx front.length).foldl
        (fun p x => leave d x.1 x.2 (enter schema mode.preprocessed d x.1 x.2 p))
        (before d front.length found)
      = before d (front.length + nodes.length) (found ++ (nodes.zipIdx front.length).flatMap fun x =>
          nodeProblems schema mode d x.2 x.1) := by
  induction nodes generalizing front found with
  | nil =>
    rw [List.zipIdx_nil, List.flatMap_nil, List.append_nil]
    rfl
  | cons node nodes ih =>
    have hnode : d.nodes[front.length]? = some node := by
      rw [hnodes, List.getElem?_append_right (Nat.le_refl _), Nat.sub_self]
      rfl
    -- the node joins the nodes in front, whose number is the next position
    have hfront : front.length + 1 = (front ++ [node]).length := by
      rw [List.length_append, List.length_singleton]
    rw [List.zipIdx_cons, List.foldl_cons, enter_before hnode, leave_inside, List.flatMap_cons,
      hfront, ih (front ++ [node]) (by rw [hnodes, List.append_assoc]; rfl), List.append_assoc,
      List.length_cons, ← hfront, Nat.add_assoc, Nat.add_comm 1]

end Pass

end Step

/-- **A check finds the problems of the nodes, one node after another**, and each is found by
looking at the node, its position, and the positions of the first feature block, of the last one and
of the start of the tail. -/
theorem validate_eq_flatMap_nodeProblems (schema : Schema) (mode : Mode) (d : Document) :
    validate schema mode Stop.never d
      = .ok (d.nodes.zipIdx.flatMap fun x => nodeProblems schema mode d x.2 x.1) := by
  have hstart : ({} : Pass) = Pass.before d 0 [] := by
    simp [Pass.before]
  have hpass : d.pass (visitor schema mode.preprocessed d) Stop.never {}
      = .ok (Pass.before d d.nodes.length
          (d.nodes.zipIdx.flatMap fun x => nodeProblems schema mode d x.2 x.1)) := by
    unfold Document.pass Document.walk
    show Except.mapError _ ((·.2) <$> Node.walkAll _ (fun _ _ => false) _ _ _) = _
    rw [Node.walkAll_of_not_descends _ rfl, hstart]
    show Except.ok _ = _
    refine congrArg Except.ok ?_
    refine (Pass.foldl_visit_before [] d.nodes rfl []).trans ?_
    rw [List.nil_append, List.length_nil, Nat.zero_add]
  unfold validate
  rw [hpass]
  rfl

end Validation

end TextTemplate
