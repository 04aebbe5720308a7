import TextTemplate.Proofs.ProblemSpans

/-!
# What a fix takes away

A problem may come with a fix, and two kinds of fixes are edits of one directive: an attribute is
written behind the others, or the text of a value is replaced. Each takes away what it was offered
for and nothing else. Other problems could come or go in three ways. A schema may require an
attribute twice, in two spellings, and then one new attribute answers for both. The new attribute or
the new value is itself checked. And the order of the blocks and the start of the tail belong to the
document as a whole.

The last is settled first: an edited directive is still a directive, so the problems of a document
with another directive at a position are the old ones in front and behind, with those of the
directive between them (`exists_located_withDirective`). What remains is about one directive.
-/

namespace TextTemplate

open Text

/-! ## The edits -/

/-- The directive with one more attribute, behind the others. -/
def Directive.withAttribute (a : Attribute) (directive : Directive) : Directive :=
  { directive with attributes := directive.attributes ++ [a] }

/-- The attribute with another text for its value, if it has one. -/
def Attribute.withValueText (text : String) (a : Attribute) : Attribute :=
  { a with value := a.value.map fun value => { value with text } }

/-- The directive with another text for the value of the attribute at an index. -/
def Directive.withValueText (index : Nat) (text : String) (directive : Directive) : Directive :=
  { directive with attributes := directive.attributes.modify index (Attribute.withValueText text) }

/-- **The document with another directive at a position**, and the same source. -/
def Document.withDirective (position : Nat) (directive : Directive) (d : Document) : Document :=
  { d with nodes := d.nodes.set position (.directive directive) }

/-- **An attribute that has no problem of its own**: it has no value, or one that was read and that
the schema accepts, as far as the schema knows the attribute. -/
def Attribute.AcceptedBy (schema : Schema) (directiveName : String) (a : Attribute) : Prop :=
  ∀ value, a.value = some value → a.valueError = none
    ∧ ∀ rule, schema.attribute? directiveName a.name.text = some rule →
        rule.isValid value.text = true

/-- Whether a fix is to add an attribute of the name, in any spelling. -/
def QuickFix.adds (name : String) : QuickFix → Bool
  | .addAttribute other => sameName other name
  | _ => false

/-- **Whether a problem is that an attribute of the name is missing**, in any spelling. -/
def Diagnostic.asksFor (name : String) (x : Diagnostic) : Bool :=
  x.kind == .missingRequiredAttribute && x.fix.any (QuickFix.adds name)

/-- A problem of another kind does not ask for an attribute. -/
theorem Diagnostic.asksFor_of_kind_ne {x : Diagnostic} (h : x.kind ≠ .missingRequiredAttribute)
    (name : String) : x.asksFor name = false := by
  rw [asksFor, beq_eq_false_iff_ne.mpr h, Bool.false_and]

/-! ## Another directive at a position -/

/-- An element put where it stands changes nothing. -/
theorem set_eq_self {α : Type} {xs : List α} {x : α} {i : Nat} (h : xs[i]? = some x) :
    xs.set i x = xs := by
  obtain ⟨hlt, rfl⟩ := List.getElem?_eq_some_iff.mp h
  exact List.set_getElem_self hlt

/-- The positions of a property depend on nothing but which nodes have it. -/
theorem Node.positions_congr {p : Node → Bool} {nodes others : List Node}
    (h : nodes.map p = others.map p) : positions p nodes = positions p others := by
  have hlength : nodes.length = others.length := by
    rw [← List.length_map (f := p), h, List.length_map]
  have hany : ∀ i : Nat, nodes[i]?.any p = others[i]?.any p := by
    intro i
    have hi : nodes[i]?.map p = others[i]?.map p := by
      rw [← List.getElem?_map, h, List.getElem?_map]
    have hmap : ∀ node : Option Node, node.any p = (node.map p).any id := by
      intro node
      rw [Option.any_map]
      rfl
    rw [hmap, hi, ← hmap]
  unfold positions
  simp only [hlength, hany]

namespace Document

variable {d : Document} {position : Nat} {directive : Directive}

/-- A property that does not tell directives apart has the positions it had. -/
theorem positions_withDirective (h : d.nodes[position]? = some (.directive directive))
    {p : Node → Bool} (hp : ∀ a b, p (.directive a) = p (.directive b)) (other : Directive) :
    Node.positions p (d.withDirective position other).nodes = Node.positions p d.nodes := by
  have hother : (d.nodes.map p)[position]? = some (p (.directive other)) := by
    rw [List.getElem?_map, h, Option.map_some, hp directive other]
  refine Node.positions_congr ?_
  show (d.nodes.set position (.directive other)).map p = _
  rw [List.map_set, set_eq_self hother]

/-- The document with the directive that it has. -/
theorem withDirective_self (h : d.nodes[position]? = some (.directive directive)) :
    d.withDirective position directive = d := by
  obtain ⟨fileId, path, source, nodes⟩ := d
  exact congrArg (Document.mk fileId path source) (set_eq_self h)

end Document

namespace Validation

variable {schema : Schema} {mode : Mode} {d : Document} {i : Nat} {directive : Directive}

/-- **A node has the problems it had** when another directive stands at some position. -/
theorem locatedAt_withDirective (h : d.nodes[i]? = some (.directive directive)) (other : Directive)
    (position : Nat) (node : Node) :
    locatedAt schema mode (d.withDirective i other) position node
      = locatedAt schema mode d position node := by
  have hfeature := Document.positions_withDirective h (p := Node.isFeature) (fun _ _ => rfl) other
  have hcontent := Document.positions_withDirective h (p := Node.isContent) (fun _ _ => rfl) other
  have hfirst : (d.withDirective i other).firstFeature? = d.firstFeature? := by
    unfold Document.firstFeature?
    rw [hfeature]
  have htail : (d.withDirective i other).tail? = d.tail? := by
    unfold Document.tail? Document.tailPositions
    rw [hfeature, hcontent]
  have htails : tailProblems (d.withDirective i other) position node
      = tailProblems d position node := by
    unfold tailProblems
    rw [htail]
    rfl
  cases node with
  | directive part =>
    have hwhole : wholeProblems schema mode (d.withDirective i other) position part
        = wholeProblems schema mode d position part :=
      congrArg (lackProblems schema d part ++ effectProblems schema mode d part ++ ·) htails
    exact congrArg (List.map _ · ++ _) hwhole
  | codeBlock block =>
    have horder : orderProblems (d.withDirective i other) position block
        = orderProblems d position block := by
      unfold orderProblems
      rw [hfirst]
      rfl
    show List.map _ (orderProblems _ _ _ ++ tailProblems _ _ _) = _
    rw [horder, htails]
    rfl
  | missing marker => rfl
  | text token => exact congrArg (List.map _) htails
  | included part => exact congrArg (List.map _) htails

/-- The problems of a node are at its position. -/
theorem position_of_mem_locatedAt {node : Node} {y : Place × Diagnostic}
    (h : y ∈ locatedAt schema mode d i node) : y.1.position = i := by
  have hplain : ∀ problems : List Diagnostic,
      y ∈ problems.map ((⟨i, none⟩ : Place), ·) → y.1.position = i := by
    intro problems hy
    obtain ⟨x, -, rfl⟩ := List.mem_map.mp hy
    rfl
  cases node with
  | directive directive =>
    rcases List.mem_append.mp h with hy | hy
    · exact hplain _ hy
    · obtain ⟨z, -, hz⟩ := List.mem_filterMap.mp hy
      obtain ⟨x, -, rfl⟩ := Option.map_eq_some_iff.mp hz
      rfl
  | _ => exact hplain _ h

/-- **The problems of a document with another directive at a position**: those of the nodes in front
and behind are the same for all directives. -/
theorem exists_located_withDirective (schema : Schema) (mode : Mode)
    (h : d.nodes[i]? = some (.directive directive)) :
    ∃ before after : List (Place × Diagnostic),
      (∀ y ∈ before ++ after, y.1.position ≠ i)
      ∧ located schema mode d
          = before ++ locatedAt schema mode d i (.directive directive) ++ after
      ∧ ∀ other, located schema mode (d.withDirective i other)
          = before ++ locatedAt schema mode d i (.directive other) ++ after := by
  obtain ⟨hlt, -⟩ := List.getElem?_eq_some_iff.mp h
  have hsplit : ∀ other, located schema mode (d.withDirective i other)
      = ((d.nodes.take i).zipIdx.flatMap fun x => locatedAt schema mode d x.2 x.1)
        ++ locatedAt schema mode d i (.directive other)
        ++ ((d.nodes.drop (i + 1)).zipIdx (i + 1)).flatMap fun x =>
            locatedAt schema mode d x.2 x.1 := by
    intro other
    have htake : (d.nodes.take i).length = i := by
      rw [List.length_take, Nat.min_eq_left (Nat.le_of_lt hlt)]
    unfold located
    simp only [locatedAt_withDirective h]
    rw [Document.withDirective, List.set_eq_take_append_cons_drop, if_pos hlt, List.zipIdx_append,
      List.zipIdx_cons, List.flatMap_append, List.flatMap_cons, htake, Nat.zero_add, List.append_assoc]
  have hold := hsplit directive
  rw [Document.withDirective_self h] at hold
  refine ⟨_, _, ?_, hold, hsplit⟩
  intro y hy
  rcases List.mem_append.mp hy with hy | hy
  · obtain ⟨⟨node, k⟩, hnode, hy⟩ := List.mem_flatMap.mp hy
    have hk := (List.mem_zipIdx hnode).2.1
    rw [List.length_take] at hk
    rw [position_of_mem_locatedAt hy]
    omega
  · obtain ⟨⟨node, k⟩, hnode, hy⟩ := List.mem_flatMap.mp hy
    have hk := (List.mem_zipIdx hnode).1
    rw [position_of_mem_locatedAt hy]
    omega

/-! ## Which problems have which fix -/

/-- An attribute that is accepted has no problem. -/
theorem attributeProblem?_of_acceptedBy {a : Attribute}
    (h : a.AcceptedBy schema directive.name.text) : attributeProblem? schema d directive a = none := by
  unfold attributeProblem?
  cases hvalue : a.value with
  | none => rfl
  | some value =>
    obtain ⟨herror, hvalid⟩ := h value hvalue
    rw [herror]
    refine Option.map_eq_none_iff.mpr (Option.filter_eq_none_iff.mpr fun rule hrule => ?_)
    rw [hvalid rule hrule]
    exact Bool.false_ne_true

/-- A value for which others are offered was read, and the schema has a rule for it. -/
theorem exists_rule_of_replaceValue {a : Attribute} {x : Diagnostic} {suggestions : List String}
    (h : attributeProblem? schema d directive a = some x)
    (hfix : x.fix = some (.replaceValue suggestions)) :
    a.valueError = none ∧ ∃ rule, schema.attribute? directive.name.text a.name.text = some rule
      ∧ suggestions = rule.suggestions := by
  unfold attributeProblem? at h
  split at h
  · cases h
  · cases h
    cases hfix
  · rename_i herror
    obtain ⟨rule, hrule, rfl⟩ := Option.map_eq_some_iff.mp h
    cases hfix
    exact ⟨herror, rule, (Option.filter_eq_some_iff.mp hrule).1, rfl⟩

/-- **The fixes of the problems of a node.** Those that are edits come with what a directive lacks
and with the values of its attributes. -/
theorem fix_cases {node : Node} {y : Place × Diagnostic} (h : y ∈ locatedAt schema mode d i node) :
    y.2.fix = none ∨ y.2.fix = some .removeDirective
      ∨ (∃ directive, node = .directive directive ∧ y.1 = ⟨i, none⟩
          ∧ y.2 ∈ lackProblems schema d directive)
      ∨ ∃ directive index a, node = .directive directive ∧ y.1 = ⟨i, some index⟩
          ∧ directive.attributes[index]? = some a
          ∧ attributeProblem? schema d directive a = some y.2 := by
  have htails : ∀ {node : Node} {x : Diagnostic}, x ∈ tailProblems d i node → x.fix = none := by
    intro node x hx
    unfold tailProblems at hx
    split at hx
    · rw [List.mem_singleton.mp hx]
    · cases hx
  cases node with
  | directive directive =>
    rcases List.mem_append.mp h with hy | hy
    · obtain ⟨x, hx, rfl⟩ := List.mem_map.mp hy
      simp only [wholeProblems, List.mem_append] at hx
      obtain (hx | hx) | hx := hx
      · exact .inr (.inr (.inl ⟨directive, rfl, rfl, hx⟩))
      · unfold effectProblems at hx
        split at hx
        · rw [List.mem_singleton.mp hx]
          exact .inr (.inl rfl)
        · cases hx
      · exact .inl (htails hx)
    · obtain ⟨⟨a, index⟩, ha, hz⟩ := List.mem_filterMap.mp hy
      obtain ⟨x, hx, rfl⟩ := Option.map_eq_some_iff.mp hz
      exact .inr (.inr (.inr
        ⟨directive, index, a, rfl, rfl, List.mk_mem_zipIdx_iff_getElem?.mp ha, hx⟩))
  | codeBlock block =>
    obtain ⟨x, hx, rfl⟩ := List.mem_map.mp h
    rcases List.mem_append.mp hx with hx | hx
    · unfold orderProblems at hx
      split at hx
      · rw [List.mem_singleton.mp hx]
        exact .inl rfl
      · cases hx
    · exact .inl (htails hx)
  | missing marker =>
    obtain ⟨x, hx, rfl⟩ := List.mem_map.mp h
    rw [List.mem_singleton.mp hx]
    exact .inl rfl
  | text token =>
    obtain ⟨x, hx, rfl⟩ := List.mem_map.mp h
    exact .inl (htails hx)
  | included part =>
    obtain ⟨x, hx, rfl⟩ := List.mem_map.mp h
    exact .inl (htails hx)

/-- An attribute is offered where a directive lacks one. -/
theorem exists_directive_of_addAttribute {node : Node} {y : Place × Diagnostic} {name : String}
    (h : y ∈ locatedAt schema mode d i node) (hfix : y.2.fix = some (.addAttribute name)) :
    (∃ directive, node = .directive directive) ∧ y.1 = ⟨i, none⟩ ∧ y.2.asksFor name = true := by
  obtain ⟨place, x⟩ := y
  rcases fix_cases h with hnone | hremove | ⟨directive, hnode, hplace, hlack⟩
    | ⟨directive, _, a, -, -, -, hvalue⟩
  · rw [hnone] at hfix
    cases hfix
  · rw [hremove] at hfix
    cases hfix
  · refine ⟨⟨directive, hnode⟩, hplace, ?_⟩
    rw [Diagnostic.asksFor, (eq_of_mem_lackProblems hlack).1, hfix, Option.any_some, QuickFix.adds,
      sameName, beq_self_eq_true, beq_self_eq_true, Bool.and_true]
  · unfold attributeProblem? at hvalue
    split at hvalue
    · cases hvalue
    · cases hvalue
      cases hfix
    · obtain ⟨rule, -, rfl⟩ := Option.map_eq_some_iff.mp hvalue
      cases hfix

/-- Values are offered for the value of an attribute. -/
theorem exists_attribute_of_replaceValue {node : Node} {y : Place × Diagnostic}
    {suggestions : List String} (h : y ∈ locatedAt schema mode d i node)
    (hfix : y.2.fix = some (.replaceValue suggestions)) :
    ∃ directive index a, node = .directive directive ∧ y.1 = ⟨i, some index⟩
      ∧ directive.attributes[index]? = some a
      ∧ attributeProblem? schema d directive a = some y.2 := by
  obtain ⟨place, x⟩ := y
  rcases fix_cases h with hnone | hremove | ⟨directive, -, -, hlack⟩ | hvalue
  · rw [hnone] at hfix
    cases hfix
  · rw [hremove] at hfix
    cases hfix
  · obtain ⟨rule, -, hx⟩ := List.mem_flatMap.mp hlack
    obtain ⟨a, -, rfl⟩ := List.mem_map.mp hx
    cases hfix
  · exact hvalue

/-! ## One more attribute -/

/-- A directive has an attribute if one of its attributes has the name. -/
theorem hasAttribute_eq_any (directive : Directive) (name : String) :
    directive.hasAttribute name = directive.attributes.any fun a => sameName a.name.text name :=
  List.isSome_find?

/-- **One more attribute answers for all spellings of its name**, and for nothing else. -/
theorem lackProblems_withAttribute {a : Attribute} {name : String}
    (h : sameName a.name.text name = true) :
    lackProblems schema d (directive.withAttribute a)
      = (lackProblems schema d directive).filter fun x => !x.asksFor name := by
  have hhas : ∀ other, (directive.withAttribute a).hasAttribute other
      = (directive.hasAttribute other || sameName other name) := by
    intro other
    rw [hasAttribute_eq_any, hasAttribute_eq_any, Directive.withAttribute, List.any_append,
      List.any_cons, List.any_nil, Bool.or_false, sameName, eq_of_beq h, Bool.beq_comm]
    rfl
  unfold lackProblems
  rw [List.filter_flatMap]
  refine congrArg (List.flatMap · _) (funext fun rule => ?_)
  rw [List.filter_map, List.filter_filter]
  refine congrArg (List.map _) (List.filter_congr fun r _ => ?_)
  show (r.required && !(directive.withAttribute a).hasAttribute r.name)
    = (!sameName r.name name && (r.required && !directive.hasAttribute r.name))
  rw [hhas, Bool.not_or, ← Bool.and_assoc, Bool.and_comm]

/-- No other problem of a directive as a whole asks for an attribute. -/
theorem wholeProblems_withAttribute {a : Attribute} {name : String}
    (h : sameName a.name.text name = true) :
    wholeProblems schema mode d i (directive.withAttribute a)
      = (wholeProblems schema mode d i directive).filter fun x => !x.asksFor name := by
  have hkeep : ∀ x ∈ effectProblems schema mode d directive
      ++ tailProblems d i (.directive directive), (!x.asksFor name) = true := by
    intro x hx
    have hkind : x.kind ≠ .missingRequiredAttribute := by
      rcases List.mem_append.mp hx with hx | hx
      · rw [(eq_of_mem_effectProblems hx).1]
        nofun
      · rw [(eq_of_mem_tailProblems hx).1]
        nofun
    rw [Diagnostic.asksFor_of_kind_ne hkind]
    rfl
  unfold wholeProblems
  rw [List.append_assoc, List.append_assoc, List.filter_append, List.filter_eq_self.mpr hkeep,
    ← lackProblems_withAttribute h]
  rfl

/-- **The problems of a directive with one more attribute** are those it had, but for the lack of
the attribute. -/
theorem locatedAt_withAttribute {a : Attribute} {name : String}
    (h : sameName a.name.text name = true) (haccepted : a.AcceptedBy schema directive.name.text) :
    locatedAt schema mode d i (.directive (directive.withAttribute a))
      = (locatedAt schema mode d i (.directive directive)).filter fun y =>
          !(y.1.position == i && y.2.asksFor name) := by
  have hvalues : (directive.attributes.zipIdx.filterMap (attributeAt? schema d i directive)).filter
        (fun y => !(y.1.position == i && y.2.asksFor name))
      = directive.attributes.zipIdx.filterMap (attributeAt? schema d i directive) := by
    refine List.filter_eq_self.mpr fun y hy => ?_
    obtain ⟨z, -, hz⟩ := List.mem_filterMap.mp hy
    obtain ⟨x, hx, rfl⟩ := Option.map_eq_some_iff.mp hz
    rw [Diagnostic.asksFor_of_kind_ne (by rw [(exists_of_attributeProblem?_eq hx).1]; nofun),
      Bool.and_false]
    rfl
  have hlast : attributeAt? schema d i directive (a, directive.attributes.length) = none :=
    Option.map_eq_none_iff.mpr (attributeProblem?_of_acceptedBy haccepted)
  have hattributes : (directive.withAttribute a).attributes.zipIdx.filterMap
        (attributeAt? schema d i (directive.withAttribute a))
      = directive.attributes.zipIdx.filterMap (attributeAt? schema d i directive) := by
    show (directive.attributes ++ [a]).zipIdx.filterMap (attributeAt? schema d i directive) = _
    rw [List.zipIdx_append, List.filterMap_append, List.zipIdx_singleton, Nat.zero_add,
      List.filterMap_cons_none hlast, List.filterMap_nil, List.append_nil]
  unfold locatedAt
  dsimp only
  rw [List.filter_append, hvalues, hattributes, wholeProblems_withAttribute h, List.filter_map]
  refine congrArg (List.map _ · ++ _) (List.filter_congr fun x _ => ?_)
  show (!x.asksFor name) = !((i == i) && x.asksFor name)
  rw [beq_self_eq_true, Bool.true_and]

/-- **The problems of a document with one more attribute in a directive.** -/
theorem located_withAttribute (h : d.nodes[i]? = some (.directive directive)) {a : Attribute}
    {name : String} (hname : sameName a.name.text name = true)
    (haccepted : a.AcceptedBy schema directive.name.text) :
    located schema mode (d.withDirective i (directive.withAttribute a))
      = (located schema mode d).filter fun y => !(y.1.position == i && y.2.asksFor name) := by
  obtain ⟨before, after, hother, hold, hnew⟩ := exists_located_withDirective schema mode h
  have hkeep : ∀ ys ⊆ before ++ after,
      ys.filter (fun y => !(y.1.position == i && y.2.asksFor name)) = ys := by
    intro ys hys
    refine List.filter_eq_self.mpr fun y hy => ?_
    rw [beq_eq_false_iff_ne.mpr (hother y (hys hy)), Bool.false_and]
    rfl
  rw [hnew, hold, List.filter_append, List.filter_append, hkeep before (List.subset_append_left _ _),
    hkeep after (List.subset_append_right _ _), locatedAt_withAttribute hname haccepted]

/-! ## Another value -/

/-- What is offered is accepted, unless it has blanks around it. -/
theorem isValid_of_mem_suggestions {rule : AttributeRule} {text : String}
    (h : text ∈ rule.suggestions) (htrim : trim text = text) : rule.isValid text = true := by
  unfold AttributeRule.suggestions at h
  unfold AttributeRule.isValid
  cases hrule : rule.rule with
  | any => rfl
  | oneOf values =>
    rw [hrule] at h
    refine List.any_eq_true.mpr ⟨text, h, ?_⟩
    rw [htrim, sameName, beq_self_eq_true]

/-- **A value that was offered in place of another one has no problem.** -/
theorem acceptedBy_withValueText {a : Attribute} {x : Diagnostic} {suggestions : List String}
    {text : String} (h : attributeProblem? schema d directive a = some x)
    (hfix : x.fix = some (.replaceValue suggestions)) (htext : text ∈ suggestions)
    (htrim : trim text = text) : (a.withValueText text).AcceptedBy schema directive.name.text := by
  obtain ⟨herror, rule, hrule, rfl⟩ := exists_rule_of_replaceValue h hfix
  intro value hvalue
  obtain ⟨old, -, rfl⟩ := Option.map_eq_some_iff.mp hvalue
  refine ⟨herror, fun other hother => ?_⟩
  obtain rfl : rule = other := Option.some.inj (hrule.symm.trans hother)
  exact isValid_of_mem_suggestions htext htrim

/-- **The problems of a directive with another value** are those it had, but for that of the
value. -/
theorem exists_locatedAt_withValueText (mode : Mode) {index : Nat} {a : Attribute} {x : Diagnostic}
    {text : String} (ha : directive.attributes[index]? = some a)
    (hx : attributeProblem? schema d directive a = some x)
    (haccepted : (a.withValueText text).AcceptedBy schema directive.name.text) :
    ∃ before after : List (Place × Diagnostic),
      locatedAt schema mode d i (.directive directive) = before ++ (⟨i, some index⟩, x) :: after
      ∧ (∀ y ∈ before ++ after, y.1 ≠ ⟨i, some index⟩)
      ∧ locatedAt schema mode d i (.directive (directive.withValueText index text))
          = before ++ after := by
  obtain ⟨front, b, back, hattributes, hfront, hmodify⟩ :=
    List.exists_of_modify (Attribute.withValueText text) (List.getElem?_eq_some_iff.mp ha).1
  obtain rfl : b = a := by
    rw [hattributes, ← hfront, List.getElem?_append_right (Nat.le_refl _), Nat.sub_self] at ha
    exact Option.some.inj ha
  -- the names are the same, so nothing else is lacking and nothing less
  have hwhole : wholeProblems schema mode d i (directive.withValueText index text)
      = wholeProblems schema mode d i directive := by
    have hhas : ∀ name, (directive.withValueText index text).hasAttribute name
        = directive.hasAttribute name := by
      intro name
      rw [hasAttribute_eq_any, hasAttribute_eq_any, Directive.withValueText, hmodify, hattributes,
        List.any_append, List.any_append]
      rfl
    unfold wholeProblems lackProblems
    simp only [hhas]
    rfl
  have hgone : attributeAt? schema d i directive (b.withValueText text, index) = none :=
    Option.map_eq_none_iff.mpr (attributeProblem?_of_acceptedBy haccepted)
  have hthere : attributeAt? schema d i directive (b, index) = some (⟨i, some index⟩, x) :=
    Option.map_eq_some_iff.mpr ⟨x, hx, rfl⟩
  refine ⟨(wholeProblems schema mode d i directive).map (⟨i, none⟩, ·)
      ++ front.zipIdx.filterMap (attributeAt? schema d i directive),
    (back.zipIdx (index + 1)).filterMap (attributeAt? schema d i directive), ?_, ?_, ?_⟩
  · unfold locatedAt
    dsimp only
    rw [hattributes, List.zipIdx_append, List.zipIdx_cons, List.filterMap_append, hfront,
      Nat.zero_add, List.filterMap_cons_some hthere, List.append_assoc]
  · intro y hy hplace
    simp only [List.mem_append, List.mem_map, List.mem_filterMap] at hy
    obtain (⟨_, -, rfl⟩ | ⟨⟨c, k⟩, hk, hy⟩) | ⟨⟨c, k⟩, hk, hy⟩ := hy
    · cases hplace
    all_goals
      obtain ⟨_, -, rfl⟩ := Option.map_eq_some_iff.mp hy
      cases hplace
      have hbounds := List.mem_zipIdx hk
      omega
  · unfold locatedAt
    dsimp only
    show _ ++ (directive.attributes.modify index _).zipIdx.filterMap (attributeAt? schema d i directive)
      = _
    rw [hwhole, hmodify, List.zipIdx_append, List.zipIdx_cons, List.filterMap_append, hfront,
      Nat.zero_add, List.filterMap_cons_none hgone, List.append_assoc]

/-- **The problems of a document with another value in a directive.** -/
theorem exists_located_withValueText (mode : Mode) (h : d.nodes[i]? = some (.directive directive))
    {index : Nat} {a : Attribute} {x : Diagnostic} {text : String}
    (ha : directive.attributes[index]? = some a)
    (hx : attributeProblem? schema d directive a = some x)
    (haccepted : (a.withValueText text).AcceptedBy schema directive.name.text) :
    ∃ before after : List (Place × Diagnostic),
      located schema mode d = before ++ (⟨i, some index⟩, x) :: after
      ∧ (∀ y ∈ before ++ after, y.1 ≠ ⟨i, some index⟩)
      ∧ located schema mode (d.withDirective i (directive.withValueText index text))
          = before ++ after := by
  obtain ⟨front, back, hother, hold, hnew⟩ := exists_located_withDirective schema mode h
  obtain ⟨before, after, hthere, hne, hgone⟩ :=
    exists_locatedAt_withValueText (i := i) mode ha hx haccepted
  refine ⟨front ++ before, after ++ back, ?_, ?_, ?_⟩
  · rw [hold, hthere, List.append_assoc, List.append_assoc, List.append_assoc, List.cons_append]
  · intro y hy
    simp only [List.mem_append] at hy hother hne
    rcases hy with (hy | hy) | hy | hy
    · exact fun hplace => hother y (.inl hy) (congrArg Place.position hplace)
    · exact hne y (.inl hy)
    · exact hne y (.inr hy)
    · exact fun hplace => hother y (.inr hy) (congrArg Place.position hplace)
  · rw [hnew, hgone, List.append_assoc, List.append_assoc, List.append_assoc]

/-! ## The fixes -/

/-- **A fix takes away what it was offered for, and nothing else.** A problem for which an attribute
is offered is about a directive as a whole. With an attribute of that name behind the others, which
has no problem of its own, the check gives the problems it gave without those of the directive that
ask for the name. A problem for which values are offered is about one attribute of a directive. With
one of them for the value, the check gives the problems it gave without this one. -/
theorem quickFixes_remove_exactly (schema : Schema) (mode : Mode) (d : Document) :
    validate schema mode Stop.never d = .ok ((located schema mode d).map Prod.snd)
    ∧ (∀ place x name, (place, x) ∈ located schema mode d → x.fix = some (.addAttribute name) →
        ∃ directive, d.nodes[place.position]? = some (.directive directive)
          ∧ place.index = none ∧ x.asksFor name = true
          ∧ ∀ a : Attribute, sameName a.name.text name = true →
              a.AcceptedBy schema directive.name.text →
              validate schema mode Stop.never
                  (d.withDirective place.position (directive.withAttribute a))
                = .ok (((located schema mode d).filter fun y =>
                    !(y.1.position == place.position && y.2.asksFor name)).map Prod.snd))
    ∧ ∀ place x suggestions, (place, x) ∈ located schema mode d →
        x.fix = some (.replaceValue suggestions) →
        ∃ directive index, d.nodes[place.position]? = some (.directive directive)
          ∧ place.index = some index
          ∧ ∀ text ∈ suggestions, trim text = text →
              ∃ before after, located schema mode d = before ++ (place, x) :: after
                ∧ (∀ y ∈ before ++ after, y.1 ≠ place)
                ∧ validate schema mode Stop.never
                    (d.withDirective place.position (directive.withValueText index text))
                  = .ok ((before ++ after).map Prod.snd) := by
  refine ⟨validate_eq_map_located schema mode d, ?_, ?_⟩
  · intro place x name hmem hfix
    obtain ⟨i, node, hnode, hx⟩ := exists_of_mem_located hmem
    obtain ⟨⟨directive, rfl⟩, rfl, hasks⟩ := exists_directive_of_addAttribute hx hfix
    refine ⟨directive, hnode, rfl, hasks, fun a hname haccepted => ?_⟩
    rw [validate_eq_map_located, located_withAttribute hnode hname haccepted]
  · intro place x suggestions hmem hfix
    obtain ⟨i, node, hnode, hx⟩ := exists_of_mem_located hmem
    obtain ⟨directive, index, a, rfl, rfl, ha, hproblem⟩ := exists_attribute_of_replaceValue hx hfix
    refine ⟨directive, index, hnode, rfl, fun text htext htrim => ?_⟩
    have haccepted := acceptedBy_withValueText hproblem hfix htext htrim
    obtain ⟨before, after, hold, hne, hnew⟩ :=
      exists_located_withValueText mode hnode ha hproblem haccepted
    refine ⟨before, after, hold, hne, ?_⟩
    rw [validate_eq_map_located, hnew]

/-- A schema that requires one attribute in two spellings. -/
def twoSpellings : Schema where
  directives :=
    [{ kind := .template
       name := "page"
       attributes :=
         [{ name := "key", required := true }, { name := "mode", rule := .oneOf ["on", "off"] },
          { name := "KEY", required := true }] }]

/-- A page behind a feature block that lacks the attribute and has a wrong value twice. -/
def wrongPage : Document :=
  (((Builder.new 0 "wrong.tt").codeBlock .feature "int x;").directive "page"
    [("mode", "odd"), ("mode", "odd")]).build

/-- The directive of that page. -/
def wrongDirective : Directive := Builder.directiveAt 13 "page" [("mode", "odd"), ("mode", "odd")]

/-- An attribute without a value. -/
def bareKey : Attribute := { name := ⟨"Key", ⟨0, 0⟩⟩, span := ⟨0, 0⟩ }

/-- The page has five problems. The attribute takes away two of them, and a value for the first
attribute one of the two that are about values. -/
theorem quickFixes_remove_exactly_wrongPage :
    (located twoSpellings .designTime wrongPage).map (fun y => (y.1, y.2.kind))
      = [(⟨1, none⟩, .missingRequiredAttribute), (⟨1, none⟩, .missingRequiredAttribute),
         (⟨1, none⟩, .contentAfterLastFeature), (⟨1, some 0⟩, .invalidAttributeValue),
         (⟨1, some 1⟩, .invalidAttributeValue)]
    ∧ (validate twoSpellings .designTime Stop.never
          (wrongPage.withDirective 1 (wrongDirective.withAttribute bareKey))).toOption.map
            (·.map Diagnostic.kind)
        = some [.contentAfterLastFeature, .invalidAttributeValue, .invalidAttributeValue]
    ∧ (validate twoSpellings .designTime Stop.never
          (wrongPage.withDirective 1 (wrongDirective.withValueText 0 "off"))).toOption.map
            (·.map Diagnostic.kind)
        = some [.missingRequiredAttribute, .missingRequiredAttribute, .contentAfterLastFeature,
            .invalidAttributeValue] := by
  obtain ⟨-, hadd, hreplace⟩ := quickFixes_remove_exactly twoSpellings .designTime wrongPage
  have hget : wrongPage.nodes[1]? = some (.directive wrongDirective) := rfl
  have hlacking : ((⟨1, none⟩ : Place),
      ({ kind := .missingRequiredAttribute
         message := "missing required attribute `key`"
         span := ⟨17, 21⟩
         fileId := 0
         fix := some (.addAttribute "key") } : Diagnostic))
      ∈ located twoSpellings .designTime wrongPage := by
    decide +kernel
  have hwrong : ((⟨1, some 0⟩ : Place),
      ({ kind := .invalidAttributeValue
         message := "invalid attribute value"
         span := ⟨28, 31⟩
         fileId := 0
         fix := some (.replaceValue ["on", "off"]) } : Diagnostic))
      ∈ located twoSpellings .designTime wrongPage := by
    decide +kernel
  refine ⟨by decide +kernel, ?_, ?_⟩
  · obtain ⟨directive, hdirective, -, -, hnew⟩ := hadd _ _ "key" hlacking rfl
    cases hget.symm.trans hdirective
    rw [hnew bareKey (by decide) nofun]
    decide +kernel
  · obtain ⟨directive, index, hdirective, hindex, hnew⟩ := hreplace _ _ _ hwrong rfl
    cases hget.symm.trans hdirective
    cases hindex
    obtain ⟨before, after, hold, hne, hnew⟩ := hnew "off" (by decide) (by decide +kernel)
    have hrest : before ++ after
        = (located twoSpellings .designTime wrongPage).filter fun y => y.1 ≠ ⟨1, some 0⟩ := by
      rw [hold, List.filter_append, List.filter_cons_of_neg (by simp), ← List.filter_append]
      exact (List.filter_eq_self.mpr fun y hy => decide_eq_true (hne y hy)).symm
    rw [hnew, hrest]
    decide +kernel

end Validation

end TextTemplate
