import Mathlib
import TextTemplate.Dependency.Snapshot
import TextTemplate.Document.Builder
import TextTemplate.Proofs.ByteSlices
import TextTemplate.Proofs.WalkEvents

/-!
# Names in any letter case

The names of directives and attributes are looked up in several places: in the schema, in the
document, in the list of the attributes that a directive must have. None of these look-ups minds the
case of the ASCII letters, and none of the texts that the work on a document gives out is taken from
such a name. So a document may spell them as it likes.

`Document.folded` is the form that all spellings of a document share: its names, and its source in
which they are written, in lower case. A check of a document, the class of a document and its
dependencies are each shown to be those of the folded form. For the first two that is a fact about
one node (`enter_folded`, `leave_folded`), which `Node.walkAll_foldedAll` carries over to a walk.
-/

namespace TextTemplate

namespace Text

/-- **A name in lower case**, the spelling that all spellings of it share. -/
def lower (name : String) : String := String.ofList (fold name)

/-- A name and its spelling in lower case have the same key. -/
@[simp] theorem fold_lower (name : String) : fold (lower name) = fold name := by
  show (String.ofList (name.toList.map Char.toLower)).toList.map Char.toLower = _
  rw [String.toList_ofList, List.map_map]
  refine List.map_congr_left fun c _ => ?_
  exact Char.toLower_toLower_eq_toLower c

@[simp] theorem sameName_lower_left (a b : String) : sameName (lower a) b = sameName a b := by
  unfold sameName
  rw [fold_lower]

@[simp] theorem sameName_lower_right (a b : String) : sameName a (lower b) = sameName a b := by
  unfold sameName
  rw [fold_lower]

/-! ## Offsets -/

/-- The two cases of an ASCII letter take one byte each. -/
@[simp] theorem utf8Size_toLower (c : Char) : c.toLower.utf8Size = c.utf8Size := by
  unfold Char.toLower Char.utf8Size
  grind

theorem byteSize_map_toLower (cs : List Char) : byteSize (cs.map Char.toLower) = byteSize cs := by
  induction cs with
  | nil => rfl
  | cons c cs ih => rw [List.map_cons, byteSize_cons, byteSize_cons, utf8Size_toLower, ih]

@[simp] theorem utf8ByteSize_lower (s : String) : (lower s).utf8ByteSize = s.utf8ByteSize := by
  unfold lower fold
  rw [← byteSize_toList, ← byteSize_toList, String.toList_ofList, byteSize_map_toLower]

/-- A text in lower case is cut where the text is. -/
theorem takeBytes?_map_toLower (n : Nat) (cs : List Char) :
    takeBytes? n (cs.map Char.toLower) = (takeBytes? n cs).map (List.map Char.toLower) := by
  induction n, cs using takeBytes?.induct with
  | case1 cs => rw [takeBytes?, takeBytes?, Option.map_some, List.map_nil]
  | case2 n => rfl
  | case3 n c cs hle ih =>
    rw [List.map_cons, takeBytes?, takeBytes?, utf8Size_toLower, if_pos hle, if_pos hle, ih,
      Option.map_map, Option.map_map]
    rfl
  | case4 n c cs hgt =>
    rw [List.map_cons, takeBytes?, takeBytes?, utf8Size_toLower, if_neg hgt, if_neg hgt]
    rfl

theorem dropBytes?_map_toLower (n : Nat) (cs : List Char) :
    dropBytes? n (cs.map Char.toLower) = (dropBytes? n cs).map (List.map Char.toLower) := by
  induction n, cs using dropBytes?.induct with
  | case1 cs => rw [dropBytes?, dropBytes?, Option.map_some]
  | case2 n => rfl
  | case3 n c cs hle ih =>
    rw [List.map_cons, dropBytes?, dropBytes?, utf8Size_toLower, if_pos hle, if_pos hle, ih]
  | case4 n c cs hgt =>
    rw [List.map_cons, dropBytes?, dropBytes?, utf8Size_toLower, if_neg hgt, if_neg hgt]
    rfl

end Text

open Text

/-! ## The folded form of a document -/

/-- A token in lower case. -/
def Token.folded (t : Token) : Token := { t with text := lower t.text }

/-- An attribute with its name in lower case. -/
def Attribute.folded (a : Attribute) : Attribute := { a with name := a.name.folded }

/-- A directive with its name and the names of its attributes in lower case. -/
def Directive.folded (d : Directive) : Directive :=
  { d with name := d.name.folded, attributes := d.attributes.map Attribute.folded }

namespace Node

mutual

/-- A node with the names in it in lower case. -/
def folded : Node → Node
  | .directive d => .directive d.folded
  | .included ⟨path, ⟨fileId, docPath, source, nodes⟩, span⟩ =>
    .included ⟨path, ⟨fileId, docPath, lower source, foldedAll nodes⟩, span⟩
  | node => node

/-- Nodes with the names in them in lower case. -/
def foldedAll : List Node → List Node
  | [] => []
  | node :: nodes => node.folded :: foldedAll nodes

end

end Node

/-- **A document with its names in lower case**, those of directives and of attributes. The source,
where they are written, is in lower case too. Everything else is left as it is: spans, values, the
errors of values, texts, code, paths and numbers. The included documents are treated alike. -/
def Document.folded (d : Document) : Document :=
  { d with source := lower d.source, nodes := Node.foldedAll d.nodes }

/-- An include with the names in its document in lower case. -/
def Include.folded (part : Include) : Include := { part with document := part.document.folded }

namespace Node

theorem foldedAll_eq_map (nodes : List Node) : foldedAll nodes = nodes.map folded := by
  induction nodes with
  | nil => rfl
  | cons node nodes ih => rw [foldedAll, List.map_cons, ih]

theorem folded_included (part : Include) :
    (Node.included part).folded = .included part.folded := by
  obtain ⟨path, ⟨fileId, docPath, source, nodes⟩, span⟩ := part
  rfl

@[simp] theorem span_folded (node : Node) : node.folded.span = node.span := by
  cases node with
  | included part => rw [folded_included]; rfl
  | _ => rfl

@[simp] theorem isFeature_folded (node : Node) : node.folded.isFeature = node.isFeature := by
  cases node with
  | included part => rw [folded_included]; rfl
  | _ => rfl

theorem directive?_folded (node : Node) :
    node.folded.directive? = node.directive?.map Directive.folded := by
  cases node with
  | included part => rw [folded_included]; rfl
  | _ => rfl

theorem lastFeature?_foldedAll (nodes : List Node) :
    lastFeature? (foldedAll nodes) = lastFeature? nodes := by
  induction nodes with
  | nil => rfl
  | cons node nodes ih => rw [foldedAll, lastFeature?, lastFeature?, ih, isFeature_folded]

/-- The nodes that a walk meets inside a node, in lower case. -/
theorem inner_folded (descends : Bool) (node : Node) :
    node.folded.inner descends = foldedAll (node.inner descends) := by
  cases node with
  | included part =>
    rw [folded_included]
    cases descends <;> rfl
  | _ => rfl

/-- **The includes in lower case**, in the same order. -/
theorem includesOf_foldedAll (nodes : List Node) :
    includesOf (foldedAll nodes) = (includesOf nodes).map Include.folded := by
  induction nodes using forestInduction with
  | nil => rfl
  | leaf node nodes hnode ih =>
    have hfolded : node.folded.isIncluded = false := by
      cases node with
      | included part => cases hnode
      | _ => rfl
    rw [foldedAll, includesOf, includesOf, includes_of_not_included hnode,
      includes_of_not_included hfolded, ih]
    rfl
  | included part nodes ihPart ih =>
    rw [foldedAll, folded_included, includesOf, includesOf, includes_included, includes_included,
      ih, List.map_append, List.map_cons, ← ihPart]
    rfl

/-- **Two walks that do the same at a node and at its folded form are the same walk.** -/
theorem walkAll_foldedAll {σ : Type} {v w : Visitor σ} (hdescends : v.descends = w.descends)
    (henter : ∀ node position s, v.enter node.folded position s = w.enter node position s)
    (hleave : ∀ node position s, v.leave node.folded position s = w.leave node position s)
    (stop : Nat → σ → Bool) (nodes : List Node) (position : Nat) (s : σ) :
    walkAll v stop (foldedAll nodes) position s = walkAll w stop nodes position s := by
  induction nodes using innerInduction w.descends generalizing position s with
  | nil => rfl
  | cons node nodes ihInner ih =>
    rw [foldedAll, walkAll, walkAll, walk_eq, walk_eq, inner_folded, hdescends, henter, ihInner]
    simp only [hleave, ih]

end Node

namespace Document

/-- So the passes are the same. -/
theorem pass_folded {σ : Type} {v w : Visitor σ} (hdescends : v.descends = w.descends)
    (henter : ∀ node position s, v.enter node.folded position s = w.enter node position s)
    (hleave : ∀ node position s, v.leave node.folded position s = w.leave node position s)
    (stop : Stop) (d : Document) (s : σ) : d.folded.pass v stop s = d.pass w stop s := by
  unfold pass walk
  show Except.mapError _ (_ <$> Node.walkAll v _ (Node.foldedAll d.nodes) 0 s) = _
  rw [Node.walkAll_foldedAll hdescends henter hleave]

@[simp] theorem size_folded (d : Document) : d.folded.size = d.size := utf8ByteSize_lower d.source

theorem lastFeature?_folded (d : Document) : d.folded.lastFeature? = d.lastFeature? :=
  Node.lastFeature?_foldedAll d.nodes

theorem directives_folded (d : Document) :
    d.folded.directives = d.directives.map Directive.folded := by
  show (Node.foldedAll d.nodes).filterMap Node.directive?
    = (d.nodes.filterMap Node.directive?).map _
  rw [Node.foldedAll_eq_map, List.filterMap_map, List.map_filterMap]
  exact List.filterMap_congr fun node _ => Node.directive?_folded node

theorem family_folded (d : Document) : d.folded.family = d.family.map folded := by
  show d.folded :: (Node.includesOf (Node.foldedAll d.nodes)).map Include.document
    = d.folded :: ((Node.includesOf d.nodes).map Include.document).map folded
  rw [Node.includesOf_foldedAll, List.map_map, List.map_map]
  rfl

end Document

/-! ## Look-ups -/

namespace Directive

/-- **The attribute of a name** is found in any spelling. -/
theorem attribute?_folded (d : Directive) (name : String) :
    d.folded.attribute? name = (d.attribute? name).map Attribute.folded := by
  show (d.attributes.map Attribute.folded).find? _ = _
  rw [List.find?_map]
  refine congrArg (Option.map Attribute.folded) (congrArg (d.attributes.find? ·) ?_)
  funext a
  exact sameName_lower_left a.name.text name

@[simp] theorem hasAttribute_folded (d : Directive) (name : String) :
    d.folded.hasAttribute name = d.hasAttribute name := by
  unfold hasAttribute
  rw [attribute?_folded, Option.isSome_map]

@[simp] theorem valueToken?_folded (d : Directive) (name : String) :
    d.folded.valueToken? name = d.valueToken? name := by
  unfold valueToken?
  rw [attribute?_folded, Option.bind_map]
  rfl

@[simp] theorem value?_folded (d : Directive) (name : String) :
    d.folded.value? name = d.value? name := by
  unfold value?
  rw [valueToken?_folded]

@[simp] theorem nonBlankValue?_folded (d : Directive) (name : String) :
    d.folded.nonBlankValue? name = d.nonBlankValue? name := by
  unfold nonBlankValue?
  rw [valueToken?_folded]

end Directive

namespace Schema

/-- **The rule for a directive** is found in any spelling. -/
@[simp] theorem byName?_lower (s : Schema) (name : String) :
    s.byName? (lower name) = s.byName? name := by
  unfold byName?
  simp only [sameName_lower_right]

@[simp] theorem kindOf?_folded (s : Schema) (d : Directive) : s.kindOf? d.folded = s.kindOf? d := by
  show (s.byName? (lower d.name.text)).map _ = _
  rw [byName?_lower]
  rfl

@[simp] theorem attribute?_lower (s : Schema) (directiveName attributeName : String) :
    s.attribute? (lower directiveName) (lower attributeName)
      = s.attribute? directiveName attributeName := by
  unfold attribute? DirectiveRule.attribute?
  simp only [byName?_lower, sameName_lower_right]

end Schema

/-! ## Checks -/

namespace Validation

/-- A missing token is shown at the same place in a source in lower case. -/
theorem missingTokenSpan_lower (source : String) (span : Span) :
    missingTokenSpan (lower source) span = missingTokenSpan source span := by
  have hwidth : ∀ c : Option Char, charWidth (c.map Char.toLower) = charWidth c := by
    intro c
    cases c with
    | none => rfl
    | some c => exact utf8Size_toLower c
  have hchars : (lower source).toList = source.toList.map Char.toLower := String.toList_ofList
  have hbefore : ∀ n, (takeBytes? n (lower source).toList).bind List.getLast?
      = ((takeBytes? n source.toList).bind List.getLast?).map Char.toLower := by
    intro n
    rw [hchars, takeBytes?_map_toLower, Option.bind_map, Option.map_bind]
    simp only [Function.comp_def, List.getLast?_map]
  have hafter : ∀ n, (dropBytes? n (lower source).toList).bind List.head?
      = ((dropBytes? n source.toList).bind List.head?).map Char.toLower := by
    intro n
    rw [hchars, dropBytes?_map_toLower, Option.bind_map, Option.map_bind]
    simp only [Function.comp_def, List.head?_map]
  unfold missingTokenSpan missingTokenSpanBy
  simp only [utf8ByteSize_lower, hbefore, hafter, hwidth]

theorem missingTokenProblem_folded (d : Document) (marker : MissingToken) :
    missingTokenProblem d.folded marker = missingTokenProblem d marker := by
  unfold missingTokenProblem
  rw [show d.folded.source = lower d.source from rfl, missingTokenSpan_lower]
  rfl

variable (schema : Schema)

theorem directiveProblems_folded (preprocessed : Bool) (fileId : Nat) (d : Directive) :
    directiveProblems schema preprocessed fileId d.folded
      = directiveProblems schema preprocessed fileId d := by
  unfold directiveProblems
  have hrule : schema.byName? d.folded.name.text = schema.byName? d.name.text :=
    schema.byName?_lower d.name.text
  simp only [hrule, Directive.hasAttribute_folded]
  rfl

theorem valueProblem?_folded (fileId : Nat) (d : Directive) (a : Attribute) :
    valueProblem? schema fileId d.folded a.folded = valueProblem? schema fileId d a := by
  have hrule : schema.attribute? d.folded.name.text a.folded.name.text
      = schema.attribute? d.name.text a.name.text :=
    schema.attribute?_lower d.name.text a.name.text
  unfold valueProblem?
  rw [hrule]
  rfl

theorem valueProblems_folded (fileId : Nat) (d : Directive) :
    valueProblems schema fileId d.folded = valueProblems schema fileId d := by
  show (d.attributes.map Attribute.folded).filterMap _ = _
  rw [List.filterMap_map]
  exact List.filterMap_congr fun a _ => valueProblem?_folded schema fileId d a

namespace Pass

theorem checkTail_folded (d : Document) (node : Node) (p : Pass) :
    p.checkTail d.folded node.folded = p.checkTail d node := by
  have hproblem : tailProblem d.folded node.folded = tailProblem d node := by
    unfold tailProblem
    rw [Node.span_folded, Document.size_folded]
    rfl
  cases node with
  | included part => rw [Node.folded_included]; rfl
  | directive directive =>
    simp only [Node.folded] at hproblem ⊢
    unfold checkTail
    simp only [hproblem]
    rfl
  | _ =>
    simp only [Node.folded] at hproblem ⊢
    unfold checkTail
    simp only [hproblem]

/-- **The check of one node** is that of its folded form. -/
theorem enter_folded (preprocessed : Bool) (d : Document) (node : Node) (position : Nat)
    (p : Pass) :
    enter schema preprocessed d.folded node.folded position p
      = enter schema preprocessed d node position p := by
  have htail := fun p => checkTail_folded d node p
  cases node with
  | missing marker =>
    show p.report [missingTokenProblem d.folded marker] = _
    rw [missingTokenProblem_folded]
    rfl
  | directive directive =>
    show ((p.report (directiveProblems schema preprocessed d.fileId directive.folded)).checkTail
      d.folded (Node.directive directive).folded).report
        (valueProblems schema d.fileId directive.folded) = _
    rw [htail, directiveProblems_folded, valueProblems_folded]
    rfl
  | codeBlock block =>
    unfold enter
    rw [Document.lastFeature?_folded]
    simp only [Node.folded] at htail ⊢
    simp only [htail]
    rfl
  | text token => exact htail p
  | included part =>
    rw [Node.folded_included] at htail ⊢
    exact htail p

theorem leave_folded (d : Document) (node : Node) (position : Nat) (p : Pass) :
    leave d.folded node.folded position p = leave d node position p := by
  unfold leave
  rw [Document.lastFeature?_folded]

end Pass

/-- **A check finds in a document what it finds in its folded form.** -/
theorem validate_folded (mode : Mode) (stop : Stop) (d : Document) :
    validate schema mode stop d.folded = validate schema mode stop d := by
  unfold validate
  rw [Document.pass_folded (v := visitor schema mode.preprocessed d.folded)
    (w := visitor schema mode.preprocessed d) rfl (Pass.enter_folded schema mode.preprocessed d)
    (Pass.leave_folded d)]

end Validation

/-! ## Classes -/

namespace Generation

namespace Pass

variable (schema : Schema)

theorem addDirective_folded (d : Directive) (p : Pass) :
    p.addDirective schema d.folded = p.addDirective schema d := by
  unfold addDirective addImport addTemplate addParameter
  simp only [Schema.kindOf?_folded, Directive.nonBlankValue?_folded, Directive.value?_folded]

theorem enter_folded (node : Node) (position : Nat) (p : Pass) :
    p.enter node.folded position = p.enter node position := by
  cases node with
  | included part => rw [Node.folded_included]; rfl
  | _ => rfl

/-- **What a node adds to the class** is what its folded form adds. -/
theorem leave_folded (node : Node) (position : Nat) (p : Pass) :
    p.leave schema node.folded position = p.leave schema node position := by
  cases node with
  | directive d => exact addDirective_folded schema d p
  | included part => rw [Node.folded_included]; rfl
  | _ => rfl

end Pass

/-- **The class of a document is that of its folded form.** -/
theorem generate_folded (schema : Schema) (mode : Mode) (stop : Stop) (d : Document) :
    generate schema mode stop d.folded = generate schema mode stop d := by
  unfold generate
  rw [Document.pass_folded (v := visitor schema) (w := visitor schema) rfl Pass.enter_folded
    (Pass.leave_folded schema)]
  rfl

end Generation

/-! ## Dependencies -/

namespace Snapshot

variable (schema : Schema) (lookup : String → Option String)

theorem addDirective_folded (s : Snapshot) (d : Directive) :
    s.addDirective schema lookup d.folded = s.addDirective schema lookup d := by
  unfold addDirective assembly? trimmedValue?
  simp only [Schema.kindOf?_folded, Directive.value?_folded]

/-- **A document depends on what its folded form depends on**, name by name as they are spelled. -/
theorem extract_folded (d : Document) :
    extract schema lookup d.folded = extract schema lookup d := by
  have hdirectives : d.folded.family.flatMap Document.directives
      = (d.family.flatMap Document.directives).map Directive.folded := by
    rw [Document.family_folded, List.flatMap_map, List.map_flatMap]
    exact List.flatMap_congr fun member _ => Document.directives_folded member
  unfold extract
  rw [hdirectives, List.foldl_map]
  simp only [addDirective_folded]

end Snapshot

/-- **Names are read in any letter case, everywhere.** Let two documents have the same folded form:
they, and the documents that they include at any depth, differ only in the case of the ASCII letters
in the names of directives and attributes, and in the source where these are written. Then for every
schema and mode a check finds the same problems, with the same messages, spans and fixes; the class
is the same, with the same mappings; and for every environment the dependencies are the same, with
the same spellings. -/
theorem Document.results_eq_of_folded_eq {d e : Document} (h : d.folded = e.folded)
    (schema : Schema) (mode : Mode) (stop : Stop) (lookup : String → Option String) :
    Validation.validate schema mode stop d = Validation.validate schema mode stop e
      ∧ Generation.generate schema mode stop d = Generation.generate schema mode stop e
      ∧ Snapshot.extract schema lookup d = Snapshot.extract schema lookup e := by
  refine ⟨?_, ?_, ?_⟩
  · rw [← Validation.validate_folded, h, Validation.validate_folded]
  · rw [← Generation.generate_folded, h, Generation.generate_folded]
  · rw [← Snapshot.extract_folded, h, Snapshot.extract_folded]

/-- A template that refers to an assembly, in a document that it includes, under given spellings of
the names of the directive and of its attribute. -/
def referringAs (directiveName attributeName : String) : Document :=
  ((Builder.new 0 "outer.tt").includeDocument "inner.tt"
    ((Builder.new 1 "inner.tt").directive directiveName
      [(attributeName, "$(Lib)A.dll")]).build).build

/-- Two spellings of one reference give the same problems, one class and one snapshot, in which the
assembly is spelled as in the value. -/
theorem Document.results_eq_of_folded_eq_referring :
    (referringAs "Assembly" "NAME").folded = (referringAs "assembly" "name").folded
      ∧ Validation.validate .standard .designTime Stop.never (referringAs "Assembly" "NAME")
        = Validation.validate .standard .designTime Stop.never (referringAs "assembly" "name")
      ∧ Generation.generate .standard .designTime Stop.never (referringAs "Assembly" "NAME")
        = Generation.generate .standard .designTime Stop.never (referringAs "assembly" "name")
      ∧ Snapshot.extract .standard (fun _ => none) (referringAs "Assembly" "NAME")
        = ⟨⟨["$(Lib)A.dll"]⟩, ⟨["Lib"]⟩⟩ := by
  have hfolded :
      (referringAs "Assembly" "NAME").folded = (referringAs "assembly" "name").folded := by
    cbv
  obtain ⟨hproblems, hclass, hsnapshot⟩ :=
    Document.results_eq_of_folded_eq hfolded .standard .designTime Stop.never fun _ => none
  exact ⟨hfolded, hproblems, hclass, hsnapshot.trans (by decide +kernel)⟩

end TextTemplate
