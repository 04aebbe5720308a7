import Mathlib.Data.List.Basic
import TextTemplate.Proofs.SourceMap

/-!
# Included documents stand for their nodes

An include contributes to the class what the nodes of its document would contribute in its place. To
say so, `Document.flat` puts them there, all the way down, and the class of a tree is compared with
that of the flat document. Two things distinguish the nodes of an included document from nodes that
were written in the outermost one. They belong to another document, and that shows only in the file
numbers of the mappings. And they stand deeper, and the depth matters for one decision: an
expression of the outermost document behind a feature block of it is a member of the class, while
one of an included document, or behind a feature block of an included document only, is not.

So the two classes agree if no expression stands behind a feature block at all, at any depth
(`BlockOrder`). Then every expression goes into the body, whatever the pass remembers
(`blockLines_eq_flatMap`), and a node contributes the same from wherever it stands
(`addition_inRoot`).
-/

namespace TextTemplate

/-! ## Flat documents -/

namespace Node

mutual

/-- The nodes that a node stands for: those of the document of an include, or the node itself. -/
def flat : Node → List Node
  | .included ⟨_, ⟨_, _, _, nodes⟩, _⟩ => flatAll nodes
  | node => [node]

/-- **A list of nodes with every include replaced by the nodes of its document**, in place and so on
inside these. -/
def flatAll : List Node → List Node
  | [] => []
  | node :: nodes => node.flat ++ flatAll nodes

end

/-- A node that is no include stands for itself. -/
theorem flat_of_not_included {node : Node} (h : node.isIncluded = false) : node.flat = [node] := by
  cases node with
  | included part => cases h
  | _ => rfl

/-- An include stands for the nodes of its document. -/
theorem flat_included (part : Include) :
    (Node.included part).flat = flatAll part.document.nodes := by
  obtain ⟨path, ⟨fileId, docPath, source, nodes⟩, span⟩ := part
  rfl

/-- The nodes of two lists, one behind the other. -/
theorem visitsOf_append (fileId depth : Nat) (nodes others : List Node) :
    visitsOf fileId depth (nodes ++ others)
      = visitsOf fileId depth nodes ++ visitsOf fileId depth others := by
  induction nodes with
  | nil => rfl
  | cons node nodes ih => rw [List.cons_append, visitsOf, visitsOf, ih, List.append_assoc]

end Node

/-- The node as one of the outermost document. -/
def Visit.inRoot (root : Nat) (v : Visit) : Visit := ⟨v.node, root, 0⟩

/-- **A flat list has the nodes of the tree without the includes, in the same order**, all of them
in the outermost document. -/
theorem Node.visitsOf_flatAll (root : Nat) (nodes : List Node) (fileId depth : Nat) :
    visitsOf root 0 (flatAll nodes)
      = ((visitsOf fileId depth nodes).filter fun v => !v.node.isIncluded).map
          (Visit.inRoot root) := by
  induction nodes using forestInduction generalizing fileId depth with
  | nil => rfl
  | leaf node nodes hnode ih =>
    rw [flatAll, flat_of_not_included hnode, List.singleton_append, visitsOf, visitsOf,
      visits_of_not_included hnode, visits_of_not_included hnode, List.singleton_append,
      List.singleton_append, List.filter_cons_of_pos (by simpa using hnode), List.map_cons,
      ih fileId depth]
    rfl
  | included part nodes ihPart ihNodes =>
    rw [flatAll, flat_included, visitsOf_append, visitsOf, visits_included, List.cons_append,
      List.filter_cons_of_neg (by simp [isIncluded]), List.filter_append, List.map_append,
      ihPart part.document.fileId (depth + 1), ihNodes fileId depth]

namespace Document

/-- **The document with every include replaced by the nodes of its document.** -/
def flat (d : Document) : Document := { d with nodes := Node.flatAll d.nodes }

/-- The nodes of the flat document. -/
theorem visits_flat (d : Document) :
    d.flat.visits
      = (d.visits.filter fun v => !v.node.isIncluded).map (Visit.inRoot d.fileId) :=
  Node.visitsOf_flatAll d.fileId d.nodes d.fileId 0

/-- **No expression stands behind a feature block**, among the blocks of the whole tree that have
code. -/
def BlockOrder (d : Document) : Prop :=
  (d.visits.filterMap Visit.block?).Pairwise fun a b => ¬(a.1 = .feature ∧ b.1 = .expression)

instance (d : Document) : Decidable d.BlockOrder :=
  inferInstanceAs (Decidable (List.Pairwise _ _))

end Document

/-! ## Pieces of another document -/

/-- The place in the document of another number. -/
def Origin.inFile (fileId : Nat) (origin : Origin) : Origin := { origin with fileId }

/-- The mapping with its origin in the document of another number. -/
def Mapping.inFile (fileId : Nat) (m : Mapping) : Mapping :=
  { m with origin := m.origin.inFile fileId }

namespace Piece

/-- The piece copied from the document of another number. -/
def inFile (fileId : Nat) : Piece → Piece
  | .fixed text => .fixed text
  | .value text origin => .value text (origin.inFile fileId)
  | .code text origin => .code text (origin.inFile fileId)

@[simp] theorem text_inFile (fileId : Nat) (p : Piece) : (p.inFile fileId).text = p.text := by
  cases p <;> rfl

/-- The number of a document is not part of the text. -/
theorem textOf_map_inFile (fileId : Nat) (ps : List Piece) :
    textOf (ps.map (inFile fileId)) = textOf ps := by
  induction ps with
  | nil => rfl
  | cons p ps ih => rw [List.map_cons, textOf, textOf, ih, text_inFile]

/-- The mappings stand where they stood and come from the other document. -/
theorem mappingsFrom_map_inFile (fileId offset : Nat) (ps : List Piece) :
    mappingsFrom offset (ps.map (inFile fileId))
      = (mappingsFrom offset ps).map (Mapping.inFile fileId) := by
  induction ps generalizing offset with
  | nil => rfl
  | cons p ps ih =>
    have hmapping : (p.inFile fileId).mapping? offset
        = (p.mapping? offset).map (Mapping.inFile fileId) := by
      cases p <;> rfl
    have hwidth : (p.inFile fileId).width = p.width :=
      congrArg String.utf8ByteSize (text_inFile fileId p)
    rw [List.map_cons, mappingsFrom, mappingsFrom, List.map_append, hmapping, hwidth, ih,
      Option.toList_map]

end Piece

namespace Generation

open Visit

/-! ## What a node contributes from another place -/

/-- The line of a block in the outermost document. As long as no feature block is met there, the
depth does not decide where it goes. -/
theorem lineAmong_inRoot (root : Nat) (v : Visit) (members : Bool) :
    (v.inRoot root).lineAmong members false
      = (v.lineAmong members false).map (Piece.inFile root) := by
  have hmember : ∀ kind, (v.inRoot root).isMember false kind = v.isMember false kind := by
    intro kind
    cases kind with
    | expression => simp only [isMember, Bool.and_false]
    | _ => rfl
  have hline : ∀ kind token, (v.inRoot root).blockLine kind token
      = (v.blockLine kind token).map (Piece.inFile root) := by
    intro kind token
    cases kind <;> rfl
  unfold lineAmong
  rw [show (v.inRoot root).block? = v.block? from rfl]
  rcases v.block? with _ | ⟨kind, token⟩
  · rfl
  · dsimp only
    rw [hmember, hline, apply_ite (List.map (Piece.inFile root))]
    rfl

/-- **In the outermost document a node contributes the same pieces**, from that document, as long as
no feature block is met there. -/
theorem addition_inRoot (schema : Schema) (root : Nat) (v : Visit) (part : Section) :
    Pass.addition schema false (v.inRoot root) part
      = (Pass.addition schema false v part).map (Piece.inFile root) := by
  have hdirective : ∀ kind, (v.inRoot root).directive? schema kind = v.directive? schema kind :=
    fun _ => rfl
  cases part with
  | usings =>
    unfold Pass.addition usingLine
    rw [hdirective]
    cases (v.directive? schema .namespaceImport).bind (·.nonBlankValue? "namespace") <;> rfl
  | inherits =>
    unfold Pass.addition baseClass
    rw [hdirective]
    cases (v.directive? schema .template).bind (·.nonBlankValue? "inherits") <;> rfl
  | parameters =>
    unfold Pass.addition property
    rw [hdirective]
    cases v.directive? schema .parameter with
    | none => rfl
    | some d =>
      dsimp only
      cases d.nonBlankValue? "type" <;> cases d.nonBlankValue? "name" <;> rfl
  | transformBody => exact lineAmong_inRoot root v false
  | featureMethods => exact lineAmong_inRoot root v true

/-- **What the nodes of a tree contribute to a part of the class**, those of the flat document
contribute. -/
theorem flatMap_addition_flat (schema : Schema) (d : Document) (part : Section) :
    d.flat.visits.flatMap (Pass.addition schema false · part)
      = (d.visits.flatMap (Pass.addition schema false · part)).map (Piece.inFile d.fileId) := by
  rw [Document.visits_flat, List.flatMap_map, List.map_flatMap]
  simp only [addition_inRoot]
  induction d.visits with
  | nil => rfl
  | cons v vs ih =>
    obtain ⟨node, fileId, depth⟩ := v
    rw [List.flatMap_cons, ← ih]
    cases node with
    | included inner =>
      rw [List.filter_cons_of_neg (by simp [Node.isIncluded]), Pass.addition_included]
      rfl
    | _ => rfl

/-- What can be asked of a node wherever it stands, and is nothing for an include, is the same for
the flat document. -/
theorem filterMap_visits_flat {β : Type} {f : Visit → Option β} (d : Document)
    (hroot : ∀ v : Visit, f (v.inRoot d.fileId) = f v)
    (hincluded : ∀ v : Visit, v.node.isIncluded = true → f v = none) :
    d.flat.visits.filterMap f = d.visits.filterMap f := by
  rw [Document.visits_flat, List.filterMap_map, List.filterMap_filter]
  refine congrArg (d.visits.filterMap ·) (funext fun v => ?_)
  rw [Function.comp_apply, hroot]
  cases hnode : v.node.isIncluded with
  | false => rfl
  | true => exact (hincluded v hnode).symm

/-- An include is no directive. -/
theorem directive?_of_isIncluded {v : Visit} (h : v.node.isIncluded = true) (schema : Schema)
    (kind : DirectiveKind) : v.directive? schema kind = none := by
  obtain ⟨node, fileId, depth⟩ := v
  cases node with
  | included inner => rfl
  | _ => cases h

/-- An include is no block. -/
theorem block?_of_isIncluded {v : Visit} (h : v.node.isIncluded = true) : v.block? = none := by
  obtain ⟨node, fileId, depth⟩ := v
  cases node with
  | included inner => rfl
  | _ => cases h

/-- **The blocks of the tree are told apart by their kind alone**, if no expression stands behind a
feature block. -/
theorem blockLines_eq_flatMap {nodes : List Visit}
    (h : (nodes.filterMap Visit.block?).Pairwise fun a b => ¬(a.1 = .feature ∧ b.1 = .expression))
    (members : Bool) :
    blockLines members nodes = nodes.flatMap (lineAmong members false) := by
  have hpairs := List.pairwise_filterMap.mp h
  have hnode : ∀ x ∈ nodes.zipIdx, x.1.lineAmong members ((nodes.take x.2).any startsFeatures)
      = x.1.lineAmong members false := by
    rintro ⟨v, i⟩ hx
    have hv : v ∈ nodes.drop i := by
      refine List.mem_of_getElem? (i := 0) ?_
      rw [List.getElem?_drop]
      exact List.mk_mem_zipIdx_iff_getElem?.mp hx
    unfold lineAmong
    rcases hblock : v.block? with _ | ⟨kind, token⟩
    · rfl
    · cases kind with
      | statement | feature => rfl
      | expression =>
        -- a feature block in front of the expression is what the order of the blocks excludes
        have hfront : (nodes.take i).any startsFeatures = false := by
          refine Bool.eq_false_iff.mpr fun hany => ?_
          obtain ⟨w, hw, hstarts⟩ := List.any_eq_true.mp hany
          obtain ⟨block, hfeature, hkind⟩ :=
            (Option.any_eq_true _ _).mp (Bool.and_eq_true_iff.mp hstarts).2
          rw [← List.take_append_drop i nodes, List.pairwise_append] at hpairs
          exact hpairs.2.2 w hw v hv block hfeature _ hblock ⟨beq_iff_eq.mp hkind, rfl⟩
        dsimp only
        rw [hfront]
  unfold blockLines
  rw [List.flatMap_congr hnode, ← List.flatMap_map Prod.fst (lineAmong members false),
    List.zipIdx_map_fst]

/-- **The layout of the flat document** is that of the tree, with all pieces from one document. -/
theorem layout_flat (schema : Schema) (mode : Mode) {d : Document} (h : d.BlockOrder) :
    layout schema mode d.flat = (layout schema mode d).map (Piece.inFile d.fileId) := by
  have hflat : (d.flat.visits.filterMap Visit.block?).Pairwise
      fun a b => ¬(a.1 = .feature ∧ b.1 = .expression) := by
    rw [filterMap_visits_flat d (fun _ => rfl) fun v => block?_of_isIncluded]
    exact h
  have hhost : hasHost schema d.flat.visits = hasHost schema d.visits := by
    unfold hasHost
    rw [filterMap_visits_flat d (fun _ => rfl) fun v hv => directive?_of_isIncluded hv schema _]
  have husings := flatMap_addition_flat schema d .usings
  have hbases := flatMap_addition_flat schema d .inherits
  have hparameters := flatMap_addition_flat schema d .parameters
  have hbody := flatMap_addition_flat schema d .transformBody
  have hmembers := flatMap_addition_flat schema d .featureMethods
  simp only [Pass.addition] at husings hbases hparameters hbody hmembers
  unfold layout headPieces tailPieces baseClasses
  rw [blockLines_eq_flatMap hflat, blockLines_eq_flatMap hflat, blockLines_eq_flatMap h,
    blockLines_eq_flatMap h, hhost, husings, hbases, hparameters, hbody, hmembers, List.isEmpty_map]
  have hopening : (namespaceOpening mode).map (Piece.inFile d.fileId) = namespaceOpening mode := by
    unfold namespaceOpening
    cases mode.namespace? <;> rfl
  have hclosing : (namespaceClosing mode).map (Piece.inFile d.fileId) = namespaceClosing mode := by
    unfold namespaceClosing
    cases mode.namespace? <;> rfl
  simp only [List.map_append, hopening, hclosing]
  cases (d.visits.flatMap (baseClass schema)).isEmpty <;> cases hasHost schema d.visits <;> rfl

end Generation

/-! ## The tokens of a class -/

/-- **The tokens of a node that go to a part of the class**, where the code of a feature block goes
to the members and all other code to the body. -/
def Visit.tokensFor (schema : Schema) (v : Visit) : Section → List Token
  | .usings => ((v.directive? schema .namespaceImport).bind (·.nonBlankValue? "namespace")).toList
  | .inherits => ((v.directive? schema .template).bind (·.nonBlankValue? "inherits")).toList
  | .parameters =>
    match v.directive? schema .parameter with
    | none => []
    | some d =>
      match d.nonBlankValue? "type", d.nonBlankValue? "name" with
      | some type, some name => [type, name]
      | _, _ => []
  | .transformBody => (v.block?.toList.filter fun block => block.1 != .feature).map Prod.snd
  | .featureMethods => (v.block?.toList.filter fun block => block.1 == .feature).map Prod.snd

namespace Generation

open Visit

/-- **The tokens that a class takes over**, part by part in the order of the class, each with the
node that it belongs to. -/
def classTokens (schema : Schema) (nodes : List Visit) : List (Visit × Token) :=
  [Section.usings, .inherits, .parameters, .transformBody, .featureMethods].flatMap fun part =>
    nodes.flatMap fun v => (v.tokensFor schema part).map (v, ·)

/-- What a node contributes to a part comes from its tokens for the part. -/
theorem filterMap_origin?_addition (schema : Schema) (v : Visit) (part : Section) :
    (Pass.addition schema false v part).filterMap Piece.origin?
      = (v.tokensFor schema part).map fun token => ⟨v.fileId, token.span⟩ := by
  have hline : ∀ kind token,
      (v.blockLine kind token).filterMap Piece.origin? = [⟨v.fileId, token.span⟩] := by
    intro kind token
    cases kind <;> rfl
  cases part with
  | usings =>
    unfold Pass.addition usingLine tokensFor
    cases (v.directive? schema .namespaceImport).bind (·.nonBlankValue? "namespace") <;> rfl
  | inherits =>
    unfold Pass.addition baseClass tokensFor
    cases (v.directive? schema .template).bind (·.nonBlankValue? "inherits") <;> rfl
  | parameters =>
    unfold Pass.addition property tokensFor
    dsimp only
    cases v.directive? schema .parameter with
    | none => rfl
    | some d =>
      dsimp only
      cases d.nonBlankValue? "type" <;> cases d.nonBlankValue? "name" <;> rfl
  | transformBody =>
    unfold Pass.addition lineAmong tokensFor
    rcases v.block? with _ | ⟨kind, token⟩
    · rfl
    · cases kind <;> simp [isMember, hline]
  | featureMethods =>
    unfold Pass.addition lineAmong tokensFor
    rcases v.block? with _ | ⟨kind, token⟩
    · rfl
    · cases kind <;> simp [isMember, hline]

/-- **The mappings of a class come from its tokens**, in their order, each from the document that
directly holds its node. -/
theorem map_origin_layout (schema : Schema) (mode : Mode) {d : Document} (h : d.BlockOrder) :
    (Piece.mappingsFrom 0 (layout schema mode d)).map Mapping.origin
      = (classTokens schema d.visits).map fun x => ⟨x.1.fileId, x.2.span⟩ := by
  have hpart : ∀ part,
      (d.visits.flatMap (Pass.addition schema false · part)).filterMap Piece.origin?
        = (d.visits.flatMap fun v => (v.tokensFor schema part).map (v, ·)).map
            fun x => ⟨x.1.fileId, x.2.span⟩ := by
    intro part
    rw [List.filterMap_flatMap, List.map_flatMap]
    simp only [filterMap_origin?_addition, List.map_map]
    rfl
  rw [Piece.map_origin_mappingsFrom, layout_filterMap_origin?, blockLines_eq_flatMap h,
    blockLines_eq_flatMap h]
  unfold classTokens
  simp only [List.filterMap_append, List.flatMap_cons, List.flatMap_nil, List.append_nil,
    List.map_append, ← hpart, List.append_assoc]
  rfl

/-- A token of the class belongs to a node of the tree, and so to the document that holds it. -/
theorem exists_owner_of_mem_classTokens {schema : Schema} {d : Document} {x : Visit × Token}
    (h : x ∈ classTokens schema d.visits) :
    ∃ owner ∈ d.family, owner.fileId = x.1.fileId ∧ x.1.node ∈ owner.nodes
      ∧ x.2 ∈ x.1.node.copyableTokens := by
  obtain ⟨part, -, hx⟩ := List.mem_flatMap.mp h
  obtain ⟨v, hv, hx⟩ := List.mem_flatMap.mp hx
  obtain ⟨token, htoken, rfl⟩ := List.mem_map.mp hx
  have hcopied : token ∈ v.copiedTokens schema := by
    have hcode : ∀ p : BlockKind × Token → Bool,
        token ∈ (v.block?.toList.filter p).map Prod.snd →
          token ∈ (v.block?.map Prod.snd).toList := by
      intro p hmem
      obtain ⟨block, hblock, rfl⟩ := List.mem_map.mp hmem
      rw [Option.mem_toList, Option.mem_toList.mp (List.mem_filter.mp hblock).1, Option.map_some]
    unfold copiedTokens
    cases part with
    | usings =>
      exact List.mem_append_left _ (List.mem_append_left _ (List.mem_append_left _ htoken))
    | inherits =>
      exact List.mem_append_left _ (List.mem_append_left _ (List.mem_append_right _ htoken))
    | parameters => exact List.mem_append_left _ (List.mem_append_right _ htoken)
    | transformBody => exact List.mem_append_right _ (hcode _ htoken)
    | featureMethods => exact List.mem_append_right _ (hcode _ htoken)
  obtain ⟨owner, howner, hfile, hnode⟩ := Document.exists_of_mem_visits hv
  exact ⟨owner, howner, hfile, hnode, mem_copyableTokens hcopied⟩

/-- **Includes behave as if their documents were written in their place.** For every tree of
documents in which no expression with code stands behind a feature block with code, every schema and
every mode, the class of the tree and that of the flat document have the same text. Their mappings
agree one by one in where they stand and in the span that they come from. They come, in this order,
from the tokens of the class, in the class of the tree each from the document that directly holds
the token, and in the other class all from the outermost one. -/
theorem generate_flat (schema : Schema) (mode : Mode) (d : Document) (h : d.BlockOrder) :
    ∃ unit flat, generate schema mode Stop.never d = .ok unit
      ∧ generate schema mode Stop.never d.flat = .ok flat
      ∧ flat.text = unit.text
      ∧ flat.mappings.toList.map (fun m => (m.generated, m.origin.span))
        = unit.mappings.toList.map (fun m => (m.generated, m.origin.span))
      ∧ unit.mappings.toList.map Mapping.origin
        = (classTokens schema d.visits).map (fun x => ⟨x.1.fileId, x.2.span⟩)
      ∧ flat.mappings.toList.map Mapping.origin
        = (classTokens schema d.visits).map (fun x => ⟨d.fileId, x.2.span⟩)
      ∧ ∀ x ∈ classTokens schema d.visits, ∃ owner ∈ d.family, owner.fileId = x.1.fileId
        ∧ x.1.node ∈ owner.nodes ∧ x.2 ∈ x.1.node.copyableTokens := by
  have hflat := generate_eq_ofPieces_layout schema mode d.flat
  rw [layout_flat schema mode h] at hflat
  have hmappings : (Piece.mappingsFrom 0 ((layout schema mode d).map (Piece.inFile d.fileId)))
      = (Piece.mappingsFrom 0 (layout schema mode d)).map (Mapping.inFile d.fileId) :=
    Piece.mappingsFrom_map_inFile d.fileId 0 _
  refine ⟨_, _, generate_eq_ofPieces_layout schema mode d, hflat, ?_, ?_, ?_, ?_, ?_⟩
  · exact Piece.textOf_map_inFile d.fileId _
  · unfold GeneratedUnit.ofPieces
    dsimp only
    rw [hmappings, List.map_map]
    rfl
  · exact map_origin_layout schema mode h
  · unfold GeneratedUnit.ofPieces
    dsimp only
    rw [hmappings, List.map_map]
    have horigins := congrArg (List.map (Origin.inFile d.fileId)) (map_origin_layout schema mode h)
    rw [List.map_map, List.map_map] at horigins
    exact horigins
  · intro x hx
    exact exists_owner_of_mem_classTokens hx

/-- A template that includes a document, which includes another one with an expression and a feature
block; both levels have a feature block of their own behind that. -/
def layeredTemplate : Document where
  fileId := 0
  path := "page.tt"
  source := "<#@ include file=\"outer.tt\" #><#+ c #>"
  nodes :=
    [.included ⟨"outer.tt", ⟨1, "outer.tt", "<#@ include file=\"inner.tt\" #><#+ b #>",
        [.included ⟨"inner.tt", ⟨2, "inner.tt", "<#= é #><#+ a #>",
            [.codeBlock { kind := .expression, code := some ⟨" é ", ⟨3, 7⟩⟩, span := ⟨0, 9⟩ },
              .codeBlock { kind := .feature, code := some ⟨" a ", ⟨12, 15⟩⟩, span := ⟨9, 17⟩ }]⟩,
            ⟨0, 30⟩⟩,
          .codeBlock { kind := .feature, code := some ⟨" b ", ⟨33, 36⟩⟩, span := ⟨30, 38⟩ }]⟩,
        ⟨0, 30⟩⟩,
      .codeBlock { kind := .feature, code := some ⟨" c ", ⟨33, 36⟩⟩, span := ⟨30, 38⟩ }]

/-- Three documents give to its class, and the flat document gives it all from one. -/
theorem generate_flat_layered :
    layeredTemplate.BlockOrder
      ∧ ∃ unit flat, generate .standard .designTime Stop.never layeredTemplate = .ok unit
        ∧ generate .standard .designTime Stop.never layeredTemplate.flat = .ok flat
        ∧ flat.text = unit.text
        ∧ unit.mappings.toList.map Mapping.origin
          = [⟨2, ⟨3, 7⟩⟩, ⟨2, ⟨12, 15⟩⟩, ⟨1, ⟨33, 36⟩⟩, ⟨0, ⟨33, 36⟩⟩]
        ∧ flat.mappings.toList.map Mapping.origin
          = [⟨0, ⟨3, 7⟩⟩, ⟨0, ⟨12, 15⟩⟩, ⟨0, ⟨33, 36⟩⟩, ⟨0, ⟨33, 36⟩⟩] := by
  have horder : layeredTemplate.BlockOrder := by decide +kernel
  obtain ⟨unit, flat, hunit, hflat, htext, -, horigins, hroot, -⟩ :=
    generate_flat .standard .designTime layeredTemplate horder
  refine ⟨horder, unit, flat, hunit, hflat, htext, horigins.trans ?_, hroot.trans ?_⟩
  · decide +kernel
  · decide +kernel

end Generation

end TextTemplate
