import TextTemplate.Generation.Basic
import TextTemplate.Proofs.Pieces
import TextTemplate.Proofs.Traversal

/-!
# The layout of a generated class

What the class of a template looks like, said without a pass: the pieces of the class are fixed
texts with, between them, what the nodes of the tree contribute, in the order of the nodes. What a
node contributes depends on the node, on the document that directly holds it, and for an expression
of the outermost document on whether a feature block with code stands in front of it. Nothing else
is remembered from node to node.

A layout is a list of pieces, so a statement about all pieces of a class is proved once for the
fixed texts and once for what a node hands over (`forall_mem_layout`).
-/

namespace TextTemplate

/-! ## What a node contributes -/

namespace Visit

/-- The directive that a node is, if the schema gives it the kind. -/
def directive? (schema : Schema) (kind : DirectiveKind) (v : Visit) : Option Directive :=
  v.node.directive?.filter fun d => schema.kindOf? d == some kind

/-- The kind and the code of the block that a node is, if it is one that has code. -/
def block? (v : Visit) : Option (BlockKind × Token) :=
  match v.node with
  | .codeBlock block => block.code.map fun code => (block.kind, code)
  | _ => none

/-- The value of an attribute of a node, as a piece. -/
def value (v : Visit) (token : Token) : Piece := .value token.text ⟨v.fileId, token.span⟩

/-- The code of a node, as a piece. -/
def code (v : Visit) (token : Token) : Piece := .code token.text ⟨v.fileId, token.span⟩

/-- A fixed text that ends a line. -/
def line (text : String) : Piece := .fixed (text ++ "\n")

/-- **An import is a `using` line**, unless its namespace is blank. -/
def usingLine (schema : Schema) (v : Visit) : List Piece :=
  match (v.directive? schema .namespaceImport).bind (·.nonBlankValue? "namespace") with
  | none => []
  | some ns => [.fixed "using ", v.value ns, line ";"]

/-- **A template directive names a base class**, unless the name is blank. -/
def baseClass (schema : Schema) (v : Visit) : List Piece :=
  match (v.directive? schema .template).bind (·.nonBlankValue? "inherits") with
  | none => []
  | some base => [v.value base]

/-- **A parameter is a property**, unless its type or its name is blank. -/
def property (schema : Schema) (v : Visit) : List Piece :=
  match v.directive? schema .parameter with
  | none => []
  | some d =>
    match d.nonBlankValue? "type", d.nonBlankValue? "name" with
    | some type, some name =>
      [.fixed "[System.CodeDom.Compiler.GeneratedCodeAttribute] private global::", v.value type,
        .fixed " ", v.value name, .fixed " \x7b get \x7b return default(global::",
        .fixed type.text, line "); \x7d \x7d"]
    | _, _ => []

/-- Whether a template directive asks for a host. -/
def asksForHost (d : Directive) : Bool :=
  (d.value? "hostspecific").any fun value => Text.sameName value "true"

/-- Whether a node is a feature block of the outermost document that has code. -/
def startsFeatures (v : Visit) : Bool :=
  v.depth == 0 && v.block?.any fun block => block.1 == .feature

/-- **Whether a block is a member of the class**, if `started` says whether a feature block of the
outermost document stands in front of it: a feature is one, and so is an expression of the outermost
document behind such a block. -/
def isMember (started : Bool) (v : Visit) : BlockKind → Bool
  | .feature => true
  | .expression => v.depth == 0 && started
  | .statement => false

/-- **The line of a block**: its code between the markers, with the call that writes its value
around an expression. -/
def blockLine (v : Visit) (kind : BlockKind) (token : Token) : List Piece :=
  match kind with
  | .expression =>
    [.fixed ("this.Write(" ++ Generation.toStringHelper ++ "("), .fixed codeStart, v.code token,
      .fixed codeEnd, line "));"]
  | _ => [.fixed codeStart, v.code token, .fixed codeEnd, .fixed "\n"]

/-- **The tokens of a node that the class takes over**: the namespace of an import, the base class
that a template directive names, the type and the name of a parameter, and the code of a block. -/
def copiedTokens (schema : Schema) (v : Visit) : List Token :=
  ((v.directive? schema .namespaceImport).bind (·.nonBlankValue? "namespace")).toList
    ++ ((v.directive? schema .template).bind (·.nonBlankValue? "inherits")).toList
    ++ (match v.directive? schema .parameter with
      | none => []
      | some d =>
        match d.nonBlankValue? "type", d.nonBlankValue? "name" with
        | some type, some name => [type, name]
        | _, _ => [])
    ++ (v.block?.map Prod.snd).toList

/-- The line of a block, if it is to stand among the members, or if it is to stand in the body. -/
def lineAmong (members started : Bool) (v : Visit) : List Piece :=
  match v.block? with
  | none => []
  | some (kind, token) =>
    if v.isMember started kind = members then v.blockLine kind token else []

end Visit

/-! ## The parts of the class -/

namespace Generation

open Visit

/-- **The lines of the blocks**, those of the members or those of the body, in the order of the
nodes. Each node looks at the nodes in front of it. -/
def blockLines (members : Bool) (nodes : List Visit) : List Piece :=
  nodes.zipIdx.flatMap fun x => x.1.lineAmong members ((nodes.take x.2).any startsFeatures)

/-- **The base class**: the names that template directives give, or the usual one if there are
none. -/
def baseClasses (schema : Schema) (nodes : List Visit) : List Piece :=
  if (nodes.flatMap (baseClass schema)).isEmpty then [.fixed defaultBaseClass]
  else nodes.flatMap (baseClass schema)

/-- **Whether the class has a host**: the last template directive decides. -/
def hasHost (schema : Schema) (nodes : List Visit) : Bool :=
  (nodes.filterMap (directive? schema .template)).getLast?.any asksForHost

/-- The class up to the body of its method. -/
def headPieces (schema : Schema) (nodes : List Visit) : List Piece :=
  [line "using System;"] ++ nodes.flatMap (usingLine schema)
    ++ [line ("[" ++ generatedAttribute ++ "]"), .fixed ("public class " ++ className ++ " : ")]
    ++ baseClasses schema nodes
    ++ [line " \x7b", line ("[" ++ generatedAttribute ++ "] private static string "
        ++ toStringHelper ++ "(object value) \x7b return null; \x7d")]
    ++ (if hasHost schema nodes then [line hostProperty] else [])
    ++ nodes.flatMap (property schema)
    ++ [line ("[System.CodeDom.Compiler.GeneratedCodeAttribute] public override string "
        ++ "TransformText() \x7b")]

/-- The class from the body of its method on. -/
def tailPieces (nodes : List Visit) : List Piece :=
  blockLines false nodes
    ++ [.fixed "\n", line "return GenerationEnvironment.ToString();", line "\x7d"]
    ++ blockLines true nodes ++ [line "\x7d"]

/-- The line that opens the namespace, if there is one. -/
def namespaceOpening (mode : Mode) : List Piece :=
  (mode.namespace?.map fun ns => line ("namespace " ++ ns ++ " \x7b")).toList

/-- The line that closes it. -/
def namespaceClosing (mode : Mode) : List Piece := (mode.namespace?.map fun _ => line "\x7d").toList

/-- **The layout of the class of a document**, in the namespace if there is one. -/
def layout (schema : Schema) (mode : Mode) (d : Document) : List Piece :=
  (namespaceOpening mode ++ headPieces schema d.visits)
    ++ (tailPieces d.visits ++ namespaceClosing mode)

end Generation

/-- **The class that a list of pieces describes.** -/
def GeneratedUnit.ofPieces (ps : List Piece) : GeneratedUnit where
  text := Piece.textOf ps
  mappings := (Piece.mappingsFrom 0 ps).toArray

namespace Generation

open Visit

/-! ## What the pieces of a class are -/

/-- **The fixed texts of a class up to the body of its method**, whatever the template says. -/
def headTexts : List Piece :=
  [.fixed "using ", line ";", .fixed defaultBaseClass,
    .fixed "[System.CodeDom.Compiler.GeneratedCodeAttribute] private global::", .fixed " ",
    .fixed " \x7b get \x7b return default(global::", line "); \x7d \x7d", line "using System;",
    line ("[" ++ generatedAttribute ++ "]"), .fixed ("public class " ++ className ++ " : "),
    line " \x7b",
    line ("[" ++ generatedAttribute ++ "] private static string " ++ toStringHelper
      ++ "(object value) \x7b return null; \x7d"),
    line hostProperty,
    line ("[System.CodeDom.Compiler.GeneratedCodeAttribute] public override string "
      ++ "TransformText() \x7b")]

/-- **The fixed texts of a class from the body of its method on.** -/
def tailTexts : List Piece :=
  [.fixed ("this.Write(" ++ toStringHelper ++ "("), .fixed codeStart, .fixed codeEnd, line "));",
    .fixed "\n", line "return GenerationEnvironment.ToString();", line "\x7d"]

section Pieces

variable {P : Piece → Prop} {schema : Schema}

/-- What holds of the fixed pieces and of the tokens that a node hands over holds of the pieces of
an import. -/
theorem forall_mem_usingLine {v : Visit} (hfixed : ∀ p ∈ headTexts, P p)
    (hcopied : ∀ token ∈ v.copiedTokens schema, P (v.value token)) :
    ∀ p ∈ v.usingLine schema, P p := by
  intro p hp
  unfold usingLine at hp
  split at hp
  · cases hp
  · rename_i ns hns
    have hns' : ns ∈ v.copiedTokens schema := by simp [copiedTokens, hns]
    simp only [List.mem_cons, List.not_mem_nil, or_false] at hp
    rcases hp with rfl | rfl | rfl
    · exact hfixed _ (by simp [headTexts])
    · exact hcopied ns hns'
    · exact hfixed _ (by simp [headTexts])

/-- The same for a base class. -/
theorem forall_mem_baseClass {v : Visit}
    (hcopied : ∀ token ∈ v.copiedTokens schema, P (v.value token)) :
    ∀ p ∈ v.baseClass schema, P p := by
  intro p hp
  unfold baseClass at hp
  split at hp
  · cases hp
  · rename_i base hbase
    have hbase' : base ∈ v.copiedTokens schema := by simp [copiedTokens, hbase]
    rw [List.mem_singleton.mp hp]
    exact hcopied base hbase'

/-- The same for a parameter, whose type stands a second time as a fixed text. -/
theorem forall_mem_property {v : Visit} (hfixed : ∀ p ∈ headTexts, P p)
    (hcopied : ∀ token ∈ v.copiedTokens schema, P (v.value token) ∧ P (.fixed token.text)) :
    ∀ p ∈ v.property schema, P p := by
  intro p hp
  unfold property at hp
  split at hp
  · cases hp
  · rename_i d hd
    split at hp
    · rename_i type name htype hname
      have htokens : type ∈ v.copiedTokens schema ∧ name ∈ v.copiedTokens schema := by
        simp [copiedTokens, hd, htype, hname]
      simp only [List.mem_cons, List.not_mem_nil, or_false] at hp
      rcases hp with rfl | rfl | rfl | rfl | rfl | rfl | rfl
      · exact hfixed _ (by simp [headTexts])
      · exact (hcopied type htokens.1).1
      · exact hfixed _ (by simp [headTexts])
      · exact (hcopied name htokens.2).1
      · exact hfixed _ (by simp [headTexts])
      · exact (hcopied type htokens.1).2
      · exact hfixed _ (by simp [headTexts])
    · cases hp

/-- The same for the line of a block. -/
theorem forall_mem_lineAmong {v : Visit} (hfixed : ∀ p ∈ tailTexts, P p)
    (hcode : ∀ kind token, v.block? = some (kind, token) → P (v.code token))
    (members started : Bool) :
    ∀ p ∈ v.lineAmong members started, P p := by
  intro p hp
  unfold lineAmong at hp
  split at hp
  · cases hp
  · rename_i kind token hblock
    split at hp
    · unfold Visit.blockLine at hp
      split at hp <;> simp only [List.mem_cons, List.not_mem_nil, or_false] at hp
      · rcases hp with rfl | rfl | rfl | rfl | rfl
        · exact hfixed _ (by simp [tailTexts])
        · exact hfixed _ (by simp [tailTexts])
        · exact hcode _ token hblock
        · exact hfixed _ (by simp [tailTexts])
        · exact hfixed _ (by simp [tailTexts])
      · rcases hp with rfl | rfl | rfl | rfl
        · exact hfixed _ (by simp [tailTexts])
        · exact hcode _ token hblock
        · exact hfixed _ (by simp [tailTexts])
        · exact hfixed _ (by simp [tailTexts])
    · cases hp

/-- The same for the lines of all blocks. -/
theorem forall_mem_blockLines {nodes : List Visit} (hfixed : ∀ p ∈ tailTexts, P p)
    (hcode : ∀ v ∈ nodes, ∀ kind token, v.block? = some (kind, token) → P (v.code token))
    (members : Bool) :
    ∀ p ∈ blockLines members nodes, P p := by
  intro p hp
  obtain ⟨⟨v, i⟩, hv, hp⟩ := List.mem_flatMap.mp hp
  exact forall_mem_lineAmong hfixed (hcode v (List.fst_mem_of_mem_zipIdx hv)) members _ p hp

/-- **What holds of every piece up to the body of the method.** -/
theorem forall_mem_headPieces {nodes : List Visit} (hfixed : ∀ p ∈ headTexts, P p)
    (hcopied : ∀ v ∈ nodes, ∀ token ∈ v.copiedTokens schema,
      P (v.value token) ∧ P (.fixed token.text)) :
    ∀ p ∈ headPieces schema nodes, P p := by
  have hvalue : ∀ v ∈ nodes, ∀ token ∈ v.copiedTokens schema, P (v.value token) :=
    fun v hv token htoken => (hcopied v hv token htoken).1
  have hbase : ∀ p ∈ nodes.flatMap (baseClass schema), P p := by
    intro p hp
    obtain ⟨v, hv, hp⟩ := List.mem_flatMap.mp hp
    exact forall_mem_baseClass (hvalue v hv) p hp
  intro p hp
  simp only [headPieces, List.mem_append, List.mem_cons, List.not_mem_nil, or_false,
    List.mem_flatMap] at hp
  rcases hp with ((((((rfl | ⟨v, hv, hp⟩) | rfl | rfl) | hp) | rfl | rfl) | hp) | ⟨v, hv, hp⟩) | rfl
  · exact hfixed _ (by simp [headTexts])
  · exact forall_mem_usingLine hfixed (hvalue v hv) p hp
  · exact hfixed _ (by simp [headTexts])
  · exact hfixed _ (by simp [headTexts])
  · unfold baseClasses at hp
    split at hp
    · rw [List.mem_singleton.mp hp]
      exact hfixed _ (by simp [headTexts])
    · exact hbase p hp
  · exact hfixed _ (by simp [headTexts])
  · exact hfixed _ (by simp [headTexts])
  · split at hp
    · rw [List.mem_singleton.mp hp]
      exact hfixed _ (by simp [headTexts])
    · cases hp
  · exact forall_mem_property hfixed (hcopied v hv) p hp
  · exact hfixed _ (by simp [headTexts])

/-- **What holds of every piece from the body of the method on.** -/
theorem forall_mem_tailPieces {nodes : List Visit} (hfixed : ∀ p ∈ tailTexts, P p)
    (hcode : ∀ v ∈ nodes, ∀ kind token, v.block? = some (kind, token) → P (v.code token)) :
    ∀ p ∈ tailPieces nodes, P p := by
  intro p hp
  simp only [tailPieces, List.mem_append, List.mem_cons, List.not_mem_nil, or_false] at hp
  rcases hp with ((hp | rfl | rfl | rfl) | hp) | rfl
  · exact forall_mem_blockLines hfixed hcode false p hp
  · exact hfixed _ (by simp [tailTexts])
  · exact hfixed _ (by simp [tailTexts])
  · exact hfixed _ (by simp [tailTexts])
  · exact forall_mem_blockLines hfixed hcode true p hp
  · exact hfixed _ (by simp [tailTexts])

/-- **What holds of every piece of a class**: what holds of the fixed texts, of the line of the
namespace, and of what the nodes of the tree hand over. -/
theorem forall_mem_layout {mode : Mode} {d : Document}
    (hfixed : ∀ p ∈ headTexts ++ tailTexts, P p)
    (hnamespace : ∀ ns, mode.namespace? = some ns → P (line ("namespace " ++ ns ++ " \x7b")))
    (hcopied : ∀ v ∈ d.visits, ∀ token ∈ v.copiedTokens schema,
      P (v.value token) ∧ P (v.code token) ∧ P (.fixed token.text)) :
    ∀ p ∈ layout schema mode d, P p := by
  have hhead : ∀ p ∈ headTexts, P p := fun p hp => hfixed p (List.mem_append_left _ hp)
  have htail : ∀ p ∈ tailTexts, P p := fun p hp => hfixed p (List.mem_append_right _ hp)
  intro p hp
  simp only [layout, namespaceOpening, namespaceClosing, List.mem_append, Option.mem_toList,
    Option.map_eq_some_iff] at hp
  rcases hp with (⟨ns, hns, rfl⟩ | hp) | (hp | ⟨ns, hns, rfl⟩)
  · exact hnamespace ns hns
  · refine forall_mem_headPieces hhead (fun v hv token htoken => ?_) p hp
    obtain ⟨hvalue, -, htype⟩ := hcopied v hv token htoken
    exact ⟨hvalue, htype⟩
  · refine forall_mem_tailPieces htail (fun v hv kind token hblock => ?_) p hp
    have htoken : token ∈ v.copiedTokens schema := by simp [copiedTokens, hblock]
    exact (hcopied v hv token htoken).2.1
  · exact htail _ (by simp [tailTexts])

end Pieces

/-- The usual base class is not copied. -/
theorem filterMap_origin?_baseClasses (schema : Schema) (nodes : List Visit) :
    (baseClasses schema nodes).filterMap Piece.origin?
      = (nodes.flatMap (baseClass schema)).filterMap Piece.origin? := by
  unfold baseClasses
  split
  · rename_i hempty
    rw [List.isEmpty_iff.mp hempty]
    rfl
  · rfl

/-- The places that the pieces of a layout were copied from. -/
theorem layout_filterMap_origin? (schema : Schema) (mode : Mode) (d : Document) :
    (layout schema mode d).filterMap Piece.origin?
      = (d.visits.flatMap (usingLine schema) ++ d.visits.flatMap (baseClass schema)
          ++ d.visits.flatMap (property schema) ++ blockLines false d.visits
          ++ blockLines true d.visits).filterMap Piece.origin? := by
  unfold layout namespaceOpening headPieces tailPieces namespaceClosing
  cases mode.namespace? <;> cases hasHost schema d.visits <;>
    simp only [List.filterMap_append, filterMap_origin?_baseClasses, List.filterMap_cons,
      List.filterMap_nil, line, Piece.origin?, Bool.false_eq_true, if_false, if_true,
      Option.map_none, Option.map_some, Option.toList_none, Option.toList_some, List.append_assoc,
      List.nil_append, List.append_nil]

/-- The fixed texts come from nowhere. -/
theorem origin?_of_mem_texts : ∀ p ∈ headTexts ++ tailTexts, p.origin? = none := by
  simp [headTexts, tailTexts, line, Piece.origin?]

end Generation

end TextTemplate
