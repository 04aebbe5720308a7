import TextTemplate.Text.Blank
import TextTemplate.Text.Fold
import TextTemplate.Text.Slice

/-!
# Template documents

A text template, already parsed: literal text, directives, code blocks and the documents it
includes, in the order in which they stand. Every span of a node counts bytes of the source of the
document that directly holds the node, so the nodes of an included document speak about another
text than their surroundings.

Nothing is asked of the spans and texts here; a document is whatever a parser or a file says it is.
The properties of documents that are made alongside their source are the subject of
`TextTemplate.Document.Builder`.
-/

namespace TextTemplate

/-- **A piece of source text** and where it stands. -/
structure Token where
  text : String
  span : Span
deriving DecidableEq, Repr, Inhabited

/-- **An attribute of a directive**, `name="value"`. A value that could not be read carries the
reason. -/
structure Attribute where
  name : Token
  value : Option Token := none
  valueError : Option String := none
  span : Span
deriving DecidableEq, Repr, Inhabited

/-- **A directive**, `<#@ name attribute="value" #>`. -/
structure Directive where
  name : Token
  attributes : List Attribute := []
  span : Span
deriving DecidableEq, Repr, Inhabited

/-- What the code of a block is for. -/
inductive BlockKind where
  /-- `<# code #>` runs when the template is transformed. -/
  | statement
  /-- `<#= code #>` writes the value of an expression. -/
  | expression
  /-- `<#+ code #>` adds members to the class of the template. -/
  | feature
deriving DecidableEq, Repr, Inhabited

/-- **A code block.** An empty block has no code. -/
structure CodeBlock where
  kind : BlockKind
  code : Option Token := none
  span : Span
deriving DecidableEq, Repr, Inhabited

/-- **A token that the template should have and does not have**, such as the end of a block. -/
structure MissingToken where
  expected : String
  span : Span
deriving DecidableEq, Repr, Inhabited

mutual

/-- **A part of a document.** -/
inductive Node where
  | text (token : Token)
  | directive (directive : Directive)
  | codeBlock (block : CodeBlock)
  | included (part : Include)
  | missing (marker : MissingToken)

/-- **An included document**, which stands right behind the directive that asks for it. The path is
the one written in the directive, and the span is that of the directive. -/
structure Include where
  path : String
  document : Document
  span : Span

/-- **A template document**: the number that names it, its path, its source and its nodes in
order. -/
structure Document where
  fileId : Nat
  path : String
  source : String
  nodes : List Node

end

instance : Inhabited Document := ⟨⟨0, "", "", []⟩⟩

instance : Inhabited Node := ⟨.text default⟩

namespace Token

/-- Whether the text has only blank characters. -/
def isBlank (t : Token) : Bool := Text.allBlank t.text

end Token

namespace Directive

/-- **The attribute of a name.** Of several with the same name the first one counts. -/
def attribute? (d : Directive) (name : String) : Option Attribute :=
  d.attributes.find? fun a => Text.sameName a.name.text name

/-- Whether there is an attribute of the name. -/
def hasAttribute (d : Directive) (name : String) : Bool := (d.attribute? name).isSome

/-- The value token of the attribute of a name. -/
def valueToken? (d : Directive) (name : String) : Option Token :=
  (d.attribute? name).bind Attribute.value

/-- The text of the value of the attribute of a name. -/
def value? (d : Directive) (name : String) : Option String :=
  (d.valueToken? name).map Token.text

/-- The value token of the attribute of a name, unless it is blank. -/
def nonBlankValue? (d : Directive) (name : String) : Option Token :=
  (d.valueToken? name).filter fun t => !t.isBlank

end Directive

namespace Node

/-- The span of a node in the document that holds it. -/
def span : Node → Span
  | .text token => token.span
  | .directive d => d.span
  | .codeBlock block => block.span
  | .included part => part.span
  | .missing marker => marker.span

/-- Whether a node is text that has only blank characters. -/
def isWhitespace : Node → Bool
  | .text token => token.isBlank
  | _ => false

/-- Whether a node is a feature block. -/
def isFeature : Node → Bool
  | .codeBlock block => block.kind == .feature
  | _ => false

/-- The directive that a node is. -/
def directive? : Node → Option Directive
  | .directive d => some d
  | _ => none

/-- **The position of the last feature block** in a list of nodes. -/
def lastFeature? : List Node → Option Nat
  | [] => none
  | node :: nodes =>
    match lastFeature? nodes with
    | some i => some (i + 1)
    | none => if node.isFeature then some 0 else none

/-! ## Included documents

The documents that a list of nodes includes, directly or through other included documents: each
include is followed by those of its own document. -/

mutual

/-- The includes in a node, itself first. -/
def includes : Node → List Include
  | .included ⟨path, ⟨fileId, docPath, source, nodes⟩, span⟩ =>
    ⟨path, ⟨fileId, docPath, source, nodes⟩, span⟩ :: includesOf nodes
  | _ => []

/-- **The includes in a list of nodes**, in the order in which they are met. -/
def includesOf : List Node → List Include
  | [] => []
  | node :: nodes => node.includes ++ includesOf nodes

end

end Node

namespace Document

/-- The length of the source in bytes. -/
def size (d : Document) : Nat := d.source.utf8ByteSize

/-- Whether the source is empty. -/
def isEmpty (d : Document) : Bool := d.size == 0

/-- The directives written in the document itself. -/
def directives (d : Document) : List Directive := d.nodes.filterMap Node.directive?

/-- The position of the last feature block written in the document itself. -/
def lastFeature? (d : Document) : Option Nat := Node.lastFeature? d.nodes

/-- Every include of the document, directly or through others. -/
def includes (d : Document) : List Include := Node.includesOf d.nodes

/-- **Every document of the tree**: the document itself, then those that it includes. -/
def family (d : Document) : List Document := d :: d.includes.map Include.document

/-- The source text that a span covers. -/
def slice? (d : Document) (span : Span) : Option String := Text.slice? span d.source

/-- **The document of a number**: the first of the family that has it. -/
def find? (d : Document) (fileId : Nat) : Option Document :=
  d.family.find? fun member => member.fileId == fileId

end Document

end TextTemplate
