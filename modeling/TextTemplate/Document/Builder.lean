import TextTemplate.Document.Basic

/-!
# Building a document beside its source

A `Builder` appends the text of one node after another to a source and keeps the node with the spans
that the text takes there. Documents built this way agree with their source by construction: every
token covers its own text, and the nodes follow each other without gaps.
-/

namespace TextTemplate

/-- **A document under construction.** The nodes are those of the source so far, in order. -/
structure Builder where
  fileId : Nat
  path : String
  source : String := ""
  nodes : List Node := []

namespace Builder

/-- Where the next text will stand. -/
def here (b : Builder) : Nat := b.source.utf8ByteSize

/-- The text that opens a code block. -/
def opening : BlockKind → String
  | .statement => "<# "
  | .expression => "<#= "
  | .feature => "<#+ "

/-- The text that closes a directive or code block. -/
def closing : String := " #>"

/-- The token of a text that starts at an offset. -/
def tokenAt (offset : Nat) (text : String) : Token :=
  ⟨text, ⟨offset, offset + text.utf8ByteSize⟩⟩

/-- The text of an attribute, with the blank in front of it. -/
def attributeText (name value : String) : String := " " ++ name ++ "=\"" ++ value ++ "\""

/-- The attribute whose text, with the blank in front of it, starts at an offset. -/
def attributeAt (offset : Nat) (name value : String) : Attribute :=
  let nameToken := tokenAt (offset + 1) name
  let valueToken := tokenAt (nameToken.span.stop + 2) value
  { name := nameToken
    value := some valueToken
    span := ⟨nameToken.span.start, valueToken.span.stop + 1⟩ }

/-- The text of a list of attributes. -/
def attributesText : List (String × String) → String
  | [] => ""
  | (name, value) :: rest => attributeText name value ++ attributesText rest

/-- The attributes whose text starts at an offset. -/
def attributesAt (offset : Nat) : List (String × String) → List Attribute
  | [] => []
  | (name, value) :: rest =>
    attributeAt offset name value
      :: attributesAt (offset + (attributeText name value).utf8ByteSize) rest

/-- The text of a directive. -/
def directiveText (name : String) (attributes : List (String × String)) : String :=
  "<#@ " ++ name ++ attributesText attributes ++ closing

/-- The directive whose text starts at an offset. -/
def directiveAt (offset : Nat) (name : String) (attributes : List (String × String)) : Directive :=
  let nameToken := tokenAt (offset + "<#@ ".utf8ByteSize) name
  { name := nameToken
    attributes := attributesAt nameToken.span.stop attributes
    span := ⟨offset, offset + (directiveText name attributes).utf8ByteSize⟩ }

/-- The builder with more text and the nodes that stand in it. -/
def append (b : Builder) (text : String) (nodes : List Node) : Builder :=
  { b with source := b.source ++ text, nodes := b.nodes ++ nodes }

/-! ## The calls -/

/-- An empty document. -/
def new (fileId : Nat) (path : String) : Builder := { fileId, path }

/-- Literal text. -/
def text (s : String) (b : Builder) : Builder :=
  b.append s [.text (tokenAt b.here s)]

/-- A directive with its attributes and their values. -/
def directive (name : String) (attributes : List (String × String)) (b : Builder) : Builder :=
  b.append (directiveText name attributes) [.directive (directiveAt b.here name attributes)]

/-- A code block. Without code the block is empty. -/
def codeBlock (kind : BlockKind) (code : String) (b : Builder) : Builder :=
  let content := opening kind ++ code ++ closing
  b.append content
    [.codeBlock
      { kind
        code :=
          if code.isEmpty then none
          else some (tokenAt (b.here + (opening kind).utf8ByteSize) code)
        span := ⟨b.here, b.here + content.utf8ByteSize⟩ }]

/-- A directive that includes a document, and the document right behind it. -/
def includeDocument (path : String) (document : Document) (b : Builder) : Builder :=
  let asking := directiveAt b.here "include" [("file", path)]
  b.append (directiveText "include" [("file", path)])
    [.directive asking, .included ⟨path, document, asking.span⟩]

/-- A mark, without width, for a token that is missing at the end of the source so far. -/
def missing (expected : String) (b : Builder) : Builder :=
  b.append "" [.missing ⟨expected, ⟨b.here, b.here⟩⟩]

/-- The attributes with an error on the first one of a name. -/
def markAttribute (name message : String) : List Attribute → List Attribute
  | [] => []
  | a :: rest =>
    if Text.sameName a.name.text name then { a with valueError := some message } :: rest
    else a :: markAttribute name message rest

/-- The nodes, last one first, with an error on an attribute of the first directive. -/
def markDirective (name message : String) : List Node → List Node
  | [] => []
  | .directive d :: rest =>
    .directive { d with attributes := markAttribute name message d.attributes } :: rest
  | node :: rest => node :: markDirective name message rest

/-- Says why the value of an attribute of the last directive could not be read. Nothing happens if
there is no directive or no such attribute. -/
def valueError (name message : String) (b : Builder) : Builder :=
  { b with nodes := (markDirective name message b.nodes.reverse).reverse }

/-- **The document built so far.** -/
def build (b : Builder) : Document := ⟨b.fileId, b.path, b.source, b.nodes⟩

end Builder

end TextTemplate
