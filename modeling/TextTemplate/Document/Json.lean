import TextTemplate.Document.Basic
import TextTemplate.Json.Render
import TextTemplate.Json.Shape

/-!
# Documents as JSON

A document is saved as an object of its fields, and a node as an object of the fields of what it is,
with a field `node` that names its kind. `Document.toJson` writes this form; `Document.ofText` reads
it, and also the form in which a record is a list of its fields.

Reading goes from left to right and reports the first error. The nodes of the outermost document are
read one after another, each of them whole before its fields are looked at; only the kind of a node
is looked at as soon as it is met. Everything inside a node is therefore read from a JSON value, by
recursion on that value, and the outermost document from the text itself.

In the list form of a record the fields that may be left out take their default when the list ends
before them.
-/

namespace TextTemplate

open Json

/-! ## Writing -/

/-- A span as an object. -/
def Span.toJson (s : Span) : Value :=
  .obj [("start", .nat s.start), ("end", .nat s.stop)]

/-- A token as an object. -/
def Token.toJson (t : Token) : Value :=
  .obj [("text", .str t.text), ("span", t.span.toJson)]

/-- An attribute as an object. -/
def Attribute.toJson (a : Attribute) : Value :=
  .obj [("name", a.name.toJson), ("value", .ofOption Token.toJson a.value),
    ("value_error", .ofOption .str a.valueError), ("span", a.span.toJson)]

/-- The kinds of nodes. -/
inductive NodeKind where
  | text
  | directive
  | codeBlock
  | included
  | missing
deriving DecidableEq, Repr

namespace NodeKind

/-- The name of a kind in JSON. -/
def name : NodeKind → String
  | .text => "text"
  | .directive => "directive"
  | .codeBlock => "code_block"
  | .included => "include"
  | .missing => "missing"

/-- Every kind, in the order in which messages list them. -/
def all : List NodeKind := [.text, .directive, .codeBlock, .included, .missing]

/-- The kind of a name. -/
def ofName (name : String) : Except ShapeError NodeKind :=
  match all.find? fun kind => kind.name == name with
  | some kind => return kind
  | none => throw (.unknownVariant name (all.map NodeKind.name))

end NodeKind

namespace BlockKind

/-- The name of a kind in JSON. -/
def name : BlockKind → String
  | .statement => "statement"
  | .expression => "expression"
  | .feature => "feature"

/-- Every kind, in the order in which messages list them. -/
def all : List BlockKind := [.statement, .expression, .feature]

/-- The kind of a name. -/
def ofName (name : String) : Except ShapeError BlockKind :=
  match all.find? fun kind => kind.name == name with
  | some kind => return kind
  | none => throw (.unknownVariant name (all.map BlockKind.name))

end BlockKind

mutual

/-- A node as an object. -/
def Node.toJson : Node → Value
  | .text token =>
    .obj [("node", .str "text"), ("text", .str token.text), ("span", token.span.toJson)]
  | .directive d =>
    .obj [("node", .str "directive"), ("name", d.name.toJson),
      ("attributes", .arr (d.attributes.map Attribute.toJson)), ("span", d.span.toJson)]
  | .codeBlock block =>
    .obj [("node", .str "code_block"), ("kind", .str block.kind.name),
      ("code", .ofOption Token.toJson block.code), ("span", block.span.toJson)]
  | .included ⟨path, ⟨fileId, docPath, source, nodes⟩, span⟩ =>
    .obj [("node", .str "include"), ("path", .str path),
      ("document", .obj [("file_id", .nat fileId), ("path", .str docPath),
        ("source", .str source), ("nodes", .arr (Node.listToJson nodes))]),
      ("span", span.toJson)]
  | .missing marker =>
    .obj [("node", .str "missing"), ("expected", .str marker.expected),
      ("span", marker.span.toJson)]

/-- The nodes of a document as objects. -/
def Node.listToJson : List Node → List Value
  | [] => []
  | node :: nodes => node.toJson :: Node.listToJson nodes

end

/-- **A document as an object.** -/
def Document.toJson (d : Document) : Value :=
  .obj [("file_id", .nat d.fileId), ("path", .str d.path), ("source", .str d.source),
    ("nodes", .arr (Node.listToJson d.nodes))]

/-! ## Reading the records that hold no document

Each record has a structure for the fields read so far, a function that reads one field of its
object, and a reader for both of its forms. -/

section Records

/-- The fields of a span read so far. -/
structure Span.Fields where
  start : Option Nat := none
  stop : Option Nat := none

/-- Reads one field of a span. A span has no other fields than its own. -/
def Span.readField (r : Span.Fields) (field : String × Value) : Except ShapeError Span.Fields :=
  match field with
  | ("start", v) => do
    unread r.start "start"
    return { r with start := some (← v.readNat) }
  | ("end", v) => do
    unread r.stop "end"
    return { r with stop := some (← v.readNat) }
  | (name, _) => throw (.unknownField name ["start", "end"])

/-- **Reads a span.** -/
def Span.ofJson : Value → Except ShapeError Span
  | .obj fields => do
    let r ← fields.foldlM Span.readField {}
    return ⟨← required r.start "start", ← required r.stop "end"⟩
  | .arr items => do
    let (start, items) ← takeItem 0 "struct Range" Value.readNat items
    let (stop, items) ← takeItem 1 "struct Range" Value.readNat items
    noMoreItems 2 items
    return ⟨start, stop⟩
  | v => v.wrongType "struct Range"

/-- The fields of a token read so far. -/
structure Token.Fields where
  text : Option String := none
  span : Option Span := none

/-- Reads one field of a token. -/
def Token.readField (r : Token.Fields) (field : String × Value) : Except ShapeError Token.Fields :=
  match field with
  | ("text", v) => do
    unread r.text "text"
    return { r with text := some (← v.readStr) }
  | ("span", v) => do
    unread r.span "span"
    return { r with span := some (← Span.ofJson v) }
  | _ => return r

/-- Reads the fields of a token. -/
def Token.ofFields (fields : List (String × Value)) : Except ShapeError Token := do
  let r ← fields.foldlM Token.readField {}
  return ⟨← required r.text "text", ← required r.span "span"⟩

/-- Reads the list form of a token. -/
def Token.ofItems (items : List Value) : Except ShapeError Token := do
  let (text, items) ← takeItem 0 (recordOf "Token" 2) Value.readStr items
  let (span, items) ← takeItem 1 (recordOf "Token" 2) Span.ofJson items
  noMoreItems 2 items
  return ⟨text, span⟩

/-- **Reads a token.** -/
def Token.ofJson : Value → Except ShapeError Token
  | .obj fields => Token.ofFields fields
  | .arr items => Token.ofItems items
  | v => v.wrongType "struct Token"

/-- The fields of an attribute read so far. -/
structure Attribute.Fields where
  name : Option Token := none
  value : Option (Option Token) := none
  valueError : Option (Option String) := none
  span : Option Span := none

/-- Reads one field of an attribute. -/
def Attribute.readField (r : Attribute.Fields) (field : String × Value) :
    Except ShapeError Attribute.Fields :=
  match field with
  | ("name", v) => do
    unread r.name "name"
    return { r with name := some (← Token.ofJson v) }
  | ("value", v) => do
    unread r.value "value"
    return { r with value := some (← v.readOption Token.ofJson) }
  | ("value_error", v) => do
    unread r.valueError "value_error"
    return { r with valueError := some (← v.readOption Value.readStr) }
  | ("span", v) => do
    unread r.span "span"
    return { r with span := some (← Span.ofJson v) }
  | _ => return r

/-- **Reads an attribute.** Its value and the error on it may be left out. -/
def Attribute.ofJson : Value → Except ShapeError Attribute
  | .obj fields => do
    let r ← fields.foldlM Attribute.readField {}
    let name ← required r.name "name"
    let span ← required r.span "span"
    return ⟨name, r.value.getD none, r.valueError.getD none, span⟩
  | .arr items => do
    let (name, items) ← takeItem 0 (recordOf "Attribute" 4) Token.ofJson items
    let (value, items) ← takeItemD none (Value.readOption Token.ofJson) items
    let (valueError, items) ← takeItemD none (Value.readOption Value.readStr) items
    let (span, items) ← takeItem 3 (recordOf "Attribute" 4) Span.ofJson items
    noMoreItems 4 items
    return ⟨name, value, valueError, span⟩
  | v => v.wrongType "struct Attribute"

/-- The fields of a directive read so far. -/
structure Directive.Fields where
  name : Option Token := none
  attributes : Option (List Attribute) := none
  span : Option Span := none

/-- Reads one field of a directive. -/
def Directive.readField (r : Directive.Fields) (field : String × Value) :
    Except ShapeError Directive.Fields :=
  match field with
  | ("name", v) => do
    unread r.name "name"
    return { r with name := some (← Token.ofJson v) }
  | ("attributes", v) => do
    unread r.attributes "attributes"
    return { r with attributes := some (← v.readList Attribute.ofJson) }
  | ("span", v) => do
    unread r.span "span"
    return { r with span := some (← Span.ofJson v) }
  | _ => return r

/-- **Reads the fields of a directive.** Its attributes may be left out. -/
def Directive.ofFields (fields : List (String × Value)) : Except ShapeError Directive := do
  let r ← fields.foldlM Directive.readField {}
  let name ← required r.name "name"
  let span ← required r.span "span"
  return ⟨name, r.attributes.getD [], span⟩

/-- Reads the list form of a directive. -/
def Directive.ofItems (items : List Value) : Except ShapeError Directive := do
  let (name, items) ← takeItem 0 (recordOf "Directive" 3) Token.ofJson items
  let (attributes, items) ← takeItemD [] (Value.readList Attribute.ofJson) items
  let (span, items) ← takeItem 2 (recordOf "Directive" 3) Span.ofJson items
  noMoreItems 3 items
  return ⟨name, attributes, span⟩

/-- **Reads the kind of a code block**: its name, or an object whose only key is the name and whose
value is empty. -/
def BlockKind.ofJson : Value → Except ShapeError BlockKind
  | .str name => BlockKind.ofName name
  | .obj [(name, v)] => do
    let kind ← BlockKind.ofName name
    match v with
    | .null => return kind
    | .obj [] => return kind
    | v => v.wrongType "unit"
  | .obj _ => throw (.wrongValue .object "map with a single key")
  | v => v.wrongType "string or map"

/-- The fields of a code block read so far. -/
structure CodeBlock.Fields where
  kind : Option BlockKind := none
  code : Option (Option Token) := none
  span : Option Span := none

/-- Reads one field of a code block. -/
def CodeBlock.readField (r : CodeBlock.Fields) (field : String × Value) :
    Except ShapeError CodeBlock.Fields :=
  match field with
  | ("kind", v) => do
    unread r.kind "kind"
    return { r with kind := some (← BlockKind.ofJson v) }
  | ("code", v) => do
    unread r.code "code"
    return { r with code := some (← v.readOption Token.ofJson) }
  | ("span", v) => do
    unread r.span "span"
    return { r with span := some (← Span.ofJson v) }
  | _ => return r

/-- **Reads the fields of a code block.** Its code may be left out. -/
def CodeBlock.ofFields (fields : List (String × Value)) : Except ShapeError CodeBlock := do
  let r ← fields.foldlM CodeBlock.readField {}
  let kind ← required r.kind "kind"
  let span ← required r.span "span"
  return ⟨kind, r.code.getD none, span⟩

/-- Reads the list form of a code block. -/
def CodeBlock.ofItems (items : List Value) : Except ShapeError CodeBlock := do
  let (kind, items) ← takeItem 0 (recordOf "CodeBlock" 3) BlockKind.ofJson items
  let (code, items) ← takeItemD none (Value.readOption Token.ofJson) items
  let (span, items) ← takeItem 2 (recordOf "CodeBlock" 3) Span.ofJson items
  noMoreItems 3 items
  return ⟨kind, code, span⟩

/-- The fields of a missing token read so far. -/
structure MissingToken.Fields where
  expected : Option String := none
  span : Option Span := none

/-- Reads one field of a missing token. -/
def MissingToken.readField (r : MissingToken.Fields) (field : String × Value) :
    Except ShapeError MissingToken.Fields :=
  match field with
  | ("expected", v) => do
    unread r.expected "expected"
    return { r with expected := some (← v.readStr) }
  | ("span", v) => do
    unread r.span "span"
    return { r with span := some (← Span.ofJson v) }
  | _ => return r

/-- **Reads the fields of a missing token.** -/
def MissingToken.ofFields (fields : List (String × Value)) : Except ShapeError MissingToken := do
  let r ← fields.foldlM MissingToken.readField {}
  return ⟨← required r.expected "expected", ← required r.span "span"⟩

/-- Reads the list form of a missing token. -/
def MissingToken.ofItems (items : List Value) : Except ShapeError MissingToken := do
  let (expected, items) ← takeItem 0 (recordOf "MissingToken" 2) Value.readStr items
  let (span, items) ← takeItem 1 (recordOf "MissingToken" 2) Span.ofJson items
  noMoreItems 2 items
  return ⟨expected, span⟩

end Records

/-! ## Reading nodes and the documents inside them -/

/-- The fields of an include read so far. -/
structure Include.Fields where
  path : Option String := none
  document : Option Document := none
  span : Option Span := none

/-- The fields of a document read so far. -/
structure Document.Fields where
  fileId : Option Nat := none
  path : Option String := none
  source : Option String := none
  nodes : Option (List Node) := none

/-- The include of all fields read. -/
def Include.Fields.finish (r : Include.Fields) : Except ShapeError Include := do
  let path ← required r.path "path"
  let document ← required r.document "document"
  let span ← required r.span "span"
  return ⟨path, document, span⟩

/-- The document of all fields read. -/
def Document.Fields.finish (r : Document.Fields) : Except ShapeError Document := do
  let fileId ← required r.fileId "file_id"
  let path ← required r.path "path"
  let source ← required r.source "source"
  let nodes ← required r.nodes "nodes"
  return ⟨fileId, path, source, nodes⟩

/-- The kind of a node inside a value: its name, or its position in the list of all kinds. -/
def NodeKind.ofJson : Value → Except ShapeError NodeKind
  | .str name => NodeKind.ofName name
  | .int (.ofNat n) =>
    match NodeKind.all[n]? with
    | some kind => return kind
    | none => throw (.wrongValue (.int n) "variant index 0 <= i < 5")
  | v => v.wrongType "variant identifier"

/-- The kind that the field `node` of an object names. -/
def NodeKind.ofFields : List (String × Value) → Option NodeKind → Except ShapeError NodeKind
  | [], kind => required kind "node"
  | (name, v) :: fields, kind =>
    if name == "node" then do
      unread kind "node"
      NodeKind.ofFields fields (some (← NodeKind.ofJson v))
    else
      NodeKind.ofFields fields kind

/-- Reads what a node of a kind is from its fields. How to read an include is left to the caller,
who reads the document in it. -/
def Node.ofFields (included : Unit → Except ShapeError Include) (fields : List (String × Value)) :
    NodeKind → Except ShapeError Node
  | .text => return .text (← Token.ofFields fields)
  | .directive => return .directive (← Directive.ofFields fields)
  | .codeBlock => return .codeBlock (← CodeBlock.ofFields fields)
  | .included => return .included (← included ())
  | .missing => return .missing (← MissingToken.ofFields fields)

/-- Reads what a node of a kind is from a list of its fields. -/
def Node.ofItems (included : Unit → Except ShapeError Include) (items : List Value) :
    NodeKind → Except ShapeError Node
  | .text => return .text (← Token.ofItems items)
  | .directive => return .directive (← Directive.ofItems items)
  | .codeBlock => return .codeBlock (← CodeBlock.ofItems items)
  | .included => return .included (← included ())
  | .missing => return .missing (← MissingToken.ofItems items)

mutual

/-- **Reads a node** inside a value. -/
def Node.ofJson : Value → Except ShapeError Node
  | .obj fields => do
    let kind ← NodeKind.ofFields fields none
    Node.ofFields (fun _ => do (← Include.readFields {} fields).finish) fields kind
  | .arr [] => throw (.missingField "node")
  | .arr (kind :: items) => do
    let kind ← NodeKind.ofJson kind
    Node.ofItems (fun _ => Include.ofItems items) items kind
  | v => v.wrongType "internally tagged enum Node"

/-- Reads the fields of an include. -/
def Include.readFields (r : Include.Fields) :
    List (String × Value) → Except ShapeError Include.Fields
  | [] => return r
  | ("path", v) :: fields => do
    unread r.path "path"
    Include.readFields { r with path := some (← v.readStr) } fields
  | ("document", v) :: fields => do
    unread r.document "document"
    Include.readFields { r with document := some (← Document.ofJson v) } fields
  | ("span", v) :: fields => do
    unread r.span "span"
    Include.readFields { r with span := some (← Span.ofJson v) } fields
  | _ :: fields => Include.readFields r fields

/-- Reads the list form of an include. -/
def Include.ofItems : List Value → Except ShapeError Include
  | [] => throw (.wrongLength 0 (recordOf "Include" 3))
  | path :: items => do
    let path ← path.readStr
    match items with
    | [] => throw (.wrongLength 1 (recordOf "Include" 3))
    | document :: items =>
      let document ← Document.ofJson document
      let (span, items) ← takeItem 2 (recordOf "Include" 3) Span.ofJson items
      noMoreItems 3 items
      return ⟨path, document, span⟩

/-- **Reads a document** inside a value. -/
def Document.ofJson : Value → Except ShapeError Document
  | .obj fields => do (← Document.readFields {} fields).finish
  | .arr [] => throw (.wrongLength 0 (recordOf "Document" 4))
  | .arr (fileId :: items) => do
    let fileId ← fileId.readNat
    match items with
    | [] => throw (.wrongLength 1 (recordOf "Document" 4))
    | path :: items =>
      let path ← path.readStr
      match items with
      | [] => throw (.wrongLength 2 (recordOf "Document" 4))
      | source :: items =>
        let source ← source.readStr
        match items with
        | [] => throw (.wrongLength 3 (recordOf "Document" 4))
        | nodes :: items =>
          let nodes ← Node.listOfJson nodes
          noMoreItems 4 items
          return ⟨fileId, path, source, nodes⟩
  | v => v.wrongType "struct Document"

/-- Reads the fields of a document. -/
def Document.readFields (r : Document.Fields) :
    List (String × Value) → Except ShapeError Document.Fields
  | [] => return r
  | ("file_id", v) :: fields => do
    unread r.fileId "file_id"
    Document.readFields { r with fileId := some (← v.readNat) } fields
  | ("path", v) :: fields => do
    unread r.path "path"
    Document.readFields { r with path := some (← v.readStr) } fields
  | ("source", v) :: fields => do
    unread r.source "source"
    Document.readFields { r with source := some (← v.readStr) } fields
  | ("nodes", v) :: fields => do
    unread r.nodes "nodes"
    Document.readFields { r with nodes := some (← Node.listOfJson v) } fields
  | _ :: fields => Document.readFields r fields

/-- Reads the nodes of a document. -/
def Node.listOfJson : Value → Except ShapeError (List Node)
  | .arr items => Node.manyOfJson items
  | v => v.wrongType "a sequence"

/-- Reads nodes one after another. -/
def Node.manyOfJson : List Value → Except ShapeError (List Node)
  | [] => return []
  | v :: items => do
    let node ← Node.ofJson v
    let nodes ← Node.manyOfJson items
    return node :: nodes

end

/-- **Reads a document** that is a value of its own. -/
def Document.ofValue : Value → Except ShapeError Document
  | .arr (fileId :: path :: source :: nodes :: rest) => do
    let d ← Document.ofJson (.arr [fileId, path, source, nodes])
    endOfItems (4 + rest.length) rest
    return d
  | v => Document.ofJson v

/-! ## Reading a document from a text -/

/-- How many lists and objects may nest in a text. -/
def nestingLimit : Nat := 127

/-- How many may nest inside a field of a node of the outermost document, which is itself inside the
document, its list of nodes and the node. -/
def fieldLimit : Nat := nestingLimit - 3

/-- The kind of a node in a text, which has to be its name. -/
def NodeKind.ofFragment : Fragment → Except ReadError NodeKind :=
  Fragment.readScalar (fun
    | .str name => NodeKind.ofName name
    | v => v.wrongType "variant identifier") "variant identifier"

/-- The value of a field inside a node. -/
def readWhole (f : Fragment) : Except ReadError Value :=
  match f.value? fieldLimit with
  | some v => return v
  | none => throw .malformed

/-- The kind and the other fields of a node. -/
abbrev NodeFields := Option NodeKind × List (String × Value)

/-- Reads one field of a node of the outermost document. -/
def NodeFields.read (r : NodeFields) (name : String) (f : Fragment) :
    Except ReadError NodeFields :=
  if name == "node" then do
    (unread r.1 "node").mapError .shape
    return (some (← NodeKind.ofFragment f), r.2)
  else
    return (r.1, r.2 ++ [(name, ← readWhole f)])

/-- **Reads a node of the outermost document**: the kind as soon as it is met, the other fields as
values, and then what the fields say. -/
def Node.ofFragment : Fragment → Except ReadError Node
  | .obj fields closed => do
    let (kind, fields) ← Fragment.foldFields NodeFields.read (none, []) fields closed
    let kind ← (required kind "node").mapError .shape
    (Node.ofFields (fun _ => do (← Include.readFields {} fields).finish) fields kind).mapError .shape
  | .arr [] closed => do
    Fragment.endOf closed
    throw (.shape (.missingField "node"))
  | .arr (kind :: items) closed => do
    let kind ← NodeKind.ofFragment kind
    let items ← items.mapM readWhole
    Fragment.endOf closed
    (Node.ofItems (fun _ => Include.ofItems items) items kind).mapError .shape
  | f => f.wrongType "internally tagged enum Node"

/-- Reads one field of the outermost document. -/
def Document.readField (r : Document.Fields) (name : String) (f : Fragment) :
    Except ReadError Document.Fields :=
  match name with
  | "file_id" => do
    (unread r.fileId "file_id").mapError .shape
    return { r with fileId := some (← f.readNat) }
  | "path" => do
    (unread r.path "path").mapError .shape
    return { r with path := some (← f.readStr) }
  | "source" => do
    (unread r.source "source").mapError .shape
    return { r with source := some (← f.readStr) }
  | "nodes" => do
    (unread r.nodes "nodes").mapError .shape
    return { r with nodes := some (← f.readList Node.ofFragment) }
  | _ => do
    f.skip
    return r

/-- Reads the outermost document. -/
def Document.ofFragment : Fragment → Except ReadError Document
  | .obj fields closed => do
    let r ← Fragment.foldFields Document.readField {} fields closed
    r.finish.mapError .shape
  | .arr items closed => do
    let record := recordOf "Document" 4
    let (fileId, items) ← Fragment.takeItem 0 record Fragment.readNat closed items
    let (path, items) ← Fragment.takeItem 1 record Fragment.readStr closed items
    let (source, items) ← Fragment.takeItem 2 record Fragment.readStr closed items
    let (nodes, items) ←
      Fragment.takeItem 3 record (Fragment.readList Node.ofFragment) closed items
    Fragment.noMoreItems closed items
    return ⟨fileId, path, source, nodes⟩
  | f => f.wrongType "struct Document"

/-- **Reads a document from a JSON text.** -/
def Document.ofText (s : String) : Except ReadError Document :=
  readText Document.ofFragment s

/-- **A document as a JSON text.** -/
def Document.toText (d : Document) : String := d.toJson.render

end TextTemplate
