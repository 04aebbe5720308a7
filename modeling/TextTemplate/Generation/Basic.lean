import TextTemplate.Document.Walk
import TextTemplate.Generation.Section
import TextTemplate.Generation.Unit
import TextTemplate.Mode
import TextTemplate.Schema.Standard

/-!
# The class of a template

A template stands for a class whose method `TransformText` writes the template's output. One pass
over the template and all that it includes fills the parts of the class: imports, the base class,
parameters, the body of the method and the members that feature blocks add. `assemble` then writes
the class around them.

Every piece of text taken from a template is mapped to the document that directly holds it. For this
the pass keeps the numbers of the documents it is in.
-/

namespace TextTemplate.Generation

/-! ## Fixed texts -/

/-- The name of the class. -/
def className : String := "Generated\u200cTransformation"

/-- The base class of a template that names none. -/
def defaultBaseClass : String := "Microsoft.VisualStudio.TextTemplating.TextTransformation"

/-- The method that turns the value of an expression into text. -/
def toStringHelper : String := "__\u200cToString"

/-- The attribute of members that are not the author's. -/
def generatedAttribute : String := "System.Runtime.CompilerServices.CompilerGenerated"

/-- The property through which a template speaks to its host. -/
def hostProperty : String :=
  "public virtual Microsoft.VisualStudio.TextTemplating.ITextTemplatingEngineHost Host "
    ++ "\x7b get; set; \x7d"

/-! ## The pass -/

/-- **What the pass knows**: the parts filled so far; the numbers of the documents it is in, the
innermost first, and how many of them are included ones; whether a feature block of the outermost
document has been met; and whether the class has a host. -/
structure Pass where
  sections : Sections := {}
  files : List Nat
  includeDepth : Nat := 0
  featureStarted : Bool := false
  hasHost : Bool := false

namespace Pass

/-- The number of the document that the pass is in. -/
def fileId (p : Pass) : Nat := p.files.headD 0

/-- Changes the text of one part. -/
def modify (part : Section) (f : MappedText → MappedText) (p : Pass) : Pass :=
  { p with sections := p.sections.modify part f }

/-- An import becomes a `using` line. -/
def addImport (d : Directive) (p : Pass) : Pass :=
  match d.nonBlankValue? "namespace" with
  | none => p
  | some ns => p.modify .usings fun m => ((m.push "using ").pushToken ns p.fileId).pushLine ";"

/-- A template directive decides about the host, and may name a base class. -/
def addTemplate (d : Directive) (p : Pass) : Pass :=
  let p := { p with
    hasHost := ((d.value? "hostspecific").map fun v => Text.sameName v "true").getD false }
  match d.nonBlankValue? "inherits" with
  | none => p
  | some base => p.modify .inherits (MappedText.pushToken base p.fileId)

/-- A parameter becomes a property that can only be read. -/
def addParameter (d : Directive) (p : Pass) : Pass :=
  match d.nonBlankValue? "type", d.nonBlankValue? "name" with
  | some type, some name => p.modify .parameters fun m =>
    let m := m.push "[System.CodeDom.Compiler.GeneratedCodeAttribute] private global::"
    let m := ((m.pushToken type p.fileId).push " ").pushToken name p.fileId
    ((m.push " \x7b get \x7b return default(global::").push type.text).pushLine "); \x7d \x7d"
  | _, _ => p

/-- A directive adds to the class as its kind says. -/
def addDirective (schema : Schema) (d : Directive) (p : Pass) : Pass :=
  match schema.kindOf? d with
  | some .namespaceImport => p.addImport d
  | some .template => p.addTemplate d
  | some .parameter => p.addParameter d
  | _ => p

/-- **Where the code of a block goes.** Features are members of the class. So is an expression of the
outermost document behind a feature block of it; other expressions, and all statements, go into the
body of the method. -/
def sectionOf (p : Pass) : BlockKind → Section
  | .feature => .featureMethods
  | .expression =>
    if p.featureStarted && p.includeDepth == 0 then .featureMethods else .transformBody
  | .statement => .transformBody

/-- The line of a block: its code between the markers, and for an expression the call that writes
the value around them. -/
def blockLine (kind : BlockKind) (code : Token) (fileId : Nat) (m : MappedText) : MappedText :=
  let marked := fun (m : MappedText) =>
    ((m.push codeStart).pushToken code fileId).push codeEnd
  match kind with
  | .expression =>
    ((marked (m.push ("this.Write(" ++ toStringHelper ++ "("))).push "));").newline
  | _ => (marked m).newline

/-- A code block adds its code. An empty block adds nothing and starts no features. -/
def addCodeBlock (block : CodeBlock) (p : Pass) : Pass :=
  match block.code with
  | none => p
  | some code =>
    let part := p.sectionOf block.kind
    let started := p.featureStarted || (block.kind == .feature && p.includeDepth == 0)
    { p with featureStarted := started }.modify part (blockLine block.kind code p.fileId)

/-- Enters a node: an include is a step into its document. -/
def enter (node : Node) (_position : Nat) (p : Pass) : Pass :=
  match node with
  | .included part =>
    { p with includeDepth := p.includeDepth + 1, files := part.document.fileId :: p.files }
  | _ => p

/-- Leaves a node: an include is a step out of its document, and other nodes add to the class. -/
def leave (schema : Schema) (node : Node) (_position : Nat) (p : Pass) : Pass :=
  match node with
  | .included _ => { p with includeDepth := p.includeDepth - 1, files := p.files.tail }
  | .directive d => p.addDirective schema d
  | .codeBlock block => p.addCodeBlock block
  | _ => p

end Pass

/-- The visitor of the pass. -/
def visitor (schema : Schema) : Visitor Pass where
  enter := Pass.enter
  leave := Pass.leave schema

/-! ## The class -/

/-- The class around its parts, without a namespace. -/
def classText (sections : Sections) (hasHost : Bool) (m : MappedText) : MappedText :=
  let m := (m.pushLine "using System;").append sections.usings
  let m := m.pushLine ("[" ++ generatedAttribute ++ "]")
  let m := m.push ("public class " ++ className ++ " : ")
  let m :=
    if sections.inherits.isEmpty then m.push defaultBaseClass else m.append sections.inherits
  let m := m.pushLine " \x7b"
  let m := m.pushLine ("[" ++ generatedAttribute ++ "] private static string " ++ toStringHelper
    ++ "(object value) \x7b return null; \x7d")
  let m := if hasHost then m.pushLine hostProperty else m
  let m := m.append sections.parameters
  let m := m.pushLine ("[System.CodeDom.Compiler.GeneratedCodeAttribute] public override string "
    ++ "TransformText() \x7b")
  let m := (m.append sections.transformBody).newline
  let m := (m.pushLine "return GenerationEnvironment.ToString();").pushLine "\x7d"
  (m.append sections.featureMethods).pushLine "\x7d"

/-- **The class of a finished pass**, in the namespace if there is one. -/
def assemble (ns : Option String) (p : Pass) : GeneratedUnit :=
  .ofMappedText <|
    match ns with
    | none => classText p.sections p.hasHost {}
    | some ns =>
      (classText p.sections p.hasHost
        (MappedText.pushLine ("namespace " ++ ns ++ " \x7b") {})).pushLine "\x7d"

/-- **Generates the class of a document** and all that it includes, or nothing if the pass was told
to stop. Directives and blocks that say nothing about the class are left out. -/
def generate (schema : Schema) (mode : Mode) (stop : Stop) (d : Document) :
    Except Cancelled GeneratedUnit :=
  assemble mode.namespace? <$> d.pass (visitor schema) stop { files := [d.fileId] }

end TextTemplate.Generation
