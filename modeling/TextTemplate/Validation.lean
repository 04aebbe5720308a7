import TextTemplate.Diagnostic
import TextTemplate.Document.Walk
import TextTemplate.Mode
import TextTemplate.Schema.Standard

/-!
# Checking a template

One pass over a document finds what is wrong with it, in the order of its nodes. The documents that
it includes are left alone: they have sources of their own and are checked on their own.

What a node has to answer for is of two kinds. Its own problems depend on the node only:
`missingTokenSpan`, `directiveProblems` and `valueProblems`. The order of the blocks is a matter of
what came before, and that is the state of the pass: whether a feature block has been met, whether
the last one has and the pass is still inside it, and whether something behind the last one has been
reported already.
-/

namespace TextTemplate.Validation

/-! ## Problems of a node alone -/

/-- The number of bytes of a character, and none for no character. -/
def charWidth (c : Option Char) : Nat := (c.map Char.utf8Size).getD 0

/-- **Where to show a missing token.** The mark for it has most often no width, so one character is
added to be seen: the one behind the mark, or at the end of the source the one in front. A mark that
cuts a character is not widened. One end is computed, by an arithmetic that is given. -/
def missingTokenSpanBy {m : Type → Type} [Monad m] (arithmetic : OffsetArithmetic m)
    (source : String) (span : Span) : m Span :=
  let size := source.utf8ByteSize
  if size ≤ span.stop then do
    let start := min span.start size
    let before := (Text.takeBytes? start source.toList).bind List.getLast?
    let start ← arithmetic.sub start (charWidth before)
    return ⟨start, min span.stop size⟩
  else do
    let after := (Text.dropBytes? span.stop source.toList).bind List.head?
    let stop ← arithmetic.add span.stop (charWidth after)
    return ⟨span.start, stop⟩

/-- Where a missing token is shown. -/
def missingTokenSpan (source : String) (span : Span) : Span :=
  Id.run (missingTokenSpanBy .plain source span)

/-- The problem of a missing token. -/
def missingTokenProblem (d : Document) (marker : MissingToken) : Diagnostic where
  kind := .missingToken
  message := "missing `" ++ marker.expected ++ "`"
  span := missingTokenSpan d.source marker.span
  fileId := d.fileId

/-- **The problems of a directive as a whole**: each attribute that the schema requires and the
directive lacks, and that a preprocessed template takes no notice of assemblies. -/
def directiveProblems (schema : Schema) (preprocessed : Bool) (fileId : Nat) (d : Directive) :
    List Diagnostic :=
  match schema.byName? d.name.text with
  | none => []
  | some rule =>
    let lacking := rule.requiredAttributes.filter fun a => !d.hasAttribute a.name
    let missing := lacking.map fun a =>
      { kind := .missingRequiredAttribute
        message := "missing required attribute `" ++ a.name ++ "`"
        span := d.name.span
        fileId
        fix := some (.addAttribute a.name) }
    let ignored :=
      if rule.kind == .assembly && preprocessed then
        [{ kind := .ignoredDirective
           message := "assembly directives are ignored in preprocessed templates"
           span := d.span
           fileId
           fix := some .removeDirective }]
      else []
    missing ++ ignored

/-- **The problem of an attribute's value**: one that could not be read is reported as such, any
other one is held against the schema. -/
def valueProblem? (schema : Schema) (fileId : Nat) (d : Directive) (a : Attribute) :
    Option Diagnostic := do
  let value ← a.value
  match a.valueError with
  | some message =>
    return { kind := .invalidAttributeValue, message, span := value.span, fileId }
  | none =>
    let rule ← schema.attribute? d.name.text a.name.text
    if rule.isValid value.text then
      none
    else
      return {
        kind := .invalidAttributeValue
        message := "invalid attribute value"
        span := value.span
        fileId
        fix := some (.replaceValue rule.suggestions) }

/-- The problems of the values of a directive's attributes. -/
def valueProblems (schema : Schema) (fileId : Nat) (d : Directive) : List Diagnostic :=
  d.attributes.filterMap (valueProblem? schema fileId d)

/-- The problem of a statement block behind a feature block. -/
def statementProblem (fileId : Nat) (block : CodeBlock) : Diagnostic where
  kind := .statementAfterFeature
  message := "statement blocks are not allowed after a class feature block"
  span := block.span
  fileId

/-- The problem of a node behind the last feature block. It covers all that follows. -/
def tailProblem (d : Document) (node : Node) : Diagnostic where
  kind := .contentAfterLastFeature
  message := "only whitespace is allowed after the last class feature block"
  span := ⟨node.span.start, d.size⟩
  fileId := d.fileId

/-! ## The pass -/

/-- **What the pass knows**: whether a feature block has been met, whether the last one has, whether
the pass is inside it, whether a node behind it has been reported, and the problems found so far. -/
structure Pass where
  seenFeature : Bool := false
  seenLast : Bool := false
  insideLast : Bool := false
  tailReported : Bool := false
  found : List Diagnostic := []

namespace Pass

/-- The pass with more problems. -/
def report (problems : List Diagnostic) (p : Pass) : Pass :=
  { p with found := p.found ++ problems }

/-- Reports a node if it is the first one behind the last feature block that is neither blank text
nor an included document. -/
def checkTail (d : Document) (node : Node) (p : Pass) : Pass :=
  if !p.seenLast || p.insideLast || p.tailReported then p
  else
    match node with
    | .included _ => p
    | node =>
      if node.isWhitespace then p
      else { p.report [tailProblem d node] with tailReported := true }

/-- Looks at the node at a position. The tail cannot begin at the last feature block, so that is not
asked there. -/
def enter (schema : Schema) (preprocessed : Bool) (d : Document) (node : Node) (position : Nat)
    (p : Pass) : Pass :=
  match node with
  | .missing marker => p.report [missingTokenProblem d marker]
  | .directive directive =>
    ((p.report (directiveProblems schema preprocessed d.fileId directive)).checkTail d node).report
      (valueProblems schema d.fileId directive)
  | .codeBlock block =>
    match block.kind with
    | .statement =>
      (if p.seenFeature then p.report [statementProblem d.fileId block] else p).checkTail d node
    | .feature =>
      let p := { p with seenFeature := true }
      if d.lastFeature? == some position then { p with seenLast := true, insideLast := true }
      else p.checkTail d node
    | .expression => p.checkTail d node
  | node => p.checkTail d node

/-- Leaves the node at a position. -/
def leave (d : Document) (_node : Node) (position : Nat) (p : Pass) : Pass :=
  if d.lastFeature? == some position then { p with insideLast := false } else p

end Pass

/-- The visitor of the pass. It stays in the document itself. -/
def visitor (schema : Schema) (preprocessed : Bool) (d : Document) : Visitor Pass where
  enter := Pass.enter schema preprocessed d
  leave := Pass.leave d
  descends := false

/-- **Checks a document**: its problems in the order of its nodes, or none at all if the pass was
told to stop. -/
def validate (schema : Schema) (mode : Mode) (stop : Stop) (d : Document) :
    Except Cancelled (List Diagnostic) :=
  Pass.found <$> d.pass (visitor schema mode.preprocessed d) stop {}

end TextTemplate.Validation
