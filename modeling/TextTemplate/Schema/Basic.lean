import TextTemplate.Document.Basic

/-!
# Directive schemas

A schema lists the directives that a template host knows and, for each of them, the attributes it
may have and must have. Where names or kinds are repeated the first entry counts.
-/

namespace TextTemplate

/-- **What a directive is for**, whatever its name. -/
inductive DirectiveKind where
  | template
  | parameter
  | output
  | assembly
  | namespaceImport
  | fileInclude
  | cleanupBehavior
deriving DecidableEq, Repr, Inhabited

/-- **Which values an attribute takes**: any, or one of a list, in any letter case and with blanks
around it. -/
inductive ValueRule where
  | any
  | oneOf (values : List String)
deriving DecidableEq, Repr, Inhabited

/-- Whether a rule accepts a value. -/
def ValueRule.accepts : ValueRule → String → Bool
  | .any, _ => true
  | .oneOf values, value => values.any fun v => Text.sameName v (Text.trim value)

/-- **An attribute of the schema.** -/
structure AttributeRule where
  name : String
  required : Bool := false
  rule : ValueRule := .any
deriving DecidableEq, Repr, Inhabited

namespace AttributeRule

/-- Whether the attribute accepts a value. -/
def isValid (a : AttributeRule) (value : String) : Bool := a.rule.accepts value

/-- The values to offer for the attribute. -/
def suggestions (a : AttributeRule) : List String :=
  match a.rule with
  | .any => []
  | .oneOf values => values

end AttributeRule

/-- **A directive of the schema.** -/
structure DirectiveRule where
  kind : DirectiveKind
  name : String
  attributes : List AttributeRule := []
deriving DecidableEq, Repr, Inhabited

namespace DirectiveRule

/-- The rule for the attribute of a name. -/
def attribute? (d : DirectiveRule) (name : String) : Option AttributeRule :=
  d.attributes.find? fun a => Text.sameName a.name name

/-- The attributes that the directive must have. -/
def requiredAttributes (d : DirectiveRule) : List AttributeRule :=
  d.attributes.filter AttributeRule.required

end DirectiveRule

/-- **The directives that a host knows.** -/
structure Schema where
  directives : List DirectiveRule
deriving DecidableEq, Repr, Inhabited

namespace Schema

/-- The rule for directives of a name. -/
def byName? (s : Schema) (name : String) : Option DirectiveRule :=
  s.directives.find? fun d => Text.sameName d.name name

/-- The rule for directives of a kind. -/
def byKind? (s : Schema) (kind : DirectiveKind) : Option DirectiveRule :=
  s.directives.find? fun d => d.kind == kind

/-- **The kind of a directive**, or `none` if the schema does not know its name. -/
def kindOf? (s : Schema) (d : Directive) : Option DirectiveKind :=
  (s.byName? d.name.text).map DirectiveRule.kind

/-- The rule for an attribute of the directives of a name. -/
def attribute? (s : Schema) (directiveName attributeName : String) : Option AttributeRule :=
  (s.byName? directiveName).bind fun d => d.attribute? attributeName

/-- Whether an attribute of the directives of a kind accepts a value, or `none` if the schema does
not know the kind or the attribute. -/
def accepts? (s : Schema) (kind : DirectiveKind) (attributeName value : String) : Option Bool :=
  ((s.byKind? kind).bind fun d => d.attribute? attributeName).map fun a => a.isValid value

end Schema

end TextTemplate
