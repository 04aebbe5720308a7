import TextTemplate.Document.Basic

/-!
# Diagnostics

What is wrong with a template, where, and what an editor could do about it. `Diagnostic.report` is
the form in which a diagnostic is shown: with its severity, its short code and a note for the fix.
-/

namespace TextTemplate

/-- How bad a problem is. -/
inductive Severity where
  | warning
  | error
deriving DecidableEq, Repr, Inhabited

/-- **The problems that a template can have.** -/
inductive DiagnosticKind where
  /-- A token is not there that should be there. -/
  | missingToken
  /-- A statement block stands behind a feature block. -/
  | statementAfterFeature
  /-- A directive lacks an attribute that its schema requires. -/
  | missingRequiredAttribute
  /-- The value of an attribute is not one that the attribute takes. -/
  | invalidAttributeValue
  /-- A directive has no effect in this kind of template. -/
  | ignoredDirective
  /-- Something other than blank text stands behind the last feature block. -/
  | contentAfterLastFeature
deriving DecidableEq, Repr, Inhabited

namespace DiagnosticKind

/-- Only a directive without effect is no error. -/
def severity : DiagnosticKind → Severity
  | .ignoredDirective => .warning
  | _ => .error

/-- The short code of a problem. -/
def code : DiagnosticKind → String
  | .missingToken => "T4001"
  | .statementAfterFeature => "T4002"
  | .missingRequiredAttribute => "T4003"
  | .invalidAttributeValue => "T4004"
  | .ignoredDirective => "T4005"
  | .contentAfterLastFeature => "T4006"

end DiagnosticKind

/-- **An edit that resolves a problem.** -/
inductive QuickFix where
  | removeDirective
  | addAttribute (name : String)
  | replaceValue (suggestions : List String)
deriving DecidableEq, Repr, Inhabited

/-- The note that offers a fix. Without suggestions there is nothing to offer. -/
def QuickFix.note? : QuickFix → Option String
  | .removeDirective => some "help: remove this directive"
  | .addAttribute name => some ("help: add the `" ++ name ++ "` attribute")
  | .replaceValue [] => none
  | .replaceValue suggestions => some ("help: expected one of: " ++ ", ".intercalate suggestions)

/-- **A problem of a template** and where it is. -/
structure Diagnostic where
  kind : DiagnosticKind
  message : String
  span : Span
  fileId : Nat
  fix : Option QuickFix := none
deriving DecidableEq, Repr, Inhabited

/-- **A diagnostic as it is shown**: with the places it is about, each a document and a span, and
notes below. -/
structure Report where
  severity : Severity
  code : String
  message : String
  labels : List (Nat × Span)
  notes : List String
deriving DecidableEq, Repr

namespace Diagnostic

/-- The diagnostic with a fix, in place of the one it may have had. -/
def withFix (fix : QuickFix) (d : Diagnostic) : Diagnostic := { d with fix := some fix }

/-- How bad the problem is. -/
def severity (d : Diagnostic) : Severity := d.kind.severity

/-- Whether the problem is an error. -/
def isError (d : Diagnostic) : Bool := d.severity == .error

/-- **The diagnostic as it is shown.** -/
def report (d : Diagnostic) : Report where
  severity := d.severity
  code := d.kind.code
  message := d.message
  labels := [(d.fileId, d.span)]
  notes := (d.fix.bind QuickFix.note?).toList

end Diagnostic

end TextTemplate
