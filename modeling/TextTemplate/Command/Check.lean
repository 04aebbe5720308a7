import TextTemplate.Command.Basic
import TextTemplate.Location
import TextTemplate.Validation

/-!
# Checking a template

Every document of a template is checked once, in the order in which they are included, and then all
problems are listed with a count at the end. Only errors make the check fail.
-/

namespace TextTemplate.Command

/-- The word for a severity. -/
def severityWord : Severity → String
  | .error => "error"
  | .warning => "warning"

/-- **How a report is laid out.** The documents are those that are registered, and the labels of the
report have their indices. -/
abbrev Layout := List Document → Report → List String

/-- The layout without the lines of the source: the message, the place of each label and the notes.
-/
def Layout.brief : Layout := fun files report =>
  (severityWord report.severity ++ "[" ++ report.code ++ "]: " ++ report.message) ::
    (report.labels.filterMap fun (index, span) => files[index]?.map fun document =>
      "┌─ " ++ (Text.charPosition document.source span.start).render document.path) ++
    report.notes.map ("= " ++ ·)

/-- **A problem as it is listed**: by the layout, or only with its message if one of its documents is
not registered. -/
def problemLines (layout : Layout) (sources : Sources) (d : Diagnostic) : List String :=
  let report := d.report
  match report.labels.mapM fun (fileId, span) => (sources.index? fileId).map (·, span) with
  | none => ["error: " ++ d.message]
  | some labels => layout sources.files { report with labels }

/-- **The line at the end of a list of problems.** -/
def summary (path : String) (problems : List Diagnostic) : String :=
  if problems.isEmpty then "ok: " ++ path ++ " has no problems"
  else
    let errors := (problems.filter Diagnostic.isError).length
    toString errors ++ " error(s), " ++ toString (problems.length - errors) ++ " warning(s)"

/-- The number with which a check ends. -/
def exitCode (problems : List Diagnostic) : Nat := if problems.any Diagnostic.isError then 1 else 0

/-- The documents of a list without those whose number has been seen, be it before the list or in a
document in front. -/
def unseen (seen : List Nat) : List Document → List Document
  | [] => []
  | d :: documents =>
    if seen.contains d.fileId then unseen seen documents
    else d :: unseen (d.fileId :: seen) documents

/-- **The documents that are checked**: those of the family, each number once. -/
def checkedDocuments (d : Document) : List Document := unseen [] d.family

/-- **The problems of each document**, or none at all if the check was told to stop. -/
def problemsOf (schema : Schema) (mode : Mode) (documents : List Document) :
    Except Cancelled (List (Document × List Diagnostic)) :=
  documents.mapM fun d => return (d, ← Validation.validate schema mode .never d)

/-- The entry of the log for a document that was checked. -/
def documentValidated (d : Document) (problems : List Diagnostic) : Log.Entry :=
  { topic := "analysis::validator", message := "validated template"
    fields := [("path", d.path), ("diagnostics", toString problems.length)] }

/-- **Checks a template.** -/
def check (layout : Layout) (input : Input) : Action Nat := do
  let documents := checkedDocuments input.document
  let found ← Action.ofExcept .cancelled (problemsOf .standard input.settings.mode documents)
  found.forM fun (d, problems) => Action.log input.filter (documentValidated d problems)
  let problems := found.flatMap (·.2)
  let sources := Sources.ofDocument input.document
  Action.tell (problems.flatMap (problemLines layout sources))
  Action.tell [summary input.document.path problems]
  return exitCode problems

end TextTemplate.Command
