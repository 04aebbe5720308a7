import TextTemplate.Command.Basic
import TextTemplate.Generation.Basic
import TextTemplate.Location

/-!
# Generating a class

The class of a template goes to a file or to the output, and the places of the template from which
parts of it come can be listed.
-/

namespace TextTemplate.Command

/-- Where a part of the class comes from. -/
def mappingLine (sources : Sources) (m : Mapping) : String :=
  toString m.generated.start ++ ".." ++ toString m.generated.stop ++ " -> " ++
    sources.location m.origin.fileId m.origin.span

/-- The entry of the log for a class that was generated. -/
def classGenerated (d : Document) (unit : GeneratedUnit) : Log.Entry :=
  { topic := "analysis::generator", message := "generated template class"
    fields := [("path", d.path), ("bytes", toString unit.text.utf8ByteSize),
      ("mappings", toString unit.mappings.size)] }

/-- **Generates the class of a template.** -/
def generate (input : Input) (output : Option String) (mappings : Bool) : Action Nat := do
  let unit ← Action.ofExcept .cancelled
    (Generation.generate .standard input.settings.mode .never input.document)
  Action.log input.filter (classGenerated input.document unit)
  match output with
  | some path => Action.writeFile path unit.text
  | none => Action.print unit.text
  if mappings then
    Action.tell (unit.mappings.toList.map (mappingLine (.ofDocument input.document)))
  return 0

end TextTemplate.Command
