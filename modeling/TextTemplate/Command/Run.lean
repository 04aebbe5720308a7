import TextTemplate.Command.Arguments
import TextTemplate.Command.Check
import TextTemplate.Command.Deps
import TextTemplate.Command.Generate

/-!
# The command line

`run` is the program as a whole: it takes the arguments and gives the number with which the program
ends, which is 0 if all went well, 1 after a failure or a check that found errors, and 2 if the
arguments make no sense.
-/

namespace TextTemplate.Command

/-- The name of the program and its version. -/
def version : String := "t4 0.1.0"

/-- Carries out the task of a command. -/
def perform (input : Input) : Task → Action Nat
  | .check => check .brief input
  | .generate output mappings => generate input output mappings
  | .deps previous save resolve => deps input previous save resolve

/-- **Carries out a command.** A failure ends it with a message. -/
def Invocation.run (i : Invocation) : Interaction Nat := do
  let found ← Interaction.environment [Log.settingName]
  let filter := if i.verbose then .verbose else Log.Filter.ofSetting (found.lookup Log.settingName)
  let action : Action Nat := do perform (← Input.load filter i.tree i.config) i.task
  match ← action.run with
  | .ok code => return code
  | .error failure =>
    Interaction.tellAll ["error: " ++ failure.message]
    return 1

/-- **Runs the program on its arguments.** -/
def run (args : List String) : Interaction Nat :=
  match Invocation.ofArguments args with
  | .ok invocation => invocation.run
  | .error .usage => return 2
  | .error .version => do
    Interaction.printLine version
    return 0
  | .error .help => return 0

end TextTemplate.Command
