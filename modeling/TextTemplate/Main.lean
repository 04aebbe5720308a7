import TextTemplate.Command.Run

/-!
# The program

Carries out a command on the files and the terminal of the machine.
-/

namespace TextTemplate.Program

/-- What is shown to someone who asks for help or gives arguments that make no sense. -/
def usageText : String :=
  "Text template checker and code generator\n\n" ++
  "Usage: t4 [OPTIONS] check TREE\n" ++
  "       t4 [OPTIONS] generate TREE [-o FILE] [--mappings]\n" ++
  "       t4 [OPTIONS] deps TREE [--previous FILE] [--save FILE] [--resolve]\n\n" ++
  "Options: --no-color, -v/--verbose, --config FILE, -V/--version, -h/--help\n"

/-- The fault that an error with a number of the system stands for. Some numbers come negated. -/
def faultOfCode (number : UInt32) (wording : String) : FileFault :=
  let code := if number < 0x80000000 then number else 0 - number
  if code == 2 then .missing
  else if code == 20 then .notDirectory
  else if code == 21 then .isDirectory
  else if code == 36 then .nameTooLong
  else .other (wording ++ " (os error " ++ toString code ++ ")")

/-- The fault that an error of the system stands for. -/
def faultOfError : IO.Error → FileFault
  | .otherError code wording | .resourceBusy code wording | .resourceVanished code wording
  | .unsupportedOperation code wording | .hardwareFault code wording
  | .unsatisfiedConstraints code wording | .illegalOperation code wording
  | .protocolError code wording | .timeExpired code wording => faultOfCode code wording
  | .interrupted _ code wording | .noFileOrDirectory _ code wording => faultOfCode code wording
  | .alreadyExists _ code wording | .invalidArgument _ code wording
  | .permissionDenied _ code wording | .resourceExhausted _ code wording
  | .inappropriateType _ code wording | .noSuchThing _ code wording => faultOfCode code wording
  | .unexpectedEof => .other "unexpected end of file"
  | .userError _ => .other "stream did not contain valid UTF-8"

/-- The result of an action, or the fault for which it failed. -/
def orFault {α : Type} (action : IO α) : IO (Except FileFault α) := do
  try
    return .ok (← action)
  catch error =>
    return .error (faultOfError error)

/-- Carries out an interaction on the machine. -/
def carryOut {α : Type} : Interaction α → IO α
  | .done a => return a
  | .lookUp name next => do carryOut (next (← IO.getEnv name))
  | .readFile path next => do carryOut (next (← orFault (IO.FS.readFile path)))
  | .writeFile path content next => do carryOut (next (← orFault (IO.FS.writeFile path content)))
  | .print text next => do
    IO.print text
    carryOut next
  | .tell line next => do
    IO.eprintln line
    carryOut next

end TextTemplate.Program

open TextTemplate Program

/-- The program. -/
def main (args : List String) : IO UInt32 := do
  match Command.Invocation.ofArguments args with
  | .error .usage => IO.eprint usageText
  | .error .help => IO.print usageText
  | _ => pure ()
  return (← carryOut (Command.run args)).toUInt32
