import TextTemplate.Dependency.Variable
import TextTemplate.FileTree

/-!
# Interactions

What a command does to the world around it is a value: a sequence of requests, each with what is done
with the answer. So a command can be carried out on the files of a machine or on a `World`, and what is
proved of it on a `World` is proved of the command itself.
-/

namespace TextTemplate

/-- **A sequence of requests to the world**, with a result at its end. -/
inductive Interaction (α : Type) where
  /-- The result. -/
  | done (a : α)
  /-- The value of an environment variable is asked for. -/
  | lookUp (name : String) (next : Option String → Interaction α)
  /-- The content of a file is asked for. -/
  | readFile (path : String) (next : Except FileFault String → Interaction α)
  /-- A file is written. -/
  | writeFile (path content : String) (next : Except FileFault Unit → Interaction α)
  /-- A text is added to the output. -/
  | print (text : String) (next : Interaction α)
  /-- A line is added to the messages. -/
  | tell (line : String) (next : Interaction α)

namespace Interaction

/-- Goes on with another sequence of requests. -/
def bind {α β : Type} (x : Interaction α) (f : α → Interaction β) : Interaction β :=
  match x with
  | .done a => f a
  | .lookUp name next => .lookUp name fun r => (next r).bind f
  | .readFile path next => .readFile path fun r => (next r).bind f
  | .writeFile path content next => .writeFile path content fun r => (next r).bind f
  | .print text next => .print text (next.bind f)
  | .tell line next => .tell line (next.bind f)

instance : Monad Interaction where
  pure := .done
  bind := bind

/-- Asks for those of some environment variables that have a value. -/
def environment : List String → Interaction (List (String × String))
  | [] => .done []
  | name :: names =>
    .lookUp name fun value =>
      (environment names).bind fun found =>
        .done ((value.map fun v => (name, v)).toList ++ found)

/-- Asks for the content of a file. -/
def read (path : String) : Interaction (Except FileFault String) := .readFile path .done

/-- Writes a file. -/
def write (path content : String) : Interaction (Except FileFault Unit) :=
  .writeFile path content .done

/-- Adds a line to the output. -/
def printLine (text : String) : Interaction Unit := .print (text ++ "\n") (.done ())

/-- Adds lines to the messages. -/
def tellAll : List String → Interaction Unit
  | [] => .done ()
  | line :: lines => .tell line (tellAll lines)

end Interaction

/-- **What an interaction finds and leaves behind**: environment variables, files, the output and the
messages. -/
structure World where
  environment : List (String × String) := []
  files : FileTree := {}
  output : String := ""
  messages : List String := []
deriving DecidableEq, Repr

/-- **Carries out an interaction** on a world. -/
def Interaction.run {α : Type} (w : World) : Interaction α → α × World
  | .done a => (a, w)
  | .lookUp name next => (next (Variable.inEnvironment w.environment name)).run w
  | .readFile path next => (next (w.files.read path)).run w
  | .writeFile path content next =>
    match w.files.write path content with
    | .ok files => (next (.ok ())).run { w with files }
    | .error fault => (next (.error fault)).run w
  | .print text next => next.run { w with output := w.output ++ text }
  | .tell line next => next.run { w with messages := w.messages ++ [line] }

end TextTemplate
