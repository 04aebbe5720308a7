import TextTemplate.Cancellation
import TextTemplate.Document.Json
import TextTemplate.Log
import TextTemplate.Schema.Standard
import TextTemplate.Settings

/-!
# What the commands share

A command reads a template tree and the settings for it, works on them and tells how it went. It
stops at the first failure; what has been printed by then stays.
-/

namespace TextTemplate.Command

/-- **Why a command fails.** -/
inductive Failure where
  | cannotRead (path : String) (fault : FileFault)
  | cannotWrite (path : String) (fault : FileFault)
  | notTemplate (path : String)
  | notSnapshot (path : String)
  | settings (error : SettingsError)
  | cancelled (c : Cancelled)
deriving DecidableEq, Repr

/-- The wording of a failure, with its cause behind it. A file with settings that cannot be read has
the cause in its own wording already, and so shows it twice. -/
def Failure.message : Failure → String
  | .cannotRead path fault => "cannot read '" ++ path ++ "': " ++ fault.message
  | .cannotWrite path fault => "cannot write '" ++ path ++ "': " ++ fault.message
  | .notTemplate path => "'" ++ path ++ "' is not a template tree"
  | .notSnapshot path => "'" ++ path ++ "' is not a dependency snapshot"
  | .settings (.unreadable path fault) =>
    (SettingsError.unreadable path fault).message ++ ": " ++ fault.message
  | .settings error => error.message
  | .cancelled c => c.message

/-- **Something that a command does**: an interaction that may end in a failure. -/
abbrev Action := ExceptT Failure Interaction

namespace Action

/-- Takes the result, or fails for the reason given. -/
def ofExcept {ε α : Type} (why : ε → Failure) : Except ε α → Action α
  | .ok a => return a
  | .error e => throw (why e)

/-- Reads a file. -/
def readFile (path : String) : Action String := do
  ofExcept (.cannotRead path) (← Interaction.read path)

/-- Writes a file. -/
def writeFile (path content : String) : Action Unit := do
  ofExcept (.cannotWrite path) (← Interaction.write path content)

/-- Adds a text to the output. -/
def print (text : String) : Action Unit := (Interaction.print text (.done ()) : Interaction Unit)

/-- Adds lines to the output. -/
def printLines (lines : List String) : Action Unit :=
  print (String.join (lines.map (· ++ "\n")))

/-- Adds lines to the messages. -/
def tell (lines : List String) : Action Unit := (Interaction.tellAll lines : Interaction Unit)

/-- Adds an entry to the log, if the filter shows it. -/
def log (filter : Log.Filter) (entry : Log.Entry) : Action Unit :=
  if filter.shows entry then tell [entry.line] else return ()

end Action

/-! ## Loading -/

/-- **What a command works on.** -/
structure Input where
  document : Document
  settings : Settings
  filter : Log.Filter

/-- The entry of the log for a file with settings that was found. -/
def settingsFound (path : String) : Log.Entry :=
  { topic := "t4::config", message := "using project config", fields := [("path", path)] }

/-- The entry of the log for a template tree that was read. -/
def treeLoaded (document : Document) (settings : Settings) : Log.Entry :=
  { topic := "t4", message := "loaded template tree"
    fields := [("path", document.path), ("includes", toString document.includes.length),
      ("preprocessed", toString settings.mode.preprocessed)] }

/-- **Reads a template tree and its settings.** -/
def Input.load (filter : Log.Filter) (tree : String) (config : Option String) : Action Input := do
  let text ← Action.readFile tree
  let document ← Action.ofExcept (fun _ => .notTemplate tree) (Document.ofText text)
  let found ← (Settings.discover config tree : Interaction Settings.Discovery)
  if let some path := found.path then
    Action.log filter (settingsFound path)
  let settings ← Action.ofExcept .settings found.settings
  Action.log filter (treeLoaded document settings)
  return { document, settings, filter }

end TextTemplate.Command
