import TextTemplate.Interaction
import TextTemplate.Mode
import TextTemplate.Toml.Reader

/-!
# Project settings

A project may say in a file beside its templates how they are treated and what its build macros
stand for. Settings that are not known are passed over; a known one of the wrong type makes the file
invalid.
-/

namespace TextTemplate

/-- **The settings of a project.** -/
structure Settings where
  mode : Mode := .designTime
  macros : List (String × String) := []
deriving DecidableEq, Repr, Inhabited

/-- **Why there are no settings.** -/
inductive SettingsError where
  | unreadable (path : String) (fault : FileFault)
  | invalid (path : String)
deriving DecidableEq, Repr

/-- The wording of an error. -/
def SettingsError.message : SettingsError → String
  | .unreadable path fault => "cannot read '" ++ path ++ "': " ++ fault.message
  | .invalid path => "invalid config '" ++ path ++ "'"

namespace Settings

open Toml (Item Table)

/-- The value of an item that has to be a flag. -/
def flag? : Item → Option Bool
  | .value (.bool b) => some b
  | _ => none

/-- The value of an item that has to be a text. -/
def text? : Item → Option String
  | .value (.str s) => some s
  | _ => none

/-- The key under which the text of a time stands when the time is taken for a table. -/
def timeKey : String := "$__toml_private_datetime"

/-- The values of an item that has to be a table of texts. A time counts as a table with one. -/
def texts? (item : Item) : Option (List (String × String)) :=
  match item with
  | .value (.inlineTable entries) => entries.mapM fun (key, item) => (text? item).map (key, ·)
  | .table t => t.entries.mapM fun (key, item) => (text? item).map (key, ·)
  | .value (.time text) => some [(timeKey, text)]
  | _ => none

/-- The setting of a key, which may be left out. -/
def setting? {α : Type} (t : Table) (key : String) (read : Item → Option α) :
    Option (Option α) :=
  match t.get? key with
  | none => some none
  | some item => (read item).map some

/-- **The settings that a table holds**, or `none` if one has the wrong type. -/
def ofTable? (t : Table) : Option Settings := do
  let preprocessed ← setting? t "preprocessed" flag?
  let customNamespace ← setting? t "custom_tool_namespace" text?
  let defaultNamespace ← setting? t "default_namespace" text?
  let macros ← setting? t "macros" texts?
  return {
    mode := { preprocessed := preprocessed.getD false, customNamespace, defaultNamespace }
    macros := macros.getD [] }

/-- **Reads the settings of a text.** -/
def ofText? (text : String) : Option Settings := (Toml.readDocument? text).bind ofTable?

/-- The name of the file with the settings. -/
def fileName : String := "t4.toml"

/-- The file with the settings for a template. -/
def pathBeside (template : String) : String :=
  Path.join ((Path.parent? template).getD ".") fileName

/-- The settings in the content of a file. -/
def ofFile (path : String) : Except FileFault String → Except SettingsError Settings
  | .ok content =>
    match ofText? content with
    | some settings => .ok settings
    | none => .error (.invalid path)
  | .error fault => .error (.unreadable path fault)

/-- The settings for a template, and the file in which they were found if nobody had named it. -/
structure Discovery where
  path : Option String
  settings : Except SettingsError Settings

/-- **Looks for the settings of a template**: in a file that was named, else in the one beside the
template. If there is none, all settings have their defaults. -/
def discover (named : Option String) (template : String) : Interaction Discovery :=
  match named with
  | some path => return ⟨none, ofFile path (← Interaction.read path)⟩
  | none => do
    let path := pathBeside template
    match ← Interaction.read path with
    | .ok content => return ⟨some path, ofFile path (.ok content)⟩
    | .error fault =>
      if fault.isAbsence then return ⟨none, .ok {}⟩
      else return ⟨some path, ofFile path (.error fault)⟩

end Settings

end TextTemplate
