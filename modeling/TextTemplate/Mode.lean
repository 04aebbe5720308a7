import TextTemplate.Json.Shape

/-!
# How a project treats a template

A template is either run while it is being edited, or *preprocessed*: turned into a class of the
project that is compiled with it. Only the class of a preprocessed template stands in a namespace.
-/

namespace TextTemplate

open Json

/-- **What a project says about a template**: whether it is preprocessed, the namespace set for the
file itself, and the namespace that the project gives to files at its place. -/
structure Mode where
  preprocessed : Bool := false
  customNamespace : Option String := none
  defaultNamespace : Option String := none
deriving DecidableEq, Repr, Inhabited

namespace Mode

/-- A template that is run while it is being edited. -/
def designTime : Mode := {}

/-- A preprocessed template at a place with a namespace. -/
def preprocessedIn (defaultNamespace : String) : Mode :=
  { preprocessed := true, defaultNamespace := some defaultNamespace }

/-- The same with a namespace of its own. -/
def withCustomNamespace (ns : String) (m : Mode) : Mode := { m with customNamespace := some ns }

/-- **The namespace of the class**: the one set for the file if it is not empty, else the one of its
place if that is not empty; none if the template is not preprocessed. -/
def namespace? (m : Mode) : Option String :=
  if m.preprocessed then
    (m.customNamespace.filter fun ns => !ns.isEmpty) <|>
      (m.defaultNamespace.filter fun ns => !ns.isEmpty)
  else
    none

/-! ## Reading -/

/-- The fields of a mode read so far. -/
structure Fields where
  preprocessed : Option Bool := none
  customNamespace : Option (Option String) := none
  defaultNamespace : Option (Option String) := none

/-- Reads one field of a mode. -/
def readField (r : Fields) (field : String × Value) : Except ShapeError Fields :=
  match field with
  | ("preprocessed", v) => do
    unread r.preprocessed "preprocessed"
    return { r with preprocessed := some (← v.readBool) }
  | ("custom_tool_namespace", v) => do
    unread r.customNamespace "custom_tool_namespace"
    return { r with customNamespace := some (← v.readOption Value.readStr) }
  | ("default_namespace", v) => do
    unread r.defaultNamespace "default_namespace"
    return { r with defaultNamespace := some (← v.readOption Value.readStr) }
  | _ => return r

/-- **Reads a mode.** Every field may be left out. -/
def ofJson : Value → Except ShapeError Mode
  | .obj fields => do
    let r ← fields.foldlM readField {}
    return ⟨r.preprocessed.getD false, r.customNamespace.getD none, r.defaultNamespace.getD none⟩
  | .arr all => do
    let (preprocessed, items) ← takeItemD false Value.readBool all
    let (customNamespace, items) ← takeItemD none (Value.readOption Value.readStr) items
    let (defaultNamespace, items) ← takeItemD none (Value.readOption Value.readStr) items
    endOfItems all.length items
    return ⟨preprocessed, customNamespace, defaultNamespace⟩
  | v => v.wrongType "struct ProjectMode"

end Mode

end TextTemplate
