import TextTemplate.Dependency.Placeholder
import TextTemplate.Dependency.Variable
import TextTemplate.Json.Render
import TextTemplate.Json.Shape
import TextTemplate.Schema.Standard

/-!
# What a template depends on

The assemblies that a template and all that it includes refer to, and the build macros in the paths
of these and of the included files. A `Snapshot` is taken of a document at one time, and two
snapshots are compared by `Snapshot.diff?`.
-/

namespace TextTemplate

open Json

/-- **What a template depends on**: assemblies, with environment variables expanded, and macros. -/
structure Snapshot where
  assemblies : NameSet := {}
  macros : NameSet := {}
deriving DecidableEq, Repr, Inhabited

/-- **What has changed between two snapshots.** Macros that are no longer named are not listed. -/
structure SnapshotDiff where
  addedAssemblies : NameSet := {}
  removedAssemblies : NameSet := {}
  addedMacros : NameSet := {}
deriving DecidableEq, Repr, Inhabited

/-- Whether nothing has changed. -/
def SnapshotDiff.isEmpty (d : SnapshotDiff) : Bool :=
  d.addedAssemblies.isEmpty && d.removedAssemblies.isEmpty && d.addedMacros.isEmpty

namespace Snapshot

/-! ## Taking a snapshot -/

/-- The value of an attribute without the blanks around it, unless nothing is left. -/
def trimmedValue? (d : Directive) (name : String) : Option String :=
  ((d.value? name).map Text.trim).filter fun v => !v.isEmpty

/-- **The assembly that a directive names**, with environment variables expanded. If the name is
blank the hint for completion takes its place. -/
def assembly? (lookup : String → Option String) (d : Directive) : Option String :=
  (trimmedValue? d "name" <|> trimmedValue? d "completion").map (Variable.expand lookup)

/-- The snapshot with what a directive adds to it. -/
def addDirective (schema : Schema) (lookup : String → Option String) (s : Snapshot)
    (d : Directive) : Snapshot :=
  match schema.kindOf? d with
  | some .assembly =>
    match assembly? lookup d with
    | none => s
    | some assembly =>
      { assemblies := s.assemblies.insert assembly
        macros := Placeholder.collect assembly s.macros }
  | some .fileInclude =>
    match d.value? "file" with
    | none => s
    | some path => { s with macros := Placeholder.collect path s.macros }
  | _ => s

/-- **The snapshot of a document**: the directives of the document itself are looked at first, then
those of each document that it includes. -/
def extract (schema : Schema) (lookup : String → Option String) (d : Document) : Snapshot :=
  (d.family.flatMap Document.directives).foldl (addDirective schema lookup) {}

/-- **The environment variables that a snapshot may ask for**: those to which a value of an attribute
refers. -/
def variableNames (d : Document) : List String :=
  ((d.family.flatMap Document.directives).flatMap fun directive =>
    directive.attributes.flatMap fun a => ((a.value.map Token.text).map Variable.names).getD [])

/-- Whether there are no dependencies. -/
def isEmpty (s : Snapshot) : Bool := s.assemblies.isEmpty && s.macros.isEmpty

/-- Whether two snapshots have the same names, however they spell them. -/
def sameNames (s t : Snapshot) : Bool :=
  s.assemblies.sameNames t.assemblies && s.macros.sameNames t.macros

/-! ## Comparing snapshots -/

/-- **What has changed since an older snapshot**, or `none` if nothing has. Without an older snapshot
everything is new. -/
def diff? (new : Snapshot) : Option Snapshot → Option SnapshotDiff
  | none =>
    if new.isEmpty then none
    else some { addedAssemblies := new.assemblies, addedMacros := new.macros }
  | some old =>
    let diff : SnapshotDiff :=
      { addedAssemblies := new.assemblies.difference old.assemblies
        removedAssemblies := old.assemblies.difference new.assemblies
        addedMacros := new.macros.difference old.macros }
    if diff.isEmpty then none else some diff

/-! ## Saving a snapshot -/

/-- A snapshot as an object of two lists. -/
def toJson (s : Snapshot) : Value :=
  .obj [("assemblies", .strs s.assemblies.toList), ("macros", .strs s.macros.toList)]

/-- **A snapshot as a text to be saved.** -/
def toText (s : Snapshot) : String := s.toJson.renderIndented

/-- The fields of a snapshot read so far. -/
structure Fields where
  assemblies : Option NameSet := none
  macros : Option NameSet := none

/-- Reads a set of names from a list. -/
def readNames (f : Fragment) : Except ReadError NameSet :=
  NameSet.ofList <$> f.readList Fragment.readStr

/-- Reads one field of a snapshot. -/
def readField (r : Fields) (name : String) (f : Fragment) : Except ReadError Fields :=
  match name with
  | "assemblies" => do
    (unread r.assemblies "assemblies").mapError .shape
    return { r with assemblies := some (← readNames f) }
  | "macros" => do
    (unread r.macros "macros").mapError .shape
    return { r with macros := some (← readNames f) }
  | _ => do
    f.skip
    return r

/-- Reads a snapshot. -/
def ofFragment : Fragment → Except ReadError Snapshot
  | .obj fields closed => do
    let r ← Fragment.foldFields readField {} fields closed
    let assemblies ← (required r.assemblies "assemblies").mapError .shape
    let macros ← (required r.macros "macros").mapError .shape
    return ⟨assemblies, macros⟩
  | .arr items closed => do
    let record := recordOf "DependencySnapshot" 2
    let (assemblies, items) ← Fragment.takeItem 0 record readNames closed items
    let (macros, items) ← Fragment.takeItem 1 record readNames closed items
    Fragment.noMoreItems closed items
    return ⟨assemblies, macros⟩
  | f => f.wrongType "struct DependencySnapshot"

/-- Reads a set of names from a list that is a value. -/
def namesOfJson (v : Value) : Except ShapeError NameSet := NameSet.ofList <$> v.readList Value.readStr

/-- Reads one field of a snapshot that is a value. -/
def fieldOfJson (r : Fields) (field : String × Value) : Except ShapeError Fields :=
  match field with
  | ("assemblies", v) => do
    unread r.assemblies "assemblies"
    return { r with assemblies := some (← namesOfJson v) }
  | ("macros", v) => do
    unread r.macros "macros"
    return { r with macros := some (← namesOfJson v) }
  | _ => return r

/-- **Reads a snapshot** from a value. -/
def ofJson : Value → Except ShapeError Snapshot
  | .obj fields => do
    let r ← fields.foldlM fieldOfJson {}
    return ⟨← required r.assemblies "assemblies", ← required r.macros "macros"⟩
  | .arr all => do
    let record := recordOf "DependencySnapshot" 2
    let (assemblies, items) ← takeItem 0 record namesOfJson all
    let (macros, items) ← takeItem 1 record namesOfJson items
    endOfItems all.length items
    return ⟨assemblies, macros⟩
  | v => v.wrongType "struct DependencySnapshot"

/-- **Reads a saved snapshot.** -/
def ofText (s : String) : Except ReadError Snapshot := readText ofFragment s

end Snapshot

end TextTemplate
