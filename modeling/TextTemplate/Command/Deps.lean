import TextTemplate.Command.Basic
import TextTemplate.Dependency.Snapshot

/-!
# Listing dependencies

The assemblies and macros of a template, and what has changed since an earlier list was saved.
-/

namespace TextTemplate.Command

/-- The lines for assemblies and macros. `shown` is how an assembly is written. -/
def snapshotLines (shown : String → String) (values : List (String × String)) (s : Snapshot) :
    List String :=
  "assemblies:" :: (s.assemblies.toList.map fun a => "  " ++ shown a) ++
    "macros:" :: s.macros.toList.map fun name =>
      match Placeholder.lookup? values name with
      | some value => "  " ++ name ++ " = " ++ value
      | none => "  " ++ name

/-- The lines for what has changed. -/
def changeLines (shown : String → String) : Option SnapshotDiff → List String
  | none => ["changes:", "  (none)"]
  | some diff =>
    "changes:" :: (diff.addedAssemblies.toList.map fun a => "  + " ++ shown a) ++
      (diff.removedAssemblies.toList.map fun a => "  - " ++ shown a) ++
      diff.addedMacros.toList.map fun name => "  + $(" ++ name ++ ")"

/-- Lists what has changed since a snapshot was saved, if a file with one is named. -/
def compare (shown : String → String) (snapshot : Snapshot) : Option String → Action Unit
  | none => return ()
  | some path => do
    let text ← Action.readFile path
    let old ← Action.ofExcept (fun _ => .notSnapshot path) (Snapshot.ofText text)
    Action.printLines (changeLines shown (snapshot.diff? (some old)))

/-- Saves a snapshot, if a file for it is named. -/
def save (snapshot : Snapshot) : Option String → Action Unit
  | none => return ()
  | some path => Action.writeFile path snapshot.toText

/-- **Lists what a template depends on.** -/
def deps (input : Input) (previous saved : Option String) (resolve : Bool) : Action Nat := do
  let environment ←
    (Interaction.environment (Snapshot.variableNames input.document) :
      Interaction (List (String × String)))
  let snapshot := Snapshot.extract .standard (Variable.inEnvironment environment) input.document
  let values := input.settings.macros
  let shown := fun name => if resolve then Placeholder.resolve values name else name
  Action.printLines (snapshotLines shown values snapshot)
  compare shown snapshot previous
  save snapshot saved
  return 0

end TextTemplate.Command
