import TextTemplate.Schema.Basic

/-!
# The standard schema

The directives of the standard text templating host.
-/

namespace TextTemplate.Schema

/-- The rule for a truth value. -/
def truthValue : ValueRule := .oneOf ["true", "false"]

/-- **The standard schema.** -/
def standard : Schema where
  directives :=
    [ { kind := .template
        name := "template"
        attributes :=
          [ { name := "language", rule := .oneOf ["C#", "VB"] },
            { name := "hostspecific", rule := .oneOf ["true", "false", "trueFromBase"] },
            { name := "debug", rule := truthValue },
            { name := "inherits" },
            { name := "culture" },
            { name := "compilerOptions" },
            { name := "linePragmas", rule := truthValue },
            { name := "visibility", rule := .oneOf ["public", "internal"] } ] },
      { kind := .parameter
        name := "parameter"
        attributes := [{ name := "type", required := true }, { name := "name", required := true }] },
      { kind := .output
        name := "output"
        attributes := [{ name := "extension" }, { name := "encoding" }] },
      { kind := .assembly
        name := "assembly"
        attributes := [{ name := "name", required := true }] },
      { kind := .namespaceImport
        name := "import"
        attributes := [{ name := "namespace", required := true }] },
      { kind := .fileInclude
        name := "include"
        attributes :=
          [{ name := "file", required := true }, { name := "once", rule := truthValue }] },
      { kind := .cleanupBehavior
        name := "CleanupBehavior"
        attributes := [{ name := "name", required := true, rule := .oneOf ["dispose"] }] } ]

end TextTemplate.Schema
