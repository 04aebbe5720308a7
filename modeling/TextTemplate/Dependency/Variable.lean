import TextTemplate.Dependency.Reference

/-!
# Environment variables in texts

The path of an assembly may name an environment variable as `%NAME%`. A percent sign and the next one
form a reference if something stands between them, and otherwise the first one is a character. What
is done with references is done through any library that searches texts; `expand` is what is used.
-/

namespace TextTemplate.Variable

open Reference

/-- **How references to variables are written.** -/
def form : Form where
  opening := ['%']
  inName := (· != '%')
  close := '%'
  close_notIn := rfl

/-- The names in the references of a text. -/
def names (text : String) : List String := form.names text

/-- The text with the references that a library finds replaced by what `lookup` gives. A text without
percent signs is not searched. -/
def expandWith (library : Library) (lookup : String → Option String) (text : String) : String :=
  bif form.opensIn text then library.replaceAll form text fun m => (lookup m.name).getD m.whole
  else text

/-- **The text with the references replaced by what `lookup` gives.** A name that is not known leaves
its reference as written, and values are not looked into for more references. -/
def expand (lookup : String → Option String) (text : String) : String :=
  expandWith .scanning lookup text

/-- **The variables of an environment**, which is a list of texts with a name, a sign of equality and
a value. A name stands for what follows it and such a sign at the front of one of these texts. It may
have the sign inside, and then it takes in the front of a value. -/
def inEnvironment (environment : List (String × String)) (name : String) : Option String :=
  if name.toList.contains '\x00' then none
  else environment.findSome? fun (key, value) =>
    ((name.toList ++ ['=']).isPrefixOf? (key.toList ++ '=' :: value.toList)).map String.ofList

end TextTemplate.Variable
