import TextTemplate.Dependency.NameSet
import TextTemplate.Dependency.Reference
import TextTemplate.Text.Word

/-!
# Placeholders for build macros

The path of an assembly or of an included file may name a build macro as `$(Name)`. A placeholder's
name is made of word characters, none of which is `$` or a parenthesis, so placeholders never overlap.
What is done with placeholders is done for any such class of characters and through any library that
searches texts; `collect` and `resolve` are what is used.
-/

namespace TextTemplate.Placeholder

open Reference

/-- **The characters of names**: any class that has none of the signs around a name. -/
structure WordClass where
  contains : Char → Bool
  dollar : contains '$' = false
  opening : contains '(' = false
  closing : contains ')' = false

/-- The word characters of the Unicode standard. -/
def WordClass.unicode : WordClass where
  contains := Text.isWord
  dollar := by decide +kernel
  opening := by decide +kernel
  closing := by decide +kernel

/-- How placeholders are written, for a class of characters. -/
def formOf (word : WordClass) : Form where
  opening := ['$', '(']
  inName := word.contains
  close := ')'
  close_notIn := word.closing

/-- **How placeholders are written.** -/
abbrev form : Form := formOf .unicode

/-- Adds the names of the placeholders of a text to a set, as a library finds them. A text in which
nothing opens a placeholder is not searched. -/
def collectWith (library : Library) (word : WordClass) (text : String) (found : NameSet) : NameSet :=
  bif (formOf word).opensIn text then
    (library.captures (formOf word) text).foldl (fun found m => found.insert m.name) found
  else found

/-- **Adds the names of the placeholders of a text to a set.** -/
def collect (text : String) (found : NameSet) : NameSet := collectWith .scanning .unicode text found

/-- The value of a macro, whose name may be spelled in any letter case. -/
def lookup? (values : List (String × String)) (name : String) : Option String :=
  (values.find? fun (key, _) => Text.sameName key name).map (·.2)

/-- The text with the placeholders that a library finds replaced by their values. If there are no
values, or nothing opens a placeholder, the text is not searched. -/
def resolveWith (library : Library) (word : WordClass) (values : List (String × String))
    (text : String) : String :=
  if values.isEmpty then text
  else bif (formOf word).opensIn text then
    library.replaceAll (formOf word) text fun m => (lookup? values m.name).getD m.name
  else text

/-- **The text with the placeholders replaced by their values.** A macro without a value is replaced
by its name, but if there are no values at all the text is left as it is. Values are not looked into
for more placeholders. -/
def resolve (values : List (String × String)) (text : String) : String :=
  resolveWith .scanning .unicode values text

end TextTemplate.Placeholder
