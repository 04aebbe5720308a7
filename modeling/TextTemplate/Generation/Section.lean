import TextTemplate.MappedText

/-!
# The parts of a class

The parts of a generated class that grow while a template is walked. Each has a text of its own,
with offsets from its own start, and they are put together at the end.
-/

namespace TextTemplate

/-- **The parts of a class that come from the template.** -/
inductive Section where
  | usings
  | parameters
  | inherits
  | transformBody
  | featureMethods
deriving DecidableEq, Repr

/-- **A text for each part.** -/
structure Sections where
  usings : MappedText := {}
  parameters : MappedText := {}
  inherits : MappedText := {}
  transformBody : MappedText := {}
  featureMethods : MappedText := {}
deriving DecidableEq, Repr

namespace Sections

/-- The text of a part. -/
def get (s : Sections) : Section → MappedText
  | .usings => s.usings
  | .parameters => s.parameters
  | .inherits => s.inherits
  | .transformBody => s.transformBody
  | .featureMethods => s.featureMethods

/-- The texts with that of one part changed. -/
def modify (s : Sections) (part : Section) (f : MappedText → MappedText) : Sections :=
  match part with
  | .usings => { s with usings := f s.usings }
  | .parameters => { s with parameters := f s.parameters }
  | .inherits => { s with inherits := f s.inherits }
  | .transformBody => { s with transformBody := f s.transformBody }
  | .featureMethods => { s with featureMethods := f s.featureMethods }

end Sections

end TextTemplate
