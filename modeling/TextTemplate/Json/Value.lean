/-!
# JSON values

A JSON value as the rest of the library uses it. An integer is kept as a number if it fits the
64 bits of a signed or unsigned word; every other number keeps the text it was written with, since
nothing here computes with it. The fields of an object stay in the order they were written, and a
repeated key stays repeated: what a repetition means is for the reader of the object to say.
-/

namespace TextTemplate.Json

/-- **A JSON value.** -/
inductive Value where
  | null
  | bool (b : Bool)
  | int (n : Int)
  | decimal (literal : String)
  | str (s : String)
  | arr (items : List Value)
  | obj (fields : List (String × Value))
deriving Repr, Inhabited

namespace Value

/-- A natural number. -/
def nat (n : Nat) : Value := .int n

/-- A list of texts. -/
def strs (texts : List String) : Value := .arr (texts.map .str)

/-- `null` for an absent value. -/
def ofOption {α : Type} (f : α → Value) : Option α → Value
  | none => .null
  | some a => f a

end Value

end TextTemplate.Json
