import TextTemplate.Json.Value

/-!
# Writing JSON

`render` writes a value on one line without spaces; `renderIndented` gives every item and field a
line of its own, two spaces deeper than the list or object that holds it. Strings are written with
the short escapes that JSON has, `\u` for the other controls, and everything else as itself.
-/

namespace TextTemplate.Json

/-- The hexadecimal digit of a number below 16, in lower case. -/
def hexChar (n : Nat) : Char := if n < 10 then Char.ofNat (n + 48) else Char.ofNat (n + 87)

/-- One character of a string as written between quotes. -/
def escapeChar (c : Char) : List Char :=
  if c == '"' then ['\\', '"']
  else if c == '\\' then ['\\', '\\']
  else if c == '\x08' then ['\\', 'b']
  else if c == '\x0c' then ['\\', 'f']
  else if c == '\n' then ['\\', 'n']
  else if c == '\r' then ['\\', 'r']
  else if c == '\t' then ['\\', 't']
  else if c.toNat < 0x20 then
    ['\\', 'u', '0', '0', hexChar (c.toNat / 16), hexChar (c.toNat % 16)]
  else [c]

/-- **A string between its quotes.** -/
def renderString (s : String) : List Char :=
  '"' :: (s.toList.flatMap escapeChar ++ ['"'])

/-- An integer in decimal. -/
def renderInt : Int → List Char
  | .ofNat n => Nat.toDigits 10 n
  | .negSucc n => '-' :: Nat.toDigits 10 (n + 1)

namespace Value

/-! ## On one line -/

mutual

/-- The characters of a value written on one line. -/
def chars : Value → List Char
  | .null => "null".toList
  | .bool b => (if b then "true" else "false").toList
  | .int n => renderInt n
  | .decimal literal => literal.toList
  | .str s => renderString s
  | .arr items => '[' :: itemChars true items
  | .obj fields => '{' :: fieldChars true fields

/-- The items of a list and its end. -/
def itemChars (first : Bool) : List Value → List Char
  | [] => [']']
  | v :: vs => (if first then [] else [',']) ++ v.chars ++ itemChars false vs

/-- The fields of an object and its end. -/
def fieldChars (first : Bool) : List (String × Value) → List Char
  | [] => ['}']
  | (key, v) :: fields =>
    (if first then [] else [',']) ++ renderString key ++ ':' :: v.chars ++ fieldChars false fields

end

/-- **A value on one line.** -/
def render (v : Value) : String := String.ofList v.chars

/-! ## On many lines -/

/-- A line break and the blanks of a level. -/
def lineBreak (level : Nat) : List Char := '\n' :: List.replicate (2 * level) ' '

mutual

/-- The characters of a value whose items and fields stand on lines of their own. -/
def indentedChars (level : Nat) : Value → List Char
  | .arr [] => ['[', ']']
  | .arr (v :: vs) => '[' :: indentedItems level true (v :: vs)
  | .obj [] => ['{', '}']
  | .obj ((key, v) :: fields) => '{' :: indentedFields level true ((key, v) :: fields)
  | v => v.chars

/-- The items of a list and its end, each on a line. -/
def indentedItems (level : Nat) (first : Bool) : List Value → List Char
  | [] => lineBreak level ++ [']']
  | v :: vs =>
    (if first then [] else [',']) ++ lineBreak (level + 1) ++ v.indentedChars (level + 1)
      ++ indentedItems level false vs

/-- The fields of an object and its end, each on a line. -/
def indentedFields (level : Nat) (first : Bool) : List (String × Value) → List Char
  | [] => lineBreak level ++ ['}']
  | (key, v) :: fields =>
    (if first then [] else [',']) ++ lineBreak (level + 1) ++ renderString key
      ++ ':' :: ' ' :: v.indentedChars (level + 1) ++ indentedFields level false fields

end

/-- **A value on many lines.** -/
def renderIndented (v : Value) : String := String.ofList (v.indentedChars 0)

end Value

end TextTemplate.Json
