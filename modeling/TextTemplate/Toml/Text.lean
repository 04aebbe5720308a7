import TextTemplate.Json.Fragment

/-!
# TOML texts

Blanks, comments and the four kinds of strings. A reader takes the characters in front of it and
returns what it has read and what follows, or `none` if the text is not as it should be.
-/

namespace TextTemplate.Toml

open Json (hexDigit?)

/-! ## Blanks and lines -/

/-- The blanks inside a line. -/
def isBlank (c : Char) : Bool := c == ' ' || c == '\t'

/-- The text without the blanks in front of it. -/
def skipBlanks (cs : List Char) : List Char := cs.dropWhile isBlank

/-- Whether a character may stand in a comment or a string: no control but the tab. -/
def isPlain (c : Char) : Bool := c == '\t' || (0x20 ≤ c.toNat && c.toNat != 0x7F)

/-- What follows a line break. -/
def newline? : List Char → Option (List Char)
  | '\n' :: rest => some rest
  | '\r' :: '\n' :: rest => some rest
  | _ => none

/-- What follows the comment in front, if there is one. -/
def skipComment : List Char → List Char
  | '#' :: rest => rest.dropWhile isPlain
  | cs => cs

/-- What follows the rest of a line: blanks, a comment and the line break or the end of the text. -/
def endLine? (cs : List Char) : Option (List Char) :=
  match skipComment (skipBlanks cs) with
  | [] => some []
  | cs => newline? cs

/-- The text without the blank lines and comments in front of it. The first argument bounds their
number. -/
def skipLines : Nat → List Char → List Char
  | 0, cs => cs
  | fuel + 1, cs =>
    let cs := skipBlanks cs
    match newline? (skipComment cs) with
    | some rest => skipLines fuel rest
    | none => cs

/-! ## Strings -/

/-- The characters read so far with one more in front. -/
def push (c : Char) (r : List Char × List Char) : List Char × List Char := (c :: r.1, r.2)

/-- The character of an escape other than `\u` and `\U`. -/
def simpleEscape? : Char → Option Char
  | 'b' => some '\x08'
  | 't' => some '\t'
  | 'n' => some '\n'
  | 'f' => some '\x0c'
  | 'r' => some '\r'
  | '"' => some '"'
  | '\\' => some '\\'
  | _ => none

/-- The character of a code point written in hexadecimal. -/
def codePoint? (digits : List Char) : Option Char := do
  let n ← digits.foldlM (fun n c => (hexDigit? c).map (16 * n + ·)) 0
  if h : n.isValidChar then return Char.ofNatAux n h else none

/-- A string from behind its opening quote, which may be no line break. -/
def basicString : List Char → Option (List Char × List Char)
  | [] => none
  | '"' :: rest => some ([], rest)
  | '\\' :: 'u' :: a :: b :: c :: d :: rest => do
    return push (← codePoint? [a, b, c, d]) (← basicString rest)
  | '\\' :: 'U' :: a :: b :: c :: d :: e :: f :: g :: h :: rest => do
    return push (← codePoint? [a, b, c, d, e, f, g, h]) (← basicString rest)
  | '\\' :: c :: rest => do return push (← simpleEscape? c) (← basicString rest)
  | c :: rest => if isPlain c then (basicString rest).map (push c) else none

/-- A string without escapes, from behind its opening quote. -/
def literalString : List Char → Option (List Char × List Char)
  | [] => none
  | '\'' :: rest => some ([], rest)
  | c :: rest => if isPlain c then (literalString rest).map (push c) else none

/-- The end of a string of several lines, if the text starts with it: three quotes, in front of
which two more may belong to the string. -/
def closing? (quote : Char) (cs : List Char) : Option (List Char × List Char) :=
  let run := (cs.take 5).takeWhile (· == quote)
  if 3 ≤ run.length then some (run.drop 3, cs.drop run.length) else none

/-- A string of several lines from behind its opening quotes. `joining` is set behind a backslash
that ends a line, until the next character that is neither blank nor line break. -/
def basicLines (joining : Bool) : List Char → Option (List Char × List Char)
  | [] => none
  | '\\' :: 'u' :: a :: b :: c :: d :: rest => do
    return push (← codePoint? [a, b, c, d]) (← basicLines false rest)
  | '\\' :: 'U' :: a :: b :: c :: d :: e :: f :: g :: h :: rest => do
    return push (← codePoint? [a, b, c, d, e, f, g, h]) (← basicLines false rest)
  | '\\' :: c :: rest =>
    match simpleEscape? c with
    | some c => (basicLines false rest).map (push c)
    | none => if (newline? (skipBlanks (c :: rest))).isSome then basicLines true (c :: rest) else none
  | '\r' :: '\n' :: rest =>
    if joining then basicLines true rest else (basicLines false rest).map (push '\n')
  | c :: rest =>
    if c == '\n' then
      if joining then basicLines true rest else (basicLines false rest).map (push '\n')
    else if joining && isBlank c then basicLines true rest
    else match closing? '"' (c :: rest) with
      | some closed => some closed
      | none => if isPlain c then (basicLines false rest).map (push c) else none

/-- A string of several lines without escapes, from behind its opening quotes. -/
def literalLines : List Char → Option (List Char × List Char)
  | [] => none
  | '\r' :: '\n' :: rest => (literalLines rest).map (push '\n')
  | c :: rest =>
    match closing? '\'' (c :: rest) with
    | some closed => some closed
    | none => if c == '\n' || isPlain c then (literalLines rest).map (push c) else none

/-- The text without the line break in front of it, if there is one. -/
def skipNewline (cs : List Char) : List Char := (newline? cs).getD cs

/-- **A string of any kind.** -/
def readString? : List Char → Option (String × List Char)
  | '"' :: '"' :: '"' :: rest => do
    let (s, rest) ← basicLines false (skipNewline rest)
    return (String.ofList s, rest)
  | '"' :: rest => do
    let (s, rest) ← basicString rest
    return (String.ofList s, rest)
  | '\'' :: '\'' :: '\'' :: rest => do
    let (s, rest) ← literalLines (skipNewline rest)
    return (String.ofList s, rest)
  | '\'' :: rest => do
    let (s, rest) ← literalString rest
    return (String.ofList s, rest)
  | _ => none

/-! ## Keys -/

/-- Whether a character may stand in a key without quotes. -/
def isBare (c : Char) : Bool := c.isAlphanum || c == '-' || c == '_'

/-- A key without dots. -/
def simpleKey? : List Char → Option (String × List Char)
  | '"' :: rest => do
    let (s, rest) ← basicString rest
    return (String.ofList s, rest)
  | '\'' :: rest => do
    let (s, rest) ← literalString rest
    return (String.ofList s, rest)
  | cs =>
    match cs.takeWhile isBare with
    | [] => none
    | key => some (String.ofList key, cs.dropWhile isBare)

/-- How many keys dots may join. -/
def pathLimit : Nat := 79

/-- **A key with its dots**: the keys in front of the last dot, and the last key. The first argument
bounds their number. -/
def readKey? : Nat → List Char → Option ((List String × String) × List Char)
  | 0, _ => none
  | fuel + 1, cs => do
    let (key, rest) ← simpleKey? (skipBlanks cs)
    match skipBlanks rest with
    | '.' :: rest =>
      let ((path, last), rest) ← readKey? fuel rest
      return ((key :: path, last), rest)
    | rest => return (([], key), rest)

end TextTemplate.Toml
