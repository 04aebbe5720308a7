import TextTemplate.Toml.Number
import TextTemplate.Toml.Text

/-!
# Reading TOML

A TOML document is read line by line into one table: a line gives a key its value, or is the header
under which the keys of the following lines stand. `readDocument?` is `none` for a text that is no
TOML, be it for its form or for a key or header that stands twice.
-/

namespace TextTemplate.Toml

/-! ## Values -/

/-- How many lists and inline tables may nest. -/
def nestingLimit : Nat := 79

/-- The values of a list up to its end. The first argument bounds their number and that of the lines
between two of them. -/
def readItems (value : List Char → Option (Value × List Char)) :
    Nat → List Char → Option (List Value × List Char)
  | 0, _ => none
  | fuel + 1, cs =>
    match skipLines fuel cs with
    | ']' :: rest => some ([], rest)
    | cs => do
      let (v, rest) ← value cs
      match skipLines fuel rest with
      | ',' :: rest =>
        let (vs, rest) ← readItems value fuel rest
        return (v :: vs, rest)
      | ']' :: rest => return ([v], rest)
      | _ => none

/-- A key and its value. -/
def readPair? (value : List Char → Option (Value × List Char)) (cs : List Char) :
    Option ((List String × String) × Value × List Char) := do
  let (key, rest) ← readKey? pathLimit cs
  match rest with
  | '=' :: rest =>
    let (v, rest) ← value (skipBlanks rest)
    return (key, v, skipBlanks rest)
  | _ => none

/-- The keys of an inline table up to its end, added to a table. The first argument bounds their
number. -/
def readPairs (value : List Char → Option (Value × List Char)) :
    Nat → Table → List Char → Option (Table × List Char)
  | 0, _, _ => none
  | fuel + 1, t, cs => do
    let ((path, key), v, rest) ← readPair? value cs
    let t ← t.addValue path key v
    match rest with
    | ',' :: rest => readPairs value fuel t rest
    | '}' :: rest => return (t, rest)
    | _ => none

/-- **A value**, in which `depth` lists and inline tables may nest. -/
def readValue? : Nat → List Char → Option (Value × List Char)
  | 0, '[' :: _ => none
  | depth + 1, '[' :: rest => do
    let (vs, rest) ← readItems (readValue? depth) (rest.length + 1) rest
    return (.arr vs, rest)
  | 0, '{' :: _ => none
  | depth + 1, '{' :: rest =>
    match skipBlanks rest with
    | '}' :: rest => some (.inlineTable [], rest)
    | rest => do
      let (t, rest) ← readPairs (readValue? depth) (rest.length + 1) Table.empty rest
      return (.inlineTable t.entries, rest)
  | _, '"' :: rest => (readString? ('"' :: rest)).map fun (s, rest) => (.str s, rest)
  | _, '\'' :: rest => (readString? ('\'' :: rest)).map fun (s, rest) => (.str s, rest)
  | _, 't' :: 'r' :: 'u' :: 'e' :: rest => some (.bool true, rest)
  | _, 'f' :: 'a' :: 'l' :: 's' :: 'e' :: rest => some (.bool false, rest)
  | _, cs => readNumber? cs

/-! ## Lines -/

/-- The document so far, and the header under which the next keys stand. -/
structure State where
  root : Table := .empty
  header : List String := []

/-- A header: `[key]` opens a table, `[[key]]` adds one to a list. -/
def readHeader? (s : State) (cs : List Char) : Option (State × List Char) :=
  match cs with
  | '[' :: '[' :: rest => do
    let ((path, key), rest) ← readKey? pathLimit rest
    match rest with
    | ']' :: ']' :: rest =>
      return ({ root := ← s.root.openListed path key, header := path ++ [key] }, ← endLine? rest)
    | _ => none
  | '[' :: rest => do
    let ((path, key), rest) ← readKey? pathLimit rest
    match rest with
    | ']' :: rest =>
      return ({ root := ← s.root.openTable path key, header := path ++ [key] }, ← endLine? rest)
    | _ => none
  | _ => none

/-- One line, and what follows it. -/
def readLine? (s : State) (cs : List Char) : Option (State × List Char) :=
  match cs with
  | '[' :: _ => readHeader? s cs
  | '#' :: _ => (endLine? cs).map (s, ·)
  | '\n' :: _ => (newline? cs).map (s, ·)
  | '\r' :: _ => (newline? cs).map (s, ·)
  | cs => do
    let ((path, key), v, rest) ← readPair? (readValue? nestingLimit) cs
    let root ← s.root.update false (Table.addValue path key v) s.header
    return ({ s with root }, ← endLine? rest)

/-- The lines up to the end of the text. The first argument bounds their number. -/
def readLines : Nat → State → List Char → Option State
  | 0, _, _ => none
  | fuel + 1, s, cs =>
    match skipBlanks cs with
    | [] => some s
    | cs => do
      let (s, rest) ← readLine? s cs
      readLines fuel s rest

/-- **Reads a TOML document.** A byte order mark in front is passed over. -/
def readDocument? (text : String) : Option Table :=
  let cs := match text.toList with
    | '\ufeff' :: cs => cs
    | cs => cs
  (readLines (cs.length + 1) {} cs).map State.root

end TextTemplate.Toml
