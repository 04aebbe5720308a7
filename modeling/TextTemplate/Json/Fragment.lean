import TextTemplate.Json.Number

/-!
# JSON texts up to their first fault

A file is read from left to right, and the first thing wrong with it is the thing to report, be it
a fault of the JSON text or a value of the wrong shape. A `Fragment` is therefore the tree of all
that stands in front of the first fault of the text: a value that cannot be read is `broken`, and a
list or object in which the fault lies is left open. A reader that walks a fragment in order meets
shape errors and the fault of the text in the order in which they are written.

Three things are kept that a plain value has no room for, because a value that is skipped is held
to less than one that is read: a string whose `\u` escapes write no Unicode text, a number too large
for a double, and lists nested without limit. `isComplete` is the test for a value that is skipped,
`value?` the test for one that is read.
-/

namespace TextTemplate.Json

/-- **A JSON text as far as it can be read.** A string is `none` if its escapes write a lone
surrogate. -/
inductive Fragment where
  | null
  | bool (b : Bool)
  | num (n : Number)
  | str (text : Option String)
  | arr (items : List Fragment) (closed : Bool)
  | obj (fields : List (Option String × Fragment)) (closed : Bool)
  | broken
deriving Inhabited

/-! ## Characters and strings -/

/-- The four characters that may stand between the tokens of a JSON text. -/
def isSpace (c : Char) : Bool := c == ' ' || c == '\n' || c == '\t' || c == '\r'

/-- The text without the space in front of it. -/
def skipSpace (cs : List Char) : List Char := cs.dropWhile isSpace

/-- The value of a hexadecimal digit, in either case. -/
def hexDigit? (c : Char) : Option Nat :=
  if '0' ≤ c ∧ c ≤ '9' then some (c.toNat - '0'.toNat)
  else if 'a' ≤ c ∧ c ≤ 'f' then some (c.toNat - 'a'.toNat + 10)
  else if 'A' ≤ c ∧ c ≤ 'F' then some (c.toNat - 'A'.toNat + 10)
  else none

/-- The value of the four digits of a `\u` escape. -/
def hexUnit? (a b c d : Char) : Option Nat := do
  let a ← hexDigit? a
  let b ← hexDigit? b
  let c ← hexDigit? c
  let d ← hexDigit? d
  return ((a * 16 + b) * 16 + c) * 16 + d

/-- The character that follows a backslash in an escape other than `\u`. -/
def simpleEscape? : Char → Option Char
  | '"' => some '"'
  | '\\' => some '\\'
  | '/' => some '/'
  | 'b' => some '\x08'
  | 'f' => some '\x0c'
  | 'n' => some '\n'
  | 'r' => some '\r'
  | 't' => some '\t'
  | _ => none

/-- A piece of a string: a character written as itself or by a simple escape, or the 16-bit unit of
a `\u` escape. -/
inductive Piece where
  | char (c : Char)
  | unit (n : Nat)
deriving DecidableEq

/-- **The pieces of a string from behind its opening quote**, and what follows the closing one;
`none` if the string does not end, holds a control character or has an escape that JSON does not
know. -/
def readPieces : List Char → Option (List Piece × List Char)
  | [] => none
  | '"' :: rest => some ([], rest)
  | '\\' :: 'u' :: a :: b :: c :: d :: rest => do
    let n ← hexUnit? a b c d
    let (pieces, rest) ← readPieces rest
    return (.unit n :: pieces, rest)
  | '\\' :: c :: rest => do
    let c ← simpleEscape? c
    let (pieces, rest) ← readPieces rest
    return (.char c :: pieces, rest)
  | c :: rest => do
    guard (0x20 ≤ c.toNat)
    let (pieces, rest) ← readPieces rest
    return (.char c :: pieces, rest)

/-- Whether a unit is the first half of a surrogate pair. -/
def isHighSurrogate (n : Nat) : Bool := 0xD800 ≤ n && n ≤ 0xDBFF

/-- Whether a unit is the second half of a surrogate pair. -/
def isLowSurrogate (n : Nat) : Bool := 0xDC00 ≤ n && n ≤ 0xDFFF

/-- **The characters of a string**, or `none` if a surrogate stands alone. -/
def joinPieces : List Piece → Option (List Char)
  | [] => some []
  | .unit n :: .unit m :: rest =>
    if isHighSurrogate n && isLowSurrogate m then
      (joinPieces rest).map (Char.ofNat (0x10000 + (n - 0xD800) * 0x400 + (m - 0xDC00)) :: ·)
    else if isHighSurrogate n || isLowSurrogate n then none
    else (joinPieces (.unit m :: rest)).map (Char.ofNat n :: ·)
  | .unit n :: rest =>
    if isHighSurrogate n || isLowSurrogate n then none
    else (joinPieces rest).map (Char.ofNat n :: ·)
  | .char c :: rest => (joinPieces rest).map (c :: ·)

/-- A string from behind its opening quote, and what follows the closing one. The inner `none` is a
string whose escapes write a lone surrogate. -/
def readString (cs : List Char) : Option (Option String × List Char) :=
  (readPieces cs).map fun (pieces, rest) => ((joinPieces pieces).map String.ofList, rest)

/-! ## Numbers -/

/-- The digits after a mark that asks for at least one of them. -/
def readDigits? (cs : List Char) : Option (List Char × List Char) :=
  match cs.takeWhile Char.isDigit with
  | [] => none
  | digits => some (digits, cs.dropWhile Char.isDigit)

/-- The fraction, if a point follows. -/
def readFraction? : List Char → Option (Option (List Char) × List Char)
  | '.' :: cs => (readDigits? cs).map fun (digits, rest) => (some digits, rest)
  | cs => some (none, cs)

/-- The exponent, if its mark follows. -/
def readExponent? : List Char → Option (Option (Bool × List Char) × List Char)
  | c :: cs =>
    if c == 'e' || c == 'E' then
      match cs with
      | '-' :: cs => (readDigits? cs).map fun (digits, rest) => (some (true, digits), rest)
      | '+' :: cs => (readDigits? cs).map fun (digits, rest) => (some (false, digits), rest)
      | cs => (readDigits? cs).map fun (digits, rest) => (some (false, digits), rest)
    else
      some (none, c :: cs)
  | [] => some (none, [])

/-- The digits in front of the point: `0` alone, or digits that do not start with `0`. -/
def readWhole? (cs : List Char) : Option (List Char × List Char) :=
  match readDigits? cs with
  | some ('0' :: _ :: _, _) => none
  | found => found

/-- **A number**, or `none` if the text does not start with one. -/
def readNumber? (cs : List Char) : Option (Number × List Char) := do
  let (negative, cs) := match cs with
    | '-' :: cs => (true, cs)
    | cs => (false, cs)
  let (whole, cs) ← readWhole? cs
  let (fraction, cs) ← readFraction? cs
  let (exponent, cs) ← readExponent? cs
  return (⟨negative, whole, fraction, exponent⟩, cs)

/-! ## Values -/

/-- The word and what follows it, or `none` if the text does not start with the word. -/
def dropWord? (word : String) (cs : List Char) : Option (List Char) :=
  if word.toList.isPrefixOf cs then some (cs.drop word.toList.length) else none

/-- A value that is neither list nor object, and what follows it if it can be read. -/
def readScalar (cs : List Char) : Fragment × Option (List Char) :=
  match cs with
  | '"' :: rest =>
    match readString rest with
    | some (text, rest) => (.str text, some rest)
    | none => (.broken, none)
  | 'n' :: _ =>
    match dropWord? "null" cs with
    | some rest => (.null, some rest)
    | none => (.broken, none)
  | 't' :: _ =>
    match dropWord? "true" cs with
    | some rest => (.bool true, some rest)
    | none => (.broken, none)
  | 'f' :: _ =>
    match dropWord? "false" cs with
    | some rest => (.bool false, some rest)
    | none => (.broken, none)
  | cs =>
    match readNumber? cs with
    | some (n, rest) => (.num n, some rest)
    | none => (.broken, none)

/-- What stands in front of the next item of a list or field of an object: its end, an item, or a
fault. The first item stands alone; each later one needs a comma, and a comma needs an item. -/
inductive Next where
  | close (rest : List Char)
  | item (rest : List Char)
  | fault

/-- Looks for the end of a list or object, marked by `bracket`, or for its next item. -/
def next (bracket : Char) (first : Bool) (cs : List Char) : Next :=
  match skipSpace cs with
  | [] => .fault
  | c :: cs =>
    if c == bracket then .close cs
    else if first then .item (c :: cs)
    else if c == ',' then
      match skipSpace cs with
      | [] => .fault
      | d :: ds => if d == bracket then .fault else .item (d :: ds)
    else .fault

mutual

/-- A value at the front of the text, and what follows it if it can be read whole. The first
argument bounds the number of items and levels; `read` gives one that no text reaches. -/
def readValue : Nat → List Char → Fragment × Option (List Char)
  | 0, _ => (.broken, none)
  | fuel + 1, cs =>
    match skipSpace cs with
    | '[' :: rest =>
      let (items, after) := readItems fuel true rest
      (.arr items after.isSome, after)
    | '{' :: rest =>
      let (fields, after) := readFields fuel true rest
      (.obj fields after.isSome, after)
    | cs => readScalar cs

/-- The items of a list up to its end or the first fault. -/
def readItems : Nat → Bool → List Char → List Fragment × Option (List Char)
  | 0, _, _ => ([], none)
  | fuel + 1, first, cs =>
    match next ']' first cs with
    | .fault => ([], none)
    | .close rest => ([], some rest)
    | .item cs =>
      match readValue fuel cs with
      | (item, none) => ([item], none)
      | (item, some rest) =>
        let (items, after) := readItems fuel false rest
        (item :: items, after)

/-- The fields of an object up to its end or the first fault. A key without its colon has a broken
value. -/
def readFields : Nat → Bool → List Char → List (Option String × Fragment) × Option (List Char)
  | 0, _, _ => ([], none)
  | fuel + 1, first, cs =>
    match next '}' first cs with
    | .fault => ([], none)
    | .close rest => ([], some rest)
    | .item ('"' :: cs) =>
      match readString cs with
      | none => ([], none)
      | some (key, rest) =>
        match skipSpace rest with
        | ':' :: rest =>
          match readValue fuel rest with
          | (value, none) => ([(key, value)], none)
          | (value, some rest) =>
            let (fields, after) := readFields fuel false rest
            ((key, value) :: fields, after)
        | _ => ([(key, .broken)], none)
    | .item _ => ([], none)

end

/-- **The fragment at the front of a text**, and what follows it if it can be read whole. Each item
and each level takes at least one character, so twice the length bounds them. -/
def read (s : String) : Fragment × Option (List Char) :=
  readValue (2 * s.length + 2) s.toList

/-! ## Fragments as values -/

namespace Fragment

mutual

/-- Whether a fragment has no fault. This is all that is asked of a value that is skipped. -/
def isComplete : Fragment → Bool
  | .arr items closed => closed && itemsComplete items
  | .obj fields closed => closed && fieldsComplete fields
  | .broken => false
  | _ => true

/-- `isComplete` of every item. -/
def itemsComplete : List Fragment → Bool
  | [] => true
  | f :: fs => f.isComplete && itemsComplete fs

/-- `isComplete` of every field. -/
def fieldsComplete : List (Option String × Fragment) → Bool
  | [] => true
  | (_, f) :: fs => f.isComplete && fieldsComplete fs

end

mutual

/-- **The value of a fragment**, or `none` if it has a fault, holds a string that is no Unicode text
or a number too large for a double, or nests more than `depth` lists and objects. -/
def value? (depth : Nat) : Fragment → Option Value
  | .null => some .null
  | .bool b => some (.bool b)
  | .num n => n.value?
  | .str text => text.map .str
  | .arr items closed =>
    match depth, closed with
    | depth + 1, true => (itemValues? depth items).map .arr
    | _, _ => none
  | .obj fields closed =>
    match depth, closed with
    | depth + 1, true => (fieldValues? depth fields).map .obj
    | _, _ => none
  | .broken => none

/-- `value?` of every item. -/
def itemValues? (depth : Nat) : List Fragment → Option (List Value)
  | [] => some []
  | f :: fs => do
    let v ← f.value? depth
    let vs ← itemValues? depth fs
    return v :: vs

/-- `value?` of every field. -/
def fieldValues? (depth : Nat) : List (Option String × Fragment) → Option (List (String × Value))
  | [] => some []
  | (key, f) :: fs => do
    let key ← key
    let v ← f.value? depth
    let vs ← fieldValues? depth fs
    return (key, v) :: vs

end

end Fragment

end TextTemplate.Json
