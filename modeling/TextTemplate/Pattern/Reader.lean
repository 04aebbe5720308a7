import TextTemplate.Json.Fragment
import TextTemplate.Pattern.Basic
import TextTemplate.Text.Numeric

/-!
# Reading patterns

`Pattern.ofChars?` reads a pattern from its text. The text stands between braces and in a list with
commas, so it holds neither a closing brace nor a comma. Everything that needs a closing brace is
therefore malformed: a repetition with a count, and a name or number in braces behind an escape.

With the flag `verbose` blanks between the parts of a pattern do not count, nor does what stands
between `#` and the end of the line. The readers take that flag as an argument and pass over such
space where it may stand.
-/

namespace TextTemplate.Pattern

open Json (hexDigit?)

/-! ## Space -/

/-- The text without the blanks and comments in front of it. `inComment` says that it starts inside a
comment. -/
def skipSpace (inComment : Bool) : List Char → List Char
  | [] => []
  | c :: rest =>
    if inComment then skipSpace (c != '\n') rest
    else if Text.isBlank c then skipSpace false rest
    else if c == '#' then skipSpace true rest
    else c :: rest

/-- The text without the space in front of it, if space does not count. -/
def skip (verbose : Bool) (cs : List Char) : List Char :=
  if verbose then skipSpace false cs else cs

/-! ## Escapes -/

/-- A number of exactly some hexadecimal digits, appended to the one read so far. -/
def readHex? (verbose : Bool) : Nat → Nat → List Char → Option (Nat × List Char)
  | 0, n, cs => some (n, cs)
  | _ + 1, _, [] => none
  | digits + 1, n, c :: rest => do
    readHex? verbose digits (16 * n + (← hexDigit? c)) (skip verbose rest)

/-- The literal character that some hexadecimal digits number. -/
def readNumbered? (verbose isByte : Bool) (digits : Nat) (cs : List Char) :
    Option (Pattern × List Char) := do
  let (n, rest) ← readHex? verbose digits 0 (skip verbose cs)
  guard (decide n.isValidChar)
  return (.literal { char := Char.ofNat n, isByte }, rest)

/-- The letter of a general category. -/
def readCategory? (verbose : Bool) (cs : List Char) : Option (Pattern × List Char) :=
  match skip verbose cs with
  | c :: rest => if "CLMNPSZ".contains c.toUpper then some (.category, skip verbose rest) else none
  | [] => none

/-- Whether a character stands for itself behind a backslash. -/
def isEscapable (c : Char) : Bool :=
  c.toNat < 0x80 && !(c.isAlphanum || c == '<' || c == '>')

/-- The character for which a letter stands behind a backslash. -/
def control? : Char → Option Char
  | 'a' => some '\x07'
  | 'f' => some '\x0c'
  | 't' => some '\t'
  | 'n' => some '\n'
  | 'r' => some '\r'
  | 'v' => some '\x0b'
  | _ => none

/-- **What follows a backslash.** -/
def readEscape? (verbose : Bool) : List Char → Option (Pattern × List Char)
  | [] => none
  | c :: rest =>
    match c with
    | 'x' => readNumbered? verbose true 2 rest
    | 'u' => readNumbered? verbose false 4 rest
    | 'U' => readNumbered? verbose false 8 rest
    | 'p' | 'P' => readCategory? verbose rest
    | 'd' | 's' | 'w' => some (.shorthand false, rest)
    | 'D' | 'S' | 'W' => some (.shorthand true, rest)
    | 'A' | 'z' => some (.anchor, rest)
    | 'b' | 'B' | '<' | '>' => some (.wordBoundary, rest)
    | c =>
      match control? c with
      | some char => some (.literal { char }, rest)
      | none => if isEscapable c then some (.literal { char := c }, rest) else none

/-! ## Sets -/

/-- The names of classes. -/
def classNames : List String :=
  ["alnum", "alpha", "ascii", "blank", "cntrl", "digit", "graph", "lower", "print", "punct", "space",
    "upper", "word", "xdigit"]

/-- A class with a name, behind its opening bracket. -/
def readNamed? : List Char → Option (CharSet × List Char)
  | ':' :: rest =>
    let (negated, rest) := match rest with
      | '^' :: rest => (true, rest)
      | rest => (false, rest)
    match rest.span (· != ':') with
    | (name, ':' :: ']' :: rest) =>
      if classNames.contains (String.ofList name) then some (.named negated, rest) else none
    | _ => none
  | _ => none

/-- The hyphens at the front of a set, which stand for themselves. The first argument bounds their
number. -/
def readHyphens (verbose : Bool) : Nat → List Char → List CharSet × List Char
  | fuel + 1, '-' :: rest =>
    let (items, rest) := readHyphens verbose fuel (skip verbose rest)
    (.literal { char := '-' } :: items, rest)
  | _, cs => ([], cs)

/-- What stands at the front of a set, behind its opening bracket: whether the set is negated, and
hyphens or else a closing bracket that stand for themselves. -/
def openSet (verbose : Bool) (cs : List Char) : Bool × List CharSet × List Char :=
  let (negated, cs) := match skip verbose cs with
    | '^' :: rest => (true, skip verbose rest)
    | cs => (false, cs)
  match readHyphens verbose cs.length cs with
  | ([], ']' :: rest) => (negated, [.literal { char := ']' }], rest)
  | (items, rest) => (negated, items, rest)

/-- A literal character or an escape in a set. -/
def readAtom? (verbose : Bool) : List Char → Option (Pattern × List Char)
  | [] => none
  | '\\' :: rest => readEscape? verbose rest
  | c :: rest => some (.literal { char := c }, rest)

/-- What an atom stands for in a set. An anchor stands for nothing there. -/
def toCharSet? : Pattern → Option CharSet
  | .literal l => some (.literal l)
  | .shorthand negated => some (.shorthand negated)
  | .category => some .category
  | _ => none

/-- The range between two atoms, which have to be literal characters in order. -/
def toRange? : Pattern → Pattern → Option CharSet
  | .literal first, .literal last =>
    if first.char ≤ last.char then some (.range first last) else none
  | _, _ => none

/-- The character that decides about a hyphen, which is the next one. If space does not count, it is
the next one behind blanks and the first mark of a comment. -/
def peek? (verbose : Bool) (cs : List Char) : Option Char :=
  if verbose then
    match cs.dropWhile Text.isBlank with
    | '#' :: rest => (rest.dropWhile Text.isBlank).head?
    | cs => cs.head?
  else cs.head?

/-- **One item of a set**: an atom, or two with a hyphen between them. A hyphen in front of another
one or of the closing bracket does not make a range. -/
def readItem? (verbose : Bool) (cs : List Char) : Option (CharSet × List Char) := do
  let (first, rest) ← readAtom? verbose cs
  let rest := skip verbose rest
  match rest with
  | '-' :: behind =>
    if peek? verbose behind == some ']' || peek? verbose behind == some '-' then
      return (← toCharSet? first, rest)
    else
      let (last, rest) ← readAtom? verbose (skip verbose behind)
      return (← toRange? first last, rest)
  | rest => return (← toCharSet? first, rest)

/-- The set of what has been read, behind the operator to the right of another set. -/
def joinSets (left : Option CharSet) (items : List CharSet) : CharSet :=
  match left with
  | none => .ofItems items
  | some left => .operation left (.ofItems items)

/-- **The items of a set up to its closing bracket.** `left` is what stands in front of the last
operator. The first argument bounds the number of items. -/
def readSet? (verbose : Bool) :
    Nat → Option CharSet → List CharSet → List Char → Option (CharSet × List Char)
  | 0, _, _, _ => none
  | fuel + 1, left, items, cs =>
    match skip verbose cs with
    | [] => none
    | ']' :: rest => some (joinSets left items, rest)
    | '&' :: '&' :: rest => readSet? verbose fuel (some (joinSets left items)) [] rest
    | '-' :: '-' :: rest => readSet? verbose fuel (some (joinSets left items)) [] rest
    | '~' :: '~' :: rest => readSet? verbose fuel (some (joinSets left items)) [] rest
    | '[' :: rest =>
      match readNamed? rest with
      | some (item, rest) => readSet? verbose fuel left (items ++ [item]) rest
      | none => do
        let (negated, first, rest) := openSet verbose rest
        let (inner, rest) ← readSet? verbose fuel none first rest
        readSet? verbose fuel left (items ++ [.bracketed negated inner]) rest
    | cs => do
      let (item, rest) ← readItem? verbose cs
      readSet? verbose fuel left (items ++ [item]) rest

/-! ## Groups -/

/-- The flag of a letter. -/
def flag? : Char → Option Flag
  | 'i' => some .ignoreCase
  | 'm' => some .multiLine
  | 's' => some .dotMatchesAll
  | 'U' => some .swapGreed
  | 'u' => some .unicode
  | 'R' => some .carriageReturn
  | 'x' => some .verbose
  | _ => none

/-- **Changes of flags**, and the text from the colon or parenthesis on that ends them. A hyphen turns
off the flags behind it, of which there has to be one; no flag stands twice. `bare` says that the
hyphen is the last thing read. -/
def readFlags? (on bare : Bool) (changes : Changes) : List Char → Option (Changes × List Char)
  | [] => none
  | c :: rest =>
    if c == ':' || c == ')' then
      if bare then none else some (changes, c :: rest)
    else if c == '-' then
      if on then readFlags? false true changes rest else none
    else do
      let flag ← flag? c
      guard (!changes.any fun (f, _) => f == flag)
      readFlags? on false (changes ++ [(flag, on)]) rest

/-- Whether characters are the name of a group. -/
def isGroupName : List Char → Bool
  | [] => false
  | c :: rest =>
    (c == '_' || Text.isAlphabetic c) &&
      rest.all fun c => c == '_' || c == '.' || c == '[' || c == ']' || Text.isAlphanumeric c

/-- The name of a group up to its closing bracket. -/
def readGroupName? (cs : List Char) : Option (String × List Char) :=
  match cs.span (· != '>') with
  | (name, _ :: rest) => if isGroupName name then some (String.ofList name, rest) else none
  | _ => none

/-- **What a parenthesis opens**: changes of flags, or a group. -/
inductive Opening where
  | flags (changes : Changes)
  | group (name : Option String) (changes : Changes)

/-- What stands behind an opening parenthesis. -/
def readOpening? : List Char → Option (Opening × List Char)
  | '?' :: 'P' :: '<' :: rest => do
    let (name, rest) ← readGroupName? rest
    return (.group (some name) [], rest)
  | '?' :: '<' :: rest => do
    let (name, rest) ← readGroupName? rest
    return (.group (some name) [], rest)
  | '?' :: rest => do
    let (changes, rest) ← readFlags? true false [] rest
    match rest with
    | ')' :: rest => if changes.isEmpty then none else return (.flags changes, rest)
    | rest => return (.group none changes, rest.drop 1)
  | rest => some (.group none [], rest)

/-! ## Patterns -/

/-- The items read so far, the last one first, with the last one repeated. Changes of flags cannot be
repeated. -/
def repeatLast? : List Pattern → Option (List Pattern)
  | [] => none
  | .flags _ :: _ => none
  | item :: items => some (.repetition item :: items)

/-- The text behind a sign of repetition, without the question mark that makes it reluctant. -/
def skipReluctant : List Char → List Char
  | '?' :: rest => rest
  | cs => cs

/-- **The branches of a group up to its end**, where the closing parenthesis is left to be read.
`branches` are those that have been read, and `items` is what has been read of the next one, the last
item first. The second argument bounds the number of items. -/
def readBranches? (verbose : Bool) :
    Nat → List Pattern → List Pattern → List Char → Option (Pattern × List Char)
  | 0, _, _, _ => none
  | fuel + 1, branches, items, cs =>
    match skip verbose cs with
    | [] => some (ofBranches (branches ++ [ofSequence items.reverse]), [])
    | c :: rest =>
      match c with
      | ')' => some (ofBranches (branches ++ [ofSequence items.reverse]), c :: rest)
      | '|' => readBranches? verbose fuel (branches ++ [ofSequence items.reverse]) [] rest
      | '(' => do
        match ← readOpening? (skip verbose rest) with
        | (.flags changes, rest) =>
          readBranches? (stateAfter .verbose verbose changes) fuel branches (.flags changes :: items) rest
        | (.group name changes, rest) =>
          match ← readBranches? (stateAfter .verbose verbose changes) fuel [] [] rest with
          | (inner, _ :: rest) =>
            readBranches? verbose fuel branches (.group name changes inner :: items) rest
          | (_, []) => none
      | '[' => do
        let (negated, first, rest) := openSet verbose rest
        let (inner, rest) ← readSet? verbose (rest.length + 1) none first rest
        readBranches? verbose fuel branches (.set negated inner :: items) rest
      | '?' | '*' | '+' => do
        readBranches? verbose fuel branches (← repeatLast? items) (skipReluctant rest)
      | '{' => none
      | '.' => readBranches? verbose fuel branches (.dot :: items) rest
      | '^' | '$' => readBranches? verbose fuel branches (.anchor :: items) rest
      | '\\' => do
        let (item, rest) ← readEscape? verbose rest
        readBranches? verbose fuel branches (item :: items) rest
      | c => readBranches? verbose fuel branches (.literal { char := c } :: items) rest

/-- **Reads a pattern.** -/
def ofChars? (cs : List Char) : Option Pattern := do
  match ← readBranches? false (cs.length + 1) [] [] cs with
  | (p, []) => return p
  | _ => none

/-- **Whether a text is a pattern that makes sense.** -/
def isPattern (cs : List Char) : Bool := (ofChars? cs).any makesSense

end TextTemplate.Pattern
