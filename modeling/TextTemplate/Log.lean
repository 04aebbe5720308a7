import TextTemplate.Json.Number
import TextTemplate.Pattern.Reader
import TextTemplate.Text.Fold
import TextTemplate.Text.Slice

/-!
# The log

A command can tell step by step what it does. An entry of the log belongs to a topic and has named
fields; all entries are meant for those who look for faults, so they have the level `debug`.

A filter decides which entries are shown. It is a list of rules, each of which gives a level to the
entries to which it applies:

    level
    topic
    topic=level
    topic[scope{field}]=level
    topic[scope{field=value}]=level

A topic applies to all topics that start with it, and a field to the entries that have it. A value is
a number or a pattern. Of the rules that apply to an entry the most specific one decides, and an entry
is shown if the level it gets is `debug` or a finer one. A rule without a level is as fine as can be.
One rule that is malformed makes the whole filter void.
-/

namespace TextTemplate.Log

/-! ## Levels -/

/-- **How much is shown**, from nothing to everything. -/
inductive Level where
  | off
  | error
  | warn
  | info
  | debug
  | trace
deriving DecidableEq, Repr

namespace Level

/-- All levels, the coarsest first. -/
def all : List Level := [.off, .error, .warn, .info, .debug, .trace]

/-- The number of a level. A finer level has a larger one. -/
def rank : Level → Nat
  | .off => 0
  | .error => 1
  | .warn => 2
  | .info => 3
  | .debug => 4
  | .trace => 5

/-- The word for a level. -/
def word : Level → String
  | .off => "off"
  | .error => "error"
  | .warn => "warn"
  | .info => "info"
  | .debug => "debug"
  | .trace => "trace"

/-- The number that digits write, which may have a plus in front. -/
def number? (cs : List Char) : Option Nat :=
  let digits := match cs with
    | '+' :: digits => digits
    | digits => digits
  if digits.isEmpty || !digits.all Char.isDigit then none else some (Json.ofDigits digits)

/-- **The level that a text names**, by its number or by its word in any case. -/
def ofChars? (cs : List Char) : Option Level :=
  match number? cs with
  | some n => all[n]?
  | none => all.find? fun level => Text.sameName level.word (String.ofList cs)

/-- Every level has the place in the list that its number says. -/
theorem getElem?_rank (level : Level) : all[level.rank]? = some level := by
  cases level <;> rfl

end Level

/-! ## Entries -/

/-- **An entry of the log.** -/
structure Entry where
  topic : String
  message : String
  fields : List (String × String)
deriving DecidableEq, Repr

namespace Entry

/-- The names of the fields. The message counts as one. -/
def fieldNames (e : Entry) : List String := "message" :: e.fields.map (·.1)

/-- **An entry as a line of text.** -/
def line (e : Entry) : String :=
  "DEBUG " ++ e.message ++ String.join (e.fields.map fun (name, value) => " " ++ name ++ "=" ++ value)

end Entry

/-! ## Rules -/

/-- A field that an entry has to have, perhaps with some value. -/
structure FieldTest where
  name : String
  value : Option String := none
deriving DecidableEq, Repr

/-- **A rule of a filter.** A scope stands for the time that some named activity takes. -/
structure Rule where
  topic : Option String := none
  scope : Option String := none
  field : Option FieldTest := none
  level : Level := .trace
deriving DecidableEq, Repr

namespace Rule

/-- Whether an entry has the field that a rule asks for. The values of fields are known within a
scope only. -/
def fieldApplies (e : Entry) : Option FieldTest → Bool
  | none => true
  | some test => test.value.isNone && e.fieldNames.contains test.name

/-- **Whether a rule applies to an entry.** No command opens a scope, so a rule with one applies to
nothing. -/
def applies (r : Rule) (e : Entry) : Bool :=
  r.scope.isNone && (r.topic.all fun topic => topic.toList.isPrefixOf e.topic.toList) &&
    fieldApplies e r.field

/-- How specific a rule is: the length of its topic, and the name of its field. A rule that has none
comes before all that have one. -/
def specificity (r : Rule) : Nat × Option String :=
  (r.topic.elim 0 fun topic => topic.utf8ByteSize + 1, r.field.map FieldTest.name)

/-- **Whether the second rule goes before the first** where both apply, which it does unless it is
less specific. -/
def yieldsTo (r s : Rule) : Bool :=
  let (m, f) := r.specificity
  let (n, g) := s.specificity
  m < n || (m == n && match f, g with
    | none, _ => true
    | some _, none => false
    | some f, some g => f ≤ g)

end Rule

/-! ## Reading values -/

/-- Whether characters are the exponent of a number, which may be left out. -/
def isExponent : List Char → Bool
  | [] => true
  | c :: rest =>
    let digits := match rest with
      | '+' :: digits => digits
      | '-' :: digits => digits
      | digits => digits
    (c == 'e' || c == 'E') && !digits.isEmpty && digits.all Char.isDigit

/-- **Whether characters are a number**: digits with a sign, a point and an exponent, each of which may
be left out, an infinity or no number at all. -/
def isNumber (cs : List Char) : Bool :=
  let unsigned := match cs with
    | '+' :: rest => rest
    | '-' :: rest => rest
    | rest => rest
  let (whole, rest) := unsigned.span Char.isDigit
  let (fraction, rest) := match rest with
    | '.' :: rest => rest.span Char.isDigit
    | rest => ([], rest)
  (["inf", "infinity", "nan"].any fun word => Text.sameName word (String.ofList unsigned)) ||
    (!(whole.isEmpty && fraction.isEmpty) && isExponent rest)

/-- The test of a field, from its text. What stands behind a second sign of equality does not
count. -/
def FieldTest.ofChars? (cs : List Char) : Option FieldTest :=
  match cs.span (· != '=') with
  | ([], []) => none
  | (name, []) => some { name := String.ofList name }
  | (name, _ :: rest) =>
    let value := rest.takeWhile (· != '=')
    if isNumber value || Pattern.isPattern value then
      some { name := String.ofList name, value := some (String.ofList value) }
    else none

/-! ## Reading rules

The parts of a rule are found in the text without the blanks around it, and then cut out of the whole
text at the offsets found. So a rule with blanks in front has other parts than it seems: each part
starts and ends that much too early. -/

/-- **Where the parts of a rule stand**, in bytes. The topic stands at the front up to `topicEnd`, a
level goes up to the end of the text. -/
structure Layout where
  topicEnd : Option Nat := none
  scope : Option Span := none
  field : Option Span := none
  level : Option Nat := none
deriving DecidableEq, Repr

namespace Layout

/-- Whether a rule may start with a character. -/
def isStart (c : Char) : Bool :=
  c == '[' || c == '-' || c == ':' || c == '_' || Text.isAlphanumeric c

/-- The layout with the level that may stand behind the closing bracket. -/
def readLevel? (l : Layout) (offset : Nat) : List Char → Option Layout
  | [] => some l
  | '=' :: _ => some { l with level := some (offset + 1) }
  | _ => none

/-- The scope and the field in square brackets, and the level behind them. An empty scope is none if
a field follows. -/
def readBrackets? (l : Layout) (offset : Nat) (cs : List Char) : Option Layout :=
  let (scope, rest) := cs.span fun c => c != ']' && c != '{'
  let scopeEnd := offset + Text.byteSize scope
  match rest with
  | ']' :: rest => readLevel? { l with scope := some ⟨offset, scopeEnd⟩ } (scopeEnd + 1) rest
  | _ :: rest =>
    match rest.span (· != '}') with
    | (field, '}' :: ']' :: rest) =>
      let fieldEnd := scopeEnd + 1 + Text.byteSize field
      readLevel? { l with
        scope := if scope.isEmpty then none else some ⟨offset, scopeEnd⟩
        field := some ⟨scopeEnd + 1, fieldEnd⟩ } (fieldEnd + 2) rest
    | _ => none
  | [] => none

/-- **The layout of a rule** without blanks around it that is more than a word. -/
def ofChars? (cs : List Char) : Option Layout :=
  let (word, rest) := cs.span fun c => c != '=' && c != '['
  let wordEnd := Text.byteSize word
  match rest with
  | '=' :: _ => some { topicEnd := some wordEnd, level := some (wordEnd + 1) }
  | _ :: rest =>
    readBrackets? { topicEnd := if word.isEmpty then none else some wordEnd } (wordEnd + 1) rest
  | [] => none

end Layout

namespace Rule

/-- The level at the end of a rule. -/
def levelOf? : List Char → Option Level
  | [] => some .trace
  | cs => Level.ofChars? cs

/-- Reads one part of a rule, if there is one. -/
def part? {α β : Type} (place : Option α) (read : α → Option β) : Option (Option β) :=
  match place with
  | none => some none
  | some place => (read place).map some

/-- The rule with a layout. -/
def ofLayout? (cs : List Char) (l : Layout) : Option Rule := do
  let topic ← part? l.topicEnd fun stop => Text.cut? ⟨0, stop⟩ cs
  let scope ← part? l.scope fun span => Text.cut? span cs
  let field ← part? l.field fun span => (Text.cut? span cs).bind FieldTest.ofChars?
  let level ← part? l.level fun start => (Text.dropBytes? start cs).bind levelOf?
  return {
    topic := topic.map String.ofList
    scope := scope.map String.ofList
    field
    level := level.getD .trace }

/-- The rule that is one word: a level, or else a topic. -/
def ofWord (cs : List Char) : Rule :=
  match Level.ofChars? cs with
  | some level => { level }
  | none => { topic := some (String.ofList cs) }

/-- **Reads a rule.** -/
def ofChars? (cs : List Char) : Option Rule := do
  let body := Text.trimChars cs
  guard (body.head?.any Layout.isStart)
  if body.any fun c => c == '=' || c == '[' then ofLayout? cs (← Layout.ofChars? body)
  else return ofWord cs

end Rule

/-! ## Filters -/

/-- **Which entries of the log are shown.** -/
structure Filter where
  rules : List Rule
deriving DecidableEq, Repr

namespace Filter

/-- Shows no entry. -/
def silent : Filter := ⟨[]⟩

/-- Shows every entry. -/
def verbose : Filter := ⟨[{ level := .debug }]⟩

/-- **Reads the rules of a setting**, with commas between them. -/
def ofString? (setting : String) : Option Filter := do
  let pieces := (setting.splitOn ",").filter fun piece => !piece.isEmpty
  return ⟨← pieces.mapM fun piece => Rule.ofChars? piece.toList⟩

/-- The rule that decides about an entry: the most specific one, and the last of those. -/
def decisive? (f : Filter) (e : Entry) : Option Rule :=
  (f.rules.filter (·.applies e)).foldl (fun best r =>
    match best with
    | none => some r
    | some b => if b.yieldsTo r then some r else best) none

/-- **Whether an entry is shown.** -/
def shows (f : Filter) (e : Entry) : Bool :=
  (f.decisive? e).any fun r => Level.debug.rank ≤ r.level.rank

/-- **The filter that the environment asks for.** A setting that is malformed counts as none. -/
def ofSetting (setting : Option String) : Filter := (setting.bind ofString?).getD silent

end Filter

/-- The environment variable with the setting of the log. -/
def settingName : String := "RUST_LOG"

end TextTemplate.Log
