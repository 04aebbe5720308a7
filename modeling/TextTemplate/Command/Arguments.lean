/-!
# Arguments of the command line

    [options] check TREE
    [options] generate TREE [-o FILE] [--mappings]
    [options] deps TREE [--previous FILE] [--save FILE] [--resolve]

The general options may stand in front of the command or behind it. An option may be given once at
each of the two places; a flag counts if it is given at all, and a value behind the command goes
before one in front. Arguments are looked at from left to right, and the first that is wrong or asks
for something else than a command decides.
-/

namespace TextTemplate.Command

/-- The options, general ones and those of a command. -/
inductive Flag where
  | noColor
  | verbose
  | config
  | version
  | help
  | output
  | mappings
  | previous
  | save
  | resolve
deriving DecidableEq, Repr

namespace Flag

/-- The name of an option behind two dashes. -/
def long : Flag → String
  | .noColor => "no-color"
  | .verbose => "verbose"
  | .config => "config"
  | .version => "version"
  | .help => "help"
  | .output => "output"
  | .mappings => "mappings"
  | .previous => "previous"
  | .save => "save"
  | .resolve => "resolve"

/-- The letter of an option behind one dash. -/
def short? : Flag → Option Char
  | .verbose => some 'v'
  | .version => some 'V'
  | .help => some 'h'
  | .output => some 'o'
  | _ => none

/-- Whether an option has a value. -/
def takesValue : Flag → Bool
  | .config | .output | .previous | .save => true
  | _ => false

end Flag

/-- The commands. -/
inductive Name where
  | check
  | generate
  | deps
deriving DecidableEq, Repr

namespace Name

/-- The command of a name. -/
def ofString? : String → Option Name
  | "check" => some .check
  | "generate" => some .generate
  | "deps" => some .deps
  | _ => none

/-- The options that may stand behind a command. -/
def flags (name : Name) : List Flag :=
  [.noColor, .verbose, .config, .help] ++
    match name with
    | .check => []
    | .generate => [.output, .mappings]
    | .deps => [.previous, .save, .resolve]

end Name

/-- The options that may stand in front of a command. -/
def leadingFlags : List Flag := [.noColor, .verbose, .config, .version, .help]

/-- **Why there is no command to be carried out.** -/
inductive Halt where
  /-- The arguments make no sense. -/
  | usage
  /-- The version is asked for. -/
  | version
  /-- Help is asked for. -/
  | help
deriving DecidableEq, Repr

/-- **The arguments of one place**, in front of the command or behind it. `pending` is an option whose
value is to come, and `plain` says that no more options do. -/
structure Scan where
  given : List (Flag × String) := []
  operand : Option String := none
  pending : Option Flag := none
  plain : Bool := false

namespace Scan

/-- Whether an option is given. -/
def has (s : Scan) (flag : Flag) : Bool := s.given.any fun (f, _) => f == flag

/-- The value of an option. -/
def value? (s : Scan) (flag : Flag) : Option String := s.given.lookup flag

/-- Adds an option, with the empty text if it has no value. -/
def add (s : Scan) (flag : Flag) (value : String) : Except Halt Scan :=
  match flag with
  | .help => throw .help
  | .version => throw .version
  | _ =>
    if s.has flag || (flag.takesValue && value.isEmpty) then throw .usage
    else return { s with given := s.given ++ [(flag, value)], pending := none }

/-- Adds the argument that is no option. -/
def addOperand (s : Scan) (text : String) : Except Halt Scan :=
  if text.isEmpty || s.operand.isSome then throw .usage else return { s with operand := some text }

/-- Adds an option given by its name. -/
def addLong (allowed : List Flag) (s : Scan) (text : List Char) : Except Halt Scan :=
  let name := String.ofList (text.takeWhile (· != '='))
  match allowed.find? fun flag => flag.long == name, text.dropWhile (· != '=') with
  | none, _ => throw .usage
  | some flag, [] => if flag.takesValue then return { s with pending := some flag } else s.add flag ""
  | some flag, _ :: value =>
    if flag.takesValue then s.add flag (String.ofList value) else throw .usage

/-- Adds the options given by letters. The first that has a value takes what follows it. -/
def addShort (allowed : List Flag) (s : Scan) : List Char → Except Halt Scan
  | [] => return s
  | c :: rest =>
    match allowed.find? fun flag => flag.short? == some c with
    | none => throw .usage
    | some flag =>
      if flag.takesValue then
        match rest with
        | [] => return { s with pending := some flag }
        | '=' :: value => s.add flag (String.ofList value)
        | value => s.add flag (String.ofList value)
      else do
        addShort allowed (← s.add flag "") rest

/-- **Adds one argument.** -/
def step (allowed : List Flag) (s : Scan) (arg : String) : Except Halt Scan :=
  match s.pending, s.plain, arg.toList with
  | none, true, _ => s.addOperand arg
  | none, false, ['-', '-'] => return { s with plain := true }
  | none, false, '-' :: '-' :: text => s.addLong allowed text
  | none, false, '-' :: c :: text => s.addShort allowed (c :: text)
  | none, false, _ => s.addOperand arg
  | some _, _, '-' :: _ :: _ => throw .usage
  | some flag, _, _ => s.add flag arg

/-- The scan, unless a value is still to come. -/
def finish (s : Scan) : Except Halt Scan := if s.pending.isSome then throw .usage else return s

/-- The arguments in front of the command, the name of the command and what follows. -/
def leading (s : Scan) : List String → Except Halt (Scan × String × List String)
  | [] => throw .usage
  | arg :: rest => do
    let s ← s.step leadingFlags arg
    match s.operand with
    | some name => if s.plain then throw .usage else return (s, name, rest)
    | none => s.leading rest

end Scan

/-- **What a command is to do** with a template. -/
inductive Task where
  | check
  | generate (output : Option String) (mappings : Bool)
  | deps (previous save : Option String) (resolve : Bool)
deriving DecidableEq, Repr

/-- **A command with all that is given to it.** -/
structure Invocation where
  verbose : Bool := false
  config : Option String := none
  tree : String
  task : Task
deriving DecidableEq, Repr

/-- What a command is to do, by the options behind it. -/
def Task.ofScan (s : Scan) : Name → Task
  | .check => .check
  | .generate => .generate (s.value? .output) (s.has .mappings)
  | .deps => .deps (s.value? .previous) (s.value? .save) (s.has .resolve)

/-- Whether the arguments behind the word `help` name something that has help: the program, if there
are none, or one command. -/
def isHelpTopic : List String → Bool
  | [] => true
  | [name] => name == "help" || (Name.ofString? name).isSome
  | _ => false

/-- **Reads the arguments of the command line.** -/
def Invocation.ofArguments (args : List String) : Except Halt Invocation := do
  let (front, name, rest) ← Scan.leading {} args
  match Name.ofString? name with
  | none =>
    if name == "help" && isHelpTopic rest then throw .help else throw .usage
  | some name =>
    let back ← (← rest.foldlM (Scan.step name.flags) {}).finish
    match back.operand with
    | none => throw .usage
    | some tree =>
      return {
        verbose := front.has .verbose || back.has .verbose
        config := back.value? .config <|> front.value? .config
        tree
        task := Task.ofScan back name }

end TextTemplate.Command
