import TextTemplate.Json.Fragment
import TextTemplate.Json.Render
import TextTemplate.Text.Quoted

/-!
# Values of an expected shape

Reading a value of the library from JSON can fail in two ways: the text is not JSON, or the JSON
has the wrong shape. `ShapeError` lists the causes of the second kind and `ShapeError.message` words
them. The rest of the module reads what the records of the library are made of, from a fragment in
the order of the text and from a value that has already been read whole.

A record is written as an object or as a list of its fields in order. In an object each field of
the record may stand once and other fields are ignored.
-/

namespace TextTemplate.Json

/-- What was found in place of what was expected. -/
inductive Found where
  | null
  | bool (b : Bool)
  | int (n : Int)
  | decimal
  | str (s : String)
  | list
  | object

/-- **Why a JSON value does not have the expected shape.** -/
inductive ShapeError where
  | missingField (name : String)
  | duplicateField (name : String)
  | unknownField (name : String) (expected : List String)
  | unknownVariant (name : String) (expected : List String)
  | wrongType (found : Found) (expected : String)
  | wrongValue (found : Found) (expected : String)
  | wrongLength (length : Nat) (expected : String)

/-- **Why a JSON text cannot be read**: it is no JSON, or not of the expected shape. -/
inductive ReadError where
  | malformed
  | shape (error : ShapeError)

/-! ## Wording -/

/-- The name between backquotes. -/
def backquoted (name : String) : String := "`" ++ name ++ "`"

/-- The words for what was found. -/
def Found.describe : Found → String
  | .null => "null"
  | .bool b => "boolean " ++ backquoted (if b then "true" else "false")
  | .int n => "integer " ++ backquoted (String.ofList (renderInt n))
  | .decimal => "floating point"
  | .str s => "string " ++ Text.quote s
  | .list => "sequence"
  | .object => "map"

/-- The words for a choice of names: two are joined by `or`, more are listed. -/
def describeChoice : List String → String
  | [] => "there are none"
  | [a] => backquoted a
  | [a, b] => backquoted a ++ " or " ++ backquoted b
  | names => "one of " ++ ", ".intercalate (names.map backquoted)

/-- **The wording of a shape error.** -/
def ShapeError.message : ShapeError → String
  | .missingField name => "missing field " ++ backquoted name
  | .duplicateField name => "duplicate field " ++ backquoted name
  | .unknownField name expected =>
    "unknown field " ++ backquoted name ++ ", expected " ++ describeChoice expected
  | .unknownVariant name expected =>
    "unknown variant " ++ backquoted name ++ ", expected " ++ describeChoice expected
  | .wrongType found expected => "invalid type: " ++ found.describe ++ ", expected " ++ expected
  | .wrongValue found expected => "invalid value: " ++ found.describe ++ ", expected " ++ expected
  | .wrongLength length expected =>
    "invalid length " ++ toString length ++ ", expected " ++ expected

/-! ## Reading values -/

namespace Value

/-- The kind of a value, for messages. -/
def found : Value → Found
  | .null => .null
  | .bool b => .bool b
  | .int n => .int n
  | .decimal _ => .decimal
  | .str s => .str s
  | .arr _ => .list
  | .obj _ => .object

/-- The error for a value of the wrong kind. -/
def wrongType {α : Type} (v : Value) (expected : String) : Except ShapeError α :=
  throw (.wrongType v.found expected)

/-- A text. -/
def readStr : Value → Except ShapeError String
  | .str s => return s
  | v => v.wrongType "a string"

/-- A truth value. -/
def readBool : Value → Except ShapeError Bool
  | .bool b => return b
  | v => v.wrongType "a boolean"

/-- A natural number of 64 bits. -/
def readNat : Value → Except ShapeError Nat
  | .int (.ofNat n) => return n
  | .int n => throw (.wrongValue (.int n) "usize")
  | v => v.wrongType "usize"

/-- A value that may be absent. -/
def readOption {α : Type} (read : Value → Except ShapeError α) : Value → Except ShapeError (Option α)
  | .null => return none
  | v => some <$> read v

/-- A list. -/
def readList {α : Type} (read : Value → Except ShapeError α) : Value → Except ShapeError (List α)
  | .arr items => items.mapM read
  | v => v.wrongType "a sequence"

end Value

/-! ## Fields of a record -/

/-- Refuses a field that has been read before. -/
def unread {α : Type} (field : Option α) (name : String) : Except ShapeError Unit :=
  match field with
  | none => return ()
  | some _ => throw (.duplicateField name)

/-- The field, or the error that it is missing. -/
def required {α : Type} (field : Option α) (name : String) : Except ShapeError α :=
  match field with
  | some a => return a
  | none => throw (.missingField name)

/-- The words for a record that is written as a list. -/
def recordOf (name : String) (size : Nat) : String :=
  "struct " ++ name ++ " with " ++ toString size ++ " elements"

/-- The field at the front of a record's list; `index` is its position. -/
def takeItem {α : Type} (index : Nat) (record : String) (read : Value → Except ShapeError α) :
    List Value → Except ShapeError (α × List Value)
  | [] => throw (.wrongLength index record)
  | v :: vs => return (← read v, vs)

/-- The field at the front of a record's list, or a default if the list has ended. -/
def takeItemD {α : Type} (default : α) (read : Value → Except ShapeError α) :
    List Value → Except ShapeError (α × List Value)
  | [] => return (default, [])
  | v :: vs => return (← read v, vs)

/-- Refuses items that are left over when a record of `size` fields has been read from a list. -/
def noMoreItems (size : Nat) (rest : List Value) : Except ShapeError Unit :=
  match rest with
  | [] => return ()
  | rest => throw (.wrongLength (size + rest.length) (toString size ++ " elements in sequence"))

/-- Refuses items that are left over when a record has been read from a list of `length` items that
is a value of its own. -/
def endOfItems (length : Nat) : List Value → Except ShapeError Unit
  | [] => return ()
  | _ => throw (.wrongLength length "fewer elements in array")

/-! ## Reading fragments -/

namespace Fragment

/-- The kind of a fragment, for messages, if the fragment can be read at all. A list or object is
named by its bracket, whatever it holds. -/
def found : Fragment → Except ReadError Found
  | .null => return .null
  | .bool b => return .bool b
  | .num n => match n.value? with
    | some v => return v.found
    | none => throw .malformed
  | .str (some s) => return .str s
  | .str none => throw .malformed
  | .arr _ _ => return .list
  | .obj _ _ => return .object
  | .broken => throw .malformed

/-- The error for a fragment of the wrong kind. -/
def wrongType {α : Type} (f : Fragment) (expected : String) : Except ReadError α := do
  throw (.shape (.wrongType (← f.found) expected))

/-- A value that holds neither lists nor objects, read as `read` says; any other fragment is of the
wrong kind. -/
def readScalar {α : Type} (read : Value → Except ShapeError α) (expected : String) :
    Fragment → Except ReadError α
  | .arr items closed => (Fragment.arr items closed).wrongType expected
  | .obj fields closed => (Fragment.obj fields closed).wrongType expected
  | f => match f.value? 0 with
    | none => throw .malformed
    | some v => (read v).mapError .shape

/-- A text. -/
def readStr : Fragment → Except ReadError String := readScalar Value.readStr "a string"

/-- A natural number of 64 bits. -/
def readNat : Fragment → Except ReadError Nat := readScalar Value.readNat "usize"

/-- Refuses a list or object that a fault has left open. -/
def endOf (closed : Bool) : Except ReadError Unit :=
  if closed then return () else throw .malformed

/-- A list. -/
def readList {α : Type} (read : Fragment → Except ReadError α) :
    Fragment → Except ReadError (List α)
  | .arr items closed => do
    let list ← items.mapM read
    endOf closed
    return list
  | f => f.wrongType "a sequence"

/-- Passes over a value that nobody reads. -/
def skip (f : Fragment) : Except ReadError Unit :=
  if f.isComplete then return () else throw .malformed

/-- The field at the front of a record's list. -/
def takeItem {α : Type} (index : Nat) (record : String) (read : Fragment → Except ReadError α)
    (closed : Bool) : List Fragment → Except ReadError (α × List Fragment)
  | [] => if closed then throw (.shape (.wrongLength index record)) else throw .malformed
  | f :: fs => return (← read f, fs)

/-- Refuses items that are left over when a record has been read from a list. -/
def noMoreItems (closed : Bool) : List Fragment → Except ReadError Unit
  | [] => endOf closed
  | _ => throw .malformed

/-- **The fields of an object in order**, given to `field`, which keeps what it has read in `σ`. -/
def foldFields {σ : Type} (field : σ → String → Fragment → Except ReadError σ) (start : σ)
    (fields : List (Option String × Fragment)) (closed : Bool) : Except ReadError σ := do
  let result ← fields.foldlM (fun state (key, value) =>
    match key with
    | none => throw .malformed
    | some key => field state key value) start
  endOf closed
  return result

end Fragment

/-- **A whole text**, read as `read` says. Nothing but space may follow the value. -/
def readText {α : Type} (read : Fragment → Except ReadError α) (s : String) :
    Except ReadError α := do
  let (fragment, rest) := Json.read s
  let result ← read fragment
  match rest.map skipSpace with
  | some [] => return result
  | _ => throw .malformed

end TextTemplate.Json
