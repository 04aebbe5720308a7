/-!
# TOML documents

The tables of a TOML document while it is read. A table remembers how it came about, since that
decides what may still be added to it: a table with a header of its own is complete but for the
lines below the header, one that a longer header passed through may still get a header, and one that
dotted keys made takes more dotted keys only.
-/

namespace TextTemplate.Toml

mutual

/-- **A TOML value.** A number with a point or exponent is kept as its digits, a time as the normal
form of its text. -/
inductive Value where
  | str (s : String)
  | bool (b : Bool)
  | int (n : Int)
  | decimal (digits : String)
  | infinity (negative : Bool)
  | noNumber
  | time (text : String)
  | arr (items : List Value)
  | inlineTable (entries : List (String × Item))

/-- **What a key stands for**: a value, a table, or a list of tables with one header each. -/
inductive Item where
  | value (v : Value)
  | table (t : Table)
  | tables (ts : List Table)

/-- **A table** and how it came about: `implicit` until it gets a header of its own, and `dotted` if
dotted keys made it. -/
structure Table where
  implicit : Bool
  dotted : Bool
  entries : List (String × Item)

end

namespace Table

/-- The table of a document or header, without entries. -/
def empty : Table := ⟨false, false, []⟩

/-- What a key stands for. -/
def get? (t : Table) (key : String) : Option Item := t.entries.lookup key

/-- The table with the item of a key put in, in place of the one it had. -/
def put (t : Table) (key : String) (item : Item) : Table :=
  match t.get? key with
  | none => { t with entries := t.entries ++ [(key, item)] }
  | some _ =>
    { t with entries := t.entries.map fun (k, i) => if k == key then (k, item) else (k, i) }

/-- **Changes the table at the end of a path**, and makes the tables on the way that are missing.
A list of tables stands for its last one. There is no way through a value, and none for a dotted key
through a table that has a header. -/
def update (dotted : Bool) (f : Table → Option Table) : List String → Table → Option Table
  | [], t => f t
  | key :: path, t =>
    match t.get? key with
    | none => return t.put key (.table (← update dotted f path ⟨true, dotted, []⟩))
    | some (.value _) => none
    | some (.table child) =>
      if dotted && !child.implicit then none
      else return t.put key (.table (← update dotted f path child))
    | some (.tables children) =>
      match children.getLast? with
      | none => none
      | some child =>
        return t.put key (.tables (children.dropLast ++ [← update dotted f path child]))

/-- **Adds the value of a key**, reached by a path of dotted keys. The table at the end of a path has
to be one that dotted keys made, and a key has one value only. -/
def addValue (path : List String) (key : String) (v : Value) (t : Table) : Option Table :=
  t.update true (fun t =>
    if t.dotted == path.isEmpty then none
    else match t.get? key with
      | none => some (t.put key (.value v))
      | some _ => none) path

/-- **Opens the table of a header.** It may be a table that longer headers passed through, but one
that has had a header or was made by dotted keys is not opened again. -/
def openTable (path : List String) (key : String) (t : Table) : Option Table :=
  t.update false (fun t =>
    match t.get? key with
    | none => some (t.put key (.table empty))
    | some (.table child) =>
      if child.implicit && !child.dotted then
        some (t.put key (.table { child with implicit := false }))
      else none
    | some _ => none) path

/-- **Adds a table to the list of a double header.** -/
def openListed (path : List String) (key : String) (t : Table) : Option Table :=
  t.update false (fun t =>
    match t.get? key with
    | none => some (t.put key (.tables [empty]))
    | some (.tables children) => some (t.put key (.tables (children ++ [empty])))
    | some _ => none) path

end Table

end TextTemplate.Toml
