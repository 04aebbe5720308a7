/-!
# Cancellation

Whoever owns a document can tell the work on it to stop, typically because the document has been
edited. Work that notices this gives no result at all, so that nobody takes half of a result for the
whole. `Cancelled` is the only way in which such work fails.

A pass over a document asks whether to stop before each node. `Stop` is the sequence of answers that
it gets; `TokenTable` is the other side of it, the flags that are shared and raised.
-/

namespace TextTemplate

/-- **The work was told to stop.** -/
structure Cancelled where
deriving DecidableEq, Repr

/-- The wording of `Cancelled`. -/
def Cancelled.message (_ : Cancelled) : String := "operation was cancelled"

/-- **Whether to stop**, as a pass sees it: the answer it gets before the node at each position. -/
abbrev Stop := Nat → Bool

/-- Never stop. -/
def Stop.never : Stop := fun _ => false

/-- Stop before the first node. -/
def Stop.atOnce : Stop := fun _ => true

/-- **Tokens that share flags.** A token is known by its position in the table; it holds the position
of its flag, and tokens that were copied from each other hold the same one. -/
structure TokenTable where
  flags : List Bool := []
  tokens : List Nat := []
deriving DecidableEq, Repr

namespace TokenTable

/-- A token with a flag of its own, not raised. -/
def new (t : TokenTable) : TokenTable :=
  { flags := t.flags ++ [false], tokens := t.tokens ++ [t.flags.length] }

/-- Another token for the flag of a token. -/
def copy (t : TokenTable) (token : Nat) : TokenTable :=
  match t.tokens[token]? with
  | some flag => { t with tokens := t.tokens ++ [flag] }
  | none => t

/-- Raises the flag of a token, for good. -/
def cancel (t : TokenTable) (token : Nat) : TokenTable :=
  match t.tokens[token]? with
  | some flag => { t with flags := t.flags.set flag true }
  | none => t

/-- Whether the flag of a token is raised. -/
def isCancelled (t : TokenTable) (token : Nat) : Bool :=
  match t.tokens[token]? with
  | some flag => t.flags.getD flag false
  | none => false

/-- Fails if the flag of a token is raised. -/
def check (t : TokenTable) (token : Nat) : Except Cancelled Unit :=
  if t.isCancelled token then throw ⟨⟩ else return ()

end TokenTable

end TextTemplate
