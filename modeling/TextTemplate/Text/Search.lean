/-!
# Searching a text for a marker

Occurrences of one list of characters in another, found by recursion on the text that is searched.
-/

namespace TextTemplate.Text

/-- Whether `pattern` occurs somewhere in the text. -/
def occursIn (pattern : List Char) : List Char → Bool
  | [] => pattern.isEmpty
  | c :: cs => pattern.isPrefixOf (c :: cs) || occursIn pattern cs

/-- **A pattern is found exactly if it stands somewhere in the text.** -/
theorem occursIn_eq_true_iff {pattern cs : List Char} :
    occursIn pattern cs = true ↔ pattern <:+: cs := by
  induction cs with
  | nil => rw [occursIn, List.isEmpty_iff, List.infix_nil]
  | cons c cs ih =>
    rw [occursIn, Bool.or_eq_true, List.isPrefixOf_iff_prefix, ih, List.infix_cons_iff]

/-- It is not found exactly if it does not stand there. -/
theorem occursIn_eq_false_iff {pattern cs : List Char} :
    occursIn pattern cs = false ↔ ¬pattern <:+: cs := by
  rw [← occursIn_eq_true_iff, Bool.not_eq_true]

/-- **The text from the last occurrence of `pattern` on**, or `none` if there is no occurrence. -/
def fromLast? (pattern : List Char) : List Char → Option (List Char)
  | [] => if pattern.isEmpty then some [] else none
  | c :: cs =>
    match fromLast? pattern cs with
    | some rest => some rest
    | none => if pattern.isPrefixOf (c :: cs) then some (c :: cs) else none

end TextTemplate.Text
