import Mathlib.Data.Option.Basic
import TextTemplate.Json.Fragment
import TextTemplate.Json.Render

/-!
# Reading what was written as JSON

A text that spells a value is read as the fragment of that value, and nothing of what follows it is
lost. The writer chooses one way to spell a value; the reader is shown to understand every way that
differs from it in the space between the tokens (`Value.Spelled`), so it is enough to look at what a
writer puts between them.

Two things can keep a value from coming back. A fragment is turned into a value only if its lists
and objects do not nest too deep (`Value.nesting`), and a number only if it is a 64-bit word;
decimals, of which only the spelling is kept, are left out (`Value.IsPlainLeaf`).
-/

namespace TextTemplate.Json

/-! ## Strings -/

/-- The characters that have a short escape, each with the letter behind the backslash. -/
def shortEscapes : List (Char × Char) :=
  [('"', '"'), ('\\', '\\'), ('\x08', 'b'), ('\x0c', 'f'), ('\n', 'n'), ('\r', 'r'), ('\t', 't')]

/-- The piece that a written character is read as: a control without a short escape is a unit. -/
def pieceOf (c : Char) : Piece :=
  if c.toNat < 0x20 ∧ ∀ x ∈ shortEscapes, c ≠ x.1 then .unit c.toNat else .char c

/-- A short escape is understood. -/
theorem escapeChar_of_short : ∀ x ∈ shortEscapes, escapeChar x.1 = ['\\', x.2]
    ∧ simpleEscape? x.2 = some x.1 ∧ x.2 ≠ 'u' ∧ pieceOf x.1 = .char x.1 := by
  decide

/-- Any other character is written by its number or as itself. -/
theorem escapeChar_of_not_short {c : Char} (h : ∀ x ∈ shortEscapes, c ≠ x.1) :
    escapeChar c
      = if c.toNat < 0x20 then
          ['\\', 'u', '0', '0', hexChar (c.toNat / 16), hexChar (c.toNat % 16)]
        else [c] := by
  simp only [shortEscapes, List.forall_mem_cons] at h
  simp [escapeChar, h]

/-- The digits of a control are read as its number. -/
theorem hexUnit?_hexChar : ∀ n < 0x20,
    hexUnit? '0' '0' (hexChar (n / 16)) (hexChar (n % 16)) = some n := by
  decide

/-- **A written character is read as its piece.** -/
theorem readPieces_escapeChar (c : Char) (cs : List Char) :
    readPieces (escapeChar c ++ cs) = (readPieces cs).map fun x => (pieceOf c :: x.1, x.2) := by
  by_cases hshort : ∀ x ∈ shortEscapes, c ≠ x.1
  · rw [escapeChar_of_not_short hshort]
    by_cases hc : c.toNat < 0x20
    · rw [if_pos hc, pieceOf, if_pos ⟨hc, hshort⟩]
      show readPieces ('\\' :: 'u' :: '0' :: '0' :: _ :: _ :: cs) = _
      rw [readPieces, hexUnit?_hexChar _ hc]
      cases readPieces cs <;> rfl
    · have hslash : c ≠ '\\' := hshort ('\\', '\\') (by decide)
      have hguard : (guard (0x20 ≤ c.toNat) : Option Unit) = some () := if_pos (Nat.not_lt.mp hc)
      rw [if_neg hc, List.singleton_append, pieceOf, if_neg fun h => hc h.1, readPieces, hguard]
      · cases readPieces cs <;> rfl
      · exact hshort ('"', '"') (by decide)
      · exact fun _ _ _ _ _ h => absurd h hslash
      · exact fun _ _ h => absurd h hslash
  · obtain ⟨x, hx, rfl⟩ : ∃ x ∈ shortEscapes, c = x.1 := by simpa using hshort
    obtain ⟨hescape, hsimple, hletter, hpiece⟩ := escapeChar_of_short x hx
    rw [hescape, hpiece]
    show readPieces ('\\' :: x.2 :: cs) = _
    rw [readPieces, hsimple]
    · cases readPieces cs <;> rfl
    · exact fun _ _ _ _ _ h => absurd h hletter

/-- The pieces of a written string. -/
theorem readPieces_escaped (s rest : List Char) :
    readPieces (s.flatMap escapeChar ++ '"' :: rest) = some (s.map pieceOf, rest) := by
  induction s with
  | nil => rfl
  | cons c s ih =>
    rw [List.flatMap_cons, List.append_assoc, readPieces_escapeChar, ih]
    rfl

/-- A control is no half of a pair. -/
theorem joinPieces_unit {n : Nat} (h : n < 0x20) (pieces : List Piece) :
    joinPieces (.unit n :: pieces) = (joinPieces pieces).map (Char.ofNat n :: ·) := by
  have hhigh : isHighSurrogate n = false := by
    simp only [isHighSurrogate, Bool.and_eq_false_iff, decide_eq_false_iff_not]
    omega
  have hlow : isLowSurrogate n = false := by
    simp only [isLowSurrogate, Bool.and_eq_false_iff, decide_eq_false_iff_not]
    omega
  rcases pieces with _ | ⟨_ | m, pieces⟩ <;> simp [joinPieces, hhigh, hlow]

/-- The pieces of a written string give its characters. -/
theorem joinPieces_pieceOf (s : List Char) : joinPieces (s.map pieceOf) = some s := by
  induction s with
  | nil => rfl
  | cons c s ih =>
    rw [List.map_cons, pieceOf]
    split
    · rename_i hc
      rw [joinPieces_unit hc.1, ih, Option.map_some, Char.ofNat_toNat]
    · rw [joinPieces, ih, Option.map_some]

/-- **A written string is read back**, whatever characters it has. -/
theorem readString_renderString (s : String) (rest : List Char) :
    readString (s.toList.flatMap escapeChar ++ '"' :: rest) = some (some s, rest) := by
  rw [readString, readPieces_escaped, Option.map_some]
  dsimp only
  rw [joinPieces_pieceOf, Option.map_some, String.ofList_toList]

/-! ## Numbers -/

/-- Where a number ends: what follows does not continue it. -/
def EndsNumber (cs : List Char) : Prop :=
  ∀ c ∈ cs.head?, c.isDigit = false ∧ c ≠ '.' ∧ c ≠ 'e' ∧ c ≠ 'E'

/-- The literal of an integer. -/
def Number.ofInt : Int → Number
  | .ofNat n => ⟨false, Nat.toDigits 10 n, none, none⟩
  | .negSucc n => ⟨true, Nat.toDigits 10 (n + 1), none, none⟩

/-- An integer that fits 64 bits, signed or unsigned. -/
def IsWord (n : Int) : Prop := -(UInt64.size / 2 : Nat) ≤ n ∧ n < UInt64.size

/-- A number starts with a digit. -/
theorem exists_toDigits_eq_cons (n : Nat) :
    ∃ c cs, Nat.toDigits 10 n = c :: cs ∧ c.isDigit = true := by
  cases hdigits : Nat.toDigits 10 n with
  | nil => exact absurd hdigits Nat.toDigits_ne_nil
  | cons c cs =>
    refine ⟨c, cs, rfl, Nat.isDigit_of_mem_toDigits (b := 10) (n := n) (by decide) (by decide) ?_⟩
    rw [hdigits]
    exact List.mem_cons_self

/-- The digits of a number do not start with a zero, unless the number is zero. -/
theorem head?_toDigits {n : Nat} (h : 0 < n) : (Nat.toDigits 10 n).head? ≠ some '0' := by
  induction n using Nat.strongRecOn with
  | ind n ih =>
    rw [Nat.toDigits_eq_if (by decide)]
    split
    · rename_i hlt
      have hdigit : ∀ k < 10, 0 < k → k.digitChar ≠ '0' := by decide
      exact fun heq => hdigit n hlt h (Option.some.inj heq)
    · rename_i hge
      have hhead := ih (n / 10) (by omega) (by omega)
      rw [List.head?_append, Option.or_of_isSome (List.isSome_head?.mpr Nat.toDigits_ne_nil)]
      exact hhead

/-- Digits are read up to where the number ends. -/
theorem readDigits?_toDigits (n : Nat) {rest : List Char} (h : EndsNumber rest) :
    readDigits? (Nat.toDigits 10 n ++ rest) = some (Nat.toDigits 10 n, rest) := by
  have hdigits : ∀ c ∈ Nat.toDigits 10 n, c.isDigit = true :=
    fun c hc => Nat.isDigit_of_mem_toDigits (by decide) (by decide) hc
  have hrest : rest.takeWhile Char.isDigit = [] ∧ rest.dropWhile Char.isDigit = rest := by
    cases rest with
    | nil => exact ⟨rfl, rfl⟩
    | cons c cs =>
      have hc : ¬c.isDigit = true := Bool.eq_false_iff.mp (h c rfl).1
      exact ⟨List.takeWhile_cons_of_neg hc, List.dropWhile_cons_of_neg hc⟩
  unfold readDigits?
  rw [List.takeWhile_append_of_pos hdigits, List.dropWhile_append_of_pos hdigits, hrest.1, hrest.2,
    List.append_nil]
  split
  · rename_i hnil
    exact absurd hnil Nat.toDigits_ne_nil
  · rfl

/-- The digits of a number are not refused for a zero in front. -/
theorem readWhole?_toDigits (n : Nat) {rest : List Char} (h : EndsNumber rest) :
    readWhole? (Nat.toDigits 10 n ++ rest) = some (Nat.toDigits 10 n, rest) := by
  unfold readWhole?
  rw [readDigits?_toDigits n h]
  split
  · rename_i c cs rest' heq
    obtain ⟨hdigits, -⟩ := Prod.mk.inj (Option.some.inj heq)
    -- only zero starts with a zero, and it has one digit
    rcases Nat.eq_zero_or_pos n with rfl | hpos
    · cases hdigits
    · exact absurd (congrArg List.head? hdigits) (head?_toDigits hpos)
  · rfl

/-- **A written integer is read back as its literal.** -/
theorem readNumber?_renderInt (n : Int) {rest : List Char} (h : EndsNumber rest) :
    readNumber? (renderInt n ++ rest) = some (Number.ofInt n, rest) := by
  have hfraction : readFraction? rest = some (none, rest) := by
    cases rest with
    | nil => rfl
    | cons c cs =>
      rw [readFraction?]
      exact fun cs' heq => absurd (List.cons.inj heq).1 (h c rfl).2.1
  have hexponent : readExponent? rest = some (none, rest) := by
    cases rest with
    | nil => rfl
    | cons c cs =>
      obtain ⟨-, -, he, hE⟩ := h c rfl
      simp [readExponent?, he, hE]
  cases n with
  | ofNat k =>
    -- the first digit is no sign
    obtain ⟨c, cs, hdigits, hc⟩ := exists_toDigits_eq_cons k
    have hsign : c ≠ '-' := by
      rintro rfl
      exact absurd hc (by decide)
    have hwhole := readWhole?_toDigits k h
    rw [hdigits, List.cons_append] at hwhole
    rw [renderInt, Number.ofInt, hdigits, List.cons_append, readNumber?, hwhole]
    · simp only [Option.bind_eq_bind, Option.bind_some, hfraction, hexponent]
      rfl
    · exact fun cs' heq => hsign (List.cons.inj heq).1
  | negSucc k =>
    rw [renderInt, Number.ofInt, List.cons_append, readNumber?, readWhole?_toDigits (k + 1) h]
    simp only [Option.bind_eq_bind, Option.bind_some, hfraction, hexponent]
    rfl

/-- **A literal of a word stands for the word.** -/
theorem Number.value?_ofInt {n : Int} (h : IsWord n) : (Number.ofInt n).value? = some (.int n) := by
  have hdigits : ∀ k, ofDigits (Nat.toDigits 10 k) = k :=
    fun k => Nat.ofDigitChars_toDigits (by decide) (by decide)
  have hint : (Number.ofInt n).int? = some n := by
    cases n with
    | ofNat k =>
      unfold Number.int? Number.ofInt
      simp only [hdigits]
      exact if_pos (Int.ofNat_lt.mp h.2)
    | negSucc k =>
      have hlow : k + 1 ≤ UInt64.size / 2 := by
        have := h.1
        omega
      unfold Number.int? Number.ofInt
      simp only [hdigits]
      rw [if_pos trivial, if_pos ⟨Nat.succ_ne_zero k, hlow⟩]
      rfl
  rw [Number.value?, hint]

/-! ## Values that are read back -/

/-- What stands between tokens. -/
def Blank (cs : List Char) : Prop := ∀ c ∈ cs, isSpace c = true

namespace Value

mutual

/-- Whether a property holds of everything in a value that is neither a list nor an object. -/
def Leaves (p : Value → Prop) : Value → Prop
  | .arr items => ItemLeaves p items
  | .obj fields => FieldLeaves p fields
  | v => p v

/-- `Leaves` of every item. -/
def ItemLeaves (p : Value → Prop) : List Value → Prop
  | [] => True
  | v :: vs => v.Leaves p ∧ ItemLeaves p vs

/-- `Leaves` of every field. -/
def FieldLeaves (p : Value → Prop) : List (String × Value) → Prop
  | [] => True
  | (_, v) :: fields => v.Leaves p ∧ FieldLeaves p fields

end

/-- Whether a number that is kept as an integer fits 64 bits. -/
def IsWordLeaf : Value → Prop
  | .int n => IsWord n
  | _ => True

/-- Whether a value is no decimal, and fits 64 bits if it is an integer. -/
def IsPlainLeaf : Value → Prop
  | .int n => IsWord n
  | .decimal _ => False
  | _ => True

mutual

/-- **How deep the lists and objects of a value nest.** -/
def nesting : Value → Nat
  | .arr items => itemsNesting items + 1
  | .obj fields => fieldsNesting fields + 1
  | _ => 0

/-- The largest `nesting` of an item. -/
def itemsNesting : List Value → Nat
  | [] => 0
  | v :: vs => max v.nesting (itemsNesting vs)

/-- The largest `nesting` of a field. -/
def fieldsNesting : List (String × Value) → Nat
  | [] => 0
  | (_, v) :: fields => max v.nesting (fieldsNesting fields)

end

mutual

/-- **Whether a text spells a value**, with any space between the tokens. The text of a decimal is
not looked at. -/
def Spelled : Value → List Char → Prop
  | .null, cs => cs = "null".toList
  | .bool b, cs => cs = (if b then "true" else "false").toList
  | .int n, cs => cs = renderInt n
  | .decimal _, _ => False
  | .str s, cs => cs = renderString s
  | .arr items, cs => ∃ body, cs = '[' :: body ∧ ItemsSpelled true items body
  | .obj fields, cs => ∃ body, cs = '{' :: body ∧ FieldsSpelled true fields body

/-- Whether a text spells the items of a list and its end. -/
def ItemsSpelled (first : Bool) : List Value → List Char → Prop
  | [], cs => ∃ space, Blank space ∧ cs = space ++ [']']
  | v :: vs, cs => ∃ space text rest, Blank space ∧ v.Spelled text ∧ ItemsSpelled false vs rest
      ∧ cs = (if first then [] else [',']) ++ (space ++ (text ++ rest))

/-- Whether a text spells the fields of an object and its end. -/
def FieldsSpelled (first : Bool) : List (String × Value) → List Char → Prop
  | [], cs => ∃ space, Blank space ∧ cs = space ++ ['}']
  | (key, v) :: fields, cs => ∃ space inner text rest, Blank space ∧ Blank inner ∧ v.Spelled text
      ∧ FieldsSpelled false fields rest
      ∧ cs = (if first then [] else [','])
        ++ (space ++ (renderString key ++ ':' :: (inner ++ (text ++ rest))))

end

mutual

/-- The text of a writer that leaves no space. -/
theorem spelled_chars : ∀ v : Value, v.Leaves IsPlainLeaf → v.Spelled v.chars
  | .null, _ => rfl
  | .bool _, _ => rfl
  | .int _, _ => rfl
  | .str _, _ => rfl
  | .arr items, h => ⟨_, rfl, spelled_itemChars items h true⟩
  | .obj fields, h => ⟨_, rfl, spelled_fieldChars fields h true⟩

theorem spelled_itemChars : ∀ vs : List Value, ItemLeaves IsPlainLeaf vs → ∀ first,
    ItemsSpelled first vs (itemChars first vs)
  | [], _, _ => ⟨[], List.forall_mem_nil _, rfl⟩
  | v :: vs, h, first => by
    refine ⟨[], v.chars, itemChars false vs, List.forall_mem_nil _, spelled_chars v h.1,
      spelled_itemChars vs h.2 false, ?_⟩
    rw [itemChars, List.nil_append, List.append_assoc]

theorem spelled_fieldChars : ∀ fields : List (String × Value), FieldLeaves IsPlainLeaf fields →
    ∀ first, FieldsSpelled first fields (fieldChars first fields)
  | [], _, _ => ⟨[], List.forall_mem_nil _, rfl⟩
  | (key, v) :: fields, h, first => by
    refine ⟨[], [], v.chars, fieldChars false fields, List.forall_mem_nil _, List.forall_mem_nil _,
      spelled_chars v h.1, spelled_fieldChars fields h.2 false, ?_⟩
    rw [fieldChars, List.nil_append, List.nil_append, List.append_assoc, List.append_assoc]
    rfl

end

/-- A line break and blanks are space. -/
theorem blank_lineBreak (level : Nat) : Blank (lineBreak level) := by
  refine List.forall_mem_cons.mpr ⟨rfl, fun c hc => ?_⟩
  rw [List.eq_of_mem_replicate hc]
  rfl

mutual

/-- The text of a writer that gives items and fields lines of their own. -/
theorem spelled_indentedChars : ∀ (v : Value) (level : Nat), v.Leaves IsPlainLeaf →
    v.Spelled (v.indentedChars level)
  | .null, _, _ => rfl
  | .bool _, _, _ => rfl
  | .int _, _, _ => rfl
  | .str _, _, _ => rfl
  | .arr [], _, _ => ⟨_, rfl, [], List.forall_mem_nil _, rfl⟩
  | .arr (v :: vs), level, h => ⟨_, rfl, spelled_indentedItems (v :: vs) level h true⟩
  | .obj [], _, _ => ⟨_, rfl, [], List.forall_mem_nil _, rfl⟩
  | .obj ((key, v) :: fields), level, h =>
    ⟨_, rfl, spelled_indentedFields ((key, v) :: fields) level h true⟩

theorem spelled_indentedItems : ∀ (vs : List Value) (level : Nat), ItemLeaves IsPlainLeaf vs →
    ∀ first, ItemsSpelled first vs (indentedItems level first vs)
  | [], level, _, _ => ⟨lineBreak level, blank_lineBreak level, rfl⟩
  | v :: vs, level, h, first => by
    refine ⟨lineBreak (level + 1), v.indentedChars (level + 1), indentedItems level false vs,
      blank_lineBreak _, spelled_indentedChars v (level + 1) h.1,
      spelled_indentedItems vs level h.2 false, ?_⟩
    rw [indentedItems]
    simp only [List.append_assoc]

theorem spelled_indentedFields : ∀ (fields : List (String × Value)) (level : Nat),
    FieldLeaves IsPlainLeaf fields → ∀ first,
    FieldsSpelled first fields (indentedFields level first fields)
  | [], level, _, _ => ⟨lineBreak level, blank_lineBreak level, rfl⟩
  | (key, v) :: fields, level, h, first => by
    refine ⟨lineBreak (level + 1), [' '], v.indentedChars (level + 1),
      indentedFields level false fields, blank_lineBreak _, List.forall_mem_singleton.mpr rfl,
      spelled_indentedChars v (level + 1) h.1, spelled_indentedFields fields level h.2 false, ?_⟩
    rw [indentedFields]
    simp only [List.append_assoc, List.cons_append, List.nil_append]

end

end Value

namespace Fragment

mutual

/-- **The fragment of a value.** -/
def ofValue : Value → Fragment
  | .null => .null
  | .bool b => .bool b
  | .int n => .num (Number.ofInt n)
  | .decimal _ => .broken
  | .str s => .str (some s)
  | .arr items => .arr (ofItems items) true
  | .obj fields => .obj (ofFields fields) true

/-- The fragments of items. -/
def ofItems : List Value → List Fragment
  | [] => []
  | v :: vs => ofValue v :: ofItems vs

/-- The fragments of fields. -/
def ofFields : List (String × Value) → List (Option String × Fragment)
  | [] => []
  | (key, v) :: fields => (some key, ofValue v) :: ofFields fields

end

open Value in
mutual

/-- **The fragment of a plain value has that value**, if the value does not nest deeper than it
may. -/
theorem value?_ofValue : ∀ (v : Value) {depth : Nat}, v.Leaves IsPlainLeaf → v.nesting ≤ depth →
    (ofValue v).value? depth = some v
  | .null, _, _, _ => rfl
  | .bool _, _, _, _ => rfl
  | .int _, _, hplain, _ => Number.value?_ofInt hplain
  | .str _, _, _, _ => rfl
  | .arr items, depth + 1, hplain, hdepth => by
    rw [ofValue, value?, itemValues?_ofItems items hplain (Nat.le_of_succ_le_succ hdepth)]
    rfl
  | .obj fields, depth + 1, hplain, hdepth => by
    rw [ofValue, value?, fieldValues?_ofFields fields hplain (Nat.le_of_succ_le_succ hdepth)]
    rfl

theorem itemValues?_ofItems : ∀ (vs : List Value) {depth : Nat}, ItemLeaves IsPlainLeaf vs →
    itemsNesting vs ≤ depth → itemValues? depth (ofItems vs) = some vs
  | [], _, _, _ => rfl
  | v :: vs, _, hplain, hdepth => by
    obtain ⟨hv, hvs⟩ := Nat.max_le.mp hdepth
    rw [ofItems, itemValues?, value?_ofValue v hplain.1 hv, itemValues?_ofItems vs hplain.2 hvs]
    rfl

theorem fieldValues?_ofFields : ∀ (fields : List (String × Value)) {depth : Nat},
    FieldLeaves IsPlainLeaf fields → fieldsNesting fields ≤ depth →
    fieldValues? depth (ofFields fields) = some fields
  | [], _, _, _ => rfl
  | (key, v) :: fields, _, hplain, hdepth => by
    obtain ⟨hv, hfields⟩ := Nat.max_le.mp hdepth
    rw [ofFields, fieldValues?, value?_ofValue v hplain.1 hv,
      fieldValues?_ofFields fields hplain.2 hfields]
    rfl

end

end Fragment

/-! ## Reading a text that spells a value -/

/-- Whether a character can be the first one of a value. -/
def StartsValue (c : Char) : Prop := isSpace c = false ∧ c ≠ ']' ∧ c ≠ '}'

/-- Whether a character can stand behind an item. -/
def Separates (c : Char) : Prop := isSpace c = true ∨ c = ',' ∨ c = ']' ∨ c = '}'

/-- No number goes on with what stands behind an item. -/
theorem Separates.endsNumber {c : Char} (h : Separates c) (cs : List Char) :
    EndsNumber (c :: cs) := by
  intro d hd
  obtain rfl : c = d := Option.some.inj hd
  simp only [Separates, isSpace, Bool.or_eq_true, beq_iff_eq] at h
  rcases h with (((rfl | rfl) | rfl) | rfl) | rfl | rfl | rfl <;> decide

/-- A digit is no space and no bracket. -/
theorem startsValue_of_isDigit {c : Char} (h : c.isDigit = true) : StartsValue c := by
  refine ⟨Bool.eq_false_iff.mpr fun hspace => ?_, ?_, ?_⟩
  · simp only [isSpace, Bool.or_eq_true, beq_iff_eq] at hspace
    rcases hspace with ((rfl | rfl) | rfl) | rfl <;> exact absurd h (by decide)
  · rintro rfl
    exact absurd h (by decide)
  · rintro rfl
    exact absurd h (by decide)

/-- No space, nothing to skip. -/
theorem skipSpace_cons {c : Char} (hc : isSpace c = false) (cs : List Char) :
    skipSpace (c :: cs) = c :: cs :=
  List.dropWhile_cons_of_neg (Bool.eq_false_iff.mp hc)

/-- Space in front is skipped. -/
theorem skipSpace_append {space : List Char} (h : Blank space) (cs : List Char) :
    skipSpace (space ++ cs) = skipSpace cs :=
  List.dropWhile_append_of_pos h

/-- The end of a list or object is found behind space. -/
theorem next_close {bracket : Char} (hbracket : isSpace bracket = false) (first : Bool)
    {space : List Char} (h : Blank space) (cs : List Char) :
    next bracket first (space ++ bracket :: cs) = .close cs := by
  unfold next
  rw [skipSpace_append h, skipSpace_cons hbracket]
  exact if_pos (beq_self_eq_true bracket)

/-- The next item is found behind its comma and space. -/
theorem next_item {bracket : Char} (hbracket : bracket = ']' ∨ bracket = '}') (first : Bool)
    {space : List Char} (h : Blank space) {c : Char} (hc : StartsValue c) (cs : List Char) :
    next bracket first ((if first then [] else [',']) ++ (space ++ c :: cs)) = .item (c :: cs) := by
  have hskip : skipSpace (space ++ c :: cs) = c :: cs := by
    rw [skipSpace_append h, skipSpace_cons hc.1]
  have hne : (c == bracket) = false := by
    refine beq_eq_false_iff_ne.mpr ?_
    rcases hbracket with rfl | rfl
    · exact hc.2.1
    · exact hc.2.2
  unfold next
  cases first with
  | true =>
    rw [if_pos rfl, List.nil_append, hskip]
    simp only [hne]
    rfl
  | false =>
    have hcomma : (',' == bracket) = false := by
      rcases hbracket with rfl | rfl <;> rfl
    rw [if_neg Bool.false_ne_true, List.singleton_append, skipSpace_cons (by decide)]
    simp only [hcomma, hskip, hne]
    rfl

/-- A character that starts an integer. -/
theorem exists_renderInt_eq_cons (n : Int) :
    ∃ c cs, renderInt n = c :: cs ∧ (c = '-' ∨ c.isDigit = true) := by
  cases n with
  | ofNat k =>
    obtain ⟨c, cs, hdigits, hc⟩ := exists_toDigits_eq_cons k
    exact ⟨c, cs, hdigits, Or.inr hc⟩
  | negSucc k => exact ⟨'-', _, rfl, Or.inl rfl⟩

/-- **A written integer is read as a value.** -/
theorem readScalar_renderInt (n : Int) {rest : List Char} (h : EndsNumber rest) :
    readScalar (renderInt n ++ rest) = (.num (Number.ofInt n), some rest) := by
  have hnumber := readNumber?_renderInt n h
  obtain ⟨c, cs, hcs, hc⟩ := exists_renderInt_eq_cons n
  have hne : c ≠ '"' ∧ c ≠ 'n' ∧ c ≠ 't' ∧ c ≠ 'f' := by
    refine ⟨?_, ?_, ?_, ?_⟩ <;> rintro rfl <;> revert hc <;> decide
  rw [hcs, List.cons_append] at hnumber ⊢
  rw [readScalar, hnumber]
  · exact fun _ heq => hne.1 (List.cons.inj heq).1
  · exact fun _ heq => hne.2.1 (List.cons.inj heq).1
  · exact fun _ heq => hne.2.2.1 (List.cons.inj heq).1
  · exact fun _ heq => hne.2.2.2 (List.cons.inj heq).1

namespace Value

/-- A text that spells a value starts like one. -/
theorem Spelled.exists_cons {v : Value} {cs : List Char} (h : v.Spelled cs) :
    ∃ c rest, cs = c :: rest ∧ StartsValue c := by
  have hliteral : ∀ c ∈ ['n', 't', 'f', '"', '-', '[', '{'], StartsValue c := by
    simp [StartsValue, isSpace]
  cases v with
  | null => exact ⟨'n', _, h, hliteral _ (by decide)⟩
  | bool b =>
    cases b with
    | true => exact ⟨'t', _, h, hliteral _ (by decide)⟩
    | false => exact ⟨'f', _, h, hliteral _ (by decide)⟩
  | int n =>
    obtain ⟨c, rest, hcs, hc⟩ := exists_renderInt_eq_cons n
    refine ⟨c, rest, h.trans hcs, ?_⟩
    rcases hc with rfl | hdigit
    · exact hliteral _ (by decide)
    · exact startsValue_of_isDigit hdigit
  | decimal _ => cases h
  | str s => exact ⟨'"', _, h, hliteral _ (by decide)⟩
  | arr items =>
    obtain ⟨body, hcs, -⟩ := h
    exact ⟨'[', body, hcs, hliteral _ (by decide)⟩
  | obj fields =>
    obtain ⟨body, hcs, -⟩ := h
    exact ⟨'{', body, hcs, hliteral _ (by decide)⟩

/-- Space and a bracket start with a character that no value goes on with. -/
theorem exists_cons_blank {space : List Char} (h : Blank space) {c : Char}
    (hc : c = ']' ∨ c = '}') : ∃ d tail, space ++ [c] = d :: tail ∧ Separates d := by
  cases space with
  | nil => exact ⟨c, [], rfl, Or.inr (Or.inr hc)⟩
  | cons d space => exact ⟨d, space ++ [c], rfl, Or.inl (h d List.mem_cons_self)⟩

/-- What follows an item. -/
theorem ItemsSpelled.exists_cons {vs : List Value} {cs : List Char} (h : ItemsSpelled false vs cs) :
    ∃ c tail, cs = c :: tail ∧ Separates c := by
  cases vs with
  | nil =>
    obtain ⟨space, hspace, rfl⟩ := h
    exact exists_cons_blank hspace (Or.inl rfl)
  | cons v vs =>
    obtain ⟨space, text, after, -, -, -, rfl⟩ := h
    exact ⟨',', _, rfl, Or.inr (Or.inl rfl)⟩

/-- What follows a field. -/
theorem FieldsSpelled.exists_cons {fields : List (String × Value)} {cs : List Char}
    (h : FieldsSpelled false fields cs) : ∃ c tail, cs = c :: tail ∧ Separates c := by
  cases fields with
  | nil =>
    obtain ⟨space, hspace, rfl⟩ := h
    exact exists_cons_blank hspace (Or.inr rfl)
  | cons field fields =>
    obtain ⟨space, inner, text, after, -, -, -, -, rfl⟩ := h
    exact ⟨',', _, rfl, Or.inr (Or.inl rfl)⟩

/-- A value is read from behind the space in front of it. -/
theorem readValue_append {space : List Char} (h : Blank space) (fuel : Nat) (cs : List Char) :
    readValue fuel (space ++ cs) = readValue fuel cs := by
  cases fuel with
  | zero => rw [readValue, readValue]
  | succ fuel => rw [readValue, readValue, skipSpace_append h]

/-- What starts neither a list nor an object is a scalar. -/
theorem readValue_scalar {c : Char} (hc : isSpace c = false) (harr : c ≠ '[') (hobj : c ≠ '{')
    (fuel : Nat) (cs : List Char) : readValue (fuel + 1) (c :: cs) = readScalar (c :: cs) := by
  rw [readValue, skipSpace_cons hc]
  split
  · rename_i heq
    exact absurd (List.cons.inj heq).1 harr
  · rename_i heq
    exact absurd (List.cons.inj heq).1 hobj
  · rfl

mutual

/-- **A text that spells a value is read as the fragment of the value**, and what follows it is
left, if it does not continue the value. -/
theorem readValue_of_spelled (v : Value) {cs rest : List Char} {fuel : Nat} (h : v.Spelled cs)
    (hrest : EndsNumber rest) (hfuel : 2 * cs.length ≤ fuel) :
    readValue fuel (cs ++ rest) = (Fragment.ofValue v, some rest) := by
  obtain ⟨c, tail, hcons, hc⟩ := h.exists_cons
  cases fuel with
  | zero =>
    rw [hcons, List.length_cons] at hfuel
    omega
  | succ fuel =>
    cases v with
    | null =>
      rw [h, readValue]
      rfl
    | bool b =>
      rw [h, readValue]
      cases b <;> rfl
    | int n =>
      obtain ⟨c, tail, hcs, hc⟩ := exists_renderInt_eq_cons n
      rw [h, Fragment.ofValue, ← readScalar_renderInt n hrest, hcs]
      refine readValue_scalar ?_ ?_ ?_ fuel _
      · rcases hc with rfl | hdigit
        · rfl
        · exact (startsValue_of_isDigit hdigit).1
      · rintro rfl
        revert hc
        decide
      · rintro rfl
        revert hc
        decide
    | decimal _ => cases h
    | str s =>
      have hstring := readString_renderString s rest
      rw [h, renderString, List.cons_append, List.append_assoc, List.singleton_append,
        readValue_scalar (by decide) (by decide) (by decide), readScalar, hstring]
      rfl
    | arr items =>
      obtain ⟨body, rfl, hbody⟩ := h
      rw [List.length_cons] at hfuel
      rw [List.cons_append, readValue, skipSpace_cons (by decide)]
      simp only [readItems_of_spelled items hbody (by omega : 2 * body.length ≤ fuel)]
      rfl
    | obj fields =>
      obtain ⟨body, rfl, hbody⟩ := h
      rw [List.length_cons] at hfuel
      rw [List.cons_append, readValue, skipSpace_cons (by decide)]
      simp only [readFields_of_spelled fields hbody (by omega : 2 * body.length ≤ fuel)]
      rfl

/-- The items of a list are read up to its end. -/
theorem readItems_of_spelled (vs : List Value) {first : Bool} {cs rest : List Char} {fuel : Nat}
    (h : ItemsSpelled first vs cs) (hfuel : 2 * cs.length ≤ fuel) :
    readItems fuel first (cs ++ rest) = (Fragment.ofItems vs, some rest) := by
  cases vs with
  | nil =>
    obtain ⟨space, hspace, rfl⟩ := h
    rw [List.length_append, List.length_singleton] at hfuel
    obtain ⟨fuel, rfl⟩ : ∃ k, fuel = k + 1 := ⟨fuel - 1, by omega⟩
    rw [List.append_assoc, List.singleton_append, readItems, next_close (by decide) first hspace]
    rfl
  | cons v vs =>
    obtain ⟨space, text, after, hspace, htext, hafter, rfl⟩ := h
    obtain ⟨c, tail, hcons, hc⟩ := htext.exists_cons
    obtain ⟨d, tail', hcons', hd⟩ := hafter.exists_cons
    have htextPos : 0 < text.length := hcons ▸ Nat.succ_pos _
    have hafterPos : 0 < after.length := hcons' ▸ Nat.succ_pos _
    have hends : EndsNumber (after ++ rest) := hcons' ▸ hd.endsNumber _
    simp only [List.length_append] at hfuel
    obtain ⟨fuel, rfl⟩ : ∃ k, fuel = k + 1 := ⟨fuel - 1, by omega⟩
    have hnext : next ']' first
        ((if first then [] else [',']) ++ (space ++ (text ++ after)) ++ rest)
          = .item (text ++ (after ++ rest)) := by
      rw [hcons]
      simp only [List.append_assoc, List.cons_append]
      exact next_item (Or.inl rfl) first hspace hc _
    rw [readItems, hnext]
    simp only [readValue_of_spelled v htext hends (by omega : _ ≤ fuel),
      readItems_of_spelled vs hafter (by omega : _ ≤ fuel)]
    rfl

/-- The fields of an object are read up to its end. -/
theorem readFields_of_spelled (fields : List (String × Value)) {first : Bool} {cs rest : List Char}
    {fuel : Nat} (h : FieldsSpelled first fields cs) (hfuel : 2 * cs.length ≤ fuel) :
    readFields fuel first (cs ++ rest) = (Fragment.ofFields fields, some rest) := by
  cases fields with
  | nil =>
    obtain ⟨space, hspace, rfl⟩ := h
    rw [List.length_append, List.length_singleton] at hfuel
    obtain ⟨fuel, rfl⟩ : ∃ k, fuel = k + 1 := ⟨fuel - 1, by omega⟩
    rw [List.append_assoc, List.singleton_append, readFields, next_close (by decide) first hspace]
    rfl
  | cons field fields =>
    obtain ⟨key, v⟩ := field
    obtain ⟨space, inner, text, after, hspace, hinner, htext, hafter, rfl⟩ := h
    obtain ⟨c, tail, hcons, hc⟩ := htext.exists_cons
    obtain ⟨d, tail', hcons', hd⟩ := hafter.exists_cons
    have htextPos : 0 < text.length := hcons ▸ Nat.succ_pos _
    have hafterPos : 0 < after.length := hcons' ▸ Nat.succ_pos _
    have hends : EndsNumber (after ++ rest) := hcons' ▸ hd.endsNumber _
    simp only [List.length_append, List.length_cons] at hfuel
    obtain ⟨fuel, rfl⟩ : ∃ k, fuel = k + 1 := ⟨fuel - 1, by omega⟩
    have hnext : next '}' first
        ((if first then [] else [','])
          ++ (space ++ (renderString key ++ ':' :: (inner ++ (text ++ after)))) ++ rest)
          = .item ('"' :: (key.toList.flatMap escapeChar
            ++ '"' :: ':' :: (inner ++ (text ++ (after ++ rest))))) := by
      simp only [renderString, List.append_assoc, List.cons_append, List.nil_append]
      exact next_item (Or.inr rfl) first hspace ⟨rfl, by decide, by decide⟩ _
    rw [readFields, hnext]
    simp only [readString_renderString, skipSpace_cons (show isSpace ':' = false from rfl),
      readValue_append hinner,
      readValue_of_spelled v htext hends (by omega : _ ≤ fuel),
      readFields_of_spelled fields hafter (by omega : _ ≤ fuel)]
    rfl

end

/-- **A text that spells a value is read as the fragment of the value**, and nothing is left. -/
theorem read_ofList {v : Value} {cs : List Char} (h : v.Spelled cs) :
    read (String.ofList cs) = (Fragment.ofValue v, some []) := by
  have hread := readValue_of_spelled v h (nofun : EndsNumber [])
    (Nat.le_add_right (2 * cs.length) 2)
  rw [read, String.toList_ofList, String.length_ofList]
  rw [List.append_nil] at hread
  exact hread

/-- **A value that was written is read back as its fragment**, and nothing is left. -/
theorem read_render {v : Value} (h : v.Leaves IsPlainLeaf) :
    read v.render = (Fragment.ofValue v, some []) :=
  read_ofList (spelled_chars v h)

/-- So is a value that was written on many lines. -/
theorem read_renderIndented {v : Value} (h : v.Leaves IsPlainLeaf) :
    read v.renderIndented = (Fragment.ofValue v, some []) :=
  read_ofList (spelled_indentedChars v 0 h)

end Value

end TextTemplate.Json
