import Mathlib.Data.List.Basic
import TextTemplate.Generation.Unit
import TextTemplate.Proofs.ByteSlices

/-!
# Where the markers of a class occur

The author's code is recognized by a search for two markers in the text around a range. The markers
share a character that is rare elsewhere, a joiner that takes no space. The class has it also in two
names of its own, but there a `T` follows, as no marker has it.

So a marker cannot occur in a text all of whose joiners are followed by a `T` (`namesOnly`), nor can
it begin in such a text and end behind it (`byteSize_lt_of_codeStart`); and a text with a single
joiner has at most one marker, which stands around it.
-/

namespace TextTemplate

/-! ## Searching -/

namespace Text

/-- A pattern is not found if the text lacks one of its characters. -/
theorem occursIn_eq_false_of_notMem {pattern cs : List Char} {c : Char} (hpattern : c ∈ pattern)
    (hcs : c ∉ cs) : occursIn pattern cs = false :=
  occursIn_eq_false_iff.mpr fun h => hcs (h.subset hpattern)

/-- The search from the end finds the pattern if it stands in the text. -/
theorem fromLast?_eq_none_iff {pattern cs : List Char} :
    fromLast? pattern cs = none ↔ ¬pattern <:+: cs := by
  induction cs with
  | nil =>
    rw [fromLast?, List.infix_nil, ← List.isEmpty_iff]
    by_cases h : pattern.isEmpty = true
    · rw [if_pos h]
      exact ⟨nofun, fun hne => absurd h hne⟩
    · rw [if_neg h]
      exact ⟨fun _ => h, fun _ => rfl⟩
  | cons c cs ih =>
    rw [fromLast?, List.infix_cons_iff, not_or, ← ih, ← List.isPrefixOf_iff_prefix]
    cases fromLast? pattern cs with
    | some rest => exact ⟨nofun, fun h => absurd h.2 nofun⟩
    | none =>
      dsimp only
      by_cases h : pattern.isPrefixOf (c :: cs) = true
      · rw [if_pos h]
        exact ⟨nofun, fun hne => absurd h hne.1⟩
      · rw [if_neg h]
        exact ⟨fun _ => ⟨h, rfl⟩, fun _ => rfl⟩

/-- What is found from the end is not changed by what stands in front. -/
theorem fromLast?_append {pattern cs rest : List Char} (h : fromLast? pattern cs = some rest)
    (front : List Char) : fromLast? pattern (front ++ cs) = some rest := by
  induction front with
  | nil => exact h
  | cons c front ih => rw [List.cons_append, fromLast?, ih]

/-- **The last place of a pattern** is one behind whose first character it does not stand again. -/
theorem fromLast?_append_append {c : Char} {pattern cs : List Char}
    (h : ¬(c :: pattern) <:+: pattern ++ cs) (front : List Char) :
    fromLast? (c :: pattern) (front ++ (c :: pattern ++ cs)) = some (c :: pattern ++ cs) := by
  refine fromLast?_append ?_ front
  rw [List.cons_append, fromLast?, fromLast?_eq_none_iff.mpr h]
  exact if_pos (List.isPrefixOf_iff_prefix.mpr (List.prefix_append (c :: pattern) cs))

end Text

/-! ## The joiner -/

/-- The character that joins words without a space. -/
def joiner : Char := '\u200c'

/-- **Every joiner is followed by a `T`**, as in the names of a class, and unlike in its markers. -/
def namesOnly : List Char → Bool
  | [] => true
  | c :: cs => (c != joiner || cs.head? == some 'T') && namesOnly cs

/-- So it is in a text without joiners. -/
theorem namesOnly_of_notMem {cs : List Char} (h : joiner ∉ cs) : namesOnly cs = true := by
  induction cs with
  | nil => rfl
  | cons c cs ih =>
    rw [List.mem_cons, not_or] at h
    obtain ⟨hc, hcs⟩ := h
    rw [namesOnly, ih hcs, bne_iff_ne.mpr (Ne.symm hc), Bool.true_or, Bool.true_and]

/-- **Texts of this kind can be joined.** -/
theorem namesOnly_append {as bs : List Char} (has : namesOnly as = true) (hbs : namesOnly bs = true) :
    namesOnly (as ++ bs) = true := by
  induction as with
  | nil => exact hbs
  | cons a as ih =>
    rw [namesOnly, Bool.and_eq_true] at has
    rw [List.cons_append, namesOnly, ih has.2, Bool.and_true]
    cases as with
    | nil =>
      rw [show (a != joiner) = true from by simpa using has.1, Bool.true_or]
    | cons a' as => exact has.1

/-- The same for texts. -/
theorem namesOnly_toList_append {s t : String} (hs : namesOnly s.toList = true)
    (ht : namesOnly t.toList = true) : namesOnly (s ++ t).toList = true := by
  rw [String.toList_append]
  exact namesOnly_append hs ht

/-- A text that is given by its characters. -/
theorem namesOnly_toList_ofList {cs : List Char} (h : namesOnly cs = true) :
    namesOnly (String.ofList cs).toList = true := by
  rw [String.toList_ofList]
  exact h

/-- What follows a joiner. -/
theorem head?_of_namesOnly {cs x y : List Char} (h : namesOnly cs = true) (hcs : cs = x ++ joiner :: y) :
    y.head? = some 'T' := by
  induction x generalizing cs with
  | nil =>
    rw [hcs, List.nil_append, namesOnly, bne_self_eq_false, Bool.false_or, Bool.and_eq_true,
      beq_iff_eq] at h
    exact h.1
  | cons a x ih =>
    rw [hcs, List.cons_append, namesOnly, Bool.and_eq_true] at h
    exact ih h.2 rfl

/-! ## The markers -/

/-- The start marker around its joiner. -/
theorem codeStart_toList :
    codeStart.toList = "/*_T4".toList ++ joiner :: "CodeStart_*/".toList := by
  decide

/-- The end marker around its joiner. -/
theorem codeEnd_toList : codeEnd.toList = "/*_T4".toList ++ joiner :: "CodeEnd_*/".toList := by
  decide

/-- **A start marker begins behind a text of names.** If the text in front of a cut has a start
marker, then every part in front that has joiners in names only is shorter. -/
theorem byteSize_lt_of_codeStart {names rest before after : List Char}
    (hnames : namesOnly names = true) (h : names ++ rest = before ++ after)
    (hmarker : codeStart.toList <:+: before) :
    Text.byteSize names < Text.byteSize before := by
  obtain ⟨x, y, rfl⟩ := hmarker
  rw [codeStart_toList] at h ⊢
  refine Nat.lt_of_not_le fun hle => ?_
  -- otherwise the whole marker stands in the names, with its joiner
  obtain ⟨z, hz⟩ := Text.isPrefix_of_byteSize_le ⟨after, rfl⟩ ⟨rest, h⟩ hle
  have hhead : ("CodeStart_*/".toList ++ y ++ z).head? = some 'T' := by
    refine head?_of_namesOnly hnames (x := x ++ "/*_T4".toList) ?_
    rw [← hz]
    simp only [List.append_assoc, List.cons_append]
  cases hhead

section Single

variable {cs : List Char} (hcs : joiner ∉ cs)

include hcs

/-- A single joiner has one place. -/
theorem eq_of_single_joiner {front front' back back' : List Char} (hfront : joiner ∉ front)
    (hback : joiner ∉ back) (h : front ++ joiner :: (back ++ cs) = front' ++ joiner :: back') :
    front = front' ∧ back ++ cs = back' := by
  have hnot : joiner ∉ back ++ cs := by
    rw [List.mem_append, not_or]
    exact ⟨hback, hcs⟩
  obtain ⟨hfront, -, hback⟩ := (List.append_cons_inj_of_notMem hfront hnot).mp h
  exact ⟨hfront, hback⟩

/-- **The last start marker** in front of text without joiners is the one that stands before it. -/
theorem fromLast?_codeStart (front : List Char) :
    Text.fromLast? codeStart.toList (front ++ (codeStart.toList ++ cs))
      = some (codeStart.toList ++ cs) := by
  have hcons : codeStart.toList
      = '/' :: ("*_T4".toList ++ joiner :: "CodeStart_*/".toList) := by decide
  rw [hcons]
  refine Text.fromLast?_append_append ?_ front
  rw [← hcons]
  rintro ⟨x, y, hxy⟩
  rw [codeStart_toList, List.append_assoc, List.append_assoc, List.append_assoc, List.cons_append,
    List.cons_append, ← List.append_assoc x] at hxy
  -- the joiner would have more characters in front of it than there are
  obtain ⟨hfront, -⟩ := eq_of_single_joiner hcs (by decide) (by decide) hxy.symm
  have hlength := congrArg List.length hfront
  rw [List.length_append] at hlength
  change 4 = x.length + 5 at hlength
  omega

/-- **No end marker** begins in a start marker and the text without joiners behind it. -/
theorem occursIn_codeEnd_codeStart :
    Text.occursIn codeEnd.toList (codeStart.toList ++ cs) = false := by
  refine Text.occursIn_eq_false_iff.mpr ?_
  rintro ⟨x, y, hxy⟩
  rw [codeStart_toList, codeEnd_toList, List.append_assoc, List.append_assoc, List.append_assoc,
    List.cons_append, List.cons_append, ← List.append_assoc x] at hxy
  -- the markers differ behind their joiners
  obtain ⟨-, hback⟩ := eq_of_single_joiner hcs (by decide) (by decide) hxy.symm
  have hchar := congrArg (fun cs => cs[4]?) hback
  cases hchar

end Single

/-! ## The author's code -/

namespace GeneratedUnit

variable {u : GeneratedUnit} {span : Span}

/-- The search looks at the text in front of a range, at the text in it and at the text behind. -/
theorem isUserCode_of_split {before inside after : List Char}
    (htext : u.text.toList = before ++ inside ++ after) (hstart : Text.byteSize before = span.start)
    (hstop : Text.byteSize before + Text.byteSize inside = span.stop) :
    u.isUserCode span
      = (Text.fromLast? codeStart.toList before).any fun opened =>
          !Text.occursIn codeEnd.toList opened && !Text.occursIn codeEnd.toList inside
            && !Text.occursIn codeStart.toList inside && Text.occursIn codeEnd.toList after := by
  have hbefore : Text.takeBytes? span.start u.text.toList = some before :=
    Text.takeBytes?_eq_some_iff.mpr ⟨inside ++ after, by rw [htext, List.append_assoc], hstart⟩
  have hinside : Text.cut? span u.text.toList = some inside :=
    Text.cut?_eq_some_iff.mpr ⟨before, after, htext, hstart, hstop⟩
  have hafter : Text.dropBytes? span.stop u.text.toList = some after :=
    Text.dropBytes?_eq_some_iff.mpr ⟨before ++ inside, htext, by rw [Text.byteSize_append, hstop]⟩
  simp only [isUserCode, hbefore, hinside, hafter]
  cases Text.fromLast? codeStart.toList before with
  | none => rfl
  | some opened => rfl

/-- **A range is taken for the author's code** if the text can be cut at its ends, a start marker
stands in front, no end marker stands between the last one and the range, no marker stands in the
range, and an end marker stands behind. -/
theorem isUserCode_eq_true_iff :
    u.isUserCode span = true ↔
      ∃ before inside after opened, u.text.toList = before ++ inside ++ after
        ∧ Text.byteSize before = span.start
        ∧ Text.byteSize before + Text.byteSize inside = span.stop
        ∧ Text.fromLast? codeStart.toList before = some opened
        ∧ Text.occursIn codeEnd.toList opened = false
        ∧ Text.occursIn codeEnd.toList inside = false
        ∧ Text.occursIn codeStart.toList inside = false
        ∧ Text.occursIn codeEnd.toList after = true := by
  constructor
  · intro h
    cases hinside : Text.cut? span u.text.toList with
    | none =>
      have hno : u.isUserCode span = false := by
        unfold isUserCode
        dsimp only
        rw [hinside]
        cases Text.takeBytes? span.start u.text.toList <;> rfl
      rw [hno] at h
      cases h
    | some inside =>
      obtain ⟨before, after, htext, hstart, hstop⟩ := Text.cut?_eq_some_iff.mp hinside
      rw [isUserCode_of_split htext hstart hstop, Option.any_eq_true] at h
      obtain ⟨opened, hopened, h⟩ := h
      simp only [Bool.and_eq_true, Bool.not_eq_true'] at h
      obtain ⟨⟨⟨hend, hinsideEnd⟩, hinsideStart⟩, hafter⟩ := h
      exact ⟨before, inside, after, opened, htext, hstart, hstop, hopened, hend, hinsideEnd,
        hinsideStart, hafter⟩
  · rintro ⟨before, inside, after, opened, htext, hstart, hstop, hopened, hend, hinsideEnd,
      hinsideStart, hafter⟩
    rw [isUserCode_of_split htext hstart hstop, hopened]
    simp only [Option.any_some, hend, hinsideEnd, hinsideStart, hafter, Bool.not_false,
      Bool.and_self]

end GeneratedUnit

end TextTemplate
