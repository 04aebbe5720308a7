import TextTemplate.Proofs.DocumentNumbers
import TextTemplate.Proofs.SavedSnapshots

/-!
# A place in a list identifies its offset

The line of a place is found by counting line breaks and its column by looking for the last one, two
searches through the text in front of an offset that know nothing of each other. They fit together
because of what one more character does to both (`endPosition_concat`): a line break starts the next
line at column one, any other character moves the column on by its bytes. So a position grows, line
first, with every character, and the positions of two offsets are in the order of the offsets
(`before_bytePosition_iff`).

The way back is `offsetAt?`, which knows only the bytes of the source: it takes the start of the
line from all the starts of lines and goes on from there by the column. No byte of a longer
character looks like a line break (`mem_utf8EncodeChar_iff`), so the bytes have as many line breaks
as the characters, and the last start of a line is the one that the search for the last break finds.
-/

namespace TextTemplate

/-! ## The order of positions -/

namespace Position

/-- **One position comes before another one**: on an earlier line, or on the same line in an earlier
column. -/
def Before (p q : Position) : Prop :=
  p.line < q.line ∨ p.line = q.line ∧ p.column < q.column

theorem Before.trans {p q r : Position} (h : p.Before q) (h' : q.Before r) : p.Before r := by
  unfold Before at *
  omega

theorem not_before_self (p : Position) : ¬ p.Before p := by
  unfold Before
  omega

/-- The position behind one more character. -/
def advance (p : Position) (c : Char) : Position :=
  if c = '\n' then ⟨p.line + 1, 1⟩ else ⟨p.line, p.column + c.utf8Size⟩

/-- **A character moves the position on.** -/
theorem before_advance (p : Position) (c : Char) : p.Before (p.advance c) := by
  have hc := c.utf8Size_pos
  unfold advance Before
  split
  · exact Or.inl (Nat.lt_succ_self _)
  · exact Or.inr ⟨rfl, Nat.lt_add_of_pos_right hc⟩

/-- So does a text, unless it is empty. -/
theorem before_foldl_advance (p : Position) {cs : List Char} (h : cs ≠ []) :
    p.Before (cs.foldl advance p) := by
  induction cs generalizing p with
  | nil => exact absurd rfl h
  | cons c cs ih =>
    rw [List.foldl_cons]
    by_cases hcs : cs = []
    · rw [hcs]
      exact p.before_advance c
    · exact (p.before_advance c).trans (ih _ hcs)

/-- **What is shown of a position behind a path gives the position.** A number has no colon in it,
so the last two colons stand around the line, whatever the path may be. -/
theorem render_inj {p q : Position} {path : String} : p.render path = q.render path ↔ p = q := by
  refine ⟨fun h => ?_, fun h => h ▸ rfl⟩
  have hcolon : ∀ n : Nat, ':' ∉ n.repr.toList := by
    intro n hmem
    rw [Nat.toList_repr] at hmem
    have hdigit := Nat.isDigit_of_mem_toDigits (by decide) (by decide) hmem
    exact absurd hdigit (by decide)
  have hparts : p.line.repr.toList ++ ':' :: p.column.repr.toList
      = q.line.repr.toList ++ ':' :: q.column.repr.toList := by
    have hlist := congrArg String.toList h
    simp only [render, String.toList_append, Nat.toString_eq_repr, List.append_assoc] at hlist
    exact List.append_cancel_left (List.append_cancel_left hlist)
  obtain ⟨hline, -, hcolumn⟩ :=
    (List.append_cons_inj_of_notMem (hcolon p.line) (hcolon p.column)).mp hparts
  have hline := Nat.repr_inj.mp (String.toList_inj.mp hline)
  have hcolumn := Nat.repr_inj.mp (String.toList_inj.mp hcolumn)
  cases p
  cases q
  exact congrArg₂ Position.mk hline hcolumn

end Position

namespace Text

open Position

/-! ## The position behind a text -/

theorem lastLine_concat (cs : List Char) (c : Char) :
    lastLine (cs ++ [c]) = if c = '\n' then [] else lastLine cs ++ [c] := by
  unfold lastLine
  rw [List.reverse_concat, List.takeWhile_cons]
  by_cases hc : c = '\n'
  · rw [if_pos hc, if_neg (by simp [hc]), List.reverse_nil]
  · rw [if_neg hc, if_pos (by simp [hc]), List.reverse_cons]

theorem lineNumber_concat (cs : List Char) (c : Char) :
    lineNumber (cs ++ [c]) = if c = '\n' then lineNumber cs + 1 else lineNumber cs := by
  unfold lineNumber
  rw [List.count_append, List.count_singleton]
  by_cases hc : c = '\n' <;> simp [hc]

/-- The position at which a text ends. -/
def endPosition (cs : List Char) : Position := ⟨lineNumber cs, byteSize (lastLine cs) + 1⟩

/-- **One more character moves the position behind a text on.** -/
theorem endPosition_concat (cs : List Char) (c : Char) :
    endPosition (cs ++ [c]) = (endPosition cs).advance c := by
  unfold endPosition advance
  rw [lastLine_concat, lineNumber_concat]
  by_cases hc : c = '\n'
  · rw [if_pos hc, if_pos hc, if_pos hc, byteSize_nil]
  · rw [if_neg hc, if_neg hc, if_neg hc, byteSize_append, byteSize_cons, byteSize_nil]
    simp only [Nat.add_zero, Nat.add_right_comm]

/-- So does a whole text behind it. -/
theorem endPosition_append (cs ds : List Char) :
    endPosition (cs ++ ds) = ds.foldl advance (endPosition cs) := by
  induction ds generalizing cs with
  | nil => rw [List.append_nil, List.foldl_nil]
  | cons d ds ih => rw [List.append_cons, ih, endPosition_concat, List.foldl_cons]

theorem lastBreak?_concat (cs : List Char) (c : Char) :
    lastBreak? (cs ++ [c]) = if c = '\n' then some (byteSize cs) else lastBreak? cs := by
  induction cs with
  | nil => rfl
  | cons d cs ih =>
    rw [List.cons_append, lastBreak?, ih, lastBreak?, byteSize_cons]
    by_cases hc : c = '\n'
    · rw [if_pos hc, if_pos hc]
    · rw [if_neg hc, if_neg hc]

theorem lastStart_concat (cs : List Char) (c : Char) :
    lastStart (cs ++ [c]) = if c = '\n' then byteSize cs + 1 else lastStart cs := by
  unfold lastStart
  rw [lastBreak?_concat, apply_ite (Option.elim · 0 (· + 1))]
  rfl

/-- **The last line reaches from its start to the end of the text.** -/
theorem lastStart_add_byteSize_lastLine (cs : List Char) :
    lastStart cs + byteSize (lastLine cs) = byteSize cs := by
  induction cs using List.reverseRecOn with
  | nil => rfl
  | append_singleton cs c ih =>
    rw [lastStart_concat, lastLine_concat, byteSize_append]
    by_cases hc : c = '\n'
    · rw [if_pos hc, if_pos hc, hc]
      rfl
    · rw [if_neg hc, if_neg hc, byteSize_append, ← Nat.add_assoc, ih]

/-- **The position of an offset is that behind the text in front of it**, since the difference that
gives the column is the width of the last line. -/
theorem bytePosition_eq_endPosition (source : String) (offset : Nat) :
    bytePosition source offset
      = endPosition ((takeBytes? offset source.toList).getD source.toList) := by
  have hwidth : ∀ cs : List Char, byteSize cs - lastStart cs = byteSize (lastLine cs) := by
    intro cs
    rw [← lastStart_add_byteSize_lastLine cs, Nat.add_sub_cancel_left]
  show Position.mk _ (byteSize _ - lastStart _ + 1) = _
  rw [hwidth]
  rfl

/-- **At no offset does the difference fail.** -/
theorem bytePositionBy_checked (source : String) (offset : Nat) :
    bytePositionBy .checked source offset = .ok (bytePosition source offset) := by
  refine congrArg (· >>= _) (subtractOffsets_of_le ?_)
  rw [← lastStart_add_byteSize_lastLine]
  exact Nat.le_add_right _ _

/-- The position of a boundary is that behind the text in front of it. -/
theorem bytePosition_of_append {s : String} {as bs : List Char} (h : s.toList = as ++ bs) :
    bytePosition s (byteSize as) = endPosition as := by
  rw [bytePosition_eq_endPosition, h, takeBytes?_append]
  rfl

/-- **An offset that is no boundary has the position of the end.** -/
theorem bytePosition_of_not_isBoundary {s : String} {o : Nat} (h : ¬ IsBoundary s o) :
    bytePosition s o = bytePosition s s.utf8ByteSize := by
  have hnone : takeBytes? o s.toList = none := by
    rw [isBoundary_iff_isSome, Option.not_isSome_iff_eq_none] at h
    exact h
  rw [← byteSize_toList, bytePosition_of_append (List.append_nil _).symm,
    bytePosition_eq_endPosition, hnone]
  rfl

/-- A later boundary has a later position. -/
theorem before_bytePosition {s : String} {o₁ o₂ : Nat} (h₁ : IsBoundary s o₁)
    (h₂ : IsBoundary s o₂) (h : o₁ < o₂) : (bytePosition s o₁).Before (bytePosition s o₂) := by
  obtain ⟨as, as', has, rfl⟩ := h₁
  obtain ⟨bs, bs', hbs, rfl⟩ := h₂
  obtain ⟨mid, rfl⟩ := isPrefix_of_byteSize_le ⟨as', has.symm⟩ ⟨bs', hbs.symm⟩ (Nat.le_of_lt h)
  have hmid : mid ≠ [] := by
    rintro rfl
    rw [List.append_nil] at h
    exact Nat.lt_irrefl _ h
  rw [bytePosition_of_append has, bytePosition_of_append hbs, endPosition_append]
  exact before_foldl_advance _ hmid

/-- **Positions are in the order of the boundaries that they belong to.** -/
theorem before_bytePosition_iff {s : String} {o₁ o₂ : Nat} (h₁ : IsBoundary s o₁)
    (h₂ : IsBoundary s o₂) : (bytePosition s o₁).Before (bytePosition s o₂) ↔ o₁ < o₂ := by
  refine ⟨fun h => ?_, before_bytePosition h₁ h₂⟩
  rcases Nat.lt_trichotomy o₁ o₂ with hlt | rfl | hgt
  · exact hlt
  · exact absurd h (not_before_self _)
  · exact absurd (h.trans (before_bytePosition h₂ h₁ hgt)) (not_before_self _)

/-! ## Line breaks in bytes -/

/-- **The byte of a line break occurs in no other character.** -/
theorem mem_utf8EncodeChar_iff {c : Char} : 10 ∈ String.utf8EncodeChar c ↔ c = '\n' := by
  constructor
  · intro h
    have hbyte : ∀ n : Nat, 10 = UInt8.ofNat n ↔ n % 256 = 10 := by
      intro n
      rw [← UInt8.toNat_inj, UInt8.toNat_ofNat']
      exact eq_comm
    refine Char.ext (UInt32.toNat_inj.mp ?_)
    show c.val.toNat = 10
    unfold String.utf8EncodeChar at h
    generalize c.val.toNat = m at h
    dsimp only at h
    -- With one byte it is the number of the character; with more, each of them is 128 at least.
    repeat' split at h
    all_goals
      simp only [List.mem_cons, List.not_mem_nil, or_false, hbyte] at h
      omega
  · rintro rfl
    decide

theorem count_flatMap_utf8EncodeChar (cs : List Char) :
    (cs.flatMap String.utf8EncodeChar).count 10 = cs.count '\n' := by
  induction cs with
  | nil => rfl
  | cons c cs ih =>
    rw [List.flatMap_cons, List.count_append, ih, List.count_cons, Nat.add_comm]
    by_cases hc : c = '\n'
    · subst hc
      rfl
    · rw [List.count_eq_zero.mpr (mt mem_utf8EncodeChar_iff.mp hc), if_neg (by simpa using hc)]

theorem length_flatMap_utf8EncodeChar (cs : List Char) :
    (cs.flatMap String.utf8EncodeChar).length = byteSize cs := by
  induction cs with
  | nil => rfl
  | cons c cs ih =>
    rw [List.flatMap_cons, List.length_append, ih, String.length_utf8EncodeChar, byteSize_cons]

theorem utf8Bytes_eq_flatMap (s : String) :
    utf8Bytes s = s.toList.flatMap String.utf8EncodeChar := by
  rw [← utf8Bytes_ofList, String.ofList_toList]

/-- **The line of a boundary counts the line breaks among the bytes in front of it.** -/
theorem line_bytePosition {s : String} {o : Nat} (h : IsBoundary s o) :
    (bytePosition s o).line = 1 + ((utf8Bytes s).take o).count 10 := by
  obtain ⟨as, bs, hs, rfl⟩ := h
  rw [bytePosition_of_append hs, utf8Bytes_eq_flatMap, hs, List.flatMap_append,
    ← length_flatMap_utf8EncodeChar, List.take_left, count_flatMap_utf8EncodeChar, Nat.add_comm]
  rfl

/-! ## Starts of lines -/

/-- **Where the lines of a text start**: at its start, and behind each line break. -/
def lineStarts (bytes : List UInt8) : List Nat := 0 :: (bytes.idxsOf 10).map (· + 1)

theorem lineStarts_append (xs ys : List UInt8) :
    lineStarts (xs ++ ys) = lineStarts xs ++ (ys.idxsOf 10 xs.length).map (· + 1) := by
  unfold lineStarts
  rw [List.idxsOf_append, List.map_append, Nat.zero_add, List.cons_append]

theorem length_lineStarts (cs : List Char) :
    (lineStarts (cs.flatMap String.utf8EncodeChar)).length = lineNumber cs := by
  unfold lineStarts lineNumber
  rw [List.length_cons, List.length_map, List.length_idxsOf, count_flatMap_utf8EncodeChar]

/-- Only a line break starts a line. -/
theorem lineStarts_concat (cs : List Char) (c : Char) :
    lineStarts ((cs ++ [c]).flatMap String.utf8EncodeChar)
      = lineStarts (cs.flatMap String.utf8EncodeChar)
        ++ if c = '\n' then [byteSize cs + 1] else [] := by
  rw [List.flatMap_append, List.flatMap_singleton, lineStarts_append,
    length_flatMap_utf8EncodeChar]
  congr 1
  by_cases hc : c = '\n'
  · rw [if_pos hc, hc]
    rfl
  · have hnone : (String.utf8EncodeChar c).idxsOf 10 (byteSize cs) = [] := by
      refine List.idxsOf_eq_nil_iff.mpr fun b hb => beq_eq_false_iff_ne.mpr ?_
      rintro rfl
      exact hc (mem_utf8EncodeChar_iff.mp hb)
    rw [if_neg hc, hnone, List.map_nil]

/-- **The last start of a line is the one behind the last line break.** -/
theorem getLast?_lineStarts (cs : List Char) :
    (lineStarts (cs.flatMap String.utf8EncodeChar)).getLast? = some (lastStart cs) := by
  induction cs using List.reverseRecOn with
  | nil => rfl
  | append_singleton cs c ih =>
    rw [lineStarts_concat, lastStart_concat]
    by_cases hc : c = '\n'
    · rw [if_pos hc, if_pos hc, List.getLast?_concat]
    · rw [if_neg hc, if_neg hc, List.append_nil, ih]

/-! ## From a position back to the offset -/

/-- **The offset of a position**: as far behind the start of its line as the column says. -/
def offsetAt? (source : String) (p : Position) : Option Nat :=
  (lineStarts (utf8Bytes source))[p.line - 1]?.map (· + (p.column - 1))

/-- **The position of a boundary leads back to it.** -/
theorem offsetAt?_bytePosition {s : String} {o : Nat} (h : IsBoundary s o) :
    offsetAt? s (bytePosition s o) = some o := by
  obtain ⟨as, bs, hs, rfl⟩ := h
  have hline : (lineStarts (utf8Bytes s))[lineNumber as - 1]? = some (lastStart as) := by
    have hlength := length_lineStarts as
    rw [utf8Bytes_eq_flatMap, hs, List.flatMap_append, lineStarts_append, ← hlength,
      List.getElem?_append_left (by rw [hlength]; exact Nat.lt_succ_self _),
      ← List.getLast?_eq_getElem?, getLast?_lineStarts]
  rw [bytePosition_of_append hs]
  show ((lineStarts (utf8Bytes s))[lineNumber as - 1]?).map (· + byteSize (lastLine as)) = _
  rw [hline, Option.map_some, lastStart_add_byteSize_lastLine]

end Text

/-! ## Places in the documents of a tree -/

namespace Sources

open Text

/-- **A listed place identifies its offset.** Let a number of a tree be given, and the document that
is registered for it, the first one of the number. A place there is shown by the path of the
document with a line and a column. If the offset is a character boundary, its line is one more than
the number of line breaks among the bytes in front of it, its column is one at least, and the offset
lies as many bytes behind the start of the line as the column is greater than one. Of two boundaries
the first one has the position that comes first, line before column, and what is shown is the same
only if the offsets are. An offset behind the end or inside a character is shown as the end of the
source. At no offset does the difference fail that gives the column, from the end of the text in
front of it back to its last line break. -/
theorem location_identifies_offset {d : Document} {id : Nat}
    (hid : ∃ member ∈ d.family, member.fileId = id) :
    ∃ m, d.find? id = some m ∧ (ofDocument d).get? id = some m
      ∧ (∀ span : Span, (ofDocument d).location id span
          = (bytePosition m.source span.start).render m.path)
      ∧ (∀ o, IsBoundary m.source o →
          (bytePosition m.source o).line = 1 + ((utf8Bytes m.source).take o).count 10
            ∧ 1 ≤ (bytePosition m.source o).column
            ∧ offsetAt? m.source (bytePosition m.source o) = some o)
      ∧ (∀ o₁ o₂, IsBoundary m.source o₁ → IsBoundary m.source o₂ →
          ((bytePosition m.source o₁).Before (bytePosition m.source o₂) ↔ o₁ < o₂))
      ∧ (∀ here there : Span, IsBoundary m.source here.start → IsBoundary m.source there.start →
          ((ofDocument d).location id here = (ofDocument d).location id there
            ↔ here.start = there.start))
      ∧ (∀ o, m.source.utf8ByteSize < o ∨ ¬ IsBoundary m.source o →
          bytePosition m.source o = bytePosition m.source m.source.utf8ByteSize)
      ∧ ∀ o, bytePositionBy .checked m.source o = .ok (bytePosition m.source o) := by
  obtain ⟨member, hmember, rfl⟩ := hid
  obtain ⟨m, hfind⟩ := Document.exists_find?_eq_some hmember
  have hget : (ofDocument d).get? member.fileId = some m := (get?_ofDocument d _).trans hfind
  have hlocation : ∀ span : Span, (ofDocument d).location member.fileId span
      = (bytePosition m.source span.start).render m.path :=
    Command.location_of_get?_eq_some hget
  refine ⟨m, hfind, hget, hlocation, fun o ho => ?_, fun _ _ => before_bytePosition_iff,
    fun here there hhere hthere => ?_, fun o ho => ?_, bytePositionBy_checked m.source⟩
  · exact ⟨line_bytePosition ho, Nat.succ_pos _, offsetAt?_bytePosition ho⟩
  · rw [hlocation, hlocation, Position.render_inj]
    refine ⟨fun h => ?_, fun h => h ▸ rfl⟩
    have hback := offsetAt?_bytePosition hhere
    rw [h, offsetAt?_bytePosition hthere] at hback
    exact (Option.some.inj hback).symm
  · refine bytePosition_of_not_isBoundary (ho.elim (fun hlt hboundary => ?_) id)
    exact Nat.not_lt.mpr hboundary.le_utf8ByteSize hlt

/-- A template that includes two documents of one number. The first one has an empty line, a letter
of two bytes and a sign of three, and ends with a line break. -/
def unevenLines : Document :=
  ((Builder.new 0 "outer.tt").includeDocument "a.tt"
      ((Builder.new 1 "a.tt").text "é\n\n€x\n").build
    |>.includeDocument "b.tt" ((Builder.new 1 "b.tt").text "x").build).build

/-- What stands behind the sign has column four of the third line, and the offset is found from
that. The end of the empty line is shown before the start of the next one, and an offset inside the
sign is shown as the end, on a line with nothing on it. -/
theorem location_identifies_offset_unevenLines :
    (∃ member ∈ unevenLines.family, member.fileId = 1)
      ∧ ∃ m, unevenLines.find? 1 = some m ∧ m.source = "é\n\n€x\n"
        ∧ (ofDocument unevenLines).location 1 ⟨7, 8⟩ = "a.tt:3:4"
        ∧ offsetAt? m.source ⟨3, 4⟩ = some 7
        ∧ (bytePosition m.source 3).Before (bytePosition m.source 4)
        ∧ (ofDocument unevenLines).location 1 ⟨7, 8⟩ ≠ (ofDocument unevenLines).location 1 ⟨8, 8⟩
        ∧ (ofDocument unevenLines).location 1 ⟨5, 8⟩ = "a.tt:4:1" := by
  have hid : ∃ member ∈ unevenLines.family, member.fileId = 1 := by decide +kernel
  obtain ⟨m, hfind, -, hlocation, hoffset, horder, hsame, hend, -⟩ :=
    location_identifies_offset hid
  have hvalue : (unevenLines.find? 1).map (fun m => (m.source, m.path))
      = some ("é\n\n€x\n", "a.tt") := by decide +kernel
  rw [hfind, Option.map_some, Option.some.injEq, Prod.mk.injEq] at hvalue
  obtain ⟨hsource, hpath⟩ := hvalue
  rw [hsource] at hoffset horder hsame hend hlocation
  refine ⟨hid, m, hfind, hsource, ?_, ?_, ?_, ?_, ?_⟩
  · rw [hlocation, hpath]
    decide +kernel
  · rw [hsource]
    exact (hoffset 7 (by decide +kernel)).2.2
  · rw [hsource]
    exact (horder 3 4 (by decide +kernel) (by decide +kernel)).mpr (by decide)
  · rw [Ne, hsame _ _ (by decide +kernel) (by decide +kernel)]
    decide
  · rw [hlocation, hpath, hend 5 (Or.inr (by decide +kernel))]
    decide +kernel

end Sources

end TextTemplate
