import TextTemplate.Proofs.UserCode

/-!
# What the search for markers takes for code

`GeneratedUnit.isUserCode` looks for whole markers in front of a range, in it and behind it. A marker
that an end of the range cuts is in none of the three texts, so the search does not see it. This
module says which ranges are taken for the author's code because of this, besides those that are.

The search is first described by the places at which the markers stand (`isUserCode_iff_openAt`).
Nothing about classes is used there. In a class the places are known: every marker stands around the
code of a block (`standsAt_codeStart_iff`, `standsAt_codeEnd_iff`), since the character that makes
the markers unique stands nowhere else in front of a `C`. What is left is to compare the places of
the markers with the ends of the range, along the list of the blocks.
-/

namespace TextTemplate

/-! ## Places of a pattern -/

namespace Text

/-- **A pattern stands at an offset of a text.** -/
def StandsAt (pattern cs : List Char) (n : Nat) : Prop :=
  ∃ x y, cs = x ++ pattern ++ y ∧ byteSize x = n

/-- A pattern stands in a text if it stands at some offset. -/
theorem infix_iff_exists_standsAt {pattern cs : List Char} :
    pattern <:+: cs ↔ ∃ n, StandsAt pattern cs n := by
  constructor
  · rintro ⟨x, y, rfl⟩
    exact ⟨_, x, y, rfl, rfl⟩
  · rintro ⟨n, x, y, rfl, -⟩
    exact ⟨x, y, rfl⟩

/-- **The places in a part of a text** are those places in the text from which the pattern does not
reach out of the part. -/
theorem standsAt_part (as bs : List Char) {pattern mid : List Char} {n : Nat} :
    StandsAt pattern mid n
      ↔ StandsAt pattern (as ++ mid ++ bs) (byteSize as + n)
        ∧ n + byteSize pattern ≤ byteSize mid := by
  constructor
  · rintro ⟨x, y, rfl, rfl⟩
    refine ⟨⟨as ++ x, y ++ bs, ?_, byteSize_append as x⟩, ?_⟩
    · simp only [List.append_assoc]
    · rw [byteSize_append, byteSize_append]
      omega
  · rintro ⟨⟨x, y, htext, hx⟩, hsize⟩
    -- the part in front is a front of what stands before the pattern
    rw [List.append_assoc, List.append_assoc] at htext
    obtain ⟨x', rfl⟩ : as <+: x :=
      isPrefix_of_byteSize_le ⟨mid ++ bs, rfl⟩ ⟨pattern ++ y, htext.symm⟩ (by omega)
    rw [List.append_assoc, List.append_cancel_left_eq, ← List.append_assoc] at htext
    rw [byteSize_append] at hx
    obtain ⟨y', rfl⟩ : x' ++ pattern <+: mid := by
      refine isPrefix_of_byteSize_le ⟨y, htext.symm⟩ ⟨bs, rfl⟩ ?_
      rw [byteSize_append]
      omega
    exact ⟨x', y', rfl, by omega⟩

/-- A pattern does not reach behind the end of the text. -/
theorem StandsAt.add_byteSize_le {pattern cs : List Char} {n : Nat} (h : StandsAt pattern cs n) :
    n + byteSize pattern ≤ byteSize cs := by
  obtain ⟨x, y, rfl, rfl⟩ := h
  rw [byteSize_append, byteSize_append]
  omega

/-- A pattern stands in a part of a text if it stands in the text and within the part. -/
theorem infix_part_iff (as bs : List Char) {pattern mid : List Char} :
    pattern <:+: mid
      ↔ ∃ n, StandsAt pattern (as ++ mid ++ bs) n ∧ byteSize as ≤ n
        ∧ n + byteSize pattern ≤ byteSize as + byteSize mid := by
  rw [infix_iff_exists_standsAt]
  constructor
  · rintro ⟨n, hn⟩
    obtain ⟨hplace, hsize⟩ := (standsAt_part as bs).mp hn
    exact ⟨_, hplace, by omega, by omega⟩
  · rintro ⟨n, hplace, hle, hsize⟩
    obtain ⟨k, rfl⟩ := Nat.exists_eq_add_of_le hle
    exact ⟨k, (standsAt_part as bs).mpr ⟨hplace, by omega⟩⟩

/-- What the search from the end finds begins with the pattern, and no place of it lies behind. -/
theorem exists_of_fromLast?_eq_some {pattern cs rest : List Char}
    (h : fromLast? pattern cs = some rest) :
    ∃ x, cs = x ++ rest ∧ pattern <+: rest ∧ ∀ n, StandsAt pattern cs n → n ≤ byteSize x := by
  induction cs with
  | nil =>
    rw [fromLast?] at h
    split at h
    · rename_i hempty
      cases h
      refine ⟨[], rfl, List.isEmpty_iff.mp hempty ▸ List.nil_prefix, ?_⟩
      rintro n ⟨x, y, htext, rfl⟩
      obtain ⟨hfront, -⟩ := List.append_eq_nil_iff.mp htext.symm
      obtain ⟨rfl, -⟩ := List.append_eq_nil_iff.mp hfront
      exact Nat.le_refl _
    · cases h
  | cons c cs ih =>
    rw [fromLast?] at h
    split at h
    · rename_i found hcs
      cases h
      obtain ⟨x, hx, hprefix, hlast⟩ := ih hcs
      refine ⟨c :: x, by rw [hx, List.cons_append], hprefix, ?_⟩
      rintro n ⟨x', y, htext, rfl⟩
      cases x' with
      | nil => exact Nat.zero_le _
      | cons c' x' =>
        rw [List.cons_append, List.cons_append, List.cons.injEq] at htext
        have hle := hlast (byteSize x') ⟨x', y, htext.2, rfl⟩
        rw [byteSize_cons, byteSize_cons, htext.1]
        omega
    · rename_i hnone
      split at h
      · rename_i hprefix
        cases h
        refine ⟨[], rfl, List.isPrefixOf_iff_prefix.mp hprefix, ?_⟩
        rintro n ⟨x', y, htext, rfl⟩
        cases x' with
        | nil => exact Nat.le_refl _
        | cons c' x' =>
          rw [List.cons_append, List.cons_append, List.cons.injEq] at htext
          exact absurd ⟨x', y, htext.2.symm⟩ (fromLast?_eq_none_iff.mp hnone)
      · cases h

/-- **The search from the end finds the last place of a pattern.** -/
theorem fromLast?_eq_some_iff {pattern cs rest : List Char} :
    fromLast? pattern cs = some rest
      ↔ ∃ x, cs = x ++ rest ∧ pattern <+: rest ∧ ∀ n, StandsAt pattern cs n → n ≤ byteSize x := by
  refine ⟨exists_of_fromLast?_eq_some, ?_⟩
  rintro ⟨x, rfl, ⟨y, rfl⟩, hlast⟩
  cases hfrom : fromLast? pattern (x ++ (pattern ++ y)) with
  | none =>
    exact absurd ⟨x, y, List.append_assoc x pattern y⟩ (fromLast?_eq_none_iff.mp hfrom)
  | some found =>
    -- two last places are the same one
    obtain ⟨x', htext, ⟨y', rfl⟩, hlast'⟩ := exists_of_fromLast?_eq_some hfrom
    have hle : byteSize x' ≤ byteSize x :=
      hlast _ ⟨x', y', by rw [htext, List.append_assoc], rfl⟩
    have hge : byteSize x ≤ byteSize x' :=
      hlast' _ ⟨x, y, (List.append_assoc x pattern y).symm, rfl⟩
    obtain ⟨z, rfl⟩ : x' <+: x := isPrefix_of_byteSize_le ⟨_, htext.symm⟩ ⟨_, rfl⟩ hle
    rw [byteSize_append] at hge
    obtain rfl : z = [] := byteSize_eq_zero_iff.mp (by omega)
    rw [List.append_nil, List.append_cancel_left_eq] at htext
    rw [htext]

end Text

/-! ## The search by places -/

open Text

/-- **A block is open at a range**, as far as whole markers tell: `Starts` and `Ends` say where the
markers stand, and `n` is the place of the start marker. It is the last one in front of the range,
every end marker in front of the range stands before it, no marker lies in the range, and an end
marker stands behind. -/
structure OpenAt (Starts Ends : Nat → Prop) (span : Span) (n : Nat) : Prop where
  starts : Starts n
  le_start : n + byteSize codeStart.toList ≤ span.start
  last : ∀ m, Starts m → m + byteSize codeStart.toList ≤ span.start → m ≤ n
  ends_before : ∀ m, Ends m → m + byteSize codeEnd.toList ≤ span.start → m < n
  no_start : ∀ m, Starts m → span.start ≤ m → span.stop < m + byteSize codeStart.toList
  no_end : ∀ m, Ends m → span.start ≤ m → span.stop < m + byteSize codeEnd.toList
  end_behind : ∃ m, Ends m ∧ span.stop ≤ m

namespace GeneratedUnit

/-- The search in a text that is cut at the ends of a range. -/
theorem isUserCode_iff_of_split {u : GeneratedUnit} {span : Span} {before inside after : List Char}
    (htext : u.text.toList = before ++ inside ++ after) (hstart : byteSize before = span.start)
    (hstop : byteSize before + byteSize inside = span.stop) :
    u.isUserCode span = true
      ↔ ∃ n, OpenAt (StandsAt codeStart.toList u.text.toList)
          (StandsAt codeEnd.toList u.text.toList) span n := by
  have hbefore : ∀ {pattern : List Char} {n : Nat},
      StandsAt pattern before n
        ↔ StandsAt pattern u.text.toList n ∧ n + byteSize pattern ≤ span.start := by
    intro pattern n
    rw [htext, List.append_assoc, ← hstart]
    simpa using @standsAt_part [] (inside ++ after) pattern before n
  have hinside : ∀ {pattern : List Char}, pattern <:+: inside
      ↔ ∃ n, StandsAt pattern u.text.toList n ∧ span.start ≤ n
        ∧ n + byteSize pattern ≤ span.stop := by
    intro pattern
    rw [htext, ← hstart, ← hstop]
    exact infix_part_iff before after
  have hafter : ∀ {pattern : List Char}, pattern <:+: after
      ↔ ∃ n, StandsAt pattern u.text.toList n ∧ span.stop ≤ n := by
    intro pattern
    have hpart := @infix_part_iff (before ++ inside) [] pattern after
    rw [List.append_nil, ← htext, byteSize_append, hstop] at hpart
    rw [hpart]
    refine exists_congr fun n => and_congr_right fun hn => and_iff_left ?_
    have hsize := hn.add_byteSize_le
    rw [htext, byteSize_append, byteSize_append, hstop] at hsize
    exact hsize
  rw [isUserCode_of_split htext hstart hstop, Option.any_eq_true]
  simp only [Bool.and_eq_true, Bool.not_eq_true', occursIn_eq_false_iff, occursIn_eq_true_iff,
    hinside, hafter, not_exists, not_and, Nat.not_le]
  constructor
  · rintro ⟨opened, hopened, ⟨⟨hclosed, hend⟩, hstartMarker⟩, hbehind⟩
    obtain ⟨x, hx, ⟨y, rfl⟩, hlast⟩ := fromLast?_eq_some_iff.mp hopened
    have hplace : StandsAt codeStart.toList before (byteSize x) :=
      ⟨x, y, by rw [hx, List.append_assoc], rfl⟩
    refine ⟨byteSize x, (hbefore.mp hplace).1, (hbefore.mp hplace).2,
      fun m hm hle => hlast m (hbefore.mpr ⟨hm, hle⟩), fun m hm hle => ?_, hstartMarker, hend,
      hbehind⟩
    -- an end marker that does not stand before the start marker stands in what is open
    refine Nat.lt_of_not_le fun hge => hclosed ?_
    have hend := hbefore.mpr ⟨hm, hle⟩
    rw [hx] at hend
    have hsize := hend.add_byteSize_le
    rw [byteSize_append] at hsize
    rw [← List.append_nil (x ++ _)] at hend
    exact (infix_part_iff x []).mpr ⟨m, hend, hge, hsize⟩
  · rintro ⟨n, h⟩
    obtain ⟨x, y, hx, rfl⟩ := hbefore.mpr ⟨h.starts, h.le_start⟩
    refine ⟨codeStart.toList ++ y, fromLast?_eq_some_iff.mpr ⟨x, ?_, List.prefix_append _ _, ?_⟩,
      ⟨⟨?_, h.no_end⟩, h.no_start⟩, h.end_behind⟩
    · rw [hx, List.append_assoc]
    · intro m hm
      exact h.last m (hbefore.mp hm).1 (hbefore.mp hm).2
    · intro hinfix
      obtain ⟨m, hm, hge, -⟩ := (infix_part_iff x []).mp hinfix
      rw [List.append_nil, ← List.append_assoc, ← hx] at hm
      exact Nat.not_lt.mpr hge (h.ends_before m (hbefore.mp hm).1 (hbefore.mp hm).2)

/-- **A range is taken for the author's code exactly if** its ends are boundaries in order and a block
is open at it, as far as whole markers tell. -/
theorem isUserCode_iff_openAt {u : GeneratedUnit} {span : Span} :
    u.isUserCode span = true
      ↔ span.start ≤ span.stop ∧ IsBoundary u.text span.start ∧ IsBoundary u.text span.stop
        ∧ ∃ n, OpenAt (StandsAt codeStart.toList u.text.toList)
          (StandsAt codeEnd.toList u.text.toList) span n := by
  constructor
  · intro h
    obtain ⟨before, inside, after, -, htext, hstart, hstop, -⟩ := isUserCode_eq_true_iff.mp h
    refine ⟨by omega, ⟨before, inside ++ after, ?_, hstart⟩, ⟨before ++ inside, after, htext, ?_⟩,
      (isUserCode_iff_of_split htext hstart hstop).mp h⟩
    · rw [htext, List.append_assoc]
    · rw [byteSize_append, hstop]
  · rintro ⟨hle, hstart, hstop, hopen⟩
    obtain ⟨inside, hinside⟩ := (exists_slice?_iff hle).mpr ⟨hstart, hstop⟩
    obtain ⟨before, after, htext, hbefore, hafter⟩ := slice?_eq_some_iff.mp hinside
    exact (isUserCode_iff_of_split htext hbefore hafter).mpr hopen

end GeneratedUnit

/-! ## The places of the markers in a class -/

namespace Piece

/-- **The ranges of the codes in a list of pieces**, the first of which starts at an offset. -/
def codeSpansFrom : Nat → List Piece → List Span
  | _, [] => []
  | offset, p :: ps =>
    (if p.isCode then [⟨offset, offset + p.width⟩] else []) ++ codeSpansFrom (offset + p.width) ps

/-- A range of a code starts where the pieces in front of the code end. -/
theorem mem_codeSpansFrom {offset : Nat} {ps : List Piece} {b : Span} :
    b ∈ codeSpansFrom offset ps ↔
      ∃ front p back, ps = front ++ p :: back ∧ p.isCode = true
        ∧ b = ⟨offset + widthOf front, offset + widthOf front + p.width⟩ := by
  induction ps generalizing offset with
  | nil =>
    refine ⟨nofun, ?_⟩
    rintro ⟨front, p, back, h, -⟩
    cases front <;> cases h
  | cons q ps ih =>
    rw [codeSpansFrom, List.mem_append, ih]
    constructor
    · rintro (h | ⟨front, p, back, rfl, hcode, rfl⟩)
      · split at h
        · rename_i hcode
          exact ⟨[], q, ps, rfl, hcode, List.mem_singleton.mp h⟩
        · cases h
      · refine ⟨q :: front, p, back, rfl, hcode, ?_⟩
        rw [widthOf, ← Nat.add_assoc]
    · rintro ⟨front, p, back, hps, hcode, rfl⟩
      cases front with
      | nil =>
        cases hps
        rw [if_pos hcode]
        exact Or.inl (List.mem_singleton.mpr rfl)
      | cons q' front =>
        cases hps
        refine Or.inr ⟨front, p, back, rfl, hcode, ?_⟩
        rw [widthOf, ← Nat.add_assoc]

/-- **Pieces in which the markers can be told from all else**: joiners stand in the names of plain
pieces and in the markers, and the codes have none. -/
abbrev Marked : List Piece → Prop :=
  Framed (fun p => p.isCode = false ∧ namesOnly p.text.toList = true)
    fun p => p.isCode = true ∧ joiner ∉ p.text.toList

theorem Marked.bracketed {ps : List Piece} (h : Marked ps) : Bracketed ps :=
  h.mono (fun _ hp => hp.1) fun _ _ => trivial

/-- **A character of the text is a character of a piece.** -/
theorem exists_piece_of_split {ps : List Piece} {c : Char} {u v : List Char}
    (h : (textOf ps).toList = u ++ c :: v) :
    ∃ front p back a b, ps = front ++ p :: back ∧ p.text.toList = a ++ c :: b
      ∧ u = (textOf front).toList ++ a ∧ v = b ++ (textOf back).toList := by
  induction ps generalizing u with
  | nil => cases u <;> cases h
  | cons p ps ih =>
    rw [textOf, String.toList_append] at h
    have hcases : (∃ u', u = p.text.toList ++ u' ∧ (textOf ps).toList = u' ++ c :: v)
        ∨ ∃ b, p.text.toList = u ++ c :: b ∧ v = b ++ (textOf ps).toList := by
      rcases List.append_eq_append_iff.mp h with hlater | ⟨rest, hp, hrest⟩
      · exact Or.inl hlater
      · cases rest with
        | nil => exact Or.inl ⟨[], by rw [hp, List.append_nil, List.append_nil], hrest.symm⟩
        | cons c' b =>
          cases hrest
          exact Or.inr ⟨b, hp, rfl⟩
    rcases hcases with ⟨u', rfl, hrest⟩ | ⟨b, hp, rfl⟩
    · obtain ⟨front, q, back, a, b, rfl, hq, rfl, hv⟩ := ih hrest
      refine ⟨p :: front, q, back, a, b, rfl, hq, ?_, hv⟩
      rw [textOf, String.toList_append, List.append_assoc]
    · exact ⟨[], p, ps, u, b, rfl, hp, rfl, rfl⟩

/-- What a piece of a class is: a text of names, or one of the two markers of a block. -/
theorem Marked.cases {ps front back : List Piece} {p : Piece} (h : Marked ps)
    (hps : ps = front ++ p :: back) :
    namesOnly p.text.toList = true
      ∨ (p = .fixed codeStart ∧ ∃ q back', back = q :: back' ∧ q.isCode = true)
      ∨ (p = .fixed codeEnd ∧ ∃ front' q, front = front' ++ [q] ∧ q.isCode = true) := by
  induction h generalizing front with
  | nil => cases front <;> cases hps
  | plain hq _ ih =>
    cases front with
    | nil =>
      cases hps
      exact Or.inl hq.2
    | cons q front =>
      cases hps
      rcases ih rfl with hnames | hstart | ⟨hend, front', q', rfl, hcode⟩
      · exact Or.inl hnames
      · exact Or.inr (Or.inl hstart)
      · exact Or.inr (Or.inr ⟨hend, _ :: front', q', rfl, hcode⟩)
  | block hq _ ih =>
    rcases front with _ | ⟨q, _ | ⟨q', _ | ⟨q'', front⟩⟩⟩
    · cases hps
      exact Or.inr (Or.inl ⟨rfl, _, _, rfl, hq.1⟩)
    · cases hps
      exact Or.inl (namesOnly_of_notMem hq.2)
    · cases hps
      exact Or.inr (Or.inr ⟨rfl, [_], _, rfl, hq.1⟩)
    · cases hps
      rcases ih rfl with hnames | hstart | ⟨hend, front', q', rfl, hcode⟩
      · exact Or.inl hnames
      · exact Or.inr (Or.inl hstart)
      · exact Or.inr (Or.inr ⟨hend, _ :: _ :: _ :: front', q', rfl, hcode⟩)

/-- **A marker is a piece of its own.** Where the front of a marker stands with its joiner and a `C`
behind it, one of the two markers of a block stands as a piece. -/
theorem Marked.exists_marker {ps : List Piece} (h : Marked ps) {x y tail : List Char}
    (htext : (textOf ps).toList = x ++ ("/*_T4".toList ++ joiner :: 'C' :: tail) ++ y) :
    ∃ front p back, ps = front ++ p :: back ∧ byteSize x = widthOf front
      ∧ ((p = .fixed codeStart ∧ 'C' :: tail ++ y = "CodeStart_*/".toList ++ (textOf back).toList
            ∧ ∃ q back', back = q :: back' ∧ q.isCode = true)
          ∨ (p = .fixed codeEnd ∧ 'C' :: tail ++ y = "CodeEnd_*/".toList ++ (textOf back).toList
            ∧ ∃ front' q, front = front' ++ [q] ∧ q.isCode = true)) := by
  have hsplit : (textOf ps).toList = (x ++ "/*_T4".toList) ++ joiner :: ('C' :: tail ++ y) := by
    rw [htext]
    simp only [List.append_assoc, List.cons_append]
  obtain ⟨front, p, back, a, b, rfl, hp, hfront, hback⟩ := exists_piece_of_split hsplit
  -- the joiner of a marker has the same characters in front of it, so they start together
  have hstart : a = "/*_T4".toList → byteSize x = widthOf front := by
    rintro rfl
    rw [List.append_cancel_right hfront, byteSize_textOf]
  refine ⟨front, p, back, rfl, ?_⟩
  rcases h.cases rfl with hnames | ⟨rfl, hq⟩ | ⟨rfl, hq⟩
  · have hhead := head?_of_namesOnly hnames hp
    cases b with
    | nil => cases hhead
    | cons c b =>
      cases hhead
      cases hback
  · change codeStart.toList = _ at hp
    rw [codeStart_toList] at hp
    obtain ⟨ha, -, hb⟩ := (List.append_cons_inj_of_notMem (by decide) (by decide)).mp hp
    exact ⟨hstart ha.symm, Or.inl ⟨rfl, hb ▸ hback, hq⟩⟩
  · change codeEnd.toList = _ at hp
    rw [codeEnd_toList] at hp
    obtain ⟨ha, -, hb⟩ := (List.append_cons_inj_of_notMem (by decide) (by decide)).mp hp
    exact ⟨hstart ha.symm, Or.inr ⟨rfl, hb ▸ hback, hq⟩⟩

/-- **The start markers of a class stand right before the codes.** -/
theorem Marked.standsAt_codeStart_iff {ps : List Piece} (h : Marked ps) {n : Nat} :
    StandsAt codeStart.toList (textOf ps).toList n
      ↔ ∃ b ∈ codeSpansFrom 0 ps, n + byteSize codeStart.toList = b.start := by
  constructor
  · rintro ⟨x, y, htext, rfl⟩
    rw [codeStart_toList] at htext
    obtain ⟨front, p, back, rfl, hx, ⟨rfl, -, q, back', rfl, hcode⟩ | ⟨-, hchars, -⟩⟩ :=
      h.exists_marker htext
    · refine ⟨_, mem_codeSpansFrom.mpr
        ⟨front ++ [.fixed codeStart], q, back', List.append_cons _ _ _, hcode, rfl⟩, ?_⟩
      show byteSize x + byteSize codeStart.toList = 0 + widthOf (front ++ [.fixed codeStart])
      rw [hx, byteSize_toList, Nat.zero_add, widthOf_append]
      rfl
    · -- an end marker goes on with another character
      cases congrArg (fun cs => cs[4]?) hchars
  · rintro ⟨b, hb, hn⟩
    obtain ⟨front, p, back, rfl, hcode, rfl⟩ := mem_codeSpansFrom.mp hb
    obtain ⟨front, back, rfl, rfl⟩ := h.bracketed.exists_markers rfl hcode
    rw [List.append_assoc]
    refine ⟨_, _, toList_textOf_split front (.fixed codeStart) _, ?_⟩
    have hwidth : widthOf (front ++ [.fixed codeStart])
        = widthOf front + byteSize codeStart.toList := by
      rw [widthOf_append, byteSize_toList]
      rfl
    rw [byteSize_textOf]
    dsimp only at hn
    omega

/-- **The end markers of a class stand right behind the codes.** -/
theorem Marked.standsAt_codeEnd_iff {ps : List Piece} (h : Marked ps) {n : Nat} :
    StandsAt codeEnd.toList (textOf ps).toList n ↔ ∃ b ∈ codeSpansFrom 0 ps, b.stop = n := by
  constructor
  · rintro ⟨x, y, htext, rfl⟩
    rw [codeEnd_toList] at htext
    obtain ⟨front, p, back, rfl, hx, ⟨-, hchars, -⟩ | ⟨rfl, -, front', q, rfl, hcode⟩⟩ :=
      h.exists_marker htext
    · cases congrArg (fun cs => cs[4]?) hchars
    · refine ⟨_, mem_codeSpansFrom.mpr
        ⟨front', q, .fixed codeEnd :: back, (List.append_cons _ _ _).symm, hcode, rfl⟩, ?_⟩
      show 0 + widthOf front' + q.width = byteSize x
      rw [hx, widthOf_append, Nat.zero_add]
      rfl
  · rintro ⟨b, hb, rfl⟩
    obtain ⟨front, p, back, rfl, hcode, rfl⟩ := mem_codeSpansFrom.mp hb
    obtain ⟨front, back, rfl, rfl⟩ := h.bracketed.exists_markers rfl hcode
    rw [List.append_cons _ p]
    refine ⟨_, _, toList_textOf_split _ (.fixed codeEnd) back, ?_⟩
    rw [byteSize_textOf, widthOf_append, Nat.zero_add]
    rfl

/-- A text can be cut where a piece can be cut. -/
theorem isBoundary_of_parts (front : List Piece) (p : Piece) (back : List Piece)
    {as bs : List Char} (hparts : p.text.toList = as ++ bs) :
    IsBoundary (textOf (front ++ p :: back)) (widthOf front + byteSize as) := by
  refine ⟨(textOf front).toList ++ as, bs ++ (textOf back).toList, ?_, ?_⟩
  · rw [toList_textOf_split, hparts]
    simp only [List.append_assoc]
  · rw [byteSize_append, byteSize_textOf]

/-- The code of a block starts behind a start marker. -/
theorem Marked.le_start_of_mem {ps : List Piece} (h : Marked ps) {offset : Nat} {b : Span}
    (hb : b ∈ codeSpansFrom offset ps) :
    offset + byteSize codeStart.toList ≤ b.start ∧ b.start ≤ b.stop := by
  obtain ⟨front, p, back, rfl, hcode, rfl⟩ := mem_codeSpansFrom.mp hb
  obtain ⟨front, back, rfl, -⟩ := h.bracketed.exists_markers rfl hcode
  have hwidth : widthOf (front ++ [.fixed codeStart])
      = widthOf front + byteSize codeStart.toList := by
    rw [widthOf_append, byteSize_toList]
    rfl
  dsimp only
  omega

/-- **The codes of a class come one after another**, with two markers between them. -/
theorem Marked.pairwise_codeSpansFrom {ps : List Piece} (h : Marked ps) (offset : Nat) :
    (codeSpansFrom offset ps).Pairwise fun a b =>
      a.stop + byteSize codeEnd.toList + byteSize codeStart.toList ≤ b.start := by
  induction h generalizing offset with
  | nil => exact List.Pairwise.nil
  | plain hp _ ih =>
    rw [codeSpansFrom, hp.1]
    exact ih _
  | block hp hps ih =>
    rw [codeSpansFrom, codeSpansFrom, codeSpansFrom, hp.1]
    refine List.pairwise_cons.mpr ⟨fun b hb => ?_, ih _⟩
    rw [byteSize_toList codeEnd]
    exact (Marked.le_start_of_mem hps hb).1

end Piece

/-! ## Comparing the places with a range -/

/-- **A range cuts the end marker of a block** of which `b` is the code, and `next` that of the next
block: it starts in the code or in the marker, ends in the marker or behind it, but does not have
the marker as a whole and ends before the next start marker does. -/
structure CutsEndMarker (b next span : Span) : Prop where
  start_le : b.start ≤ span.start
  start_lt : span.start < b.stop + byteSize codeEnd.toList
  lt_stop : b.stop < span.stop
  stop_lt : span.stop < next.start
  cuts : span.start ≤ b.stop → span.stop < b.stop + byteSize codeEnd.toList

section Blocks

variable {blocks : List Span} {span : Span}
  (hfit : ∀ b ∈ blocks, byteSize codeStart.toList ≤ b.start ∧ b.start ≤ b.stop)

include hfit

/-- A block is open at a range if the range starts in its code or in its end marker, does not have
the marker, and lies between the blocks in front and those behind. -/
theorem openAt_of_between {b : Span} (hb : b ∈ blocks) (hspan : span.start ≤ span.stop)
    (hstart : b.start ≤ span.start) (hopen : span.start < b.stop + byteSize codeEnd.toList)
    (hcuts : span.start ≤ b.stop → span.stop < b.stop + byteSize codeEnd.toList)
    (hothers : ∀ c ∈ blocks, c = b
      ∨ c.stop + byteSize codeEnd.toList + byteSize codeStart.toList ≤ b.start
      ∨ span.stop < c.start)
    (hbehind : ∃ c ∈ blocks, span.stop ≤ c.stop) :
    OpenAt (fun n => ∃ c ∈ blocks, n + byteSize codeStart.toList = c.start)
      (fun n => ∃ c ∈ blocks, c.stop = n) span (b.start - byteSize codeStart.toList) := by
  have hsize : 0 < byteSize codeStart.toList ∧ 0 < byteSize codeEnd.toList := by decide
  obtain ⟨hbstart, -⟩ := hfit b hb
  refine ⟨⟨b, hb, by omega⟩, by omega, ?_, ?_, ?_, ?_, ?_⟩
  · rintro m ⟨c, hc, hm⟩ hle
    have hcfit := hfit c hc
    rcases hothers c hc with rfl | hfront | hback <;> omega
  · rintro m ⟨c, hc, rfl⟩ hle
    have hcfit := hfit c hc
    rcases hothers c hc with rfl | hfront | hback <;> omega
  · rintro m ⟨c, hc, hm⟩ hle
    have hcfit := hfit c hc
    rcases hothers c hc with rfl | hfront | hback <;> omega
  · rintro m ⟨c, hc, rfl⟩ hle
    have hcfit := hfit c hc
    rcases hothers c hc with rfl | hfront | hback
    · exact hcuts hle
    · omega
    · omega
  · obtain ⟨c, hc, hle⟩ := hbehind
    exact ⟨c.stop, ⟨c, hc, rfl⟩, hle⟩

variable (hblocks : blocks.Pairwise fun a b =>
  a.stop + byteSize codeEnd.toList + byteSize codeStart.toList ≤ b.start)

include hblocks

/-- **At which ranges a block is open**, as far as whole markers tell: at those in the code of a block,
and at those that cut the end marker of a block that is not the last one. -/
theorem exists_openAt_iff (hspan : span.start ≤ span.stop) :
    (∃ n, OpenAt (fun n => ∃ c ∈ blocks, n + byteSize codeStart.toList = c.start)
        (fun n => ∃ c ∈ blocks, c.stop = n) span n)
      ↔ (∃ b ∈ blocks, b.start ≤ span.start ∧ span.stop ≤ b.stop)
        ∨ ∃ front b next back, blocks = front ++ b :: next :: back ∧ CutsEndMarker b next span := by
  have hsize : 0 < byteSize codeStart.toList ∧ 0 < byteSize codeEnd.toList := by decide
  constructor
  · rintro ⟨n, h⟩
    obtain ⟨b, hb, hn⟩ := h.starts
    have hle := h.le_start
    have hstart : b.start ≤ span.start := by omega
    have hbfit := hfit b hb
    have hopen : span.start < b.stop + byteSize codeEnd.toList := by
      refine Nat.lt_of_not_le fun hclosed => ?_
      have hbefore := h.ends_before b.stop ⟨b, hb, rfl⟩ hclosed
      omega
    by_cases hstop : span.stop ≤ b.stop
    · exact Or.inl ⟨b, hb, hstart, hstop⟩
    · -- the end marker behind the range is that of a later block
      obtain ⟨-, ⟨later, hlater, rfl⟩, hbehind⟩ := h.end_behind
      obtain ⟨front, back, rfl⟩ := List.append_of_mem hb
      obtain ⟨-, hback, hfront⟩ := List.pairwise_append.mp hblocks
      have hmem : later ∈ back := by
        rcases List.mem_append.mp hlater with hmem | hmem
        · have := hfront later hmem b List.mem_cons_self
          omega
        · rcases List.mem_cons.mp hmem with rfl | hmem
          · omega
          · exact hmem
      cases back with
      | nil => cases hmem
      | cons next back =>
        have hnext := (List.pairwise_cons.mp hback).1 next List.mem_cons_self
        have hnextMem : next ∈ front ++ b :: next :: back := by simp
        have hno := h.no_start (next.start - byteSize codeStart.toList)
          ⟨next, hnextMem, by omega⟩ (by omega)
        exact Or.inr ⟨front, b, next, back, rfl, hstart, hopen, by omega, by omega,
          h.no_end b.stop ⟨b, hb, rfl⟩⟩
  · rintro (⟨b, hb, hstart, hstop⟩ | ⟨front, b, next, back, rfl, hcut⟩)
    · refine ⟨_, openAt_of_between hfit hb hspan hstart (by omega) (by omega) ?_ ⟨b, hb, hstop⟩⟩
      intro c hc
      obtain ⟨front, back, rfl⟩ := List.append_of_mem hb
      obtain ⟨-, hback, hfront⟩ := List.pairwise_append.mp hblocks
      rcases List.mem_append.mp hc with hmem | hmem
      · exact Or.inr (Or.inl (hfront c hmem b List.mem_cons_self))
      · rcases List.mem_cons.mp hmem with rfl | hmem
        · exact Or.inl rfl
        · have := (List.pairwise_cons.mp hback).1 c hmem
          exact Or.inr (Or.inr (by omega))
    · obtain ⟨-, hback, hfront⟩ := List.pairwise_append.mp hblocks
      obtain ⟨-, hnext⟩ := List.pairwise_cons.mp hback
      have hstop := hcut.stop_lt
      have hnextFit := hfit next (by simp)
      refine ⟨_, openAt_of_between hfit (by simp) hspan hcut.start_le hcut.start_lt hcut.cuts ?_
        ⟨next, by simp, by omega⟩⟩
      intro c hc
      rcases List.mem_append.mp hc with hmem | hmem
      · exact Or.inr (Or.inl (hfront c hmem b List.mem_cons_self))
      · rcases List.mem_cons.mp hmem with rfl | hmem
        · exact Or.inl rfl
        · rcases List.mem_cons.mp hmem with rfl | hmem
          · exact Or.inr (Or.inr hstop)
          · have := (List.pairwise_cons.mp hnext).1 c hmem
            exact Or.inr (Or.inr (by omega))

end Blocks

/-- **The search in a text of pieces** takes for code the ranges in a code and those that cut the end
marker behind a code, unless it is the last one. -/
theorem GeneratedUnit.isUserCode_ofPieces_iff {ps : List Piece} (h : Piece.Marked ps) {span : Span} :
    (GeneratedUnit.ofPieces ps).isUserCode span = true
      ↔ span.start ≤ span.stop ∧ IsBoundary (Piece.textOf ps) span.start
        ∧ IsBoundary (Piece.textOf ps) span.stop
        ∧ ((∃ b ∈ Piece.codeSpansFrom 0 ps, b.start ≤ span.start ∧ span.stop ≤ b.stop)
          ∨ ∃ front b next back, Piece.codeSpansFrom 0 ps = front ++ b :: next :: back
            ∧ CutsEndMarker b next span) := by
  have hstarts : StandsAt codeStart.toList (GeneratedUnit.ofPieces ps).text.toList
      = fun n => ∃ b ∈ Piece.codeSpansFrom 0 ps, n + byteSize codeStart.toList = b.start := by
    funext n
    exact propext h.standsAt_codeStart_iff
  have hends : StandsAt codeEnd.toList (GeneratedUnit.ofPieces ps).text.toList
      = fun n => ∃ b ∈ Piece.codeSpansFrom 0 ps, b.stop = n := by
    funext n
    exact propext h.standsAt_codeEnd_iff
  have hfit : ∀ b ∈ Piece.codeSpansFrom 0 ps,
      byteSize codeStart.toList ≤ b.start ∧ b.start ≤ b.stop := by
    intro b hb
    have hle := h.le_start_of_mem hb
    exact ⟨by omega, hle.2⟩
  rw [isUserCode_iff_openAt, hstarts, hends]
  refine and_congr_right fun hspan => and_congr_right fun _ => and_congr_right fun _ => ?_
  exact exists_openAt_iff hfit (h.pairwise_codeSpansFrom 0) hspan

namespace Generation

open Visit

/-- The fixed texts from the body of the method on have joiners in names only, but for the markers.
-/
theorem namesOnly_of_mem_tailScaffold : ∀ p ∈ tailScaffold, namesOnly p.text.toList = true := by
  have hhelper : namesOnly toStringHelper.toList = true := namesOnly_toList_ofList (by decide)
  unfold tailScaffold
  simp only [List.forall_mem_cons]
  refine ⟨namesOnly_toList_append
      (namesOnly_toList_append (namesOnly_toList_ofList (by decide)) hhelper)
      (namesOnly_toList_ofList (by decide)),
    namesOnly_line (namesOnly_toList_ofList (by decide)), namesOnly_toList_ofList (by decide),
    namesOnly_line (namesOnly_toList_ofList (by decide)),
    namesOnly_line (namesOnly_toList_ofList (by decide)), List.forall_mem_nil _⟩

/-- **The markers of a class can be told from all else**, if nothing that was copied has a joiner. -/
theorem marked_layout {schema : Schema} {mode : Mode} {d : Document}
    (h : ∀ text ∈ copiedTexts schema mode d, joiner ∉ text.toList) :
    Piece.Marked (layout schema mode d) := by
  refine framed_layout ?_ ?_ ?_
  · intro p hp
    refine ⟨?_, namesOnly_of_mem_tailScaffold p hp⟩
    revert p
    simp [tailScaffold, line, Piece.isCode]
  · intro p hp
    exact ⟨isCode_of_mem_head p hp, namesOnly_of_mem_head h p hp⟩
  · intro v hv kind token hblock
    have htoken : token ∈ v.copiedTokens schema := by simp [copiedTokens, hblock]
    exact ⟨rfl, joiner_notMem_of_mem_copiedTokens h hv htoken⟩

/-- **Which ranges of a class are taken for the author's code.** Let no text that the class of a
template takes over have a joiner, and let the blocks be the ranges of the codes in the class, in the
order of the text. Start markers stand right before them and end markers right behind them, and
nowhere else. A range is taken for code exactly if its ends are boundaries in order and one of two
things holds:

* it lies between the start marker and the end marker of one block;
* it cuts the end marker of a block that is not the last one, and has no marker as a whole. -/
theorem isUserCode_iff_inside_or_cutsEndMarker (schema : Schema) (mode : Mode) (d : Document)
    (h : ∀ text ∈ copiedTexts schema mode d, joiner ∉ text.toList) :
    ∃ unit blocks, generate schema mode Stop.never d = .ok unit
      ∧ blocks = Piece.codeSpansFrom 0 (layout schema mode d)
      ∧ (∀ n, StandsAt codeStart.toList unit.text.toList n
          ↔ ∃ b ∈ blocks, n + byteSize codeStart.toList = b.start)
      ∧ (∀ n, StandsAt codeEnd.toList unit.text.toList n ↔ ∃ b ∈ blocks, b.stop = n)
      ∧ ∀ span, unit.isUserCode span = true
        ↔ span.start ≤ span.stop ∧ IsBoundary unit.text span.start ∧ IsBoundary unit.text span.stop
          ∧ ((∃ b ∈ blocks, b.start ≤ span.start ∧ span.stop ≤ b.stop)
            ∨ ∃ front b next back, blocks = front ++ b :: next :: back
              ∧ CutsEndMarker b next span) := by
  have hmarked := marked_layout h
  exact ⟨_, _, generate_eq_ofPieces_layout schema mode d, rfl,
    fun _ => hmarked.standsAt_codeStart_iff, fun _ => hmarked.standsAt_codeEnd_iff,
    fun _ => GeneratedUnit.isUserCode_ofPieces_iff hmarked⟩

/-- A template with two statements. -/
def twoStatements : Document where
  fileId := 0
  path := "two.tt"
  source := "<# a #><# b #>"
  nodes :=
    [.codeBlock { kind := .statement, code := some ⟨" a ", ⟨2, 5⟩⟩, span := ⟨0, 7⟩ },
      .codeBlock { kind := .statement, code := some ⟨" b ", ⟨9, 12⟩⟩, span := ⟨7, 14⟩ }]

/-- Where its two codes stand in the class. -/
theorem codeSpansFrom_twoStatements :
    Piece.codeSpansFrom 0 (layout .standard .designTime twoStatements)
      = [⟨396, 399⟩, ⟨438, 441⟩] := by
  decide +kernel

/-- The copied texts of the two statements have no joiners. -/
theorem joiner_notMem_twoStatements :
    ∀ text ∈ copiedTexts .standard .designTime twoStatements, joiner ∉ text.toList := by
  decide +kernel

/-- The class can be cut at the start of the first code and behind its first character, and so it can
at the start of the end marker and behind the first character of that. -/
theorem isBoundary_twoStatements {n : Nat} (hn : n ∈ [396, 397, 399, 400]) :
    IsBoundary (Piece.textOf (layout .standard .designTime twoStatements)) n := by
  have hsplit : layout .standard .designTime twoStatements
      = (layout .standard .designTime twoStatements).take 8 ++ .code " a " ⟨0, ⟨2, 5⟩⟩ ::
        .fixed codeEnd :: (layout .standard .designTime twoStatements).drop 10 := by
    decide +kernel
  have hwidth : Piece.widthOf ((layout .standard .designTime twoStatements).take 8) = 396 := by
    decide +kernel
  generalize (layout .standard .designTime twoStatements).take 8 = front at hsplit hwidth
  generalize (layout .standard .designTime twoStatements).drop 10 = back at hsplit
  rw [hsplit]
  have hcode := fun as bs => @Piece.isBoundary_of_parts front (.code " a " ⟨0, ⟨2, 5⟩⟩)
    (.fixed codeEnd :: back) as bs
  have hend := fun as bs => @Piece.isBoundary_of_parts (front ++ [.code " a " ⟨0, ⟨2, 5⟩⟩])
    (.fixed codeEnd) back as bs
  rw [hwidth] at hcode
  rw [← List.append_cons, Piece.widthOf_append, hwidth] at hend
  simp only [List.mem_cons, List.not_mem_nil, or_false] at hn
  rcases hn with rfl | rfl | rfl | rfl
  · exact hcode [] " a ".toList rfl
  · exact hcode " ".toList "a ".toList rfl
  · exact hend [] codeEnd.toList rfl
  · exact hend "/".toList ("*_T4".toList ++ joiner :: "CodeEnd_*/".toList) (by decide)

/-- The first code as a whole is taken for code, and what reaches over the end marker is not. -/
theorem isUserCode_iff_inside_or_cutsEndMarker_twoStatements :
    (∀ text ∈ copiedTexts .standard .designTime twoStatements, joiner ∉ text.toList)
      ∧ ∃ unit, generate .standard .designTime Stop.never twoStatements = .ok unit
        ∧ unit.isUserCode ⟨396, 399⟩ = true ∧ unit.isUserCode ⟨398, 417⟩ = false := by
  obtain ⟨unit, blocks, hunit, hblocks, -, -, huser⟩ :=
    isUserCode_iff_inside_or_cutsEndMarker .standard .designTime twoStatements
      joiner_notMem_twoStatements
  rw [codeSpansFrom_twoStatements] at hblocks
  have htext := generate_eq_ofPieces_layout .standard .designTime twoStatements
  rw [hunit, Except.ok.injEq] at htext
  refine ⟨joiner_notMem_twoStatements, unit, hunit, (huser _).mpr ?_, ?_⟩
  · rw [htext]
    exact ⟨by decide, isBoundary_twoStatements (by simp), isBoundary_twoStatements (by simp),
      Or.inl ⟨⟨396, 399⟩, by simp [hblocks], by decide⟩⟩
  · refine Bool.eq_false_iff.mpr fun htrue => ?_
    rcases ((huser _).mp htrue).2.2.2 with
      ⟨b, hb, hstart, hstop⟩ | ⟨front, b, next, back, hsplit, hcut⟩
    · rw [hblocks] at hb
      revert b
      decide
    · -- the two blocks are the only ones that come one after the other
      rw [hblocks] at hsplit
      rcases front with _ | ⟨c, _ | ⟨c', front⟩⟩
      · cases hsplit
        exact absurd (hcut.cuts (by decide)) (by decide)
      · cases hsplit
      · cases front <;> cases hsplit

/-- **A range that ends in an end marker may be taken for code**: the last two characters of the first
code and the first one of its end marker lie in no code, and yet they are taken for code, since the
marker is cut and the end marker of the second block stands behind. -/
theorem isUserCode_twoStatements :
    (∀ text ∈ copiedTexts .standard .designTime twoStatements, joiner ∉ text.toList)
      ∧ ∃ unit, generate .standard .designTime Stop.never twoStatements = .ok unit
        ∧ unit.isUserCode ⟨397, 400⟩ = true
        ∧ ¬∃ b ∈ Piece.codeSpansFrom 0 (layout .standard .designTime twoStatements),
            b.start ≤ 397 ∧ 400 ≤ b.stop := by
  refine ⟨joiner_notMem_twoStatements, _, generate_eq_ofPieces_layout _ _ _, ?_, ?_⟩
  · refine (GeneratedUnit.isUserCode_ofPieces_iff (marked_layout joiner_notMem_twoStatements)).mpr
      ⟨by decide, isBoundary_twoStatements (by simp), isBoundary_twoStatements (by simp), Or.inr ?_⟩
    exact ⟨[], ⟨396, 399⟩, ⟨438, 441⟩, [], codeSpansFrom_twoStatements,
      by decide, by decide, by decide, by decide, by decide⟩
  · rw [codeSpansFrom_twoStatements]
    decide

end Generation

end TextTemplate
