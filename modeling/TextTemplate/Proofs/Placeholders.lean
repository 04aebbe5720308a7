import TextTemplate.Dependency.Placeholder
import TextTemplate.Proofs.References

/-!
# The placeholders of a text

Placeholders are looked for from left to right. What is found can be said without the search: the
name of a placeholder is found exactly if the placeholder stands somewhere in the text
(`mem_names_iff`), after however many false starts.

The reason is that a placeholder starts with a sign that occurs nowhere else in a placeholder. So a
text can be cut in front of every such sign, and the pieces of the text are those of the two parts
(`pieces_append_dollar`). With this the first of the names that have a property is the one that
stands furthest to the left (`find?_names_eq_some_iff`). All this holds for any class of characters
that has none of the signs around a name.
-/

namespace TextTemplate.Reference.Form

/-- **A reference to the name stands in the text.** -/
def OccursIn (form : Form) (name text : String) : Prop :=
  form.IsName name.toList ∧ form.written name.toList <:+: text.toList

/-- **A reference to the name stands in the text, and none to a name that has a property stands
further to the left.** -/
def IsFirst (form : Form) (p : String → Bool) (name text : String) : Prop :=
  form.IsName name.toList ∧ ∃ front back, text.toList = front ++ form.written name.toList ++ back
    ∧ ∀ other front' back', form.IsName other.toList →
      text.toList = front' ++ form.written other.toList ++ back' → p other = true →
      front.length ≤ front'.length

end TextTemplate.Reference.Form

namespace TextTemplate.Placeholder

open Reference Reference.Form

variable {word : WordClass}

/-! ## One placeholder -/

/-- **The sign in front of a placeholder stands nowhere else in it.** -/
theorem dollar_notMem {name : List Char} (h : (formOf word).IsName name) :
    '$' ∉ '(' :: (name ++ [')']) := by
  have hname : '$' ∉ name := by
    intro hmem
    have hword : word.contains '$' = true := h.2 '$' hmem
    rw [word.dollar] at hword
    cases hword
  simp only [List.mem_cons, List.mem_append, List.not_mem_nil, or_false, hname, false_or]
  decide

/-- A placeholder that starts in front of such a sign ends in front of it. -/
theorem read?_append_dollar {cs : List Char} (hne : cs ≠ []) (rest : List Char) :
    (formOf word).read? (cs ++ '$' :: rest)
      = ((formOf word).read? cs).map fun r => (r.1, r.2 ++ '$' :: rest) := by
  cases hread : (formOf word).read? cs with
  | some r =>
    obtain ⟨name, rest'⟩ := r
    obtain ⟨hname, rfl⟩ := read?_eq_some_iff.mp hread
    exact read?_eq_some_iff.mpr ⟨hname, List.append_assoc _ _ _⟩
  | none =>
    show _ = none
    refine Option.eq_none_iff_forall_ne_some.mpr ?_
    rintro ⟨name, rest'⟩ hsome
    obtain ⟨hname, htext⟩ := read?_eq_some_iff.mp hsome
    -- the placeholder ends behind the cut, and then the sign at the cut stands in it
    rcases List.append_eq_append_iff.mp htext with ⟨more, hmore, hrest⟩ | ⟨more, hmore, -⟩
    · cases more with
      | nil =>
        rw [List.append_nil] at hmore
        have hcs : (formOf word).read? cs = some (name, []) :=
          read?_eq_some_iff.mpr ⟨hname, by rw [hmore, List.append_nil]⟩
        rw [hread] at hcs
        cases hcs
      | cons c more =>
        obtain ⟨d, cs', rfl⟩ := List.exists_cons_of_ne_nil hne
        rw [List.cons_append, List.cons.injEq] at hrest
        have htail : '(' :: (name ++ [')']) = cs' ++ c :: more := (List.cons.inj hmore).2
        refine dollar_notMem hname ?_
        rw [htail, ← hrest.1]
        exact List.mem_append_right _ List.mem_cons_self
    · have hcs : (formOf word).read? cs = some (name, more) :=
        read?_eq_some_iff.mpr ⟨hname, hmore⟩
      rw [hread] at hcs
      cases hcs

/-! ## All pieces -/

/-- **A text can be cut in front of the sign of a placeholder.** -/
theorem pieces_append_dollar (cs rest : List Char) :
    (formOf word).pieces (cs ++ '$' :: rest)
      = (formOf word).pieces cs ++ (formOf word).pieces ('$' :: rest) := by
  induction cs using pieces.induct (formOf word) with
  | case1 cs name rest' hread _ ih =>
    have hne : cs ≠ [] := by
      rintro rfl
      rw [read?_nil] at hread
      cases hread
    have hlong : (formOf word).read? (cs ++ '$' :: rest) = some (name, rest' ++ '$' :: rest) := by
      rw [read?_append_dollar hne, hread]
      rfl
    rw [pieces_of_read? hread, pieces_of_read? hlong, ih, List.cons_append]
  | case2 hread => rw [pieces_nil, List.nil_append, List.nil_append]
  | case3 c cs hread ih =>
    have hlong : (formOf word).read? (c :: (cs ++ '$' :: rest)) = none := by
      rw [← List.cons_append, read?_append_dollar (List.cons_ne_nil c cs), hread]
      rfl
    rw [pieces_cons_of_read? hread, List.cons_append, pieces_cons_of_read? hlong, ih,
      List.cons_append]

/-- **A placeholder that stands in a text is one of its pieces.** -/
theorem pieces_append_written (front : List Char) {name : List Char}
    (h : (formOf word).IsName name) (back : List Char) :
    (formOf word).pieces (front ++ (formOf word).written name ++ back)
      = (formOf word).pieces front ++ .reference name :: (formOf word).pieces back := by
  have hpieces : (formOf word).pieces ((formOf word).written name ++ back)
      = .reference name :: (formOf word).pieces back :=
    pieces_of_read? (read?_eq_some_iff.mpr ⟨h, rfl⟩)
  rw [List.append_assoc, ← hpieces]
  exact pieces_append_dollar front _

/-! ## Names -/

/-- **The placeholders that are found are those that stand in the text.** -/
theorem mem_names_iff {name text : String} :
    name ∈ (formOf word).names text ↔ (formOf word).OccursIn name text := by
  rw [names_eq, List.mem_map]
  simp only [mem_names_cut]
  constructor
  · rintro ⟨cs, hpiece, rfl⟩
    rw [OccursIn, String.toList_ofList]
    refine ⟨isName_of_mem_pieces hpiece, ?_⟩
    obtain ⟨xs, ys, hpieces⟩ := List.append_of_mem hpiece
    have htext := flatMap_fill_pieces (formOf word) text.toList
    rw [hpieces, List.flatMap_append, List.flatMap_cons, ← List.append_assoc] at htext
    exact ⟨_, _, htext⟩
  · rintro ⟨hname, front, back, htext⟩
    refine ⟨name.toList, ?_, String.ofList_toList⟩
    rw [← htext, pieces_append_written front hname back]
    exact List.mem_append_right _ List.mem_cons_self

/-- The text of a longer list of pieces is longer. -/
theorem length_flatMap_fill_le {f : List Char → List Char} {xs ys : List Reference.Piece}
    (h : xs <+: ys) :
    (xs.flatMap (Reference.Piece.fill f)).length ≤ (ys.flatMap (Reference.Piece.fill f)).length := by
  obtain ⟨zs, rfl⟩ := h
  rw [List.flatMap_append, List.length_append]
  exact Nat.le_add_right _ _

/-- **A placeholder that is none of the first pieces of a text stands behind them**, wherever it
stands. -/
theorem length_fill_le {xs ys : List Reference.Piece} {cs : List Char} {piece : Reference.Piece}
    {front back : List Char} {name : List Char}
    (hpieces : (formOf word).pieces cs = xs ++ piece :: ys) (hname : (formOf word).IsName name)
    (hcs : cs = front ++ (formOf word).written name ++ back) (hmem : .reference name ∉ xs) :
    (xs.flatMap (Reference.Piece.fill (formOf word).written)).length ≤ front.length := by
  have hsplit : (formOf word).pieces cs
      = (formOf word).pieces front ++ .reference name :: (formOf word).pieces back := by
    rw [hcs, pieces_append_written front hname back]
  have hfront : xs <+: (formOf word).pieces cs := ⟨_, hpieces.symm⟩
  rcases List.prefix_or_prefix_of_prefix hfront ⟨_, hsplit.symm⟩ with hxs | ⟨zs, hzs⟩
  · refine Nat.le_trans (length_flatMap_fill_le hxs) (Nat.le_of_eq ?_)
    rw [flatMap_fill_pieces]
  · -- what the split has in front is followed by the placeholder, so it is all of `xs`
    cases zs with
    | nil =>
      refine Nat.le_of_eq ?_
      rw [← hzs, List.append_nil, flatMap_fill_pieces]
    | cons z zs =>
      rw [hpieces, ← hzs, List.append_assoc, List.cons_append, List.append_cancel_left_eq,
        List.cons.injEq] at hsplit
      rw [← hzs, hsplit.1] at hmem
      exact absurd (List.mem_append_right _ List.mem_cons_self) hmem

/-- **The first name that has a property** is that of the placeholder furthest to the left. -/
theorem find?_names_eq_some_iff {p : String → Bool} {name text : String} :
    ((formOf word).names text).find? p = some name
      ↔ p name = true ∧ (formOf word).IsFirst p name text := by
  rw [List.find?_eq_some_iff_append]
  refine and_congr_right fun hp => ?_
  constructor
  · rintro ⟨before, after, hnames, hbefore⟩
    rw [names, List.map_filterMap] at hnames
    obtain ⟨xs₁, zs, hpieces, rfl, hzs⟩ := List.filterMap_eq_append_iff.mp hnames
    obtain ⟨xs₂, piece, ys, rfl, hxs₂, hpiece, -⟩ := List.filterMap_eq_cons_iff.mp hzs
    rw [← List.append_assoc] at hpieces
    cases piece with
    | char c => cases hpiece
    | reference cs =>
      cases hpiece
      have htext := flatMap_fill_pieces (formOf word) text.toList
      rw [hpieces, List.flatMap_append, List.flatMap_cons, ← List.append_assoc] at htext
      rw [IsFirst, String.toList_ofList]
      refine ⟨isName_of_mem_pieces (hpieces ▸ List.mem_append_right _ List.mem_cons_self), _, _,
        htext.symm, fun other front back hother hcs hpother => ?_⟩
      refine length_fill_le hpieces hother hcs fun hmem => ?_
      -- a placeholder in front would have been found first
      have hname? :
          (Reference.Piece.name? (.reference other.toList)).map String.ofList = some other :=
        congrArg some String.ofList_toList
      rcases List.mem_append.mp hmem with hmem | hmem
      · have hno := hbefore other (List.mem_filterMap.mpr ⟨_, hmem, hname?⟩)
        rw [hpother] at hno
        cases hno
      · rw [hxs₂ _ hmem] at hname?
        cases hname?
  · rintro ⟨hname, front, back, htext, hfirst⟩
    refine ⟨(formOf word).names (String.ofList front), (formOf word).names (String.ofList back), ?_,
      fun other hother => ?_⟩
    · rw [names, names, names, String.toList_ofList, String.toList_ofList, htext,
        pieces_append_written front hname back, List.filterMap_append, List.filterMap_cons]
      show List.map String.ofList (_ ++ name.toList :: _) = _
      rw [List.map_append, List.map_cons, String.ofList_toList]
    · obtain ⟨hothername, front', rest, hfront⟩ := mem_names_iff.mp hother
      rw [String.toList_ofList] at hfront
      rw [Bool.not_eq_true', Bool.eq_false_iff]
      intro hpother
      have hle := hfirst other front' (rest ++ (formOf word).written name.toList ++ back) hothername
        (by rw [htext, ← hfront]; simp only [List.append_assoc]) hpother
      have hpos := List.length_pos_iff.mpr (written_ne_nil (formOf word) other.toList)
      rw [← hfront] at hle
      simp only [List.length_append] at hle
      omega

/-! ## Collecting -/

/-- **The names that are found are put into the set**, also if there is nothing to search for. -/
theorem collectWith_eq {library : Library} (hlibrary : library.Documented) (text : String)
    (found : NameSet) :
    collectWith library word text found = found.insertMany ((formOf word).names text) := by
  unfold collectWith
  cases hopens : (formOf word).opensIn text with
  | false =>
    rw [(free_of_opensIn_eq_false hopens).names]
    rfl
  | true =>
    rw [← hlibrary.map_name_captures (formOf word) text, NameSet.insertMany, List.foldl_map]
    rfl

/-- What is collected, with the library and the characters that are used. -/
theorem collect_eq (text : String) (found : NameSet) :
    collect text found = found.insertMany (form.names text) :=
  collectWith_eq Library.documented_scanning text found

end TextTemplate.Placeholder
