import TextTemplate.Proofs.GappedTexts

/-!
# Searching a text for references

A library that searches texts is documented to find references from left to right: the first one is
that which starts furthest to the left, and the next one is looked for behind it. `Form.Successive`
says this of a text and the way in which it is cut, without saying how the references are found, and
`Library.Documented` is that a library gives what such a cut gives.

There is one such cut for each text (`successive_iff`), the one that is read character by character.
So all libraries that keep to their documentation give the same, and the library that is used is one
of them (`Library.documented_scanning`).
-/

namespace TextTemplate.Reference

open Text

namespace Form

/-! ## One reference -/

section

variable (form : Form)

/-- **What can be a name**: one or more of the characters of names. -/
def IsName (name : List Char) : Prop := name ≠ [] ∧ ∀ c ∈ name, form.inName c = true

/-- **No reference stands in the text.** -/
def Free (cs : List Char) : Prop := ∀ name, form.IsName name → ¬form.written name <:+: cs

end

variable {form : Form}

theorem written_ne_nil (form : Form) (name : List Char) : form.written name ≠ [] := by
  rw [written, ← List.append_assoc]
  exact List.concat_ne_nil _ _

/-- **A reference is read exactly if it stands at the front.** -/
theorem read?_eq_some_iff {cs name rest : List Char} :
    form.read? cs = some (name, rest) ↔ form.IsName name ∧ cs = form.written name ++ rest := by
  have hclose : ¬form.inName form.close = true := Bool.eq_false_iff.mp form.close_notIn
  constructor
  · intro h
    unfold read? at h
    split at h
    · rename_i hopening
      obtain ⟨tail, rfl⟩ := List.isPrefixOf_iff_prefix.mp hopening
      dsimp only at h
      rw [List.drop_left] at h
      split at h
      · rename_i c word d rest' htake hdrop
        split at h
        · rename_i hd
          cases h
          have hword : ∀ a ∈ c :: word, form.inName a = true := by
            rw [← htake]
            exact List.all_eq_true.mp List.all_takeWhile
          refine ⟨⟨List.cons_ne_nil c word, hword⟩, ?_⟩
          have htail : tail = c :: word ++ form.close :: rest := by
            rw [← htake, ← hd, ← hdrop, List.takeWhile_append_dropWhile]
          rw [htail, written, List.append_assoc, List.append_assoc]
          rfl
        · cases h
      · cases h
    · cases h
  · rintro ⟨⟨hne, hword⟩, rfl⟩
    obtain ⟨c, word, rfl⟩ := List.exists_cons_of_ne_nil hne
    have htake : ((c :: word) ++ form.close :: rest).takeWhile form.inName = c :: word := by
      rw [List.takeWhile_append_of_pos hword, List.takeWhile_cons_of_neg hclose, List.append_nil]
    have hdrop : ((c :: word) ++ form.close :: rest).dropWhile form.inName = form.close :: rest := by
      rw [List.dropWhile_append_of_pos hword, List.dropWhile_cons_of_neg hclose]
    have htext : form.written (c :: word) ++ rest
        = form.opening ++ ((c :: word) ++ form.close :: rest) := by
      rw [written, List.append_assoc, List.append_assoc]
      rfl
    have hopening : form.opening.isPrefixOf (form.written (c :: word) ++ rest) = true := by
      rw [htext]
      exact List.isPrefixOf_iff_prefix.mpr (List.prefix_append _ _)
    unfold read?
    rw [if_pos hopening, htext, List.drop_left]
    simp only [htake, hdrop, if_true]

/-- Nothing is read where the text has ended. -/
theorem read?_nil : form.read? [] = none := by
  refine Option.eq_none_iff_forall_ne_some.mpr ?_
  rintro ⟨name, rest⟩ h
  exact Nat.not_lt_zero _ (read?_length h)

/-- Nothing is read at the front of a text without references. -/
theorem Free.read? {cs : List Char} (h : form.Free cs) : form.read? cs = none := by
  refine Option.eq_none_iff_forall_ne_some.mpr ?_
  rintro ⟨name, rest⟩ hsome
  obtain ⟨hname, rfl⟩ := read?_eq_some_iff.mp hsome
  exact h name hname (List.prefix_append _ _).isInfix

theorem free_nil : form.Free [] := fun name _ hinfix =>
  written_ne_nil form name (List.infix_nil.mp hinfix)

/-- A text has no references if there is none at its front and none behind its first character. -/
theorem free_cons_iff {c : Char} {cs : List Char} :
    form.Free (c :: cs) ↔ form.read? (c :: cs) = none ∧ form.Free cs := by
  constructor
  · intro h
    exact ⟨h.read?, fun name hname hinfix => h name hname (List.infix_cons_iff.mpr (.inr hinfix))⟩
  · rintro ⟨hread, h⟩ name hname hinfix
    rcases List.infix_cons_iff.mp hinfix with ⟨rest, htext⟩ | hinfix
    · rw [read?_eq_some_iff.mpr ⟨hname, htext.symm⟩] at hread
      cases hread
    · exact h name hname hinfix

/-- A text in which nothing opens a reference has none. -/
theorem free_of_opensIn_eq_false {text : String} (h : form.opensIn text = false) :
    form.Free text.toList := fun _ _ hinfix =>
  occursIn_eq_false_iff.mp h ((List.prefix_append _ _).isInfix.trans hinfix)

/-! ## All pieces -/

theorem pieces_nil : form.pieces [] = [] := by
  rw [pieces]
  split
  · rename_i hread
    rw [read?_nil] at hread
    cases hread
  · rfl

theorem pieces_of_read? {cs name rest : List Char} (h : form.read? cs = some (name, rest)) :
    form.pieces cs = .reference name :: form.pieces rest := by
  rw [pieces]
  split
  · rename_i hread
    rw [h] at hread
    cases hread
    rfl
  · rename_i hread
    rw [h] at hread
    cases hread

theorem pieces_cons_of_read? {c : Char} {cs : List Char} (h : form.read? (c :: cs) = none) :
    form.pieces (c :: cs) = .char c :: form.pieces cs := by
  rw [pieces]
  split
  · rename_i hread
    rw [h] at hread
    cases hread
  · rfl

/-- **Nothing is lost**: the pieces, one after another, are the text. -/
theorem flatMap_fill_pieces (form : Form) (cs : List Char) :
    (form.pieces cs).flatMap (Piece.fill form.written) = cs := by
  induction cs using pieces.induct form with
  | case1 cs name rest hread _ ih =>
    rw [pieces_of_read? hread, List.flatMap_cons, ih]
    exact (read?_eq_some_iff.mp hread).2.symm
  | case2 hread =>
    rw [pieces_nil]
    rfl
  | case3 c cs hread ih =>
    rw [pieces_cons_of_read? hread, List.flatMap_cons, ih]
    rfl

/-- A piece that is a reference has a proper name. -/
theorem isName_of_mem_pieces {cs name : List Char} (h : Piece.reference name ∈ form.pieces cs) :
    form.IsName name := by
  induction cs using pieces.induct form with
  | case1 cs name' rest hread _ ih =>
    rw [pieces_of_read? hread] at h
    rcases List.mem_cons.mp h with heq | h
    · cases heq
      exact (read?_eq_some_iff.mp hread).1
    · exact ih h
  | case2 hread =>
    rw [pieces_nil] at h
    cases h
  | case3 c cs hread ih =>
    rw [pieces_cons_of_read? hread] at h
    rcases List.mem_cons.mp h with heq | h
    · cases heq
    · exact ih h

/-- **The pieces of a text without references** are its characters. -/
theorem Free.pieces {cs : List Char} (h : form.Free cs) : form.pieces cs = cs.map .char := by
  induction cs with
  | nil => exact pieces_nil
  | cons c cs ih =>
    obtain ⟨hread, hrest⟩ := free_cons_iff.mp h
    rw [pieces_cons_of_read? hread, List.map_cons, ih hrest]

/-! ## The text cut at its references -/

variable (form) in
/-- **The text cut at the references that are read.** -/
def cut (cs : List Char) : Gapped := .ofPieces (form.pieces cs)

theorem cut_nil : form.cut [] = ⟨[], []⟩ := by
  rw [cut, pieces_nil]
  rfl

/-- A reference at the front is a gap. -/
theorem cut_of_read? {cs name rest : List Char} (h : form.read? cs = some (name, rest)) :
    form.cut cs = (form.cut rest).consGap name := by
  rw [cut, pieces_of_read? h]
  rfl

/-- Any other character at the front belongs to the first stretch. -/
theorem cut_cons {c : Char} {cs : List Char} (h : form.read? (c :: cs) = none) :
    form.cut (c :: cs) = (form.cut cs).cons c := by
  rw [cut, pieces_cons_of_read? h]
  rfl

/-- Filled with the references themselves, the cut is the text. -/
theorem fill_written_cut (cs : List Char) : (form.cut cs).fill form.written = cs := by
  rw [cut, Gapped.fill_ofPieces, flatMap_fill_pieces]

/-- The names in the gaps are those of the references that are read. -/
theorem mem_names_cut {cs name : List Char} :
    name ∈ (form.cut cs).names ↔ Piece.reference name ∈ form.pieces cs := by
  rw [cut, Gapped.names_ofPieces, List.mem_filterMap]
  constructor
  · rintro ⟨piece, hpiece, hname⟩
    cases piece with
    | char c => cases hname
    | reference other =>
      cases hname
      exact hpiece
  · intro h
    exact ⟨_, h, rfl⟩

theorem names_eq (text : String) :
    form.names text = (form.cut text.toList).names.map String.ofList := by
  rw [cut, Gapped.names_ofPieces]
  rfl

/-- A text without references has no gaps. -/
theorem Free.cut {cs : List Char} (h : form.Free cs) : form.cut cs = ⟨cs, []⟩ := by
  have hofPieces := Gapped.ofPieces_append cs []
  rw [List.append_nil] at hofPieces
  rw [Form.cut, h.pieces, hofPieces]
  exact congrArg (Gapped.mk · []) (List.append_nil cs)

theorem Free.names {text : String} (h : form.Free text.toList) : form.names text = [] := by
  rw [names_eq, h.cut]
  rfl

/-- **What is read leaves no reference over.** -/
theorem free_of_mem_stretches_cut {cs stretch : List Char}
    (h : stretch ∈ (form.cut cs).stretches) : form.Free stretch := by
  induction cs using pieces.induct form generalizing stretch with
  | case1 cs name rest hread _ ih =>
    rw [cut_of_read? hread, Gapped.stretches_consGap] at h
    rcases List.mem_cons.mp h with rfl | h
    · exact free_nil
    · exact ih h
  | case2 hread =>
    rw [cut_nil] at h
    rw [List.mem_singleton.mp h]
    exact free_nil
  | case3 c cs hread ih =>
    rw [cut_cons hread, Gapped.stretches_cons] at h
    rcases List.mem_cons.mp h with rfl | h
    · refine free_cons_iff.mpr ⟨?_, ih List.mem_cons_self⟩
      -- a reference at the front of the stretch would stand at the front of the text
      refine Option.eq_none_iff_forall_ne_some.mpr ?_
      rintro ⟨name, rest⟩ hsome
      obtain ⟨hname, hlead⟩ := read?_eq_some_iff.mp hsome
      have hprefix : c :: (form.cut cs).lead <+: c :: cs :=
        (List.prefix_cons_inj c).mpr ⟨_, fill_written_cut cs⟩
      obtain ⟨behind, htext⟩ := hprefix
      rw [hlead, List.append_assoc] at htext
      rw [read?_eq_some_iff.mpr ⟨hname, htext.symm⟩] at hread
      cases hread
    · exact ih (List.mem_cons_of_mem _ h)

/-! ## Successive references -/

/-- **A text cut at its successive references.** If there is none it is one stretch. Otherwise it is
cut at a reference in front of which none starts, and what is behind that is cut in the same way. -/
inductive Successive (form : Form) : List Char → Gapped → Prop where
  | none {cs : List Char} : form.Free cs → Successive form cs ⟨cs, []⟩
  | next {lead name rest : List Char} {g : Gapped} : form.IsName name →
      (∀ front other back, form.IsName other →
        lead ++ (form.written name ++ rest) = front ++ (form.written other ++ back) →
        lead.length ≤ front.length) →
      Successive form rest g →
      Successive form (lead ++ (form.written name ++ rest)) ⟨lead, ⟨name, g.lead⟩ :: g.gaps⟩

/-- A reference at the front is the first one. -/
theorem Successive.consGap {name rest : List Char} {g : Gapped} (hname : form.IsName name)
    (h : form.Successive rest g) : form.Successive (form.written name ++ rest) (g.consGap name) :=
  @Successive.next form [] name rest g hname (fun _ _ _ _ _ => Nat.zero_le _) h

/-- A character that starts no reference comes in front of the first one. -/
theorem Successive.cons {c : Char} {cs : List Char} {g : Gapped}
    (hread : form.read? (c :: cs) = Option.none) (h : form.Successive cs g) :
    form.Successive (c :: cs) (g.cons c) := by
  cases h with
  | none hfree => exact .none (free_cons_iff.mpr ⟨hread, hfree⟩)
  | @next lead name rest g hname hfirst hrest =>
    refine @Successive.next form (c :: lead) name rest g hname
      (fun front other back hother htext => ?_) hrest
    cases front with
    | nil =>
      have hsome := read?_eq_some_iff.mpr ⟨hother, htext⟩
      rw [List.cons_append, hread] at hsome
      cases hsome
    | cons d front =>
      exact Nat.succ_le_succ (hfirst front other back hother (List.cons.inj htext).2)

/-- **What is read are the successive references.** -/
theorem successive_cut (cs : List Char) : form.Successive cs (form.cut cs) := by
  induction cs using pieces.induct form with
  | case1 cs name rest hread _ ih =>
    obtain ⟨hname, rfl⟩ := read?_eq_some_iff.mp hread
    rw [cut_of_read? hread]
    exact ih.consGap hname
  | case2 hread =>
    rw [cut_nil]
    exact .none free_nil
  | case3 c cs hread ih =>
    rw [cut_cons hread]
    exact ih.cons hread

/-- In front of the first reference only characters are read. -/
theorem cut_append_written {lead name rest : List Char} (hname : form.IsName name)
    (hfirst : ∀ front other back, form.IsName other →
      lead ++ (form.written name ++ rest) = front ++ (form.written other ++ back) →
      lead.length ≤ front.length) :
    form.cut (lead ++ (form.written name ++ rest))
      = ⟨lead, ⟨name, (form.cut rest).lead⟩ :: (form.cut rest).gaps⟩ := by
  induction lead with
  | nil => exact cut_of_read? (read?_eq_some_iff.mpr ⟨hname, rfl⟩)
  | cons c lead ih =>
    have hread : form.read? (c :: (lead ++ (form.written name ++ rest))) = none := by
      refine Option.eq_none_iff_forall_ne_some.mpr ?_
      rintro ⟨other, back⟩ hsome
      obtain ⟨hother, htext⟩ := read?_eq_some_iff.mp hsome
      exact Nat.not_succ_le_zero _ (hfirst [] other back hother htext)
    rw [List.cons_append, cut_cons hread, ih fun front other back hother htext =>
      Nat.le_of_succ_le_succ (hfirst (c :: front) other back hother (congrArg (c :: ·) htext))]
    rfl

/-- **There is one way to cut a text at its successive references.** -/
theorem successive_iff {cs : List Char} {g : Gapped} : form.Successive cs g ↔ g = form.cut cs := by
  constructor
  · intro h
    induction h with
    | none hfree => exact hfree.cut.symm
    | next hname hfirst _ ih =>
      subst ih
      exact (cut_append_written hname hfirst).symm
  · rintro rfl
    exact successive_cut cs

end Form

/-! ## Libraries -/

namespace Library

/-- **A library that keeps to its documentation**: it gives the successive references of a text, and
replaces these and nothing else. -/
structure Documented (library : Library) : Prop where
  captures : ∀ (form : Form) (text : String) (g : Gapped), form.Successive text.toList g →
    library.captures form text = g.names.map fun name => form.capture (String.ofList name)
  replaceAll : ∀ (form : Form) (text : String) (g : Gapped) (replacement : Capture → String),
    form.Successive text.toList g →
    (library.replaceAll form text replacement).toList
      = g.fill fun name => (replacement (form.capture (String.ofList name))).toList

/-- **The library that is used keeps to the documentation.** -/
theorem documented_scanning : scanning.Documented where
  captures := by
    intro form text g hg
    obtain rfl := Form.successive_iff.mp hg
    show (form.names text).map form.capture = _
    rw [Form.names_eq, List.map_map]
    rfl
  replaceAll := by
    intro form text g replacement hg
    obtain rfl := Form.successive_iff.mp hg
    show (String.ofList _).toList = _
    rw [String.toList_ofList, Form.cut, Gapped.fill_ofPieces]

namespace Documented

variable {library : Library} (h : library.Documented) (form : Form) (text : String)

include h

/-- Such a library finds the names that are read. -/
theorem map_name_captures : (library.captures form text).map Capture.name = form.names text := by
  rw [h.captures form text _ (Form.successive_cut _), Form.names_eq, List.map_map]
  rfl

/-- **Such a library gives the text cut at its references, filled with what is given for these.** -/
theorem toList_replaceAll (replacement : Capture → String) :
    (library.replaceAll form text replacement).toList
      = (form.cut text.toList).fill fun name =>
        (replacement (form.capture (String.ofList name))).toList :=
  h.replaceAll form text _ replacement (Form.successive_cut _)

end Documented

end Library

end TextTemplate.Reference
