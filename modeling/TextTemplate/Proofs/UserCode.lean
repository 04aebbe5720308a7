import TextTemplate.Proofs.Lookups
import TextTemplate.Proofs.Markers
import TextTemplate.Proofs.SourceMap

/-!
# Which ranges of a class are the author's

A range of a class is traced back to a document only if it lies in code that the author wrote. This
is found out in two ways at once, by a search for markers in the text and by a look at the mappings,
and neither is exact alone: the search misses a marker that an end of the range cuts, and the
mappings are also those of values that are no code. Together they are exact, if nothing that was
copied brings along the character that makes the markers unique.

`IsAuthored` says when a range is the author's, by the pieces of the class. That such a range is
traced back is `redirect?_of_isAuthored`, which follows the marker in front of it and the one
behind. That no other range is, `redirect?_of_not_isAuthored`, needs less: a start marker in front
of a range is enough to know that its mapping cannot be that of a value.
-/

namespace TextTemplate

/-! ## Code between markers -/

namespace Piece

/-- **Pieces with blocks among them**: the piece of a block stands between the two markers and is a
`Code`, and every other piece is a `Plain` one. -/
inductive Framed (Plain Code : Piece → Prop) : List Piece → Prop
  | nil : Framed Plain Code []
  | plain {p : Piece} {ps : List Piece} :
    Plain p → Framed Plain Code ps → Framed Plain Code (p :: ps)
  | block {p : Piece} {ps : List Piece} :
    Code p → Framed Plain Code ps →
      Framed Plain Code (.fixed codeStart :: p :: .fixed codeEnd :: ps)

/-- **Every code of a block stands between its markers.** -/
abbrev Bracketed : List Piece → Prop := Framed (fun p => p.isCode = false) fun _ => True

namespace Framed

variable {Plain Code : Piece → Prop}

/-- Pieces that are plain have no block among them. -/
theorem of_forall {ps : List Piece} (h : ∀ p ∈ ps, Plain p) : Framed Plain Code ps := by
  induction ps with
  | nil => exact .nil
  | cons p ps ih =>
    exact .plain (h p List.mem_cons_self) (ih fun q hq => h q (List.mem_cons_of_mem p hq))

/-- Such lists can be joined. -/
theorem append {ps qs : List Piece} (hps : Framed Plain Code ps) (hqs : Framed Plain Code qs) :
    Framed Plain Code (ps ++ qs) := by
  induction hps with
  | nil => exact hqs
  | plain hp _ ih => exact .plain hp ih
  | block hp _ ih => exact .block hp ih

/-- They can be joined one for each member of a list. -/
theorem flatMap {α : Type} {f : α → List Piece} (xs : List α)
    (h : ∀ x ∈ xs, Framed Plain Code (f x)) : Framed Plain Code (xs.flatMap f) := by
  induction xs with
  | nil => exact .nil
  | cons x xs ih =>
    rw [List.flatMap_cons]
    exact (h x List.mem_cons_self).append (ih fun y hy => h y (List.mem_cons_of_mem x hy))

/-- What is plain or a code in one sense may be so in a weaker one. -/
theorem mono {Plain' Code' : Piece → Prop} {ps : List Piece} (h : Framed Plain Code ps)
    (hplain : ∀ p, Plain p → Plain' p) (hcode : ∀ p, Code p → Code' p) : Framed Plain' Code' ps := by
  induction h with
  | nil => exact .nil
  | plain hp _ ih => exact .plain (hplain _ hp) ih
  | block hp _ ih => exact .block (hcode _ hp) ih

end Framed

/-- **What stands around the code of a block.** -/
theorem Bracketed.exists_markers {ps front back : List Piece} {p : Piece} (h : Bracketed ps)
    (hps : ps = front ++ p :: back) (hp : p.isCode = true) :
    ∃ front' back', front = front' ++ [.fixed codeStart] ∧ back = .fixed codeEnd :: back' := by
  induction h generalizing front with
  | nil => cases front <;> cases hps
  | plain hq _ ih =>
    cases front with
    | nil =>
      cases hps
      rw [hp] at hq
      cases hq
    | cons q front =>
      cases hps
      obtain ⟨front', back', rfl, hback⟩ := ih rfl
      exact ⟨_ :: front', back', rfl, hback⟩
  | block _ _ ih =>
    rcases front with _ | ⟨q, _ | ⟨q', _ | ⟨q'', front⟩⟩⟩
    · cases hps
      cases hp
    · cases hps
      exact ⟨[], _, rfl, rfl⟩
    · cases hps
      cases hp
    · cases hps
      obtain ⟨front', back', rfl, hback⟩ := ih rfl
      exact ⟨_ :: _ :: _ :: front', back', rfl, hback⟩

/-- **Two pieces of a list** are the same one, or one of them stands in front of the other. -/
theorem split_cases {front front' back back' : List Piece} {p q : Piece}
    (h : front ++ p :: back = front' ++ q :: back') :
    p = q ∨ (∃ mid, front' = front ++ p :: mid)
      ∨ ∃ mid, front = front' ++ q :: mid ∧ back' = mid ++ p :: back := by
  rcases List.append_eq_append_iff.mp h with ⟨as, hfront, hback⟩ | ⟨as, hfront, hback⟩
  · cases as with
    | nil =>
      cases hback
      exact Or.inl rfl
    | cons a as =>
      cases hback
      exact Or.inr (Or.inl ⟨as, hfront⟩)
  · cases as with
    | nil =>
      cases hback
      exact Or.inl rfl
    | cons a as =>
      cases hback
      exact Or.inr (Or.inr ⟨as, hfront, rfl⟩)

/-- A piece that comes from nowhere is no code. -/
theorem isCode_eq_false_of_origin? {p : Piece} (h : p.origin? = none) : p.isCode = false := by
  cases p with
  | code text origin => cases h
  | _ => rfl

/-- Pieces with joiners in names only make up such a text. -/
theorem namesOnly_textOf {ps : List Piece} (h : ∀ p ∈ ps, namesOnly p.text.toList = true) :
    namesOnly (textOf ps).toList = true := by
  induction ps with
  | nil => rfl
  | cons p ps ih =>
    rw [textOf, String.toList_append]
    exact namesOnly_append (h p List.mem_cons_self)
      (ih fun q hq => h q (List.mem_cons_of_mem p hq))

end Piece

namespace Generation

open Visit

/-- **The texts that a class takes over**: its namespace, and the tokens of the nodes. -/
def copiedTexts (schema : Schema) (mode : Mode) (d : Document) : List String :=
  mode.namespace?.toList ++ d.visits.flatMap fun v => (v.copiedTokens schema).map Token.text

/-- The end of a line brings no joiner. -/
theorem namesOnly_line {text : String} (h : namesOnly text.toList = true) :
    namesOnly (line text).text.toList = true :=
  namesOnly_toList_append h (namesOnly_toList_ofList (by decide))

/-- **The fixed texts up to the body of the method have joiners in names only.** -/
theorem namesOnly_of_mem_headTexts : ∀ p ∈ headTexts, namesOnly p.text.toList = true := by
  have hattribute : namesOnly generatedAttribute.toList = true :=
    namesOnly_toList_ofList (by decide)
  have hclass : namesOnly className.toList = true := namesOnly_toList_ofList (by decide)
  have hhelper : namesOnly toStringHelper.toList = true := namesOnly_toList_ofList (by decide)
  have hhost : namesOnly hostProperty.toList = true :=
    namesOnly_toList_append (namesOnly_toList_ofList (by decide))
      (namesOnly_toList_ofList (by decide))
  have hbase : namesOnly defaultBaseClass.toList = true := namesOnly_toList_ofList (by decide)
  unfold headTexts
  simp only [List.forall_mem_cons]
  -- the longer texts are taken apart where names stand in them
  refine ⟨namesOnly_toList_ofList (by decide), namesOnly_line (namesOnly_toList_ofList (by decide)),
    hbase, namesOnly_toList_ofList (by decide), namesOnly_toList_ofList (by decide),
    namesOnly_toList_ofList (by decide), namesOnly_line (namesOnly_toList_ofList (by decide)),
    namesOnly_line (namesOnly_toList_ofList (by decide)), ?_, ?_,
    namesOnly_line (namesOnly_toList_ofList (by decide)), ?_, namesOnly_line hhost, ?_,
    List.forall_mem_nil _⟩
  · exact namesOnly_line (namesOnly_toList_append
      (namesOnly_toList_append (namesOnly_toList_ofList (by decide)) hattribute)
      (namesOnly_toList_ofList (by decide)))
  · exact namesOnly_toList_append
      (namesOnly_toList_append (namesOnly_toList_ofList (by decide)) hclass)
      (namesOnly_toList_ofList (by decide))
  · exact namesOnly_line (namesOnly_toList_append (namesOnly_toList_append
      (namesOnly_toList_append
        (namesOnly_toList_append (namesOnly_toList_ofList (by decide)) hattribute)
        (namesOnly_toList_ofList (by decide))) hhelper) (namesOnly_toList_ofList (by decide)))
  · exact namesOnly_line (namesOnly_toList_append (namesOnly_toList_ofList (by decide))
      (namesOnly_toList_ofList (by decide)))

/-- **The fixed texts from the body of the method on**, without the markers. -/
def tailScaffold : List Piece :=
  [.fixed ("this.Write(" ++ toStringHelper ++ "("), line "));", .fixed "\n",
    line "return GenerationEnvironment.ToString();", line "\x7d"]

section Framed

variable {Plain Code : Piece → Prop} (hfixed : ∀ p ∈ tailScaffold, Plain p)

include hfixed

/-- **The lines of the blocks have their code between markers.** -/
theorem framed_blockLines {nodes : List Visit}
    (hcode : ∀ v ∈ nodes, ∀ kind token, v.block? = some (kind, token) → Code (v.code token))
    (members : Bool) : Piece.Framed Plain Code (blockLines members nodes) := by
  refine Piece.Framed.flatMap _ fun x hx => ?_
  unfold lineAmong
  split
  · exact .nil
  · rename_i kind token hblock
    have hmarked : Code (x.1.code token) :=
      hcode x.1 (List.fst_mem_of_mem_zipIdx hx) kind token hblock
    split
    · unfold Visit.blockLine
      split
      · exact .plain (hfixed _ (by simp [tailScaffold]))
          (.block hmarked (.plain (hfixed _ (by simp [tailScaffold])) .nil))
      · exact .block hmarked (.plain (hfixed _ (by simp [tailScaffold])) .nil)
    · exact .nil

/-- **The blocks of a class are those of its template**, each between its markers. -/
theorem framed_layout {schema : Schema} {mode : Mode} {d : Document}
    (hhead : ∀ p ∈ namespaceOpening mode ++ headPieces schema d.visits, Plain p)
    (hcode : ∀ v ∈ d.visits, ∀ kind token, v.block? = some (kind, token) → Code (v.code token)) :
    Piece.Framed Plain Code (layout schema mode d) := by
  have hline : Plain (line "\x7d") := hfixed _ (by simp [tailScaffold])
  unfold layout tailPieces namespaceClosing
  refine (Piece.Framed.of_forall hhead).append (.append (.append (.append (.append
    (framed_blockLines hfixed hcode false) ?_) (framed_blockLines hfixed hcode true)) ?_) ?_)
  · exact .plain (hfixed _ (by simp [tailScaffold]))
      (.plain (hfixed _ (by simp [tailScaffold])) (.plain hline .nil))
  · exact .plain hline .nil
  · cases mode.namespace? with
    | none => exact .nil
    | some ns => exact .plain hline .nil

end Framed

section Clean

variable {schema : Schema} {mode : Mode} {d : Document}

/-- The pieces up to the body of the method are no code. -/
theorem isCode_of_mem_head :
    ∀ p ∈ namespaceOpening mode ++ headPieces schema d.visits, p.isCode = false := by
  intro p hp
  rcases List.mem_append.mp hp with hp | hp
  · obtain ⟨ns, -, rfl⟩ := Option.map_eq_some_iff.mp (Option.mem_toList.mp hp)
    rfl
  · refine forall_mem_headPieces (P := fun p => p.isCode = false) ?_
      (fun v _ token _ => ⟨rfl, rfl⟩) p hp
    intro p hp
    exact Piece.isCode_eq_false_of_origin? (origin?_of_mem_texts p (List.mem_append_left _ hp))

/-- The pieces from the body of the method on that were copied are code. -/
theorem isCode_of_mem_tail :
    ∀ p ∈ tailPieces d.visits ++ namespaceClosing mode, p.origin? ≠ none → p.isCode = true := by
  intro p hp
  rcases List.mem_append.mp hp with hp | hp
  · refine forall_mem_tailPieces (P := fun p => p.origin? ≠ none → p.isCode = true) ?_
      (fun v _ kind token _ _ => rfl) p hp
    intro p hp hne
    exact absurd (origin?_of_mem_texts p (List.mem_append_right _ hp)) hne
  · obtain ⟨ns, -, rfl⟩ := Option.map_eq_some_iff.mp (Option.mem_toList.mp hp)
    exact fun hne => absurd rfl hne

/-- **The code in a class stands between markers.** -/
theorem bracketed_layout : Piece.Bracketed (layout schema mode d) := by
  refine framed_layout ?_ isCode_of_mem_head fun _ _ _ _ _ => trivial
  simp [tailScaffold, line, Piece.isCode]

variable (h : ∀ text ∈ copiedTexts schema mode d, joiner ∉ text.toList)

include h

/-- The tokens that are copied have no joiners. -/
theorem joiner_notMem_of_mem_copiedTokens {v : Visit} (hv : v ∈ d.visits) {token : Token}
    (htoken : token ∈ v.copiedTokens schema) : joiner ∉ token.text.toList :=
  h token.text (List.mem_append_right _
    (List.mem_flatMap.mpr ⟨v, hv, List.mem_map_of_mem htoken⟩))

/-- The pieces up to the body of the method have joiners in names only. -/
theorem namesOnly_of_mem_head :
    ∀ p ∈ namespaceOpening mode ++ headPieces schema d.visits, namesOnly p.text.toList = true := by
  intro p hp
  rcases List.mem_append.mp hp with hp | hp
  · obtain ⟨ns, hns, rfl⟩ := Option.map_eq_some_iff.mp (Option.mem_toList.mp hp)
    have hns' : joiner ∉ ns.toList :=
      h ns (List.mem_append_left _ (Option.mem_toList.mpr hns))
    exact namesOnly_line (namesOnly_toList_append
      (namesOnly_toList_append (namesOnly_toList_ofList (by decide)) (namesOnly_of_notMem hns'))
      (namesOnly_toList_ofList (by decide)))
  · refine forall_mem_headPieces (P := fun p => namesOnly p.text.toList = true) ?_ ?_ p hp
    · exact namesOnly_of_mem_headTexts
    · intro v hv token htoken
      have hnames := namesOnly_of_notMem (joiner_notMem_of_mem_copiedTokens h hv htoken)
      exact ⟨hnames, hnames⟩

/-- The code in a class has no joiners. -/
theorem joiner_notMem_of_isCode :
    ∀ p ∈ layout schema mode d, p.isCode = true → joiner ∉ p.text.toList := by
  refine forall_mem_layout ?_ nofun ?_
  · intro p hp hcode
    rw [Piece.isCode_eq_false_of_origin? (origin?_of_mem_texts p hp)] at hcode
    cases hcode
  · intro v hv token htoken
    exact ⟨nofun, fun _ => joiner_notMem_of_mem_copiedTokens h hv htoken, nofun⟩

end Clean

/-! ## The author's ranges -/

/-- **A range of the author's code**: in order, cut between characters, and inside the code of a
block, which has the mapping. -/
structure IsAuthored (ps : List Piece) (span : Span) (m : Mapping) : Prop where
  start_le_stop : span.start ≤ span.stop
  boundary_start : Text.IsBoundary (Piece.textOf ps) span.start
  boundary_stop : Text.IsBoundary (Piece.textOf ps) span.stop
  exists_code : ∃ front p back, ps = front ++ p :: back ∧ p.isCode = true
    ∧ p.mapping? (Piece.widthOf front) = some m
  start_le : m.generated.start ≤ span.start
  stop_le : span.stop ≤ m.generated.stop

namespace IsAuthored

variable {ps : List Piece} {span : Span} {m : Mapping}

/-- **Every part of the code of a block is an author's range.** -/
theorem of_parts (front : List Piece) (p : Piece) (back : List Piece) {origin : Origin}
    {as mid bs : List Char} (hcode : p.isCode = true) (horigin : p.origin? = some origin)
    (hparts : p.text.toList = as ++ mid ++ bs) :
    IsAuthored (front ++ p :: back)
      ⟨Piece.widthOf front + Text.byteSize as,
        Piece.widthOf front + Text.byteSize as + Text.byteSize mid⟩
      ⟨⟨Piece.widthOf front, Piece.widthOf front + p.width⟩, origin⟩ := by
  have hwidth : p.width = Text.byteSize as + Text.byteSize mid + Text.byteSize bs := by
    rw [Piece.width, ← Text.byteSize_toList, hparts, Text.byteSize_append, Text.byteSize_append]
  refine ⟨Nat.le_add_right _ _, ?_, ?_, ?_, Nat.le_add_right _ _, ?_⟩
  · refine ⟨(Piece.textOf front).toList ++ as, mid ++ bs ++ (Piece.textOf back).toList, ?_, ?_⟩
    · rw [Piece.toList_textOf_split, hparts]
      simp only [List.append_assoc]
    · rw [Text.byteSize_append, Piece.byteSize_textOf]
  · refine ⟨(Piece.textOf front).toList ++ as ++ mid, bs ++ (Piece.textOf back).toList, ?_, ?_⟩
    · rw [Piece.toList_textOf_split, hparts]
      simp only [List.append_assoc]
    · rw [Text.byteSize_append, Text.byteSize_append, Piece.byteSize_textOf]
  · exact ⟨front, p, back, rfl, hcode, Piece.mapping?_eq_some_iff.mpr ⟨horigin, rfl⟩⟩
  · show Piece.widthOf front + Text.byteSize as + Text.byteSize mid ≤ Piece.widthOf front + p.width
    omega

/-- **The author's code is taken for code**: the text in front of a range ends with the start marker
and some of the code, and the rest of the code and the end marker follow. -/
theorem isUserCode (h : IsAuthored ps span m) (hps : Piece.Bracketed ps)
    (hjoiner : ∀ p ∈ ps, p.isCode = true → joiner ∉ p.text.toList) :
    (GeneratedUnit.ofPieces ps).isUserCode span = true := by
  obtain ⟨front, p, back, rfl, hcode, hmapping⟩ := h.exists_code
  obtain ⟨-, hgenerated⟩ := Piece.mapping?_eq_some_iff.mp hmapping
  obtain ⟨front, back, rfl, rfl⟩ := hps.exists_markers rfl hcode
  have hstart := h.start_le
  have hstop := h.stop_le
  rw [hgenerated] at hstart hstop
  obtain ⟨code, inside, code', hparts, hcodeSize, hinsideSize⟩ :=
    Piece.exists_cut h.start_le_stop h.boundary_start h.boundary_stop hstart hstop
  have hp : joiner ∉ p.text.toList :=
    hjoiner p (List.mem_append_right _ List.mem_cons_self) hcode
  rw [hparts, List.mem_append, List.mem_append, not_or, not_or] at hp
  obtain ⟨⟨hjoinerCode, hjoinerInside⟩, -⟩ := hp
  have hsize : Text.byteSize ((Piece.textOf front).toList ++ (codeStart.toList ++ code))
      = span.start := by
    rw [← hcodeSize, Text.byteSize_append, Text.byteSize_append, Piece.byteSize_textOf,
      Text.byteSize_toList, Piece.widthOf_append, ← Nat.add_assoc]
    rfl
  refine GeneratedUnit.isUserCode_eq_true_iff.mpr
    ⟨(Piece.textOf front).toList ++ (codeStart.toList ++ code), inside,
      code' ++ (codeEnd.toList ++ (Piece.textOf back).toList), codeStart.toList ++ code, ?_, hsize, ?_,
      fromLast?_codeStart hjoinerCode _, occursIn_codeEnd_codeStart hjoinerCode,
      Text.occursIn_eq_false_of_notMem (by decide) hjoinerInside,
      Text.occursIn_eq_false_of_notMem (by decide) hjoinerInside,
      Text.occursIn_eq_true_iff.mpr ⟨code', (Piece.textOf back).toList, List.append_assoc _ _ _⟩⟩
  · show (Piece.textOf _).toList = _
    rw [Piece.toList_textOf_split, hparts]
    simp only [Piece.textOf_append, Piece.textOf, Piece.text, String.append_empty,
      String.toList_append, List.append_assoc]
  · rw [hsize, hinsideSize]

/-- **The mapping of the author's code is found**: the next one starts behind the end marker. -/
theorem containing? (h : IsAuthored ps span m) (hps : Piece.Bracketed ps) :
    Mapping.containing? (Piece.mappingsFrom 0 ps).toArray span = some m := by
  obtain ⟨front, p, back, rfl, hcode, hmapping⟩ := h.exists_code
  obtain ⟨-, hgenerated⟩ := Piece.mapping?_eq_some_iff.mp hmapping
  obtain ⟨front, back, rfl, rfl⟩ := hps.exists_markers rfl hcode
  refine (Mapping.containing?_eq_some_iff (Mapping.ordered_mappingsFrom 0 _)).mpr
    ⟨Piece.mappingsFrom 0 (front ++ [.fixed codeStart]),
      Piece.mappingsFrom (m.generated.stop + (Piece.fixed codeEnd).width) back, ?_, h.start_le,
      h.stop_le, ?_⟩
  · show Piece.mappingsFrom 0 _ = _
    rw [Piece.mappingsFrom_append, Piece.mappingsFrom, Nat.zero_add, hmapping, hgenerated]
    rfl
  · intro b hb
    obtain ⟨hbound, -⟩ := Piece.bounds_of_mem_mappingsFrom hb
    have hwidth : 0 < (Piece.fixed codeEnd).width := by decide
    have hle := h.start_le_stop
    have hstop := h.stop_le
    omega

/-- **The author's code touches no other piece but its markers.** A range of the author's that lies
also in a piece that is no code is empty, and the piece is a fixed one. -/
theorem eq_of_not_isCode (h : IsAuthored ps span m) (hps : Piece.Bracketed ps)
    {front back : List Piece} {p : Piece} (hsplit : ps = front ++ p :: back)
    (hp : p.isCode = false) (hstart : Piece.widthOf front ≤ span.start)
    (hstop : span.stop ≤ Piece.widthOf front + p.width) :
    span.start = span.stop ∧ p.origin? = none := by
  obtain ⟨front', q, back', hsplit', hcode, hmapping⟩ := h.exists_code
  obtain ⟨-, hgenerated⟩ := Piece.mapping?_eq_some_iff.mp hmapping
  obtain ⟨front', back', rfl, rfl⟩ := hps.exists_markers hsplit' hcode
  have hle := h.start_le_stop
  have hmstart := h.start_le
  have hmstop := h.stop_le
  rw [hgenerated] at hmstart hmstop
  dsimp only at hmstart hmstop
  have hwidth : 0 < (Piece.fixed codeStart).width ∧ 0 < (Piece.fixed codeEnd).width := by decide
  rcases Piece.split_cases (hsplit.symm.trans hsplit') with rfl | ⟨mid, hmid⟩ | ⟨mid, hmid, hback⟩
  · rw [hp] at hcode
    cases hcode
  · -- the piece stands in front of the code, with the start marker between them or as the piece
    rw [hmid, Piece.widthOf_append, Piece.widthOf] at hmstart
    refine ⟨by omega, ?_⟩
    rcases List.eq_nil_or_concat mid with rfl | ⟨init, last, rfl⟩
    · obtain ⟨-, hlast⟩ := List.append_inj' hmid rfl
      cases hlast
      rfl
    · rw [List.concat_eq_append, ← List.cons_append, ← List.append_assoc] at hmid
      obtain ⟨-, hlast⟩ := List.append_inj' hmid rfl
      cases hlast
      rw [List.concat_eq_append, Piece.widthOf_append, Piece.widthOf] at hmstart
      omega
  · -- the piece stands behind it, with the end marker between them or as the piece
    rw [hmid, Piece.widthOf_append, Piece.widthOf] at hstart
    refine ⟨by omega, ?_⟩
    cases mid with
    | nil =>
      cases hback
      rfl
    | cons r mid =>
      cases hback
      rw [Piece.widthOf] at hstart
      omega

end IsAuthored

section Ranges

variable {schema : Schema} {mode : Mode} {d : Document} {span : Span} {m : Mapping}
  (h : ∀ text ∈ copiedTexts schema mode d, joiner ∉ text.toList)

include h

/-- **What is found is the author's.** If the search takes a range for code and the range has a
mapping, then it is the mapping of the code of a block. -/
theorem isAuthored_of_isUserCode
    (huser : (GeneratedUnit.ofPieces (layout schema mode d)).isUserCode span = true)
    (hm : Mapping.containing? (Piece.mappingsFrom 0 (layout schema mode d)).toArray span = some m) :
    IsAuthored (layout schema mode d) span m := by
  obtain ⟨before, inside, after, opened, htext, hstart, hstop, hopened, -⟩ :=
    GeneratedUnit.isUserCode_eq_true_iff.mp huser
  obtain ⟨front, back, hsplit, hmstart, hmstop, -⟩ :=
    (Mapping.containing?_eq_some_iff (Mapping.ordered_mappingsFrom 0 _)).mp hm
  change (Piece.textOf (layout schema mode d)).toList = _ at htext
  change Piece.mappingsFrom 0 (layout schema mode d) = _ at hsplit
  have hle : span.start ≤ span.stop := by omega
  have hmarker : codeStart.toList <:+: before := by
    by_contra hno
    rw [Text.fromLast?_eq_none_iff.mpr hno] at hopened
    cases hopened
  -- the marker begins behind the pieces up to the body of the method
  have hparts : (Piece.textOf (namespaceOpening mode ++ headPieces schema d.visits)).toList
      ++ (Piece.textOf (tailPieces d.visits ++ namespaceClosing mode)).toList
        = before ++ (inside ++ after) := by
    rw [← String.toList_append, ← Piece.textOf_append, ← List.append_assoc before]
    exact htext
  have hhead : Piece.widthOf (namespaceOpening mode ++ headPieces schema d.visits) < span.start := by
    rw [← Piece.byteSize_textOf, ← hstart]
    exact byteSize_lt_of_codeStart (Piece.namesOnly_textOf (namesOnly_of_mem_head h)) hparts hmarker
  -- so the mapping does not belong to one of them
  have hmem : m ∈ Piece.mappingsFrom 0 (layout schema mode d) := by
    rw [hsplit]
    exact List.mem_append_right front List.mem_cons_self
  rw [layout, Piece.mappingsFrom_append, List.mem_append] at hmem
  rcases hmem with hmem | hmem
  · have hbound := (Piece.bounds_of_mem_mappingsFrom hmem).2.2
    omega
  · obtain ⟨front', p, back', htail, hmapping⟩ := Piece.mem_mappingsFrom.mp hmem
    have hp : p ∈ tailPieces d.visits ++ namespaceClosing mode := by
      rw [htail]
      exact List.mem_append_right front' List.mem_cons_self
    obtain ⟨horigin, -⟩ := Piece.mapping?_eq_some_iff.mp hmapping
    have hcode : p.isCode = true := isCode_of_mem_tail p hp (by rw [horigin]; exact Option.some_ne_none _)
    have hbefore : Text.IsBoundary (Piece.textOf (layout schema mode d)) span.start :=
      ⟨before, inside ++ after, by rw [htext, List.append_assoc], hstart⟩
    have hafter : Text.IsBoundary (Piece.textOf (layout schema mode d)) span.stop :=
      ⟨before ++ inside, after, htext, by rw [Text.byteSize_append, hstop]⟩
    refine ⟨hle, hbefore, hafter, ?_, hmstart, hmstop⟩
    refine ⟨namespaceOpening mode ++ headPieces schema d.visits ++ front', p, back', ?_, hcode, ?_⟩
    · rw [layout, htail, List.append_assoc _ front']
    · rw [Piece.widthOf_append, ← Nat.zero_add (Piece.widthOf _)]
      exact hmapping

/-- **The author's ranges are traced back**, unless the place in the document is too large for a
word. -/
theorem redirect?_of_isAuthored (hspan : IsAuthored (layout schema mode d) span m) :
    (GeneratedUnit.ofPieces (layout schema mode d)).redirect? span
      = if (m.carry span).span.stop < UInt64.size then .ok (some (m.carry span))
        else .error .sum := by
  have huser := hspan.isUserCode bracketed_layout (joiner_notMem_of_isCode h)
  unfold GeneratedUnit.redirect?
  rw [if_pos huser]
  exact Mapping.toOrigin?_of_containing hspan.start_le_stop (hspan.containing? bracketed_layout)
    hspan.start_le

/-- **No other range is.** -/
theorem redirect?_of_not_isAuthored (hspan : ∀ m, ¬IsAuthored (layout schema mode d) span m) :
    (GeneratedUnit.ofPieces (layout schema mode d)).redirect? span = .ok none := by
  unfold GeneratedUnit.redirect?
  split
  · rename_i huser
    cases hm : Mapping.containing? (Piece.mappingsFrom 0 (layout schema mode d)).toArray span with
    | none => exact Mapping.toOrigin?_of_containing_none hm
    | some m => exact absurd (isAuthored_of_isUserCode h huser hm) (hspan m)
  · rfl

end Ranges

/-- **Exactly the author's ranges are traced back.** Let no text that the class of a template takes
over have a joiner. Then, for every range of the class:

* a range has an origin exactly if it is one of the author's and the place fits a word, and the
  origin is the place of the code with the range as far behind its start as in the class;
* an author's range whose place does not fit a word makes the lookup fail, with a sum that is too
  large, and nothing else does;
* no range has an origin that lies in a piece of the class that is no code, such as the type of a
  parameter, an import, a base class, a marker or any fixed text, unless it is an empty range at the
  edge of a fixed text. -/
theorem redirect?_eq_some_iff_isAuthored (schema : Schema) (mode : Mode) (d : Document)
    (h : ∀ text ∈ copiedTexts schema mode d, joiner ∉ text.toList) :
    ∃ unit, generate schema mode Stop.never d = .ok unit
      ∧ unit.text = Piece.textOf (layout schema mode d)
      ∧ unit.mappings.toList = Piece.mappingsFrom 0 (layout schema mode d)
      ∧ ∀ span,
        (∀ origin, unit.redirect? span = .ok (some origin) ↔
          ∃ m, IsAuthored (layout schema mode d) span m ∧ origin = m.carry span
            ∧ origin.span.stop < UInt64.size)
        ∧ (∀ why, unit.redirect? span = .error why ↔
          why = .sum ∧ ∃ m, IsAuthored (layout schema mode d) span m
            ∧ UInt64.size ≤ (m.carry span).span.stop)
        ∧ ∀ front p back, layout schema mode d = front ++ p :: back → p.isCode = false →
            Piece.widthOf front ≤ span.start → span.stop ≤ Piece.widthOf front + p.width →
            span.start ≠ span.stop ∨ p.origin? ≠ none → unit.redirect? span = .ok none := by
  refine ⟨_, generate_eq_ofPieces_layout schema mode d, rfl, rfl, fun span => ?_⟩
  by_cases hspan : ∃ m, IsAuthored (layout schema mode d) span m
  · obtain ⟨m, hm⟩ := hspan
    refine ⟨fun origin => ⟨?_, ?_⟩, fun why => ⟨?_, ?_⟩, ?_⟩
    · intro horigin
      rw [redirect?_of_isAuthored h hm] at horigin
      split at horigin
      · rename_i hfits
        cases horigin
        exact ⟨m, hm, rfl, hfits⟩
      · cases horigin
    · rintro ⟨m', hm', rfl, hfits⟩
      rw [redirect?_of_isAuthored h hm', if_pos hfits]
    · intro herror
      rw [redirect?_of_isAuthored h hm] at herror
      split at herror
      · cases herror
      · rename_i hlarge
        cases herror
        exact ⟨rfl, m, hm, Nat.not_lt.mp hlarge⟩
    · rintro ⟨rfl, m', hm', hlarge⟩
      rw [redirect?_of_isAuthored h hm', if_neg (Nat.not_lt.mpr hlarge)]
    · intro front p back hsplit hp hstart hstop hedge
      obtain ⟨hempty, horigin⟩ := hm.eq_of_not_isCode bracketed_layout hsplit hp hstart hstop
      rcases hedge with hedge | hedge
      · exact absurd hempty hedge
      · exact absurd horigin hedge
  · rw [not_exists] at hspan
    rw [redirect?_of_not_isAuthored h hspan]
    refine ⟨fun origin => ⟨nofun, ?_⟩, fun why => ⟨nofun, ?_⟩, fun _ _ _ _ _ _ _ _ => rfl⟩
    · rintro ⟨m, hm, -⟩
      exact absurd hm (hspan m)
    · rintro ⟨-, m, hm, -⟩
      exact absurd hm (hspan m)

/-- A character of the code of an included template is traced back to it. -/
theorem redirect?_eq_some_iff_isAuthored_nested :
    (∀ text ∈ copiedTexts .standard .designTime nestedTemplate, joiner ∉ text.toList)
      ∧ ∃ unit, generate .standard .designTime Stop.never nestedTemplate = .ok unit
        ∧ unit.redirect? ⟨465, 467⟩ = .ok (some ⟨1, ⟨4, 6⟩⟩) := by
  have hjoiner : ∀ text ∈ copiedTexts .standard .designTime nestedTemplate, joiner ∉ text.toList := by
    decide +kernel
  have hspan : IsAuthored (layout .standard .designTime nestedTemplate) ⟨465, 467⟩
      ⟨⟨464, 471⟩, ⟨1, ⟨3, 10⟩⟩⟩ := by
    have hparts : " ñame ".toList = " ".toList ++ "ñ".toList ++ "ame ".toList := by decide
    have hfront : Piece.widthOf ((layout .standard .designTime nestedTemplate).take 13) = 464 := by
      decide +kernel
    have hpart := IsAuthored.of_parts ((layout .standard .designTime nestedTemplate).take 13)
      (.code " ñame " ⟨1, ⟨3, 10⟩⟩) ((layout .standard .designTime nestedTemplate).drop 14) rfl rfl
      hparts
    rw [hfront] at hpart
    exact hpart
  obtain ⟨unit, hunit, -, -, hredirect⟩ :=
    redirect?_eq_some_iff_isAuthored .standard .designTime nestedTemplate hjoiner
  exact ⟨hjoiner, unit, hunit, ((hredirect ⟨465, 467⟩).1 _).mpr ⟨_, hspan, rfl, by decide⟩⟩

/-- A template whose code says that it comes from the last of all offsets. -/
def farTemplate : Document where
  fileId := 0
  path := "far.tt"
  source := ""
  nodes :=
    [.codeBlock
      { kind := .statement, code := some ⟨"ab", ⟨18446744073709551615, 18446744073709551615⟩⟩, span := ⟨0, 0⟩ }]

/-- **Not every range of the author's is traced back**: one behind the first character of that code
has no origin, since the place would not fit a word. -/
theorem redirect?_farTemplate :
    (∀ text ∈ copiedTexts .standard .designTime farTemplate, joiner ∉ text.toList)
      ∧ ∃ unit m, generate .standard .designTime Stop.never farTemplate = .ok unit
        ∧ IsAuthored (layout .standard .designTime farTemplate) ⟨397, 397⟩ m
        ∧ unit.redirect? ⟨397, 397⟩ = .error .sum := by
  have hjoiner : ∀ text ∈ copiedTexts .standard .designTime farTemplate, joiner ∉ text.toList := by
    decide +kernel
  have hspan : IsAuthored (layout .standard .designTime farTemplate) ⟨397, 397⟩
      ⟨⟨396, 398⟩, ⟨0, ⟨18446744073709551615, 18446744073709551615⟩⟩⟩ := by
    have hparts : "ab".toList = "a".toList ++ [] ++ "b".toList := by decide
    have hfront : Piece.widthOf ((layout .standard .designTime farTemplate).take 8) = 396 := by
      decide +kernel
    have hpart := IsAuthored.of_parts ((layout .standard .designTime farTemplate).take 8)
      (.code "ab" ⟨0, ⟨18446744073709551615, 18446744073709551615⟩⟩) ((layout .standard .designTime farTemplate).drop 9)
      rfl rfl hparts
    rw [hfront] at hpart
    exact hpart
  refine ⟨hjoiner, _, _, generate_eq_ofPieces_layout _ _ _, hspan, ?_⟩
  rw [redirect?_of_isAuthored hjoiner hspan]
  exact if_neg (by decide)

end Generation

end TextTemplate
