import TextTemplate.Proofs.SourceMap

/-!
# A namespace only moves the class

The class of a preprocessed template stands in a namespace: one line opens it in front of the class
and one closes it behind. What stands between is the class as it is without a namespace, so the
mappings are the same ones, moved by the length of the first line.

Both lookups follow. The halving that finds the mapping around a range compares the start of the
range with the starts of mappings, and since all of them move by one length it takes the same turns
(`partitionFrom_map`); so the origin of a moved range is the old one. In the other direction the
mapping is chosen by where it comes from, which has not moved, and only what is found moves. There
lies the one difference: what is found may now end behind the last word.
-/

namespace TextTemplate

/-- **What a lookup finds after the text in front has grown**: nothing, if it found nothing, or else
the old place moved to the right, as long as its end is a word. -/
def Span.movedBy (k : Nat) : Option Span → Except OffsetOverflow (Option Span)
  | none => .ok none
  | some span => if span.stop + k < UInt64.size then .ok (some (span.shift k)) else .error .sum

namespace Mapping

/-! ## Lookups among moved mappings -/

/-- **Halving takes the same turns** in a list whose mappings have been changed, if the changed
mappings are asked the same question. -/
theorem partitionFrom_map (p : Mapping → Bool) (f : Mapping → Mapping) (ms : Array Mapping)
    (lo hi : Nat) (h : hi ≤ ms.size) (h' : hi ≤ (ms.map f).size) :
    partitionFrom p (ms.map f) lo hi h' = partitionFrom (p ∘ f) ms lo hi h := by
  induction lo, hi, h using partitionFrom.induct (p ∘ f) ms with
  | case1 lo hi h hlt mid hmid hp ih =>
    have hasked : p (ms.map f)[mid] = true := by
      rw [Array.getElem_map]
      exact hp
    rw [partitionFrom, dif_pos hlt, partitionFrom, dif_pos hlt]
    exact (if_pos hasked).trans ((ih h').trans (if_pos hp).symm)
  | case2 lo hi h hlt mid hmid hp ih =>
    have hasked : ¬p (ms.map f)[mid] = true := by
      rw [Array.getElem_map]
      exact hp
    rw [partitionFrom, dif_pos hlt, partitionFrom, dif_pos hlt]
    exact (if_neg hasked).trans ((ih _).trans (if_neg hp).symm)
  | case3 lo hi h hlt =>
    rw [partitionFrom, dif_neg hlt, partitionFrom, dif_neg hlt]

/-- **The mapping around a moved range** is the moved one. -/
theorem containing?_map_shift (k : Nat) (ms : Array Mapping) (span : Span) :
    containing? (ms.map (shift k)) (span.shift k) = (containing? ms span).map (shift k) := by
  have hstarts : (fun m : Mapping => decide (m.generated.start ≤ (span.shift k).start)) ∘ shift k
      = fun m => decide (m.generated.start ≤ span.start) := by
    funext m
    exact decide_eq_decide.mpr Nat.add_le_add_iff_right
  have hpoint :
      partitionPoint (fun m => m.generated.start ≤ (span.shift k).start) (ms.map (shift k))
        = partitionPoint (fun m => m.generated.start ≤ span.start) ms := by
    unfold partitionPoint
    rw [← hstarts, ← partitionFrom_map _ _ _ _ _ _ (Nat.le_of_eq Array.size_map.symm)]
    simp only [Array.size_map]
  have hstops : (fun m : Mapping => decide ((span.shift k).stop ≤ m.generated.stop)) ∘ shift k
      = fun m => decide (span.stop ≤ m.generated.stop) := by
    funext m
    exact decide_eq_decide.mpr Nat.add_le_add_iff_right
  unfold containing?
  rw [hpoint]
  cases partitionPoint (fun m => m.generated.start ≤ span.start) ms with
  | zero => rfl
  | succ n =>
    dsimp only
    rw [Array.getElem?_map, Option.filter_map, hstops]

/-- A span that is moved with what it is behind stands as far behind another offset as before. -/
theorem rebase_shift (k : Nat) (span : Span) (origin base : Nat) :
    (span.shift k).rebase (origin + k) base = span.rebase origin base := by
  have hsub : ∀ a b : Nat, subtractOffsets (a + k) (b + k) = subtractOffsets a b := by
    intro a b
    unfold subtractOffsets
    simp only [Nat.add_le_add_iff_right, Nat.add_sub_add_right]
  unfold Span.rebase
  simp only [Span.shift, hsub]

/-- **A moved range has the origin that it had**, and the lookup fails if it failed. -/
theorem toOrigin?_map_shift (k : Nat) (ms : Array Mapping) (span : Span) :
    toOrigin? (ms.map (shift k)) (span.shift k) = toOrigin? ms span := by
  have hreversed : (span.shift k).stop < (span.shift k).start ↔ span.stop < span.start :=
    Nat.add_lt_add_iff_right
  unfold toOrigin?
  rw [containing?_map_shift]
  by_cases hspan : span.stop < span.start
  · rw [if_pos hspan, if_pos (hreversed.mpr hspan)]
  · rw [if_neg hspan, if_neg (mt hreversed.mp hspan)]
    cases containing? ms span with
    | none => rfl
    | some m =>
      exact congrArg (· >>= _) (rebase_shift k span m.generated.start m.origin.span.start)

/-- **A place stands where it stood, moved**, as long as that ends at a word. -/
theorem toGenerated?_map_shift (k : Nat) (ms : Array Mapping) (fileId : Nat) (span : Span) :
    toGenerated? (ms.map (shift k)) fileId span
      = toGenerated? ms fileId span >>= Span.movedBy k := by
  -- what a mapping comes from does not move, so the same one is found
  have hfind : (ms.map (shift k)).find? (comesFrom fileId span)
      = (ms.find? (comesFrom fileId span)).map (shift k) := Array.find?_map
  by_cases hspan : span.start ≤ span.stop
  · cases hm : ms.find? (comesFrom fileId span) with
    | none =>
      rw [hm, Option.map_none] at hfind
      rw [toGenerated?_of_find_none hfind, toGenerated?_of_find_none hm]
      rfl
    | some m =>
      have hmoved : (m.shift k).carryBack span = (m.carryBack span).shift k := by
        simp only [carryBack, shift, Span.shift, Nat.add_right_comm]
      rw [hm, Option.map_some] at hfind
      rw [toGenerated?_of_find hspan hfind, toGenerated?_of_find hspan hm, hmoved]
      by_cases hword : (m.carryBack span).stop < UInt64.size
      · rw [if_pos hword]
        rfl
      · have hmore : ¬((m.carryBack span).shift k).stop < UInt64.size :=
          fun hlt => hword (Nat.lt_of_le_of_lt (Nat.le_add_right _ k) hlt)
        rw [if_neg hword, if_neg hmore]
        rfl
  · have hnone : ∀ ms : Array Mapping, toGenerated? ms fileId span = .ok none :=
      fun ms => if_pos (Nat.lt_of_not_le hspan)
    rw [hnone, hnone]
    rfl

end Mapping

namespace Generation

open Visit

/-! ## The class in a namespace -/

/-- **The layout of a class in a namespace** is that of the class without one between two lines. -/
theorem layout_of_namespace {mode plain : Mode} {ns : String} (hmode : mode.namespace? = some ns)
    (hplain : plain.namespace? = none) (schema : Schema) (d : Document) :
    layout schema mode d
      = [line ("namespace " ++ ns ++ " \x7b")] ++ layout schema plain d ++ [line "\x7d"] := by
  unfold layout namespaceOpening namespaceClosing
  rw [hmode, hplain]
  simp only [Option.map_some, Option.map_none, Option.toList_some, Option.toList_none,
    List.nil_append, List.append_nil, List.append_assoc]

/-- The class that some pieces describe, between two lines. -/
theorem ofPieces_between (opening closing : String) (ps : List Piece) :
    GeneratedUnit.ofPieces ([line opening] ++ ps ++ [line closing])
      = ⟨opening ++ "\n" ++ Piece.textOf ps ++ (closing ++ "\n"),
          (GeneratedUnit.ofPieces ps).mappings.map
            (Mapping.shift (opening ++ "\n").utf8ByteSize)⟩ := by
  have hfixed : ∀ offset text, Piece.mappingsFrom offset [line text] = [] := fun _ _ => rfl
  have htext : ∀ text, Piece.textOf [line text] = text ++ "\n" := fun _ => String.append_empty
  unfold GeneratedUnit.ofPieces
  rw [Piece.textOf_append, Piece.textOf_append, htext, htext, Piece.mappingsFrom_append,
    Piece.mappingsFrom_append, hfixed, hfixed, List.nil_append, List.append_nil,
    ← Piece.utf8ByteSize_textOf, htext, List.map_toArray, Piece.map_shift_mappingsFrom]

/-- **Tokens that claim no more than their text**: no place that the class takes over is longer than
what was read there. -/
def TokensFit (schema : Schema) (d : Document) : Prop :=
  ∀ v ∈ d.visits, ∀ token ∈ v.copiedTokens schema,
    token.span.stop ≤ token.span.start + token.text.utf8ByteSize

/-- **What is carried back ends inside the class**, if the tokens claim no more than their text. -/
theorem stop_carryBack_le {schema : Schema} {mode : Mode} {d : Document} (h : TokensFit schema d)
    {m : Mapping} (hm : m ∈ Piece.mappingsFrom 0 (layout schema mode d)) {span : Span}
    (hstop : span.stop ≤ m.origin.span.stop) :
    (m.carryBack span).stop ≤ (Piece.textOf (layout schema mode d)).utf8ByteSize := by
  have hpieces : ∀ p ∈ layout schema mode d, ∀ origin, p.origin? = some origin →
      origin.span.stop ≤ origin.span.start + p.width := by
    refine forall_mem_layout ?_ nofun ?_
    · intro p hp origin horigin
      rw [origin?_of_mem_texts p hp] at horigin
      cases horigin
    · intro v hv token htoken
      refine ⟨?_, ?_, nofun⟩
      · rintro _ ⟨⟩
        exact h v hv token htoken
      · rintro _ ⟨⟩
        exact h v hv token htoken
  obtain ⟨-, -, hinside⟩ := Piece.bounds_of_mem_mappingsFrom hm
  obtain ⟨front, p, back, hps, hmapping⟩ := Piece.mem_mappingsFrom.mp hm
  obtain ⟨horigin, hgenerated⟩ := Piece.mapping?_eq_some_iff.mp hmapping
  have hfit := hpieces p (hps ▸ List.mem_append_right front List.mem_cons_self) _ horigin
  rw [Piece.utf8ByteSize_textOf]
  rw [hgenerated] at hinside
  simp only [Mapping.carryBack, hgenerated] at hinside ⊢
  omega

/-- So a place is found, and still is after the class has moved, if the moved class ends at a word.
-/
theorem exists_movedBy_of_tokensFit {schema : Schema} {d : Document} (h : TokensFit schema d)
    (mode : Mode) {k : Nat}
    (hsize : (Piece.textOf (layout schema mode d)).utf8ByteSize + k < UInt64.size) (fileId : Nat)
    (span : Span) :
    ∃ found, (GeneratedUnit.ofPieces (layout schema mode d)).toGenerated? fileId span = .ok found
      ∧ Span.movedBy k found = .ok (found.map (Span.shift k)) := by
  unfold GeneratedUnit.ofPieces GeneratedUnit.toGenerated?
  dsimp only
  cases hm : (Piece.mappingsFrom 0 (layout schema mode d)).toArray.find?
      (Mapping.comesFrom fileId span) with
  | none => exact ⟨none, Mapping.toGenerated?_of_find_none hm, rfl⟩
  | some m =>
    by_cases hspan : span.start ≤ span.stop
    · have hmem := List.mem_toArray.mp (Array.mem_of_find?_eq_some hm)
      have hfrom := Array.find?_some hm
      simp only [Mapping.comesFrom, Bool.and_eq_true, decide_eq_true_eq] at hfrom
      have hle := stop_carryBack_le h hmem hfrom.2
      refine ⟨some (m.carryBack span), ?_, if_pos (by omega)⟩
      rw [Mapping.toGenerated?_of_find hspan hm, if_pos (by omega)]
    · exact ⟨none, if_pos (Nat.lt_of_not_le hspan), rfl⟩

/-- **A namespace only moves the class.** For every document and schema, and any two modes of which
one has a namespace and one has none:

* the class in the namespace is the other class between a line that opens the namespace and one that
  closes it, and has its mappings moved by the length of the first line;
* a range moved by this length has the origin that the range has in the other class, whatever the
  range is;
* a place of a document stands where it stands in the other class moved by this length, or nowhere
  if it stands nowhere there. The lookup fails where the other one does, and also if the moved end
  does not fit a word;
* neither lookup fails so if the tokens claim no more than their text and the class has the length
  of a word. -/
theorem generate_of_namespace (schema : Schema) (mode plain : Mode) (ns : String) (d : Document)
    (hmode : mode.namespace? = some ns) (hplain : plain.namespace? = none) :
    ∃ unit base, generate schema mode Stop.never d = .ok unit
      ∧ generate schema plain Stop.never d = .ok base
      ∧ let opening := "namespace " ++ ns ++ " \x7b" ++ "\n"
        let k := opening.utf8ByteSize
        unit.text = opening ++ base.text ++ ("\x7d" ++ "\n")
          ∧ unit.mappings = base.mappings.map (Mapping.shift k)
          ∧ (∀ span, unit.toOrigin? (span.shift k) = base.toOrigin? span)
          ∧ (∀ fileId span,
              unit.toGenerated? fileId span = base.toGenerated? fileId span >>= Span.movedBy k)
          ∧ (TokensFit schema d → unit.text.utf8ByteSize < UInt64.size → ∀ fileId span,
              ∃ found, base.toGenerated? fileId span = .ok found
                ∧ unit.toGenerated? fileId span = .ok (found.map (Span.shift k))) := by
  have hunit := generate_eq_ofPieces_layout schema mode d
  rw [layout_of_namespace hmode hplain, ofPieces_between] at hunit
  refine ⟨_, _, hunit, generate_eq_ofPieces_layout schema plain d, rfl, rfl, ?_, ?_, ?_⟩
  · intro span
    exact Mapping.toOrigin?_map_shift _ _ span
  · intro fileId span
    exact Mapping.toGenerated?_map_shift _ _ fileId span
  · intro hfit hsize fileId span
    rw [String.utf8ByteSize_append, String.utf8ByteSize_append] at hsize
    obtain ⟨found, hfound, hmoved⟩ := exists_movedBy_of_tokensFit hfit plain
      (k := ("namespace " ++ ns ++ " \x7b" ++ "\n").utf8ByteSize) (by omega) fileId span
    refine ⟨found, hfound, (Mapping.toGenerated?_map_shift _ _ fileId span).trans ?_⟩
    exact (congrArg (· >>= Span.movedBy _) hfound).trans hmoved

/-- A template with an included one, in a namespace whose name has a letter of two bytes: the line
in front has 20 bytes, and by so many a character of the inner template is further back. -/
theorem generate_of_namespace_accented :
    (Mode.preprocessedIn "Zähler").namespace? = some "Zähler" ∧ Mode.designTime.namespace? = none
      ∧ TokensFit .standard nestedTemplate
      ∧ ∃ unit base,
        generate .standard (.preprocessedIn "Zähler") Stop.never nestedTemplate = .ok unit
        ∧ generate .standard .designTime Stop.never nestedTemplate = .ok base
        ∧ unit.text.utf8ByteSize < UInt64.size
        ∧ base.toOrigin? ⟨465, 467⟩ = .ok (some ⟨1, ⟨4, 6⟩⟩)
        ∧ unit.toOrigin? ⟨485, 487⟩ = .ok (some ⟨1, ⟨4, 6⟩⟩)
        ∧ base.toGenerated? 1 ⟨4, 6⟩ = .ok (some ⟨465, 467⟩)
        ∧ unit.toGenerated? 1 ⟨4, 6⟩ = .ok (some ⟨485, 487⟩) := by
  have hmode : (Mode.preprocessedIn "Zähler").namespace? = some "Zähler" := by decide +kernel
  have hfit : TokensFit .standard nestedTemplate := by
    unfold TokensFit
    decide +kernel
  have hsize :
      ((generate .standard (.preprocessedIn "Zähler") Stop.never nestedTemplate).toOption.all
        fun unit => unit.text.utf8ByteSize < UInt64.size) = true := by
    decide +kernel
  have hmappings :
      (generate .standard .designTime Stop.never nestedTemplate).toOption.map (·.mappings)
        = some #[⟨⟨396, 400⟩, ⟨0, ⟨2, 6⟩⟩⟩, ⟨⟨464, 471⟩, ⟨1, ⟨3, 10⟩⟩⟩] := by decide +kernel
  obtain ⟨unit, ⟨text, mappings⟩, hunit, hbase, -, -, horigin, -, hplace⟩ :=
    generate_of_namespace .standard _ .designTime "Zähler" nestedTemplate hmode rfl
  rw [hunit] at hsize
  rw [hbase] at hmappings
  cases hmappings
  have hword : unit.text.utf8ByteSize < UInt64.size := of_decide_eq_true hsize
  have hback : GeneratedUnit.toOrigin?
      ⟨text, #[⟨⟨396, 400⟩, ⟨0, ⟨2, 6⟩⟩⟩, ⟨⟨464, 471⟩, ⟨1, ⟨3, 10⟩⟩⟩]⟩ ⟨465, 467⟩
        = .ok (some ⟨1, ⟨4, 6⟩⟩) := by
    cbv
  have hover : GeneratedUnit.toGenerated?
      ⟨text, #[⟨⟨396, 400⟩, ⟨0, ⟨2, 6⟩⟩⟩, ⟨⟨464, 471⟩, ⟨1, ⟨3, 10⟩⟩⟩]⟩ 1 ⟨4, 6⟩
        = .ok (some ⟨465, 467⟩) := by
    cbv
  obtain ⟨found, hfound, hmoved⟩ := hplace hfit hword 1 ⟨4, 6⟩
  rw [hover, Except.ok.injEq] at hfound
  subst hfound
  exact ⟨hmode, rfl, hfit, unit, _, hunit, hbase, hword, hback, (horigin ⟨465, 467⟩).trans hback,
    hover, hmoved⟩

/-- A template with two bytes of code that claim to be as long as all words. -/
def wideTemplate : Document where
  fileId := 0
  path := "wide.tt"
  source := ""
  nodes :=
    [.codeBlock
      { kind := .statement, code := some ⟨"ab", ⟨0, 18446744073709551615⟩⟩, span := ⟨0, 0⟩ }]

/-- **Not every place moves with the class**: one far inside that code is found in the class without
a namespace, and behind a line of 16 bytes it would not fit a word. -/
theorem toGenerated?_wideTemplate :
    (Mode.preprocessedIn "App").namespace? = some "App" ∧ Mode.designTime.namespace? = none
      ∧ ∃ unit base, generate .standard (.preprocessedIn "App") Stop.never wideTemplate = .ok unit
        ∧ generate .standard .designTime Stop.never wideTemplate = .ok base
        ∧ base.toGenerated? 0 ⟨18446744073709551210, 18446744073709551210⟩
          = .ok (some ⟨18446744073709551606, 18446744073709551606⟩)
        ∧ unit.toGenerated? 0 ⟨18446744073709551210, 18446744073709551210⟩ = .error .sum := by
  obtain ⟨⟨text, mappings⟩, hunit⟩ :
      ∃ unit, generate .standard (.preprocessedIn "App") Stop.never wideTemplate = .ok unit :=
    ⟨_, generate_eq_ofPieces_layout ..⟩
  obtain ⟨⟨plainText, plainMappings⟩, hbase⟩ :
      ∃ base, generate .standard .designTime Stop.never wideTemplate = .ok base :=
    ⟨_, generate_eq_ofPieces_layout ..⟩
  have hmappings : (generate .standard (.preprocessedIn "App") Stop.never wideTemplate).toOption.map
      (·.mappings) = some #[⟨⟨412, 414⟩, ⟨0, ⟨0, 18446744073709551615⟩⟩⟩] := by
    decide +kernel
  have hplain : (generate .standard .designTime Stop.never wideTemplate).toOption.map (·.mappings)
      = some #[⟨⟨396, 398⟩, ⟨0, ⟨0, 18446744073709551615⟩⟩⟩] := by
    decide +kernel
  rw [hunit] at hmappings
  rw [hbase] at hplain
  cases hmappings
  cases hplain
  have hfound : ∀ generated : Span,
      Mapping.toGenerated? #[⟨generated, ⟨0, ⟨0, 18446744073709551615⟩⟩⟩] 0
          ⟨18446744073709551210, 18446744073709551210⟩
        = if generated.start + 18446744073709551210 < UInt64.size then
            .ok (some ⟨generated.start + 18446744073709551210,
              generated.start + 18446744073709551210⟩)
          else .error .sum := by
    intro generated
    refine Mapping.toGenerated?_of_find (m := ⟨generated, ⟨0, ⟨0, 18446744073709551615⟩⟩⟩)
      (Nat.le_refl _) ?_
    simp [Mapping.comesFrom]
  refine ⟨by decide +kernel, rfl, _, _, hunit, hbase, ?_, ?_⟩
  · exact (hfound ⟨396, 398⟩).trans (if_pos (by decide))
  · exact (hfound ⟨412, 414⟩).trans (if_neg (by decide))

end Generation

end TextTemplate
