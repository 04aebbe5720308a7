import Mathlib.Data.List.Induction
import TextTemplate.Command.Check
import TextTemplate.Command.Generate
import TextTemplate.Document.Builder
import TextTemplate.Proofs.CommandRuns
import TextTemplate.Proofs.GenerationPass
import TextTemplate.Proofs.NodeProblems
import TextTemplate.Proofs.WalkEvents

/-!
# Which document a number denotes

Documents are named by numbers, and a tree may have several documents of one number: a document that
is included twice, or different ones to which the same number was given. Three parts of the program
make up their minds about it, each in its own way. `Document.find?` looks for the first document of
the number, `Sources.add` leaves out a document whose number is there, and a check remembers the
numbers that it has seen.

They all come to `Document.firsts`, the documents of a list whose number no document in front of
them has. Each of the three is compared with it by what one more document at the end of the list
does (`firsts_concat`). So the place of a problem is shown in the document that was checked, and
nothing that is found in a tree has a number that is unknown.
-/

namespace TextTemplate

namespace Document

/-- **The documents of a list whose number no document in front of them has**, in order. -/
def firsts (documents : List Document) : List Document :=
  (documents.zipIdx.filter fun x =>
    (documents.take x.2).all fun earlier => earlier.fileId != x.1.fileId).map Prod.fst

/-- One more document is one more if its number is new. -/
theorem firsts_concat (documents : List Document) (d : Document) :
    firsts (documents ++ [d])
      = firsts documents
        ++ if documents.all fun earlier => earlier.fileId != d.fileId then [d] else [] := by
  unfold firsts
  rw [List.zipIdx_append, List.filter_append, List.map_append]
  congr 1
  · congr 1
    refine List.filter_congr fun x hx => ?_
    have hlt : x.2 < documents.length := by
      have := List.mem_zipIdx hx
      omega
    rw [List.take_append_of_le_length (Nat.le_of_lt hlt)]
  · show (List.filter _ [(d, 0 + documents.length)]).map Prod.fst = _
    rw [Nat.zero_add, List.filter_cons, List.take_left]
    split <;> rfl

/-- **Of each number there is the first document**, and no other. -/
theorem filter_firsts (documents : List Document) (id : Nat) :
    (firsts documents).filter (fun d => d.fileId == id)
      = (documents.find? fun d => d.fileId == id).toList := by
  induction documents using List.reverseRecOn with
  | nil => rfl
  | append_singleton documents d ih =>
    rw [firsts_concat, List.filter_append, ih, List.find?_append]
    by_cases hd : d.fileId = id
    · cases hfind : documents.find? fun d => d.fileId == id with
      | none =>
        have hall : (documents.all fun earlier => earlier.fileId != d.fileId) = true := by
          refine List.all_eq_true.mpr fun earlier hearlier => ?_
          have := List.find?_eq_none.mp hfind earlier hearlier
          rw [hd, bne_iff_ne]
          simpa using this
        rw [if_pos hall, List.filter_cons_of_pos (by simpa using hd), List.find?_cons_of_pos
          (by simpa using hd)]
        rfl
      | some first =>
        have hall : ¬ (documents.all fun earlier => earlier.fileId != d.fileId) = true := by
          intro hall
          have hne := List.all_eq_true.mp hall first (List.mem_of_find?_eq_some hfind)
          have heq := List.find?_some hfind
          rw [bne_iff_ne, hd] at hne
          exact hne (beq_iff_eq.mp heq)
        rw [if_neg hall]
        rfl
    · have hnone : (if documents.all fun earlier => earlier.fileId != d.fileId then [d]
          else []).filter (fun d => d.fileId == id) = [] := by
        split
        · exact List.filter_cons_of_neg (by simpa using hd)
        · rfl
      rw [hnone, List.append_nil, List.find?_cons_of_neg (by simpa using hd), List.find?_nil,
        Option.or_none]

theorem find?_firsts (documents : List Document) (id : Nat) :
    (firsts documents).find? (fun d => d.fileId == id)
      = documents.find? fun d => d.fileId == id := by
  rw [← List.head?_filter, filter_firsts, Option.head?_toList]

/-- A document is first if no document in front of it has its number. -/
theorem find?_eq_some_iff_exists_split {d m : Document} {id : Nat} :
    d.find? id = some m
      ↔ ∃ front back, d.family = front ++ m :: back ∧ m.fileId = id
        ∧ ∀ earlier ∈ front, earlier.fileId ≠ id := by
  unfold find?
  rw [List.find?_eq_some_iff_append]
  constructor
  · rintro ⟨hm, front, back, hfamily, hfront⟩
    refine ⟨front, back, hfamily, beq_iff_eq.mp hm, fun earlier hearlier => ?_⟩
    simpa using hfront earlier hearlier
  · rintro ⟨front, back, hfamily, hm, hfront⟩
    refine ⟨beq_iff_eq.mpr hm, front, back, hfamily, fun earlier hearlier => ?_⟩
    simpa using hfront earlier hearlier

/-- Every number of a tree is found. -/
theorem exists_find?_eq_some {d member : Document} (h : member ∈ d.family) :
    ∃ m, d.find? member.fileId = some m :=
  Option.isSome_iff_exists.mp (List.find?_isSome.mpr ⟨member, h, beq_self_eq_true _⟩)

end Document

open Document

/-! ## Three ways to leave out documents -/

namespace Sources

/-- **The index of a number leads to the first document of the number** among those registered. -/
def Indexed (s : Sources) : Prop :=
  ∀ id, s.index? id = s.files.findIdx? fun d => d.fileId == id

/-- So what is found by the index is what is found by looking through the documents. -/
theorem Indexed.get?_eq {s : Sources} (h : s.Indexed) (id : Nat) :
    s.get? id = s.files.find? fun d => d.fileId == id := by
  unfold get?
  rw [h id, ← List.find?_eq_bind_findIdx?_getElem?]

theorem files_add (s : Sources) (d : Document) :
    (s.add d).files = if (s.index? d.fileId).isSome then s.files else s.files ++ [d] := by
  unfold add
  split <;> rfl

theorem Indexed.add {s : Sources} (h : s.Indexed) (d : Document) : (s.add d).Indexed := by
  unfold Sources.add
  split
  · exact h
  · rename_i hnew
    intro id
    have hnone : s.files.findIdx? (fun e => e.fileId == d.fileId) = none := by
      rw [← h d.fileId]
      exact Option.not_isSome_iff_eq_none.mp hnew
    show List.lookup id ((d.fileId, s.files.length) :: s.ids) = _
    rw [List.findIdx?_append, List.findIdx?_singleton, List.lookup_cons]
    by_cases hid : id = d.fileId
    · subst hid
      rw [hnone]
      simp only [beq_self_eq_true, if_true, Option.map_some, Nat.zero_add, Option.none_or]
    · have hne : ¬ (d.fileId == id) = true := by simpa using Ne.symm hid
      have hlookup : s.ids.lookup id = s.files.findIdx? fun e => e.fileId == id := h id
      rw [beq_eq_false_iff_ne.mpr hid, if_neg hne, Option.map_none, Option.or_none]
      exact hlookup

/-- **The registered documents are the first ones**, and their indices are known. -/
theorem foldl_add (documents : List Document) :
    (documents.foldl add {}).Indexed ∧ (documents.foldl add {}).files = firsts documents := by
  induction documents using List.reverseRecOn with
  | nil => exact ⟨fun _ => rfl, rfl⟩
  | append_singleton documents d ih =>
    obtain ⟨hindexed, hfiles⟩ := ih
    rw [List.foldl_append, List.foldl_cons, List.foldl_nil, firsts_concat]
    refine ⟨hindexed.add d, ?_⟩
    have hknown : ((documents.foldl add {}).index? d.fileId).isSome
        = documents.any fun e => e.fileId == d.fileId := by
      rw [hindexed, List.findIdx?_isSome, ← List.isSome_find?, hfiles, find?_firsts,
        List.isSome_find?]
    have hall : (documents.all fun earlier => earlier.fileId != d.fileId)
        = !documents.any fun e => e.fileId == d.fileId := List.not_any_eq_all_not.symm
    rw [files_add, hknown, hall, hfiles]
    cases documents.any fun e => e.fileId == d.fileId with
    | true => exact (List.append_nil _).symm
    | false => rfl

/-- The source of a number is the document that the number denotes. -/
theorem get?_ofDocument (d : Document) (id : Nat) : (ofDocument d).get? id = d.find? id := by
  obtain ⟨hindexed, hfiles⟩ := foldl_add d.family
  unfold Document.find? ofDocument
  rw [hindexed.get?_eq, hfiles, find?_firsts]

end Sources

namespace Command

/-- One more document is left out if its number has been seen. -/
theorem unseen_concat (seen : List Nat) (documents : List Document) (d : Document) :
    unseen seen (documents ++ [d])
      = unseen seen documents
        ++ if !seen.contains d.fileId && documents.all fun e => e.fileId != d.fileId then [d]
          else [] := by
  induction documents generalizing seen with
  | nil =>
    rw [List.nil_append, unseen, unseen]
    cases seen.contains d.fileId <;> rfl
  | cons e documents ih =>
    rw [List.cons_append, unseen, unseen, List.all_cons]
    cases hseen : seen.contains e.fileId with
    | true =>
      rw [if_pos rfl, if_pos rfl, ih]
      congr 2
      -- What has been seen before the list is none of the document's concern in the list.
      by_cases hed : e.fileId = d.fileId
      · rw [← hed, hseen]
        rfl
      · rw [bne_iff_ne.mpr hed, Bool.true_and]
    | false =>
      have hne : (!(d.fileId == e.fileId)) = (e.fileId != d.fileId) := by
        rw [bne, BEq.comm]
      rw [if_neg Bool.false_ne_true, if_neg Bool.false_ne_true, ih, List.cons_append,
        List.contains_cons, Bool.not_or, hne, Bool.and_assoc, Bool.and_left_comm]

/-- **The documents that are checked are the first documents.** -/
theorem checkedDocuments_eq_firsts (d : Document) : checkedDocuments d = firsts d.family := by
  unfold checkedDocuments
  induction d.family using List.reverseRecOn with
  | nil => rfl
  | append_singleton documents e ih =>
    rw [unseen_concat, firsts_concat, ih]
    rfl

end Command

/-! ## The numbers in a tree are known -/

namespace Validation

variable {schema : Schema} {preprocessed : Bool} {d : Document}

/-- All that the pass has found is in the document. -/
def Pass.FoundIn (d : Document) (p : Pass) : Prop := ∀ x ∈ p.found, x.fileId = d.fileId

theorem Pass.FoundIn.report {p : Pass} (h : p.FoundIn d) {problems : List Diagnostic}
    (hproblems : ∀ x ∈ problems, x.fileId = d.fileId) : (p.report problems).FoundIn d :=
  List.forall_mem_append.mpr ⟨h, hproblems⟩

theorem Pass.FoundIn.checkTail {p : Pass} (h : p.FoundIn d) (node : Node) :
    (p.checkTail d node).FoundIn d := by
  unfold Pass.checkTail
  split
  · exact h
  · split
    · exact h
    · split
      · exact h
      · exact List.forall_mem_append.mpr ⟨h, List.forall_mem_singleton.mpr rfl⟩

theorem fileId_of_mem_directiveProblems {fileId : Nat} {directive : Directive} :
    ∀ x ∈ directiveProblems schema preprocessed fileId directive, x.fileId = fileId := by
  unfold directiveProblems
  split
  · exact List.forall_mem_nil _
  · refine List.forall_mem_append.mpr ⟨fun x hx => ?_, ?_⟩
    · obtain ⟨a, -, rfl⟩ := List.mem_map.mp hx
      rfl
    · split
      · exact List.forall_mem_singleton.mpr rfl
      · exact List.forall_mem_nil _

theorem fileId_of_mem_valueProblems {directive : Directive} :
    ∀ x ∈ valueProblems schema d.fileId directive, x.fileId = d.fileId := by
  intro x hx
  rw [valueProblems_eq] at hx
  obtain ⟨a, -, ha⟩ := List.mem_filterMap.mp hx
  unfold attributeProblem? at ha
  split at ha
  · cases ha
  · cases ha
    rfl
  · obtain ⟨rule, -, rfl⟩ := Option.map_eq_some_iff.mp ha
    rfl

/-- **A node adds problems of its own document only.** -/
theorem Pass.FoundIn.enter {p : Pass} (h : p.FoundIn d) (node : Node) (position : Nat) :
    (Pass.enter schema preprocessed d node position p).FoundIn d := by
  unfold Pass.enter
  split
  · exact h.report (List.forall_mem_singleton.mpr rfl)
  · exact ((h.report fileId_of_mem_directiveProblems).checkTail _).report
      fileId_of_mem_valueProblems
  · split
    · split
      · exact (h.report (List.forall_mem_singleton.mpr rfl)).checkTail _
      · exact h.checkTail _
    · split
      · exact h
      · exact Pass.FoundIn.checkTail (p := { p with seenFeature := true }) h _
    · exact h.checkTail _
  · exact h.checkTail _

theorem Pass.FoundIn.leave {p : Pass} (h : p.FoundIn d) (node : Node) (position : Nat) :
    (Pass.leave d node position p).FoundIn d := by
  unfold Pass.leave
  split
  · exact h
  · exact h

/-- **A check that is not told to stop finds problems, all of them in the document itself.** -/
theorem exists_validate_eq_ok (schema : Schema) (mode : Mode) (d : Document) :
    ∃ problems, validate schema mode Stop.never d = .ok problems
      ∧ ∀ x ∈ problems, x.fileId = d.fileId := by
  have hpass : d.pass (visitor schema mode.preprocessed d) Stop.never {}
      = .ok (d.nodes.zipIdx.foldl
          (fun p x => (Pass.enter schema mode.preprocessed d x.1 x.2 p).leave d x.1 x.2) {}) := by
    unfold Document.pass Document.walk
    show Except.mapError _ ((·.2) <$> Node.walkAll _ (fun _ _ => false) _ _ _) = _
    rw [Node.walkAll_of_not_descends _ rfl]
    rfl
  have hfold : ∀ (nodes : List (Node × Nat)) (p : Pass), p.FoundIn d →
      (nodes.foldl (fun p x =>
        (Pass.enter schema mode.preprocessed d x.1 x.2 p).leave d x.1 x.2) p).FoundIn d := by
    intro nodes
    induction nodes with
    | nil => exact fun _ h => h
    | cons x nodes ih => exact fun p h => ih _ ((h.enter x.1 x.2).leave x.1 x.2)
  refine ⟨_, ?_, hfold d.nodes.zipIdx {} (List.forall_mem_nil _)⟩
  unfold validate
  rw [hpass]
  rfl

end Validation

/-- **What a class is mapped to lies in documents of the tree**, by their numbers. -/
theorem Generation.exists_mem_family_of_mem_mappings {schema : Schema} {mode : Mode} {stop : Stop}
    {d : Document} {unit : GeneratedUnit} (h : generate schema mode stop d = .ok unit)
    {mapping : Mapping} (hmapping : mapping ∈ unit.mappings.toList) :
    ∃ member ∈ d.family, member.fileId = mapping.origin.fileId := by
  -- A class that is generated at all is the one that is generated if nobody says to stop.
  have hunit : unit = .ofPieces (layout schema mode d) := by
    obtain ⟨made, hmade, hall⟩ := exists_map_pass_eq (visitor schema) (assemble mode.namespace?) d
      { files := [d.fileId] }
    have hlayout := generate_eq_ofPieces_layout schema mode d
    unfold generate at h hlayout
    rw [hmade, Except.ok.injEq] at hlayout
    rw [hall] at h
    split at h
    · cases h
    · rw [← hlayout]
      exact (Except.ok.inj h).symm
  have horigins : ∀ p ∈ layout schema mode d, ∀ origin, p.origin? = some origin →
      ∃ member ∈ d.family, member.fileId = origin.fileId := by
    refine forall_mem_layout (fun p hp origin horigin => ?_) (fun _ _ _ horigin => ?_)
      fun v hv token _ => ?_
    · rw [origin?_of_mem_texts p hp] at horigin
      cases horigin
    · cases horigin
    · obtain ⟨member, hmember, hfile, -⟩ := exists_of_mem_visits hv
      refine ⟨fun _ horigin => ?_, fun _ horigin => ?_, fun _ horigin => ?_⟩
      · cases horigin
        exact ⟨member, hmember, hfile⟩
      · cases horigin
        exact ⟨member, hmember, hfile⟩
      · cases horigin
  have hmem : mapping.origin ∈ (layout schema mode d).filterMap Piece.origin? := by
    rw [← Piece.map_origin_mappingsFrom 0]
    rw [hunit] at hmapping
    exact List.mem_map_of_mem hmapping
  obtain ⟨p, hp, horigin⟩ := List.mem_filterMap.mp hmem
  exact horigins p hp _ horigin

/-! ## What a check comes to -/

namespace Command

/-- The problems of documents, one after another. -/
theorem problemsOf_eq_ok {schema : Schema} {mode : Mode} {problems : Document → List Diagnostic}
    (h : ∀ m, Validation.validate schema mode .never m = .ok (problems m))
    (documents : List Document) :
    problemsOf schema mode documents = .ok (documents.map fun m => (m, problems m)) := by
  unfold problemsOf
  induction documents with
  | nil => rfl
  | cons m documents ih =>
    rw [List.mapM_cons, ih, h]
    rfl

/-- **A problem in a document that is known is laid out**, with the index of the document. -/
theorem exists_problemLines_eq {sources : Sources} {x : Diagnostic} {m : Document}
    (h : sources.get? x.fileId = some m) :
    ∃ index, sources.files[index]? = some m ∧ ∀ layout, problemLines layout sources x
      = layout sources.files { x.report with labels := [(index, x.span)] } := by
  obtain ⟨index, hindex, hfile⟩ := Option.bind_eq_some_iff.mp h
  refine ⟨index, hfile, fun layout => ?_⟩
  unfold problemLines
  simp only [Diagnostic.report, List.mapM_cons, List.mapM_nil, hindex]
  rfl

/-- In brief it is shown with its place. -/
theorem problemLines_brief {sources : Sources} {x : Diagnostic} {m : Document}
    (h : sources.get? x.fileId = some m) :
    problemLines .brief sources x
      = (severityWord x.severity ++ "[" ++ x.kind.code ++ "]: " ++ x.message)
        :: ("┌─ " ++ (Text.charPosition m.source x.span.start).render m.path)
        :: x.report.notes.map ("= " ++ ·) := by
  obtain ⟨index, hfile, hlines⟩ := exists_problemLines_eq h
  rw [hlines]
  simp only [Layout.brief, List.filterMap_cons, List.filterMap_nil, hfile]
  rfl

/-- A place in a document that is known is shown with its path. -/
theorem location_of_get?_eq_some {sources : Sources} {id : Nat} {m : Document}
    (h : sources.get? id = some m) (span : Span) :
    sources.location id span = (Text.bytePosition m.source span.start).render m.path := by
  unfold Sources.location
  rw [h]

/-- Only errors make a check fail. -/
theorem exitCode_eq_one_iff {problems : List Diagnostic} :
    exitCode problems = 1 ↔ ∃ x ∈ problems, x.isError = true := by
  unfold exitCode
  rw [← List.any_eq_true]
  split
  · rename_i hany
    exact iff_of_true rfl hany
  · rename_i hany
    exact iff_of_false Nat.zero_ne_one hany

theorem exitCode_eq_one_or_zero (problems : List Diagnostic) :
    exitCode problems = 1 ∨ exitCode problems = 0 := by
  unfold exitCode
  split
  · exact Or.inl rfl
  · exact Or.inr rfl

/-- The messages of a check: of the log, the problems, and how many there are. -/
def checkMessages (layout : Layout) (input : Input) (problems : Document → List Diagnostic) :
    List String :=
  let checked := checkedDocuments input.document
  let listed := checked.flatMap problems
  ((checked.map fun m => documentValidated m (problems m)).filter input.filter.shows).map
      Log.Entry.line
    ++ listed.flatMap (problemLines layout (.ofDocument input.document))
    ++ [summary input.document.path listed]

/-- **A check tells the problems of each document that is checked**, and does nothing else. -/
theorem outcome_check {input : Input} {problems : Document → List Diagnostic}
    (h : ∀ m, Validation.validate .standard input.settings.mode .never m = .ok (problems m))
    (layout : Layout) (w : World) :
    (check layout input).outcome w
      = (.ok (exitCode ((checkedDocuments input.document).flatMap problems)),
          { w with messages := w.messages ++ checkMessages layout input problems }) := by
  let found := (checkedDocuments input.document).map fun m => (m, problems m)
  have hfound : Action.outcome (Action.ofExcept Failure.cancelled
      (problemsOf .standard input.settings.mode (checkedDocuments input.document))) w
        = (.ok found, w) := by
    rw [problemsOf_eq_ok h]
    rfl
  have hlog := Action.outcome_forM_log input.filter
    (fun x : Document × List Diagnostic => documentValidated x.1 x.2) found w
  have hlisted : found.flatMap (·.2) = (checkedDocuments input.document).flatMap problems :=
    List.flatMap_map ..
  refine (Action.outcome_bind_of_ok hfound).trans ?_
  refine (Action.outcome_bind_of_ok hlog).trans ?_
  refine (Action.outcome_bind_of_ok (Action.outcome_tell _ _)).trans ?_
  refine (Action.outcome_bind_of_ok (Action.outcome_tell _ _)).trans ?_
  rw [Action.outcome_pure, hlisted]
  simp only [checkMessages, found, List.map_map, List.append_assoc]
  rfl

/-- **All parts of the program agree on which document a number denotes.** Let a template be given.
For every number, the document that is found, the source that is shown and the one document of the
number that is checked are the first document of the number in the tree, or there is none. The
documents that are checked are these, in the order of the tree; their problems are told in this
order, each document's once, and the check ends with 1 if there is an error among them and with 0
otherwise, however they are laid out. Every problem lies in the document in which it was found; the
layout is given its report with the index of that document, and in brief it is shown with its place
there. And every place to which a generated class is mapped, whether or not the generation was told
to stop, lies in a document that is known, and is shown with its path. -/
theorem check_and_sources_agree (input : Input) (w : World) :
    let d := input.document
    let sources := Sources.ofDocument d
    let checked := checkedDocuments d
    (∀ id, sources.get? id = d.find? id
        ∧ (checked.filter fun m => m.fileId == id) = (d.find? id).toList
        ∧ (∀ m, d.find? id = some m ↔ ∃ front back, d.family = front ++ m :: back
          ∧ m.fileId = id ∧ ∀ earlier ∈ front, earlier.fileId ≠ id)
        ∧ (d.find? id = none ↔ ∀ m ∈ d.family, m.fileId ≠ id))
      ∧ checked = firsts d.family
      ∧ (∃ problems : Document → List Diagnostic,
          (∀ m, Validation.validate .standard input.settings.mode .never m = .ok (problems m))
          ∧ (∃ code, (∀ layout, (check layout input).outcome w
              = (.ok code, { w with messages := w.messages ++ checkMessages layout input problems }))
            ∧ (code = 1 ↔ ∃ m ∈ checked, ∃ x ∈ problems m, x.isError = true)
            ∧ (code = 1 ∨ code = 0))
          ∧ ∀ m ∈ checked, ∀ x ∈ problems m, d.find? x.fileId = some m
            ∧ (∃ index, sources.files[index]? = some m ∧ ∀ layout, problemLines layout sources x
              = layout sources.files { x.report with labels := [(index, x.span)] })
            ∧ problemLines .brief sources x
              = (severityWord x.severity ++ "[" ++ x.kind.code ++ "]: " ++ x.message)
                :: ("┌─ " ++ (Text.charPosition m.source x.span.start).render m.path)
                :: x.report.notes.map ("= " ++ ·))
      ∧ (∀ schema mode stop unit, Generation.generate schema mode stop d = .ok unit →
          ∀ mapping ∈ unit.mappings.toList, ∃ m, d.find? mapping.origin.fileId = some m
            ∧ sources.location mapping.origin.fileId mapping.origin.span
              = (Text.bytePosition m.source mapping.origin.span.start).render m.path) := by
  intro d sources checked
  have hchecked : checked = firsts d.family := checkedDocuments_eq_firsts d
  have honly : ∀ id, (checked.filter fun m => m.fileId == id) = (d.find? id).toList := fun id =>
    hchecked ▸ filter_firsts d.family id
  have hsources : ∀ id, sources.get? id = d.find? id := Sources.get?_ofDocument d
  choose problems hproblems hfileId using
    Validation.exists_validate_eq_ok .standard input.settings.mode
  refine ⟨fun id => ⟨hsources id, honly id, fun m => find?_eq_some_iff_exists_split, ?_⟩, hchecked,
    ⟨problems, hproblems,
      ⟨_, fun layout => outcome_check hproblems layout w, ?_, exitCode_eq_one_or_zero _⟩,
      fun m hm x hx => ?_⟩, ?_⟩
  · unfold Document.find?
    rw [List.find?_eq_none]
    simp only [beq_iff_eq]
  · rw [exitCode_eq_one_iff]
    constructor
    · rintro ⟨x, hx, herror⟩
      obtain ⟨m, hm, hx⟩ := List.mem_flatMap.mp hx
      exact ⟨m, hm, x, hx, herror⟩
    · rintro ⟨m, hm, x, hx, herror⟩
      exact ⟨x, List.mem_flatMap.mpr ⟨m, hm, hx⟩, herror⟩
  · have hfind : d.find? x.fileId = some m := by
      rw [hfileId m x hx, ← Option.mem_toList, ← honly]
      exact List.mem_filter.mpr ⟨hm, beq_self_eq_true _⟩
    have hget : sources.get? x.fileId = some m := (hsources _).trans hfind
    exact ⟨hfind, exists_problemLines_eq hget, problemLines_brief hget⟩
  · intro schema mode stop unit hunit mapping hmapping
    obtain ⟨member, hmember, hfile⟩ :=
      Generation.exists_mem_family_of_mem_mappings hunit hmapping
    obtain ⟨m, hm⟩ := exists_find?_eq_some hmember
    rw [hfile] at hm
    exact ⟨m, hm, location_of_get?_eq_some ((hsources _).trans hm) _⟩

/-- A template that includes two documents of one number. -/
def twoOfOneNumber : Document :=
  ((Builder.new 0 "outer.tt").includeDocument "a.tt"
      ((Builder.new 1 "a.tt").text "\n" |>.codeBlock .statement "f();").build
    |>.includeDocument "b.tt" ((Builder.new 1 "b.tt").codeBlock .statement "g();").build).build

/-- The code of the second one is copied as well, but it is shown, as its number says, in the first
one, and only that one is checked. -/
theorem check_and_sources_agree_twoOfOneNumber :
    (checkedDocuments twoOfOneNumber).map Document.path = ["outer.tt", "a.tt"]
      ∧ ∃ unit m, Generation.generate .standard .designTime Stop.never twoOfOneNumber = .ok unit
        ∧ (⟨⟨439, 443⟩, ⟨1, ⟨3, 7⟩⟩⟩ : Mapping) ∈ unit.mappings.toList
        ∧ twoOfOneNumber.find? 1 = some m ∧ m.path = "a.tt"
        ∧ (Sources.ofDocument twoOfOneNumber).location 1 ⟨3, 7⟩
          = (Text.bytePosition m.source 3).render m.path := by
  obtain ⟨-, -, -, hmappings⟩ := check_and_sources_agree ⟨twoOfOneNumber, {}, .silent⟩ {}
  have hunit := Generation.generate_eq_ofPieces_layout .standard .designTime twoOfOneNumber
  have hmem : (⟨⟨439, 443⟩, ⟨1, ⟨3, 7⟩⟩⟩ : Mapping) ∈ (GeneratedUnit.ofPieces
      (Generation.layout .standard .designTime twoOfOneNumber)).mappings.toList := by decide +kernel
  obtain ⟨m, hm, hlocation⟩ := hmappings _ _ _ _ hunit _ hmem
  have hpath : (twoOfOneNumber.find? 1).map Document.path = some "a.tt" := by decide +kernel
  have hsame : m.path = "a.tt" := by
    rw [show twoOfOneNumber.find? 1 = some m from hm] at hpath
    exact Option.some.inj hpath
  exact ⟨by decide +kernel, _, m, hunit, hmem, hm, hsame, hlocation⟩

end Command

end TextTemplate
