import Mathlib.Data.List.Pairwise
import Mathlib.Data.List.Perm.Basic
import TextTemplate.Proofs.BuiltDocuments

/-!
# The two lookups are inverse to each other

One lookup goes from the class to the documents and looks at the last mapping that starts in front
of a range; the other one goes back and takes the first mapping that comes from around a range. That
they undo each other depends on where the mappings come from: no place may touch two of their
origins, not even with its edge.

For a tree of documents that were built, with a number for each, this holds. The class takes every
token of a node over at most once, so its mappings come, in some order, from the copied tokens of
all nodes (`layout_origins_perm`); sorted by the documents that hold them, these are tokens that
stand apart in each source (`pairwise_copiedOrigins`). The order in which the class has them does
not matter, since standing apart is symmetric.
-/

namespace TextTemplate

/-- **Two spans that do not even touch.** -/
def Span.Apart (a b : Span) : Prop := a.stop < b.start ∨ b.stop < a.start

/-- **Two places that do not touch**: in different documents, or apart in one. -/
def Origin.Apart (a b : Origin) : Prop := a.fileId = b.fileId → a.span.Apart b.span

theorem Span.Apart.symm {a b : Span} (h : a.Apart b) : b.Apart a := Or.symm h

theorem Origin.Apart.symm {a b : Origin} (h : a.Apart b) : b.Apart a :=
  fun hfile => (h hfile.symm).symm

/-! ## What one node hands over -/

/-- A value is that of an attribute of its name. -/
theorem Directive.exists_attribute_of_nonBlankValue? {d : Directive} {name : String} {t : Token}
    (h : d.nonBlankValue? name = some t) :
    ∃ a ∈ d.attributes, Text.fold a.name.text = Text.fold name ∧ a.value = some t := by
  obtain ⟨hvalue, -⟩ := Option.filter_eq_some_iff.mp h
  obtain ⟨a, ha, hvalue⟩ := Option.bind_eq_some_iff.mp hvalue
  exact ⟨a, List.mem_of_find?_eq_some ha, eq_of_beq (List.find?_some ha :), hvalue⟩

/-- **The values of two attributes of one directive stand apart**, if the values of all do. -/
theorem Directive.apart_of_nonBlankValue? {d : Directive}
    (h : (Node.directive d).copyableTokens.Pairwise fun t u => t.span.stop < u.span.start)
    {name other : String} (hne : Text.sameName name other = false) {t u : Token}
    (ht : d.nonBlankValue? name = some t) (hu : d.nonBlankValue? other = some u) :
    t.span.Apart u.span := by
  obtain ⟨a, ha, hname, hat⟩ := exists_attribute_of_nonBlankValue? ht
  obtain ⟨b, hb, hother, hbu⟩ := exists_attribute_of_nonBlankValue? hu
  have hab : a ≠ b := by
    rintro rfl
    have hsame : Text.fold name = Text.fold other := hname.symm.trans hother
    exact absurd (beq_iff_eq.mpr hsame) (Bool.not_eq_true _ ▸ hne)
  have hpairs : d.attributes.Pairwise fun a b =>
      ∀ t, a.value = some t → ∀ u, b.value = some u → t.span.Apart u.span :=
    (List.pairwise_filterMap.mp h).imp fun hlt t ht u hu => Or.inl (hlt t ht u hu)
  have : Std.Symm fun a b : Attribute =>
      ∀ t, a.value = some t → ∀ u, b.value = some u → t.span.Apart u.span :=
    ⟨fun _ _ hap t ht u hu => (hap u hu t ht).symm⟩
  exact hpairs.forall ha hb hab t hat u hbu

namespace Visit

/-- What a directive of a kind hands over. -/
def tokensOf (d : Directive) : DirectiveKind → List Token
  | .namespaceImport => (d.nonBlankValue? "namespace").toList
  | .template => (d.nonBlankValue? "inherits").toList
  | .parameter =>
    match d.nonBlankValue? "type", d.nonBlankValue? "name" with
    | some type, some name => [type, name]
    | _, _ => []
  | _ => []

/-- **A directive is of one kind**, and hands over what directives of that kind do. -/
theorem copiedTokens_directive (schema : Schema) (d : Directive) (fileId depth : Nat) :
    copiedTokens schema ⟨.directive d, fileId, depth⟩
      = (schema.kindOf? d).elim [] (tokensOf d) := by
  unfold copiedTokens
  cases hkind : schema.kindOf? d with
  | none =>
    have hnone := Generation.Pass.directive?_of_kindOf?_none schema hkind
    rw [hnone, hnone, hnone]
    rfl
  | some kind =>
    have hsome := Generation.Pass.directive?_of_kindOf? schema hkind
    rw [hsome, hsome, hsome]
    cases kind with
    | namespaceImport =>
      rw [if_pos rfl, if_neg (by decide), if_neg (by decide)]
      exact (List.append_nil _).trans ((List.append_nil _).trans (List.append_nil _))
    | template =>
      rw [if_neg (by decide), if_pos rfl, if_neg (by decide)]
      exact (List.append_nil _).trans (List.append_nil _)
    | parameter =>
      rw [if_neg (by decide), if_neg (by decide), if_pos rfl]
      exact List.append_nil _
    | _ =>
      rw [if_neg (by decide), if_neg (by decide), if_neg (by decide)]
      rfl

/-- What a block hands over is its code. -/
theorem copiedTokens_codeBlock (schema : Schema) (block : CodeBlock) (fileId depth : Nat) :
    copiedTokens schema ⟨.codeBlock block, fileId, depth⟩ = block.code.toList := by
  show ((block.code.map fun code => (block.kind, code)).map Prod.snd).toList = _
  cases block.code <;> rfl

/-- **The tokens that one node hands over stand apart**, if those that it could hand over do. -/
theorem pairwise_copiedTokens (schema : Schema) {v : Visit}
    (h : v.node.copyableTokens.Pairwise fun t u => t.span.stop < u.span.start) :
    (v.copiedTokens schema).Pairwise fun t u => t.span.Apart u.span := by
  have hoption : ∀ token : Option Token, token.toList.Pairwise fun t u => t.span.Apart u.span := by
    intro token
    cases token with
    | none => exact List.Pairwise.nil
    | some t => exact List.pairwise_singleton _ t
  obtain ⟨node, fileId, depth⟩ := v
  cases node with
  | text _ | included _ | missing _ => exact List.Pairwise.nil
  | codeBlock block =>
    rw [copiedTokens_codeBlock]
    exact hoption _
  | directive d =>
    rw [copiedTokens_directive]
    cases schema.kindOf? d with
    | none => exact List.Pairwise.nil
    | some kind =>
      cases kind with
      | namespaceImport => exact hoption _
      | template => exact hoption _
      | parameter =>
        -- only a parameter hands over two tokens, and they are values of different names
        rw [Option.elim_some, tokensOf]
        split
        · rename_i type name htype hname
          have hapart : type.span.Apart name.span :=
            Directive.apart_of_nonBlankValue? h (by decide) htype hname
          exact List.pairwise_pair.mpr hapart
        · exact List.Pairwise.nil
      | _ => exact List.Pairwise.nil

/-- **The places that the class takes over from a node.** -/
def copiedOrigins (schema : Schema) (v : Visit) : List Origin :=
  (v.copiedTokens schema).map fun token => ⟨v.fileId, token.span⟩

/-- The place of the code of a block. -/
def blockOrigins (v : Visit) : List Origin :=
  (v.block?.map Prod.snd).toList.map fun token => ⟨v.fileId, token.span⟩

/-- **The line of a block stands either in the body or among the members**, whichever it is, and
copies the code once. -/
theorem filterMap_origin?_lineAmong (v : Visit) (started : Bool) :
    (v.lineAmong false started).filterMap Piece.origin?
        ++ (v.lineAmong true started).filterMap Piece.origin?
      = v.blockOrigins := by
  unfold lineAmong blockOrigins
  rcases v.block? with _ | ⟨kind, token⟩
  · rfl
  · have hline : (v.blockLine kind token).filterMap Piece.origin? = [⟨v.fileId, token.span⟩] := by
      cases kind <;> rfl
    cases hmember : v.isMember started kind
    · simp [hmember, hline]
    · simp [hmember, hline]

/-- **The pieces of a node come from its places.** -/
theorem filterMap_origin?_pieces (schema : Schema) (v : Visit) :
    (v.usingLine schema).filterMap Piece.origin? ++ (v.baseClass schema).filterMap Piece.origin?
        ++ (v.property schema).filterMap Piece.origin? ++ v.blockOrigins
      = v.copiedOrigins schema := by
  unfold copiedOrigins copiedTokens blockOrigins
  simp only [List.map_append]
  congr 3
  · unfold usingLine
    split <;> rename_i h <;> rw [h] <;> rfl
  · unfold baseClass
    split <;> rename_i h <;> rw [h] <;> rfl
  · unfold property
    split
    · rfl
    · split <;> rfl

end Visit

/-! ## The nodes of a tree, document by document -/

/-- What the nodes of a list and of the documents that it includes give, document by document. -/
theorem Node.flatMap_visitsOf_perm {β : Type} (g : Nat → Node → List β) (nodes : List Node)
    (fileId depth : Nat) :
    ((visitsOf fileId depth nodes).flatMap fun v => g v.fileId v.node).Perm
      (nodes.flatMap (g fileId)
        ++ (includesOf nodes).flatMap fun part =>
          part.document.nodes.flatMap (g part.document.fileId)) := by
  induction nodes using forestInduction generalizing fileId depth with
  | nil => exact List.Perm.refl _
  | leaf node nodes hnode ih =>
    rw [visitsOf, visits_of_not_included hnode, List.singleton_append, List.flatMap_cons,
      List.flatMap_cons, includesOf, includes_of_not_included hnode, List.nil_append,
      List.append_assoc]
    exact (ih fileId depth).append_left _
  | included part nodes ihPart ihNodes =>
    rw [visitsOf, visits_included, List.cons_append, List.flatMap_cons, List.flatMap_append,
      List.flatMap_cons, includesOf, includes_included, List.cons_append, List.flatMap_cons,
      List.flatMap_append, List.append_assoc]
    refine List.Perm.append_left _ ?_
    refine ((ihPart part.document.fileId (depth + 1)).append (ihNodes fileId depth)).trans ?_
    -- the nodes behind the include move in front of those inside it
    refine (List.perm_append_comm_assoc _ _ _).trans ?_
    rw [List.append_assoc]

/-- **What the nodes of a tree give, document by document.** -/
theorem Document.flatMap_visits_perm {β : Type} (g : Nat → Node → List β) (d : Document) :
    (d.visits.flatMap fun v => g v.fileId v.node).Perm
      (d.family.flatMap fun member => member.nodes.flatMap (g member.fileId)) := by
  rw [Document.family, List.flatMap_cons, List.flatMap_map]
  exact Node.flatMap_visitsOf_perm g d.nodes d.fileId 0

namespace Document

/-- **The places that the class of a tree takes over do not touch**, if the tree was built and each
document has its own number. -/
theorem pairwise_copiedOrigins (schema : Schema) {d : Document} (hd : d.IsBuilt)
    (hnodup : (d.family.map Document.fileId).Nodup) :
    (d.visits.flatMap (Visit.copiedOrigins schema)).Pairwise Origin.Apart := by
  -- sorted by documents, two places of different documents differ in the number
  have hperm := d.flatMap_visits_perm fun fileId node =>
    Visit.copiedOrigins schema ⟨node, fileId, 0⟩
  refine (hperm.pairwise_iff Origin.Apart.symm).mpr (List.pairwise_flatMap.mpr ⟨?_, ?_⟩)
  · intro member hmember
    have happart := ((hd.of_mem_family member hmember).within_tokens).apart
    obtain ⟨hnode, hnodes⟩ := List.pairwise_flatMap.mp happart
    refine List.pairwise_flatMap.mpr ⟨fun node hmem => ?_, hnodes.imp fun hab => ?_⟩
    · refine List.pairwise_map.mpr ((Visit.pairwise_copiedTokens schema (hnode node hmem)).imp ?_)
      exact fun hapart _ => hapart
    · intro x hx y hy _
      obtain ⟨t, ht, rfl⟩ := List.mem_map.mp hx
      obtain ⟨u, hu, rfl⟩ := List.mem_map.mp hy
      exact Or.inl (hab t (Visit.mem_copyableTokens ht) u (Visit.mem_copyableTokens hu))
  · refine (List.pairwise_map.mp hnodup).imp fun hne x hx y hy hfile => absurd ?_ hne
    obtain ⟨node, -, hx⟩ := List.mem_flatMap.mp hx
    obtain ⟨t, -, rfl⟩ := List.mem_map.mp hx
    obtain ⟨node, -, hy⟩ := List.mem_flatMap.mp hy
    obtain ⟨u, -, rfl⟩ := List.mem_map.mp hy
    exact hfile

end Document

namespace Generation

/-- **The class takes every place over once.** -/
theorem layout_origins_perm (schema : Schema) (mode : Mode) (d : Document) :
    ((layout schema mode d).filterMap Piece.origin?).Perm
      (d.visits.flatMap (Visit.copiedOrigins schema)) := by
  have hlines : ((blockLines false d.visits).filterMap Piece.origin?
      ++ (blockLines true d.visits).filterMap Piece.origin?).Perm
        (d.visits.flatMap Visit.blockOrigins) := by
    unfold blockLines
    rw [List.filterMap_flatMap, List.filterMap_flatMap]
    refine (List.flatMap_append_perm _ _ _).trans (List.Perm.of_eq ?_)
    -- where the line stands depends on the nodes in front, but not what it copies
    simp only [Visit.filterMap_origin?_lineAmong]
    rw [← List.flatMap_map Prod.fst Visit.blockOrigins, List.zipIdx_map_fst]
  rw [layout_filterMap_origin?]
  simp only [List.filterMap_append, List.filterMap_flatMap]
  rw [List.append_assoc _ (List.filterMap _ (blockLines false _))]
  -- the parts of the class go through the nodes one after another; here each node comes once
  have hhead := ((List.flatMap_append_perm d.visits _ _).append_right _).trans
    (List.flatMap_append_perm d.visits
      (fun v => (v.usingLine schema).filterMap Piece.origin?
        ++ (v.baseClass schema).filterMap Piece.origin?)
      fun v => (v.property schema).filterMap Piece.origin?)
  refine (hhead.append hlines).trans ((List.flatMap_append_perm d.visits _ _).trans ?_)
  simp only [Visit.filterMap_origin?_pieces]
  exact List.Perm.refl _

/-- **A copied piece is as long as the place that it comes from**, if the documents were built. -/
theorem stop_origin_of_mem_layout {schema : Schema} {mode : Mode} {d : Document} (hd : d.IsBuilt)
    {p : Piece} (hp : p ∈ layout schema mode d) {origin : Origin}
    (horigin : p.origin? = some origin) :
    origin.span.stop = origin.span.start + p.width := by
  have hall : ∀ p ∈ layout schema mode d, ∀ origin, p.origin? = some origin →
      origin.span.stop = origin.span.start + p.width := by
    refine forall_mem_layout ?_ nofun ?_
    · intro p hp origin horigin
      rw [origin?_of_mem_texts p hp] at horigin
      cases horigin
    · intro v hv token htoken
      obtain ⟨member, hmember, -, hnode⟩ := Document.exists_of_mem_visits hv
      have hsized : token.Sized := (hd.of_mem_family member hmember).within_tokens.sized token
        (List.mem_flatMap.mpr ⟨v.node, hnode, Visit.mem_copyableTokens htoken⟩)
      refine ⟨?_, ?_, nofun⟩
      · rintro origin ⟨⟩
        exact hsized
      · rintro origin ⟨⟩
        exact hsized
  exact hall p hp origin horigin

end Generation

/-! ## Source maps that can be read in both directions -/

namespace Mapping

/-- **Mappings that can be read in both directions**: each one joins two places of one length, they
follow each other in the text, and the places that they come from do not touch. -/
structure Exact (ms : List Mapping) : Prop where
  sized : ∀ m ∈ ms, ∃ width, m.generated.stop = m.generated.start + width
    ∧ m.origin.span.stop = m.origin.span.start + width
  generated : ms.Pairwise fun a b => a.generated.stop ≤ b.generated.start
  origins : ms.Pairwise fun a b => a.origin.Apart b.origin

namespace Exact

variable {ms : Array Mapping}

/-- The mappings are in the order in which they start. -/
theorem ordered (h : Exact ms.toList) : Ordered ms.toList := by
  refine h.generated.imp_of_mem fun {a b} ha _ hab => ?_
  obtain ⟨width, hwidth, -⟩ := h.sized a ha
  omega

/-- **Only one mapping comes from around a place.** -/
theorem eq_of_covers (h : Exact ms.toList) {a b : Mapping} (ha : a ∈ ms.toList) (hb : b ∈ ms.toList)
    (hfile : a.origin.fileId = b.origin.fileId) {span : Span} (hle : span.start ≤ span.stop)
    (hastart : a.origin.span.start ≤ span.start) (hastop : span.stop ≤ a.origin.span.stop)
    (hbstart : b.origin.span.start ≤ span.start) (hbstop : span.stop ≤ b.origin.span.stop) :
    a = b := by
  have : Std.Symm fun a b : Mapping => a.origin.Apart b.origin := ⟨fun _ _ => Origin.Apart.symm⟩
  refine Decidable.byContradiction fun hne => ?_
  -- a place inside both would touch both
  rcases h.origins.forall ha hb hne hfile with hlt | hlt
  · omega
  · omega

/-- **A place of a document is carried through the mapping that comes from around it.** -/
theorem toGenerated?_eq (h : Exact ms.toList) {m : Mapping} (hm : m ∈ ms.toList) {span : Span}
    (hle : span.start ≤ span.stop) (hstart : m.origin.span.start ≤ span.start)
    (hstop : span.stop ≤ m.origin.span.stop) :
    toGenerated? ms m.origin.fileId span
      = if (m.carryBack span).stop < UInt64.size then .ok (some (m.carryBack span))
        else .error .sum := by
  cases hfind : ms.find? (comesFrom m.origin.fileId span) with
  | none =>
    have hno := Array.find?_eq_none.mp hfind m ⟨hm⟩
    exact absurd (comesFrom_eq_true_iff.mpr ⟨rfl, hstart, hstop⟩) hno
  | some found =>
    have hmem := (Array.mem_of_find?_eq_some hfind).val
    obtain ⟨hfile, hfstart, hfstop⟩ := comesFrom_eq_true_iff.mp (Array.find?_some hfind)
    obtain rfl := h.eq_of_covers hmem hm hfile hle hfstart hfstop hstart hstop
    exact toGenerated?_of_find hle hfind

/-- **A range of the text that is not empty is carried through the mapping around it.** -/
theorem toOrigin?_eq (h : Exact ms.toList) {m : Mapping} (hm : m ∈ ms.toList) {span : Span}
    (hlt : span.start < span.stop) (hstart : m.generated.start ≤ span.start)
    (hstop : span.stop ≤ m.generated.stop) :
    toOrigin? ms span
      = if (m.carry span).span.stop < UInt64.size then .ok (some (m.carry span))
        else .error .sum := by
  refine toOrigin?_of_containing (Nat.le_of_lt hlt)
    ((containing?_eq_some_iff h.ordered).mpr ?_) hstart
  obtain ⟨front, back, hsplit⟩ := List.append_of_mem hm
  refine ⟨front, back, hsplit, hstart, hstop, fun b hb => ?_⟩
  have hgenerated := h.generated
  rw [hsplit, List.pairwise_append, List.pairwise_cons] at hgenerated
  have hnext := hgenerated.2.1.1 b hb
  omega

/-- Carrying a range to its origin and back. -/
theorem carryBack_carry (h : Exact ms.toList) {m : Mapping} (hm : m ∈ ms.toList) {span : Span}
    (hle : span.start ≤ span.stop) (hstart : m.generated.start ≤ span.start)
    (hstop : span.stop ≤ m.generated.stop) :
    m.origin.span.start ≤ (m.carry span).span.start
      ∧ (m.carry span).span.start ≤ (m.carry span).span.stop
      ∧ (m.carry span).span.stop ≤ m.origin.span.stop
      ∧ m.carryBack (m.carry span).span = span := by
  obtain ⟨width, hgenerated, horigin⟩ := h.sized m hm
  obtain ⟨start, stop⟩ := span
  simp only [carry, carryBack, Span.mk.injEq] at *
  omega

/-- Carrying a place to the text and back. -/
theorem carry_carryBack (h : Exact ms.toList) {m : Mapping} (hm : m ∈ ms.toList) {span : Span}
    (hlt : span.start < span.stop) (hstart : m.origin.span.start ≤ span.start)
    (hstop : span.stop ≤ m.origin.span.stop) :
    m.generated.start ≤ (m.carryBack span).start
      ∧ (m.carryBack span).start < (m.carryBack span).stop
      ∧ (m.carryBack span).stop ≤ m.generated.stop
      ∧ m.carry (m.carryBack span) = ⟨m.origin.fileId, span⟩ := by
  obtain ⟨width, hgenerated, horigin⟩ := h.sized m hm
  obtain ⟨start, stop⟩ := span
  simp only [carry, carryBack, Origin.mk.injEq, Span.mk.injEq, true_and] at *
  omega

/-- **What has an origin is where the origin stands in the text.** -/
theorem toGenerated?_of_toOrigin? (h : Exact ms.toList) {span : Span} {origin : Origin}
    (hword : span.stop < UInt64.size) (horigin : toOrigin? ms span = .ok (some origin)) :
    toGenerated? ms origin.fileId origin.span = .ok (some span) := by
  obtain ⟨hle, m, hm, hstart, hstop, rfl⟩ := exists_of_toOrigin?_eq h.ordered horigin
  obtain ⟨hlo, hle', hhi, hback⟩ := h.carryBack_carry hm hle hstart hstop
  have hfound := h.toGenerated?_eq hm hle' hlo hhi
  rw [hback, if_pos hword] at hfound
  exact hfound

/-- **What stands in the text has the place as its origin**, if it is not empty. -/
theorem toOrigin?_of_toGenerated? (h : Exact ms.toList) {fileId : Nat} {span generated : Span}
    (hlt : span.start < span.stop) (hword : span.stop < UInt64.size)
    (hgenerated : toGenerated? ms fileId span = .ok (some generated)) :
    toOrigin? ms generated = .ok (some ⟨fileId, span⟩) := by
  obtain ⟨-, m, hm, rfl, hstart, hstop, rfl⟩ := exists_of_toGenerated?_eq hgenerated
  obtain ⟨hlo, hlt', hhi, hback⟩ := h.carry_carryBack hm hlt hstart hstop
  have hfound := h.toOrigin?_eq hm hlt' hlo hhi
  rw [hback, if_pos hword] at hfound
  exact hfound

end Exact

end Mapping

namespace Generation

/-- **The mappings of the class of a tree that was built can be read in both directions.** -/
theorem exact_mappingsFrom_layout (schema : Schema) (mode : Mode) {d : Document} (hd : d.IsBuilt)
    (hnodup : (d.family.map Document.fileId).Nodup) :
    Mapping.Exact (Piece.mappingsFrom 0 (layout schema mode d)) := by
  refine ⟨fun m hm => ?_, Mapping.pairwise_mappingsFrom 0 _, ?_⟩
  · obtain ⟨front, p, back, hps, hmapping⟩ := Piece.mem_mappingsFrom.mp hm
    obtain ⟨horigin, hgenerated⟩ := Piece.mapping?_eq_some_iff.mp hmapping
    have hp : p ∈ layout schema mode d := by
      rw [hps]
      exact List.mem_append_right front List.mem_cons_self
    refine ⟨p.width, ?_, stop_origin_of_mem_layout hd hp horigin⟩
    rw [hgenerated]
  · have hpairwise := ((layout_origins_perm schema mode d).pairwise_iff Origin.Apart.symm).mpr
      (Document.pairwise_copiedOrigins schema hd hnodup)
    rw [← Piece.map_origin_mappingsFrom 0] at hpairwise
    exact List.pairwise_map.mp hpairwise

/-- **The lookups between a class and its documents are inverse to each other.** Let a tree of
documents be built by any calls, with a number for each document. Whatever range of the class has an
origin, empty or not, is where that origin stands in the class; and whatever place of a document
that is not empty stands in the class, is the origin of where it stands. The ends of ranges are
64-bit words. Both lookups find what they should: a range that is not empty and lies inside a
mapping is carried through that mapping. -/
theorem toOrigin?_toGenerated?_inverse (schema : Schema) (mode : Mode) (d : Document)
    (hd : d.IsBuilt) (hnodup : (d.family.map Document.fileId).Nodup) :
    ∃ unit, generate schema mode Stop.never d = .ok unit
      ∧ (∀ span origin, span.stop < UInt64.size → unit.toOrigin? span = .ok (some origin) →
          unit.toGenerated? origin.fileId origin.span = .ok (some span))
      ∧ (∀ fileId span generated, span.start < span.stop → span.stop < UInt64.size →
          unit.toGenerated? fileId span = .ok (some generated) →
          unit.toOrigin? generated = .ok (some ⟨fileId, span⟩))
      ∧ ∀ m ∈ unit.mappings, ∀ span : Span, span.start < span.stop →
          m.generated.start ≤ span.start → span.stop ≤ m.generated.stop →
          (m.carry span).span.stop < UInt64.size →
          unit.toOrigin? span = .ok (some (m.carry span)) := by
  have hexact := exact_mappingsFrom_layout schema mode hd hnodup
  refine ⟨_, generate_eq_ofPieces_layout schema mode d, ?_, ?_, ?_⟩
  · intro span origin hword horigin
    exact hexact.toGenerated?_of_toOrigin? hword horigin
  · intro fileId span generated hlt hword hgenerated
    exact hexact.toOrigin?_of_toGenerated? hlt hword hgenerated
  · intro m hm span hlt hstart hstop hword
    exact (hexact.toOrigin?_eq (List.mem_toArray.mp hm) hlt hstart hstop).trans (if_pos hword)

/-- A template with two base classes, which stand side by side in the class, a parameter whose name
comes before its type, and an included template with an expression. -/
def twoBases : Builder :=
  ((((Builder.new 0 "outer.tt").directive "template" [("inherits", "A")]).directive "template"
    [("inherits", "B")]).directive "parameter" [("name", "n"), ("type", "int")]).includeDocument
    "inner.tt" ((Builder.new 1 "inner.tt").codeBlock .expression "ñ").build

theorem made_twoBases : twoBases.Made :=
  .includeDocument _ (.directive _ _ (.directive _ _ (.directive _ _ (.new _ _))))
    (.codeBlock _ _ (.new _ _))

/-- The empty range between the two base classes belongs to the second one, and comes back from
there. The code of the inner template goes over and comes back. -/
theorem toOrigin?_toGenerated?_inverse_twoBases :
    twoBases.build.IsBuilt ∧ (twoBases.build.family.map Document.fileId).Nodup
      ∧ ∃ unit, generate .standard .designTime Stop.never twoBases.build = .ok unit
        ∧ unit.toOrigin? ⟨109, 109⟩ = .ok (some ⟨0, ⟨51, 51⟩⟩)
        ∧ unit.toGenerated? 0 ⟨51, 51⟩ = .ok (some ⟨109, 109⟩)
        ∧ unit.toGenerated? 1 ⟨4, 6⟩ = .ok (some ⟨479, 481⟩)
        ∧ unit.toOrigin? ⟨479, 481⟩ = .ok (some ⟨1, ⟨4, 6⟩⟩) := by
  have hbuilt : twoBases.build.IsBuilt := ⟨twoBases, made_twoBases, rfl⟩
  have hnodup : (twoBases.build.family.map Document.fileId).Nodup := by decide +kernel
  have hmappings :
      (generate .standard .designTime Stop.never twoBases.build).toOption.map (·.mappings)
        = some #[⟨⟨108, 109⟩, ⟨0, ⟨23, 24⟩⟩⟩, ⟨⟨109, 110⟩, ⟨0, ⟨51, 52⟩⟩⟩,
          ⟨⟨297, 300⟩, ⟨0, ⟨85, 88⟩⟩⟩, ⟨⟨301, 302⟩, ⟨0, ⟨76, 77⟩⟩⟩, ⟨⟨479, 481⟩, ⟨1, ⟨4, 6⟩⟩⟩] := by
    decide +kernel
  obtain ⟨⟨text, mappings⟩, hunit, hback, hover, -⟩ :=
    toOrigin?_toGenerated?_inverse .standard .designTime twoBases.build hbuilt hnodup
  rw [hunit] at hmappings
  cases hmappings
  refine ⟨hbuilt, hnodup, _, hunit, ?_, hback ⟨109, 109⟩ ⟨0, ⟨51, 51⟩⟩ (by decide) ?_, ?_,
    hover 1 ⟨4, 6⟩ ⟨479, 481⟩ (by decide) (by decide) ?_⟩
  · cbv
  · cbv
  · cbv
  · cbv

end Generation

end TextTemplate
