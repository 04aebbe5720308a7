import TextTemplate.Proofs.GenerationPass
import TextTemplate.Proofs.Lookups

/-!
# The source map of a class is sound

A class and its mappings say that some stretches of the class are copies of stretches of documents.
They are, if the tokens of the documents say what stands in the sources: then for every range that a
lookup carries over, in either direction, the class and the document have the same text there, also
where the range cuts a character and neither has a text.

The hypotheses are about the documents alone. `Document.Faithful` says that the tokens that can be
copied stand in the source of the document that directly holds them, and `Document.Coherent` that
the number of a document determines its source.
-/

namespace TextTemplate

/-- **The tokens of a node that can be copied**: the values of attributes and the code of a block.
-/
def Node.copyableTokens : Node → List Token
  | .directive d => d.attributes.filterMap Attribute.value
  | .codeBlock block => block.code.toList
  | _ => []

namespace Document

/-- **Every token that can be copied stands in the source**, at its span, in the document that
directly holds it. -/
def Faithful (d : Document) : Prop :=
  ∀ member ∈ d.family, ∀ node ∈ member.nodes, ∀ token ∈ node.copyableTokens,
    member.slice? token.span = some token.text

/-- **Documents of one number have one source.** -/
def Coherent (d : Document) : Prop :=
  ∀ a ∈ d.family, ∀ b ∈ d.family, a.fileId = b.fileId → a.source = b.source

instance (d : Document) : Decidable d.Faithful :=
  inferInstanceAs (Decidable (∀ member ∈ d.family, ∀ node ∈ member.nodes,
    ∀ token ∈ node.copyableTokens, member.slice? token.span = some token.text))

instance (d : Document) : Decidable d.Coherent :=
  inferInstanceAs (Decidable (∀ a ∈ d.family, ∀ b ∈ d.family, a.fileId = b.fileId →
    a.source = b.source))

/-- **The document of a number that occurs is found**, and has the source of every document of that
number. -/
theorem Coherent.exists_find? {d member : Document} (h : d.Coherent) (hmember : member ∈ d.family) :
    ∃ found, d.find? member.fileId = some found ∧ found.source = member.source := by
  unfold find?
  cases hfind : d.family.find? fun other => other.fileId == member.fileId with
  | none =>
    have hno := List.find?_eq_none.mp hfind member hmember
    exact absurd (beq_self_eq_true member.fileId) hno
  | some found =>
    have hfile : found.fileId = member.fileId := by simpa using List.find?_some hfind
    exact ⟨found, rfl, h found (List.mem_of_find?_eq_some hfind) member hmember hfile⟩

end Document

/-! ## What the nodes hand over -/

/-- The value of an attribute can be copied. -/
theorem Directive.mem_copyableTokens {d : Directive} {name : String} {token : Token}
    (h : d.nonBlankValue? name = some token) :
    token ∈ (Node.directive d).copyableTokens := by
  obtain ⟨hvalue, -⟩ := Option.filter_eq_some_iff.mp h
  obtain ⟨a, ha, hvalue⟩ := Option.bind_eq_some_iff.mp hvalue
  exact List.mem_filterMap.mpr ⟨a, List.mem_of_find?_eq_some ha, hvalue⟩

namespace Visit

/-- The node of a directive of a kind. -/
theorem node_of_directive? {schema : Schema} {kind : DirectiveKind} {v : Visit} {d : Directive}
    (h : v.directive? schema kind = some d) : v.node = .directive d := by
  obtain ⟨hd, -⟩ := Option.filter_eq_some_iff.mp h
  obtain ⟨node, fileId, depth⟩ := v
  cases node with
  | directive d' =>
    cases hd
    rfl
  | _ => cases hd

/-- The code of a block can be copied. -/
theorem mem_copyableTokens_of_block? {v : Visit} {kind : BlockKind} {token : Token}
    (h : v.block? = some (kind, token)) : token ∈ v.node.copyableTokens := by
  obtain ⟨node, fileId, depth⟩ := v
  cases node with
  | codeBlock block =>
    obtain ⟨code, hcode, heq⟩ := Option.map_eq_some_iff.mp h
    cases heq
    exact Option.mem_toList.mpr hcode
  | _ => cases h

/-- **Only tokens that can be copied are copied.** -/
theorem mem_copyableTokens {schema : Schema} {v : Visit} {token : Token}
    (h : token ∈ v.copiedTokens schema) : token ∈ v.node.copyableTokens := by
  simp only [copiedTokens, List.mem_append, Option.mem_toList, Option.bind_eq_some_iff,
    Option.map_eq_some_iff] at h
  rcases h with ((⟨d, hd, hvalue⟩ | ⟨d, hd, hvalue⟩) | hparameter) | ⟨⟨kind, code⟩, hblock, rfl⟩
  · rw [node_of_directive? hd]
    exact Directive.mem_copyableTokens hvalue
  · rw [node_of_directive? hd]
    exact Directive.mem_copyableTokens hvalue
  · split at hparameter
    · cases hparameter
    · rename_i d hd
      split at hparameter
      · rename_i type name htype hname
        rw [node_of_directive? hd]
        simp only [List.mem_cons, List.not_mem_nil, or_false] at hparameter
        rcases hparameter with rfl | rfl
        · exact Directive.mem_copyableTokens htype
        · exact Directive.mem_copyableTokens hname
      · cases hparameter
  · exact mem_copyableTokens_of_block? hblock

end Visit

namespace Generation

/-- **A copied piece of a class stands in the document that it comes from.** -/
theorem exists_slice?_of_mem_layout {schema : Schema} {mode : Mode} {d : Document}
    (hd : d.Faithful) {p : Piece} (hp : p ∈ layout schema mode d) {origin : Origin}
    (horigin : p.origin? = some origin) :
    ∃ member ∈ d.family, member.fileId = origin.fileId
      ∧ member.slice? origin.span = some p.text := by
  have hcopied : ∀ v ∈ d.visits, ∀ token ∈ v.copiedTokens schema,
      ∃ member ∈ d.family, member.fileId = v.fileId ∧ member.slice? token.span = some token.text := by
    intro v hv token htoken
    obtain ⟨member, hmember, hfile, hnode⟩ := Document.exists_of_mem_visits hv
    exact ⟨member, hmember, hfile,
      hd member hmember v.node hnode token (Visit.mem_copyableTokens htoken)⟩
  have hall : ∀ p ∈ layout schema mode d, ∀ origin, p.origin? = some origin →
      ∃ member ∈ d.family, member.fileId = origin.fileId
        ∧ member.slice? origin.span = some p.text := by
    refine forall_mem_layout ?_ nofun ?_
    · intro p hp origin horigin
      rw [origin?_of_mem_texts p hp] at horigin
      cases horigin
    · intro v hv token htoken
      refine ⟨?_, ?_, nofun⟩
      · rintro origin ⟨⟩
        exact hcopied v hv token htoken
      · rintro origin ⟨⟩
        exact hcopied v hv token htoken
  exact hall p hp origin horigin

/-- **A mapping of a class joins two places with the same text.** -/
theorem exists_slice?_of_mem_mappingsFrom {schema : Schema} {mode : Mode} {d : Document}
    (hd : d.Faithful) (hcoherent : d.Coherent) {m : Mapping}
    (hm : m ∈ Piece.mappingsFrom 0 (layout schema mode d)) :
    ∃ found text, d.find? m.origin.fileId = some found
      ∧ Text.slice? m.generated (Piece.textOf (layout schema mode d)) = some text
      ∧ found.slice? m.origin.span = some text := by
  obtain ⟨front, p, back, hps, hmapping⟩ := Piece.mem_mappingsFrom.mp hm
  obtain ⟨horigin, hgenerated⟩ := Piece.mapping?_eq_some_iff.mp hmapping
  have hp : p ∈ layout schema mode d := by
    rw [hps]
    exact List.mem_append_right front List.mem_cons_self
  -- the number may name another document of the family first, but one with the same source
  obtain ⟨member, hmember, hfile, hslice⟩ := exists_slice?_of_mem_layout hd hp horigin
  obtain ⟨found, hfound, hsource⟩ := hcoherent.exists_find? hmember
  refine ⟨found, p.text, ?_, ?_, ?_⟩
  · rw [← hfile]
    exact hfound
  · rw [hgenerated, hps, Nat.zero_add]
    exact Piece.slice?_textOf front p back
  · unfold Document.slice? at hslice ⊢
    rw [hsource]
    exact hslice

/-- **The source map of a class is sound**, for every range. Let the tokens of a tree of documents
stand in the sources, and let documents of one number have one source. Then whatever range of the
class a lookup carries back, the document that it names is there and has at the place that it gives
the text that the class has at the range; neither has a text exactly if an end of the range is no
character boundary. Whatever range of a document a lookup carries over, the class has there the text
of the document. And every mapping as a whole joins two places with the same text. -/
theorem toOrigin?_toGenerated?_sound (schema : Schema) (mode : Mode) (d : Document)
    (hd : d.Faithful) (hcoherent : d.Coherent) :
    ∃ unit, generate schema mode Stop.never d = .ok unit
      ∧ (∀ span origin, span.start ≤ span.stop → unit.toOrigin? span = .ok (some origin) →
          ∃ found, d.find? origin.fileId = some found
            ∧ found.slice? origin.span = Text.slice? span unit.text
            ∧ (Text.slice? span unit.text = none
              ↔ ¬(Text.IsBoundary unit.text span.start ∧ Text.IsBoundary unit.text span.stop)))
      ∧ (∀ fileId span generated, unit.toGenerated? fileId span = .ok (some generated) →
          ∃ found, d.find? fileId = some found
            ∧ Text.slice? generated unit.text = found.slice? span)
      ∧ ∀ m ∈ unit.mappings, ∃ found text, d.find? m.origin.fileId = some found
          ∧ Text.slice? m.generated unit.text = some text
          ∧ found.slice? m.origin.span = some text := by
  refine ⟨_, generate_eq_ofPieces_layout schema mode d, ?_, ?_, ?_⟩
  · intro span origin hspan horigin
    obtain ⟨-, m, hm, hstart, hstop, rfl⟩ :=
      Mapping.exists_of_toOrigin?_eq (Mapping.ordered_mappingsFrom 0 _) horigin
    obtain ⟨found, text, hfound, hgenerated, horigin⟩ :=
      exists_slice?_of_mem_mappingsFrom hd hcoherent hm
    refine ⟨found, hfound, ?_, Text.slice?_eq_none_iff hspan⟩
    exact Text.slice?_eq_slice? hgenerated horigin hstart hspan hstop
  · intro fileId span generated hgenerated
    obtain ⟨hspan, m, hm, rfl, hstart, hstop, rfl⟩ := Mapping.exists_of_toGenerated?_eq hgenerated
    obtain ⟨found, text, hfound, hgenerated, horigin⟩ :=
      exists_slice?_of_mem_mappingsFrom hd hcoherent hm
    exact ⟨found, hfound, Text.slice?_eq_slice? horigin hgenerated hstart hspan hstop⟩
  · intro m hm
    exact exists_slice?_of_mem_mappingsFrom hd hcoherent (List.mem_toArray.mp hm)

/-- A template with a statement, which includes one with an expression. -/
def nestedTemplate : Document where
  fileId := 0
  path := "outer.tt"
  source := "<# é #><#@ include file=\"inner.tt\" #>"
  nodes :=
    [.codeBlock { kind := .statement, code := some ⟨" é ", ⟨2, 6⟩⟩, span := ⟨0, 8⟩ },
      .included ⟨"inner.tt", ⟨1, "inner.tt", "<#= ñame #>",
        [.codeBlock { kind := .expression, code := some ⟨" ñame ", ⟨3, 10⟩⟩, span := ⟨0, 12⟩ }]⟩,
        ⟨8, 38⟩⟩]

/-- A character of the inner template takes two bytes and is found where it stands. -/
theorem toOrigin?_toGenerated?_sound_nested :
    nestedTemplate.Faithful ∧ nestedTemplate.Coherent
      ∧ ∃ unit, generate .standard .designTime Stop.never nestedTemplate = .ok unit
        ∧ unit.toOrigin? ⟨465, 467⟩ = .ok (some ⟨1, ⟨4, 6⟩⟩)
        ∧ ∃ found, nestedTemplate.find? 1 = some found
          ∧ found.slice? ⟨4, 6⟩ = Text.slice? ⟨465, 467⟩ unit.text := by
  have hfaithful : nestedTemplate.Faithful := by decide +kernel
  have hcoherent : nestedTemplate.Coherent := by decide +kernel
  have hmappings :
      (generate .standard .designTime Stop.never nestedTemplate).toOption.map (·.mappings)
        = some #[⟨⟨396, 400⟩, ⟨0, ⟨2, 6⟩⟩⟩, ⟨⟨464, 471⟩, ⟨1, ⟨3, 10⟩⟩⟩] := by decide +kernel
  obtain ⟨⟨text, mappings⟩, hunit, hback, -, -⟩ :=
    toOrigin?_toGenerated?_sound .standard .designTime nestedTemplate hfaithful hcoherent
  rw [hunit] at hmappings
  cases hmappings
  have hlookup : GeneratedUnit.toOrigin?
      ⟨text, #[⟨⟨396, 400⟩, ⟨0, ⟨2, 6⟩⟩⟩, ⟨⟨464, 471⟩, ⟨1, ⟨3, 10⟩⟩⟩]⟩ ⟨465, 467⟩
        = .ok (some ⟨1, ⟨4, 6⟩⟩) := by
    cbv
  obtain ⟨found, hfound, hslice, -⟩ := hback ⟨465, 467⟩ _ (by decide) hlookup
  exact ⟨hfaithful, hcoherent, _, hunit, hlookup, found, hfound, hslice⟩

end Generation

end TextTemplate
