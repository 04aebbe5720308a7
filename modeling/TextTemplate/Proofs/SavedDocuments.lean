import TextTemplate.Proofs.FittingDocuments

/-!
# Saved documents are read back

A document that is written as JSON and read again is the same document. Three readers have to agree
with the one writer: the reader of the outermost document, which takes the text as it comes; that of
its nodes, which sets the kind of a node apart and reads the other fields as values; and that of the
documents inside, which finds the kind among the fields. For all of them a node is its kind and its
other fields (`Node.toJson_eq`), and `Node.ofFields_fieldsJson` says once that the node comes back
from these.

A text that a document was read from need not be the one that is written: fields may stand in
another order or be left out, others may be added, and records may be lists. But the document that
was read is one like any other, and its numbers fit, so from then on it is saved and read without a
change.
-/

namespace TextTemplate

open Json Value

/-! ## Records that hold no document -/

theorem Attribute.ofJson_toJson (a : Attribute) : Attribute.ofJson a.toJson = .ok a := by
  obtain ⟨name, value, valueError, span⟩ := a
  cases value <;> cases valueError <;> rfl

theorem NodeKind.ofName_name (kind : NodeKind) : NodeKind.ofName kind.name = .ok kind := by
  cases kind <;> rfl

/-- Attributes are read one after another. -/
theorem Attribute.mapM_ofJson (attributes : List Attribute) :
    (attributes.map Attribute.toJson).mapM Attribute.ofJson = .ok attributes := by
  induction attributes with
  | nil => rfl
  | cons a attributes ih =>
    rw [List.map_cons, List.mapM_cons, Attribute.ofJson_toJson, ih]
    rfl

/-! ## A node is its kind and its other fields -/

namespace Node

/-- The kind of a node. -/
def kind : Node → NodeKind
  | .text _ => .text
  | .directive _ => .directive
  | .codeBlock _ => .codeBlock
  | .included _ => .included
  | .missing _ => .missing

/-- The fields of a node as JSON, without its kind. -/
def fieldsJson : Node → List (String × Value)
  | .text token => [("text", .str token.text), ("span", token.span.toJson)]
  | .directive d =>
    [("name", d.name.toJson), ("attributes", .arr (d.attributes.map Attribute.toJson)),
      ("span", d.span.toJson)]
  | .codeBlock block =>
    [("kind", .str block.kind.name), ("code", .ofOption Token.toJson block.code),
      ("span", block.span.toJson)]
  | .included part =>
    [("path", .str part.path), ("document", part.document.toJson), ("span", part.span.toJson)]
  | .missing marker => [("expected", .str marker.expected), ("span", marker.span.toJson)]

/-- **A node is written as its kind and its other fields.** -/
theorem toJson_eq (node : Node) :
    node.toJson = .obj (("node", .str node.kind.name) :: node.fieldsJson) := by
  cases node with
  | included part =>
    obtain ⟨path, ⟨fileId, docPath, source, nodes⟩, span⟩ := part
    rfl
  | _ => rfl

/-- No other field has the name of the kind. -/
theorem ne_node_of_mem_fieldsJson (node : Node) : ∀ field ∈ node.fieldsJson, field.1 ≠ "node" := by
  cases node <;> simp [fieldsJson]

/-- The include of fields. -/
def includeOf (fields : List (String × Value)) : Except ShapeError Include := do
  (← Include.readFields {} fields).finish

/-- **A node comes back from its kind and its other fields**, if the document in it does. -/
theorem ofFields_fieldsJson (node : Node)
    (h : ∀ part, node = .included part →
      Document.ofJson part.document.toJson = .ok part.document) :
    Node.ofFields (fun _ => includeOf node.fieldsJson) node.fieldsJson node.kind = .ok node := by
  cases node with
  | text token => rfl
  | directive d =>
    have hattributes : Value.readList Attribute.ofJson (.arr (d.attributes.map Attribute.toJson))
        = .ok d.attributes := Attribute.mapM_ofJson d.attributes
    have hfields : Directive.readField ⟨some d.name, none, none⟩
        ("attributes", .arr (d.attributes.map Attribute.toJson))
          = .ok ⟨some d.name, some d.attributes, none⟩ := by
      show (Value.readList Attribute.ofJson _ >>= _) = _
      rw [hattributes]
      rfl
    show (((Directive.readField ⟨some d.name, none, none⟩ _ >>= _) >>= _) >>= _) = _
    rw [hfields]
    rfl
  | codeBlock block =>
    obtain ⟨kind, code, span⟩ := block
    cases kind <;> cases code <;> rfl
  | included part =>
    obtain ⟨path, document, span⟩ := part
    have hdocument : Document.ofJson document.toJson = .ok document := h _ rfl
    have hread : Include.readFields {} (fieldsJson (.included ⟨path, document, span⟩))
        = .ok ⟨some path, some document, some span⟩ := by
      simp only [fieldsJson, Include.readFields, hdocument]
      rfl
    show ((Include.readFields {} _ >>= _) >>= _) = _
    rw [hread]
    rfl
  | missing marker => rfl

/-- Where the kind stands among the fields, nothing is read but the kind. -/
theorem ofFields_cons_node (v : Value) (fields : List (String × Value)) (kind : NodeKind) :
    Node.ofFields (fun _ => includeOf (("node", v) :: fields)) (("node", v) :: fields) kind
      = Node.ofFields (fun _ => includeOf fields) fields kind := by
  cases kind with
  | included =>
    show (includeOf (("node", v) :: fields) >>= _) = (includeOf fields >>= _)
    rw [includeOf, includeOf, Include.readFields]
    all_goals simp
  | _ => rfl

/-- The kind stays what it is behind its field. -/
theorem kindOf_fields {fields : List (String × Value)} (h : ∀ field ∈ fields, field.1 ≠ "node")
    (kind : NodeKind) : NodeKind.ofFields fields (some kind) = .ok kind := by
  induction fields with
  | nil => rfl
  | cons field fields ih =>
    obtain ⟨hfield, hfields⟩ := List.forall_mem_cons.mp h
    rw [NodeKind.ofFields, if_neg fun heq => hfield (eq_of_beq heq), ih hfields]

/-- **A node that was written is read back**, if the document in it is. -/
theorem ofJson_toJson_of (node : Node)
    (h : ∀ part, node = .included part →
      Document.ofJson part.document.toJson = .ok part.document) :
    Node.ofJson node.toJson = .ok node := by
  have hkind : NodeKind.ofFields (("node", .str node.kind.name) :: node.fieldsJson) none
      = .ok node.kind := by
    rw [NodeKind.ofFields, if_pos (beq_self_eq_true _)]
    show (NodeKind.ofName node.kind.name >>= _) = _
    rw [NodeKind.ofName_name]
    exact kindOf_fields node.ne_node_of_mem_fieldsJson node.kind
  rw [toJson_eq, Node.ofJson, hkind]
  exact (ofFields_cons_node _ _ _).trans (ofFields_fieldsJson node h)

end Node

/-- **A document that was written is read back**, if its nodes are. -/
theorem Document.ofJson_toJson_of {d : Document}
    (h : Node.manyOfJson (Node.listToJson d.nodes) = .ok d.nodes) :
    Document.ofJson d.toJson = .ok d := by
  obtain ⟨fileId, path, source, nodes⟩ := d
  rw [Document.toJson, Document.ofJson]
  simp only [Document.readFields, Node.listOfJson, h]
  rfl

/-- **Nodes that were written are read back**, however deep they nest. -/
theorem Node.manyOfJson_listToJson (nodes : List Node) :
    Node.manyOfJson (Node.listToJson nodes) = .ok nodes := by
  induction nodes using Node.forestInduction with
  | nil =>
    rw [Node.listToJson, Node.manyOfJson]
    rfl
  | leaf node nodes hnode ih =>
    have hread : Node.ofJson node.toJson = .ok node := by
      refine node.ofJson_toJson_of fun part hpart => ?_
      rw [hpart] at hnode
      cases hnode
    rw [Node.listToJson, Node.manyOfJson, hread, ih]
    rfl
  | included part nodes ihPart ihNodes =>
    have hread : Node.ofJson (Node.included part).toJson = .ok (.included part) := by
      refine Node.ofJson_toJson_of _ fun part' hpart => ?_
      obtain rfl := Node.included.inj hpart
      exact Document.ofJson_toJson_of ihPart
    rw [Node.listToJson, Node.manyOfJson, hread, ihNodes]
    rfl

/-- **A document that was written is read back as a value.** -/
theorem Document.ofJson_toJson (d : Document) : Document.ofJson d.toJson = .ok d :=
  Document.ofJson_toJson_of (Node.manyOfJson_listToJson d.nodes)

/-! ## The outermost document -/

/-- The value of a field of a node, if it is plain and does not nest too deep. -/
theorem readWhole_ofValue {v : Value} (hplain : v.Leaves IsPlainLeaf) (h : v.nesting ≤ fieldLimit) :
    readWhole (Fragment.ofValue v) = .ok v := by
  unfold readWhole
  rw [Fragment.value?_ofValue v hplain h]
  rfl

/-- The fields of an object are read one after another. -/
theorem Json.Fragment.foldFields_cons {σ : Type}
    {field : σ → String → Fragment → Except ReadError σ}
    {s t : σ} {key : String} {f : Fragment} (h : field s key f = .ok t)
    (fields : List (Option String × Fragment)) (closed : Bool) :
    foldFields field s ((some key, f) :: fields) closed = foldFields field t fields closed := by
  unfold foldFields
  rw [List.foldlM_cons]
  dsimp only
  rw [h]
  rfl

/-- The fields of a node other than its kind are read as they are. -/
theorem NodeFields.foldFields_read {fields : List (String × Value)}
    (hname : ∀ field ∈ fields, field.1 ≠ "node") (hplain : FieldLeaves IsPlainLeaf fields)
    (hnesting : fieldsNesting fields ≤ fieldLimit) (r : NodeFields) :
    Fragment.foldFields NodeFields.read r (Fragment.ofFields fields) true
      = .ok (r.1, r.2 ++ fields) := by
  induction fields generalizing r with
  | nil =>
    rw [List.append_nil]
    rfl
  | cons field fields ih =>
    obtain ⟨name, v⟩ := field
    obtain ⟨hne, hname⟩ := List.forall_mem_cons.mp hname
    obtain ⟨hv, hfields⟩ := Nat.max_le.mp hnesting
    have hread : NodeFields.read r name (Fragment.ofValue v) = .ok (r.1, r.2 ++ [(name, v)]) := by
      rw [NodeFields.read, if_neg fun heq => hne (eq_of_beq heq), readWhole_ofValue hplain.1 hv]
      rfl
    rw [Fragment.ofFields, Fragment.foldFields_cons hread, ih hname hplain.2 hfields,
      List.append_assoc, List.singleton_append]

/-- **A node of the outermost document is read back.** -/
theorem Node.ofFragment_ofValue (node : Node) (hplain : node.toJson.Leaves IsPlainLeaf)
    (hnesting : node.toJson.nesting ≤ nestingLimit - 2) :
    Node.ofFragment (Fragment.ofValue node.toJson) = .ok node := by
  rw [toJson_eq] at hplain hnesting ⊢
  have hkind : NodeFields.read (none, []) "node" (Fragment.ofValue (.str node.kind.name))
      = .ok (some node.kind, []) := by
    cases node <;> rfl
  have hfields : fieldsNesting node.fieldsJson ≤ fieldLimit :=
    (Nat.max_le.mp (Nat.le_of_succ_le_succ hnesting)).2
  have hread := NodeFields.foldFields_read node.ne_node_of_mem_fieldsJson hplain.2 hfields
    (some node.kind, [])
  rw [Fragment.ofValue, Fragment.ofFields, Node.ofFragment, Fragment.foldFields_cons hkind, hread]
  show (Node.ofFields (fun _ => includeOf node.fieldsJson) node.fieldsJson node.kind).mapError _ = _
  rw [ofFields_fieldsJson node fun part _ => Document.ofJson_toJson part.document]
  rfl

/-- The nodes of the outermost document are read one after another. -/
theorem Node.mapM_ofFragment {nodes : List Node}
    (hplain : ItemLeaves IsPlainLeaf (Node.listToJson nodes))
    (hnesting : itemsNesting (Node.listToJson nodes) ≤ nestingLimit - 2) :
    (Fragment.ofItems (Node.listToJson nodes)).mapM Node.ofFragment = .ok nodes := by
  induction nodes with
  | nil => rfl
  | cons node nodes ih =>
    obtain ⟨hnode, hnodes⟩ := Nat.max_le.mp hnesting
    rw [Node.listToJson, Fragment.ofItems, List.mapM_cons,
      Node.ofFragment_ofValue node hplain.1 hnode, ih hplain.2 hnodes]
    rfl

/-- **The outermost document is read back**, if its numbers fit and it does not nest too deep. -/
theorem Document.ofFragment_ofValue (d : Document) (hplain : d.toJson.Leaves IsPlainLeaf)
    (hnesting : d.toJson.nesting ≤ nestingLimit) :
    Document.ofFragment (Fragment.ofValue d.toJson) = .ok d := by
  obtain ⟨fileId, path, source, nodes⟩ := d
  obtain ⟨hfileId, -, -, hnodes, -⟩ := hplain
  have hdepth : itemsNesting (Node.listToJson nodes) ≤ nestingLimit - 2 := by
    have hfields := Nat.le_of_succ_le_succ hnesting
    simp only [fieldsNesting, nesting] at hfields
    show _ ≤ 125
    omega
  have hnumber : Document.readField {} "file_id" (Fragment.ofValue (.nat fileId))
      = .ok { fileId := some fileId } := by
    have hvalue : (Fragment.ofValue (.nat fileId)).value? 0 = some (.nat fileId) :=
      Fragment.value?_ofValue _ hfileId (Nat.zero_le 0)
    have hread : (Fragment.ofValue (.nat fileId)).readNat = .ok fileId := by
      rw [Fragment.readNat, Fragment.readScalar, hvalue]
      · rfl
      · nofun
      · nofun
    show (Fragment.readNat (Fragment.ofValue (.nat fileId)) >>= _) = _
    rw [hread]
    rfl
  have hlist : Document.readField ⟨some fileId, some path, some source, none⟩ "nodes"
      (Fragment.ofValue (.arr (Node.listToJson nodes)))
        = .ok ⟨some fileId, some path, some source, some nodes⟩ := by
    show (((Fragment.ofItems (Node.listToJson nodes)).mapM Node.ofFragment >>= _) >>= _) = _
    rw [Node.mapM_ofFragment hnodes hdepth]
    rfl
  rw [Document.toJson, Fragment.ofValue]
  simp only [Fragment.ofFields, Document.ofFragment]
  rw [Fragment.foldFields_cons hnumber, Fragment.foldFields_cons rfl, Fragment.foldFields_cons rfl,
    Fragment.foldFields_cons hlist]
  rfl

/-! ## Numbers that fit are kept -/

theorem isWord_of_lt {n : Nat} (h : n < UInt64.size) : IsWord n := ⟨by omega, by omega⟩

theorem Span.plain_toJson {s : Span} (h : s.Fits) : s.toJson.Leaves IsPlainLeaf :=
  ⟨isWord_of_lt h.1, isWord_of_lt h.2, trivial⟩

theorem Token.plain_toJson {t : Token} (h : t.Fits) : t.toJson.Leaves IsPlainLeaf :=
  ⟨trivial, Span.plain_toJson h, trivial⟩

/-- A token that may be absent. -/
theorem Token.plain_ofOption {o : Option Token} (h : ∀ t ∈ o, t.Fits) :
    (Value.ofOption Token.toJson o).Leaves IsPlainLeaf := by
  cases o with
  | none => exact trivial
  | some t => exact Token.plain_toJson (h t rfl)

theorem Attribute.plain_toJson {a : Attribute} (h : a.Fits) : a.toJson.Leaves IsPlainLeaf := by
  refine ⟨Token.plain_toJson h.1, Token.plain_ofOption h.2.1, ?_, Span.plain_toJson h.2.2, trivial⟩
  cases a.valueError <;> exact trivial

/-- **The fields of a node whose numbers fit are plain**, if the document in it is. -/
theorem Node.plain_fieldsJson {node : Node} (h : node.Fits)
    (hpart : ∀ part, node = .included part → part.document.toJson.Leaves IsPlainLeaf) :
    FieldLeaves IsPlainLeaf node.fieldsJson := by
  cases node with
  | text token => exact ⟨trivial, Span.plain_toJson h, trivial⟩
  | directive d =>
    refine ⟨Token.plain_toJson h.1, ?_, Span.plain_toJson h.2.2, trivial⟩
    refine itemLeaves_iff.mpr fun v hv => ?_
    obtain ⟨a, ha, rfl⟩ := List.mem_map.mp hv
    exact Attribute.plain_toJson (h.2.1 a ha)
  | codeBlock block =>
    exact ⟨trivial, Token.plain_ofOption h.1, Span.plain_toJson h.2, trivial⟩
  | included part =>
    exact ⟨trivial, hpart part rfl, Span.plain_toJson (Node.fits_included.mp h).2, trivial⟩
  | missing marker => exact ⟨trivial, Span.plain_toJson h, trivial⟩

/-- A document is plain if its number is a word and its nodes are plain. -/
theorem Document.plain_toJson_of {d : Document} (hfileId : d.fileId < UInt64.size)
    (hnodes : ItemLeaves IsPlainLeaf (Node.listToJson d.nodes)) :
    d.toJson.Leaves IsPlainLeaf :=
  ⟨isWord_of_lt hfileId, trivial, trivial, hnodes, trivial⟩

/-- **Nodes whose numbers fit are plain.** -/
theorem Node.plain_listToJson {nodes : List Node} (h : Node.AllFit nodes) :
    ItemLeaves IsPlainLeaf (Node.listToJson nodes) := by
  induction nodes using Node.forestInduction with
  | nil => exact trivial
  | leaf node nodes hnode ih =>
    refine ⟨?_, ih h.2⟩
    rw [Node.toJson_eq]
    refine ⟨trivial, Node.plain_fieldsJson h.1 fun part hpart => ?_⟩
    rw [hpart] at hnode
    cases hnode
  | included part nodes ihPart ihNodes =>
    refine ⟨?_, ihNodes h.2⟩
    rw [Node.toJson_eq]
    refine ⟨trivial, Node.plain_fieldsJson h.1 fun part' hpart => ?_⟩
    obtain rfl := Node.included.inj hpart
    obtain ⟨⟨hfileId, hnodes⟩, -⟩ := Node.fits_included.mp h.1
    exact Document.plain_toJson_of hfileId (ihPart hnodes)

/-! ## Saving and reading -/

/-- **A document whose numbers fit is read back from its text**, if it does not nest too deep. -/
theorem Document.ofText_toText_of_fits {d : Document} (h : d.Fits)
    (hnesting : d.toJson.nesting ≤ nestingLimit) : Document.ofText d.toText = .ok d := by
  have hplain := Document.plain_toJson_of h.1 (Node.plain_listToJson h.2)
  rw [Document.ofText, Document.toText, readText, read_render hplain]
  show (Document.ofFragment (Fragment.ofValue d.toJson) >>= _) = _
  rw [Document.ofFragment_ofValue d hplain hnesting]
  rfl

/-- **A saved document is read back.** Let the numbers of a document be 64-bit words, and let the
lists and objects of its JSON nest no deeper than 127: then the document is read back from its text.
And whatever text a document was read from, with its fields in any order, with others between them,
with fields left out or with records written as lists: it is read back from its own text, so that
saving it once more gives that text again. -/
theorem Document.ofText_toText :
    (∀ d : Document, d.Fits → d.toJson.nesting ≤ 127 → Document.ofText d.toText = .ok d)
      ∧ ∀ (s : String) (d : Document), Document.ofText s = .ok d → d.toJson.nesting ≤ 127 →
          Document.ofText d.toText = .ok d
            ∧ (Document.ofText d.toText).map Document.toText = .ok d.toText := by
  refine ⟨fun d h hnesting => Document.ofText_toText_of_fits h hnesting, fun s d hs hnesting => ?_⟩
  have hread := Document.ofText_toText_of_fits (Document.fits_of_ofText hs) hnesting
  refine ⟨hread, ?_⟩
  rw [hread]
  rfl

/-- A document with what is hard to write: quotes, controls and characters of several bytes, the
largest word, a span that ends before it starts, fields that are absent, and a document inside. -/
def oddTemplate : Document where
  fileId := 18446744073709551615
  path := "a\"b\\c.tt"
  source := "\x01\n<#é#>😀"
  nodes :=
    [.text ⟨"\t\x7f\x00", ⟨9, 3⟩⟩,
      .directive
        { name := ⟨"import", ⟨0, 18446744073709551615⟩⟩
          attributes :=
            [{ name := ⟨"namespace", ⟨1, 2⟩⟩, valueError := some "", span := ⟨2, 1⟩ }]
          span := ⟨0, 0⟩ },
      .codeBlock { kind := .feature, span := ⟨4, 4⟩ },
      .included ⟨"in.tt", ⟨0, "", "", [.missing ⟨"#>", ⟨0, 0⟩⟩]⟩, ⟨5, 6⟩⟩]

/-- A text with records as lists, a field that nobody reads, and the kind of a node behind its other
fields. -/
def looseText : String :=
  "[7, \"a.tt\", \"\\u00e9\", [\x7b\"extra\": [1.5e3, \x7b\x7d], \"span\": [2, 0],"
    ++ " \"text\": \"\\u00e9\", \"node\": \"text\"\x7d]]"

/-- What the document of that text is saved as. -/
def tightText : String :=
  "\x7b\"file_id\":7,\"path\":\"a.tt\",\"source\":\"é\",\"nodes\":[\x7b\"node\":\"text\","
    ++ "\"text\":\"é\",\"span\":\x7b\"start\":2,\"end\":0\x7d\x7d]\x7d"

/-- The first document comes back, and so does the one that the text is read as. -/
theorem Document.ofText_toText_odd :
    oddTemplate.Fits ∧ oddTemplate.toJson.nesting ≤ 127
      ∧ Document.ofText oddTemplate.toText = .ok oddTemplate
      ∧ ∃ d, Document.ofText looseText = .ok d ∧ d.toJson.nesting ≤ 127 ∧ d.toText = tightText
        ∧ Document.ofText tightText = .ok d := by
  have hfits : oddTemplate.Fits := by
    simp only [oddTemplate, Document.Fits, Node.AllFit, Node.Fits, Token.Fits, Directive.Fits,
      Attribute.Fits, CodeBlock.Fits, Span.Fits]
    decide
  have hnesting : oddTemplate.toJson.nesting ≤ 127 := by decide +kernel
  have hloose : (Document.ofText looseText).toOption.map (fun d => (d.toText, d.toJson.nesting))
      = some (tightText, 4) := by decide +kernel
  refine ⟨hfits, hnesting, Document.ofText_toText.1 oddTemplate hfits hnesting, ?_⟩
  cases hread : Document.ofText looseText with
  | error e =>
    rw [hread] at hloose
    cases hloose
  | ok d =>
    rw [hread] at hloose
    obtain ⟨htext, hdepth⟩ := Prod.mk.inj (Option.some.inj hloose)
    have hd : d.toJson.nesting ≤ 127 := by
      rw [hdepth]
      decide
    have hback := (Document.ofText_toText.2 looseText d hread hd).1
    rw [htext] at hback
    exact ⟨d, rfl, hd, htext, hback⟩

end TextTemplate
