import TextTemplate.Document.Json
import TextTemplate.Proofs.Traversal
import TextTemplate.Proofs.WrittenJson

/-!
# Documents whose numbers are 64-bit words

The number of a document and the ends of a span are 64-bit words wherever they are stored. Nothing
in a `Document` says so, and nothing has to: whatever text a document is read from, its numbers fit
(`Document.fits_of_ofText`). A number in a text is read as an integer only if it fits 64 bits, and
the readers only hand numbers on.

What a reader can return is said with `Returns`, so a reader that reads several things is looked at
one thing after the other.
-/

namespace TextTemplate

open Json

/-! ## What a reader can return -/

/-- **Whatever is returned has a property.** Nothing is said about errors. -/
def Returns {ε α : Type} (x : Except ε α) (P : α → Prop) : Prop := ∀ a, x = .ok a → P a

namespace Returns

variable {ε ε' α β σ : Type} {P : α → Prop} {Q : β → Prop}

theorem pure {a : α} (h : P a) : Returns (Pure.pure a : Except ε α) P := by
  rintro _ ⟨⟩
  exact h

theorem throw (e : ε) : Returns (throw e : Except ε α) P := nofun

theorem trivial (x : Except ε α) : Returns x fun _ => True := fun _ _ => True.intro

/-- What is read first is known when the rest is read. -/
theorem bind {x : Except ε α} {f : α → Except ε β} (hx : Returns x P)
    (hf : ∀ a, P a → Returns (f a) Q) : Returns (x >>= f) Q := by
  intro b hb
  cases x with
  | error e => cases hb
  | ok a => exact hf a (hx a rfl) b hb

theorem map {x : Except ε α} {f : α → β} (hx : Returns x P) (hf : ∀ a, P a → Q (f a)) :
    Returns (f <$> x) Q := by
  intro b hb
  cases x with
  | error e => cases hb
  | ok a =>
    cases hb
    exact hf a (hx a rfl)

theorem mapError {x : Except ε α} {f : ε → ε'} (hx : Returns x P) : Returns (x.mapError f) P := by
  intro a ha
  cases x with
  | error e => cases ha
  | ok b =>
    cases ha
    exact hx a rfl

/-- A property that every step keeps. -/
theorem foldlM {S : σ → Prop} {f : σ → α → Except ε σ} {l : List α} {start : σ} (hstart : S start)
    (hf : ∀ s, S s → ∀ x ∈ l, Returns (f s x) S) : Returns (l.foldlM f start) S := by
  induction l generalizing start with
  | nil => exact pure hstart
  | cons x l ih =>
    rw [List.foldlM_cons]
    refine (hf start hstart x List.mem_cons_self).bind fun s hs => ih hs fun s hs y hy => ?_
    exact hf s hs y (List.mem_cons_of_mem x hy)

theorem mapM {f : α → Except ε β} {l : List α} (hf : ∀ x ∈ l, Returns (f x) Q) :
    Returns (l.mapM f) fun bs => ∀ b ∈ bs, Q b := by
  induction l with
  | nil => exact pure (List.forall_mem_nil _)
  | cons x l ih =>
    rw [List.mapM_cons]
    refine (hf x List.mem_cons_self).bind fun b hb => ?_
    refine (ih fun y hy => hf y (List.mem_cons_of_mem x hy)).bind fun bs hbs => pure ?_
    exact List.forall_mem_cons.mpr ⟨hb, hbs⟩

end Returns

/-! ## Documents that fit -/

/-- The ends are words. -/
def Span.Fits (s : Span) : Prop := s.start < UInt64.size ∧ s.stop < UInt64.size

/-- The numbers of a token are words. -/
def Token.Fits (t : Token) : Prop := t.span.Fits

/-- The numbers of an attribute are words. -/
def Attribute.Fits (a : Attribute) : Prop :=
  a.name.Fits ∧ (∀ t ∈ a.value, t.Fits) ∧ a.span.Fits

/-- The numbers of a directive are words. -/
def Directive.Fits (d : Directive) : Prop :=
  d.name.Fits ∧ (∀ a ∈ d.attributes, a.Fits) ∧ d.span.Fits

/-- The numbers of a code block are words. -/
def CodeBlock.Fits (b : CodeBlock) : Prop := (∀ t ∈ b.code, t.Fits) ∧ b.span.Fits

mutual

/-- The numbers of a node are words, also those of the document in it. -/
def Node.Fits : Node → Prop
  | .text token => token.Fits
  | .directive d => d.Fits
  | .codeBlock block => block.Fits
  | .included ⟨_, ⟨fileId, _, _, nodes⟩, span⟩ =>
    (fileId < UInt64.size ∧ Node.AllFit nodes) ∧ span.Fits
  | .missing marker => marker.span.Fits

/-- The numbers of all nodes are words. -/
def Node.AllFit : List Node → Prop
  | [] => True
  | node :: nodes => node.Fits ∧ Node.AllFit nodes

end

/-- **The numbers of a document are words**: its own number, those of the documents that it
includes, and the ends of all spans. -/
def Document.Fits (d : Document) : Prop := d.fileId < UInt64.size ∧ Node.AllFit d.nodes

/-- The numbers of an include are words. -/
def Include.Fits (part : Include) : Prop := part.document.Fits ∧ part.span.Fits

theorem Node.fits_included {part : Include} : (Node.included part).Fits ↔ part.Fits := by
  obtain ⟨path, ⟨fileId, docPath, source, nodes⟩, span⟩ := part
  exact Iff.rfl

theorem Node.allFit_iff {nodes : List Node} : Node.AllFit nodes ↔ ∀ node ∈ nodes, node.Fits := by
  induction nodes with
  | nil => exact iff_of_true trivial (List.forall_mem_nil _)
  | cons node nodes ih =>
    rw [List.forall_mem_cons, ← ih]
    exact Iff.rfl

/-! ## Reading what records are made of -/

namespace Json

open Value

theorem Value.fieldLeaves_iff {p : Value → Prop} {fields : List (String × Value)} :
    FieldLeaves p fields ↔ ∀ field ∈ fields, field.2.Leaves p := by
  induction fields with
  | nil => exact iff_of_true trivial (List.forall_mem_nil _)
  | cons field fields ih =>
    rw [List.forall_mem_cons, ← ih]
    exact Iff.rfl

theorem Value.itemLeaves_iff {p : Value → Prop} {vs : List Value} :
    ItemLeaves p vs ↔ ∀ v ∈ vs, v.Leaves p := by
  induction vs with
  | nil => exact iff_of_true trivial (List.forall_mem_nil _)
  | cons v vs ih =>
    rw [List.forall_mem_cons, ← ih]
    exact Iff.rfl

/-- The numbers in a value are words. -/
abbrev Value.Words (v : Value) : Prop := v.Leaves IsWordLeaf

/-- **A natural number that is read is a word.** -/
theorem Value.returns_readNat {v : Value} (h : v.Words) : Returns v.readNat (· < UInt64.size) := by
  cases v with
  | int n =>
    cases n with
    | ofNat n => exact Returns.pure (Int.ofNat_lt.mp h.2)
    | negSucc n => exact Returns.throw _
  | _ => exact Returns.throw _

section Readers

variable {α : Type} {P : α → Prop} {read : Value → Except ShapeError α}

theorem Value.returns_readOption (hread : ∀ v : Value, v.Words → Returns (read v) P) {v : Value}
    (h : v.Words) : Returns (v.readOption read) fun o => ∀ a ∈ o, P a := by
  cases v with
  | null => exact Returns.pure nofun
  | _ =>
    refine (hread _ h).map ?_
    rintro a ha _ ⟨⟩
    exact ha

theorem Value.returns_readList (hread : ∀ v : Value, v.Words → Returns (read v) P) {v : Value}
    (h : v.Words) : Returns (v.readList read) fun list => ∀ a ∈ list, P a := by
  cases v with
  | arr items => exact Returns.mapM fun v hv => hread v (itemLeaves_iff.mp h v hv)
  | _ => exact Returns.throw _

/-- The first item of a list of words, and the others. -/
theorem returns_takeItem (hread : ∀ v : Value, v.Words → Returns (read v) P) (index : Nat)
    (record : String) {items : List Value} (h : ItemLeaves IsWordLeaf items) :
    Returns (takeItem index record read items) fun x => P x.1 ∧ ItemLeaves IsWordLeaf x.2 := by
  cases items with
  | nil => exact Returns.throw _
  | cons v vs => exact (hread v h.1).bind fun a ha => Returns.pure ⟨ha, h.2⟩

theorem returns_takeItemD (hread : ∀ v : Value, v.Words → Returns (read v) P) (default : α)
    (hdefault : P default) {items : List Value} (h : ItemLeaves IsWordLeaf items) :
    Returns (takeItemD default read items) fun x => P x.1 ∧ ItemLeaves IsWordLeaf x.2 := by
  cases items with
  | nil => exact Returns.pure ⟨hdefault, h⟩
  | cons v vs => exact (hread v h.1).bind fun a ha => Returns.pure ⟨ha, h.2⟩

/-- A field that has been read. -/
theorem returns_required {field : Option α} (h : ∀ a ∈ field, P a) (name : String) :
    Returns (required field name) P := by
  cases field with
  | none => exact Returns.throw _
  | some a => exact Returns.pure (h a rfl)

/-- A field that may be left out. -/
theorem getD_of_forall_mem {field : Option α} (h : ∀ a ∈ field, P a) {default : α}
    (hdefault : P default) : P (field.getD default) := by
  cases field with
  | none => exact hdefault
  | some a => exact h a rfl

/-- Reading a field into a record. -/
theorem returns_readField {β σ : Type} {S : σ → Prop} {field : Option β} {name : String}
    {x : Except ShapeError α} {f : α → σ} (hx : Returns x P) (hf : ∀ a, P a → S (f a)) :
    Returns (do unread field name; return f (← x)) S :=
  (Returns.trivial _).bind fun _ _ => hx.bind fun a ha => Returns.pure (hf a ha)

/-- A field that is there. -/
theorem forall_mem_some {a : α} (h : P a) : ∀ b ∈ some a, P b := by
  rintro _ ⟨⟩
  exact h

end Readers

end Json

/-! ## Reading the records that hold no document

For each record: what the fields read so far keep, and from it what the record has, in both of its
forms. -/

open Value

/-- A span that is read has words as its ends. -/
theorem Span.fits_ofJson {v : Value} (h : v.Words) : Returns (Span.ofJson v) Span.Fits := by
  cases v with
  | obj fields =>
    have hfields : Returns (fields.foldlM Span.readField {}) fun r =>
        (∀ n ∈ r.start, n < UInt64.size) ∧ ∀ n ∈ r.stop, n < UInt64.size := by
      refine Returns.foldlM ⟨nofun, nofun⟩ fun r hr field hfield => ?_
      have hv := fieldLeaves_iff.mp h field hfield
      unfold Span.readField
      split
      · exact returns_readField (returns_readNat hv) fun n hn => ⟨forall_mem_some hn, hr.2⟩
      · exact returns_readField (returns_readNat hv) fun n hn => ⟨hr.1, forall_mem_some hn⟩
      · exact Returns.throw _
    refine hfields.bind fun r hr => (returns_required hr.1 _).bind fun start hstart => ?_
    exact (returns_required hr.2 _).bind fun stop hstop => Returns.pure ⟨hstart, hstop⟩
  | arr items =>
    refine (returns_takeItem (fun _ => returns_readNat) _ _ h).bind ?_
    rintro ⟨start, items⟩ ⟨hstart, hitems⟩
    refine (returns_takeItem (fun _ => returns_readNat) _ _ hitems).bind ?_
    rintro ⟨stop, items⟩ ⟨hstop, -⟩
    exact (Returns.trivial _).bind fun _ _ => Returns.pure ⟨hstart, hstop⟩
  | _ => exact Returns.throw _

/-- The last item of a list form, a span, behind which nothing may follow. -/
theorem Span.fits_lastItem {α : Type} {P : α → Prop} {index size : Nat} {record : String}
    {items : List Value} (h : ItemLeaves IsWordLeaf items) {f : Span → α}
    (hf : ∀ s : Span, s.Fits → P (f s)) :
    Returns (do
      let (span, items) ← takeItem index record Span.ofJson items
      noMoreItems size items
      return f span) P := by
  refine (returns_takeItem (fun _ => Span.fits_ofJson) _ _ h).bind ?_
  rintro ⟨span, items⟩ ⟨hspan, -⟩
  exact (Returns.trivial _).bind fun _ _ => Returns.pure (hf span hspan)

/-- A token that is read fits. -/
theorem Token.fits_ofFields {fields : List (String × Value)} (h : FieldLeaves IsWordLeaf fields) :
    Returns (Token.ofFields fields) Token.Fits := by
  have hfields : Returns (fields.foldlM Token.readField {}) fun r => ∀ s ∈ r.span, s.Fits := by
    refine Returns.foldlM nofun fun r hr field hfield => ?_
    have hv := fieldLeaves_iff.mp h field hfield
    unfold Token.readField
    split
    · exact returns_readField (Returns.trivial _) fun _ _ => hr
    · exact returns_readField (Span.fits_ofJson hv) fun s hs => forall_mem_some hs
    · exact Returns.pure hr
  refine hfields.bind fun r hr => (Returns.trivial _).bind fun text _ => ?_
  exact (returns_required hr _).bind fun span hspan => Returns.pure hspan

theorem Token.fits_ofItems {items : List Value} (h : ItemLeaves IsWordLeaf items) :
    Returns (Token.ofItems items) Token.Fits := by
  refine (returns_takeItem (fun _ _ => Returns.trivial _) _ _ h).bind ?_
  rintro ⟨text, items⟩ ⟨-, hitems⟩
  exact Span.fits_lastItem hitems fun s hs => hs

theorem Token.fits_ofJson {v : Value} (h : v.Words) : Returns (Token.ofJson v) Token.Fits := by
  cases v with
  | obj fields => exact Token.fits_ofFields h
  | arr items => exact Token.fits_ofItems h
  | _ => exact Returns.throw _

/-- An attribute that is read fits. -/
theorem Attribute.fits_ofJson {v : Value} (h : v.Words) :
    Returns (Attribute.ofJson v) Attribute.Fits := by
  have hvalue : ∀ v : Value, v.Words →
      Returns (v.readOption Token.ofJson) fun o => ∀ t ∈ o, t.Fits :=
    fun _ => returns_readOption fun _ => Token.fits_ofJson
  cases v with
  | obj fields =>
    have hfields : Returns (fields.foldlM Attribute.readField {}) fun r =>
        (∀ t ∈ r.name, t.Fits) ∧ (∀ o ∈ r.value, ∀ t ∈ o, t.Fits) ∧ ∀ s ∈ r.span, s.Fits := by
      refine Returns.foldlM ⟨nofun, nofun, nofun⟩ fun r hr field hfield => ?_
      have hv := fieldLeaves_iff.mp h field hfield
      unfold Attribute.readField
      split
      · exact returns_readField (Token.fits_ofJson hv) fun t ht => ⟨forall_mem_some ht, hr.2⟩
      · exact returns_readField (hvalue _ hv) fun o ho => ⟨hr.1, forall_mem_some ho, hr.2.2⟩
      · exact returns_readField (Returns.trivial _) fun _ _ => hr
      · exact returns_readField (Span.fits_ofJson hv) fun s hs => ⟨hr.1, hr.2.1, forall_mem_some hs⟩
      · exact Returns.pure hr
    refine hfields.bind fun r hr => (returns_required hr.1 _).bind fun name hname => ?_
    refine (returns_required hr.2.2 _).bind fun span hspan => Returns.pure ⟨hname, ?_, hspan⟩
    exact getD_of_forall_mem hr.2.1 nofun
  | arr items =>
    refine (returns_takeItem (fun _ => Token.fits_ofJson) _ _ h).bind ?_
    rintro ⟨name, items⟩ ⟨hname, hitems⟩
    refine (returns_takeItemD hvalue none nofun hitems).bind ?_
    rintro ⟨value, items⟩ ⟨hvalue, hitems⟩
    refine (returns_takeItemD (fun _ _ => Returns.trivial _) none trivial hitems).bind ?_
    rintro ⟨valueError, items⟩ ⟨-, hitems⟩
    exact Span.fits_lastItem hitems fun s hs => ⟨hname, hvalue, hs⟩
  | _ => exact Returns.throw _

/-- A directive that is read fits. -/
theorem Directive.fits_ofFields {fields : List (String × Value)}
    (h : FieldLeaves IsWordLeaf fields) :
    Returns (Directive.ofFields fields) Directive.Fits := by
  have hfields : Returns (fields.foldlM Directive.readField {}) fun r =>
      (∀ t ∈ r.name, t.Fits) ∧ (∀ list ∈ r.attributes, ∀ a ∈ list, a.Fits)
        ∧ ∀ s ∈ r.span, s.Fits := by
    refine Returns.foldlM ⟨nofun, nofun, nofun⟩ fun r hr field hfield => ?_
    have hv := fieldLeaves_iff.mp h field hfield
    unfold Directive.readField
    split
    · exact returns_readField (Token.fits_ofJson hv) fun t ht => ⟨forall_mem_some ht, hr.2⟩
    · exact returns_readField (returns_readList (fun _ => Attribute.fits_ofJson) hv)
        fun list hlist => ⟨hr.1, forall_mem_some hlist, hr.2.2⟩
    · exact returns_readField (Span.fits_ofJson hv) fun s hs => ⟨hr.1, hr.2.1, forall_mem_some hs⟩
    · exact Returns.pure hr
  refine hfields.bind fun r hr => (returns_required hr.1 _).bind fun name hname => ?_
  refine (returns_required hr.2.2 _).bind fun span hspan => Returns.pure ⟨hname, ?_, hspan⟩
  exact getD_of_forall_mem hr.2.1 (List.forall_mem_nil _)

theorem Directive.fits_ofItems {items : List Value} (h : ItemLeaves IsWordLeaf items) :
    Returns (Directive.ofItems items) Directive.Fits := by
  refine (returns_takeItem (fun _ => Token.fits_ofJson) _ _ h).bind ?_
  rintro ⟨name, items⟩ ⟨hname, hitems⟩
  refine (returns_takeItemD (fun _ => returns_readList fun _ => Attribute.fits_ofJson) []
    (List.forall_mem_nil _) hitems).bind ?_
  rintro ⟨attributes, items⟩ ⟨hattributes, hitems⟩
  exact Span.fits_lastItem hitems fun s hs => ⟨hname, hattributes, hs⟩

/-- A code block that is read fits. -/
theorem CodeBlock.fits_ofFields {fields : List (String × Value)}
    (h : FieldLeaves IsWordLeaf fields) :
    Returns (CodeBlock.ofFields fields) CodeBlock.Fits := by
  have hfields : Returns (fields.foldlM CodeBlock.readField {}) fun r =>
      (∀ o ∈ r.code, ∀ t ∈ o, t.Fits) ∧ ∀ s ∈ r.span, s.Fits := by
    refine Returns.foldlM ⟨nofun, nofun⟩ fun r hr field hfield => ?_
    have hv := fieldLeaves_iff.mp h field hfield
    unfold CodeBlock.readField
    split
    · exact returns_readField (Returns.trivial _) fun _ _ => hr
    · exact returns_readField (returns_readOption (fun _ => Token.fits_ofJson) hv)
        fun o ho => ⟨forall_mem_some ho, hr.2⟩
    · exact returns_readField (Span.fits_ofJson hv) fun s hs => ⟨hr.1, forall_mem_some hs⟩
    · exact Returns.pure hr
  refine hfields.bind fun r hr => (Returns.trivial _).bind fun kind _ => ?_
  refine (returns_required hr.2 _).bind fun span hspan => Returns.pure ⟨?_, hspan⟩
  exact getD_of_forall_mem hr.1 nofun

theorem CodeBlock.fits_ofItems {items : List Value} (h : ItemLeaves IsWordLeaf items) :
    Returns (CodeBlock.ofItems items) CodeBlock.Fits := by
  refine (returns_takeItem (fun _ _ => Returns.trivial _) _ _ h).bind ?_
  rintro ⟨kind, items⟩ ⟨-, hitems⟩
  refine (returns_takeItemD (fun _ => returns_readOption fun _ => Token.fits_ofJson) none nofun
    hitems).bind ?_
  rintro ⟨code, items⟩ ⟨hcode, hitems⟩
  exact Span.fits_lastItem hitems fun s hs => ⟨hcode, hs⟩

/-- A missing token that is read fits. -/
theorem MissingToken.fits_ofFields {fields : List (String × Value)}
    (h : FieldLeaves IsWordLeaf fields) :
    Returns (MissingToken.ofFields fields) fun marker => marker.span.Fits := by
  have hfields : Returns (fields.foldlM MissingToken.readField {}) fun r =>
      ∀ s ∈ r.span, s.Fits := by
    refine Returns.foldlM nofun fun r hr field hfield => ?_
    have hv := fieldLeaves_iff.mp h field hfield
    unfold MissingToken.readField
    split
    · exact returns_readField (Returns.trivial _) fun _ _ => hr
    · exact returns_readField (Span.fits_ofJson hv) fun s hs => forall_mem_some hs
    · exact Returns.pure hr
  refine hfields.bind fun r hr => (Returns.trivial _).bind fun expected _ => ?_
  exact (returns_required hr _).bind fun span hspan => Returns.pure hspan

theorem MissingToken.fits_ofItems {items : List Value} (h : ItemLeaves IsWordLeaf items) :
    Returns (MissingToken.ofItems items) fun marker => marker.span.Fits := by
  refine (returns_takeItem (fun _ _ => Returns.trivial _) _ _ h).bind ?_
  rintro ⟨expected, items⟩ ⟨-, hitems⟩
  exact Span.fits_lastItem hitems fun s hs => hs

/-! ## Reading nodes and documents -/

/-- The numbers of the fields of an include read so far are words. -/
def Include.Fields.Fits (r : Include.Fields) : Prop :=
  (∀ d ∈ r.document, d.Fits) ∧ ∀ s ∈ r.span, s.Fits

/-- The numbers of the fields of a document read so far are words. -/
def Document.Fields.Fits (r : Document.Fields) : Prop :=
  (∀ n ∈ r.fileId, n < UInt64.size) ∧ ∀ nodes ∈ r.nodes, Node.AllFit nodes

theorem Include.Fields.fits_finish {r : Include.Fields} (h : r.Fits) :
    Returns r.finish Include.Fits := by
  refine (Returns.trivial _).bind fun path _ => (returns_required h.1 _).bind fun d hd => ?_
  exact (returns_required h.2 _).bind fun span hspan => Returns.pure ⟨hd, hspan⟩

theorem Document.Fields.fits_finish {r : Document.Fields} (h : r.Fits) :
    Returns r.finish Document.Fits := by
  refine (returns_required h.1 _).bind fun fileId hfileId => ?_
  refine (Returns.trivial _).bind fun path _ => (Returns.trivial _).bind fun source _ => ?_
  exact (returns_required h.2 _).bind fun nodes hnodes => Returns.pure ⟨hfileId, hnodes⟩

/-- A node that is read from fields fits, if the include does that it may be. -/
theorem Node.fits_ofFields {included : Unit → Except ShapeError Include}
    (hincluded : Returns (included ()) Include.Fits) {fields : List (String × Value)}
    (h : FieldLeaves IsWordLeaf fields) (kind : NodeKind) :
    Returns (Node.ofFields included fields kind) Node.Fits := by
  cases kind with
  | text => exact (Token.fits_ofFields h).bind fun token htoken => Returns.pure htoken
  | directive => exact (Directive.fits_ofFields h).bind fun d hd => Returns.pure hd
  | codeBlock => exact (CodeBlock.fits_ofFields h).bind fun block hblock => Returns.pure hblock
  | included =>
    exact hincluded.bind fun part hpart => Returns.pure (Node.fits_included.mpr hpart)
  | missing => exact (MissingToken.fits_ofFields h).bind fun marker hmarker => Returns.pure hmarker

/-- The same from a list of its fields. -/
theorem Node.fits_ofItems {included : Unit → Except ShapeError Include}
    (hincluded : Returns (included ()) Include.Fits) {items : List Value}
    (h : ItemLeaves IsWordLeaf items) (kind : NodeKind) :
    Returns (Node.ofItems included items kind) Node.Fits := by
  cases kind with
  | text => exact (Token.fits_ofItems h).bind fun token htoken => Returns.pure htoken
  | directive => exact (Directive.fits_ofItems h).bind fun d hd => Returns.pure hd
  | codeBlock => exact (CodeBlock.fits_ofItems h).bind fun block hblock => Returns.pure hblock
  | included =>
    exact hincluded.bind fun part hpart => Returns.pure (Node.fits_included.mpr hpart)
  | missing => exact (MissingToken.fits_ofItems h).bind fun marker hmarker => Returns.pure hmarker

mutual

/-- **A node that is read fits**, also if it holds a document. -/
theorem Node.fits_ofJson (v : Value) (h : v.Words) : Returns (Node.ofJson v) Node.Fits := by
  cases v with
  | obj fields =>
    rw [Node.ofJson]
    refine (Returns.trivial _).bind fun kind _ => Node.fits_ofFields ?_ h kind
    exact (Include.fits_readFields fields h (r := {}) ⟨nofun, nofun⟩).bind fun r hr =>
      Include.Fields.fits_finish hr
  | arr items =>
    cases items with
    | nil =>
      rw [Node.ofJson]
      exact Returns.throw _
    | cons kind items =>
      rw [Node.ofJson]
      exact (Returns.trivial _).bind fun kind _ =>
        Node.fits_ofItems (Include.fits_ofItems items h.2) h.2 kind
  | _ =>
    rw [Node.ofJson]
    · exact Returns.throw _
    all_goals nofun

/-- The fields of an include that are read fit. -/
theorem Include.fits_readFields (fields : List (String × Value)) (h : FieldLeaves IsWordLeaf fields)
    {r : Include.Fields} (hr : r.Fits) :
    Returns (Include.readFields r fields) Include.Fields.Fits := by
  cases fields with
  | nil =>
    rw [Include.readFields]
    exact Returns.pure hr
  | cons field fields =>
    obtain ⟨name, v⟩ := field
    by_cases hpath : name = "path"
    · rw [hpath, Include.readFields]
      refine (Returns.trivial _).bind fun _ _ => (Returns.trivial _).bind fun path _ => ?_
      exact Include.fits_readFields fields h.2 hr
    by_cases hdocument : name = "document"
    · rw [hdocument, Include.readFields]
      refine (Returns.trivial _).bind fun _ _ => (Document.fits_ofJson v h.1).bind fun d hd => ?_
      exact Include.fits_readFields fields h.2 ⟨forall_mem_some hd, hr.2⟩
    by_cases hspan : name = "span"
    · rw [hspan, Include.readFields]
      refine (Returns.trivial _).bind fun _ _ => (Span.fits_ofJson h.1).bind fun s hs => ?_
      exact Include.fits_readFields fields h.2 ⟨hr.1, forall_mem_some hs⟩
    rw [Include.readFields]
    · exact Include.fits_readFields fields h.2 hr
    · exact fun _ heq => hpath (Prod.mk.inj heq).1
    · exact fun _ heq => hdocument (Prod.mk.inj heq).1
    · exact fun _ heq => hspan (Prod.mk.inj heq).1

/-- An include that is read from a list fits. -/
theorem Include.fits_ofItems (items : List Value) (h : ItemLeaves IsWordLeaf items) :
    Returns (Include.ofItems items) Include.Fits := by
  cases items with
  | nil =>
    rw [Include.ofItems]
    exact Returns.throw _
  | cons path items =>
    rw [Include.ofItems]
    refine (Returns.trivial _).bind fun path _ => ?_
    cases items with
    | nil => exact Returns.throw _
    | cons document items =>
      refine (Document.fits_ofJson document h.2.1).bind fun d hd => ?_
      exact Span.fits_lastItem h.2.2 fun s hs => ⟨hd, hs⟩

/-- **A document that is read fits.** -/
theorem Document.fits_ofJson (v : Value) (h : v.Words) :
    Returns (Document.ofJson v) Document.Fits := by
  cases v with
  | obj fields =>
    rw [Document.ofJson]
    exact (Document.fits_readFields fields h (r := {}) ⟨nofun, nofun⟩).bind fun r hr =>
      Document.Fields.fits_finish hr
  | arr items =>
    match items, h with
    | [], _ =>
      rw [Document.ofJson]
      exact Returns.throw _
    | fileId :: items, h =>
      rw [Document.ofJson]
      refine (returns_readNat h.1).bind fun fileId hfileId => ?_
      match items, h with
      | [], _ => exact Returns.throw _
      | [path], _ => exact (Returns.trivial _).bind fun _ _ => Returns.throw _
      | [path, source], _ =>
        refine (Returns.trivial _).bind fun _ _ => (Returns.trivial _).bind fun _ _ => ?_
        exact Returns.throw _
      | path :: source :: nodes :: items, h =>
        refine (Returns.trivial _).bind fun path _ => (Returns.trivial _).bind fun source _ => ?_
        refine (Node.fits_listOfJson nodes h.2.2.2.1).bind fun nodes hnodes => ?_
        exact (Returns.trivial _).bind fun _ _ => Returns.pure ⟨hfileId, hnodes⟩
  | _ =>
    rw [Document.ofJson]
    · exact Returns.throw _
    all_goals nofun

/-- The fields of a document that are read fit. -/
theorem Document.fits_readFields (fields : List (String × Value))
    (h : FieldLeaves IsWordLeaf fields) {r : Document.Fields} (hr : r.Fits) :
    Returns (Document.readFields r fields) Document.Fields.Fits := by
  cases fields with
  | nil =>
    rw [Document.readFields]
    exact Returns.pure hr
  | cons field fields =>
    obtain ⟨name, v⟩ := field
    by_cases hfileId : name = "file_id"
    · rw [hfileId, Document.readFields]
      refine (Returns.trivial _).bind fun _ _ => (returns_readNat h.1).bind fun n hn => ?_
      exact Document.fits_readFields fields h.2 ⟨forall_mem_some hn, hr.2⟩
    by_cases hpath : name = "path"
    · rw [hpath, Document.readFields]
      refine (Returns.trivial _).bind fun _ _ => (Returns.trivial _).bind fun path _ => ?_
      exact Document.fits_readFields fields h.2 hr
    by_cases hsource : name = "source"
    · rw [hsource, Document.readFields]
      refine (Returns.trivial _).bind fun _ _ => (Returns.trivial _).bind fun source _ => ?_
      exact Document.fits_readFields fields h.2 hr
    by_cases hnodes : name = "nodes"
    · rw [hnodes, Document.readFields]
      refine (Returns.trivial _).bind fun _ _ =>
        (Node.fits_listOfJson v h.1).bind fun nodes hn => ?_
      exact Document.fits_readFields fields h.2 ⟨hr.1, forall_mem_some hn⟩
    rw [Document.readFields]
    · exact Document.fits_readFields fields h.2 hr
    · exact fun _ heq => hfileId (Prod.mk.inj heq).1
    · exact fun _ heq => hpath (Prod.mk.inj heq).1
    · exact fun _ heq => hsource (Prod.mk.inj heq).1
    · exact fun _ heq => hnodes (Prod.mk.inj heq).1

/-- Nodes that are read fit. -/
theorem Node.fits_listOfJson (v : Value) (h : v.Words) :
    Returns (Node.listOfJson v) Node.AllFit := by
  cases v with
  | arr items =>
    rw [Node.listOfJson]
    exact Node.fits_manyOfJson items h
  | _ =>
    rw [Node.listOfJson]
    · exact Returns.throw _
    all_goals nofun

/-- Nodes that are read one after another fit. -/
theorem Node.fits_manyOfJson (items : List Value) (h : ItemLeaves IsWordLeaf items) :
    Returns (Node.manyOfJson items) Node.AllFit := by
  cases items with
  | nil =>
    rw [Node.manyOfJson]
    exact Returns.pure trivial
  | cons v items =>
    rw [Node.manyOfJson]
    refine (Node.fits_ofJson v h.1).bind fun node hnode => ?_
    exact (Node.fits_manyOfJson items h.2).bind fun nodes hnodes => Returns.pure ⟨hnode, hnodes⟩

end

/-! ## Reading a text -/

namespace Json

/-- A number that is read from a text as an integer is a word. -/
theorem Number.isWord_of_int?_eq {n : Number} {i : Int} (h : n.int? = some i) : IsWord i := by
  have hpos : 0 < UInt64.size := by decide
  unfold Number.int? at h
  split at h
  · dsimp only at h
    split at h
    · obtain ⟨⟨-, hle⟩, heq⟩ := Option.ite_none_right_eq_some.mp h
      cases heq
      exact ⟨by omega, by omega⟩
    · obtain ⟨hlt, heq⟩ := Option.ite_none_right_eq_some.mp h
      cases heq
      exact ⟨by omega, by omega⟩
  · cases h

theorem Number.words_of_value?_eq {n : Number} {v : Value} (h : n.value? = some v) : v.Words := by
  unfold Number.value? at h
  split at h
  · rename_i i hi
    cases h
    exact Number.isWord_of_int?_eq hi
  · obtain ⟨-, heq⟩ := Option.ite_none_left_eq_some.mp h
    cases heq
    exact trivial

mutual

/-- **The value of a fragment has words as its integers.** -/
theorem Fragment.words_of_value?_eq (f : Fragment) {depth : Nat} {v : Value}
    (h : f.value? depth = some v) : v.Words := by
  cases f with
  | null =>
    cases h
    exact trivial
  | bool b =>
    cases h
    exact trivial
  | num n => exact Number.words_of_value?_eq h
  | str text =>
    obtain ⟨s, -, rfl⟩ := Option.map_eq_some_iff.mp h
    exact trivial
  | arr items closed =>
    match depth, closed, h with
    | depth + 1, true, h =>
      obtain ⟨vs, hvs, rfl⟩ := Option.map_eq_some_iff.mp h
      exact Fragment.words_of_itemValues?_eq items hvs
  | obj fields closed =>
    match depth, closed, h with
    | depth + 1, true, h =>
      obtain ⟨vs, hvs, rfl⟩ := Option.map_eq_some_iff.mp h
      exact Fragment.words_of_fieldValues?_eq fields hvs
  | broken => cases h

theorem Fragment.words_of_itemValues?_eq (fs : List Fragment) {depth : Nat} {vs : List Value}
    (h : itemValues? depth fs = some vs) : ItemLeaves IsWordLeaf vs := by
  cases fs with
  | nil =>
    cases h
    exact trivial
  | cons f fs =>
    obtain ⟨v, hv, h⟩ := Option.bind_eq_some_iff.mp h
    obtain ⟨vs, hvs, h⟩ := Option.bind_eq_some_iff.mp h
    cases h
    exact ⟨Fragment.words_of_value?_eq f hv, Fragment.words_of_itemValues?_eq fs hvs⟩

theorem Fragment.words_of_fieldValues?_eq (fs : List (Option String × Fragment)) {depth : Nat}
    {fields : List (String × Value)} (h : fieldValues? depth fs = some fields) :
    FieldLeaves IsWordLeaf fields := by
  cases fs with
  | nil =>
    cases h
    exact trivial
  | cons field fs =>
    obtain ⟨key, f⟩ := field
    obtain ⟨key, -, h⟩ := Option.bind_eq_some_iff.mp h
    obtain ⟨v, hv, h⟩ := Option.bind_eq_some_iff.mp h
    obtain ⟨vs, hvs, h⟩ := Option.bind_eq_some_iff.mp h
    cases h
    exact ⟨Fragment.words_of_value?_eq f hv, Fragment.words_of_fieldValues?_eq fs hvs⟩

end

namespace Fragment

theorem returns_wrongType {α : Type} {P : α → Prop} (f : Fragment) (expected : String) :
    Returns (f.wrongType expected) P :=
  (Returns.trivial _).bind fun _ _ => Returns.throw _

/-- What is read from a fragment without lists and objects. -/
theorem returns_readScalar {α : Type} {P : α → Prop} {read : Value → Except ShapeError α}
    (hread : ∀ v : Value, v.Words → Returns (read v) P) (expected : String) (f : Fragment) :
    Returns (f.readScalar read expected) P := by
  unfold readScalar
  split
  · exact returns_wrongType _ _
  · exact returns_wrongType _ _
  · split
    · exact Returns.throw _
    · rename_i v hv
      exact (hread v (words_of_value?_eq f hv)).mapError

/-- The first item of a list. -/
theorem returns_takeItem {α : Type} {P : α → Prop} {read : Fragment → Except ReadError α}
    (hread : ∀ f, Returns (read f) P) {index : Nat} {record : String} {closed : Bool}
    {items : List Fragment} :
    Returns (takeItem index record read closed items) fun x => P x.1 := by
  cases items with
  | nil => cases closed <;> exact Returns.throw _
  | cons f fs => exact (hread f).bind fun a ha => Returns.pure ha

/-- The fields of an object, one after another. -/
theorem returns_foldFields {σ : Type} {S : σ → Prop}
    {field : σ → String → Fragment → Except ReadError σ} {start : σ} (hstart : S start)
    (hfield : ∀ s name f, S s → Returns (field s name f) S)
    (fields : List (Option String × Fragment)) (closed : Bool) :
    Returns (foldFields field start fields closed) S := by
  refine (Returns.foldlM hstart fun s hs x _ => ?_).bind fun result hresult =>
    (Returns.trivial _).bind fun _ _ => Returns.pure hresult
  obtain ⟨key, f⟩ := x
  cases key with
  | none => exact Returns.throw _
  | some key => exact hfield s key f hs

end Fragment

end Json

/-- What is read whole has words as its integers. -/
theorem words_readWhole (f : Fragment) : Returns (readWhole f) Value.Words := by
  unfold readWhole
  split
  · rename_i v hv
    exact Returns.pure (Fragment.words_of_value?_eq f hv)
  · exact Returns.throw _

/-- The fields of a node, read one after another, have words as their integers. -/
theorem NodeFields.words_read {r : NodeFields} (h : FieldLeaves IsWordLeaf r.2) (name : String)
    (f : Fragment) : Returns (NodeFields.read r name f) fun r => FieldLeaves IsWordLeaf r.2 := by
  unfold NodeFields.read
  split
  · exact (Returns.trivial _).bind fun _ _ => (Returns.trivial _).bind fun _ _ => Returns.pure h
  · refine (words_readWhole f).bind fun v hv => Returns.pure ?_
    refine fieldLeaves_iff.mpr (List.forall_mem_append.mpr ⟨fieldLeaves_iff.mp h, ?_⟩)
    exact List.forall_mem_singleton.mpr hv

/-- **A node of the outermost document fits.** -/
theorem Node.fits_ofFragment (f : Fragment) : Returns (Node.ofFragment f) Node.Fits := by
  unfold Node.ofFragment
  split
  · rename_i fields closed
    have hfields : Returns (Fragment.foldFields NodeFields.read (none, []) fields closed)
        fun r => FieldLeaves IsWordLeaf r.2 :=
      Fragment.returns_foldFields trivial (fun _ name f h => NodeFields.words_read h name f) _ _
    refine hfields.bind ?_
    rintro ⟨kind, fields⟩ hwords
    refine (Returns.trivial _).bind fun kind _ => (Node.fits_ofFields ?_ hwords kind).mapError
    exact (Include.fits_readFields fields hwords (r := {}) ⟨nofun, nofun⟩).bind fun r hr =>
      Include.Fields.fits_finish hr
  · exact (Returns.trivial _).bind fun _ _ => Returns.throw _
  · rename_i kind items closed
    refine (Returns.trivial _).bind fun kind _ => ?_
    refine (Returns.mapM fun f _ => words_readWhole f).bind fun items hitems => ?_
    have hwords := itemLeaves_iff.mpr hitems
    refine (Returns.trivial _).bind fun _ _ => Returns.mapError ?_
    exact Node.fits_ofItems (Include.fits_ofItems items hwords) hwords kind
  · exact Fragment.returns_wrongType _ _

/-- The nodes of the outermost document fit. -/
theorem Node.allFit_readList (f : Fragment) :
    Returns (f.readList Node.ofFragment) Node.AllFit := by
  unfold Fragment.readList
  split
  · refine (Returns.mapM fun f _ => Node.fits_ofFragment f).bind fun nodes hnodes => ?_
    exact (Returns.trivial _).bind fun _ _ => Returns.pure (Node.allFit_iff.mpr hnodes)
  · exact Fragment.returns_wrongType _ _

/-- The number of the outermost document is a word. -/
theorem Fragment.isWord_readNat (f : Fragment) : Returns f.readNat (· < UInt64.size) :=
  Fragment.returns_readScalar (fun _ => returns_readNat) _ f

/-- A field of the outermost document fits. -/
theorem Document.fits_readField {r : Document.Fields} (h : r.Fits) (name : String) (f : Fragment) :
    Returns (Document.readField r name f) Document.Fields.Fits := by
  unfold Document.readField
  split
  · refine (Returns.trivial _).bind fun _ _ => (Fragment.isWord_readNat f).bind fun n hn => ?_
    exact Returns.pure ⟨forall_mem_some hn, h.2⟩
  · exact (Returns.trivial _).bind fun _ _ => (Returns.trivial _).bind fun _ _ => Returns.pure h
  · exact (Returns.trivial _).bind fun _ _ => (Returns.trivial _).bind fun _ _ => Returns.pure h
  · refine (Returns.trivial _).bind fun _ _ => (Node.allFit_readList f).bind fun nodes hnodes => ?_
    exact Returns.pure ⟨h.1, forall_mem_some hnodes⟩
  · exact (Returns.trivial _).bind fun _ _ => Returns.pure h

/-- **A document that is read from a fragment fits.** -/
theorem Document.fits_ofFragment (f : Fragment) :
    Returns (Document.ofFragment f) Document.Fits := by
  unfold Document.ofFragment
  split
  · rename_i fields closed
    have hfields : Returns (Fragment.foldFields Document.readField {} fields closed)
        Document.Fields.Fits :=
      Fragment.returns_foldFields ⟨nofun, nofun⟩
        (fun _ name f h => Document.fits_readField h name f) _ _
    exact hfields.bind fun r hr => (Document.Fields.fits_finish hr).mapError
  · refine (Fragment.returns_takeItem Fragment.isWord_readNat).bind ?_
    rintro ⟨fileId, items⟩ hfileId
    refine (Fragment.returns_takeItem fun _ => Returns.trivial _).bind ?_
    rintro ⟨path, items⟩ -
    refine (Fragment.returns_takeItem fun _ => Returns.trivial _).bind ?_
    rintro ⟨source, items⟩ -
    refine (Fragment.returns_takeItem Node.allFit_readList).bind ?_
    rintro ⟨nodes, items⟩ hnodes
    exact (Returns.trivial _).bind fun _ _ => Returns.pure ⟨hfileId, hnodes⟩
  · exact Fragment.returns_wrongType _ _

/-- **A document that is read from a text fits**, whatever the text says. -/
theorem Document.fits_of_ofText {s : String} {d : Document} (h : Document.ofText s = .ok d) :
    d.Fits := by
  have hread : Returns (Document.ofText s) Document.Fits := by
    refine (Document.fits_ofFragment _).bind fun d hd => ?_
    split
    · exact Returns.pure hd
    · exact Returns.throw _
  exact hread d h

end TextTemplate
