import TextTemplate.Proofs.ClassLayout

/-!
# The pass makes the class of the layout

The pass of `Generation.generate` goes over the nodes of a tree with a stack of documents, a depth,
two flags and five buffers. `Pass.inside` is a pass whose buffers are given by pieces; one node adds
to them what it contributes to the layout (`leave_inside`), and by induction over the tree so do all
nodes in their order (`walkAll_inside`).

`generate_eq_ofPieces_layout` is the result, that the class has exactly the text and the mappings of
its layout; the last theorem spells them out.
-/

namespace TextTemplate

/-! ## The buffers of the pass -/

/-- The buffers that hold a list of pieces for each part. -/
def Sections.ofPieces (f : Section → List Piece) : Sections where
  usings := .ofPieces (f .usings)
  parameters := .ofPieces (f .parameters)
  inherits := .ofPieces (f .inherits)
  transformBody := .ofPieces (f .transformBody)
  featureMethods := .ofPieces (f .featureMethods)

/-- A change of one buffer that adds pieces to it. -/
theorem Sections.modify_ofPieces (f : Section → List Piece) (part : Section)
    {g : MappedText → MappedText} {ps : List Piece}
    (hg : g (.ofPieces (f part)) = .ofPieces (f part ++ ps)) :
    (Sections.ofPieces f).modify part g
      = Sections.ofPieces fun q => if q = part then f q ++ ps else f q := by
  cases part <;>
    simp only [Sections.modify, Sections.ofPieces, hg, reduceCtorEq, if_false, if_true]

namespace Generation

open Visit

namespace Pass

/-- A pass with known buffers, in a document with others around it. -/
def inside (files : List Nat) (depth : Nat) (f : Section → List Piece) (started host : Bool) :
    Pass where
  sections := .ofPieces f
  files := files
  includeDepth := depth
  featureStarted := started
  hasHost := host

/-- **What a node adds to each buffer**, if `started` says whether a feature block of the outermost
document has been met. -/
def addition (schema : Schema) (started : Bool) (v : Visit) : Section → List Piece
  | .usings => v.usingLine schema
  | .parameters => v.property schema
  | .inherits => v.baseClass schema
  | .transformBody => v.lineAmong false started
  | .featureMethods => v.lineAmong true started

/-- Whether the class has a host after a node, if it had one before. -/
def hostAfter (schema : Schema) (v : Visit) (host : Bool) : Bool :=
  match v.directive? schema .template with
  | none => host
  | some d => asksForHost d

variable (schema : Schema) (files : List Nat) (f : Section → List Piece) (started host : Bool)

/-- Passes whose buffers hold the same pieces are the same. -/
theorem inside_congr {depth : Nat} {f g : Section → List Piece} {started host : Bool}
    (h : ∀ q, f q = g q) :
    inside files depth f started host = inside files depth g started host := by
  rw [funext h]

/-- A change of one part of a pass that adds pieces. -/
theorem modify_inside {depth : Nat} (part : Section) {g : MappedText → MappedText}
    {ps : List Piece} (hg : g (.ofPieces (f part)) = .ofPieces (f part ++ ps)) :
    (inside files depth f started host).modify part g
      = inside files depth (fun q => if q = part then f q ++ ps else f q) started host := by
  unfold modify inside
  rw [Sections.modify_ofPieces f part hg]

/-- A token that is pushed is a piece of the value of an attribute. -/
theorem pushToken_value (v : Visit) (token : Token) (ps : List Piece) :
    (MappedText.ofPieces ps).pushToken token v.fileId = .ofPieces (ps ++ [v.value token]) :=
  MappedText.pushMapped_ofPieces (p := v.value token) rfl ps

/-- A token that is pushed is a piece of code. -/
theorem pushToken_code (v : Visit) (token : Token) (ps : List Piece) :
    (MappedText.ofPieces ps).pushToken token v.fileId = .ofPieces (ps ++ [v.code token]) :=
  MappedText.pushMapped_ofPieces (p := v.code token) rfl ps

/-- A node without code starts no features. -/
theorem startsFeatures_of_block?_none {v : Visit} (h : v.block? = none) :
    v.startsFeatures = false := by
  rw [startsFeatures, h, Option.any_none, Bool.and_false]

/-! ## One node -/

/-- A directive of the kind, as the node that it is. -/
theorem directive?_of_kindOf? {d : Directive} {kind : DirectiveKind}
    (h : schema.kindOf? d = some kind) (kind' : DirectiveKind) (fileId depth : Nat) :
    directive? schema kind' ⟨.directive d, fileId, depth⟩ = if kind = kind' then some d else none := by
  unfold directive?
  rw [Node.directive?, Option.filter_some, h]
  by_cases hkind : kind = kind'
  · rw [if_pos hkind, if_pos (by rw [hkind]; exact beq_self_eq_true _)]
  · rw [if_neg hkind, if_neg (by simpa using hkind)]

/-- A directive that the schema does not know is of no kind. -/
theorem directive?_of_kindOf?_none {d : Directive} (h : schema.kindOf? d = none)
    (kind : DirectiveKind) (fileId depth : Nat) :
    directive? schema kind ⟨.directive d, fileId, depth⟩ = none := by
  unfold directive?
  rw [Node.directive?, Option.filter_some, h]
  rfl

/-- The document that the pass is in. -/
@[simp] theorem fileId_inside (fileId depth : Nat) :
    (inside (fileId :: files) depth f started host).fileId = fileId := rfl

/-- **An import adds its line.** -/
theorem addImport_inside {d : Directive} (h : schema.kindOf? d = some .namespaceImport)
    (fileId depth : Nat) :
    (inside (fileId :: files) depth f started host).addImport d
      = inside (fileId :: files) depth
          (fun q => if q = .usings then f q ++ usingLine schema ⟨.directive d, fileId, depth⟩ else f q)
          started host := by
  unfold addImport usingLine
  rw [directive?_of_kindOf? schema h, if_pos rfl, Option.bind_some]
  cases d.nonBlankValue? "namespace" with
  | none => simp only [List.append_nil, ite_self]
  | some ns =>
    refine modify_inside _ f started host .usings ?_
    rw [fileId_inside, MappedText.push_ofPieces,
      pushToken_value ⟨.directive d, fileId, depth⟩ ns, MappedText.pushLine_ofPieces]
    simp only [List.append_assoc, List.cons_append, List.nil_append, line]

/-- **A template directive adds the base class that it names**, and decides about the host. -/
theorem addTemplate_inside {d : Directive} (h : schema.kindOf? d = some .template)
    (fileId depth : Nat) :
    (inside (fileId :: files) depth f started host).addTemplate d
      = inside (fileId :: files) depth
          (fun q =>
            if q = .inherits then f q ++ baseClass schema ⟨.directive d, fileId, depth⟩ else f q)
          started (asksForHost d) := by
  have hhost : ((d.value? "hostspecific").map fun v => Text.sameName v "true").getD false
      = asksForHost d := by
    unfold asksForHost
    cases d.value? "hostspecific" <;> rfl
  unfold addTemplate baseClass
  rw [directive?_of_kindOf? schema h, if_pos rfl, Option.bind_some, hhost]
  cases d.nonBlankValue? "inherits" with
  | none => simp only [List.append_nil, ite_self, inside]
  | some base =>
    show (inside (fileId :: files) depth f started (asksForHost d)).modify .inherits
      (MappedText.pushToken base fileId) = _
    exact modify_inside _ f started _ .inherits
      (pushToken_value ⟨.directive d, fileId, depth⟩ base (f .inherits))

/-- **A parameter adds its property.** -/
theorem addParameter_inside {d : Directive} (h : schema.kindOf? d = some .parameter)
    (fileId depth : Nat) :
    (inside (fileId :: files) depth f started host).addParameter d
      = inside (fileId :: files) depth
          (fun q =>
            if q = .parameters then f q ++ property schema ⟨.directive d, fileId, depth⟩ else f q)
          started host := by
  unfold addParameter property
  rw [directive?_of_kindOf? schema h, if_pos rfl]
  dsimp only
  cases d.nonBlankValue? "type" with
  | none => simp only [List.append_nil, ite_self]
  | some type =>
    cases d.nonBlankValue? "name" with
    | none => simp only [List.append_nil, ite_self]
    | some name =>
      refine modify_inside _ f started host .parameters ?_
      dsimp only
      rw [fileId_inside, MappedText.push_ofPieces,
        pushToken_value ⟨.directive d, fileId, depth⟩ type, MappedText.push_ofPieces,
        pushToken_value ⟨.directive d, fileId, depth⟩ name, MappedText.push_ofPieces,
        MappedText.push_ofPieces, MappedText.pushLine_ofPieces]
      simp only [List.append_assoc, List.cons_append, List.nil_append, line]

/-- A directive is no block. -/
theorem lineAmong_directive (members : Bool) (d : Directive) (fileId depth : Nat) :
    lineAmong members started ⟨.directive d, fileId, depth⟩ = [] := rfl

/-- **A directive adds what its kind says.** -/
theorem addDirective_inside (d : Directive) (fileId depth : Nat) :
    (inside (fileId :: files) depth f started host).addDirective schema d
      = inside (fileId :: files) depth
          (fun q => f q ++ addition schema started ⟨.directive d, fileId, depth⟩ q) started
          (hostAfter schema ⟨.directive d, fileId, depth⟩ host) := by
  unfold addDirective
  cases hkind : schema.kindOf? d with
  | none =>
    have hnone := directive?_of_kindOf?_none schema hkind
    rw [hostAfter, hnone]
    refine inside_congr _ fun q => ?_
    cases q <;> simp [addition, usingLine, baseClass, property, hnone, lineAmong_directive]
  | some kind =>
    have hdir := directive?_of_kindOf? schema hkind
    cases kind with
    | namespaceImport =>
      dsimp only
      rw [addImport_inside schema files f started host hkind, hostAfter, hdir, if_neg (by decide)]
      refine inside_congr _ fun q => ?_
      cases q <;> simp [addition, baseClass, property, hdir, lineAmong_directive]
    | template =>
      dsimp only
      rw [addTemplate_inside schema files f started host hkind, hostAfter, hdir, if_pos rfl]
      refine inside_congr _ fun q => ?_
      cases q <;> simp [addition, usingLine, property, hdir, lineAmong_directive]
    | parameter =>
      dsimp only
      rw [addParameter_inside schema files f started host hkind, hostAfter, hdir,
        if_neg (by decide)]
      refine inside_congr _ fun q => ?_
      cases q <;> simp [addition, usingLine, baseClass, hdir, lineAmong_directive]
    | _ =>
      dsimp only
      rw [hostAfter, hdir, if_neg (by decide)]
      refine inside_congr _ fun q => ?_
      cases q <;> simp [addition, usingLine, baseClass, property, hdir, lineAmong_directive]

/-- The line that a block adds to its buffer. -/
theorem blockLine_ofPieces (v : Visit) (kind : BlockKind) (token : Token) (ps : List Piece) :
    Pass.blockLine kind token v.fileId (.ofPieces ps) = .ofPieces (ps ++ v.blockLine kind token) := by
  have hmarked : ∀ qs, (((MappedText.ofPieces qs).push codeStart).pushToken token v.fileId).push
      codeEnd = .ofPieces (qs ++ [.fixed codeStart, v.code token, .fixed codeEnd]) := by
    intro qs
    rw [MappedText.push_ofPieces, pushToken_code, MappedText.push_ofPieces]
    simp only [List.append_assoc, List.cons_append, List.nil_append]
  unfold Pass.blockLine Visit.blockLine
  cases kind with
  | expression =>
    -- the end of the call and the end of the line are written together
    show MappedText.pushLine "));" _ = _
    dsimp only
    rw [MappedText.push_ofPieces, hmarked, MappedText.pushLine_ofPieces]
    simp only [List.append_assoc, List.cons_append, List.nil_append, line]
  | _ =>
    dsimp only
    rw [hmarked, MappedText.newline_ofPieces]
    simp only [List.append_assoc, List.cons_append, List.nil_append]

/-- The buffer that a block goes to is the one that its place says. -/
theorem sectionOf_inside (v : Visit) (kind : BlockKind) :
    (inside files v.depth f started host).sectionOf kind
      = if v.isMember started kind then .featureMethods else .transformBody := by
  cases kind with
  | expression => rw [sectionOf, isMember, inside, Bool.and_comm]
  | _ => rfl

/-- **A block adds its line to the members or to the body.** A block without code adds nothing. -/
theorem addCodeBlock_inside (block : CodeBlock) (fileId depth : Nat) :
    (inside (fileId :: files) depth f started host).addCodeBlock block
      = inside (fileId :: files) depth
          (fun q => f q ++ addition schema started ⟨.codeBlock block, fileId, depth⟩ q)
          (started || startsFeatures ⟨.codeBlock block, fileId, depth⟩) host := by
  obtain ⟨kind, code, span⟩ := block
  unfold addCodeBlock
  cases code with
  | none =>
    dsimp only
    rw [startsFeatures_of_block?_none rfl, Bool.or_false]
    refine inside_congr _ fun q => ?_
    cases q <;> exact (List.append_nil _).symm
  | some code =>
    -- the buffer is chosen by what came before, and only then the block itself may start features
    have hstarted : (kind == .feature && depth == 0)
        = startsFeatures ⟨.codeBlock ⟨kind, some code, span⟩, fileId, depth⟩ := Bool.and_comm _ _
    dsimp only
    rw [sectionOf_inside (fileId :: files) f started host
      ⟨.codeBlock ⟨kind, some code, span⟩, fileId, depth⟩, fileId_inside]
    show (inside (fileId :: files) depth f (started || (kind == .feature && depth == 0)) host).modify
      _ _ = _
    rw [hstarted, modify_inside _ f _ host _ (blockLine_ofPieces
      ⟨.codeBlock ⟨kind, some code, span⟩, fileId, depth⟩ kind code _)]
    refine inside_congr _ fun q => ?_
    cases hmember : isMember started ⟨.codeBlock ⟨kind, some code, span⟩, fileId, depth⟩ kind <;>
      cases q <;>
      simp [addition, usingLine, baseClass, property, directive?, Node.directive?, lineAmong, block?,
        hmember]

/-- **Leaving a node adds what the node contributes.** -/
theorem leave_inside (v : Visit) (hv : v.node.isIncluded = false) (position : Nat) :
    Pass.leave schema v.node position (inside (v.fileId :: files) v.depth f started host)
      = inside (v.fileId :: files) v.depth (fun q => f q ++ addition schema started v q)
          (started || v.startsFeatures) (hostAfter schema v host) := by
  obtain ⟨node, fileId, depth⟩ := v
  cases node with
  | included part => cases hv
  | directive d =>
    rw [startsFeatures_of_block?_none rfl, Bool.or_false]
    exact addDirective_inside schema files f started host d fileId depth
  | codeBlock block => exact addCodeBlock_inside schema files f started host block fileId depth
  | text token =>
    rw [startsFeatures_of_block?_none rfl, Bool.or_false]
    refine inside_congr _ fun q => ?_
    cases q <;> exact (List.append_nil _).symm
  | missing marker =>
    rw [startsFeatures_of_block?_none rfl, Bool.or_false]
    refine inside_congr _ fun q => ?_
    cases q <;> exact (List.append_nil _).symm

/-! ## All nodes -/

/-- **What the nodes of a list add to each buffer**, one after another. -/
def additions : Bool → List Visit → Section → List Piece
  | _, [], _ => []
  | started, v :: vs, part =>
    addition schema started v part ++ additions (started || v.startsFeatures) vs part

/-- The first nodes of a list add first. -/
theorem additions_append (vs ws : List Visit) (part : Section) :
    additions schema started (vs ++ ws) part
      = additions schema started vs part
        ++ additions schema (started || vs.any startsFeatures) ws part := by
  induction vs generalizing started with
  | nil => rw [List.nil_append, additions, List.nil_append, List.any_nil, Bool.or_false]
  | cons v vs ih =>
    rw [List.cons_append, additions, additions, ih, List.append_assoc, List.any_cons, Bool.or_assoc]

/-- Whether the class has a host after the nodes of a list. -/
def hostAlong (vs : List Visit) (host : Bool) : Bool :=
  vs.foldl (fun host v => hostAfter schema v host) host

/-- An include adds nothing itself. -/
theorem addition_included (part : Include) (fileId depth : Nat) (q : Section) :
    addition schema started ⟨.included part, fileId, depth⟩ q = [] := by
  cases q <;> rfl

/-- Leaving an include undoes what entering it did to the documents and the depth. -/
theorem leave_included_inside (part : Include) (position fileId depth : Nat) :
    (visitor schema).leave (.included part) position
        (inside (fileId :: files) (depth + 1) f started host)
      = inside files depth f started host := rfl

/-- **A walk adds what the nodes of the tree contribute, in their order**, and is back in the
document where it started. -/
theorem walkAll_inside (nodes : List Node) (position fileId depth : Nat) :
    ∃ next, Node.walkAll (visitor schema) (fun _ _ => false) nodes position
        (inside (fileId :: files) depth f started host)
      = .ok (next, inside (fileId :: files) depth
          (fun q => f q ++ additions schema started (Node.visitsOf fileId depth nodes) q)
          (started || (Node.visitsOf fileId depth nodes).any startsFeatures)
          (hostAlong schema (Node.visitsOf fileId depth nodes) host)) := by
  induction nodes using Node.forestInduction
    generalizing files f started host position fileId depth with
  | nil =>
    refine ⟨position, ?_⟩
    rw [Node.visitsOf, List.any_nil, Bool.or_false]
    simp only [additions, List.append_nil]
    rfl
  | leaf node nodes hnode ih =>
    have hwalk := Node.walk_of_not_included (visitor schema) hnode position
      (inside (fileId :: files) depth f started host)
    -- entering changes nothing, and leaving adds the contribution of the node
    have henter : (visitor schema).enter node position (inside (fileId :: files) depth f started host)
        = inside (fileId :: files) depth f started host := by
      cases node with
      | included part => cases hnode
      | _ => rfl
    have hleave := leave_inside schema files f started host ⟨node, fileId, depth⟩ hnode position
    rw [henter] at hwalk
    rw [Node.walkAll_cons_of_ok _ hwalk, Node.visitsOf, Node.visits_of_not_included hnode,
      List.singleton_append, List.any_cons, ← Bool.or_assoc]
    simp only [additions, ← List.append_assoc]
    show ∃ next, Node.walkAll _ _ nodes _ (Pass.leave schema node position _) = _
    rw [hleave]
    exact ih files _ _ _ (position + 1) fileId depth
  | included part nodes ihPart ihNodes =>
    -- the document inside is walked with its number on the stack, which is back afterwards
    obtain ⟨next, hpart⟩ := ihPart (fileId :: files) f started host (position + 1)
      part.document.fileId (depth + 1)
    have hwalk : (Node.included part).walk (visitor schema) (fun _ _ => false) position
        (inside (fileId :: files) depth f started host) = .ok (next, _) :=
      Node.walk_included_of_descends (visitor schema) rfl hpart
    rw [leave_included_inside] at hwalk
    rw [Node.walkAll_cons_of_ok _ hwalk, Node.visitsOf, Node.visits_included]
    simp only [List.cons_append, additions, addition_included, List.nil_append, List.any_cons,
      startsFeatures_of_block?_none (v := ⟨.included part, fileId, depth⟩) rfl, Bool.false_or,
      Bool.or_false, additions_append, List.any_append, ← List.append_assoc,
      ← Bool.or_assoc]
    rw [show hostAlong schema (⟨.included part, fileId, depth⟩
          :: (Node.visitsOf part.document.fileId (depth + 1) part.document.nodes
            ++ Node.visitsOf fileId depth nodes)) host
        = hostAlong schema (Node.visitsOf fileId depth nodes)
          (hostAlong schema (Node.visitsOf part.document.fileId (depth + 1) part.document.nodes) host)
      from List.foldl_append]
    exact ihNodes files _ _ _ next fileId depth

end Pass

/-! ## The nodes of a list, each by itself -/

/-- A flag that is kept along the list is a question about the nodes in front. -/
theorem flatMap_zipIdx_eq {g : Bool → Visit → List Piece} {q : Visit → Bool}
    {h : Bool → List Visit → List Piece} (hnil : ∀ b, h b [] = [])
    (hcons : ∀ b v vs, h b (v :: vs) = g b v ++ h (b || q v) vs) (front vs : List Visit) :
    (vs.zipIdx front.length).flatMap (fun x => g (((front ++ vs).take x.2).any q) x.1)
      = h (front.any q) vs := by
  induction vs generalizing front with
  | nil => rw [List.zipIdx_nil, List.flatMap_nil, hnil]
  | cons v vs ih =>
    have htail := ih (front ++ [v])
    rw [List.length_append, List.length_singleton, List.append_assoc, List.singleton_append,
      List.any_append, List.any_cons, List.any_nil, Bool.or_false] at htail
    rw [List.zipIdx_cons, List.flatMap_cons, hcons, htail]
    simp only [List.take_left']

namespace Pass

/-- A buffer that every node adds to by itself. -/
theorem additions_eq_flatMap (schema : Schema) {part : Section} {g : Visit → List Piece}
    (h : ∀ started v, addition schema started v part = g v) (started : Bool) (vs : List Visit) :
    additions schema started vs part = vs.flatMap g := by
  induction vs generalizing started with
  | nil => rfl
  | cons v vs ih => rw [additions, ih, h, List.flatMap_cons]

/-- The body and the members are the lines of the blocks. -/
theorem additions_eq_blockLines (schema : Schema) (vs : List Visit) :
    additions schema false vs .transformBody = blockLines false vs
      ∧ additions schema false vs .featureMethods = blockLines true vs := by
  constructor
  · exact (flatMap_zipIdx_eq (g := fun b v => v.lineAmong false b)
      (h := fun b vs => additions schema b vs .transformBody) (fun _ => rfl) (fun _ _ _ => rfl)
      [] vs).symm
  · exact (flatMap_zipIdx_eq (g := fun b v => v.lineAmong true b)
      (h := fun b vs => additions schema b vs .featureMethods) (fun _ => rfl) (fun _ _ _ => rfl)
      [] vs).symm

/-- **The last template directive decides about the host.** -/
theorem hostAlong_eq (schema : Schema) (vs : List Visit) (host : Bool) :
    hostAlong schema vs host
      = ((vs.filterMap (directive? schema .template)).getLast?.map asksForHost).getD host := by
  induction vs generalizing host with
  | nil => rfl
  | cons v vs ih =>
    show hostAlong schema vs (hostAfter schema v host) = _
    rw [ih, hostAfter]
    cases hd : v.directive? schema .template with
    | none => rw [List.filterMap_cons_none hd]
    | some d =>
      rw [List.filterMap_cons_some hd, List.getLast?_cons]
      cases (vs.filterMap (directive? schema .template)).getLast? <;> rfl

end Pass

/-! ## The class -/

/-- A base class that is named has a name. -/
theorem isEmpty_eq_false_of_mem_baseClass {schema : Schema} {v : Visit} {p : Piece}
    (h : p ∈ baseClass schema v) : p.text.isEmpty = false := by
  unfold baseClass at h
  split at h
  · cases h
  · rename_i base hbase
    rw [List.mem_singleton.mp h]
    obtain ⟨d, -, hvalue⟩ := Option.bind_eq_some_iff.mp hbase
    have hblank := (Option.filter_eq_some_iff.mp hvalue).2
    show base.text.isEmpty = false
    cases hempty : base.text.isEmpty with
    | false => rfl
    | true =>
      -- the empty text is blank
      rw [Token.isBlank, String.isEmpty_iff.mp hempty] at hblank
      exact absurd hblank (by decide)

/-- So the buffer of the base class is empty only if no base class is named. -/
theorem isEmpty_ofPieces_baseClass (schema : Schema) (nodes : List Visit) :
    (MappedText.ofPieces (nodes.flatMap (baseClass schema))).isEmpty
      = (nodes.flatMap (baseClass schema)).isEmpty := by
  rw [MappedText.isEmpty_ofPieces]
  cases hps : nodes.flatMap (baseClass schema) with
  | nil => rfl
  | cons p ps =>
    obtain ⟨v, -, hp⟩ := List.mem_flatMap.mp (hps ▸ List.mem_cons_self : p ∈ nodes.flatMap _)
    rw [List.all_cons, isEmpty_eq_false_of_mem_baseClass hp, Bool.false_and, List.isEmpty_cons]

/-- **The class around the buffers of a finished pass has the pieces of the layout.** -/
theorem classText_ofPieces (schema : Schema) (nodes : List Visit) (ps : List Piece) :
    classText (.ofPieces (Pass.additions schema false nodes)) (hasHost schema nodes) (.ofPieces ps)
      = .ofPieces (ps ++ headPieces schema nodes ++ tailPieces nodes) := by
  have husings : Pass.additions schema false nodes .usings = nodes.flatMap (usingLine schema) :=
    Pass.additions_eq_flatMap schema (fun _ _ => rfl) false nodes
  have hparameters : Pass.additions schema false nodes .parameters
      = nodes.flatMap (property schema) :=
    Pass.additions_eq_flatMap schema (fun _ _ => rfl) false nodes
  have hinherits : Pass.additions schema false nodes .inherits = nodes.flatMap (baseClass schema) :=
    Pass.additions_eq_flatMap schema (fun _ _ => rfl) false nodes
  obtain ⟨hbody, hmembers⟩ := Pass.additions_eq_blockLines schema nodes
  unfold classText Sections.ofPieces headPieces tailPieces baseClasses
  dsimp only
  rw [husings, hparameters, hinherits, hbody, hmembers, isEmpty_ofPieces_baseClass]
  cases (nodes.flatMap (baseClass schema)).isEmpty <;> cases hasHost schema nodes <;>
    simp only [Bool.false_eq_true, if_false, if_true, MappedText.pushLine_ofPieces,
      MappedText.push_ofPieces, MappedText.append_ofPieces, MappedText.newline_ofPieces,
      List.append_assoc, List.cons_append, List.nil_append, line]

/-- **The generator makes the class of the layout**: a pass that is not told to stop gives the text
and the mappings that the pieces of the layout have. -/
theorem generate_eq_ofPieces_layout (schema : Schema) (mode : Mode) (d : Document) :
    generate schema mode Stop.never d = .ok (.ofPieces (layout schema mode d)) := by
  obtain ⟨next, hwalk⟩ := Pass.walkAll_inside schema [] (fun _ => []) false false d.nodes 0 d.fileId 0
  have hhost : Pass.hostAlong schema d.visits false = hasHost schema d.visits := by
    rw [Pass.hostAlong_eq, hasHost]
    cases (d.visits.filterMap (directive? schema .template)).getLast? <;> rfl
  have hpass : d.pass (visitor schema) Stop.never { files := [d.fileId] }
      = .ok (Pass.inside [d.fileId] 0 (Pass.additions schema false d.visits)
          (d.visits.any startsFeatures) (hasHost schema d.visits)) := by
    unfold Document.pass Document.walk
    show Except.mapError _ ((·.2) <$> Node.walkAll _ (fun _ _ => false) _ _
      (Pass.inside [d.fileId] 0 (fun _ => []) false false)) = _
    rw [hwalk, ← hhost]
    rfl
  unfold generate
  rw [hpass]
  show Except.ok (assemble mode.namespace? _) = _
  refine congrArg Except.ok ?_
  unfold assemble layout namespaceOpening namespaceClosing
  cases mode.namespace? with
  | none =>
    show GeneratedUnit.ofMappedText (classText _ _ (.ofPieces [])) = _
    rw [Pass.inside, classText_ofPieces, Option.map_none, Option.map_none, Option.toList_none,
      List.append_nil]
    rfl
  | some ns =>
    show GeneratedUnit.ofMappedText
      ((classText _ _ (MappedText.pushLine _ (.ofPieces []))).pushLine _) = _
    rw [MappedText.pushLine_ofPieces, Pass.inside, classText_ofPieces, MappedText.pushLine_ofPieces,
      List.append_assoc]
    rfl

/-- **What the class of a template is**, for every document, schema and mode. With `nodes` the nodes
of the tree in their order, each with the document that directly holds it and its depth:

* the text is the fixed text of a class with, at their places, a `using` line for each import, the
  base classes that are named, the host property if the last template directive asks for it, a
  property for each parameter, the lines of the blocks of the body, and those of the members;
* the mappings are those of the copied pieces, each of which stands where the pieces in front of it
  end;
* their origins are, in this order, the places of the tokens that were copied, in the documents that
  directly hold them, each token once. -/
theorem generate_text_and_origins (schema : Schema) (mode : Mode) (d : Document) :
    ∃ unit, generate schema mode Stop.never d = .ok unit ∧
      let nodes := d.visits
      let usings := nodes.flatMap (usingLine schema)
      let parameters := nodes.flatMap (property schema)
      unit.text
          = (match mode.namespace? with
              | some ns => "namespace " ++ ns ++ " \x7b" ++ "\n"
              | none => "")
            ++ ("using System;" ++ "\n" ++ Piece.textOf usings
            ++ ("[" ++ generatedAttribute ++ "]" ++ "\n")
            ++ ("public class " ++ className ++ " : " ++ Piece.textOf (baseClasses schema nodes)
              ++ " \x7b" ++ "\n")
            ++ ("[" ++ generatedAttribute ++ "] private static string " ++ toStringHelper
              ++ "(object value) \x7b return null; \x7d" ++ "\n")
            ++ (if hasHost schema nodes then hostProperty ++ "\n" else "")
            ++ Piece.textOf parameters
            ++ ("[System.CodeDom.Compiler.GeneratedCodeAttribute] public override string "
              ++ "TransformText() \x7b" ++ "\n")
            ++ Piece.textOf (blockLines false nodes)
            ++ ("\n" ++ "return GenerationEnvironment.ToString();" ++ "\n" ++ "\x7d" ++ "\n")
            ++ Piece.textOf (blockLines true nodes) ++ "\x7d" ++ "\n")
            ++ (if mode.namespace?.isSome then "\x7d" ++ "\n" else "")
        ∧ unit.mappings.toList = Piece.mappingsFrom 0 (layout schema mode d)
        ∧ unit.mappings.toList.map Mapping.origin
          = (usings ++ nodes.flatMap (baseClass schema) ++ parameters ++ blockLines false nodes
              ++ blockLines true nodes).filterMap Piece.origin? := by
  refine ⟨_, generate_eq_ofPieces_layout schema mode d, ?_, rfl, ?_⟩
  · show Piece.textOf (layout schema mode d) = _
    unfold layout namespaceOpening headPieces tailPieces namespaceClosing
    cases mode.namespace? <;> cases hasHost schema d.visits <;>
      simp only [Piece.textOf_append, Piece.textOf, Piece.text, line, Bool.false_eq_true, if_false,
        if_true, Option.map_none, Option.map_some, Option.toList_none, Option.toList_some,
        Option.isSome_none, Option.isSome_some, String.append_empty, String.empty_append,
        String.append_assoc]
  · show (Piece.mappingsFrom 0 (layout schema mode d)).map Mapping.origin = _
    rw [Piece.map_origin_mappingsFrom, layout_filterMap_origin?]

end Generation

end TextTemplate
