import TextTemplate.Proofs.WalkEvents

/-!
# The documents that a walk is in

A tree of documents is gone through by two functions that know nothing of each other: one collects
the includes, the other one walks the tree and tells a visitor of its nodes. Both meet the includes
in the same order (`filterMap_include?_events`).

The pass that generates a class is such a visitor. It is told of one node after another and keeps,
of where it is, only a depth and a stack of numbers. Where a node really stands is said by the tree:
`Document.places` lists the nodes with the includes around each of them, and `Document.Stands` says
what it means to be around a node. While the visitor is at a node, that is from when it has entered
the node until it leaves it, depth and stack are those of the place of the node, an include itself
counting as a place inside its document (`tracks_observed`). Since nothing is ever entered without
being left, a walk ends in the document where it started. What the pass is at each node is not
guessed from outside: `Visitor.recording` is any visitor with a log of it.
-/

namespace TextTemplate

/-! ## Includes that are entered -/

namespace WalkEvent

/-- The node that an event is about. -/
def node : WalkEvent → Node
  | .enter node _ => node
  | .leave node _ => node

/-- The position of that node. -/
def position : WalkEvent → Nat
  | .enter _ position => position
  | .leave _ position => position

/-- The include that is entered, if one is. -/
def include? : WalkEvent → Option Include
  | .enter (.included part) _ => some part
  | _ => none

end WalkEvent

/-- **A walk enters the includes in the order in which they are collected**, since it enters all
nodes in the order in which they stand. -/
theorem Document.filterMap_include?_events (d : Document) :
    (d.events true).filterMap WalkEvent.include? = d.includes := by
  let include? : Node → Option Include := fun node => (⟨node, 0, 0⟩ : Visit).include?
  have hentered : WalkEvent.include? = fun event => event.entered?.bind (include? ∘ Prod.fst) := by
    funext event
    rcases event with ⟨_ | _ | _ | _ | _, _⟩ | ⟨_, _⟩ <;> rfl
  calc (d.events true).filterMap WalkEvent.include?
      = ((d.events true).filterMap WalkEvent.entered?).filterMap (include? ∘ Prod.fst) := by
        rw [hentered, List.filterMap_filterMap]
    _ = (d.visits.map Visit.node).filterMap include? := by
        rw [filterMap_entered?_events, ← List.filterMap_map, List.zipIdx_map_fst]
        rfl
    _ = d.visits.filterMap Visit.include? := List.filterMap_map
    _ = d.includes := Node.filterMap_include?_visitsOf d.nodes d.fileId 0

/-! ## Where nodes stand -/

/-- **A node and the includes around it**, the innermost first. -/
structure NodePlace where
  node : Node
  around : List Include

namespace Node

/-- The includes around the nodes inside a node: those around the node, and the node itself if it is
an include. -/
def opened (around : List Include) : Node → List Include
  | .included part => part :: around
  | _ => around

mutual

/-- The places of a node and of the nodes inside it. -/
def places (around : List Include) : Node → List NodePlace
  | .included ⟨path, ⟨fileId, docPath, source, nodes⟩, span⟩ =>
    let part : Include := ⟨path, ⟨fileId, docPath, source, nodes⟩, span⟩
    ⟨.included part, around⟩ :: placesOf (part :: around) nodes
  | node => [⟨node, around⟩]

/-- **The places of a list of nodes** and of the nodes inside them, in the order in which they
stand. -/
def placesOf (around : List Include) : List Node → List NodePlace
  | [] => []
  | node :: nodes => node.places around ++ placesOf around nodes

end

/-- The places from the first node on. -/
theorem placesOf_cons (around : List Include) (node : Node) (nodes : List Node) :
    placesOf around (node :: nodes)
      = ⟨node, around⟩ :: placesOf (node.opened around) (node.inner true)
        ++ placesOf around nodes := by
  cases node with
  | included part =>
    obtain ⟨path, ⟨fileId, docPath, source, nodes⟩, span⟩ := part
    rfl
  | _ => rfl

/-- There is a place for each node that a walk meets. -/
theorem map_node_placesOf (nodes : List Node) (around : List Include) :
    (placesOf around nodes).map NodePlace.node = metIn true nodes := by
  induction nodes using innerInduction true generalizing around with
  | nil => rfl
  | cons node nodes ihInner ih =>
    rw [placesOf_cons, List.cons_append, List.map_cons, List.map_append, ihInner, ih, metIn, met_eq]
    rfl

/-- The places with their positions, from the first node on. -/
theorem zipIdx_placesOf_cons (around : List Include) (node : Node) (nodes : List Node)
    (position : Nat) :
    (placesOf around (node :: nodes)).zipIdx position
      = (⟨node, around⟩, position)
        :: (placesOf (node.opened around) (node.inner true)).zipIdx (position + 1)
        ++ (placesOf around nodes).zipIdx (position + (node.met true).length) := by
  have hlength : (placesOf (node.opened around) (node.inner true)).length + 1
      = (node.met true).length := by
    rw [← List.length_map NodePlace.node, map_node_placesOf, met_eq, List.length_cons]
  rw [placesOf_cons, List.zipIdx_append, List.zipIdx_cons, List.length_cons, hlength]

end Node

namespace Document

/-- **The places of all nodes of the tree of a document.** -/
def places (d : Document) : List NodePlace := Node.placesOf [] d.nodes

/-- The document inside the innermost of some includes. -/
def innermost (d : Document) : List Include → Document
  | [] => d
  | part :: _ => part.document

/-- **A node stands inside includes of a tree**: it is a node of the document inside the innermost of
them, and that include stands inside the others. -/
inductive Stands (d : Document) : List Include → Node → Prop where
  | root {node : Node} (hnode : node ∈ d.nodes) : Stands d [] node
  | inside {part : Include} {around : List Include} {node : Node}
    (hpart : Stands d around (.included part)) (hnode : node ∈ part.document.nodes) :
    Stands d (part :: around) node

/-- A node stands directly in the document inside the innermost include. -/
theorem Stands.mem_innermost {d : Document} {around : List Include} {node : Node}
    (h : d.Stands around node) : node ∈ (d.innermost around).nodes := by
  cases h with
  | root hnode => exact hnode
  | inside _ hnode => exact hnode

end Document

namespace Node

/-- The places of nodes that stand inside includes are such places. -/
theorem stands_of_mem_placesOf {d : Document} (nodes : List Node) {around : List Include}
    (hnodes : ∀ node ∈ nodes, d.Stands around node) :
    ∀ place ∈ placesOf around nodes, d.Stands place.around place.node := by
  induction nodes using innerInduction true generalizing around with
  | nil => exact List.forall_mem_nil _
  | cons node nodes ihInner ih =>
    obtain ⟨hnode, hrest⟩ := List.forall_mem_cons.mp hnodes
    rw [placesOf_cons, List.cons_append]
    refine List.forall_mem_cons.mpr ⟨hnode, List.forall_mem_append.mpr ⟨ihInner ?_, ih hrest⟩⟩
    cases node with
    | included part => exact fun _ hinner => .inside hnode hinner
    | _ => exact List.forall_mem_nil _

end Node

/-! ## What a visitor has made of the nodes when it is at one of them -/

namespace Visitor

variable {σ : Type} (v : Visitor σ)

/-- **The states of a visitor at the nodes**: right after it has entered a node, and right before it
leaves it. -/
def observed : σ → List WalkEvent → List (WalkEvent × σ)
  | _, [] => []
  | s, .enter node position :: events =>
    (.enter node position, v.enter node position s)
      :: observed (v.enter node position s) events
  | s, .leave node position :: events =>
    (.leave node position, s) :: observed (v.leave node position s) events

theorem observed_append (front back : List WalkEvent) (s : σ) :
    v.observed s (front ++ back) = v.observed s front ++ v.observed (v.after s front) back := by
  induction front generalizing s with
  | nil => rfl
  | cons event front ih =>
    cases event with
    | enter node position => rw [List.cons_append, observed, observed, ih]; rfl
    | leave node position => rw [List.cons_append, observed, observed, ih]; rfl

theorem map_fst_observed (events : List WalkEvent) (s : σ) :
    (v.observed s events).map Prod.fst = events := by
  induction events generalizing s with
  | nil => rfl
  | cons event events ih => cases event <;> rw [observed, List.map_cons, ih]

/-- The states at a node, at the nodes inside it, and at those behind it. -/
theorem observed_node (node : Node) (position : Nat) (inner rest : List WalkEvent) (s : σ) :
    v.observed s (.enter node position :: inner ++ .leave node position :: rest)
      = (.enter node position, v.enter node position s)
        :: v.observed (v.enter node position s) inner
        ++ (.leave node position, v.after (v.enter node position s) inner)
        :: v.observed (v.leave node position (v.after (v.enter node position s) inner)) rest := by
  rw [observed_append]
  rfl

/-- **The same visitor with a log** of its states at the nodes. -/
def recording : Visitor (σ × List (WalkEvent × σ)) where
  enter node position r :=
    (v.enter node position r.1,
      r.2 ++ [(.enter node position, v.enter node position r.1)])
  leave node position r := (v.leave node position r.1, r.2 ++ [(.leave node position, r.1)])
  descends := v.descends

/-- The log does not disturb the visitor, and has the states that it is to have. -/
theorem after_recording (events : List WalkEvent) (s : σ) (log : List (WalkEvent × σ)) :
    v.recording.after (s, log) events = (v.after s events, log ++ v.observed s events) := by
  induction events generalizing s log with
  | nil => exact congrArg (Prod.mk s) (List.append_nil log).symm
  | cons event events ih =>
    cases event with
    | enter node position =>
      rw [observed, List.append_cons]
      exact ih _ _
    | leave node position =>
      rw [observed, List.append_cons]
      exact ih _ _

end Visitor

/-- A walk that is never told to stop gives the visitor all events. -/
theorem Document.walk_never {σ : Type} (v : Visitor σ) (d : Document) (s : σ) :
    d.walk v (fun _ _ => false) s = .ok (v.after s (d.events v.descends)) := by
  rw [walk_eq_follow]
  rcases v.follow_cases (fun _ _ => false) (d.events v.descends) s with
    ⟨_, _, _, _, -, -, hstop, -⟩ | ⟨-, heq⟩
  · cases hstop
  · exact heq

/-! ## The pass keeps track of the place -/

namespace Generation

namespace Pass

/-- **A pass that is inside some includes**: its depth is their number, and its stack has the numbers
of their documents above that of the document where the walk started. -/
structure Tracks (d : Document) (around : List Include) (p : Pass) : Prop where
  depth : p.includeDepth = around.length
  files : p.files = around.map (fun part => part.document.fileId) ++ [d.fileId]

/-- The number on top of the stack is that of the innermost document. -/
theorem Tracks.head?_files {d : Document} {around : List Include} {p : Pass}
    (h : p.Tracks d around) : p.files.head? = some (d.innermost around).fileId := by
  rw [h.files]
  cases around <;> rfl

/-- The stack is one longer than the pass is deep. -/
theorem Tracks.length_files {d : Document} {around : List Include} {p : Pass}
    (h : p.Tracks d around) : p.files.length = p.includeDepth + 1 := by
  rw [h.files, h.depth, List.length_append, List.length_map]
  rfl

/-- What changes neither the depth nor the stack is no change of place. -/
theorem Tracks.congr {d : Document} {around : List Include} {p q : Pass} (h : p.Tracks d around)
    (hdepth : q.includeDepth = p.includeDepth) (hfiles : q.files = p.files) : q.Tracks d around :=
  ⟨hdepth.trans h.depth, hfiles.trans h.files⟩

/-- What a directive adds to the class is none. -/
theorem Tracks.addDirective {d : Document} {around : List Include} {p : Pass}
    (h : p.Tracks d around) (schema : Schema) (directive : Directive) :
    (p.addDirective schema directive).Tracks d around := by
  unfold Pass.addDirective
  split
  · unfold addImport
    split <;> exact h.congr rfl rfl
  · unfold addTemplate
    dsimp only
    split <;> exact h.congr rfl rfl
  · unfold addParameter
    split <;> exact h.congr rfl rfl
  · exact h

/-- What a code block adds is none. -/
theorem Tracks.addCodeBlock {d : Document} {around : List Include} {p : Pass}
    (h : p.Tracks d around) (block : CodeBlock) : (p.addCodeBlock block).Tracks d around := by
  unfold Pass.addCodeBlock
  split <;> exact h.congr rfl rfl

/-- **Entering a node is a step inside it.** -/
theorem Tracks.enter {d : Document} {around : List Include} {p : Pass} (h : p.Tracks d around)
    (node : Node) (position : Nat) : (p.enter node position).Tracks d (node.opened around) := by
  cases node with
  | included part => exact ⟨congrArg (· + 1) h.depth, congrArg (part.document.fileId :: ·) h.files⟩
  | _ => exact h

/-- **Leaving a node is a step back**, whatever the node adds to the class. -/
theorem Tracks.leave {d : Document} {around : List Include} {p : Pass} (schema : Schema)
    (node : Node) (h : p.Tracks d (node.opened around)) (position : Nat) :
    (p.leave schema node position).Tracks d around := by
  cases node with
  | included part =>
    refine ⟨?_, ?_⟩
    · show p.includeDepth - 1 = _
      rw [h.depth]
      rfl
    · show p.files.tail = _
      rw [h.files]
      rfl
  | directive directive => exact Tracks.addDirective h schema directive
  | codeBlock block => exact Tracks.addCodeBlock h block
  | text _ | missing _ => exact h

end Pass

open Pass

/-- **At every node the pass keeps track of the place of the node**, and after all nodes it is where
it was before them. -/
theorem tracks_observed {d : Document} (schema : Schema) (nodes : List Node) (position : Nat)
    {around : List Include} {p : Pass} (h : p.Tracks d around) :
    ((visitor schema).after p (Node.eventsIn true position nodes)).Tracks d around
      ∧ ∀ event q, (event, q) ∈ (visitor schema).observed p (Node.eventsIn true position nodes) →
          ∃ outside, (⟨event.node, outside⟩, event.position)
              ∈ (Node.placesOf around nodes).zipIdx position
            ∧ q.Tracks d (event.node.opened outside) := by
  induction nodes using Node.innerInduction true generalizing position around p with
  | nil => exact ⟨h, fun _ _ hmem => nomatch hmem⟩
  | cons node nodes ihInner ih =>
    -- the node is entered, those inside it and then those behind it take their turn
    have henter := h.enter node position
    obtain ⟨hend, hinner⟩ := ihInner (position + 1) henter
    have hleave := Tracks.leave schema node hend position
    obtain ⟨hlast, hbehind⟩ := ih (position + (node.met true).length) hleave
    rw [Node.eventsIn_cons, Node.zipIdx_placesOf_cons, Visitor.observed_node]
    refine ⟨?_, fun event q hmem => ?_⟩
    · rw [Visitor.after, List.foldl_append]
      exact hlast
    · rcases List.mem_append.mp hmem with hmem | hmem <;>
        rcases List.mem_cons.mp hmem with heq | hmem
      · cases heq
        exact ⟨around, List.mem_append_left _ List.mem_cons_self, henter⟩
      · obtain ⟨outside, hplace, hq⟩ := hinner event q hmem
        exact ⟨outside, List.mem_append_left _ (List.mem_cons_of_mem _ hplace), hq⟩
      · cases heq
        exact ⟨around, List.mem_append_left _ List.mem_cons_self, hend⟩
      · obtain ⟨outside, hplace, hq⟩ := hbehind event q hmem
        exact ⟨outside, List.mem_append_right _ hplace, hq⟩

/-- **Two ways through a tree of documents, and the stack that goes along.** A walk that goes into
included documents and is never told to stop gives a visitor all events of the tree, and these enter
the includes in the order in which they are collected. Let the pass keep a log of what it is right
after it has entered a node and right before it leaves it. Whenever it is at a node, the node stands
inside some includes of the tree, those of the place at its position; and counting the node itself
if it is an include, the depth of the pass is the number of these includes, and its stack is one
longer, with the number of the innermost document on top: the one in which the node directly stands,
or the included one. So the depth is not zero when an include is left, and at the end it is, with
nothing but the number of the outermost document on the stack. -/
theorem walk_includes_and_stack (schema : Schema) (d : Document) :
    (∀ (σ : Type) (v : Visitor σ) (s : σ), v.descends = true →
        d.walk v (fun _ _ => false) s = .ok (v.after s (d.events true)))
      ∧ (d.events true).filterMap WalkEvent.include? = d.includes
      ∧ ∃ p log,
          d.walk (visitor schema).recording (fun _ _ => false) ({ files := [d.fileId] }, [])
              = .ok (p, log)
            ∧ d.pass (visitor schema) Stop.never { files := [d.fileId] } = .ok p
            ∧ p.includeDepth = 0 ∧ p.files = [d.fileId]
            ∧ log.map Prod.fst = d.events true
            ∧ ∀ (event : WalkEvent) (q : Pass), (event, q) ∈ log →
                ∃ around, d.places[event.position]? = some ⟨event.node, around⟩
                  ∧ d.Stands around event.node ∧ event.node ∈ (d.innermost around).nodes
                  ∧ q.includeDepth = (event.node.opened around).length
                  ∧ q.files.length = q.includeDepth + 1
                  ∧ q.files.head? = some (d.innermost (event.node.opened around)).fileId
                  ∧ (event.node.isIncluded = true → 0 < q.includeDepth) := by
  have hstart : Pass.Tracks d [] { files := [d.fileId] } := ⟨rfl, rfl⟩
  obtain ⟨hend, hobserved⟩ := tracks_observed schema d.nodes 0 hstart
  have hrecorded := d.walk_never (visitor schema).recording ({ files := [d.fileId] }, [])
  rw [Visitor.after_recording] at hrecorded
  have hwalk : d.walk (visitor schema) (fun position _ => Stop.never position)
      { files := [d.fileId] } = .ok _ := d.walk_never (visitor schema) _
  refine ⟨?_, d.filterMap_include?_events, _, _, hrecorded, ?_, hend.depth, hend.files,
    Visitor.map_fst_observed _ _ _, ?_⟩
  · intro σ v s hdescends
    rw [d.walk_never, hdescends]
  · rw [Document.pass, hwalk]
    rfl
  · intro event q hmem
    obtain ⟨around, hplace, htracks⟩ := hobserved event q hmem
    have hplace : d.places[event.position]? = some ⟨event.node, around⟩ :=
      List.mk_mem_zipIdx_iff_getElem?.mp hplace
    have hstands := Node.stands_of_mem_placesOf d.nodes (fun _ hnode => .root hnode) _
      (List.mem_of_getElem? hplace)
    refine ⟨around, hplace, hstands, hstands.mem_innermost, htracks.depth, htracks.length_files,
      htracks.head?_files, ?_⟩
    intro hincluded
    rw [htracks.depth]
    cases hnode : event.node with
    | included part => exact Nat.succ_pos _
    | _ => rw [hnode] at hincluded; cases hincluded

/-- A text in a document that is included by an included document. -/
def deepText : Node := .text ⟨"x", ⟨0, 1⟩⟩

/-- The document that directly holds the text. -/
def innerPart : Include := ⟨"inner.tt", ⟨2, "inner.tt", "x", [deepText]⟩, ⟨0, 0⟩⟩

/-- The document that includes it. -/
def outerPart : Include := ⟨"outer.tt", ⟨1, "outer.tt", "", [.included innerPart]⟩, ⟨0, 0⟩⟩

/-- The template, which goes on behind its include. -/
def twoDeep : Document := ⟨0, "page.tt", "y", [.included outerPart, .text ⟨"y", ⟨0, 1⟩⟩]⟩

/-- The pass at the text: inside two includes, with three documents on the stack. -/
def deepPass : Pass := { files := [2, 1, 0], includeDepth := 2 }

/-- Right before it leaves the text the pass is where the text is, and the innermost document is that
of the inner include. -/
theorem walk_includes_and_stack_twoDeep :
    ∃ p log, twoDeep.walk (visitor .standard).recording (fun _ _ => false) ({ files := [0] }, [])
        = .ok (p, log)
      ∧ log[3]? = some (.leave deepText 2, deepPass)
      ∧ twoDeep.Stands [innerPart, outerPart] deepText
      ∧ deepPass.includeDepth = [innerPart, outerPart].length
      ∧ deepPass.files.head? = some (twoDeep.innermost [innerPart, outerPart]).fileId := by
  obtain ⟨-, -, p, log, hwalk, -, -, -, -, hplaces⟩ := walk_includes_and_stack .standard twoDeep
  have hlog : log
      = ((visitor .standard).recording.after ({ files := [0] }, []) (twoDeep.events true)).2 :=
    congrArg Prod.snd (Except.ok.inj (hwalk.symm.trans (twoDeep.walk_never _ _)))
  have hentry : log[3]? = some (.leave deepText 2, deepPass) := by
    rw [hlog]
    rfl
  obtain ⟨around, hplace, hstands, -, hdepth, -, hhead, -⟩ :=
    hplaces _ _ (List.mem_of_getElem? hentry)
  have haround : twoDeep.places[2]? = some ⟨deepText, [innerPart, outerPart]⟩ := rfl
  cases hplace.symm.trans haround
  exact ⟨p, log, hwalk, hentry, hstands, hdepth, hhead⟩

end Generation

end TextTemplate
