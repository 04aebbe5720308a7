import TextTemplate.Generation.Basic
import TextTemplate.Proofs.Traversal
import TextTemplate.Validation

/-!
# A walk is a fold over the events of the tree

What a walk does to a visitor is said by a list of events: entering a node and leaving it, with the
events of the nodes inside it between the two. The list depends on the tree alone, and on whether
the documents inside includes are walked (`Document.events`). A walk that is never told to stop
gives the visitor every event of the list. One that is told to stop gives it the events in front of
the first entry at which the answer was to stop, and nothing else: a node that has been entered may
be left unfinished, and a node that has been finished is always left.

Both forms of a walk, the one that goes into included documents and the one that does not, are
treated at once. `Node.inner` is the list of nodes that a walk meets inside a node, empty for most
nodes, and `Node.innerInduction` has one case for a node, whatever it is.
-/

namespace TextTemplate

/-- **Something that a visitor is told.** -/
inductive WalkEvent where
  | enter (node : Node) (position : Nat)
  | leave (node : Node) (position : Nat)

namespace WalkEvent

/-- The node that is entered, and its position. -/
def entered? : WalkEvent → Option (Node × Nat)
  | .enter node position => some (node, position)
  | .leave _ _ => none

/-- **Events that are well nested**: what has been entered is left, and what is entered in between
is left in between. -/
inductive WellNested : List WalkEvent → Prop where
  | nil : WellNested []
  | node {node : Node} {position : Nat} {inner rest : List WalkEvent} :
    WellNested inner → WellNested rest →
    WellNested (.enter node position :: inner ++ .leave node position :: rest)

end WalkEvent

/-! ## The events of a tree -/

namespace Node

/-- **The nodes that a walk meets inside a node**: those of the included document, if it is walked.
-/
def inner (descends : Bool) : Node → List Node
  | .included part => if descends then part.document.nodes else []
  | _ => []

theorem inner_of_not_included {node : Node} (h : node.isIncluded = false) (descends : Bool) :
    node.inner descends = [] := by
  cases node with
  | included part => cases h
  | _ => rfl

/-- **Induction over the nodes that a walk meets.** -/
theorem innerInduction (descends : Bool) {motive : List Node → Prop} (nil : motive [])
    (cons : ∀ node nodes, motive (node.inner descends) → motive nodes → motive (node :: nodes)) :
    ∀ nodes, motive nodes := by
  intro nodes
  induction nodes using forestInduction with
  | nil => exact nil
  | leaf node nodes hnode ih =>
    refine cons node nodes ?_ ih
    rw [inner_of_not_included hnode]
    exact nil
  | included part nodes ihPart ih =>
    refine cons _ nodes ?_ ih
    cases descends with
    | true => exact ihPart
    | false => exact nil

mutual

/-- The nodes that a walk meets in a node, itself first. -/
def met (descends : Bool) : Node → List Node
  | .included ⟨path, ⟨fileId, docPath, source, nodes⟩, span⟩ =>
    .included ⟨path, ⟨fileId, docPath, source, nodes⟩, span⟩
      :: if descends then metIn descends nodes else []
  | node => [node]

/-- **The nodes that a walk over a list of nodes meets**, in the order in which they stand. -/
def metIn (descends : Bool) : List Node → List Node
  | [] => []
  | node :: nodes => node.met descends ++ metIn descends nodes

end

mutual

/-- The events of a node that is entered at a position. -/
def events (descends : Bool) (position : Nat) : Node → List WalkEvent
  | .included ⟨path, ⟨fileId, docPath, source, nodes⟩, span⟩ =>
    let node := Node.included ⟨path, ⟨fileId, docPath, source, nodes⟩, span⟩
    .enter node position
      :: ((if descends then eventsIn descends (position + 1) nodes else [])
        ++ [.leave node position])
  | node => [.enter node position, .leave node position]

/-- **The events of a list of nodes**, the first of which is entered at a position. Each node takes
up as many positions as a walk meets nodes in it. -/
def eventsIn (descends : Bool) (position : Nat) : List Node → List WalkEvent
  | [] => []
  | node :: nodes =>
    node.events descends position
      ++ eventsIn descends (position + (node.met descends).length) nodes

end

/-- A node comes before the nodes inside it. -/
theorem met_eq (descends : Bool) (node : Node) :
    node.met descends = node :: metIn descends (node.inner descends) := by
  cases node with
  | included part =>
    obtain ⟨path, ⟨fileId, docPath, source, nodes⟩, span⟩ := part
    cases descends <;> rfl
  | _ => rfl

/-- A node is entered, the nodes inside it take their turn, and it is left. -/
theorem events_eq (descends : Bool) (position : Nat) (node : Node) :
    node.events descends position
      = .enter node position
        :: (eventsIn descends (position + 1) (node.inner descends) ++ [.leave node position]) := by
  cases node with
  | included part =>
    obtain ⟨path, ⟨fileId, docPath, source, nodes⟩, span⟩ := part
    cases descends <;> rfl
  | _ => rfl

/-- The events of a list of nodes, from the first node on. -/
theorem eventsIn_cons (descends : Bool) (position : Nat) (node : Node) (nodes : List Node) :
    eventsIn descends position (node :: nodes)
      = .enter node position
        :: eventsIn descends (position + 1) (node.inner descends)
        ++ .leave node position
        :: eventsIn descends (position + (node.met descends).length) nodes := by
  rw [eventsIn, events_eq]
  simp only [List.cons_append, List.append_assoc, List.nil_append]

/-- **The events of a list of nodes are well nested.** -/
theorem wellNested_eventsIn (descends : Bool) (nodes : List Node) (position : Nat) :
    WalkEvent.WellNested (eventsIn descends position nodes) := by
  induction nodes using innerInduction descends generalizing position with
  | nil => exact .nil
  | cons node nodes ihInner ih =>
    rw [eventsIn_cons]
    exact .node (ihInner _) (ih _)

/-- **The nodes are entered in order, and their positions count them.** -/
theorem filterMap_entered?_eventsIn (descends : Bool) (nodes : List Node) (position : Nat) :
    (eventsIn descends position nodes).filterMap WalkEvent.entered?
      = (metIn descends nodes).zipIdx position := by
  induction nodes using innerInduction descends generalizing position with
  | nil => rfl
  | cons node nodes ihInner ih =>
    rw [eventsIn_cons, metIn, List.zipIdx_append, met_eq, List.zipIdx_cons, List.length_cons]
    simp only [List.filterMap_append, List.filterMap_cons, WalkEvent.entered?, ihInner, ih,
      List.cons_append]

/-- The nodes that a walk meets that goes into included documents are all nodes of the tree. -/
theorem metIn_true (nodes : List Node) (fileId depth : Nat) :
    metIn true nodes = (visitsOf fileId depth nodes).map Visit.node := by
  induction nodes using forestInduction generalizing fileId depth with
  | nil => rfl
  | leaf node nodes hnode ih =>
    rw [metIn, met_eq, inner_of_not_included hnode, visitsOf, visits_of_not_included hnode,
      ih fileId depth]
    rfl
  | included part nodes ihPart ih =>
    rw [metIn, met_eq, visitsOf, visits_included, ih fileId depth]
    show .included part :: metIn true part.document.nodes ++ _ = _
    rw [ihPart part.document.fileId (depth + 1), List.map_append, List.map_cons]

/-- A walk that does not go into included documents meets the nodes of the list. -/
theorem metIn_false (nodes : List Node) : metIn false nodes = nodes := by
  induction nodes with
  | nil => rfl
  | cons node nodes ih =>
    have hinner : node.inner false = [] := by cases node <;> rfl
    rw [metIn, met_eq, hinner, ih]
    rfl

end Node

namespace Document

/-- **The nodes of a document that a walk meets.** -/
def met (descends : Bool) (d : Document) : List Node :=
  if descends then d.visits.map Visit.node else d.nodes

/-- **The events of a document.** -/
def events (descends : Bool) (d : Document) : List WalkEvent := Node.eventsIn descends 0 d.nodes

/-- The events enter the nodes that a walk meets, at positions counted from 0. -/
theorem filterMap_entered?_events (descends : Bool) (d : Document) :
    (d.events descends).filterMap WalkEvent.entered? = (d.met descends).zipIdx := by
  rw [events, Node.filterMap_entered?_eventsIn, met]
  cases descends with
  | true => rw [Node.metIn_true d.nodes d.fileId 0]; rfl
  | false => rw [Node.metIn_false]; rfl

end Document

/-! ## What a visitor makes of events -/

namespace Visitor

variable {σ : Type} (v : Visitor σ) (stop : Nat → σ → Bool)

/-- The state of a visitor after it has been told of an event. -/
def told (s : σ) : WalkEvent → σ
  | .enter node position => v.enter node position s
  | .leave node position => v.leave node position s

/-- **The state of a visitor after a list of events.** -/
def after (s : σ) (events : List WalkEvent) : σ := events.foldl v.told s

/-- **No node of a list of events is entered against the answer to stop**: wherever one is entered,
the question that is put before it, with the state that the events in front have made, is answered
by no. -/
def Passes (s : σ) (events : List WalkEvent) : Prop :=
  ∀ front node position back, events = front ++ .enter node position :: back →
    stop position (v.after s front) = false

/-- The events one after another, until one of them is to be entered with the answer to stop. -/
def follow : List WalkEvent → σ → Except (Interrupted σ) σ
  | [], s => .ok s
  | .enter node position :: events, s =>
    if stop position s then .error ⟨s⟩ else follow events (v.enter node position s)
  | .leave node position :: events, s => follow events (v.leave node position s)

/-- Events behind others are followed if the others have been. -/
theorem follow_append (front back : List WalkEvent) (s : σ) :
    v.follow stop (front ++ back) s = v.follow stop front s >>= v.follow stop back := by
  induction front generalizing s with
  | nil => rfl
  | cons event front ih =>
    cases event with
    | enter node position =>
      rw [List.cons_append, follow, follow, ih]
      split <;> rfl
    | leave node position => rw [List.cons_append, follow, follow, ih]

variable {v stop}

theorem passes_nil (s : σ) : v.Passes stop s [] := by
  intro front node position back hevents
  cases front <;> cases hevents

/-- Events pass behind one that does. -/
theorem Passes.cons {s : σ} {event : WalkEvent} {events : List WalkEvent}
    (hfirst : ∀ node position, event = .enter node position → stop position s = false)
    (h : v.Passes stop (v.told s event) events) : v.Passes stop s (event :: events) := by
  intro front node position back hevents
  cases front with
  | nil =>
    rw [List.nil_append, List.cons.injEq] at hevents
    exact hfirst node position hevents.1
  | cons event' front =>
    rw [List.cons_append, List.cons.injEq] at hevents
    obtain ⟨rfl, rfl⟩ := hevents
    exact h front node position back rfl

variable (v stop)

/-- **Following the events ends in one of two ways**: before the first node that is to be entered
with the answer to stop, with what the events in front have made, or behind the last event. -/
theorem follow_cases (events : List WalkEvent) (s : σ) :
    (∃ before node position rest, events = before ++ .enter node position :: rest
        ∧ v.Passes stop s before ∧ stop position (v.after s before) = true
        ∧ v.follow stop events s = .error ⟨v.after s before⟩)
      ∨ (v.Passes stop s events ∧ v.follow stop events s = .ok (v.after s events)) := by
  induction events generalizing s with
  | nil => exact Or.inr ⟨passes_nil s, rfl⟩
  | cons event events ih =>
    by_cases hstop : ∃ node position, event = .enter node position ∧ stop position s = true
    · obtain ⟨node, position, rfl, hstop⟩ := hstop
      exact Or.inl ⟨[], node, position, events, rfl, passes_nil s, hstop, if_pos hstop⟩
    · have hfirst : ∀ node position, event = .enter node position → stop position s = false := by
        intro node position hevent
        exact Bool.eq_false_iff.mpr fun hs => hstop ⟨node, position, hevent, hs⟩
      have hfollow : v.follow stop (event :: events) s = v.follow stop events (v.told s event) := by
        cases event with
        | enter node position =>
          exact if_neg (Bool.eq_false_iff.mp (hfirst node position rfl))
        | leave node position => rfl
      rw [hfollow]
      rcases ih (v.told s event) with
        ⟨before, node, position, rest, rfl, hpasses, hat, heq⟩ | ⟨hpasses, heq⟩
      · exact Or.inl ⟨event :: before, node, position, rest, rfl, hpasses.cons hfirst, hat, heq⟩
      · exact Or.inr ⟨hpasses.cons hfirst, heq⟩

end Visitor

/-! ## A walk follows the events -/

namespace Node

variable {σ : Type} (v : Visitor σ) (stop : Nat → σ → Bool)

/-- **A walk over one node**: the question, the entry, the nodes inside, and the leave. -/
theorem walk_eq (node : Node) (position : Nat) (s : σ) :
    node.walk v stop position s
      = if stop position s then .error ⟨s⟩
        else walkAll v stop (node.inner v.descends) (position + 1) (v.enter node position s)
          >>= fun next => .ok (next.1, v.leave node position next.2) := by
  cases node with
  | included part =>
    obtain ⟨path, ⟨fileId, docPath, source, nodes⟩, span⟩ := part
    rw [walk, inner]
    cases v.descends <;> rfl
  | _ => rfl

/-- **A walk over a list of nodes follows their events.** -/
theorem walkAll_eq_follow (nodes : List Node) (position : Nat) (s : σ) :
    walkAll v stop nodes position s
      = v.follow stop (eventsIn v.descends position nodes) s
        >>= fun s' => .ok (position + (metIn v.descends nodes).length, s') := by
  induction nodes using innerInduction v.descends generalizing position s with
  | nil => rfl
  | cons node nodes ihInner ih =>
    rw [walkAll, walk_eq, eventsIn_cons, List.cons_append, Visitor.follow]
    split
    · rfl
    · rw [ihInner, Visitor.follow_append]
      cases v.follow stop (eventsIn v.descends (position + 1) (node.inner v.descends))
        (v.enter node position s) with
      | error e => rfl
      | ok s' =>
        have hlength : position + 1 + (metIn v.descends (node.inner v.descends)).length
            = position + (node.met v.descends).length := by
          rw [met_eq, List.length_cons]
          omega
        show walkAll v stop nodes (position + 1 + (metIn v.descends (node.inner v.descends)).length)
          (v.leave node position s') = _
        rw [hlength, ih, metIn, List.length_append, Nat.add_assoc]
        rfl

end Node

namespace Document

variable {σ : Type} (v : Visitor σ)

/-- **A walk over a document follows its events.** -/
theorem walk_eq_follow (stop : Nat → σ → Bool) (d : Document) (s : σ) :
    d.walk v stop s = v.follow stop (d.events v.descends) s := by
  unfold walk
  rw [Node.walkAll_eq_follow, events]
  cases v.follow stop (Node.eventsIn v.descends 0 d.nodes) s <;> rfl

/-- A node that is entered is one of those that a walk meets. -/
theorem lt_of_events_eq {descends : Bool} {d : Document} {before rest : List WalkEvent}
    {node : Node} {position : Nat}
    (h : d.events descends = before ++ .enter node position :: rest) :
    position < (d.met descends).length := by
  have hmem : (node, position) ∈ (d.events descends).filterMap WalkEvent.entered? := by
    rw [h, List.filterMap_append]
    exact List.mem_append_right _ List.mem_cons_self
  rw [filterMap_entered?_events] at hmem
  exact (List.mem_zipIdx' hmem).1

/-- Each of the nodes that a walk meets is entered. -/
theorem exists_events_eq {descends : Bool} {d : Document} {position : Nat}
    (h : position < (d.met descends).length) :
    ∃ before node rest, d.events descends = before ++ .enter node position :: rest := by
  have hmem : ((d.met descends)[position], position) ∈ (d.met descends).zipIdx :=
    List.mk_mem_zipIdx_iff_getElem?.mpr (List.getElem?_eq_getElem h)
  rw [← filterMap_entered?_events] at hmem
  obtain ⟨event, hevent, hentered⟩ := List.mem_filterMap.mp hmem
  cases event with
  | enter node position' =>
    cases hentered
    obtain ⟨before, rest, heq⟩ := List.append_of_mem hevent
    exact ⟨before, _, rest, heq⟩
  | leave node position' => cases hentered

/-- **A pass gives all of its result or nothing**: nothing exactly if the answer to stop came before
one of the nodes that it meets. -/
theorem pass_eq (stop : Stop) (d : Document) (s : σ) :
    d.pass v stop s
      = if (List.range (d.met v.descends).length).any stop then .error ⟨⟩
        else .ok (v.after s (d.events v.descends)) := by
  unfold pass
  rw [walk_eq_follow]
  rcases v.follow_cases (fun position _ => stop position) (d.events v.descends) s with
    ⟨before, node, position, rest, hevents, -, hstop, heq⟩ | ⟨hpasses, heq⟩
  · have hany : (List.range (d.met v.descends).length).any stop = true :=
      List.any_eq_true.mpr ⟨position, List.mem_range.mpr (lt_of_events_eq hevents), hstop⟩
    rw [heq, if_pos hany]
    rfl
  · have hany : (List.range (d.met v.descends).length).any stop = false := by
      refine List.any_eq_false.mpr fun position hposition => ?_
      obtain ⟨before, node, rest, hevents⟩ := exists_events_eq (List.mem_range.mp hposition)
      exact Bool.eq_false_iff.mp (hpasses before node position rest hevents)
    rw [heq, hany]
    rfl

/-- What is made of the result of a pass is there under every sequence of answers that lets the pass
through, and is the same under all of them. -/
theorem exists_map_pass_eq {α : Type} (f : σ → α) (d : Document) (s : σ) :
    ∃ a, f <$> d.pass v Stop.never s = .ok a
      ∧ ∀ answers : Stop, f <$> d.pass v answers s
        = if (List.range (d.met v.descends).length).any answers then .error ⟨⟩ else .ok a := by
  have hall : ∀ answers : Stop, f <$> d.pass v answers s
      = if (List.range (d.met v.descends).length).any answers then .error ⟨⟩
        else .ok (f (v.after s (d.events v.descends))) := by
    intro answers
    rw [pass_eq]
    split <;> rfl
  have hnever : (List.range (d.met v.descends).length).any Stop.never = false :=
    List.any_eq_false.mpr fun _ _ => Bool.false_ne_true
  refine ⟨_, ?_, hall⟩
  rw [hall, hnever]
  rfl

/-- **A walk is a fold over the events of the tree, cut before the first entry at which it is told
to stop.** The events are well nested, and they enter the nodes that the walk meets in the order in
which they stand, at the positions 0, 1, 2 and so on. Whatever a visitor does and whenever the
answer to stop comes, be it before the walk or in the middle of what the visitor does: either the
walk ends before the first node that would be entered with that answer, with what the visitor has
made of the events in front of it, or there is no such node and the visitor has been told of all
events. The walk says that it was interrupted exactly if there is such a node. So a check of a
document and the generation of its class either give nothing or give what they give if they are
never told to stop. -/
theorem walk_eq_after_events (stop : Nat → σ → Bool) (d : Document) (s : σ) :
    ((d.events v.descends).filterMap WalkEvent.entered? = (d.met v.descends).zipIdx
        ∧ WalkEvent.WellNested (d.events v.descends))
      ∧ ((∃ before node position rest,
            d.events v.descends = before ++ .enter node position :: rest
              ∧ v.Passes stop s before ∧ stop position (v.after s before) = true
              ∧ d.walk v stop s = .error ⟨v.after s before⟩)
          ∨ (v.Passes stop s (d.events v.descends)
              ∧ d.walk v stop s = .ok (v.after s (d.events v.descends))))
      ∧ ((∃ interrupted, d.walk v stop s = .error interrupted)
          ↔ ∃ before node position rest,
              d.events v.descends = before ++ .enter node position :: rest
                ∧ stop position (v.after s before) = true)
      ∧ (∀ schema mode, ∃ problems, Validation.validate schema mode Stop.never d = .ok problems
          ∧ ∀ answers : Stop, Validation.validate schema mode answers d
            = if (List.range d.nodes.length).any answers then .error ⟨⟩ else .ok problems)
      ∧ (∀ schema mode, ∃ unit, Generation.generate schema mode Stop.never d = .ok unit
          ∧ ∀ answers : Stop, Generation.generate schema mode answers d
            = if (List.range d.visits.length).any answers then .error ⟨⟩ else .ok unit) := by
  have hcases := v.follow_cases stop (d.events v.descends) s
  rw [← walk_eq_follow] at hcases
  refine ⟨⟨filterMap_entered?_events _ d, Node.wellNested_eventsIn _ d.nodes 0⟩, hcases, ?_, ?_, ?_⟩
  · constructor
    · rintro ⟨interrupted, herror⟩
      rcases hcases with ⟨before, node, position, rest, hevents, -, hstop, -⟩ | ⟨-, hok⟩
      · exact ⟨before, node, position, rest, hevents, hstop⟩
      · rw [hok] at herror
        cases herror
    · rintro ⟨before, node, position, rest, hevents, hstop⟩
      rcases hcases with ⟨_, _, _, _, -, -, -, herror⟩ | ⟨hpasses, -⟩
      · exact ⟨_, herror⟩
      · rw [hpasses before node position rest hevents] at hstop
        cases hstop
  · intro schema mode
    exact exists_map_pass_eq (Validation.visitor schema mode.preprocessed d) Validation.Pass.found
      d {}
  · intro schema mode
    have hlength : (d.met true).length = d.visits.length := List.length_map ..
    rw [← hlength]
    exact exists_map_pass_eq (Generation.visitor schema) (Generation.assemble mode.namespace?) d
      { files := [d.fileId] }

end Document

end TextTemplate
