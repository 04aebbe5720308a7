import TextTemplate.Cancellation
import TextTemplate.Document.Basic

/-!
# Walking a document

A walk shows the nodes of a document to a visitor, one after another: it enters a node, walks the
document inside it if there is one, and leaves the node. Nodes are numbered from 0 in the order in
which they are entered. Before each node the walk asks whether to stop; if so it ends there, and
says so together with what the visitor has made of the nodes before.

The question is put to a function of the position and of the visitor's state, so that a visitor can
itself be the one who stops the walk.
-/

namespace TextTemplate

/-- **What is done at each node**, over a state `σ`. -/
structure Visitor (σ : Type) where
  /-- Done before the nodes inside a node are walked. -/
  enter : Node → Nat → σ → σ
  /-- Done after the nodes inside a node are walked. -/
  leave : Node → Nat → σ → σ := fun _ _ s => s
  /-- Whether the documents inside includes are walked. -/
  descends : Bool := true

/-- A walk that was told to stop, with the visitor's state at that moment. -/
structure Interrupted (σ : Type) where
  state : σ

namespace Node

mutual

/-- Walks one node, entered at `position`. The result is the position of the next node and the
visitor's state. -/
def walk {σ : Type} (v : Visitor σ) (stop : Nat → σ → Bool) :
    Node → Nat → σ → Except (Interrupted σ) (Nat × σ)
  | .included ⟨path, ⟨fileId, docPath, source, nodes⟩, span⟩, position, s =>
    if stop position s then throw ⟨s⟩
    else do
      let node := Node.included ⟨path, ⟨fileId, docPath, source, nodes⟩, span⟩
      let s := v.enter node position s
      let (next, s) ←
        if v.descends then walkAll v stop nodes (position + 1) s
        else pure (position + 1, s)
      return (next, v.leave node position s)
  | node, position, s =>
    if stop position s then throw ⟨s⟩
    else return (position + 1, v.leave node position (v.enter node position s))

/-- **Walks a list of nodes**, the first of which would be entered at `position`. -/
def walkAll {σ : Type} (v : Visitor σ) (stop : Nat → σ → Bool) :
    List Node → Nat → σ → Except (Interrupted σ) (Nat × σ)
  | [], position, s => return (position, s)
  | node :: nodes, position, s => do
    let (position, s) ← node.walk v stop position s
    walkAll v stop nodes position s

end

end Node

/-- **Walks a document** from a first state of the visitor to its last one. -/
def Document.walk {σ : Type} (v : Visitor σ) (stop : Nat → σ → Bool) (d : Document) (s : σ) :
    Except (Interrupted σ) σ :=
  (·.2) <$> Node.walkAll v stop d.nodes 0 s

/-- **A pass over a document**: a walk whose state is given up when it is told to stop. -/
def Document.pass {σ : Type} (v : Visitor σ) (stop : Stop) (d : Document) (s : σ) :
    Except Cancelled σ :=
  (d.walk v (fun position _ => stop position) s).mapError fun _ => ⟨⟩

end TextTemplate
