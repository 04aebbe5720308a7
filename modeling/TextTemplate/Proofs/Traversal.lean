import TextTemplate.Document.Walk

/-!
# The nodes of a tree of documents

A document holds nodes, and some nodes hold documents. `Document.visits` lists all nodes of such a
tree in the order in which they stand, each with the number of the document that directly holds it
and with the number of includes around it. It says nothing about how the nodes are met; that a walk
meets them in this order is proved where a walk is looked at.

`Node.forestInduction` is the induction that statements about trees are proved by: over lists of
nodes, with the nodes of an included document as a smaller list.
-/

namespace TextTemplate

namespace Node

/-- Whether a node is an include. -/
def isIncluded : Node → Bool
  | .included _ => true
  | _ => false

/-- **Induction over the nodes of a tree.** What holds of no nodes, and of a list of nodes if it
holds of the list without its first node and of the nodes inside that node, holds of every list. -/
theorem forestInduction {motive : List Node → Prop} (nil : motive [])
    (leaf : ∀ node nodes, node.isIncluded = false → motive nodes → motive (node :: nodes))
    (included : ∀ part nodes, motive part.document.nodes → motive nodes →
      motive (.included part :: nodes)) :
    ∀ nodes, motive nodes
  | [] => nil
  | .included ⟨_, ⟨_, _, _, inner⟩, _⟩ :: nodes =>
    included _ _ (forestInduction nil leaf included inner) (forestInduction nil leaf included nodes)
  | .text _ :: nodes => leaf _ _ rfl (forestInduction nil leaf included nodes)
  | .directive _ :: nodes => leaf _ _ rfl (forestInduction nil leaf included nodes)
  | .codeBlock _ :: nodes => leaf _ _ rfl (forestInduction nil leaf included nodes)
  | .missing _ :: nodes => leaf _ _ rfl (forestInduction nil leaf included nodes)

end Node

/-! ## All nodes of a tree -/

/-- **A node of a tree**: with the number of the document that directly holds it, and the number of
includes around it. -/
structure Visit where
  node : Node
  fileId : Nat
  depth : Nat

namespace Node

mutual

/-- The nodes of a node, itself first. -/
def visits (fileId depth : Nat) : Node → List Visit
  | .included ⟨path, ⟨inner, docPath, source, nodes⟩, span⟩ =>
    ⟨.included ⟨path, ⟨inner, docPath, source, nodes⟩, span⟩, fileId, depth⟩
      :: visitsOf inner (depth + 1) nodes
  | node => [⟨node, fileId, depth⟩]

/-- **The nodes of a list of nodes**, which stands in a document at a depth. -/
def visitsOf (fileId depth : Nat) : List Node → List Visit
  | [] => []
  | node :: nodes => node.visits fileId depth ++ visitsOf fileId depth nodes

end

/-- A node that is no include is alone. -/
theorem visits_of_not_included {node : Node} (h : node.isIncluded = false) (fileId depth : Nat) :
    node.visits fileId depth = [⟨node, fileId, depth⟩] := by
  cases node with
  | included part => cases h
  | _ => rfl

/-- An include comes before the nodes of its document. -/
theorem visits_included (part : Include) (fileId depth : Nat) :
    (Node.included part).visits fileId depth
      = ⟨.included part, fileId, depth⟩
        :: visitsOf part.document.fileId (depth + 1) part.document.nodes := by
  obtain ⟨path, ⟨inner, docPath, source, nodes⟩, span⟩ := part
  rfl

/-- The includes of a node that is none. -/
theorem includes_of_not_included {node : Node} (h : node.isIncluded = false) :
    node.includes = [] := by
  cases node with
  | included part => cases h
  | _ => rfl

/-- The includes of an include. -/
theorem includes_included (part : Include) :
    (Node.included part).includes = part :: includesOf part.document.nodes := by
  obtain ⟨path, ⟨inner, docPath, source, nodes⟩, span⟩ := part
  rfl

/-- Every node of a list of nodes stands in the list or in a document that it includes. -/
theorem exists_of_mem_visitsOf {v : Visit} (nodes : List Node) {fileId depth : Nat}
    (h : v ∈ visitsOf fileId depth nodes) :
    (v.fileId = fileId ∧ v.node ∈ nodes)
      ∨ ∃ part ∈ includesOf nodes, v.fileId = part.document.fileId
        ∧ v.node ∈ part.document.nodes := by
  induction nodes using forestInduction generalizing fileId depth with
  | nil => cases h
  | leaf node nodes hnode ih =>
    rw [visitsOf, visits_of_not_included hnode, List.singleton_append] at h
    rw [includesOf, includes_of_not_included hnode, List.nil_append]
    rcases List.mem_cons.mp h with rfl | h
    · exact Or.inl ⟨rfl, List.mem_cons_self⟩
    · rcases ih h with ⟨hfile, hmem⟩ | hinner
      · exact Or.inl ⟨hfile, List.mem_cons_of_mem _ hmem⟩
      · exact Or.inr hinner
  | included part nodes ihPart ihNodes =>
    rw [visitsOf, visits_included, List.cons_append] at h
    rw [includesOf, includes_included, List.cons_append]
    rcases List.mem_cons.mp h with rfl | h
    · exact Or.inl ⟨rfl, List.mem_cons_self⟩
    rcases List.mem_append.mp h with h | h
    · refine Or.inr ?_
      rcases ihPart h with ⟨hfile, hmem⟩ | ⟨inner, hinner, hfile, hmem⟩
      · exact ⟨part, List.mem_cons_self, hfile, hmem⟩
      · exact ⟨inner, List.mem_cons_of_mem _ (List.mem_append_left _ hinner), hfile, hmem⟩
    · rcases ihNodes h with ⟨hfile, hmem⟩ | ⟨inner, hinner, hfile, hmem⟩
      · exact Or.inl ⟨hfile, List.mem_cons_of_mem _ hmem⟩
      · exact Or.inr
          ⟨inner, List.mem_cons_of_mem _ (List.mem_append_right _ hinner), hfile, hmem⟩

end Node

/-- The include that a node of a tree is. -/
def Visit.include? (v : Visit) : Option Include :=
  match v.node with
  | .included part => some part
  | _ => none

/-- **The includes among the nodes of a tree**, in the order in which the nodes stand. -/
theorem Node.filterMap_include?_visitsOf (nodes : List Node) (fileId depth : Nat) :
    (visitsOf fileId depth nodes).filterMap Visit.include? = includesOf nodes := by
  induction nodes using forestInduction generalizing fileId depth with
  | nil => rfl
  | leaf node nodes hnode ih =>
    have hnone : (⟨node, fileId, depth⟩ : Visit).include? = none := by
      cases node with
      | included part => cases hnode
      | _ => rfl
    rw [visitsOf, visits_of_not_included hnode, includesOf, includes_of_not_included hnode,
      List.singleton_append, List.filterMap_cons_none hnone, ih, List.nil_append]
  | included part nodes ihPart ih =>
    have hsome : (⟨.included part, fileId, depth⟩ : Visit).include? = some part := rfl
    rw [visitsOf, visits_included, includesOf, includes_included, List.filterMap_append,
      List.filterMap_cons_some hsome, ihPart, ih]

namespace Document

/-- **Every node of the tree of a document**, in the order in which they stand. -/
def visits (d : Document) : List Visit := Node.visitsOf d.fileId 0 d.nodes

/-- **A node of the tree stands in a document of the family whose number it has.** -/
theorem exists_of_mem_visits {d : Document} {v : Visit} (h : v ∈ d.visits) :
    ∃ member ∈ d.family, member.fileId = v.fileId ∧ v.node ∈ member.nodes := by
  rcases Node.exists_of_mem_visitsOf d.nodes h with ⟨hfile, hmem⟩ | ⟨part, hpart, hfile, hmem⟩
  · exact ⟨d, List.mem_cons_self, hfile.symm, hmem⟩
  · exact ⟨part.document, List.mem_cons_of_mem _ (List.mem_map_of_mem hpart), hfile.symm, hmem⟩

end Document

/-! ## Walks that are not told to stop -/

namespace Node

variable {σ : Type} (v : Visitor σ)

/-- A node that is no include is entered and left. -/
theorem walk_of_not_included {node : Node} (h : node.isIncluded = false) (position : Nat) (s : σ) :
    node.walk v (fun _ _ => false) position s
      = .ok (position + 1, v.leave node position (v.enter node position s)) := by
  cases node with
  | included part => cases h
  | _ => rfl

/-- An include is entered, its document is walked, and it is left. -/
theorem walk_included_of_descends (h : v.descends = true) {part : Include} {position next : Nat}
    {s s' : σ}
    (hwalk : walkAll v (fun _ _ => false) part.document.nodes (position + 1)
      (v.enter (.included part) position s) = .ok (next, s')) :
    (Node.included part).walk v (fun _ _ => false) position s
      = .ok (next, v.leave (.included part) position s') := by
  obtain ⟨path, ⟨fileId, docPath, source, nodes⟩, span⟩ := part
  simp only [walk, Bool.false_eq_true, if_false, h, if_true]
  rw [hwalk]
  rfl

/-- An include whose document is left alone is like any other node. -/
theorem walk_of_not_descends (h : v.descends = false) (node : Node) (position : Nat) (s : σ) :
    node.walk v (fun _ _ => false) position s
      = .ok (position + 1, v.leave node position (v.enter node position s)) := by
  cases node with
  | included part =>
    obtain ⟨path, ⟨fileId, docPath, source, nodes⟩, span⟩ := part
    simp only [walk, Bool.false_eq_true, if_false, h]
    rfl
  | _ => rfl

/-- A list of nodes is walked one after another. -/
theorem walkAll_cons_of_ok {stop : Nat → σ → Bool} {node : Node} {nodes : List Node}
    {position next : Nat} {s s' : σ} (h : node.walk v stop position s = .ok (next, s')) :
    walkAll v stop (node :: nodes) position s = walkAll v stop nodes next s' := by
  rw [walkAll, h]
  rfl

/-- **A walk that stays in the document** enters and leaves the nodes in order, and the positions
are those in the list. -/
theorem walkAll_of_not_descends (h : v.descends = false) (nodes : List Node) (position : Nat)
    (s : σ) :
    walkAll v (fun _ _ => false) nodes position s
      = .ok (position + nodes.length,
          (nodes.zipIdx position).foldl (fun s x => v.leave x.1 x.2 (v.enter x.1 x.2 s)) s) := by
  induction nodes generalizing position s with
  | nil => rfl
  | cons node nodes ih =>
    rw [walkAll_cons_of_ok v (walk_of_not_descends v h node position s), ih, List.length_cons,
      List.zipIdx_cons, List.foldl_cons, Nat.add_right_comm, Nat.add_assoc]

end Node

end TextTemplate
