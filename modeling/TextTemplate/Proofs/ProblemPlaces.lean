import TextTemplate.Proofs.NodeProblems

/-!
# What a problem is about

A check gives its problems in one list, and two problems of the list may well be equal: a directive
that stands twice at one place, or an attribute that is repeated there. To speak of *the* problems of
a directive or of *the* problem of an attribute, each problem gets the `Place` that it is about, a node
as a whole or one attribute of a directive. `located` is the list of a check with the places, and a
check gives just this list without them.
-/

namespace TextTemplate.Validation

/-- **What a problem is about**: the node at a position, or the attribute at an index of it. -/
structure Place where
  position : Nat
  index : Option Nat := none
deriving DecidableEq, Repr

variable (schema : Schema) (mode : Mode) (d : Document)

/-- The problems of a directive as a whole. -/
def wholeProblems (position : Nat) (directive : Directive) : List Diagnostic :=
  lackProblems schema d directive ++ effectProblems schema mode d directive
    ++ tailProblems d position (.directive directive)

/-- The problem of the attribute at an index, with its place. -/
def attributeAt? (position : Nat) (directive : Directive) (x : Attribute × Nat) :
    Option (Place × Diagnostic) :=
  (attributeProblem? schema d directive x.1).map (⟨position, some x.2⟩, ·)

/-- The problems of the node at a position, with their places. -/
def locatedAt (position : Nat) : Node → List (Place × Diagnostic)
  | .directive directive =>
    (wholeProblems schema mode d position directive).map (⟨position, none⟩, ·)
      ++ directive.attributes.zipIdx.filterMap (attributeAt? schema d position directive)
  | node => (nodeProblems schema mode d position node).map (⟨position, none⟩, ·)

/-- **The problems of a document with their places.** -/
def located : List (Place × Diagnostic) :=
  d.nodes.zipIdx.flatMap fun x => locatedAt schema mode d x.2 x.1

variable {schema mode d}

/-- The places add nothing but themselves. -/
theorem map_snd_locatedAt (position : Nat) (node : Node) :
    (locatedAt schema mode d position node).map Prod.snd
      = nodeProblems schema mode d position node := by
  have hplain : ∀ problems : List Diagnostic,
      (problems.map ((⟨position, none⟩ : Place), ·)).map Prod.snd = problems := by
    intro problems
    rw [List.map_map]
    exact List.map_id problems
  cases node with
  | directive directive =>
    have hvalues : (directive.attributes.zipIdx.filterMap
          (attributeAt? schema d position directive)).map Prod.snd
        = directive.attributes.filterMap (attributeProblem? schema d directive) := by
      have hplaces : (fun x => (attributeAt? schema d position directive x).map Prod.snd)
          = attributeProblem? schema d directive ∘ Prod.fst := by
        funext x
        simp only [attributeAt?, Option.map_map, Function.comp_def, Option.map_id']
      rw [List.map_filterMap, hplaces, ← List.filterMap_map, List.zipIdx_map_fst]
    rw [locatedAt, List.map_append, hplain, hvalues]
    rfl
  | _ => exact hplain _

/-- The list of all problems without the places. -/
theorem map_snd_located :
    (located schema mode d).map Prod.snd
      = d.nodes.zipIdx.flatMap fun x => nodeProblems schema mode d x.2 x.1 := by
  unfold located
  rw [List.map_flatMap]
  simp only [map_snd_locatedAt]

variable (schema mode d) in
/-- **A check gives the located problems without their places.** -/
theorem validate_eq_map_located :
    validate schema mode Stop.never d = .ok ((located schema mode d).map Prod.snd) := by
  have hstart : ({} : Pass) = Pass.before d 0 [] := by
    simp [Pass.before]
  unfold validate Document.pass Document.walk
  show Pass.found <$> Except.mapError _ ((·.2) <$> Node.walkAll _ (fun _ _ => false) _ _ _) = _
  rw [Node.walkAll_of_not_descends _ rfl, hstart, map_snd_located]
  exact congrArg (fun p : Pass => Except.ok p.found) (Pass.foldl_visit_before [] d.nodes rfl [])

/-- A problem comes from a node. -/
theorem exists_of_mem_located {x : Place × Diagnostic} (h : x ∈ located schema mode d) :
    ∃ position node, d.nodes[position]? = some node ∧ x ∈ locatedAt schema mode d position node := by
  obtain ⟨⟨node, position⟩, hnode, hx⟩ := List.mem_flatMap.mp h
  exact ⟨position, node, List.mk_mem_zipIdx_iff_getElem?.mp hnode, hx⟩

end TextTemplate.Validation
