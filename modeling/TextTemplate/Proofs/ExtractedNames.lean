import TextTemplate.Document.Builder
import TextTemplate.Proofs.Placeholders
import TextTemplate.Proofs.SnapshotChanges
import TextTemplate.Proofs.Traversal

/-!
# A snapshot has the dependencies of the whole tree

A snapshot of a document is taken by one look at each directive of the tree, first at those of the
document itself and then at those of the documents that it includes (`Document.allDirectives`). What
it has in the end can be said of the directives alone: a name is in it exactly if some directive
brings it, and it is spelled as where it is met first (`Snapshot.Collects`).

What a directive brings is said by `Snapshot.RefersTo` for assemblies and by `Snapshot.LooksInto`
for the texts in which macros are looked for. The snapshot is then a set of the names of a list
(`Snapshot.extract_eq`), and the rest is what such sets do. Since the order of the directives
matters for the spelling only, trees with the same directives have snapshots with the same names.
-/

namespace TextTemplate

open Text

/-! ## The directives of a tree -/

namespace Document

/-- **The directives of a tree**: those written in the document itself, in order, then those of each
included document, the documents in the order in which the includes stand in the tree. -/
def allDirectives (d : Document) : List Directive :=
  d.directives ++ (d.visits.filterMap Visit.include?).flatMap fun part => part.document.directives

theorem flatMap_directives_family (d : Document) :
    d.family.flatMap directives = d.allDirectives := by
  show d.directives ++ ((Node.includesOf d.nodes).map Include.document).flatMap directives = _
  rw [allDirectives, visits, Node.filterMap_include?_visitsOf, List.flatMap_map]

end Document

/-! ## What a directive brings -/

namespace Directive

/-- **The value of an attribute, without the blanks around it**, if something is left. -/
def HasTrimmed (d : Directive) (name value : String) : Prop :=
  ∃ text, d.value? name = some text ∧ trim text = value ∧ value ≠ ""

/-- **The name of the assembly that a directive gives**: that in `name`, or if there is none that in
`completion`. -/
def GivesAssembly (d : Directive) (value : String) : Prop :=
  d.HasTrimmed "name" value
    ∨ ((∀ other, ¬d.HasTrimmed "name" other) ∧ d.HasTrimmed "completion" value)

end Directive

namespace Snapshot

open NameSet

variable (schema : Schema) (lookup : String → Option String)

/-- **A directive refers to an assembly**: it is one for assemblies, and the name that it gives is
the assembly's once the environment variables in it are expanded. -/
def RefersTo (d : Directive) (assembly : String) : Prop :=
  schema.kindOf? d = some .assembly
    ∧ ∃ value, d.GivesAssembly value ∧ assembly = Variable.expand lookup value

/-- **A text in which a directive may name macros**: the assembly that it refers to, or the file
that it includes. -/
def LooksInto (d : Directive) (text : String) : Prop :=
  RefersTo schema lookup d text
    ∨ (schema.kindOf? d = some .fileInclude ∧ d.value? "file" = some text)

/-- **A snapshot that has the dependencies of a list of directives.** The names in it are those that
the directives bring, however they are spelled there. Each is spelled as where it is met first: in
the first directive that brings it, and for a macro at the place in the text that is furthest to the
left. -/
structure Collects (directives : List Directive) (s : Snapshot) : Prop where
  assemblies : ∀ name, s.assemblies.contains name = true
    ↔ ∃ d ∈ directives, ∃ assembly, RefersTo schema lookup d assembly
      ∧ sameName assembly name = true
  macros : ∀ name, s.macros.contains name = true
    ↔ ∃ d ∈ directives, ∃ text, LooksInto schema lookup d text
      ∧ ∃ other, Placeholder.form.OccursIn other text ∧ sameName other name = true
  spelledAssemblies : ∀ name, name ∈ s.assemblies.toList
    ↔ ∃ front d back, directives = front ++ d :: back ∧ RefersTo schema lookup d name
      ∧ ∀ e ∈ front, ∀ assembly, RefersTo schema lookup e assembly →
        sameName assembly name = false
  spelledMacros : ∀ name, name ∈ s.macros.toList
    ↔ ∃ front d back, directives = front ++ d :: back
      ∧ (∃ text, LooksInto schema lookup d text
        ∧ Placeholder.form.IsFirst (fun other => sameName other name) name text)
      ∧ ∀ e ∈ front, ∀ text, LooksInto schema lookup e text →
        ∀ other, Placeholder.form.OccursIn other text → sameName other name = false

variable {schema lookup}

theorem trimmedValue?_eq_some_iff {d : Directive} {name value : String} :
    trimmedValue? d name = some value ↔ d.HasTrimmed name value := by
  unfold trimmedValue? Directive.HasTrimmed
  rw [Option.filter_eq_some_iff, Option.map_eq_some_iff]
  simp only [Bool.not_eq_true', String.isEmpty_eq_false_iff]
  constructor
  · rintro ⟨⟨text, htext, htrim⟩, hne⟩
    exact ⟨text, htext, htrim, hne⟩
  · rintro ⟨text, htext, htrim, hne⟩
    exact ⟨⟨text, htext, htrim⟩, hne⟩

theorem assembly?_eq_some_iff {d : Directive} {assembly : String} :
    assembly? lookup d = some assembly
      ↔ ∃ value, d.GivesAssembly value ∧ assembly = Variable.expand lookup value := by
  have hgives : ∀ value, (trimmedValue? d "name" <|> trimmedValue? d "completion") = some value
      ↔ d.GivesAssembly value := by
    intro value
    unfold Directive.GivesAssembly
    simp only [← trimmedValue?_eq_some_iff]
    cases trimmedValue? d "name" with
    | none => simp
    | some name => simp
  unfold assembly?
  rw [Option.map_eq_some_iff]
  exact exists_congr fun value => and_congr (hgives value) eq_comm

/-! ## The snapshot as sets of lists -/

variable (schema lookup)

/-- The assembly that a directive brings, if any. -/
def broughtAssemblies (d : Directive) : List String :=
  if schema.kindOf? d = some .assembly then (assembly? lookup d).toList else []

/-- The text in which a directive may name macros. -/
def broughtText? (d : Directive) : Option String :=
  match schema.kindOf? d with
  | some .assembly => assembly? lookup d
  | some .fileInclude => d.value? "file"
  | _ => none

/-- The macros that a directive brings, in the order of the text. -/
def broughtMacros (d : Directive) : List String :=
  (broughtText? schema lookup d).toList.flatMap Placeholder.form.names

variable {schema lookup}

theorem mem_broughtAssemblies {d : Directive} {assembly : String} :
    assembly ∈ broughtAssemblies schema lookup d ↔ RefersTo schema lookup d assembly := by
  unfold broughtAssemblies RefersTo
  rw [List.mem_ite_nil_right, Option.mem_toList, assembly?_eq_some_iff]

theorem broughtText?_eq_some_iff {d : Directive} {text : String} :
    broughtText? schema lookup d = some text ↔ LooksInto schema lookup d text := by
  unfold broughtText? LooksInto RefersTo
  rw [← assembly?_eq_some_iff]
  cases schema.kindOf? d with
  | none => simp
  | some kind => cases kind <;> simp

theorem mem_broughtMacros {d : Directive} {name : String} :
    name ∈ broughtMacros schema lookup d
      ↔ ∃ text, LooksInto schema lookup d text ∧ Placeholder.form.OccursIn name text := by
  simp only [broughtMacros, List.mem_flatMap, Option.mem_toList, broughtText?_eq_some_iff,
    Placeholder.mem_names_iff]

/-- A directive refers to one assembly at most. -/
theorem find?_broughtAssemblies {d : Directive} {p : String → Bool} {name : String}
    (hp : p name = true) :
    (broughtAssemblies schema lookup d).find? p = some name ↔ RefersTo schema lookup d name := by
  rw [← mem_broughtAssemblies]
  refine ⟨List.mem_of_find?_eq_some, fun hmem => ?_⟩
  unfold broughtAssemblies at hmem ⊢
  rw [List.mem_ite_nil_right, Option.mem_toList] at hmem
  rw [if_pos hmem.1, hmem.2, Option.toList_some, List.find?_cons_of_pos hp]

theorem find?_broughtMacros {d : Directive} {p : String → Bool} {name : String}
    (hp : p name = true) :
    (broughtMacros schema lookup d).find? p = some name
      ↔ ∃ text, LooksInto schema lookup d text ∧ Placeholder.form.IsFirst p name text := by
  simp only [broughtMacros, ← broughtText?_eq_some_iff]
  cases broughtText? schema lookup d with
  | none => simp
  | some text => simp [Placeholder.find?_names_eq_some_iff, hp]

/-- **One directive** adds what it brings. -/
theorem addDirective_eq (s : Snapshot) (d : Directive) :
    s.addDirective schema lookup d
      = ⟨s.assemblies.insertMany (broughtAssemblies schema lookup d),
          s.macros.insertMany (broughtMacros schema lookup d)⟩ := by
  unfold addDirective broughtMacros broughtAssemblies broughtText?
  generalize schema.kindOf? d = kind
  cases kind with
  | none => rfl
  | some kind =>
    cases kind with
    | assembly =>
      cases assembly? lookup d with
      | none => rfl
      | some assembly =>
        simp only [if_true, Option.toList_some, List.flatMap_singleton, Placeholder.collect_eq]
        rfl
    | fileInclude =>
      cases d.value? "file" with
      | none => rfl
      | some path =>
        simp only [Option.toList_some, List.flatMap_singleton, Placeholder.collect_eq]
        rfl
    | _ => rfl

/-- **All directives** add what they bring, one after another. -/
theorem foldl_addDirective (directives : List Directive) (s : Snapshot) :
    directives.foldl (addDirective schema lookup) s
      = ⟨s.assemblies.insertMany (directives.flatMap (broughtAssemblies schema lookup)),
          s.macros.insertMany (directives.flatMap (broughtMacros schema lookup))⟩ := by
  induction directives generalizing s with
  | nil => rfl
  | cons d directives ih =>
    rw [List.foldl_cons, ih, addDirective_eq, List.flatMap_cons, List.flatMap_cons,
      insertMany_append, insertMany_append]

/-- **A snapshot is the sets of what the directives of the tree bring.** -/
theorem extract_eq (d : Document) :
    extract schema lookup d
      = ⟨ofList (d.allDirectives.flatMap (broughtAssemblies schema lookup)),
          ofList (d.allDirectives.flatMap (broughtMacros schema lookup))⟩ := by
  unfold extract
  rw [Document.flatMap_directives_family, foldl_addDirective]
  rfl

/-- The names that some directive brings. -/
theorem contains_ofList_flatMap {brought : Directive → List String} {directives : List Directive}
    {name : String} :
    (ofList (directives.flatMap brought)).contains name = true
      ↔ ∃ d ∈ directives, ∃ n ∈ brought d, sameName n name = true := by
  rw [contains_ofList]
  constructor
  · rintro ⟨n, hn, hsame⟩
    obtain ⟨d, hd, hn⟩ := List.mem_flatMap.mp hn
    exact ⟨d, hd, n, hn, hsame⟩
  · rintro ⟨d, hd, n, hn, hsame⟩
    exact ⟨n, List.mem_flatMap.mpr ⟨d, hd, hn⟩, hsame⟩

/-- The names that directives bring, each as it is spelled in the first directive that brings it. -/
theorem mem_toList_ofList_flatMap {brought : Directive → List String} {directives : List Directive}
    {name : String} :
    name ∈ (ofList (directives.flatMap brought)).toList
      ↔ ∃ front d back, directives = front ++ d :: back
        ∧ (brought d).find? (fun n => sameName n name) = some name
        ∧ ∀ e ∈ front, ∀ n ∈ brought e, sameName n name = false := by
  rw [mem_toList_ofList, List.find?_flatMap, List.findSome?_eq_some_iff]
  simp only [List.find?_eq_none, Bool.not_eq_true]

/-- **The snapshot of a document has the dependencies of all directives of its tree.** -/
theorem collects_extract (d : Document) :
    Collects schema lookup d.allDirectives (extract schema lookup d) := by
  have hself : ∀ name, sameName name name = true := fun _ => beq_self_eq_true _
  rw [extract_eq]
  refine ⟨fun name => ?_, fun name => ?_, fun name => ?_, fun name => ?_⟩
  · simp only [contains_ofList_flatMap, mem_broughtAssemblies]
  · simp only [contains_ofList_flatMap, mem_broughtMacros]
    grind
  · rw [mem_toList_ofList_flatMap]
    simp only [find?_broughtAssemblies (p := fun n => sameName n name) (hself name),
      mem_broughtAssemblies]
  · rw [mem_toList_ofList_flatMap]
    simp only [find?_broughtMacros (p := fun n => sameName n name) (hself name), mem_broughtMacros]
    grind

end Snapshot

/-! ## Directives up to their places -/

/-- A token without its place. -/
def Token.withoutSpan (t : Token) : Token := { t with span := ⟨0, 0⟩ }

/-- An attribute without the places of its parts. -/
def Attribute.withoutSpans (a : Attribute) : Attribute :=
  { a with
    name := a.name.withoutSpan
    value := a.value.map Token.withoutSpan
    span := ⟨0, 0⟩ }

namespace Directive

/-- **A directive without the places of its parts**: what is written, and not where. -/
def withoutSpans (d : Directive) : Directive :=
  { name := d.name.withoutSpan
    attributes := d.attributes.map Attribute.withoutSpans
    span := ⟨0, 0⟩ }

theorem value?_withoutSpans (d : Directive) (name : String) :
    d.withoutSpans.value? name = d.value? name := by
  have hfind : d.withoutSpans.attribute? name = (d.attribute? name).map Attribute.withoutSpans := by
    show (d.attributes.map Attribute.withoutSpans).find? _ = _
    rw [List.find?_map]
    rfl
  unfold value? valueToken?
  rw [hfind]
  cases d.attribute? name with
  | none => rfl
  | some a =>
    show (a.value.map Token.withoutSpan).map Token.text = a.value.map Token.text
    rw [Option.map_map]
    rfl

end Directive

/-- **Two trees have the same directives**, in any order and any number of times, in whatever
documents of the tree they are written and wherever they stand there. -/
def Document.SameDirectives (d e : Document) : Prop :=
  ∀ q, q ∈ d.allDirectives.map Directive.withoutSpans
    ↔ q ∈ e.allDirectives.map Directive.withoutSpans

namespace Snapshot

open NameSet

section

variable (schema : Schema) (lookup : String → Option String)

theorem assembly?_withoutSpans (d : Directive) :
    assembly? lookup d.withoutSpans = assembly? lookup d := by
  unfold assembly? trimmedValue?
  rw [d.value?_withoutSpans, d.value?_withoutSpans]

/-- **What a directive brings does not depend on where it stands.** -/
theorem broughtAssemblies_withoutSpans (d : Directive) :
    broughtAssemblies schema lookup d.withoutSpans = broughtAssemblies schema lookup d := by
  unfold broughtAssemblies
  rw [assembly?_withoutSpans]
  rfl

theorem broughtMacros_withoutSpans (d : Directive) :
    broughtMacros schema lookup d.withoutSpans = broughtMacros schema lookup d := by
  unfold broughtMacros broughtText?
  rw [assembly?_withoutSpans, d.value?_withoutSpans]
  rfl

end

/-- The keys of the names that directives bring, told from the directives without their places. -/
theorem mem_keys_ofList_flatMap {brought : Directive → List String}
    (h : ∀ d, brought d.withoutSpans = brought d) {directives : List Directive} {key : List Char} :
    key ∈ (ofList (directives.flatMap brought)).keys
      ↔ ∃ q ∈ directives.map Directive.withoutSpans, key ∈ (brought q).map fold := by
  have hbrought : directives.flatMap brought
      = (directives.map Directive.withoutSpans).flatMap brought := by
    rw [List.flatMap_map]
    exact congrArg (directives.flatMap ·) (funext fun d => (h d).symm)
  rw [mem_keys_ofList, hbrought, List.map_flatMap, List.mem_flatMap]

/-- **Trees with the same directives bring the same keys.** -/
theorem mem_keys_congr {brought : Directive → List String}
    (h : ∀ d, brought d.withoutSpans = brought d) {d e : Document} (hsame : d.SameDirectives e)
    (key : List Char) :
    key ∈ (ofList (d.allDirectives.flatMap brought)).keys
      ↔ key ∈ (ofList (e.allDirectives.flatMap brought)).keys := by
  rw [mem_keys_ofList_flatMap h, mem_keys_ofList_flatMap h]
  exact exists_congr fun q => and_congr_left fun _ => hsame q

/-- **A snapshot has exactly the dependencies of the whole tree**, each spelled as where it is met
first. So two trees with the same directives, however these are ordered, repeated and distributed
over the documents of the trees, have equal snapshots, and no change is found from either of them to
the other. -/
theorem extract_exact (schema : Schema) (lookup : String → Option String) (d : Document) :
    Collects schema lookup d.allDirectives (extract schema lookup d)
      ∧ ∀ e : Document, d.SameDirectives e →
        (extract schema lookup d).sameNames (extract schema lookup e) = true
          ∧ (extract schema lookup d).diff? (some (extract schema lookup e)) = none
          ∧ (extract schema lookup e).diff? (some (extract schema lookup d)) = none := by
  refine ⟨collects_extract d, fun e hsame => ?_⟩
  have hd := ordered_extract schema lookup d
  have he := ordered_extract schema lookup e
  rw [extract_eq] at hd he ⊢
  rw [extract_eq (d := e)]
  have hassemblies := mem_keys_congr (broughtAssemblies_withoutSpans schema lookup) hsame
  have hmacros := mem_keys_congr (broughtMacros_withoutSpans schema lookup) hsame
  refine ⟨?_, diff?_eq_none_iff.mpr ⟨hassemblies, fun key => (hmacros key).mp⟩,
    diff?_eq_none_iff.mpr ⟨fun key => (hassemblies key).symm, fun key => (hmacros key).mpr⟩⟩
  unfold sameNames
  rw [Bool.and_eq_true, sameNames_eq_true_iff hd.1 he.1, sameNames_eq_true_iff hd.2 he.2]
  exact ⟨hassemblies, hmacros⟩

/-- A template that refers to an assembly, with blanks around its name, and to two more in a document
that it includes. The name of the last one is blank, and what would complete it counts. -/
def referringInside : Document :=
  (((Builder.new 0 "outer.tt").directive "assembly" [("name", "\t A.dll ")]).includeDocument
    "$(Lib)inner.tt"
    (((Builder.new 1 "inner.tt").directive "assembly" [("name", "%ROOT%$(lib).dll")]).directive
      "assembly" [("name", "  "), ("completion", " C.dll")]).build).build

/-- The same references the other way round, one of them twice. -/
def referringOutside : Document :=
  (((((Builder.new 0 "outer.tt").text "// ").directive "assembly"
    [("name", "  "), ("completion", " C.dll")]).directive "assembly"
    [("name", "%ROOT%$(lib).dll")]).includeDocument "$(Lib)inner.tt"
    (((Builder.new 1 "inner.tt").directive "assembly" [("name", "\t A.dll ")]).directive "assembly"
      [("name", "\t A.dll ")]).build).build

/-- Both templates depend on the same names, but what is met first is not spelled alike. -/
theorem extract_exact_referring :
    referringInside.SameDirectives referringOutside
      ∧ Collects .standard (fun _ => some "b") referringInside.allDirectives
        ⟨⟨["A.dll", "b$(lib).dll", "C.dll"]⟩, ⟨["Lib"]⟩⟩
      ∧ Collects .standard (fun _ => some "b") referringOutside.allDirectives
        ⟨⟨["A.dll", "b$(lib).dll", "C.dll"]⟩, ⟨["lib"]⟩⟩
      ∧ (⟨⟨["A.dll", "b$(lib).dll", "C.dll"]⟩, ⟨["Lib"]⟩⟩ : Snapshot).diff?
        (some ⟨⟨["A.dll", "b$(lib).dll", "C.dll"]⟩, ⟨["lib"]⟩⟩) = none := by
  have hdirectives :
      (∀ q ∈ referringInside.allDirectives.map Directive.withoutSpans,
        q ∈ referringOutside.allDirectives.map Directive.withoutSpans)
      ∧ ∀ q ∈ referringOutside.allDirectives.map Directive.withoutSpans,
        q ∈ referringInside.allDirectives.map Directive.withoutSpans := by
    decide +kernel
  have hsame : referringInside.SameDirectives referringOutside :=
    fun q => ⟨hdirectives.1 q, hdirectives.2 q⟩
  have hinside : extract .standard (fun _ => some "b") referringInside
      = ⟨⟨["A.dll", "b$(lib).dll", "C.dll"]⟩, ⟨["Lib"]⟩⟩ := by
    decide +kernel
  have houtside : extract .standard (fun _ => some "b") referringOutside
      = ⟨⟨["A.dll", "b$(lib).dll", "C.dll"]⟩, ⟨["lib"]⟩⟩ := by
    decide +kernel
  obtain ⟨hcollects, hequal⟩ := extract_exact .standard (fun _ => some "b") referringInside
  obtain ⟨-, hdiff, -⟩ := hequal _ hsame
  have hcollects' := (extract_exact .standard (fun _ => some "b") referringOutside).1
  rw [hinside] at hcollects hdiff
  rw [houtside] at hcollects' hdiff
  exact ⟨hsame, hcollects, hcollects', hdiff⟩

end Snapshot

end TextTemplate
