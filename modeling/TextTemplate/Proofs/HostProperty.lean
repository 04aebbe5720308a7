import TextTemplate.Proofs.ClassHeader
import TextTemplate.Proofs.QuickFixes
import TextTemplate.Proofs.SourceMap

/-!
# The property of the host

A template that wants to speak to its host says so in the attribute `hostspecific` of a template
directive. Two parts of the program read the value. A check asks the schema whether its rule has an
entry for the value, and the rule looks at the value without the blanks around it. The generated
class has the property of the host if the value, as it is written, spells `true`.

So the two agree on which spellings of `true` there are, and differ on blanks: a value such as
`" true "` passes the check as a spelling of `true` and is then not taken for one. Among values that
a check accepts there is no other difference. This rests on two facts about texts: no letter is
blank, so that folding and trimming may change places (`fold_trim`), and trimming leaves a text as
it is or makes it shorter (`trimChars_sublist`).
-/

namespace TextTemplate

namespace Text

/-! ## Trimming and folding -/

/-- No character from `A` to `z` is blank. -/
theorem isBlank_eq_false {c : Char} (hlow : 65 ≤ c.toNat) (hhigh : c.toNat ≤ 122) :
    isBlank c = false := by
  simp only [isBlank, inRanges, blankRanges, List.any_cons, List.any_nil, Bool.or_eq_false_iff,
    Bool.and_eq_false_iff, decide_eq_false_iff_not, and_true]
  omega

/-- So a character is blank in lower case exactly if it is blank. -/
theorem isBlank_toLower (c : Char) : isBlank c.toLower = isBlank c := by
  unfold Char.toLower
  split
  · rename_i h
    obtain ⟨hlow, hhigh⟩ := h
    have hlow' : 65 ≤ c.toNat := UInt32.le_iff_toNat_le.mp hlow
    have hhigh' : c.toNat ≤ 90 := UInt32.le_iff_toNat_le.mp hhigh
    have hnat : (c.val + ('a'.val - 'A'.val)).toNat = c.toNat + 32 := by
      rw [UInt32.toNat_add]
      exact Nat.mod_eq_of_lt (by simp; omega)
    rw [isBlank_eq_false hlow' (by omega)]
    refine isBlank_eq_false ?_ ?_
    · show 65 ≤ (c.val + ('a'.val - 'A'.val)).toNat
      omega
    · show (c.val + ('a'.val - 'A'.val)).toNat ≤ 122
      omega
  · rfl

/-- Characters may be trimmed before or behind a change that keeps blanks. -/
theorem trimChars_map {f : Char → Char} (hf : ∀ c, isBlank (f c) = isBlank c) (cs : List Char) :
    trimChars (cs.map f) = (trimChars cs).map f := by
  have hblank : isBlank ∘ f = isBlank := funext hf
  unfold trimChars
  rw [List.dropWhile_map, hblank, ← List.map_reverse, List.dropWhile_map, hblank, List.map_reverse]

/-- **The key of a trimmed text is the trimmed key.** -/
theorem fold_trim (s : String) : fold (trim s) = trimChars (fold s) := by
  rw [fold, fold, trimChars_map isBlank_toLower, trim, String.toList_ofList]

/-- Trimming takes characters away and changes none. -/
theorem trimChars_sublist (cs : List Char) : (trimChars cs).Sublist cs := by
  have hback : (trimChars cs).Sublist (cs.dropWhile isBlank) := by
    have h := (List.dropWhile_sublist isBlank (l := (cs.dropWhile isBlank).reverse)).reverse
    rw [List.reverse_reverse] at h
    exact h
  exact hback.trans (List.dropWhile_sublist _)

/-- **A text spells a name that has no blanks around it** exactly if it does so trimmed, and has no
blanks around it itself. -/
theorem sameName_iff_trim {name : String} (hname : trim name = name) (value : String) :
    sameName value name = true ↔ sameName name (trim value) = true ∧ trim value = value := by
  simp only [sameName, beq_iff_eq]
  constructor
  · intro h
    have htrim : fold (trim value) = fold value := by
      rw [fold_trim, h, ← fold_trim, hname]
    have hlength : (trimChars value.toList).length = value.toList.length := by
      have hfold := congrArg List.length htrim
      rw [fold, fold, trim, String.toList_ofList, List.length_map, List.length_map] at hfold
      exact hfold
    refine ⟨(htrim.trans h).symm, ?_⟩
    rw [trim, (trimChars_sublist _).eq_of_length hlength, String.ofList_toList]
  · rintro ⟨hsame, htrim⟩
    rw [hsame, htrim]

end Text

/-! ## What a check accepts -/

/-- **The entry of a rule that a value is taken for**: the first that the value without the blanks
around it spells. -/
def AttributeRule.matching? (rule : AttributeRule) (value : String) : Option String :=
  rule.suggestions.find? fun entry => Text.sameName entry (Text.trim value)

namespace Validation

variable {schema : Schema} {mode : Mode} {d : Document}

/-- **No value of the tree has a problem**: a check of each of its documents gives no problem of
this kind. -/
def ValuesAccepted (schema : Schema) (mode : Mode) (d : Document) : Prop :=
  ∀ member ∈ d.family, ∃ problems, validate schema mode Stop.never member = .ok problems
    ∧ ∀ x ∈ problems, x.kind ≠ .invalidAttributeValue

/-- The same, said of the problems with their places. -/
theorem valuesAccepted_iff :
    ValuesAccepted schema mode d
      ↔ ∀ member ∈ d.family, ∀ x ∈ (located schema mode member).map Prod.snd,
          x.kind ≠ .invalidAttributeValue := by
  refine forall₂_congr fun member _ => ?_
  rw [validate_eq_map_located]
  constructor
  · rintro ⟨problems, ⟨⟩, h⟩
    exact h
  · intro h
    exact ⟨_, rfl, h⟩

/-- An attribute without a problem is accepted. -/
theorem acceptedBy_of_attributeProblem?_eq_none {directive : Directive} {a : Attribute}
    (h : attributeProblem? schema d directive a = none) :
    a.AcceptedBy schema directive.name.text := by
  intro value hvalue
  unfold attributeProblem? at h
  rw [hvalue] at h
  cases herror : a.valueError with
  | some message =>
    rw [herror] at h
    cases h
  | none =>
    rw [herror] at h
    refine ⟨rfl, fun rule hrule => ?_⟩
    have hvalid := Option.filter_eq_none_iff.mp (Option.map_eq_none_iff.mp h) rule hrule
    rw [Bool.not_eq_true', Bool.not_eq_false] at hvalid
    exact hvalid

/-- **The attributes of a tree whose values have no problem are accepted.** -/
theorem ValuesAccepted.acceptedBy (h : ValuesAccepted schema mode d) {v : Visit} (hv : v ∈ d.visits)
    {directive : Directive} (hnode : v.node = .directive directive) {a : Attribute}
    (ha : a ∈ directive.attributes) : a.AcceptedBy schema directive.name.text := by
  obtain ⟨member, hmember, -, hmem⟩ := Document.exists_of_mem_visits hv
  rw [hnode] at hmem
  refine acceptedBy_of_attributeProblem?_eq_none (d := member) ?_
  cases hproblem : attributeProblem? schema member directive a with
  | none => rfl
  | some x =>
    -- the problem would be one of the check of the document that holds the directive
    obtain ⟨position, hposition⟩ := List.mem_iff_getElem?.mp hmem
    obtain ⟨index, hindex⟩ := List.mem_iff_getElem?.mp ha
    have hlocated : (⟨position, some index⟩, x) ∈ located schema mode member := by
      refine List.mem_flatMap.mpr ⟨(.directive directive, position), ?_, ?_⟩
      · exact List.mk_mem_zipIdx_iff_getElem?.mpr hposition
      · refine List.mem_append_right _ (List.mem_filterMap.mpr ⟨(a, index), ?_, ?_⟩)
        · exact List.mk_mem_zipIdx_iff_getElem?.mpr hindex
        · rw [attributeAt?, hproblem]
          rfl
    exact absurd (exists_of_attributeProblem?_eq hproblem).1
      (valuesAccepted_iff.mp h member hmember x (List.mem_map_of_mem hlocated))

end Validation

namespace Generation

open Visit

/-! ## The line of the property -/

/-- The pieces in front of the place of the property. -/
def beforeHost (schema : Schema) (mode : Mode) (nodes : List Visit) : List Piece :=
  beforeHeader schema mode nodes ++ [.fixed headerStart] ++ baseClasses schema nodes
    ++ [.fixed headerEnd, helperLine]

/-- **A class has the property of the host** if its line is the one behind the helper's. -/
def HasHostLine (schema : Schema) (mode : Mode) (d : Document) (unit : GeneratedUnit) : Prop :=
  ∃ rest, unit.text
    = Piece.textOf (beforeHost schema mode d.visits) ++ (hostProperty ++ "\n") ++ rest

/-- **The layout of a class around the place of the property.** -/
theorem layout_eq_around_host (schema : Schema) (mode : Mode) (d : Document) :
    layout schema mode d
      = beforeHost schema mode d.visits
        ++ ((if hasHost schema d.visits then [line hostProperty] else [])
          ++ afterHost schema mode d.visits) := by
  rw [layout_eq_around_baseClasses, beforeHost, afterHeader, List.append_assoc _ [_, _]]
  rfl

/-- The line of a parameter, if it has one, starts with an attribute. -/
theorem property_eq_nil_or (schema : Schema) (v : Visit) :
    v.property schema = [] ∨ ∃ ps, v.property schema
      = .fixed "[System.CodeDom.Compiler.GeneratedCodeAttribute] private global::" :: ps := by
  unfold property
  split
  · exact Or.inl rfl
  · split
    · exact Or.inr ⟨_, rfl⟩
    · exact Or.inl rfl

/-- So the lines of parameters start with a bracket, if what follows on them does. -/
theorem head?_textOf_parameters (schema : Schema) {back : List Piece}
    (hback : (Piece.textOf back).toList.head? = some '[') (nodes : List Visit) :
    (Piece.textOf (nodes.flatMap (property schema) ++ back)).toList.head? = some '[' := by
  have hfirst : "[System.CodeDom.Compiler.GeneratedCodeAttribute] private global::".toList.head?
      = some '[' := by
    decide +kernel
  induction nodes with
  | nil => exact hback
  | cons v nodes ih =>
    rw [List.flatMap_cons]
    rcases property_eq_nil_or schema v with hnil | ⟨ps, hps⟩
    · rw [hnil, List.nil_append]
      exact ih
    · rw [hps, List.cons_append, List.cons_append, Piece.textOf, String.toList_append,
        List.head?_append, Piece.text, hfirst, Option.some_or]

/-- **What follows on the place of the property starts with a bracket**: a parameter or the method.
-/
theorem head?_textOf_afterHost (schema : Schema) (mode : Mode) (nodes : List Visit) :
    (Piece.textOf (afterHost schema mode nodes)).toList.head? = some '[' := by
  have hmethod : methodLine.text.toList.head? = some '[' := by decide +kernel
  refine head?_textOf_parameters schema ?_ nodes
  rw [Piece.textOf, String.toList_append, List.head?_append, hmethod, Option.some_or]

/-- **The class of a layout has the property exactly if the template asks for a host.** -/
theorem hasHostLine_ofPieces_iff (schema : Schema) (mode : Mode) (d : Document) :
    HasHostLine schema mode d (.ofPieces (layout schema mode d))
      ↔ hasHost schema d.visits = true := by
  have htext : (GeneratedUnit.ofPieces (layout schema mode d)).text
      = Piece.textOf (beforeHost schema mode d.visits)
        ++ Piece.textOf ((if hasHost schema d.visits then [line hostProperty] else [])
          ++ afterHost schema mode d.visits) := by
    rw [← Piece.textOf_append, ← layout_eq_around_host]
    rfl
  unfold HasHostLine
  rw [htext]
  cases hasHost schema d.visits with
  | true =>
    refine iff_of_true ⟨Piece.textOf (afterHost schema mode d.visits), ?_⟩ rfl
    rw [String.append_assoc]
    rfl
  | false =>
    refine iff_of_false ?_ Bool.false_ne_true
    rintro ⟨rest, hrest⟩
    -- the next line starts with a bracket, and that of the property does not
    have hbracket := head?_textOf_afterHost schema mode d.visits
    have hletter : (hostProperty ++ "\n").toList.head? = some 'p' := by decide +kernel
    have hchars := congrArg String.toList hrest
    rw [String.append_assoc, String.toList_append, String.toList_append,
      List.append_cancel_left_eq] at hchars
    have hheads := hbracket.symm.trans (congrArg List.head? hchars)
    rw [String.toList_append, List.head?_append, hletter, Option.some_or] at hheads
    exact absurd (Option.some.inj hheads) (by decide)

/-! ## The value that decides -/

/-- The template directive that decides about the host: the last one. -/
def hostDirective? (schema : Schema) (nodes : List Visit) : Option Directive :=
  (nodes.filterMap (directive? schema .template)).getLast?

/-- **The value that decides about the host**, as it is written. -/
def hostValue? (schema : Schema) (nodes : List Visit) : Option String :=
  (hostDirective? schema nodes).bind (·.value? "hostspecific")

/-- **The entry of the rule that this value is taken for** by a check. -/
def hostMatch? (schema : Schema) (nodes : List Visit) : Option String :=
  (hostDirective? schema nodes).bind fun directive =>
    (directive.value? "hostspecific").bind fun value =>
      (schema.attribute? directive.name.text "hostspecific").bind (·.matching? value)

/-- The rule of the standard schema for the value. -/
def hostRule : AttributeRule where
  name := "hostspecific"
  rule := .oneOf ["true", "false", "trueFromBase"]

/-- **The standard schema has this rule for every template directive**, in whatever letters its name
and that of the attribute are written. -/
theorem attribute?_standard_of_kindOf? {directive : Directive}
    (h : Schema.standard.kindOf? directive = some .template) {name : String}
    (hname : Text.sameName name "hostspecific" = true) :
    Schema.standard.attribute? directive.name.text name = some hostRule := by
  obtain ⟨rule, hrule, hkind⟩ := Option.map_eq_some_iff.mp h
  have hrules : ∀ rule ∈ Schema.standard.directives, rule.kind = .template →
      rule.attributes.find? (fun a => Text.fold a.name == Text.fold "hostspecific")
        = some hostRule := by
    decide +kernel
  rw [Schema.attribute?, hrule, Option.bind_some, DirectiveRule.attribute?]
  simp only [Text.sameName, beq_iff_eq] at hname ⊢
  rw [hname]
  exact hrules rule (List.mem_of_find?_eq_some hrule) hkind

/-- A value is taken for `true` exactly if it spells it between blanks. -/
theorem matching?_hostRule_eq_some_true_iff (value : String) :
    hostRule.matching? value = some "true" ↔ Text.sameName "true" (Text.trim value) = true := by
  have hsuggestions : hostRule.suggestions = ["true", "false", "trueFromBase"] := rfl
  rw [AttributeRule.matching?, hsuggestions]
  constructor
  · intro h
    exact List.find?_some (p := fun entry => Text.sameName entry (Text.trim value)) h
  · intro h
    rw [List.find?_cons, h]

/-- A value that the rule accepts has an entry. -/
theorem exists_matching?_of_isValid {rule : AttributeRule} {values : List String}
    (hrule : rule.rule = .oneOf values) {value : String} (h : rule.isValid value = true) :
    ∃ entry ∈ values, rule.matching? value = some entry := by
  have hsuggestions : rule.suggestions = values := by
    rw [AttributeRule.suggestions, hrule]
  rw [AttributeRule.isValid, hrule] at h
  obtain ⟨entry, hentry⟩ := Option.isSome_iff_exists.mp
    ((List.find?_isSome).mpr (List.any_eq_true.mp h))
  rw [AttributeRule.matching?, hsuggestions]
  exact ⟨entry, List.mem_of_find?_eq_some hentry, hentry⟩

/-- The deciding directive is a template directive of the tree. -/
theorem exists_of_hostDirective?_eq_some {schema : Schema} {nodes : List Visit}
    {directive : Directive} (h : hostDirective? schema nodes = some directive) :
    ∃ v ∈ nodes, v.directive? schema .template = some directive :=
  List.mem_filterMap.mp (List.mem_of_getLast? h)

/-- The schema gives such a directive its kind. -/
theorem kindOf?_of_directive? {schema : Schema} {kind : DirectiveKind} {v : Visit}
    {directive : Directive} (h : v.directive? schema kind = some directive) :
    schema.kindOf? directive = some kind :=
  beq_iff_eq.mp (Option.filter_eq_some_iff.mp h).2

/-- The entry of the value that decides, in the standard schema. -/
theorem hostMatch?_standard (nodes : List Visit) :
    hostMatch? .standard nodes = (hostValue? .standard nodes).bind hostRule.matching? := by
  unfold hostMatch? hostValue?
  cases hdirective : hostDirective? .standard nodes with
  | none => rfl
  | some directive =>
    obtain ⟨v, -, hv⟩ := exists_of_hostDirective?_eq_some hdirective
    have hrule := attribute?_standard_of_kindOf? (kindOf?_of_directive? hv)
      (show Text.sameName "hostspecific" "hostspecific" = true from beq_self_eq_true _)
    simp only [Option.bind_some, hrule]

/-- **The entry is `true`** exactly if the value spells it between blanks. -/
theorem hostMatch?_eq_some_true_iff (nodes : List Visit) :
    hostMatch? .standard nodes = some "true"
      ↔ ∃ value, hostValue? .standard nodes = some value
        ∧ Text.sameName "true" (Text.trim value) = true := by
  rw [hostMatch?_standard, Option.bind_eq_some_iff]
  simp only [matching?_hostRule_eq_some_true_iff]

/-- **Whether there is a host depends on the value as it is written.** -/
theorem hasHost_eq_true_iff (schema : Schema) (nodes : List Visit) :
    hasHost schema nodes = true
      ↔ ∃ value, hostValue? schema nodes = some value ∧ Text.sameName value "true" = true := by
  unfold hasHost hostValue? hostDirective?
  cases (nodes.filterMap (directive? schema .template)).getLast? with
  | none => simp
  | some directive =>
    rw [Option.any_some, Option.bind_some, asksForHost, Option.any_eq_true]

/-- **The value that decides has an entry**, if no value of the tree has a problem. -/
theorem exists_hostMatch? {mode : Mode} {d : Document}
    (h : Validation.ValuesAccepted .standard mode d) {value : String}
    (hvalue : hostValue? .standard d.visits = some value) :
    ∃ entry ∈ ["true", "false", "trueFromBase"], hostMatch? .standard d.visits = some entry := by
  obtain ⟨directive, hdirective, hread⟩ := Option.bind_eq_some_iff.mp hvalue
  obtain ⟨v, hv, hkind⟩ := exists_of_hostDirective?_eq_some hdirective
  obtain ⟨token, htoken, rfl⟩ := Option.map_eq_some_iff.mp hread
  obtain ⟨a, ha, htoken⟩ := Option.bind_eq_some_iff.mp htoken
  have haccepted := h.acceptedBy hv (Visit.node_of_directive? hkind) (List.mem_of_find?_eq_some ha)
  have hname : Text.sameName a.name.text "hostspecific" = true :=
    List.find?_some (p := fun a : Attribute => Text.sameName a.name.text "hostspecific") ha
  have hvalid := (haccepted token htoken).2 hostRule
    (attribute?_standard_of_kindOf? (kindOf?_of_directive? hkind) hname)
  have hrule : hostRule.rule = .oneOf ["true", "false", "trueFromBase"] := rfl
  obtain ⟨entry, hmem, hentry⟩ := exists_matching?_of_isValid hrule hvalid
  refine ⟨entry, hmem, ?_⟩
  rw [hostMatch?_standard, hvalue, Option.bind_some]
  exact hentry

/-- **The check and the class agree on the host, up to blanks.** For every tree of documents in
which a check, in any mode, finds no value with a problem, and for every mode of the class:

* the value that decides about the host, if there is one, is taken by the check for one of the three
  entries of the rule, and for `true` exactly if it spells it between blanks;
* the class has the property of the host exactly if this entry is `true` and no blanks are written
  around the value.

So a value that is taken for `true` and has blanks around it is accepted and has no effect. -/
theorem generate_hasHostLine_iff (checkMode mode : Mode) (d : Document)
    (h : Validation.ValuesAccepted .standard checkMode d) :
    ∃ unit, generate .standard mode Stop.never d = .ok unit
      ∧ (∀ value, hostValue? .standard d.visits = some value →
          ∃ entry ∈ ["true", "false", "trueFromBase"], hostMatch? .standard d.visits = some entry)
      ∧ (hostMatch? .standard d.visits = some "true"
        ↔ ∃ value, hostValue? .standard d.visits = some value
          ∧ Text.sameName "true" (Text.trim value) = true)
      ∧ (HasHostLine .standard mode d unit
        ↔ hostMatch? .standard d.visits = some "true"
          ∧ ∀ value, hostValue? .standard d.visits = some value → Text.trim value = value) := by
  refine ⟨_, generate_eq_ofPieces_layout .standard mode d, fun _ => exists_hostMatch? h,
    hostMatch?_eq_some_true_iff d.visits, ?_⟩
  have htrue : Text.trim "true" = "true" := by decide +kernel
  rw [hasHostLine_ofPieces_iff, hasHost_eq_true_iff, hostMatch?_eq_some_true_iff]
  constructor
  · rintro ⟨value, hvalue, hsame⟩
    obtain ⟨htrimmed, hblanks⟩ := (Text.sameName_iff_trim htrue value).mp hsame
    refine ⟨⟨value, hvalue, htrimmed⟩, fun other hother => ?_⟩
    rw [← Option.some.inj (hvalue.symm.trans hother)]
    exact hblanks
  · rintro ⟨⟨value, hvalue, htrimmed⟩, hblanks⟩
    exact ⟨value, hvalue, (Text.sameName_iff_trim htrue value).mpr ⟨htrimmed, hblanks value hvalue⟩⟩

/-- A template without a host that includes one with a host, in other letters. -/
def nestedHost : Document :=
  (((Builder.new 0 "page.tt").directive "template" [("hostspecific", "false")]).includeDocument
    "inner.tt"
    ((Builder.new 1 "inner.tt").directive "Template" [("hostSpecific", "TRUE")]).build).build

/-- The included directive is the last one, and decides. -/
theorem generate_hasHostLine_iff_nestedHost :
    Validation.ValuesAccepted .standard .designTime nestedHost
      ∧ hostValue? .standard nestedHost.visits = some "TRUE"
      ∧ ∃ unit, generate .standard (.preprocessedIn "App") Stop.never nestedHost = .ok unit
        ∧ HasHostLine .standard (.preprocessedIn "App") nestedHost unit := by
  have haccepted : Validation.ValuesAccepted .standard .designTime nestedHost :=
    Validation.valuesAccepted_iff.mpr (by decide +kernel)
  have hvalue : hostValue? .standard nestedHost.visits = some "TRUE" := by decide +kernel
  obtain ⟨unit, hunit, -, hentry, hline⟩ :=
    generate_hasHostLine_iff .designTime (.preprocessedIn "App") nestedHost haccepted
  refine ⟨haccepted, hvalue, unit, hunit, hline.mpr ⟨hentry.mpr ⟨_, hvalue, ?_⟩, ?_⟩⟩
  · decide +kernel
  · rw [hvalue]
    rintro _ ⟨⟩
    decide +kernel

/-- A template that asks for a host with blanks around the value. -/
def paddedHost : Document :=
  ((Builder.new 0 "host.tt").directive "template" [("hostspecific", " true ")]).build

/-- **The check and the class may disagree**: the check has no problem with it and takes its value
for `true`, and the class has no property of the host. -/
theorem not_hasHostLine_paddedHost :
    Validation.validate .standard .designTime Stop.never paddedHost = .ok []
      ∧ paddedHost.family = [paddedHost]
      ∧ hostMatch? .standard paddedHost.visits = some "true"
      ∧ ∃ unit, generate .standard .designTime Stop.never paddedHost = .ok unit
        ∧ ¬HasHostLine .standard .designTime paddedHost unit := by
  have hproblems : Validation.located .standard .designTime paddedHost = [] := by decide +kernel
  have hhost : ¬hasHost .standard paddedHost.visits = true := by decide +kernel
  refine ⟨?_, rfl, by decide +kernel, _, generate_eq_ofPieces_layout .., ?_⟩
  · rw [Validation.validate_eq_map_located, hproblems]
    rfl
  · exact fun h => hhost ((hasHostLine_ofPieces_iff ..).mp h)

end Generation

end TextTemplate
