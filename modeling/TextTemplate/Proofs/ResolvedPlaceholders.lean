import TextTemplate.Proofs.SnapshotChanges

/-!
# Placeholders are collected and replaced

Two things are done with the placeholders of a text: their names are put into a set, and they are
replaced by values. Both are done by a library that searches texts, and both can be said without the
search, for any library that keeps to its documentation and any class of characters for names.

What is collected are the names of the placeholders that stand anywhere in the text, each spelled as
in the one furthest to the left unless the set has a spelling already (`mem_toList_collectAll`).

For what is replaced the text is cut at its placeholders. There is only one way to cut it so that no
placeholder is left over in the stretches between (`isCut_iff`), and a text with its placeholders
replaced is the same cut filled with the values (`toList_resolveWith`). The cut does not depend on the
values, so these are never looked into for more placeholders; and it has just the names that are
collected, so no other macro matters.
-/

namespace TextTemplate.Placeholder

open Text NameSet Reference Reference.Form

variable {library : Library} {word : WordClass}

/-! ## Collecting -/

/-- The set after a number of texts has been looked through. -/
def collectAll (library : Library) (word : WordClass) (texts : List String) (found : NameSet) :
    NameSet :=
  texts.foldl (fun found text => collectWith library word text found) found

theorem collectAll_eq (hlibrary : library.Documented) (texts : List String) (found : NameSet) :
    collectAll library word texts found
      = found.insertMany (texts.flatMap (formOf word).names) := by
  induction texts generalizing found with
  | nil => rfl
  | cons text texts ih =>
    rw [List.flatMap_cons, insertMany_append, ← collectWith_eq hlibrary]
    exact ih (collectWith library word text found)

/-- **How the names are spelled after texts have been looked through**: as before, or as in the
placeholder that is met first, in the first text that has one of the name and there furthest to the
left. -/
theorem mem_toList_collectAll (hlibrary : library.Documented) {texts : List String}
    {found : NameSet} (h : found.Ordered) {name : String} :
    name ∈ (collectAll library word texts found).toList
      ↔ name ∈ found.toList ∨ (found.contains name = false
        ∧ ∃ front text back, texts = front ++ text :: back
          ∧ (formOf word).IsFirst (fun other => sameName other name) name text
          ∧ ∀ t ∈ front, ∀ other, (formOf word).OccursIn other t → sameName other name = false) := by
  have hself : sameName name name = true := beq_self_eq_true _
  rw [collectAll_eq hlibrary, mem_toList_insertMany h, Bool.eq_false_iff, ne_eq,
    contains_eq_true_iff, List.find?_flatMap, List.findSome?_eq_some_iff]
  simp only [find?_names_eq_some_iff, hself, true_and, List.find?_eq_none, mem_names_iff,
    Bool.not_eq_true]

/-- A text without the two signs that open a placeholder has none. -/
theorem free_of_unopened {text : String} (h : ¬['$', '('] <:+: text.toList) :
    (formOf word).Free text.toList :=
  free_of_opensIn_eq_false (occursIn_eq_false_iff.mpr h)

/-- **The names of the placeholders are collected, and nothing else**, for every class of characters
that has none of the signs, and through every library that keeps to its documentation. Whatever set
one starts with, in the end it has the names that it had and those of all placeholders that stand
anywhere in the text, however they are nested or broken off. A name that was there keeps its
spelling, and a new one is spelled as in the placeholder furthest to the left. A text without an
opening leaves the set as it is. If more texts are looked through, the first of them that has the
name counts. What is used gives the same as any such library, for the characters that are used. -/
theorem collect_exact (hlibrary : library.Documented) (word : WordClass) {found : NameSet}
    (h : found.Made) (text : String) :
    (∀ name, (collectWith library word text found).contains name = true
        ↔ found.contains name = true
          ∨ ∃ other, (formOf word).OccursIn other text ∧ sameName other name = true)
      ∧ (∀ name, name ∈ (collectWith library word text found).toList
        ↔ name ∈ found.toList ∨ (found.contains name = false
          ∧ (formOf word).IsFirst (fun other => sameName other name) name text))
      ∧ (¬['$', '('] <:+: text.toList → collectWith library word text found = found)
      ∧ (collectWith library word text found).Made
      ∧ (∀ texts name, name ∈ (collectAll library word texts found).toList
        ↔ name ∈ found.toList ∨ (found.contains name = false
          ∧ ∃ front t back, texts = front ++ t :: back
            ∧ (formOf word).IsFirst (fun other => sameName other name) name t
            ∧ ∀ u ∈ front, ∀ other, (formOf word).OccursIn other u → sameName other name = false))
      ∧ collect text found = collectWith library .unicode text found := by
  have hself : ∀ name, sameName name name = true := fun _ => beq_self_eq_true _
  have heq : collectWith library word text found = found.insertMany ((formOf word).names text) :=
    collectWith_eq hlibrary text found
  refine ⟨fun name => ?_, fun name => ?_, fun hnone => ?_, ?_,
    fun texts name => mem_toList_collectAll hlibrary h.ordered, ?_⟩
  · rw [heq, contains_eq_true_iff, mem_keys_insertMany, contains_eq_true_iff]
    simp only [List.mem_map, mem_names_iff, sameName, beq_iff_eq]
  · rw [heq, mem_toList_insertMany h.ordered, Bool.eq_false_iff, ne_eq, contains_eq_true_iff,
      find?_names_eq_some_iff, hself, eq_self, true_and]
  · rw [heq, (free_of_unopened hnone).names]
    rfl
  · rw [heq]
    exact h.insertMany _
  · rw [collect_eq, collectWith_eq hlibrary]

/-- A text in which one placeholder stands inside the brackets of another, and one follows a start
that is broken off and comes once more in another spelling. -/
def nestedText : String := "$($(A))$(a b$(Cé)$(CÉ)$(cé)$("

/-- All are found behind the false starts. The first one is known already and stays as it was; of
the others the first spelling is taken, and another accent is another name. -/
theorem collect_exact_nested :
    (ofList ["a"]).Made ∧ (collect nestedText (ofList ["a"])).toList = ["a", "CÉ", "Cé"]
      ∧ form.IsFirst (fun other => sameName other "Cé") "Cé" nestedText
      ∧ ∃ other, form.OccursIn other nestedText ∧ sameName other "cÉ" = true := by
  have hmade : (ofList ["a"]).Made := .ofList _
  have hset : collect nestedText (ofList ["a"]) = ⟨["a", "CÉ", "Cé"]⟩ := by decide +kernel
  obtain ⟨hcontains, hspelled, -, -, -, hused⟩ :=
    collect_exact Library.documented_scanning .unicode hmade nestedText
  rw [← hused, hset] at hcontains hspelled
  refine ⟨hmade, by rw [hset]; rfl, ?_, ?_⟩
  · exact (((hspelled "Cé").mp (by decide)).resolve_left (by decide)).2
  · exact ((hcontains "cÉ").mp (by decide)).resolve_left (by decide)

/-! ## Cutting a text at its placeholders -/

/-- **A text cut at references**, none of which is left over. -/
structure IsCut (form : Form) (g : Gapped) (cs : List Char) : Prop where
  filled : g.fill form.written = cs
  isName : ∀ name ∈ g.names, form.IsName name
  free : ∀ stretch ∈ g.stretches, form.Free stretch

/-- **However a text is cut at placeholders, the pieces are what is read.** -/
theorem IsCut.pieces_eq {g : Gapped} {cs : List Char} (h : IsCut (formOf word) g cs) :
    (formOf word).pieces cs = g.pieces := by
  obtain ⟨lead, gaps⟩ := g
  obtain ⟨hfilled, hname, hfree⟩ := h
  subst hfilled
  induction gaps generalizing lead with
  | nil =>
    have hlead := hfree lead List.mem_cons_self
    show (formOf word).pieces (lead ++ []) = lead.map .char ++ []
    rw [List.append_nil, List.append_nil, hlead.pieces]
  | cons gap gaps ih =>
    -- the text behind the first gap is a text with gaps of its own, which starts with a stretch
    have htext : Gapped.fill (formOf word).written ⟨lead, gap :: gaps⟩
        = lead ++ (formOf word).written gap.name
          ++ Gapped.fill (formOf word).written ⟨gap.rest, gaps⟩ := by
      simp only [Gapped.fill, List.flatMap_cons, List.append_assoc]
    have hlead := hfree lead List.mem_cons_self
    obtain ⟨hgap, hgaps⟩ := List.forall_mem_cons.mp hname
    have hbehind := ih gap.rest hgaps fun stretch hstretch =>
      hfree stretch (List.mem_cons_of_mem lead hstretch)
    rw [htext, pieces_append_written lead hgap, hlead.pieces, hbehind]
    rfl

/-- **There is one way to cut a text at its placeholders.** -/
theorem isCut_iff {g : Gapped} {cs : List Char} :
    IsCut (formOf word) g cs ↔ g = (formOf word).cut cs := by
  constructor
  · intro h
    rw [cut, h.pieces_eq, Gapped.ofPieces_pieces]
  · rintro rfl
    exact ⟨fill_written_cut cs, fun name hname => isName_of_mem_pieces (mem_names_cut.mp hname),
      fun stretch hstretch => free_of_mem_stretches_cut hstretch⟩

/-! ## Values -/

/-- **No two keys are spellings of one name.** -/
def Distinct (values : List (String × String)) : Prop :=
  values.Pairwise fun a b => sameName a.1 b.1 = false

/-- **What stands for a macro**: the value of a key that spells its name, or its name if there is no
such key. -/
def StandsFor (values : List (String × String)) (name value : String) : Prop :=
  (∃ key, (key, value) ∈ values ∧ sameName key name = true)
    ∨ ((∀ entry ∈ values, sameName entry.1 name = false) ∧ value = name)

/-- The text that replaces a placeholder. -/
def replacement (values : List (String × String)) (name : List Char) : List Char :=
  ((lookup? values (String.ofList name)).getD (String.ofList name)).toList

/-- **The value of a macro** is that of the key that spells its name, wherever the key stands among
the others. -/
theorem lookup?_eq_some_iff {values : List (String × String)} (h : Distinct values)
    {name value : String} :
    lookup? values name = some value
      ↔ ∃ key, (key, value) ∈ values ∧ sameName key name = true := by
  unfold lookup?
  rw [Option.map_eq_some_iff]
  constructor
  · rintro ⟨⟨key, value⟩, hfind, rfl⟩
    obtain ⟨hkey, -⟩ := List.find?_eq_some_iff_append.mp hfind
    exact ⟨key, List.mem_of_find?_eq_some hfind, hkey⟩
  · rintro ⟨key, hmem, hkey⟩
    refine ⟨(key, value), List.find?_eq_some_iff_append.mpr ⟨hkey, ?_⟩, rfl⟩
    obtain ⟨front, back, rfl⟩ := List.append_of_mem hmem
    refine ⟨front, back, rfl, fun other hother => ?_⟩
    -- a key in front that spells the name would spell the key
    have hapart := (List.pairwise_append.mp h).2.2 other hother (key, value) List.mem_cons_self
    rw [sameName, beq_iff_eq] at hkey
    rw [sameName, hkey] at hapart
    rw [Bool.not_eq_true']
    exact hapart

theorem lookup?_eq_none_iff {values : List (String × String)} {name : String} :
    lookup? values name = none ↔ ∀ entry ∈ values, sameName entry.1 name = false := by
  rw [lookup?, Option.map_eq_none_iff, List.find?_eq_none]
  simp only [Bool.not_eq_true]

/-- **One text stands for each macro.** -/
theorem standsFor_iff {values : List (String × String)} (h : Distinct values)
    {name value : String} :
    StandsFor values name value ↔ value = (lookup? values name).getD name := by
  rw [StandsFor, ← lookup?_eq_some_iff h, ← lookup?_eq_none_iff]
  cases lookup? values name with
  | none => simp only [reduceCtorEq, false_or, true_and, Option.getD_none]
  | some found => simp only [Option.some.injEq, reduceCtorEq, false_and, or_false,
      Option.getD_some, eq_comm]

/-- **A text with its placeholders replaced is its cut, filled with the values**, also if there is
nothing to search for. -/
theorem toList_resolveWith (hlibrary : library.Documented) {values : List (String × String)}
    (h : values ≠ []) (text : String) :
    (resolveWith library word values text).toList
      = ((formOf word).cut text.toList).fill (replacement values) := by
  rw [resolveWith, if_neg fun hempty => h (List.isEmpty_iff.mp hempty)]
  cases hopens : (formOf word).opensIn text with
  | false =>
    rw [(free_of_opensIn_eq_false hopens).cut]
    exact (List.append_nil _).symm
  | true => exact hlibrary.toList_replaceAll (formOf word) text _

/-- A text without placeholders stays as it is. -/
theorem resolveWith_eq_self {text : String} (h : (formOf word).opensIn text = false)
    (values : List (String × String)) : resolveWith library word values text = text := by
  rw [resolveWith, h, cond_false, ite_self]

/-- **Only the values of the macros in the text matter**, and not their order. -/
theorem resolveWith_congr (hlibrary : library.Documented) {values others : List (String × String)}
    (hne : values ≠ []) (hothers : others ≠ []) (h : Distinct values) (h' : Distinct others)
    {text : String}
    (hsame : ∀ key value, (collectWith library word text .empty).contains key = true →
      ((key, value) ∈ values ↔ (key, value) ∈ others)) :
    resolveWith library word values text = resolveWith library word others text := by
  have hlookup : ∀ name ∈ (formOf word).names text, lookup? values name = lookup? others name := by
    intro name hname
    refine Option.ext fun value => ?_
    rw [lookup?_eq_some_iff h, lookup?_eq_some_iff h']
    refine exists_congr fun key => and_congr_left fun hkey => hsame key value ?_
    rw [collectWith_eq hlibrary]
    refine contains_ofList.mpr ⟨name, hname, ?_⟩
    rw [sameName, beq_iff_eq] at hkey ⊢
    exact hkey.symm
  refine String.toList_inj.mp ?_
  rw [toList_resolveWith hlibrary hne, toList_resolveWith hlibrary hothers]
  refine Gapped.fill_congr fun name hname => ?_
  have hmem : String.ofList name ∈ (formOf word).names text := by
    rw [names_eq]
    exact List.mem_map_of_mem hname
  rw [replacement, replacement, hlookup _ hmem]

/-- **The placeholders of a text are replaced, once, and nothing else is**, for every class of
characters that has none of the signs, and through every library that keeps to its documentation. Let
there be some values, no two of them for one name. The text can be cut at its placeholders in one way
only, if none is to be left over, and the names in the gaps are those that are collected. The result
is the cut, filled with what stands for each name; the stretches between stay as they are, and what
fills a gap is not looked into. Neither the order of the values matters, nor any value of a macro that
is not collected from the text; and a text without an opening stays as it is. What is used gives the
same as any such library, for the characters that are used. -/
theorem resolve_exact (hlibrary : library.Documented) (word : WordClass)
    {values : List (String × String)} (hne : values ≠ []) (h : Distinct values) (text : String) :
    (∃ g : Gapped, IsCut (formOf word) g text.toList
        ∧ (∀ other, IsCut (formOf word) other text.toList → other = g)
        ∧ (∀ found, collectWith library word text found
            = found.insertMany (g.names.map String.ofList))
        ∧ ∃ f : List Char → List Char,
            (∀ name value, StandsFor values name value ↔ value.toList = f name.toList)
              ∧ (resolveWith library word values text).toList = g.fill f)
      ∧ (∀ others, others.Perm values →
          resolveWith library word others text = resolveWith library word values text)
      ∧ (∀ others, others ≠ [] → Distinct others →
          (∀ key value, (collectWith library word text .empty).contains key = true →
            ((key, value) ∈ others ↔ (key, value) ∈ values)) →
          resolveWith library word others text = resolveWith library word values text)
      ∧ (¬['$', '('] <:+: text.toList → resolveWith library word values text = text)
      ∧ resolve values text = resolveWith library .unicode values text := by
  refine ⟨⟨(formOf word).cut text.toList, isCut_iff.mpr rfl, fun other hother => isCut_iff.mp hother,
    fun found => ?_, replacement values, fun name value => ?_,
    toList_resolveWith hlibrary hne text⟩,
    fun others hperm => ?_, fun others hothers h' hsame => ?_, fun hnone => ?_, ?_⟩
  · rw [collectWith_eq hlibrary, names_eq]
  · rw [standsFor_iff h, replacement, String.ofList_toList, String.toList_inj]
  · have hothers : others ≠ [] := by
      rintro rfl
      exact hne hperm.nil_eq.symm
    have hsymm : ∀ {a b : String × String}, sameName a.1 b.1 = false → sameName b.1 a.1 = false :=
      fun hab => BEq.comm.trans hab
    exact resolveWith_congr hlibrary hothers hne ((hperm.pairwise_iff hsymm).mpr h) h
      fun _ _ _ => hperm.mem_iff
  · exact resolveWith_congr hlibrary hothers hne h' h hsame
  · exact resolveWith_eq_self (occursIn_eq_false_iff.mpr hnone) values
  · rw [resolve, ← String.toList_inj, toList_resolveWith Library.documented_scanning hne,
      toList_resolveWith hlibrary hne]

/-- A path with a placeholder behind a false start, one without a value, and a start that is broken
off. -/
def brokenPath : String := "$($(OUTDIR)$(Unknown)é$(a b"

/-- Values for macros, one of which looks like a placeholder. -/
def nestedValues : List (String × String) := [("OutDir", "$(Lib)/"), ("Lib", "lib")]

/-- The placeholder that comes in with a value stays in the result. -/
theorem resolve_exact_brokenPath :
    nestedValues ≠ [] ∧ Distinct nestedValues
      ∧ resolve nestedValues brokenPath = "$($(Lib)/Unknowné$(a b"
      ∧ resolve nestedValues.reverse brokenPath = "$($(Lib)/Unknowné$(a b"
      ∧ resolve [("OutDir", "$(Lib)/"), ("Other", "")] brokenPath = "$($(Lib)/Unknowné$(a b"
      ∧ ∀ g, IsCut form g brokenPath.toList → g = ⟨"$(".toList,
        [⟨"OUTDIR".toList, []⟩, ⟨"Unknown".toList, "é$(a b".toList⟩]⟩ := by
  have hne : nestedValues ≠ [] := List.cons_ne_nil _ _
  have hdistinct : Distinct nestedValues := by
    unfold Distinct
    decide +kernel
  have hresult : resolve nestedValues brokenPath = "$($(Lib)/Unknowné$(a b" := by decide +kernel
  have hcut : form.cut brokenPath.toList
      = ⟨"$(".toList, [⟨"OUTDIR".toList, []⟩, ⟨"Unknown".toList, "é$(a b".toList⟩]⟩ := by
    decide +kernel
  obtain ⟨⟨g, hg, hunique, -⟩, hperm, hcongr, -⟩ :=
    resolve_exact Library.documented_scanning .unicode hne hdistinct brokenPath
  refine ⟨hne, hdistinct, hresult, ?_, ?_, fun g' hg' => ?_⟩
  · exact (hperm _ (List.reverse_perm _)).trans hresult
  · refine (hcongr _ (List.cons_ne_nil _ _) ?_ fun key value hkey => ?_).trans hresult
    · unfold Distinct
      decide +kernel
    · have hfound : collectWith .scanning .unicode brokenPath .empty = ⟨["OUTDIR", "Unknown"]⟩ := by
        decide +kernel
      rw [hfound] at hkey
      simp only [nestedValues, List.mem_cons, Prod.mk.injEq, List.not_mem_nil, or_false]
      refine or_congr_right (iff_of_false ?_ ?_)
      · rintro ⟨rfl, -⟩
        exact absurd hkey (by decide)
      · rintro ⟨rfl, -⟩
        exact absurd hkey (by decide)
  · rw [hunique g' hg', ← hunique _ (isCut_iff.mpr rfl), ← hcut]

end TextTemplate.Placeholder
