import TextTemplate.Dependency.Variable
import TextTemplate.Proofs.References

/-!
# References to variables, place by place

A percent sign may open a reference or close one, so whether it does one or the other depends on all
the signs in front of it. `Variable.Scans` says how a text is to be gone through: place by place
from the left, with a look at the next sign wherever a sign stands, and on to behind that sign if
there is something between the two. It speaks of places in the text only, and not of how the text is
read.

References are expanded by a library that searches texts, and all that is known of it is that it
keeps to its documentation: it finds the references from the left, one behind another. So it is to be
shown that these are the references which a scan meets, wherever signs stand alone or in a row. Then
`Variable.expandWith` writes just what such a scan writes (`scans_iff`). The references are the same
whatever the names stand for, so an expanded text is the text with the references cut out, filled with
the values (`toList_expandWith`): what stands between the references is kept, and values are not gone
through again.
-/

namespace TextTemplate.Variable

open Text Reference Reference.Form

/-! ## A scan of the places -/

/-- The text of a reference. -/
def written (name : List Char) : List Char := '%' :: (name ++ ['%'])

/-- **The next percent sign behind a place.** -/
def NextSign (cs : List Char) (i j : Nat) : Prop :=
  i < j ∧ cs[j]? = some '%' ∧ ∀ k, i < k → k < j → cs[k]? ≠ some '%'

/-- What stands between two places. -/
def between (cs : List Char) (i j : Nat) : List Char := (cs.drop (i + 1)).take (j - (i + 1))

/-- **A scan of a text from a place on**, with the names that it looks up and the text that it
writes. -/
inductive Scans (lookup : String → Option String) (cs : List Char) :
    Nat → List String → List Char → Prop where
  /-- Behind the text there is nothing to do. -/
  | done {i : Nat} : cs.length ≤ i → Scans lookup cs i [] []
  /-- Any other character is copied. -/
  | copy {i : Nat} {c : Char} {names : List String} {out : List Char} :
    cs[i]? = some c → c ≠ '%' → Scans lookup cs (i + 1) names out →
    Scans lookup cs i names (c :: out)
  /-- A sign with no later sign is copied. -/
  | lone {i : Nat} {names : List String} {out : List Char} :
    cs[i]? = some '%' → (∀ j, ¬NextSign cs i j) → Scans lookup cs (i + 1) names out →
    Scans lookup cs i names ('%' :: out)
  /-- A sign directly in front of another one is copied, and the scan goes on with the other one. -/
  | double {i : Nat} {names : List String} {out : List Char} :
    cs[i]? = some '%' → NextSign cs i (i + 1) → Scans lookup cs (i + 1) names out →
    Scans lookup cs i names ('%' :: out)
  /-- If what stands between two signs is known, its value is written. -/
  | known {i j : Nat} {value : String} {names : List String} {out : List Char} :
    cs[i]? = some '%' → NextSign cs i j → i + 1 < j →
    lookup (String.ofList (between cs i j)) = some value → Scans lookup cs (j + 1) names out →
    Scans lookup cs i (String.ofList (between cs i j) :: names) (value.toList ++ out)
  /-- If it is not known, it is copied with both signs. -/
  | unknown {i j : Nat} {names : List String} {out : List Char} :
    cs[i]? = some '%' → NextSign cs i j → i + 1 < j →
    lookup (String.ofList (between cs i j)) = none → Scans lookup cs (j + 1) names out →
    Scans lookup cs i (String.ofList (between cs i j) :: names) (written (between cs i j) ++ out)

/-- A place with a character cuts the text. -/
theorem drop_of_getElem? {cs : List Char} {i : Nat} {c : Char} (h : cs[i]? = some c) :
    cs.drop i = c :: cs.drop (i + 1) := by
  rw [List.drop_eq_getElem?_toList_append, h]
  rfl

/-- The character behind a cut stands at its place. -/
theorem getElem?_of_drop {cs rest : List Char} {i : Nat} {c : Char} (h : cs.drop i = c :: rest) :
    cs[i]? = some c ∧ cs.drop (i + 1) = rest := by
  refine ⟨?_, ?_⟩
  · rw [← Nat.add_zero i, ← List.getElem?_drop, h]
    rfl
  · rw [← List.drop_drop, h]
    rfl

/-- **The next sign cuts the text behind a place**, and there is no sign in front of the cut. -/
theorem NextSign.drop_eq {cs : List Char} {i j : Nat} (h : NextSign cs i j) :
    cs.drop (i + 1) = between cs i j ++ '%' :: cs.drop (j + 1) ∧ '%' ∉ between cs i j := by
  obtain ⟨hlt, hsign, hbetween⟩ := h
  refine ⟨?_, fun hmem => ?_⟩
  · have hbehind : (cs.drop (i + 1)).drop (j - (i + 1)) = '%' :: cs.drop (j + 1) := by
      rw [List.drop_drop, Nat.add_sub_cancel' hlt, drop_of_getElem? hsign]
    rw [between, ← hbehind, List.take_append_drop]
  · obtain ⟨k, hk⟩ := List.mem_iff_getElem?.mp hmem
    rw [between, List.getElem?_take, List.getElem?_drop] at hk
    split at hk
    · exact hbetween (i + 1 + k) (by omega) (by omega) hk
    · cases hk

/-- **A cut in front of a sign, with no sign in front of it**, is at the next sign. -/
theorem nextSign_of_drop_eq {cs name rest : List Char} {i : Nat}
    (h : cs.drop (i + 1) = name ++ '%' :: rest) (hname : '%' ∉ name) :
    NextSign cs i (i + 1 + name.length) ∧ between cs i (i + 1 + name.length) = name
      ∧ cs.drop (i + 1 + name.length + 1) = rest := by
  refine ⟨⟨by omega, ?_, fun k hik hkj hk => ?_⟩, ?_, ?_⟩
  · rw [← List.getElem?_drop, h, List.getElem?_append_right (Nat.le_refl _), Nat.sub_self]
    rfl
  · obtain ⟨n, rfl⟩ := Nat.exists_eq_add_of_le hik
    rw [← List.getElem?_drop, h, List.getElem?_append_left (by omega)] at hk
    exact hname (List.mem_of_getElem? hk)
  · rw [between, h, Nat.add_sub_cancel_left, List.take_left]
  · rw [Nat.add_assoc (i + 1), ← List.drop_drop, h, ← List.drop_drop, List.drop_left]
    rfl

/-- There is no next sign if there is no sign at all. -/
theorem not_nextSign_iff {cs : List Char} {i : Nat} :
    (∀ j, ¬NextSign cs i j) ↔ '%' ∉ cs.drop (i + 1) := by
  constructor
  · intro h hmem
    obtain ⟨name, rest, hdrop, hname⟩ := List.eq_append_cons_of_mem hmem
    exact h _ (nextSign_of_drop_eq hdrop hname).1
  · intro h j hj
    rw [hj.drop_eq.1] at h
    exact h (List.mem_append_right _ List.mem_cons_self)

/-! ## One reference -/

theorem written_form : form.written = written := rfl

/-- **A reference stands at the front** if there are a sign, something without signs, and another
sign. -/
theorem read?_form_eq_some_iff {cs name rest : List Char} :
    form.read? cs = some (name, rest)
      ↔ name ≠ [] ∧ '%' ∉ name ∧ cs = '%' :: (name ++ '%' :: rest) := by
  have hname : (∀ c ∈ name, form.inName c = true) ↔ '%' ∉ name := by
    constructor
    · intro h hmem
      have hsign : ('%' != '%') = true := h '%' hmem
      exact bne_iff_ne.mp hsign rfl
    · intro h c hc
      show (c != '%') = true
      exact bne_iff_ne.mpr fun heq => h (heq ▸ hc)
  have htext : form.written name ++ rest = '%' :: (name ++ '%' :: rest) := by
    rw [written_form, written, List.cons_append, List.append_assoc, List.singleton_append]
  rw [read?_eq_some_iff, IsName, hname, htext, and_assoc]

/-- **Where no reference is read**, there is no sign, or no later sign, or another sign directly
behind. -/
theorem read?_cons_eq_none_iff {c : Char} {cs : List Char} :
    form.read? (c :: cs) = none ↔ c ≠ '%' ∨ '%' ∉ cs ∨ ∃ rest, cs = '%' :: rest := by
  constructor
  · intro h
    by_cases hc : c = '%'
    · by_cases hmem : '%' ∈ cs
      · obtain ⟨name, rest, rfl, hname⟩ := List.eq_append_cons_of_mem hmem
        cases name with
        | nil => exact .inr (.inr ⟨rest, rfl⟩)
        | cons d name =>
          subst hc
          have hsome : form.read? ('%' :: (d :: name ++ '%' :: rest)) = some (d :: name, rest) :=
            read?_form_eq_some_iff.mpr ⟨List.cons_ne_nil d name, hname, rfl⟩
          rw [h] at hsome
          cases hsome
      · exact .inr (.inl hmem)
    · exact .inl hc
  · intro h
    refine Option.eq_none_iff_forall_ne_some.mpr ?_
    rintro ⟨name, rest⟩ hsome
    obtain ⟨hne, hname, htext⟩ := read?_form_eq_some_iff.mp hsome
    obtain ⟨hc, rfl⟩ := List.cons.inj htext
    rcases h with h | h | ⟨rest', h⟩
    · exact h hc
    · exact h (List.mem_append_right name List.mem_cons_self)
    · obtain ⟨d, name, rfl⟩ := List.exists_cons_of_ne_nil hne
      exact hname ((List.cons.inj h).1 ▸ List.mem_cons_self)

/-- **Two signs with something between them are a reference**, if the second is the next one. -/
theorem NextSign.read?_drop {cs : List Char} {i j : Nat} (h : NextSign cs i j)
    (hc : cs[i]? = some '%') (hlt : i + 1 < j) :
    form.read? (cs.drop i) = some (between cs i j, cs.drop (j + 1)) := by
  obtain ⟨hdrop, hbetween⟩ := h.drop_eq
  refine read?_form_eq_some_iff.mpr ⟨fun hnil => ?_, hbetween, ?_⟩
  · rw [hnil, List.nil_append] at hdrop
    exact h.2.2 (i + 1) (Nat.lt_succ_self i) hlt (getElem?_of_drop hdrop).1
  · rw [drop_of_getElem? hc, hdrop]

/-! ## The text filled with values -/

/-- What the scan writes for a name. -/
def replacement (lookup : String → Option String) (name : List Char) : List Char :=
  ((lookup (String.ofList name)).map String.toList).getD (written name)

theorem replacement_of_some {lookup : String → Option String} {name : List Char} {value : String}
    (h : lookup (String.ofList name) = some value) : replacement lookup name = value.toList := by
  rw [replacement, h]
  rfl

theorem replacement_of_none {lookup : String → Option String} {name : List Char}
    (h : lookup (String.ofList name) = none) : replacement lookup name = written name := by
  rw [replacement, h]
  rfl

/-- **An expanded text is the text with its references cut out, filled with the values**, also if
there is nothing to search for. -/
theorem toList_expandWith {library : Library} (hlibrary : library.Documented)
    (lookup : String → Option String) (text : String) :
    (expandWith library lookup text).toList = (form.cut text.toList).fill (replacement lookup) := by
  unfold expandWith
  cases hopens : form.opensIn text with
  | false =>
    rw [(free_of_opensIn_eq_false hopens).cut]
    exact (List.append_nil _).symm
  | true =>
    rw [cond_true, hlibrary.toList_replaceAll]
    refine Gapped.fill_congr fun name _ => ?_
    cases hvalue : lookup (String.ofList name) with
    | none =>
      rw [replacement_of_none hvalue]
      show (Option.getD (lookup (String.ofList name)) _).toList = _
      rw [hvalue, Option.getD_none, capture, String.toList_ofList, String.toList_ofList,
        written_form]
    | some value =>
      rw [replacement_of_some hvalue]
      show (Option.getD (lookup (String.ofList name)) _).toList = _
      rw [hvalue, Option.getD_some]

/-- **If no name is known, the text stays as it is.** -/
theorem expandWith_eq_self {library : Library} (hlibrary : library.Documented)
    {lookup : String → Option String} {text : String}
    (h : ∀ name ∈ names text, lookup name = none) : expandWith library lookup text = text := by
  have hfill : (form.cut text.toList).fill (replacement lookup)
      = (form.cut text.toList).fill written := by
    refine Gapped.fill_congr fun name hname => ?_
    have hmem : String.ofList name ∈ names text := by
      rw [names, names_eq]
      exact List.mem_map_of_mem hname
    exact replacement_of_none (h _ hmem)
  rw [← String.toList_inj, toList_expandWith hlibrary, hfill, ← written_form,
    fill_written_cut]

/-! ## The scan and the reading -/

section

variable {lookup : String → Option String} {cs : List Char}

/-- **A scan looks up the names of the references that are read, and writes the text with these
replaced.** -/
theorem Scans.eq {i : Nat} {names : List String} {out : List Char}
    (h : Scans lookup cs i names out) :
    names = (form.cut (cs.drop i)).names.map String.ofList
      ∧ out = (form.cut (cs.drop i)).fill (replacement lookup) := by
  induction h with
  | done hi =>
    rw [List.drop_eq_nil_iff.mpr hi, cut_nil]
    exact ⟨rfl, rfl⟩
  | copy hc hne _ ih =>
    obtain ⟨rfl, rfl⟩ := ih
    rw [drop_of_getElem? hc, cut_cons (read?_cons_eq_none_iff.mpr (.inl hne))]
    exact ⟨rfl, rfl⟩
  | lone hc hlone _ ih =>
    obtain ⟨rfl, rfl⟩ := ih
    rw [drop_of_getElem? hc,
      cut_cons (read?_cons_eq_none_iff.mpr (.inr (.inl (not_nextSign_iff.mp hlone))))]
    exact ⟨rfl, rfl⟩
  | double hc hnext _ ih =>
    obtain ⟨rfl, rfl⟩ := ih
    rw [drop_of_getElem? hc,
      cut_cons (read?_cons_eq_none_iff.mpr (.inr (.inr ⟨_, drop_of_getElem? hnext.2.1⟩)))]
    exact ⟨rfl, rfl⟩
  | known hc hnext hlt hvalue _ ih =>
    obtain ⟨rfl, rfl⟩ := ih
    rw [cut_of_read? (hnext.read?_drop hc hlt), Gapped.fill_consGap, replacement_of_some hvalue]
    exact ⟨rfl, rfl⟩
  | unknown hc hnext hlt hvalue _ ih =>
    obtain ⟨rfl, rfl⟩ := ih
    rw [cut_of_read? (hnext.read?_drop hc hlt), Gapped.fill_consGap, replacement_of_none hvalue]
    exact ⟨rfl, rfl⟩

/-- **There is a scan from every place on.** The induction is on what is read from there. -/
theorem scans_cut (i : Nat) :
    Scans lookup cs i ((form.cut (cs.drop i)).names.map String.ofList)
      ((form.cut (cs.drop i)).fill (replacement lookup)) := by
  generalize hrest : cs.drop i = rest
  induction rest using pieces.induct form generalizing i with
  | case1 rest name rest' hread _ ih =>
    obtain ⟨hne, hname, rfl⟩ := read?_form_eq_some_iff.mp hread
    obtain ⟨hc, hdrop⟩ := getElem?_of_drop hrest
    obtain ⟨hnext, hbetween, hrest'⟩ := nextSign_of_drop_eq hdrop hname
    have hlt : i + 1 < i + 1 + name.length := Nat.lt_add_of_pos_right (List.length_pos_iff.mpr hne)
    rw [cut_of_read? hread, Gapped.fill_consGap]
    cases hvalue : lookup (String.ofList name) with
    | some value =>
      have hscan := Scans.known hc hnext hlt (hbetween.symm ▸ hvalue) (ih _ hrest')
      rw [hbetween] at hscan
      rw [replacement_of_some hvalue]
      exact hscan
    | none =>
      have hscan := Scans.unknown hc hnext hlt (hbetween.symm ▸ hvalue) (ih _ hrest')
      rw [hbetween] at hscan
      rw [replacement_of_none hvalue]
      exact hscan
  | case2 hread =>
    rw [cut_nil]
    exact .done (List.drop_eq_nil_iff.mp hrest)
  | case3 c rest hread ih =>
    obtain ⟨hc, hdrop⟩ := getElem?_of_drop hrest
    have hscan := ih (i + 1) hdrop
    rw [cut_cons hread, Gapped.fill_cons]
    by_cases hsign : c = '%'
    · subst hsign
      rcases read?_cons_eq_none_iff.mp hread with hne | hmem | ⟨rest', rfl⟩
      · exact absurd rfl hne
      · exact .lone hc (not_nextSign_iff.mpr (hdrop ▸ hmem)) hscan
      · obtain ⟨hnext, -⟩ := nextSign_of_drop_eq (hdrop.trans (List.nil_append _).symm)
          List.not_mem_nil
        exact .double hc hnext hscan
    · exact .copy hc hsign hscan

end

/-- **A scan writes the expanded text.** -/
theorem scans_iff {library : Library} (hlibrary : library.Documented)
    {lookup : String → Option String} {text : String} {scanned : List String} {out : List Char} :
    Scans lookup text.toList 0 scanned out
      ↔ scanned = names text ∧ out = (expandWith library lookup text).toList := by
  rw [names, names_eq, toList_expandWith hlibrary]
  constructor
  · exact Scans.eq
  · rintro ⟨rfl, rfl⟩
    exact scans_cut 0

/-- **References are expanded as a scan from the left would do it**, for every text and whatever is
known of the names, through every library that keeps to its documentation. A scan looks up the names
that are read and writes the expanded text, and there is no other scan. So the text stays as it is if
none of the names that are looked up is known, and also if there is no percent sign in it. The text
can be cut at the references once and for all: whatever the names stand for, the expanded text is the
cut filled with the values, or with the references themselves where a name is not known. So the
stretches between are kept, and values are not expanded. What is used gives the same as any such
library. -/
theorem expand_eq_scan {library : Library} (hlibrary : library.Documented)
    (lookup : String → Option String) (text : String) :
    (∀ scanned out, Scans lookup text.toList 0 scanned out
        ↔ scanned = names text ∧ out = (expandWith library lookup text).toList)
      ∧ ((∀ name ∈ names text, lookup name = none) → expandWith library lookup text = text)
      ∧ ('%' ∉ text.toList → expandWith library lookup text = text)
      ∧ (∃ g : Gapped, g.fill written = text.toList ∧ g.names.map String.ofList = names text
        ∧ ∀ lookup', (expandWith library lookup' text).toList = g.fill (replacement lookup'))
      ∧ expand lookup text = expandWith library lookup text := by
  refine ⟨fun _ _ => scans_iff hlibrary, expandWith_eq_self hlibrary, fun hnone => ?_,
    ⟨form.cut text.toList, fill_written_cut _, (names_eq text).symm,
      fun lookup' => toList_expandWith hlibrary lookup' text⟩, ?_⟩
  · have hopens : form.opensIn text = false :=
      occursIn_eq_false_iff.mpr fun hsign => hnone (hsign.subset List.mem_cons_self)
    rw [expandWith, hopens, cond_false]
  · rw [expand, ← String.toList_inj, toList_expandWith Library.documented_scanning,
      toList_expandWith hlibrary]

/-- One name is known, and its value looks like a reference. -/
def oneVariable (name : String) : Option String := if name = "A" then some "%B%" else none

/-- The first of two signs in a row is copied, and the pairs shift by one. A value with signs in it
is written as it is, and a sign without another one is kept. -/
theorem expand_eq_scan_shifted :
    Scans oneVariable "é%%A%%B%5%".toList 0 ["A", "B"] "é%%B%%B%5%".toList
      ∧ expand (fun _ => none) "é%%A%%B%5%" = "é%%A%%B%5%" := by
  have hnames : names "é%%A%%B%5%" = ["A", "B"] := by decide +kernel
  have hexpand : expandWith .scanning oneVariable "é%%A%%B%5%" = "é%%B%%B%5%" := by decide +kernel
  obtain ⟨hscans, -⟩ := expand_eq_scan Library.documented_scanning oneVariable "é%%A%%B%5%"
  obtain ⟨-, hunknown, -, -, hused⟩ :=
    expand_eq_scan Library.documented_scanning (fun _ => none) "é%%A%%B%5%"
  refine ⟨(hscans _ _).mpr ⟨hnames.symm, ?_⟩, hused.trans (hunknown fun _ _ => rfl)⟩
  rw [hexpand]

end TextTemplate.Variable
