import TextTemplate.Dependency.Snapshot
import TextTemplate.Proofs.Placeholders

/-!
# Sets of names as sets of keys

A set of names is a list in a certain order. What it says is which names it has, in any spelling,
and that is told by the keys: `NameSet.keys` is the view through which the operations are described
here, one statement for each (`mem_keys_insert`, `mem_keys_union`, `mem_keys_difference`).

A set that has been made by the operations lists its names in the strict order of their keys
(`NameSet.Ordered`), so two such sets have the same names exactly if they list the same keys
(`sameNames_eq_true_iff`). On top of this the difference of two snapshots is described: what it
tells about the names that have come and gone, and when there is none.
-/

namespace TextTemplate

namespace NameSet

open Text

/-! ## Keys -/

/-- A name is in a set if its key is. -/
theorem contains_eq_true_iff {s : NameSet} {name : String} :
    s.contains name = true ↔ fold name ∈ s.keys := by
  unfold contains keys sameName
  rw [List.any_eq_true, List.mem_map]
  exact exists_congr fun n => and_congr_right fun _ => beq_iff_eq

/-- A set without names has no keys. -/
theorem isEmpty_eq_true_iff {s : NameSet} : s.isEmpty = true ↔ ∀ key, key ∉ s.keys := by
  unfold isEmpty keys
  rw [List.isEmpty_iff, ← List.eq_nil_iff_forall_not_mem, List.map_eq_nil_iff]

/-- Putting a name into a list adds its key. -/
theorem mem_map_fold_insertInto {name : String} {names : List String} {key : List Char} :
    key ∈ (insertInto name names).map fold ↔ key = fold name ∨ key ∈ names.map fold := by
  induction names with
  | nil => rw [insertInto, List.map_cons, List.mem_cons]
  | cons n ns ih =>
    rw [insertInto]
    split
    · rw [List.map_cons, List.mem_cons, ih, List.map_cons, List.mem_cons]
      exact or_left_comm
    · split
      · rename_i hsame
        have hkey : fold n = fold name := beq_iff_eq.mp hsame
        rw [List.map_cons, List.mem_cons, hkey, ← or_assoc, or_self]
      · rw [List.map_cons, List.mem_cons]

/-- **A name that is put in brings its key.** -/
theorem mem_keys_insert {s : NameSet} {name : String} {key : List Char} :
    key ∈ (s.insert name).keys ↔ key = fold name ∨ key ∈ s.keys :=
  mem_map_fold_insertInto

theorem mem_keys_insertMany {s : NameSet} {names : List String} {key : List Char} :
    key ∈ (s.insertMany names).keys ↔ key ∈ s.keys ∨ key ∈ names.map fold := by
  unfold insertMany
  induction names generalizing s with
  | nil => rw [List.foldl_nil, List.map_nil, List.mem_nil_iff, or_false]
  | cons n ns ih =>
    rw [List.foldl_cons, ih, mem_keys_insert, List.map_cons, List.mem_cons,
      or_comm (a := key = fold n), or_assoc]

theorem insertMany_append (s : NameSet) (names more : List String) :
    s.insertMany (names ++ more) = (s.insertMany names).insertMany more :=
  List.foldl_append

theorem mem_keys_ofList {names : List String} {key : List Char} :
    key ∈ (ofList names).keys ↔ key ∈ names.map fold :=
  mem_keys_insertMany.trans (or_iff_right List.not_mem_nil)

/-- **A set of the names of a list has the names of the list.** -/
theorem contains_ofList {names : List String} {name : String} :
    (ofList names).contains name = true ↔ ∃ n ∈ names, sameName n name = true := by
  rw [contains_eq_true_iff, mem_keys_ofList, List.mem_map]
  exact exists_congr fun n => and_congr_right fun _ => beq_iff_eq.symm

/-- **The keys of both sets.** -/
theorem mem_keys_union {s t : NameSet} {key : List Char} :
    key ∈ (s.union t).keys ↔ key ∈ s.keys ∨ key ∈ t.keys :=
  mem_keys_insertMany

/-- **The keys that another set does not have.** -/
theorem mem_keys_difference {s t : NameSet} {key : List Char} :
    key ∈ (s.difference t).keys ↔ key ∈ s.keys ∧ key ∉ t.keys := by
  unfold difference
  simp only [keys, List.mem_map, List.mem_filter, Bool.not_eq_true', Bool.eq_false_iff, ne_eq,
    contains_eq_true_iff]
  constructor
  · rintro ⟨n, ⟨hn, hkey⟩, rfl⟩
    exact ⟨⟨n, hn, rfl⟩, by simpa [keys] using hkey⟩
  · rintro ⟨⟨n, hn, rfl⟩, hkey⟩
    exact ⟨n, ⟨hn, by simpa [keys] using hkey⟩, rfl⟩

/-! ## Order -/

/-- **The names are listed in the strict order of their keys.** -/
def Ordered (s : NameSet) : Prop := s.keys.Pairwise (· < ·)

theorem ordered_empty : empty.Ordered := List.Pairwise.nil

/-- A key that is neither smaller nor the same is greater. -/
theorem fold_lt_of_not_lt {a b : String} (hlt : ¬ fold a < fold b) (hsame : ¬ sameName a b = true) :
    fold b < fold a := by
  rcases List.le_iff_lt_or_eq.mp (List.not_lt.mp hlt) with h | h
  · exact h
  · exact absurd (beq_iff_eq.mpr h.symm) hsame

/-- **Putting a name in keeps the order.** -/
theorem Ordered.insert {s : NameSet} (h : s.Ordered) (name : String) : (s.insert name).Ordered := by
  obtain ⟨names⟩ := s
  show ((insertInto name names).map fold).Pairwise (· < ·)
  replace h : (names.map fold).Pairwise (· < ·) := h
  induction names with
  | nil => exact List.pairwise_singleton _ _
  | cons n ns ih =>
    obtain ⟨hfirst, hrest⟩ := List.pairwise_cons.mp h
    rw [insertInto]
    split
    · rename_i hlt
      rw [List.map_cons, List.pairwise_cons]
      refine ⟨fun key hkey => ?_, ih hrest⟩
      rcases mem_map_fold_insertInto.mp hkey with rfl | hkey
      · exact hlt
      · exact hfirst key hkey
    · split
      · exact h
      · rename_i hlt hsame
        have hgt := fold_lt_of_not_lt hlt hsame
        rw [List.map_cons, List.pairwise_cons]
        refine ⟨fun key hkey => ?_, h⟩
        rcases List.mem_cons.mp hkey with rfl | hkey
        · exact hgt
        · exact List.lt_trans hgt (hfirst key hkey)

theorem Ordered.insertMany {s : NameSet} (h : s.Ordered) (names : List String) :
    (s.insertMany names).Ordered := by
  unfold NameSet.insertMany
  induction names generalizing s with
  | nil => exact h
  | cons n ns ih => exact ih (h.insert n)

theorem Ordered.union {s : NameSet} (h : s.Ordered) (t : NameSet) : (s.union t).Ordered :=
  h.insertMany t.names

/-- Leaving names out keeps the order. -/
theorem Ordered.difference {s : NameSet} (h : s.Ordered) (t : NameSet) : (s.difference t).Ordered :=
  h.sublist ((List.filter_sublist).map fold)

/-- No key is listed twice. -/
theorem Ordered.nodup {s : NameSet} (h : s.Ordered) : s.keys.Nodup := by
  refine List.Pairwise.imp ?_ h
  rintro a _ hlt rfl
  exact List.lt_irrefl a hlt

/-- **Sets that list their names in order have the same names if they have the same keys**, one by
one. -/
theorem sameNames_eq_true_iff {s t : NameSet} (hs : s.Ordered) (ht : t.Ordered) :
    s.sameNames t = true ↔ ∀ key, key ∈ s.keys ↔ key ∈ t.keys := by
  unfold sameNames
  rw [beq_iff_eq]
  constructor
  · intro h key
    rw [h]
  · intro h
    refine List.Perm.eq_of_pairwise (fun a b _ _ hab hba => ?_) hs ht
      ((List.perm_ext_iff_of_nodup hs.nodup ht.nodup).mpr h)
    exact absurd hba (List.lt_asymm hab)

/-! ## Spellings -/

/-- Putting a name into an ordered list adds the name, unless its key is there. -/
theorem mem_insertInto {name n : String} {names : List String}
    (h : (names.map fold).Pairwise (· < ·)) :
    n ∈ insertInto name names ↔ n ∈ names ∨ (n = name ∧ fold name ∉ names.map fold) := by
  induction names with
  | nil => simp only [insertInto, List.mem_singleton, List.map_nil, List.not_mem_nil,
      not_false_eq_true, and_true, false_or]
  | cons m names ih =>
    obtain ⟨hfirst, hrest⟩ := List.pairwise_cons.mp h
    rw [insertInto]
    split
    · rename_i hlt
      have hne : fold name ≠ fold m := fun heq => List.lt_irrefl _ (heq ▸ hlt)
      simp only [List.mem_cons, ih hrest, List.map_cons, hne, false_or, or_assoc]
    · split
      · rename_i hsame
        have hkey : fold name ∈ (m :: names).map fold := by
          rw [← beq_iff_eq.mp hsame]
          exact List.mem_cons_self
        simp only [hkey, not_true_eq_false, and_false, or_false]
      · rename_i hlt hsame
        -- the key is smaller than the first one, and so than all of them
        have hgt := fold_lt_of_not_lt hlt hsame
        have hkey : fold name ∉ (m :: names).map fold := by
          intro hmem
          rcases List.mem_cons.mp hmem with heq | hmem
          · exact List.lt_irrefl _ (heq ▸ hgt)
          · exact List.lt_irrefl _ (List.lt_trans hgt (hfirst _ hmem))
        rw [List.mem_cons]
        simp only [hkey, not_false_eq_true, and_true, or_comm]

/-- **A name that is put in is listed as it is spelled**, unless another spelling is there. -/
theorem mem_toList_insert {s : NameSet} (h : s.Ordered) {name n : String} :
    n ∈ (s.insert name).toList ↔ n ∈ s.toList ∨ (n = name ∧ fold name ∉ s.keys) :=
  mem_insertInto h

/-- **Of the spellings of a name that are put in, the first one stays.** -/
theorem mem_toList_insertMany {s : NameSet} (h : s.Ordered) {names : List String} {n : String} :
    n ∈ (s.insertMany names).toList
      ↔ n ∈ s.toList ∨ (fold n ∉ s.keys ∧ names.find? (fun m => sameName m n) = some n) := by
  unfold insertMany
  induction names generalizing s with
  | nil => simp only [List.foldl_nil, List.find?_nil, reduceCtorEq, and_false, or_false]
  | cons m names ih =>
    rw [List.foldl_cons, ih (h.insert m), mem_toList_insert h, mem_keys_insert, List.find?_cons]
    cases hsame : sameName m n with
    | true =>
      have hkey : fold m = fold n := beq_iff_eq.mp hsame
      simp only [hkey, true_or, not_true_eq_false, false_and, or_false, Option.some.injEq,
        and_comm, eq_comm]
    | false =>
      have hkey : fold n ≠ fold m := fun heq => by
        rw [sameName, heq, beq_self_eq_true] at hsame
        cases hsame
      have hne : n ≠ m := fun heq => hkey (congrArg fold heq)
      simp only [hkey, false_or, hne, false_and, or_false]

/-- **A set of the names of a list lists the first spelling of each.** -/
theorem mem_toList_ofList {names : List String} {n : String} :
    n ∈ (ofList names).toList ↔ names.find? (fun m => sameName m n) = some n := by
  rw [ofList, mem_toList_insertMany ordered_empty]
  show n ∈ [] ∨ fold n ∉ [] ∧ _ ↔ _
  simp only [List.not_mem_nil, not_false_eq_true, true_and, false_or]

end NameSet

/-! ## Snapshots -/

namespace Snapshot

open NameSet

/-- Both sets of a snapshot are listed in order. -/
def Ordered (s : Snapshot) : Prop := s.assemblies.Ordered ∧ s.macros.Ordered

theorem ordered_addDirective {schema : Schema} {lookup : String → Option String} {s : Snapshot}
    (h : s.Ordered) (d : Directive) : (s.addDirective schema lookup d).Ordered := by
  unfold addDirective
  simp only [Placeholder.collect_eq]
  split
  · split
    · exact h
    · exact ⟨h.1.insert _, h.2.insertMany _⟩
  · split
    · exact h
    · exact ⟨h.1, h.2.insertMany _⟩
  · exact h

/-- **A snapshot of a document lists its names in order.** -/
theorem ordered_extract (schema : Schema) (lookup : String → Option String) (d : Document) :
    (extract schema lookup d).Ordered := by
  unfold extract
  generalize d.family.flatMap Document.directives = directives
  have hstart : ({} : Snapshot).Ordered := ⟨ordered_empty, ordered_empty⟩
  generalize ({} : Snapshot) = start at hstart ⊢
  induction directives generalizing start with
  | nil => exact hstart
  | cons d directives ih => exact ih _ (ordered_addDirective hstart d)

/-- **What has changed** from an older snapshot, or from an empty one if there is none: the
assemblies that are new, those that are gone, and the macros that are new. -/
structure Describes (old new : Snapshot) (diff : SnapshotDiff) : Prop where
  added : ∀ key, key ∈ diff.addedAssemblies.keys ↔
    key ∈ new.assemblies.keys ∧ key ∉ old.assemblies.keys
  removed : ∀ key, key ∈ diff.removedAssemblies.keys ↔
    key ∈ old.assemblies.keys ∧ key ∉ new.assemblies.keys
  addedMacros : ∀ key, key ∈ diff.addedMacros.keys ↔ key ∈ new.macros.keys ∧ key ∉ old.macros.keys

/-- **A change that is found describes what has changed.** -/
theorem describes_of_diff?_eq_some {new : Snapshot} {old : Option Snapshot} {diff : SnapshotDiff}
    (h : new.diff? old = some diff) : Describes (old.getD {}) new diff := by
  cases old with
  | none =>
    rw [diff?] at h
    split at h
    · cases h
    · cases h
      refine ⟨fun key => ?_, fun key => ?_, fun key => ?_⟩
      · exact (and_iff_left List.not_mem_nil).symm
      · exact iff_of_false List.not_mem_nil fun h => List.not_mem_nil h.1
      · exact (and_iff_left List.not_mem_nil).symm
  | some old =>
    rw [diff?] at h
    split at h
    · cases h
    · cases h
      exact ⟨fun _ => mem_keys_difference, fun _ => mem_keys_difference,
        fun _ => mem_keys_difference⟩

/-- **A change takes names from one snapshot to the other**: names that are those of the older
assemblies, however they are spelled, become those of the newer ones. -/
theorem Describes.mem_keys_assemblies {old new : Snapshot} {diff : SnapshotDiff}
    (h : Describes old new diff) {assemblies : NameSet}
    (hsame : ∀ key, key ∈ assemblies.keys ↔ key ∈ old.assemblies.keys) (key : List Char) :
    key ∈ ((assemblies.union diff.addedAssemblies).difference diff.removedAssemblies).keys
      ↔ key ∈ new.assemblies.keys := by
  rw [mem_keys_difference, mem_keys_union, h.added, h.removed, hsame]
  by_cases hold : key ∈ old.assemblies.keys
  · simp only [hold, true_or, true_and, Decidable.not_not]
  · simp only [hold, not_false_eq_true, and_true, false_or, false_and]

/-- **If no change is found**, the assemblies are the same and no macro is new. -/
theorem same_of_diff?_eq_none {new : Snapshot} {old : Option Snapshot} (h : new.diff? old = none) :
    (∀ key, key ∈ new.assemblies.keys ↔ key ∈ (old.getD {}).assemblies.keys)
      ∧ ∀ key ∈ new.macros.keys, key ∈ (old.getD {}).macros.keys := by
  cases old with
  | none =>
    rw [diff?, isEmpty] at h
    split at h
    · rename_i hempty
      rw [Bool.and_eq_true, isEmpty_eq_true_iff, isEmpty_eq_true_iff] at hempty
      refine ⟨fun key => iff_of_false (hempty.1 key) List.not_mem_nil, fun key hkey => ?_⟩
      exact absurd hkey (hempty.2 key)
    · cases h
  | some old =>
    rw [diff?] at h
    split at h
    · rename_i hempty
      simp only [SnapshotDiff.isEmpty, Bool.and_eq_true, isEmpty_eq_true_iff, mem_keys_difference,
        not_and, Decidable.not_not] at hempty
      obtain ⟨⟨hadded, hremoved⟩, hmacros⟩ := hempty
      exact ⟨fun key => ⟨hadded key, hremoved key⟩, hmacros⟩
    · cases h

end Snapshot

end TextTemplate
