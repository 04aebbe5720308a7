import TextTemplate.Proofs.NameSets

/-!
# The difference of two snapshots leads from one to the other

`Snapshot.diff?` compares a snapshot with an older one. What it finds is enough to get from the
older one to the newer one, and no less would do: the assemblies that it adds are those that are
new, the assemblies that it takes away are those that are gone, each in the spelling of the snapshot
that has it, and if there is nothing to say it says nothing. Two spellings of one name are no
change.

A change is applied to a set of names that need not be spelled as in the older snapshot
(`SnapshotDiff.applyTo`). So changes can be applied one after another, along a chain of snapshots,
and the names come out right at the end although the spellings may be those of any of the snapshots
(`Snapshot.mem_keys_replay`).
-/

namespace TextTemplate

namespace NameSet

open Text

/-! ## Sets that the operations make -/

/-- **A set that the operations have made**, from nothing. -/
inductive Made : NameSet → Prop where
  | empty : Made empty
  | insert {s : NameSet} (name : String) : Made s → Made (s.insert name)
  | erase {s : NameSet} (name : String) : Made s → Made (s.erase name)
  | insertMany {s : NameSet} (names : List String) : Made s → Made (s.insertMany names)
  | ofList (names : List String) : Made (ofList names)
  | union {s t : NameSet} : Made s → Made t → Made (s.union t)
  | difference {s t : NameSet} : Made s → Made t → Made (s.difference t)

theorem Ordered.erase {s : NameSet} (h : s.Ordered) (name : String) : (s.erase name).Ordered :=
  h.sublist ((List.filter_sublist).map fold)

/-- **Every operation keeps the order.** -/
theorem Made.ordered {s : NameSet} (h : s.Made) : s.Ordered := by
  induction h with
  | empty => exact ordered_empty
  | insert name _ ih => exact ih.insert name
  | erase name _ ih => exact ih.erase name
  | insertMany names _ ih => exact ih.insertMany names
  | ofList names => exact ordered_empty.insertMany names
  | union _ _ ih _ => exact ih.union _
  | difference _ _ ih _ => exact ih.difference _

/-! ## Names as they are spelled -/

/-- A name is among the names that another set does not have, spelled as in the first set. -/
theorem mem_toList_difference {s t : NameSet} {name : String} :
    name ∈ (s.difference t).toList ↔ name ∈ s.toList ∧ t.contains name = false := by
  show name ∈ s.names.filter _ ↔ _
  rw [List.mem_filter, Bool.not_eq_true']
  rfl

/-- Taking away nothing. -/
theorem difference_empty (s : NameSet) : s.difference empty = s := by
  have hnames : (s.names.filter fun _ => true) = s.names := List.filter_eq_self.mpr fun _ _ => rfl
  show (⟨s.names.filter fun _ => true⟩ : NameSet) = s
  rw [hnames]

/-- The keys of a set are those of the names that it lists. -/
theorem forall_mem_toList_iff {s t : NameSet} :
    (∀ name ∈ s.toList, t.contains name = true) ↔ ∀ key ∈ s.keys, key ∈ t.keys := by
  simp only [contains_eq_true_iff]
  exact List.forall_mem_map.symm

end NameSet

/-- **The assemblies after a change**: those that are added come, those that are removed go. -/
def SnapshotDiff.applyTo (diff : SnapshotDiff) (assemblies : NameSet) : NameSet :=
  (assemblies.union diff.addedAssemblies).difference diff.removedAssemblies

namespace Snapshot

open NameSet

/-- **A snapshot of sets that the operations have made.** -/
def Made (s : Snapshot) : Prop := s.assemblies.Made ∧ s.macros.Made

/-! ## When there is a change -/

/-- A change that is found is not empty. -/
theorem isEmpty_of_diff?_eq_some {new : Snapshot} {old : Option Snapshot} {diff : SnapshotDiff}
    (h : new.diff? old = some diff) : diff.isEmpty = false := by
  cases old with
  | none =>
    rw [diff?] at h
    split at h
    · cases h
    · rename_i hempty
      cases h
      show (new.assemblies.isEmpty && true && new.macros.isEmpty) = false
      rw [Bool.and_true]
      exact Bool.eq_false_iff.mpr hempty
  | some old =>
    rw [diff?] at h
    split at h
    · cases h
    · rename_i hempty
      cases h
      exact Bool.eq_false_iff.mpr hempty

/-- **No change is found exactly if the assemblies are the same and no macro is new.** -/
theorem diff?_eq_none_iff {new : Snapshot} {old : Option Snapshot} :
    new.diff? old = none
      ↔ (∀ key, key ∈ new.assemblies.keys ↔ key ∈ (old.getD {}).assemblies.keys)
        ∧ ∀ key ∈ new.macros.keys, key ∈ (old.getD {}).macros.keys := by
  refine ⟨same_of_diff?_eq_none, ?_⟩
  rintro ⟨hassemblies, hmacros⟩
  cases hdiff : new.diff? old with
  | none => rfl
  | some diff =>
    -- a change would have no keys at all, and then it would be empty
    have hdescribes := describes_of_diff?_eq_some hdiff
    have hempty : diff.isEmpty = true := by
      unfold SnapshotDiff.isEmpty
      simp only [Bool.and_eq_true, isEmpty_eq_true_iff, hdescribes.added, hdescribes.removed,
        hdescribes.addedMacros, hassemblies, and_not_self_iff, not_false_eq_true, implies_true,
        true_and]
      exact fun key hkey => hkey.2 (hmacros key hkey.1)
    rw [isEmpty_of_diff?_eq_some hdiff] at hempty
    cases hempty

/-- **Without an older snapshot** the difference is that to an empty one. -/
theorem diff?_none {new : Snapshot} : new.diff? none = new.diff? (some {}) := by
  have hassemblies : new.assemblies.difference {} = new.assemblies := difference_empty _
  have hmacros : new.macros.difference {} = new.macros := difference_empty _
  simp only [diff?, hassemblies, hmacros]
  show (if (new.assemblies.isEmpty && new.macros.isEmpty) = true then _ else _)
    = if (new.assemblies.isEmpty && true && new.macros.isEmpty) = true then _ else _
  rw [Bool.and_true]
  rfl

/-! ## What a change says -/

/-- **A change that leads from one snapshot to another**: it is not empty, it lists the assemblies
that are new, those that are gone and the macros that are new, each as the snapshot spells it that
has it, and with it the assemblies of the first snapshot become those of the second one, and the
macros those of both. -/
structure Leads (old new : Snapshot) (diff : SnapshotDiff) : Prop where
  not_isEmpty : diff.isEmpty = false
  added : ∀ name, name ∈ diff.addedAssemblies.toList
    ↔ name ∈ new.assemblies.toList ∧ old.assemblies.contains name = false
  removed : ∀ name, name ∈ diff.removedAssemblies.toList
    ↔ name ∈ old.assemblies.toList ∧ new.assemblies.contains name = false
  addedMacros : ∀ name, name ∈ diff.addedMacros.toList
    ↔ name ∈ new.macros.toList ∧ old.macros.contains name = false
  assemblies : (diff.applyTo old.assemblies).sameNames new.assemblies = true
  macros : (old.macros.union diff.addedMacros).sameNames (old.macros.union new.macros) = true

/-- With the macros that are new, the older macros become those of both snapshots. -/
theorem Describes.mem_keys_macros {old new : Snapshot} {diff : SnapshotDiff}
    (h : Describes old new diff) (key : List Char) :
    key ∈ (old.macros.union diff.addedMacros).keys ↔ key ∈ (old.macros.union new.macros).keys := by
  rw [mem_keys_union, mem_keys_union, h.addedMacros]
  by_cases hold : key ∈ old.macros.keys
  · simp only [hold, true_or]
  · simp only [hold, not_false_eq_true, and_true]

/-- The names of a change are those that one of the snapshots has and the other one lacks. -/
theorem differences_of_diff?_eq_some {old new : Snapshot} {diff : SnapshotDiff}
    (h : new.diff? (some old) = some diff) :
    diff.addedAssemblies = new.assemblies.difference old.assemblies
      ∧ diff.removedAssemblies = old.assemblies.difference new.assemblies
      ∧ diff.addedMacros = new.macros.difference old.macros := by
  rw [diff?] at h
  split at h
  · cases h
  · cases h
    exact ⟨rfl, rfl, rfl⟩

/-- **A change that is found leads from the older snapshot to the newer one.** -/
theorem leads_of_diff?_eq_some {old new : Snapshot} (hold : old.Ordered) (hnew : new.Ordered)
    {diff : SnapshotDiff} (h : new.diff? (some old) = some diff) : Leads old new diff := by
  have hdescribes := describes_of_diff?_eq_some h
  obtain ⟨hadded, hremoved, hmacros⟩ := differences_of_diff?_eq_some h
  refine ⟨isEmpty_of_diff?_eq_some h, fun name => ?_, fun name => ?_, fun name => ?_, ?_, ?_⟩
  · rw [hadded, mem_toList_difference]
  · rw [hremoved, mem_toList_difference]
  · rw [hmacros, mem_toList_difference]
  · refine (sameNames_eq_true_iff ((hold.1.union _).difference _) hnew.1).mpr ?_
    exact hdescribes.mem_keys_assemblies fun _ => Iff.rfl
  · refine (sameNames_eq_true_iff (hold.2.union _) (hold.2.union _)).mpr ?_
    exact hdescribes.mem_keys_macros

/-! ## Chains of snapshots -/

/-- The assemblies after a change, if there is one. -/
def applyChange (assemblies : NameSet) : Option SnapshotDiff → NameSet
  | none => assemblies
  | some diff => diff.applyTo assemblies

/-- **The assemblies after the changes along a chain of snapshots**, each of which is compared with
the one in front of it. -/
def replay (assemblies : NameSet) (s : Snapshot) : List Snapshot → NameSet
  | [] => assemblies
  | t :: chain => replay (applyChange assemblies (t.diff? (some s))) t chain

/-- **One step of a chain**, with a change or without. -/
theorem mem_keys_applyChange {old new : Snapshot} {assemblies : NameSet}
    (hsame : ∀ key, key ∈ assemblies.keys ↔ key ∈ old.assemblies.keys) (key : List Char) :
    key ∈ (applyChange assemblies (new.diff? (some old))).keys ↔ key ∈ new.assemblies.keys := by
  cases hdiff : new.diff? (some old) with
  | none =>
    show key ∈ assemblies.keys ↔ _
    rw [hsame, (diff?_eq_none_iff.mp hdiff).1]
    rfl
  | some diff => exact (describes_of_diff?_eq_some hdiff).mem_keys_assemblies hsame key

theorem ordered_applyChange {assemblies : NameSet} (h : assemblies.Ordered)
    (change : Option SnapshotDiff) : (applyChange assemblies change).Ordered := by
  cases change with
  | none => exact h
  | some diff => exact (h.union _).difference _

theorem ordered_replay {assemblies : NameSet} (h : assemblies.Ordered) (s : Snapshot)
    (chain : List Snapshot) : (replay assemblies s chain).Ordered := by
  induction chain generalizing assemblies s with
  | nil => exact h
  | cons t chain ih => exact ih (ordered_applyChange h _) t

/-- **The changes along a chain lead to its last snapshot.** -/
theorem mem_keys_replay {assemblies : NameSet} {s : Snapshot}
    (hsame : ∀ key, key ∈ assemblies.keys ↔ key ∈ s.assemblies.keys) (chain : List Snapshot)
    (key : List Char) :
    key ∈ (replay assemblies s chain).keys ↔ key ∈ (chain.getLastD s).assemblies.keys := by
  induction chain generalizing assemblies s with
  | nil => exact hsame key
  | cons t chain ih =>
    rw [replay, ih (mem_keys_applyChange hsame), List.getLastD_cons]

/-- **The difference of two snapshots is exact.** Let two snapshots be given whose sets the
operations have made, in whatever way. No change is found exactly if they have the same assemblies
and the newer one has no macro that the older one lacks. Without an older snapshot no change is
found exactly if the newer one is empty, and any change is that from an empty one. A change that is
found leads from the older snapshot to the newer one, and says no more than it has to. So along every
chain of snapshots the changes, applied one after another to the assemblies of the first snapshot,
give the assemblies of the last one. -/
theorem diff?_exact {old new : Snapshot} (hold : old.Made) (hnew : new.Made) :
    (new.diff? (some old) = none
        ↔ old.assemblies.sameNames new.assemblies = true
          ∧ ∀ name ∈ new.macros.toList, old.macros.contains name = true)
      ∧ (new.diff? none = none ↔ new.isEmpty = true)
      ∧ new.diff? none = new.diff? (some {})
      ∧ (∀ diff, new.diff? (some old) = some diff → Leads old new diff)
      ∧ ∀ chain : List Snapshot, (∀ s ∈ chain, s.Made) →
        (replay old.assemblies old chain).sameNames (chain.getLastD old).assemblies = true := by
  have holdOrdered : old.Ordered := ⟨hold.1.ordered, hold.2.ordered⟩
  have hnewOrdered : new.Ordered := ⟨hnew.1.ordered, hnew.2.ordered⟩
  refine ⟨?_, ?_, diff?_none, fun diff => leads_of_diff?_eq_some holdOrdered hnewOrdered,
    fun chain hchain => ?_⟩
  · rw [diff?_eq_none_iff, sameNames_eq_true_iff holdOrdered.1 hnewOrdered.1, forall_mem_toList_iff]
    exact and_congr_left fun _ => forall_congr' fun _ => Iff.comm
  · show (if new.isEmpty = true then none else some _) = none ↔ _
    cases new.isEmpty with
    | true => exact iff_of_true rfl rfl
    | false => exact iff_of_false nofun nofun
  · have hlast : (chain.getLastD old).Made := by
      rcases List.mem_cons.mp (List.getLastD_mem_cons (l := chain) (a := old)) with h | h
      · rw [h]
        exact hold
      · exact hchain _ h
    exact (sameNames_eq_true_iff (ordered_replay holdOrdered.1 old chain) hlast.1.ordered).mpr
      (mem_keys_replay (fun _ => Iff.rfl) chain)

/-- A snapshot of a template that refers to two assemblies, one of them by a macro. -/
def olderReferences : Snapshot := ⟨ofList ["System.Xml", "$(Lib)a.dll"], ofList ["Lib"]⟩

/-- The same template after an edit. One reference has only changed its letter case. -/
def newerReferences : Snapshot :=
  ⟨((ofList ["SYSTEM.XML", "b.dll"]).insert "c.dll").erase "B.DLL", ofList ["Out"]⟩

theorem made_olderReferences : olderReferences.Made := ⟨.ofList _, .ofList _⟩

theorem made_newerReferences : newerReferences.Made :=
  ⟨.erase _ (.insert _ (.ofList _)), .ofList _⟩

/-- What has only changed its letter case is not listed. A way there and back ends with the names of
the first snapshot. -/
theorem diff?_exact_references :
    olderReferences.Made ∧ newerReferences.Made
      ∧ newerReferences.diff? (some olderReferences)
        = some ⟨⟨["c.dll"]⟩, ⟨["$(Lib)a.dll"]⟩, ⟨["Out"]⟩⟩
      ∧ Leads olderReferences newerReferences ⟨⟨["c.dll"]⟩, ⟨["$(Lib)a.dll"]⟩, ⟨["Out"]⟩⟩
      ∧ (replay olderReferences.assemblies olderReferences
          [newerReferences, olderReferences]).sameNames olderReferences.assemblies = true := by
  have hdiff : newerReferences.diff? (some olderReferences)
      = some ⟨⟨["c.dll"]⟩, ⟨["$(Lib)a.dll"]⟩, ⟨["Out"]⟩⟩ := by
    decide +kernel
  have hchain : ∀ s ∈ [newerReferences, olderReferences], s.Made := by
    exact List.forall_mem_cons.mpr
      ⟨made_newerReferences, List.forall_mem_singleton.mpr made_olderReferences⟩
  obtain ⟨-, -, -, hleads, hreplay⟩ := diff?_exact made_olderReferences made_newerReferences
  exact ⟨made_olderReferences, made_newerReferences, hdiff, hleads _ hdiff, hreplay _ hchain⟩

end Snapshot

end TextTemplate
