import Mathlib
import TextTemplate.Proofs.SavedSnapshots

/-!
# Sets of names are sets of folded names

A set of names is worked with through a handful of operations, and whoever works with several sets
at once sees their answers and the names that they list. Here the same work is done three times:

* with the sets of names themselves (`SetKeeping.ofNameSets`);
* with **tables** of two columns, a key and a spelling in each row, which are kept in the order of
  the keys (`SetKeeping.ofTables`). Some operations take rows over from another table and never look
  at the spelling, so it is to be proved that the key is the folded spelling in every row;
* with **namings**, which are finite sets of keys in the sense of mathematics with a spelling for
  each key (`SetKeeping.ofNamings`). Here an insertion brings its spelling exactly if it makes its
  key present.

Whatever is done, the answers are the same all three times. Each comparison is a relation between
the sets of one kind and those of the other that the operations keep (`SetKeeping.Agrees`), and one
run lemma (`Agrees.run`) serves them all. It also compares sets of names with others that have the
same names: nothing that is done afterwards tells them apart, up to spelling.
-/

namespace TextTemplate

namespace Text

/-- The lower case of a letter from `A` to `Z`. Every other character is left as it is. -/
def lowerAscii (c : Char) : Char :=
  if 'A' ≤ c ∧ c ≤ 'Z' then Char.ofNat (c.toNat + 32) else c

/-- **Folding a name touches the ASCII letters and nothing else.** -/
theorem fold_eq_map_lowerAscii (name : String) : fold name = name.toList.map lowerAscii := by
  refine List.map_congr_left fun c _ => ?_
  unfold Char.toLower lowerAscii
  by_cases h : c.val ≥ 'A'.val ∧ c.val ≤ 'Z'.val
  · rw [dif_pos h, if_pos (show 'A' ≤ c ∧ c ≤ 'Z' from h)]
    have hlower : 65 ≤ c.toNat := h.1
    have hupper : c.toNat ≤ 90 := h.2
    refine Char.toNat_inj.mp ?_
    rw [Char.toNat_ofNat, if_pos (Or.inl (by omega))]
    show (c.val + 32).toNat = c.val.toNat + 32
    rw [UInt32.toNat_add]
    exact Nat.mod_eq_of_lt (by
      show c.toNat + 32 < _
      omega)
  · rw [dif_neg h, if_neg (show ¬('A' ≤ c ∧ c ≤ 'Z') from h)]

end Text

open Text

/-! ## Working with any number of sets -/

/-- **What can be done with sets of names**, each of which has a number. -/
inductive SetAction where
  | insert (set : Nat) (name : String)
  | remove (set : Nat) (name : String)
  | extend (set : Nat) (names : List String)
  | ofList (set : Nat) (names : List String)
  | difference (set left right : Nat)
  | union (set left right : Nat)
  | contains (set : Nat) (name : String)
  | size (set : Nat)
  | same (left right : Nat)

/-- What an action answers. -/
inductive SetAnswer where
  | flag (b : Bool)
  | count (n : Nat)
  | nothing
deriving DecidableEq, Repr

/-- **A way of keeping sets of names.** An insertion says whether the name was missing, and a removal
whether it was there. -/
structure SetKeeping (S : Type) where
  empty : S
  insert : S → String → Bool × S
  remove : S → String → Bool × S
  extend : S → List String → S
  ofList : List String → S
  difference : S → S → S
  union : S → S → S
  contains : S → String → Bool
  size : S → Nat
  same : S → S → Bool

namespace SetKeeping

variable {S T : Type}

/-- All sets before anything has been done. -/
def start (k : SetKeeping S) : Nat → S := fun _ => k.empty

/-- Performs an action. The sets that it does not write are left as they are. -/
def perform (k : SetKeeping S) (sets : Nat → S) : SetAction → SetAnswer × (Nat → S)
  | .insert i name =>
    let (missing, s) := k.insert (sets i) name
    (.flag missing, Function.update sets i s)
  | .remove i name =>
    let (present, s) := k.remove (sets i) name
    (.flag present, Function.update sets i s)
  | .extend i names => (.nothing, Function.update sets i (k.extend (sets i) names))
  | .ofList i names => (.nothing, Function.update sets i (k.ofList names))
  | .difference i a b => (.nothing, Function.update sets i (k.difference (sets a) (sets b)))
  | .union i a b => (.nothing, Function.update sets i (k.union (sets a) (sets b)))
  | .contains i name => (.flag (k.contains (sets i) name), sets)
  | .size i => (.count (k.size (sets i)), sets)
  | .same a b => (.flag (k.same (sets a) (sets b)), sets)

/-- **The sets after a list of actions.** -/
def acts (k : SetKeeping S) : List SetAction → (Nat → S) → Nat → S
  | [], sets => sets
  | a :: actions, sets => k.acts actions (k.perform sets a).2

/-- **What a list of actions answers**, one answer for each. -/
def answers (k : SetKeeping S) : List SetAction → (Nat → S) → List SetAnswer
  | [], _ => []
  | a :: actions, sets => (k.perform sets a).1 :: k.answers actions (k.perform sets a).2

/-- **Two ways of keeping sets agree** along a relation between the sets of the one and those of the
other: the operations keep the relation, and their answers are the same. -/
structure Agrees (k : SetKeeping S) (l : SetKeeping T) (R : S → T → Prop) : Prop where
  empty : R k.empty l.empty
  insert : ∀ {s t}, R s t → ∀ name,
    (k.insert s name).1 = (l.insert t name).1 ∧ R (k.insert s name).2 (l.insert t name).2
  remove : ∀ {s t}, R s t → ∀ name,
    (k.remove s name).1 = (l.remove t name).1 ∧ R (k.remove s name).2 (l.remove t name).2
  extend : ∀ {s t}, R s t → ∀ names, R (k.extend s names) (l.extend t names)
  ofList : ∀ names, R (k.ofList names) (l.ofList names)
  difference : ∀ {s t u v}, R s t → R u v → R (k.difference s u) (l.difference t v)
  union : ∀ {s t u v}, R s t → R u v → R (k.union s u) (l.union t v)
  contains : ∀ {s t}, R s t → ∀ name, k.contains s name = l.contains t name
  size : ∀ {s t}, R s t → k.size s = l.size t
  same : ∀ {s t u v}, R s t → R u v → k.same s u = l.same t v

namespace Agrees

variable {k : SetKeeping S} {l : SetKeeping T} {R : S → T → Prop}

/-- Sets that are related stay so if one of them is written on both sides. -/
theorem update {sets : Nat → S} {others : Nat → T} (h : ∀ i, R (sets i) (others i)) {s : S} {t : T}
    (hst : R s t) (i j : Nat) : R (Function.update sets i s j) (Function.update others i t j) := by
  by_cases hj : j = i
  · subst hj
    rw [Function.update_self, Function.update_self]
    exact hst
  · rw [Function.update_of_ne hj, Function.update_of_ne hj]
    exact h j

/-- **One action** answers the same and keeps the sets related. -/
theorem perform (h : Agrees k l R) {sets : Nat → S} {others : Nat → T}
    (hR : ∀ i, R (sets i) (others i)) (a : SetAction) :
    (k.perform sets a).1 = (l.perform others a).1
      ∧ ∀ i, R ((k.perform sets a).2 i) ((l.perform others a).2 i) := by
  cases a with
  | insert i name =>
    obtain ⟨hanswer, hset⟩ := h.insert (hR i) name
    exact ⟨congrArg SetAnswer.flag hanswer, update hR hset i⟩
  | remove i name =>
    obtain ⟨hanswer, hset⟩ := h.remove (hR i) name
    exact ⟨congrArg SetAnswer.flag hanswer, update hR hset i⟩
  | extend i names => exact ⟨rfl, update hR (h.extend (hR i) names) i⟩
  | ofList i names => exact ⟨rfl, update hR (h.ofList names) i⟩
  | difference i a b => exact ⟨rfl, update hR (h.difference (hR a) (hR b)) i⟩
  | union i a b => exact ⟨rfl, update hR (h.union (hR a) (hR b)) i⟩
  | contains i name => exact ⟨congrArg SetAnswer.flag (h.contains (hR i) name), hR⟩
  | size i => exact ⟨congrArg SetAnswer.count (h.size (hR i)), hR⟩
  | same a b => exact ⟨congrArg SetAnswer.flag (h.same (hR a) (hR b)), hR⟩

/-- **A list of actions** answers the same and keeps the sets related. -/
theorem run (h : Agrees k l R) (actions : List SetAction) {sets : Nat → S} {others : Nat → T}
    (hR : ∀ i, R (sets i) (others i)) :
    k.answers actions sets = l.answers actions others
      ∧ ∀ i, R (k.acts actions sets i) (l.acts actions others i) := by
  induction actions generalizing sets others with
  | nil => exact ⟨rfl, hR⟩
  | cons a actions ih =>
    obtain ⟨hanswer, hstep⟩ := h.perform hR a
    obtain ⟨hanswers, hrest⟩ := ih hstep
    exact ⟨congrArg₂ List.cons hanswer hanswers, hrest⟩

/-- So does a list of actions on empty sets. -/
theorem run_start (h : Agrees k l R) (actions : List SetAction) :
    k.answers actions k.start = l.answers actions l.start
      ∧ ∀ i, R (k.acts actions k.start i) (l.acts actions l.start i) :=
  h.run actions fun _ => h.empty

end Agrees

/-- **Sets of names as they are.** -/
def ofNameSets : SetKeeping NameSet where
  empty := .empty
  insert := NameSet.add
  remove := NameSet.remove
  extend := NameSet.insertMany
  ofList := NameSet.ofList
  difference := NameSet.difference
  union := NameSet.union
  contains := NameSet.contains
  size := NameSet.size
  same := NameSet.sameNames

end SetKeeping

/-! ## One operation on a set of names -/

namespace NameSet

/-- A name that is there is not put in again. -/
theorem insert_eq_self {s : NameSet} (h : s.Ordered) {name : String} (hkey : fold name ∈ s.keys) :
    s.insert name = s := by
  obtain ⟨names⟩ := s
  refine congrArg NameSet.mk ?_
  induction names with
  | nil => cases hkey
  | cons n names ih =>
    obtain ⟨hfirst, hrest⟩ := List.pairwise_cons.mp h
    rw [insertInto]
    rcases List.mem_cons.mp hkey with heq | hmem
    · have hsame : sameName n name = true := beq_iff_eq.mpr heq.symm
      rw [if_neg (heq ▸ List.lt_irrefl _), if_pos hsame]
    · rw [if_pos (hfirst _ hmem), ih hrest hmem]

theorem add_fst (s : NameSet) (name : String) : (s.add name).1 = !s.contains name := by
  unfold add
  cases s.contains name <;> rfl

theorem add_snd {s : NameSet} (h : s.Ordered) (name : String) : (s.add name).2 = s.insert name := by
  unfold add
  split
  · rename_i hcontains
    exact (insert_eq_self h (contains_eq_true_iff.mp hcontains)).symm
  · rfl

/-- **A name that is taken out takes its key with it.** -/
theorem mem_keys_erase {s : NameSet} {name : String} {key : List Char} :
    key ∈ (s.erase name).keys ↔ key ∈ s.keys ∧ key ≠ fold name := by
  unfold erase keys sameName
  simp only [List.mem_map, List.mem_filter, Bool.not_eq_true', beq_eq_false_iff_ne]
  constructor
  · rintro ⟨n, ⟨hn, hne⟩, rfl⟩
    exact ⟨⟨n, hn, rfl⟩, hne⟩
  · rintro ⟨⟨n, hn, rfl⟩, hne⟩
    exact ⟨n, ⟨hn, hne⟩, rfl⟩

/-- Whether a name is there depends on the keys alone. -/
theorem contains_congr {s t : NameSet} {name : String}
    (h : fold name ∈ s.keys ↔ fold name ∈ t.keys) : s.contains name = t.contains name := by
  rw [Bool.eq_iff_iff, contains_eq_true_iff, contains_eq_true_iff, h]

/-! ### Sets with the same names -/

/-- **Sets that have the same names**, each of them listed in order. -/
structure Alike (s t : NameSet) : Prop where
  left : s.Ordered
  right : t.Ordered
  keys : ∀ key, key ∈ s.keys ↔ key ∈ t.keys

theorem Alike.insert {s t : NameSet} (h : Alike s t) (name : String) :
    Alike (s.insert name) (t.insert name) :=
  ⟨h.left.insert name, h.right.insert name,
    fun key => by rw [mem_keys_insert, mem_keys_insert, h.keys]⟩

theorem Alike.insertMany {s t : NameSet} (h : Alike s t) (names : List String) :
    Alike (s.insertMany names) (t.insertMany names) :=
  List.foldl_rel h fun name _ _ _ hrel => hrel.insert name

theorem alike_refl {s : NameSet} (h : s.Ordered) : Alike s s := ⟨h, h, fun _ => Iff.rfl⟩

/-- Sets with the same names have as many of them. -/
theorem Alike.size {s t : NameSet} (h : Alike s t) : s.size = t.size := by
  have hkeys : s.keys = t.keys :=
    beq_iff_eq.mp ((sameNames_eq_true_iff h.left h.right).mpr h.keys)
  have hlength := congrArg List.length hkeys
  rwa [NameSet.keys, NameSet.keys, List.length_map, List.length_map] at hlength

/-- **Nothing tells sets with the same names apart.** -/
theorem agrees_alike : SetKeeping.ofNameSets.Agrees SetKeeping.ofNameSets Alike where
  empty := alike_refl ordered_empty
  insert := by
    intro s t h name
    show (s.add name).1 = (t.add name).1 ∧ Alike (s.add name).2 (t.add name).2
    rw [add_fst, add_fst, add_snd h.left, add_snd h.right, contains_congr (h.keys _)]
    exact ⟨rfl, h.insert name⟩
  remove := by
    intro s t h name
    refine ⟨contains_congr (h.keys _), h.left.erase name, h.right.erase name, fun key => ?_⟩
    show key ∈ (s.erase name).keys ↔ key ∈ (t.erase name).keys
    rw [mem_keys_erase, mem_keys_erase, h.keys]
  extend := fun h names => h.insertMany names
  ofList := fun names => alike_refl (ordered_empty.insertMany names)
  difference := by
    intro s t u v h h'
    refine ⟨h.left.difference u, h.right.difference v, fun key => ?_⟩
    show key ∈ (s.difference u).keys ↔ key ∈ (t.difference v).keys
    rw [mem_keys_difference, mem_keys_difference, h.keys, h'.keys]
  union := by
    intro s t u v h h'
    refine ⟨h.left.union u, h.right.union v, fun key => ?_⟩
    show key ∈ (s.union u).keys ↔ key ∈ (t.union v).keys
    rw [mem_keys_union, mem_keys_union, h.keys, h'.keys]
  contains := fun h name => contains_congr (h.keys _)
  size := fun h => h.size
  same := by
    intro s t u v h h'
    show s.sameNames u = t.sameNames v
    rw [Bool.eq_iff_iff, sameNames_eq_true_iff h.left h'.left,
      sameNames_eq_true_iff h.right h'.right]
    simp only [h.keys, h'.keys]

end NameSet

/-! ## Namings -/

/-- **A set of keys, and a spelling for each key.** What is said of other keys does not matter. -/
structure Naming where
  keys : Finset (List Char)
  spelling : List Char → String

namespace Naming

/-- No keys. -/
def empty : Naming := ⟨∅, fun _ => ""⟩

/-- One more key. Its spelling is that of the name if the key was missing, and stays otherwise. -/
def insert (n : Naming) (name : String) : Naming where
  keys := Insert.insert (fold name) n.keys
  spelling := if fold name ∈ n.keys then n.spelling else Function.update n.spelling (fold name) name

/-- The names of a list, one after another. -/
def extend (n : Naming) (names : List String) : Naming := names.foldl insert n

/-- The keys of the first one that the second one does not have, with their spellings. -/
def difference (n m : Naming) : Naming := ⟨n.keys \ m.keys, n.spelling⟩

/-- The keys of both, spelled as in the first one where it has them and else as in the second. -/
def union (n m : Naming) : Naming where
  keys := n.keys ∪ m.keys
  spelling key := if key ∈ n.keys then n.spelling key else m.spelling key

end Naming

/-- **Namings**: each answer is what it is for finite sets. -/
def SetKeeping.ofNamings : SetKeeping Naming where
  empty := .empty
  insert n name := (decide (fold name ∉ n.keys), n.insert name)
  remove n name := (decide (fold name ∈ n.keys), { n with keys := n.keys.erase (fold name) })
  extend := Naming.extend
  ofList := Naming.empty.extend
  difference := Naming.difference
  union := Naming.union
  contains n name := decide (fold name ∈ n.keys)
  size n := n.keys.card
  same n m := decide (n.keys = m.keys)

namespace NameSet

/-- **A set of names shows a naming**: it has the same keys, and lists each name as it is spelled
there. -/
structure Shows (s : NameSet) (n : Naming) : Prop where
  ordered : s.Ordered
  keys : ∀ key, key ∈ s.keys ↔ key ∈ n.keys
  spelling : ∀ name ∈ s.toList, n.spelling (fold name) = name

theorem Shows.contains {s : NameSet} {n : Naming} (h : s.Shows n) (name : String) :
    s.contains name = decide (fold name ∈ n.keys) := by
  rw [Bool.eq_iff_iff, contains_eq_true_iff, decide_eq_true_iff, h.keys]

/-- **An insertion brings its spelling if it makes its key present.** -/
theorem Shows.insert {s : NameSet} {n : Naming} (h : s.Shows n) (name : String) :
    (s.insert name).Shows (n.insert name) := by
  refine ⟨h.ordered.insert name, fun key => ?_, fun m hm => ?_⟩
  · rw [mem_keys_insert, h.keys]
    exact Finset.mem_insert.symm
  · show (if fold name ∈ n.keys then n.spelling
      else Function.update n.spelling (fold name) name) (fold m) = m
    rcases (mem_toList_insert h.ordered).mp hm with hm | ⟨rfl, hmissing⟩
    · have hold := h.spelling m hm
      split
      · exact hold
      · rename_i hmissing
        have hne : fold m ≠ fold name := fun heq =>
          hmissing (heq ▸ (h.keys _).mp (List.mem_map_of_mem hm))
        rw [Function.update_of_ne hne, hold]
    · rw [if_neg fun hmem => hmissing ((h.keys _).mpr hmem), Function.update_self]

theorem Shows.insertMany {s : NameSet} {n : Naming} (h : s.Shows n) (names : List String) :
    (s.insertMany names).Shows (n.extend names) :=
  List.foldl_rel h fun name _ _ _ hrel => hrel.insert name

theorem shows_empty : empty.Shows Naming.empty :=
  ⟨ordered_empty, fun _ => iff_of_false List.not_mem_nil (Finset.notMem_empty _),
    List.forall_mem_nil _⟩

/-- A name of a union is one of the first set, or else one of the second. -/
theorem mem_toList_union {s t : NameSet} (hs : s.Ordered) {name : String}
    (h : name ∈ (s.union t).toList) :
    name ∈ s.toList ∨ (fold name ∉ s.keys ∧ name ∈ t.toList) :=
  ((mem_toList_insertMany hs).mp h).imp_right fun ⟨hmissing, hfind⟩ =>
    ⟨hmissing, List.mem_of_find?_eq_some hfind⟩

/-- **Sets of names and namings agree.** -/
theorem agrees_shows : SetKeeping.ofNameSets.Agrees SetKeeping.ofNamings Shows where
  empty := shows_empty
  insert := by
    intro s n h name
    show (s.add name).1 = decide (fold name ∉ n.keys) ∧ (s.add name).2.Shows (n.insert name)
    rw [add_fst, add_snd h.ordered, h.contains, decide_not]
    exact ⟨rfl, h.insert name⟩
  remove := by
    intro s n h name
    refine ⟨h.contains name, h.ordered.erase name, fun key => ?_, fun m hm => ?_⟩
    · show key ∈ (s.erase name).keys ↔ key ∈ n.keys.erase (fold name)
      rw [mem_keys_erase, Finset.mem_erase, h.keys, and_comm]
    · exact h.spelling m (List.mem_filter.mp hm).1
  extend := fun h names => h.insertMany names
  ofList := fun names => shows_empty.insertMany names
  difference := by
    intro s n t m h h'
    refine ⟨h.ordered.difference t, fun key => ?_, fun name hname => ?_⟩
    · show key ∈ (s.difference t).keys ↔ key ∈ n.keys \ m.keys
      rw [mem_keys_difference, Finset.mem_sdiff, h.keys, h'.keys]
    · exact h.spelling name (mem_toList_difference.mp hname).1
  union := by
    intro s n t m h h'
    refine ⟨h.ordered.union t, fun key => ?_, fun name hname => ?_⟩
    · show key ∈ (s.union t).keys ↔ key ∈ n.keys ∪ m.keys
      rw [mem_keys_union, Finset.mem_union, h.keys, h'.keys]
    · show (if fold name ∈ n.keys then n.spelling (fold name) else m.spelling (fold name)) = name
      rcases mem_toList_union h.ordered hname with hleft | ⟨hmissing, hright⟩
      · rw [if_pos ((h.keys _).mp (List.mem_map_of_mem hleft)), h.spelling name hleft]
      · rw [if_neg fun hmem => hmissing ((h.keys _).mpr hmem), h'.spelling name hright]
  contains := fun h name => h.contains name
  size := by
    intro s n h
    have hkeys : s.keys.toFinset = n.keys := Finset.ext fun key => by
      rw [List.mem_toFinset, h.keys]
    show s.size = n.keys.card
    rw [← hkeys, List.toFinset_card_of_nodup h.ordered.nodup]
    exact (List.length_map _).symm
  same := by
    intro s n t m h h'
    show s.sameNames t = decide (n.keys = m.keys)
    rw [Bool.eq_iff_iff, sameNames_eq_true_iff h.ordered h'.ordered, decide_eq_true_iff,
      Finset.ext_iff]
    simp only [h.keys, h'.keys]

end NameSet

/-! ## Tables -/

/-- **A table of names**: a key and a spelling in each row. -/
abbrev NameTable := List (List Char × String)

namespace NameTable

/-- Whether a row has the key. -/
def hasKey (t : NameTable) (key : List Char) : Bool := t.any fun row => row.1 == key

/-- Writes a row in its place, over the one that has the same key. -/
def put (key : List Char) (name : String) : NameTable → NameTable
  | [] => [(key, name)]
  | row :: rows =>
    if row.1 < key then row :: put key name rows
    else if row.1 = key then (key, name) :: rows
    else (key, name) :: row :: rows

/-- Writes a row unless there is one with the same key. -/
def putMissing (t : NameTable) (row : List Char × String) : NameTable :=
  if t.hasKey row.1 then t else put row.1 row.2 t

/-- One more name. -/
def insert (t : NameTable) (name : String) : Bool × NameTable :=
  if t.hasKey (fold name) then (false, t) else (true, put (fold name) name t)

/-- The names of a list, one after another. -/
def extend (t : NameTable) (names : List String) : NameTable :=
  names.foldl (fun t name => (t.insert name).2) t

/-- **A table that is well kept**: each key is the spelling in lower case, as far as it is ASCII, and
the keys are in the strict order of their bytes. -/
structure WellKept (t : NameTable) : Prop where
  folded : ∀ row ∈ t, row.1 = row.2.toList.map lowerAscii
  distinct : (t.map Prod.fst).Nodup
  increasing :
    (t.map fun row => utf8Bytes (String.ofList row.1)).Pairwise (· < ·)

end NameTable

/-- **Tables.** A difference keeps rows, and a union takes rows over, as they are. -/
def SetKeeping.ofTables : SetKeeping NameTable where
  empty := []
  insert := NameTable.insert
  remove t name := (t.hasKey (fold name), t.filter fun row => row.1 != fold name)
  extend := NameTable.extend
  ofList := NameTable.extend []
  difference t u := t.filter fun row => !u.hasKey row.1
  union t u := u.foldl NameTable.putMissing t
  contains t name := t.hasKey (fold name)
  size := List.length
  same t u := t.length == u.length && t.map Prod.fst == u.map Prod.fst

namespace NameSet

/-- **The table of a set of names.** -/
def rows (s : NameSet) : NameTable := s.names.map fun name => (fold name, name)

theorem map_fst_rows (s : NameSet) : s.rows.map Prod.fst = s.keys := by
  rw [rows, List.map_map]
  rfl

theorem hasKey_rows (s : NameSet) (name : String) : s.rows.hasKey (fold name) = s.contains name := by
  rw [NameTable.hasKey, rows, List.any_map]
  rfl

/-- A name that is missing is written where it is put in. -/
theorem put_rows {s : NameSet} {name : String} (hkey : fold name ∉ s.keys) :
    NameTable.put (fold name) name s.rows = (s.insert name).rows := by
  obtain ⟨names⟩ := s
  show NameTable.put (fold name) name (names.map _) = (insertInto name names).map _
  induction names with
  | nil => rfl
  | cons n names ih =>
    obtain ⟨hne, hrest⟩ := not_or.mp (mt List.mem_cons.mpr hkey)
    rw [List.map_cons, NameTable.put, insertInto]
    split
    · rw [ih hrest, List.map_cons]
    · have hsame : ¬ sameName n name = true := fun hsame => hne (beq_iff_eq.mp hsame).symm
      rw [if_neg fun heq => hne heq.symm, if_neg hsame, List.map_cons, List.map_cons]

/-- **Writing a row unless its key is there** is putting the name in. -/
theorem putMissing_rows {s : NameSet} (h : s.Ordered) (name : String) :
    s.rows.putMissing (fold name, name) = (s.insert name).rows := by
  unfold NameTable.putMissing
  rw [hasKey_rows]
  split
  · rename_i hcontains
    rw [insert_eq_self h (contains_eq_true_iff.mp hcontains)]
  · rename_i hcontains
    exact put_rows (mt contains_eq_true_iff.mpr hcontains)

theorem insert_rows {s : NameSet} (h : s.Ordered) (name : String) :
    s.rows.insert name = (!s.contains name, (s.insert name).rows) := by
  rw [← putMissing_rows h, NameTable.insert, NameTable.putMissing, hasKey_rows]
  cases s.contains name <;> rfl

/-- A set of names and its table. -/
def Tabulates (s : NameSet) (t : NameTable) : Prop := s.Ordered ∧ t = s.rows

theorem tabulates_rows {s : NameSet} (h : s.Ordered) : s.Tabulates s.rows := ⟨h, rfl⟩

theorem Tabulates.insertMany {s : NameSet} {t : NameTable} (h : s.Tabulates t)
    (names : List String) : (s.insertMany names).Tabulates (t.extend names) := by
  refine List.foldl_rel h fun name _ u v huv => ?_
  obtain ⟨hu, rfl⟩ := huv
  rw [insert_rows hu]
  exact tabulates_rows (hu.insert name)

/-- **Sets of names and tables agree.** -/
theorem agrees_tabulates : SetKeeping.ofNameSets.Agrees SetKeeping.ofTables Tabulates where
  empty := tabulates_rows ordered_empty
  insert := by
    rintro s _ ⟨h, rfl⟩ name
    show (s.add name).1 = (s.rows.insert name).1
      ∧ (s.add name).2.Tabulates (s.rows.insert name).2
    rw [add_fst, add_snd h, insert_rows h]
    exact ⟨rfl, tabulates_rows (h.insert name)⟩
  remove := by
    rintro s _ ⟨h, rfl⟩ name
    refine ⟨(hasKey_rows s name).symm, h.erase name, ?_⟩
    show s.rows.filter (fun row => row.1 != fold name) = (s.erase name).rows
    rw [rows, List.filter_map]
    rfl
  extend := fun h names => h.insertMany names
  ofList := fun names => (tabulates_rows ordered_empty).insertMany names
  difference := by
    rintro s _ u _ ⟨h, rfl⟩ ⟨-, rfl⟩
    refine ⟨h.difference u, ?_⟩
    show (s.names.map _).filter (fun row => !u.rows.hasKey row.1) = (s.difference u).rows
    rw [List.filter_map]
    simp only [Function.comp_def, hasKey_rows]
    rfl
  union := by
    rintro s _ u _ ⟨h, rfl⟩ ⟨-, rfl⟩
    show (s.union u).Tabulates ((u.names.map _).foldl NameTable.putMissing s.rows)
    rw [List.foldl_map]
    refine List.foldl_rel (tabulates_rows h) fun name _ v w hvw => ?_
    obtain ⟨hv, rfl⟩ := hvw
    rw [putMissing_rows hv]
    exact tabulates_rows (hv.insert name)
  contains := by
    rintro s _ ⟨-, rfl⟩ name
    exact (hasKey_rows s name).symm
  size := by
    rintro s _ ⟨-, rfl⟩
    exact (List.length_map _).symm
  same := by
    rintro s _ u _ ⟨-, rfl⟩ ⟨-, rfl⟩
    show s.sameNames u = (s.rows.length == u.rows.length
      && s.rows.map Prod.fst == u.rows.map Prod.fst)
    rw [map_fst_rows, map_fst_rows, sameNames, Bool.eq_iff_iff, Bool.and_eq_true, beq_iff_eq,
      beq_iff_eq]
    refine ⟨fun hkeys => ⟨?_, hkeys⟩, And.right⟩
    rw [← List.length_map (f := Prod.fst), map_fst_rows, hkeys, ← map_fst_rows, List.length_map]

/-- **The table of a set that is listed in order is well kept.** -/
theorem wellKept_rows {s : NameSet} (h : s.Ordered) : s.rows.WellKept where
  folded := by
    intro row hrow
    obtain ⟨name, -, rfl⟩ := List.mem_map.mp hrow
    exact fold_eq_map_lowerAscii name
  distinct := by
    rw [map_fst_rows]
    exact h.nodup
  increasing := by
    rw [rows, List.map_map, List.pairwise_map]
    exact h.pairwise_utf8Bytes

open SetKeeping

/-- **Sets of names are sets of folded names with a spelling for each.** Take any list of actions on
any number of sets, all of them empty at first. Kept as tables, the sets have in every row the
spelling in lower case as the key, where only ASCII letters have a lower case; the keys are distinct
and in the strict order of their bytes; and the answers are those of the sets. Kept as namings, the
sets have the same keys, list the same spellings and give the same answers: so what is answered, and
what is in a set after any action, is what it is for sets of keys, and a name is spelled as the
insertion spelled it that last made it present. And two sets that have the same names can be used
for each other in whatever is done later: the answers are the same, and all sets keep the same names.
-/
theorem acts_exact (actions : List SetAction) :
    let sets := ofNameSets.acts actions ofNameSets.start
    let tables := ofTables.acts actions ofTables.start
    let namings := ofNamings.acts actions ofNamings.start
    (∀ i, (tables i).WellKept
        ∧ (tables i).map Prod.fst = (sets i).keys ∧ (tables i).map Prod.snd = (sets i).toList)
      ∧ ofNameSets.answers actions ofNameSets.start = ofTables.answers actions ofTables.start
      ∧ (∀ i, (sets i).Shows (namings i))
      ∧ ofNameSets.answers actions ofNameSets.start = ofNamings.answers actions ofNamings.start
      ∧ ∀ i j, (sets i).sameNames (sets j) = true → ∀ later,
          ofNameSets.answers later sets
              = ofNameSets.answers later (Function.update sets i (sets j))
            ∧ ∀ n, (ofNameSets.acts later sets n).sameNames
                (ofNameSets.acts later (Function.update sets i (sets j)) n) = true := by
  intro sets tables namings
  obtain ⟨htableAnswers, htables⟩ := agrees_tabulates.run_start actions
  obtain ⟨hnamingAnswers, hnamings⟩ := agrees_shows.run_start actions
  refine ⟨fun i => ?_, htableAnswers, hnamings, hnamingAnswers, fun i j hsame later => ?_⟩
  · obtain ⟨hordered, hrows⟩ := htables i
    have htable : tables i = (sets i).rows := hrows
    rw [htable]
    refine ⟨wellKept_rows hordered, map_fst_rows _, ?_⟩
    rw [rows, List.map_map]
    exact List.map_id _
  · have hordered : ∀ n, (sets n).Ordered := fun n => (hnamings n).ordered
    have halike : ∀ n, Alike (sets n) (Function.update sets i (sets j) n) := by
      intro n
      by_cases hn : n = i
      · subst hn
        rw [Function.update_self]
        exact ⟨hordered n, hordered j, (sameNames_eq_true_iff (hordered n) (hordered j)).mp hsame⟩
      · rw [Function.update_of_ne hn]
        exact alike_refl (hordered n)
    obtain ⟨hanswers, hsets⟩ := agrees_alike.run later halike
    exact ⟨hanswers, fun n =>
      (sameNames_eq_true_iff (hsets n).left (hsets n).right).mpr (hsets n).keys⟩

/-- Two sets with the same three names. A letter that is not ASCII has no lower case, and the first
set has had one of its names twice. -/
def spellings : List SetAction :=
  [.ofList 0 ["OutDir", "Ärger.dll"], .insert 0 "outdir", .insert 0 "ärger.dll",
    .remove 0 "OUTDIR", .insert 0 "outDIR", .extend 1 ["ÄRGER.DLL", "ärger.dll", "OutDir"],
    .same 0 1]

/-- What is done later with one of them or the other. -/
def laterActions : List SetAction := [.union 2 0 1, .difference 3 0 1, .size 2, .same 3 4]

/-- The first set spells the name that was taken out as it was put in again. The later actions give
the same answers if the second set takes the place of the first, and their union is then spelled
otherwise. -/
theorem acts_exact_spellings :
    let sets := ofNameSets.acts spellings ofNameSets.start
    ofNamings.answers spellings ofNamings.start
        = [.nothing, .flag false, .flag true, .flag true, .flag true, .nothing, .flag true]
      ∧ (sets 0).toList = ["outDIR", "Ärger.dll", "ärger.dll"]
      ∧ (sets 0).sameNames (sets 1) = true
      ∧ ofNameSets.answers laterActions (Function.update sets 0 (sets 1))
        = [.nothing, .nothing, .count 3, .flag true]
      ∧ (ofNameSets.acts laterActions (Function.update sets 0 (sets 1)) 2).toList
        = ["OutDir", "ÄRGER.DLL", "ärger.dll"] := by
  intro sets
  obtain ⟨-, -, -, hanswers, hlater⟩ := acts_exact spellings
  have hsame : (sets 0).sameNames (sets 1) = true := by decide +kernel
  refine ⟨?_, ?_, hsame, ?_, ?_⟩
  · rw [← hanswers]
    decide +kernel
  · decide +kernel
  · rw [← (hlater 0 1 hsame laterActions).1]
    decide +kernel
  · decide +kernel

end NameSet

end TextTemplate
