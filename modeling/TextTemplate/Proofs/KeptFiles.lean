import TextTemplate.FileTree

/-!
# Files that are kept

A file may read back what is written to it or not (`FileTree.ReadsBack`). One in a directory of the
tree does (`FileTree.Keeps`), whatever is written. Of what is written elsewhere nothing is kept, so
there a text is read back only if it was to be read there before.

The path is followed twice, once when the file is written and once when it is read, and the tree is
not the same the second time. But a path to a directory leads to the same directory after a file has
been put in, unless the file took the place of a directory on the way (`foldlM_step_put`), and a file
that takes the place of a directory is not written at all.
-/

namespace TextTemplate.FileTree

/-- **A file that reads back what is written to it.** -/
def ReadsBack (t : FileTree) (path content : String) : Prop :=
  ∀ t', t.write path content = .ok t' → t'.read path = .ok content

/-- **Whether a path leads into a directory of the tree**, so that a file written there is kept. -/
def Keeps (t : FileTree) (path : String) : Prop :=
  ∃ ps names, pieces path = .ok ps
    ∧ (splitLast ps).1.foldlM t.step (start path) = .ok (.directory names)

/-! ## The last piece of a path -/

/-- If the last piece of a path can be the name of a file, it is the last piece as it is written. -/
theorem eq_append_of_isFileName_splitLast {ps : List String}
    (h : isFileName (splitLast ps).2 = true) : ps = (splitLast ps).1 ++ [(splitLast ps).2] := by
  have hslash : ∀ s : String, isFileName (s ++ "/") = false := by
    intro s
    simp [isFileName]
  rcases List.eq_nil_or_concat ps with rfl | ⟨front, last, rfl⟩
  · cases h
  · rw [List.concat_eq_append] at h ⊢
    unfold splitLast at h ⊢
    rw [List.reverse_append, List.reverse_singleton, List.singleton_append] at h ⊢
    by_cases hlast : last = ""
    · subst hlast
      -- The path ends in a slash, which then belongs to the last piece.
      rw [List.getLast?_concat] at h
      split at h
      · cases h
      · simp only [beq_self_eq_true, if_true, hslash] at h
        cases h
    · rw [List.dropWhile_cons_of_neg (by simpa using hlast), List.getLast?_concat]
      simp [hlast]

/-! ## Putting a file in -/

/-- The content of one file is replaced, and the others are as before. -/
theorem lookup_map_replace (names other : List String) (content : String)
    (files : List (List String × String)) :
    (files.map fun (n, c) => if n == names then (n, content) else (n, c)).lookup other
      = if other = names then (files.lookup names).map fun _ => content
        else files.lookup other := by
  induction files with
  | nil => exact (ite_self none).symm
  | cons file files ih =>
    obtain ⟨n, c⟩ := file
    rw [List.map_cons]
    dsimp only
    by_cases hn : n = names
    · subst hn
      rw [if_pos (beq_self_eq_true n), List.lookup_cons, List.lookup_cons_self, List.lookup_cons,
        ih]
      by_cases h : other = n
      · rw [if_pos h, if_pos h, beq_iff_eq.mpr h]
        rfl
      · rw [if_neg h, if_neg h, beq_eq_false_iff_ne.mpr h]
    · rw [if_neg (by simpa using hn), List.lookup_cons, List.lookup_cons, List.lookup_cons, ih,
        beq_eq_false_iff_ne.mpr (Ne.symm hn)]
      by_cases h : other = n
      · have hne : other ≠ names := fun heq => hn (h.symm.trans heq)
        rw [beq_iff_eq.mpr h, if_neg hne, if_neg hne]
      · rw [beq_eq_false_iff_ne.mpr h]

/-- A file that was put in is found with its content, and the others as before. -/
theorem lookup_put (t : FileTree) (names other : List String) (content : String) :
    (t.put names content).files.lookup other
      = if other = names then some content else t.files.lookup other := by
  unfold put
  split
  · rename_i hnone
    rw [List.lookup_append]
    by_cases h : other = names
    · subst h
      rw [hnone, if_pos rfl, Option.none_or, List.lookup_cons, beq_self_eq_true]
    · rw [if_neg h, List.lookup_cons, beq_eq_false_iff_ne.mpr h, List.lookup_nil, Option.or_none]
  · rename_i old hold
    rw [lookup_map_replace, hold]
    rfl

/-- The files that were there are there. -/
theorem any_put {t : FileTree} {p : List String → Bool} (names : List String) (content : String)
    (h : (t.files.any fun x => p x.1) = true) :
    ((t.put names content).files.any fun x => p x.1) = true := by
  unfold put
  split
  · rw [List.any_append, h, Bool.true_or]
  · obtain ⟨x, hx, hp⟩ := List.any_eq_true.mp h
    refine List.any_eq_true.mpr ⟨_, List.mem_map_of_mem hx, ?_⟩
    dsimp only
    split <;> exact hp

theorem at?_put_self (t : FileTree) (names : List String) (content : String) :
    (t.put names content).at? names = some (.file names content) := by
  unfold at?
  rw [lookup_put, if_pos rfl]

/-- What is no file stays as it is, unless the file took the place of a directory. -/
theorem at?_put_of_not_isFile {t : FileTree} {names other : List String} {place : Place}
    (content : String) (hnames : ∀ other, t.at? names ≠ some (.directory other))
    (hplace : place.isFile = false) (h : t.at? other = some place) :
    (t.put names content).at? other = some place := by
  have hat := h
  unfold at? at h
  split at h
  · cases h
    cases hplace
  · rename_i hnone
    split at h
    · rename_i hany
      cases h
      have hne : other ≠ names := fun heq => hnames other (heq ▸ hat)
      unfold at?
      rw [lookup_put, if_neg hne, hnone]
      exact if_pos (any_put names content hany)
    · cases h

/-- **A step to a directory is the same after a file has been put in**, unless the file took the
place of a directory. -/
theorem step_put {t : FileTree} {names : List String} (content : String)
    (hnames : ∀ other, t.at? names ≠ some (.directory other)) {place next : Place} {piece : String}
    (hnext : next.isFile = false) (h : t.step place piece = .ok next) :
    (t.put names content).step place piece = .ok next := by
  have hlookUp : t.lookUp piece place = some next →
      (t.put names content).lookUp piece place = some next := by
    intro hfound
    cases place with
    | directory found => exact at?_put_of_not_isFile content hnames hnext hfound
    | system _ => exact hfound
    | file _ _ | above | nullDevice => cases hfound
  unfold step at h ⊢
  split at h
  · cases h
  · rename_i hfile
    rw [if_neg hfile]
    split at h
    · rename_i hdot
      rw [if_pos hdot]
      exact h
    · rename_i hdot
      rw [if_neg hdot]
      split at h
      · rename_i hup
        rw [if_pos hup]
        exact h
      · rename_i hup
        rw [if_neg hup]
        split at h
        · cases h
        · rename_i hlimit
          rw [if_neg hlimit]
          split at h
          · rename_i found hfound
            cases h
            rw [hlookUp hfound]
            rfl
          · cases h

/-- A piece that is a name leads to what it stands for. -/
theorem step_of_lookUp_eq_some {t : FileTree} {place found : Place} {piece : String}
    (hplace : place.isFile = false) (hdots : isDots piece = false)
    (hlimit : ¬ nameLimit < piece.utf8ByteSize) (h : t.lookUp piece place = some found) :
    t.step place piece = .ok found := by
  rw [isDots, Bool.or_eq_false_iff] at hdots
  unfold step
  rw [hplace, if_neg Bool.false_ne_true, hdots.1, if_neg Bool.false_ne_true, hdots.2,
    if_neg Bool.false_ne_true, if_neg hlimit, h]
  rfl

/-- Nothing comes behind a file. -/
theorem isFile_eq_false_of_foldlM_step {t : FileTree} {ps : List String} {place last : Place}
    (hlast : last.isFile = false) (h : ps.foldlM t.step place = .ok last) :
    place.isFile = false := by
  cases ps with
  | nil =>
    cases h
    exact hlast
  | cons piece ps =>
    cases hfile : place.isFile with
    | false => rfl
    | true =>
      rw [List.foldlM_cons, step, if_pos hfile] at h
      cases h

/-- **A path to a directory leads to the same directory.** -/
theorem foldlM_step_put {t : FileTree} {names : List String} (content : String)
    (hnames : ∀ other, t.at? names ≠ some (.directory other)) {ps : List String}
    {place last : Place} (hlast : last.isFile = false) (h : ps.foldlM t.step place = .ok last) :
    ps.foldlM (t.put names content).step place = .ok last := by
  induction ps generalizing place with
  | nil => exact h
  | cons piece ps ih =>
    rw [List.foldlM_cons] at h ⊢
    cases hstep : t.step place piece with
    | error fault =>
      rw [hstep] at h
      cases h
    | ok next =>
      rw [hstep] at h
      rw [step_put content hnames (isFile_eq_false_of_foldlM_step hlast h) hstep]
      exact ih h

/-- **What a successful write does** to a tree that keeps it. -/
theorem exists_put_of_write {t t' : FileTree} {path content : String} (hkeeps : t.Keeps path)
    (h : t.write path content = .ok t') :
    ∃ directory names name, pieces path = .ok (directory ++ [name])
      ∧ directory.foldlM t.step (start path) = .ok (.directory names)
      ∧ isDots name = false ∧ ¬ nameLimit < name.utf8ByteSize
      ∧ (∀ other, t.at? (names ++ [name]) ≠ some (.directory other))
      ∧ t' = t.put (names ++ [name]) content := by
  obtain ⟨ps, names, hps, hdirectory⟩ := hkeeps
  have hlast := @eq_append_of_isFileName_splitLast ps
  unfold write at h
  rw [hps] at h
  dsimp only [bind, Except.bind] at h
  generalize splitLast ps = parts at h hlast hdirectory
  obtain ⟨directory, name⟩ := parts
  dsimp only at h hlast hdirectory
  rw [hdirectory] at h
  dsimp only at h
  rw [if_neg (show ¬ (Place.directory names).isFile = true from Bool.false_ne_true)] at h
  split at h
  · cases h
  · rename_i hname
    have hname : isFileName name = true := by simpa using hname
    have hdots : isDots name = false := by
      rw [isFileName, Bool.not_eq_true', Bool.or_eq_false_iff] at hname
      exact hname.1
    split at h
    · cases h
    · rename_i hlimit
      refine ⟨directory, names, name, hps.trans (congrArg _ (hlast hname)), hdirectory, hdots,
        hlimit, ?_⟩
      split at h
      · cases h
      · cases h
      · rename_i hplace hnotDirectory _
        cases hplace
        exact ⟨hnotDirectory, (Except.ok.inj h).symm⟩
      · rename_i hnever
        exact absurd rfl (hnever names)

/-- **A new file can be written in every directory of the tree.** -/
theorem write_of_lookUp_eq_none {t : FileTree} {path name : String}
    {ps directory names : List String} (hpieces : pieces path = .ok ps)
    (hlast : splitLast ps = (directory, name))
    (hplace : directory.foldlM t.step (start path) = .ok (.directory names))
    (hname : isFileName name = true) (hlimit : ¬ nameLimit < name.utf8ByteSize)
    (hnew : t.lookUp name (.directory names) = none) (content : String) :
    t.write path content = .ok (t.put (names ++ [name]) content) := by
  unfold write
  rw [hpieces]
  dsimp only [bind, Except.bind]
  rw [hlast]
  dsimp only
  rw [hplace]
  dsimp only
  rw [if_neg (show ¬ (Place.directory names).isFile = true from Bool.false_ne_true), hname,
    if_neg (show ¬ (!true) = true from Bool.false_ne_true), if_neg hlimit, hnew]
  rfl

/-- **A file in a directory of the tree reads back whatever is written to it.** -/
theorem Keeps.readsBack {t : FileTree} {path : String} (hkeeps : t.Keeps path) (content : String) :
    t.ReadsBack path content := by
  intro t' h
  obtain ⟨directory, names, name, hpieces, hdirectory, hdots, hlimit, hnone, rfl⟩ :=
    exists_put_of_write hkeeps h
  have hfind : (t.put (names ++ [name]) content).find path
      = .ok (.file (names ++ [name]) content) := by
    unfold find
    rw [hpieces]
    show (directory ++ [name]).foldlM (t.put (names ++ [name]) content).step (start path) = _
    rw [List.foldlM_append, foldlM_step_put content hnone rfl hdirectory]
    show [name].foldlM (t.put (names ++ [name]) content).step (.directory names) = _
    have hstep : (t.put (names ++ [name]) content).step (.directory names) name
        = .ok (.file (names ++ [name]) content) :=
      step_of_lookUp_eq_some rfl hdots hlimit (at?_put_self t (names ++ [name]) content)
    rw [List.foldlM_cons, hstep]
    rfl
  unfold read
  rw [hfind]
  rfl

end TextTemplate.FileTree
