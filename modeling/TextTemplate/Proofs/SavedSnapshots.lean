import TextTemplate.Command.Deps
import TextTemplate.Proofs.CommandRuns
import TextTemplate.Proofs.KeptFiles
import TextTemplate.Proofs.LetterCase
import TextTemplate.Proofs.SavedDocuments
import TextTemplate.Proofs.SnapshotChanges

/-!
# Saved snapshots are read back

A snapshot is saved as two lists of names, and it is read by putting the names of each list into an
empty set, one after another. If the names are in strict order, each of them comes behind all that
were put in before it, and the set that is made lists them as they were written
(`NameSet.ofList_toList`). The sets of every snapshot that is taken are in strict order.

The order is that of the characters of the folded names. A file knows only bytes, and it is shown
that the order of the bytes is the same (`Text.utf8Bytes_lower_lt`): the first byte of a character
grows with the character, and where it is the same so do the next ones.

At the end a snapshot is followed from one run of the command to another: into a file, out of it,
and through the comparison, which finds that nothing has changed.
-/

namespace TextTemplate

/-! ## The order of bytes -/

namespace Text

/-- The bytes of a text. -/
def utf8Bytes (s : String) : List UInt8 := s.toUTF8.data.toList

/-- **A smaller character has smaller bytes**, whatever follows it. -/
theorem utf8EncodeChar_append_lt {c d : Char} (h : c < d) (x y : List UInt8) :
    String.utf8EncodeChar c ++ x < String.utf8EncodeChar d ++ y := by
  have hlt : c.val.toNat < d.val.toNat := h
  have hd : d.val.toNat < 0x110000 := by
    have := d.valid
    simp only [UInt32.isValidChar, Nat.isValidChar] at this
    omega
  unfold String.utf8EncodeChar
  generalize c.val.toNat = m at hlt
  generalize d.val.toNat = n at hlt hd
  have hdigits : ∀ k, k / 4096 = k / 64 / 64 ∧ k / 262144 = k / 64 / 64 / 64 := fun k => by omega
  simp only [hdigits]
  -- With more bytes the first one is greater; with as many, the bytes are digits to the base 64.
  repeat' split
  all_goals
    simp only [List.cons_append, List.cons_lt_cons_iff, UInt8.lt_iff_toNat_lt, ← UInt8.toNat_inj,
      UInt8.toNat_ofNat', Nat.reducePow]
    omega

/-- **Texts are ordered by their bytes as by their characters.** -/
theorem flatMap_utf8EncodeChar_lt {cs ds : List Char} (h : cs < ds) :
    cs.flatMap String.utf8EncodeChar < ds.flatMap String.utf8EncodeChar := by
  induction cs generalizing ds with
  | nil =>
    cases ds with
    | nil => exact absurd h (List.lt_irrefl _)
    | cons d ds =>
      obtain ⟨b, bs, hencode⟩ := List.exists_cons_of_ne_nil (String.utf8EncodeChar_ne_nil (c := d))
      rw [List.flatMap_nil, List.flatMap_cons, hencode]
      exact List.nil_lt_cons _ _
  | cons c cs ih =>
    cases ds with
    | nil => exact absurd h (List.not_lt_nil _)
    | cons d ds =>
      rw [List.flatMap_cons, List.flatMap_cons]
      rcases List.cons_lt_cons_iff.mp h with hlt | ⟨rfl, hlt⟩
      · exact utf8EncodeChar_append_lt hlt _ _
      · exact List.append_left_lt (ih hlt)

theorem utf8Bytes_ofList (cs : List Char) :
    utf8Bytes (String.ofList cs) = cs.flatMap String.utf8EncodeChar := by
  unfold utf8Bytes
  rw [String.toUTF8_eq_toByteArray, String.toByteArray_ofList]
  exact List.data_toByteArray.symm ▸ rfl

/-- A name that comes first in the folded order comes first in the order of bytes. -/
theorem utf8Bytes_lower_lt {a b : String} (h : fold a < fold b) :
    utf8Bytes (lower a) < utf8Bytes (lower b) := by
  unfold lower
  rw [utf8Bytes_ofList, utf8Bytes_ofList]
  exact flatMap_utf8EncodeChar_lt h

end Text

/-! ## Sets of names as lists -/

namespace NameSet

open Text

/-- A name that comes last is put in at the end. -/
theorem insertInto_of_forall_lt {name : String} {names : List String}
    (h : ∀ n ∈ names, fold n < fold name) : insertInto name names = names ++ [name] := by
  induction names with
  | nil => rfl
  | cons n names ih =>
    obtain ⟨hn, hnames⟩ := List.forall_mem_cons.mp h
    rw [insertInto, if_pos hn, ih hnames]
    rfl

/-- **A set is that of the list of its names.** -/
theorem ofList_toList {s : NameSet} (h : s.Ordered) : ofList s.toList = s := by
  obtain ⟨names⟩ := s
  show ofList names = ⟨names⟩
  induction names using List.reverseRecOn with
  | nil => rfl
  | append_singleton names name ih =>
    have hsplit : (names.map fold ++ [fold name]).Pairwise (· < ·) := by
      rw [← List.map_singleton, ← List.map_append]
      exact h
    obtain ⟨hnames, -, hlast⟩ := List.pairwise_append.mp hsplit
    rw [ofList, insertMany_append]
    show insert (ofList names) name = _
    rw [ih hnames]
    show (⟨insertInto name names⟩ : NameSet) = _
    rw [insertInto_of_forall_lt fun n hn =>
      hlast _ (List.mem_map_of_mem hn) _ (List.mem_singleton.mpr rfl)]

/-- The names are listed in the order of the bytes of their folded forms. -/
theorem Ordered.pairwise_utf8Bytes {s : NameSet} (h : s.Ordered) :
    s.toList.Pairwise fun a b => utf8Bytes (lower a) < utf8Bytes (lower b) :=
  (List.pairwise_map.mp h).imp utf8Bytes_lower_lt

end NameSet

/-! ## Reading a snapshot -/

namespace Snapshot

open Json Value

/-- A list of texts is read as it is. -/
theorem mapM_readStr (names : List String) : (names.map str).mapM readStr = .ok names := by
  induction names with
  | nil => rfl
  | cons name names ih =>
    rw [List.map_cons, List.mapM_cons, ih]
    rfl

theorem mapM_readStr_ofItems (names : List String) :
    (Fragment.ofItems (names.map str)).mapM Fragment.readStr = .ok names := by
  induction names with
  | nil => rfl
  | cons name names ih =>
    rw [List.map_cons, Fragment.ofItems, List.mapM_cons, ih]
    rfl

/-- **An ordered set of names is read back from its list**, as a value and as a text. -/
theorem namesOfJson_toList {s : NameSet} (h : s.Ordered) :
    namesOfJson (.strs s.toList) = .ok s := by
  show NameSet.ofList <$> (s.toList.map str).mapM readStr = _
  rw [mapM_readStr]
  show Except.ok (NameSet.ofList s.toList) = _
  rw [NameSet.ofList_toList h]

theorem readNames_toList {s : NameSet} (h : s.Ordered) :
    readNames (Fragment.ofValue (.strs s.toList)) = .ok s := by
  have hlist : (Fragment.ofValue (.strs s.toList)).readList Fragment.readStr = .ok s.toList := by
    show ((Fragment.ofItems (s.toList.map str)).mapM Fragment.readStr >>= _) = _
    rw [mapM_readStr_ofItems]
    rfl
  rw [readNames, hlist]
  show Except.ok (NameSet.ofList s.toList) = _
  rw [NameSet.ofList_toList h]

/-- **An ordered snapshot is read back** from its value. -/
theorem ofJson_toJson {s : Snapshot} (h : s.Ordered) : ofJson s.toJson = .ok s := by
  have hassemblies : fieldOfJson {} ("assemblies", .strs s.assemblies.toList)
      = .ok { assemblies := some s.assemblies } := by
    show (namesOfJson _ >>= _) = _
    rw [namesOfJson_toList h.1]
    rfl
  have hmacros : fieldOfJson { assemblies := some s.assemblies } ("macros", .strs s.macros.toList)
      = .ok ⟨some s.assemblies, some s.macros⟩ := by
    show (namesOfJson _ >>= _) = _
    rw [namesOfJson_toList h.2]
    rfl
  show ((fieldOfJson _ _ >>= fun r => [_].foldlM fieldOfJson r) >>= _) = _
  rw [hassemblies]
  show ((fieldOfJson _ _ >>= fun r => [].foldlM fieldOfJson r) >>= _) = _
  rw [hmacros]
  rfl

/-- **An ordered snapshot is read back** from its text. -/
theorem ofFragment_ofValue {s : Snapshot} (h : s.Ordered) :
    ofFragment (Fragment.ofValue s.toJson) = .ok s := by
  have hassemblies : readField {} "assemblies" (Fragment.ofValue (.strs s.assemblies.toList))
      = .ok { assemblies := some s.assemblies } := by
    show (readNames _ >>= _) = _
    rw [readNames_toList h.1]
    rfl
  have hmacros : readField { assemblies := some s.assemblies } "macros"
      (Fragment.ofValue (.strs s.macros.toList)) = .ok ⟨some s.assemblies, some s.macros⟩ := by
    show (readNames _ >>= _) = _
    rw [readNames_toList h.2]
    rfl
  rw [toJson, Fragment.ofValue]
  simp only [Fragment.ofFields, ofFragment]
  rw [Fragment.foldFields_cons hassemblies, Fragment.foldFields_cons hmacros]
  rfl

/-- Names are written as strings and nothing else. -/
theorem itemLeaves_strs (names : List String) : ItemLeaves IsPlainLeaf (names.map str) := by
  induction names with
  | nil => trivial
  | cons name names ih => exact ⟨trivial, ih⟩

theorem plain_toJson (s : Snapshot) : s.toJson.Leaves IsPlainLeaf :=
  ⟨itemLeaves_strs _, itemLeaves_strs _, trivial⟩

/-- A text that is read as the fragment of an ordered snapshot gives the snapshot. -/
theorem ofText_of_read {s : Snapshot} (h : s.Ordered) {text : String}
    (hread : read text = (Fragment.ofValue s.toJson, some [])) : ofText text = .ok s := by
  rw [ofText, readText, hread]
  show (ofFragment (Fragment.ofValue s.toJson) >>= _) = _
  rw [ofFragment_ofValue h]
  rfl

theorem ofText_toText_of_ordered {s : Snapshot} (h : s.Ordered) : ofText s.toText = .ok s :=
  ofText_of_read h (read_renderIndented s.plain_toJson)

/-- Nothing has changed since the same snapshot was taken. -/
theorem diff?_self (s : Snapshot) : s.diff? (some s) = none :=
  diff?_eq_none_iff.mpr ⟨fun _ => Iff.rfl, fun _ => id⟩

end Snapshot

/-! ## Saving and comparing -/

namespace Command

/-- The snapshot that is taken of a document in an environment. -/
def snapshotOf (environment : List (String × String)) (d : Document) : Snapshot :=
  Snapshot.extract .standard
    (Variable.inEnvironment ((Snapshot.variableNames d).filterMap fun name =>
      (Variable.inEnvironment environment name).map fun value => (name, value))) d

/-- How an assembly is written. -/
def shownName (input : Input) (resolve : Bool) (name : String) : String :=
  if resolve then Placeholder.resolve input.settings.macros name else name

/-- What is printed of a snapshot, before it is compared with an older one. -/
def listing (input : Input) (resolve : Bool) (s : Snapshot) : String :=
  String.join ((snapshotLines (shownName input resolve) input.settings.macros s).map (· ++ "\n"))

/-- **The command lists the snapshot**, and then compares and saves it. -/
theorem outcome_deps (input : Input) (previous saved : Option String) (resolve : Bool) (w : World) :
    (deps input previous saved resolve).outcome w
      = (do
          compare (shownName input resolve) (snapshotOf w.environment input.document) previous
          save (snapshotOf w.environment input.document) saved
          return 0 : Action Nat).outcome
        { w with
          output := w.output
            ++ listing input resolve (snapshotOf w.environment input.document) } := by
  unfold deps
  rw [Action.outcome_bind_of_ok (Action.outcome_lift _ w), Interaction.run_environment]
  exact Action.outcome_bind_of_ok (Action.outcome_print _ w)

/-- Comparing a snapshot with an older one changes no file. -/
theorem files_outcome_compare (shown : String → String) (s : Snapshot) (previous : Option String)
    (w : World) : ((compare shown s previous).outcome w).2.files = w.files := by
  cases previous with
  | none => rfl
  | some path =>
    unfold compare
    have hread := Action.outcome_readFile path w
    cases hfile : w.files.read path with
    | error fault =>
      rw [hfile] at hread
      rw [Action.outcome_bind_of_error hread]
    | ok text =>
      rw [hfile] at hread
      rw [Action.outcome_bind_of_ok hread]
      cases Snapshot.ofText text <;> rfl

/-- If the older snapshot is the same, no change is listed. -/
theorem outcome_compare_same (shown : String → String) {s : Snapshot} (h : s.Ordered)
    {path : String} {w : World} (hread : w.files.read path = .ok s.toText) :
    (compare shown s (some path)).outcome w
      = (.ok (), { w with output := w.output ++ "changes:\n  (none)\n" }) := by
  have hfile := Action.outcome_readFile path w
  rw [hread] at hfile
  unfold compare
  rw [Action.outcome_bind_of_ok hfile, Snapshot.ofText_toText_of_ordered h]
  show (Action.printLines (changeLines shown (s.diff? (some s)))).outcome w = _
  rw [Snapshot.diff?_self]
  rfl

/-- **A run that saves ends well if the file can be written.** -/
theorem outcome_deps_save {input : Input} {path : String} {w : World} {files : FileTree}
    (hwrite : w.files.write path (snapshotOf w.environment input.document).toText = .ok files)
    (resolve : Bool) :
    (deps input none (some path) resolve).outcome w
      = (.ok 0, { w with
          files
          output := w.output
            ++ listing input resolve (snapshotOf w.environment input.document) }) := by
  rw [outcome_deps]
  generalize hlisted : ({ w with output := _ } : World) = listed
  have hsave : (save (snapshotOf w.environment input.document) (some path)).outcome listed
      = (.ok (), { listed with files }) := by
    refine Action.outcome_writeFile_of_ok ?_
    rw [← hlisted]
    exact hwrite
  refine (Action.outcome_bind_of_ok rfl).trans ((Action.outcome_bind_of_ok hsave).trans ?_)
  rw [← hlisted]
  rfl

/-- **After a run that saves, the file holds the snapshot**, if it reads back what is written. -/
theorem read_of_outcome_deps {input : Input} {previous : Option String} {path : String}
    {resolve : Bool} {w w' : World} {code : Nat}
    (hback : w.files.ReadsBack path (snapshotOf w.environment input.document).toText)
    (h : (deps input previous (some path) resolve).outcome w = (.ok code, w')) :
    w'.files.read path = .ok (snapshotOf w.environment input.document).toText := by
  rw [outcome_deps] at h
  obtain ⟨_, compared, hcompare, h⟩ := Action.exists_of_outcome_bind_eq_ok h
  obtain ⟨_, written, hsave, h⟩ := Action.exists_of_outcome_bind_eq_ok h
  cases h
  -- What comes before the writing has left the files as they were.
  have hfiles : compared.files = w.files := by
    have hsame := files_outcome_compare (shownName input resolve)
      (snapshotOf w.environment input.document) previous
    exact (congrArg (fun r => r.2.files) hcompare).symm.trans (hsame _)
  have hwrite := Action.write_of_outcome_writeFile_eq_ok hsave
  rw [hfiles] at hwrite
  exact hback _ hwrite

/-- **A run that finds the same snapshot lists no change.** -/
theorem outcome_deps_same {input : Input} {path : String} {w : World}
    (hread : w.files.read path = .ok (snapshotOf w.environment input.document).toText)
    (saved : Option String) (resolve : Bool) :
    (deps input (some path) saved resolve).outcome w
      = (do
          save (snapshotOf w.environment input.document) saved
          return 0 : Action Nat).outcome
        { w with
          output := w.output ++ listing input resolve (snapshotOf w.environment input.document)
            ++ "changes:\n  (none)\n" } := by
  rw [outcome_deps]
  exact Action.outcome_bind_of_ok (outcome_compare_same _ (Snapshot.ordered_extract _ _ _) hread)

/-- Saving a snapshot adds nothing to the output. -/
theorem output_outcome_save (s : Snapshot) (saved : Option String) (w : World) :
    ((do save s saved; return 0 : Action Nat).outcome w).2.output = w.output := by
  cases saved with
  | none => rfl
  | some path =>
    unfold save
    cases hwrite : w.files.write path s.toText with
    | error fault => rw [Action.outcome_bind_of_error (Action.outcome_writeFile_of_error hwrite)]
    | ok files =>
      rw [Action.outcome_bind_of_ok (Action.outcome_writeFile_of_ok hwrite), Action.outcome_pure]

/-- **A saved snapshot is read back unchanged.** Whatever document a snapshot is taken of, it comes
back from its JSON, written on one line or on many, with the same names in the same spelling and
order. A run that saves it ends well if the file can be written. And once a run has saved a snapshot
to a file that reads back what is written to it, as every file in a directory of the tree does, a
later run for the same document and environment that compares with the file ends well and lists no
change, whatever else the two runs are asked for. This rests on a law of lists: the set of the names
of a list, listed again, is strictly increasing in the bytes of the folded names, has of each name
the spelling that stands first in the list, and does not change any more. -/
theorem saved_snapshot_readBack_unchanged :
    (∀ (schema : Schema) (lookup : String → Option String) (d : Document),
        let s := Snapshot.extract schema lookup d
        Snapshot.ofJson s.toJson = .ok s ∧ Snapshot.ofText s.toText = .ok s
          ∧ Snapshot.ofText s.toJson.render = .ok s)
      ∧ (∀ (input : Input) (path : String) (resolve : Bool) (w : World) (files : FileTree),
          let s := snapshotOf w.environment input.document
          w.files.write path s.toText = .ok files →
          (deps input none (some path) resolve).outcome w
            = (.ok 0, { w with files, output := w.output ++ listing input resolve s }))
      ∧ (∀ (input : Input) (previous : Option String) (path : String) (resolve : Bool)
          (w w' : World) (code : Nat),
          w.files.ReadsBack path (snapshotOf w.environment input.document).toText →
          (deps input previous (some path) resolve).outcome w = (.ok code, w') →
          ∀ (input' : Input) (resolve' : Bool) (later : World),
            input'.document = input.document → later.environment = w.environment →
            later.files.read path = w'.files.read path →
            let printed := later.output
              ++ listing input' resolve' (snapshotOf later.environment input'.document)
              ++ "changes:\n  (none)\n"
            (deps input' (some path) none resolve').outcome later
                = (.ok 0, { later with output := printed })
              ∧ ∀ saved, ((deps input' (some path) saved resolve').outcome later).2.output = printed)
      ∧ (∀ (t : FileTree) (path content : String), t.Keeps path → t.ReadsBack path content)
      ∧ ∀ names : List String,
          let listed := (NameSet.ofList names).toList
          listed.Pairwise (fun a b => Text.utf8Bytes (Text.lower a) < Text.utf8Bytes (Text.lower b))
            ∧ (∀ n, n ∈ listed ↔ names.find? (fun m => Text.sameName m n) = some n)
            ∧ (NameSet.ofList listed).toList = listed := by
  refine ⟨fun schema lookup d => ?_, fun input path resolve w files hwrite =>
    outcome_deps_save hwrite resolve, ?_, fun _ _ content hkeeps => hkeeps.readsBack content,
    fun names => ?_⟩
  · have hordered := Snapshot.ordered_extract schema lookup d
    exact ⟨Snapshot.ofJson_toJson hordered, Snapshot.ofText_toText_of_ordered hordered,
      Snapshot.ofText_of_read hordered (Json.Value.read_render (Snapshot.plain_toJson _))⟩
  · intro input previous path resolve w w' code hback hrun input' resolve' later hdocument
      henvironment hfile
    have hread : later.files.read path
        = .ok (snapshotOf later.environment input'.document).toText := by
      rw [hfile, read_of_outcome_deps hback hrun, henvironment, hdocument]
    refine ⟨outcome_deps_same hread none resolve', fun saved => ?_⟩
    rw [outcome_deps_same hread saved resolve']
    exact output_outcome_save _ saved _
  · have hordered : (NameSet.ofList names).Ordered := NameSet.ordered_empty.insertMany names
    exact ⟨hordered.pairwise_utf8Bytes, fun n => NameSet.mem_toList_ofList,
      congrArg NameSet.toList (NameSet.ofList_toList hordered)⟩

/-- A template with names that are hard to save: quotes and backslashes, characters of several
bytes, and two spellings of one name. -/
def referringOddly : Document :=
  ((Builder.new 0 "outer.tt").directive "assembly" [("name", "%LIB%é\"b.dll")]
    |>.directive "assembly" [("name", "System.Xml")]
    |>.includeDocument "inner.tt"
      ((Builder.new 1 "inner.tt").directive "assembly" [("name", "SYSTEM.XML")]
        |>.directive "assembly" [("name", "$(Out)Z.dll")]).build).build

def oddInput : Input := ⟨referringOddly, {}, .silent⟩

/-- A world with a directory `d`, and what is there after the snapshot was saved in it. -/
def oddWorld : World where
  environment := [("LIB", "c:\\")]
  files := ⟨[(["d", "old"], "[]")]⟩

def oddSnapshot : Snapshot := snapshotOf oddWorld.environment oddInput.document

def oddWorldAfter : World :=
  { oddWorld with
    files := ⟨[(["d", "old"], "[]"), (["d", "s"], oddSnapshot.toText)]⟩
    output := oddWorld.output ++ listing oddInput false oddSnapshot }

/-- The snapshot of that template is saved beside another file, and compared with what was saved. -/
theorem saved_snapshot_readBack_unchanged_odd :
    oddSnapshot.assemblies.toList = ["$(Out)Z.dll", "c:\\é\"b.dll", "System.Xml"]
      ∧ oddWorld.files.ReadsBack "d/s" oddSnapshot.toText
      ∧ (deps oddInput none (some "d/s") false).outcome oddWorld = (.ok 0, oddWorldAfter)
      ∧ (deps oddInput (some "d/s") none false).outcome oddWorldAfter
        = (.ok 0, { oddWorldAfter with
            output := oddWorldAfter.output ++ listing oddInput false oddSnapshot
              ++ "changes:\n  (none)\n" }) := by
  have hpieces : FileTree.pieces "d/s" = .ok ["d", "s"] := by
    have hsplit : Path.pieces "d/s" = ["d", "s"] := by cbv
    have hzero : "d/s".contains '\x00' = false := by simp
    rw [FileTree.pieces, hzero, hsplit]
    decide +kernel
  have hfold : ["d"].foldlM oddWorld.files.step (FileTree.start "d/s")
      = .ok (.directory ["d"]) := by decide +kernel
  have hwrite : oddWorld.files.write "d/s" oddSnapshot.toText = .ok oddWorldAfter.files := by
    have hlast : FileTree.splitLast ["d", "s"] = (["d"], "s") := by decide +kernel
    have hname : FileTree.isFileName "s" = true := by simp [FileTree.isFileName, FileTree.isDots]
    have hnew : oddWorld.files.lookUp "s" (.directory ["d"]) = none := by decide +kernel
    rw [FileTree.write_of_lookUp_eq_none hpieces hlast hfold hname (by decide) hnew]
    rfl
  have hkeeps : oddWorld.files.Keeps "d/s" := ⟨["d", "s"], ["d"], hpieces, hfold⟩
  have hfirst := saved_snapshot_readBack_unchanged.2.1 oddInput "d/s" false oddWorld
    oddWorldAfter.files hwrite
  have hback := saved_snapshot_readBack_unchanged.2.2.2.1 _ _ oddSnapshot.toText hkeeps
  have hagain := saved_snapshot_readBack_unchanged.2.2.1 oddInput none "d/s" false oddWorld
    oddWorldAfter 0 hback hfirst oddInput false oddWorldAfter rfl rfl rfl
  exact ⟨by decide +kernel, hback, hfirst, hagain.1⟩

end Command

end TextTemplate
