import Mathlib
import TextTemplate.Document.Builder
import TextTemplate.Proofs.CacheRuns
import TextTemplate.Proofs.NameSets

/-!
# The changes that are told are a log of the cache

A subscriber never sees the snapshots, only the changes that it is told of. They are enough: whoever
writes them down, for each document, has at every moment the assemblies of the latest snapshot and
the macros of all snapshots, since macros are only ever told of when they are new.

The cache is compared with its history, the list of the actions that were done from outside. What
matters of it for one document is `documentsSince`: the documents that were given for it since it
was last forgotten. The latest of them gives the snapshot, all of them give the macros.
-/

namespace TextTemplate

namespace CacheAction

/-- The document that an action gives for a number. -/
def document? (id : Nat) : CacheAction → Option Document
  | .update i document => if i = id then some document else none
  | _ => none

/-- Whether an action makes the cache forget a document. -/
def forgets (id : Nat) : CacheAction → Bool
  | .unload i => i == id
  | .clear => true
  | _ => false

/-- **The documents that have been given for a number** since the cache was last made to forget it.
-/
def documentsSince (id : Nat) (actions : List CacheAction) : List Document :=
  (actions.reverse.takeWhile fun a => !a.forgets id).reverse.filterMap (document? id)

/-- One more action is one more document, or makes an end of those before. -/
theorem documentsSince_concat (id : Nat) (actions : List CacheAction) (a : CacheAction) :
    documentsSince id (actions ++ [a])
      = if a.forgets id then [] else documentsSince id actions ++ (a.document? id).toList := by
  unfold documentsSince
  rw [List.reverse_append, List.reverse_singleton, List.singleton_append, List.takeWhile_cons]
  cases a.forgets id with
  | true => rfl
  | false =>
    simp only [Bool.not_false, if_true, Bool.false_eq_true, if_false, List.reverse_cons,
      List.filterMap_append, List.filterMap_cons, List.filterMap_nil]
    cases a.document? id <;> rfl

end CacheAction

/-! ## One action from outside -/

namespace Session

open CacheAction

variable {extract : Document → Snapshot}

/-- **What an action tells the subscribers**: a change, if it brings one, is told to each of them in
the order of their numbers. -/
def published (extract : Document → Snapshot) (c : Cache) : CacheAction → List (Nat × Change)
  | .update id document =>
    match (extract document).diff? (c.snapshot? id) with
    | none => []
    | some diff => c.subscribers.map fun handle => (handle, ⟨id, diff⟩)
  | _ => []

/-- The reactions that are left leave the snapshots alone. -/
def QuietReactions (s : Session) : Prop := ∀ rs ∈ s.reactions, reactionsQuiet rs = true

/-- An action that brings only quiet subscribers starts a quiet run. -/
theorem quiet_perform {s : Session} (hs : s.QuietReactions) {a : CacheAction}
    (ha : a.bringsQuiet = true) :
    (perform extract none { s with agenda := [], events := [] } a).Quiet := by
  cases a with
  | subscribe reactions =>
    refine ⟨?_, List.forall_mem_nil _⟩
    intro rs hrs
    rcases List.mem_append.mp hrs with hrs | hrs
    · exact hs rs hrs
    · rw [List.mem_singleton.mp hrs]
      exact ha
  | update id document =>
    refine ⟨hs, List.forall_mem_append.mpr ⟨?_, ?_⟩⟩
    · intro task htask
      cases hdiff : (extract document).diff? (s.cache.snapshot? id) with
      | none =>
        simp only [hdiff] at htask
        cases htask
      | some diff =>
        simp only [hdiff] at htask
        obtain ⟨handle, -, rfl⟩ := List.mem_map.mp htask
        rfl
    · intro task htask
      rw [List.mem_singleton.mp htask]
      rfl
  | unsubscribe _ | snapshot _ | unload _ | clear => exact ⟨hs, List.forall_mem_nil _⟩

/-- The snapshots after an action is performed. -/
theorem snapshot?_perform (s : Session) (a : CacheAction) (id : Nat) :
    (perform extract none s a).cache.snapshot? id
      = if a.forgets id then none
        else ((a.document? id).map extract).or (s.cache.snapshot? id) := by
  cases a with
  | update i document =>
    show (s.cache.store i (extract document)).snapshot? id = _
    rw [Cache.snapshot?_store]
    by_cases h : id = i
    · rw [if_pos h, document?, if_pos h.symm]
      rfl
    · rw [if_neg h, document?, if_neg (Ne.symm h)]
      rfl
  | unload i =>
    show (s.cache.unload i).snapshot? id = _
    rw [Cache.snapshot?_unload]
    by_cases h : id = i
    · rw [if_pos h, forgets, beq_iff_eq.mpr h.symm, if_pos rfl]
    · rw [if_neg h, forgets, beq_eq_false_iff_ne.mpr (Ne.symm h)]
      rfl
  | subscribe _ | unsubscribe _ | snapshot _ | clear => rfl

/-- What is told and what is returned once an action is performed. -/
theorem tellings_perform (s : Session) (a : CacheAction) :
    (perform extract none { s with agenda := [], events := [] } a).tellings
      = published extract s.cache a := by
  cases a with
  | update id document =>
    cases hdiff : (extract document).diff? (s.cache.snapshot? id) with
    | none =>
      simp only [perform, tellings, published, hdiff]
      rfl
    | some diff =>
      simp only [perform, tellings, published, hdiff, List.filterMap_append, List.filterMap_map]
      show [] ++ (List.filterMap (some ∘ fun handle => (handle, (⟨id, diff⟩ : Change))) _ ++ []) = _
      rw [List.filterMap_eq_map, List.append_nil, List.nil_append]
      rfl
  | subscribe _ | unsubscribe _ | snapshot _ | unload _ | clear => rfl

/-- **One action from outside**, if the subscribers leave the snapshots alone: the snapshots change
as the action says, and the subscribers are told what it publishes. -/
theorem act_quietly {s : Session} (hs : s.QuietReactions) {a : CacheAction}
    (ha : a.bringsQuiet = true) :
    (s.act extract a).QuietReactions
      ∧ (∀ id, (s.act extract a).cache.snapshot? id
          = if a.forgets id then none else ((a.document? id).map extract).or (s.cache.snapshot? id))
      ∧ (s.act extract a).events.filterMap CacheEvent.told? = published extract s.cache a := by
  obtain ⟨hquiet, hentries, htold, -⟩ := @run_quietly extract _ (quiet_perform hs ha)
  rw [act_eq_run]
  refine ⟨hquiet.reactions, fun id => ?_, htold.trans (tellings_perform s a)⟩
  rw [← snapshot?_perform { s with agenda := [], events := [] }]
  exact congrArg (List.lookup id) hentries

/-- **An update returns the change that it publishes.** -/
theorem result?_act_update {s : Session} (hs : s.QuietReactions) (id : Nat) (document : Document) :
    (s.act extract (.update id document)).result?
      = some (.diff ((extract document).diff? (s.cache.snapshot? id))) := by
  obtain ⟨-, -, -, hanswers⟩ :=
    @run_quietly extract _ (quiet_perform hs (a := .update id document) rfl)
  have hresult : ∀ t : Session, t.result? = (t.events.filterMap CacheEvent.answer?).head? := by
    intro t
    rw [List.head?_filterMap, result?]
    congr 1
  rw [hresult, act_eq_run, hanswers]
  cases hdiff : (extract document).diff? (s.cache.snapshot? id) with
  | none =>
    simp only [perform, answers, hdiff]
    rfl
  | some diff =>
    simp only [perform, answers, hdiff, List.filterMap_append, List.filterMap_map]
    show ([] ++ (List.filterMap (fun _ => none) _ ++ [CacheResult.diff (some diff)])).head? = _
    rw [List.filterMap_eq_nil_iff.mpr fun handle _ => rfl]
    rfl

/-! ## The history of a cache -/

/-- **A run of actions from outside**, one after another. -/
def acts (extract : Document → Snapshot) (actions : List CacheAction) (s : Session) : Session :=
  actions.foldl (fun s a => s.act extract a) s

theorem acts_concat (actions : List CacheAction) (a : CacheAction) (s : Session) :
    acts extract (actions ++ [a]) s = (acts extract actions s).act extract a := by
  rw [acts, List.foldl_append]
  rfl

/-- What no operation breaks holds along a run. -/
theorem acts_cache {P : Cache → Prop} (hP : Cache.Kept P) (actions : List CacheAction) {s : Session}
    (h : P s.cache) : P (acts extract actions s).cache := by
  induction actions using List.reverseRecOn with
  | nil => exact h
  | append_singleton actions a ih =>
    rw [acts_concat]
    exact act_cache hP ih a

/-- Along a run whose subscribers leave the snapshots alone they go on to do so. -/
theorem quietReactions_acts {actions : List CacheAction}
    (h : ∀ a ∈ actions, a.bringsQuiet = true) : (acts extract actions {}).QuietReactions := by
  induction actions using List.reverseRecOn with
  | nil => exact List.forall_mem_nil _
  | append_singleton actions a ih =>
    rw [List.forall_mem_append, List.forall_mem_singleton] at h
    rw [acts_concat]
    exact (act_quietly (ih h.1) h.2).1

/-- **The snapshot of a document is that of the document last given** since it was last forgotten.
-/
theorem snapshot?_acts {actions : List CacheAction} (h : ∀ a ∈ actions, a.bringsQuiet = true)
    (id : Nat) :
    (acts extract actions {}).cache.snapshot? id
      = (documentsSince id actions).getLast?.map extract := by
  induction actions using List.reverseRecOn with
  | nil => rfl
  | append_singleton actions a ih =>
    rw [List.forall_mem_append, List.forall_mem_singleton] at h
    rw [acts_concat, (act_quietly (quietReactions_acts h.1) h.2).2.1, ih h.1, documentsSince_concat]
    split
    · rfl
    · cases a.document? id with
      | none => rw [Option.toList_none, List.append_nil]; rfl
      | some document => rw [Option.toList_some, List.getLast?_concat]; rfl

end Session

/-! ## Keeping a ledger -/

/-- **What a subscriber writes down of one document.** -/
structure Ledger where
  assemblies : NameSet := {}
  macros : NameSet := {}

namespace Ledger

open NameSet CacheAction

/-- The ledger after a change: assemblies come and go, macros only come. -/
def apply (diff : SnapshotDiff) (l : Ledger) : Ledger where
  assemblies := (l.assemblies.union diff.addedAssemblies).difference diff.removedAssemblies
  macros := l.macros.union diff.addedMacros

/-- The ledger of a document after an event: the subscriber writes down what it is told of the
document itself. -/
def note (handle id : Nat) (l : Ledger) : CacheEvent → Ledger
  | .told h change => if h = handle ∧ change.document = id then l.apply change.diff else l
  | .returned _ _ => l

/-- **The ledger of a document after a run of actions from outside.** It is emptied when the
document is forgotten. -/
def follow (extract : Document → Snapshot) (handle id : Nat) :
    List CacheAction → Session → Ledger → Ledger
  | [], _, l => l
  | a :: actions, s, l =>
    let next := s.act extract a
    follow extract handle id actions next
      (next.events.foldl (note handle id) (if a.forgets id then {} else l))

/-- The macros of the snapshots of a list of documents. -/
def macrosOf (extract : Document → Snapshot) (documents : List Document) : NameSet :=
  documents.foldl (fun macros document => macros.union (extract document).macros) NameSet.empty

variable {extract : Document → Snapshot}

theorem follow_concat (handle id : Nat) (actions : List CacheAction) (a : CacheAction) (s : Session)
    (l : Ledger) :
    follow extract handle id (actions ++ [a]) s l
      = ((Session.acts extract actions s).act extract a).events.foldl (note handle id)
          (if a.forgets id then {} else follow extract handle id actions s l) := by
  induction actions generalizing s l with
  | nil => rfl
  | cons b actions ih => exact ih _ _

/-- What is written down of a list of events is written down of what they tell. -/
theorem foldl_note (handle id : Nat) (events : List CacheEvent) (l : Ledger) :
    events.foldl (note handle id) l
      = (events.filterMap CacheEvent.told?).foldl
          (fun l t => l.note handle id (.told t.1 t.2)) l := by
  induction events generalizing l with
  | nil => rfl
  | cons event events ih =>
    cases event with
    | told h change => exact ih _
    | returned caller result => exact ih _

/-- **A live subscriber writes down a change once**, and only if it is of the document. -/
theorem foldl_note_subscribers {subscribers : List Nat} (hnodup : subscribers.Nodup) {handle : Nat}
    (id : Nat) (change : Change) (l : Ledger) :
    (subscribers.map fun h => (h, change)).foldl (fun l t => l.note handle id (.told t.1 t.2)) l
      = if handle ∈ subscribers ∧ change.document = id then l.apply change.diff else l := by
  induction subscribers generalizing l with
  | nil => exact (if_neg fun h => List.not_mem_nil h.1).symm
  | cons h subscribers ih =>
    obtain ⟨hfirst, hrest⟩ := List.nodup_cons.mp hnodup
    rw [List.map_cons, List.foldl_cons, ih hrest]
    by_cases hh : h = handle
    · subst hh
      simp only [note, hfirst, false_and, if_false, List.mem_cons, true_or]
    · simp only [note, hh, Ne.symm hh, false_and, if_false, List.mem_cons, false_or]

/-- The macros of one more document. -/
theorem macrosOf_concat (documents : List Document) (document : Document) :
    macrosOf extract (documents ++ [document])
      = (macrosOf extract documents).union (extract document).macros := by
  rw [macrosOf, List.foldl_append]
  rfl

theorem ordered_macrosOf (documents : List Document) : (macrosOf extract documents).Ordered := by
  induction documents using List.reverseRecOn with
  | nil => exact ordered_empty
  | append_singleton documents document ih =>
    rw [macrosOf_concat]
    exact ih.union _

/-- The macros of the latest document are among those of all. -/
theorem mem_macrosOf_of_getLast? {documents : List Document} {key : List Char}
    (h : key ∈ ((documents.getLast?.map extract).getD {}).macros.keys) :
    key ∈ (macrosOf extract documents).keys := by
  rcases List.eq_nil_or_concat documents with rfl | ⟨front, last, rfl⟩
  · exact absurd h List.not_mem_nil
  · rw [List.concat_eq_append, List.getLast?_concat] at h
    rw [List.concat_eq_append, macrosOf_concat]
    exact mem_keys_union.mpr (Or.inr h)

/-- **A ledger that agrees with the documents given so far**: its assemblies are those of the latest
one, and its macros those of all. -/
structure Agrees (extract : Document → Snapshot) (documents : List Document) (l : Ledger) :
    Prop where
  orderedAssemblies : l.assemblies.Ordered
  orderedMacros : l.macros.Ordered
  assemblies : ∀ key, key ∈ l.assemblies.keys ↔
    key ∈ ((documents.getLast?.map extract).getD {}).assemblies.keys
  macros : ∀ key, key ∈ l.macros.keys ↔ key ∈ (macrosOf extract documents).keys

/-- The empty ledger agrees with no documents. -/
theorem agrees_nil : Agrees extract [] {} :=
  ⟨ordered_empty, ordered_empty, fun _ => Iff.rfl, fun _ => Iff.rfl⟩

/-- **A change that is written down** makes the ledger agree with one more document. -/
theorem Agrees.apply {documents : List Document} {l : Ledger} (h : Agrees extract documents l)
    {document : Document} {diff : SnapshotDiff}
    (hdiff : (extract document).diff? (documents.getLast?.map extract) = some diff) :
    Agrees extract (documents ++ [document]) (l.apply diff) := by
  have hdescribes := Snapshot.describes_of_diff?_eq_some hdiff
  refine ⟨(h.orderedAssemblies.union _).difference _, h.orderedMacros.union _, fun key => ?_,
    fun key => ?_⟩
  · show key
      ∈ ((l.assemblies.union diff.addedAssemblies).difference diff.removedAssemblies).keys ↔ _
    rw [hdescribes.mem_keys_assemblies h.assemblies, List.getLast?_concat, Option.map_some,
      Option.getD_some]
  · show key ∈ (l.macros.union diff.addedMacros).keys ↔ _
    rw [mem_keys_union, h.macros, hdescribes.addedMacros, macrosOf_concat, mem_keys_union]
    constructor
    · rintro (hold | hnew)
      · exact Or.inl hold
      · exact Or.inr hnew.1
    · rintro (hold | hnew)
      · exact Or.inl hold
      · by_cases hold : key ∈ ((documents.getLast?.map extract).getD {}).macros.keys
        · exact Or.inl (mem_macrosOf_of_getLast? hold)
        · exact Or.inr ⟨hnew, hold⟩

/-- **If there is no change to write down**, the ledger agrees with one more document as it is. -/
theorem Agrees.unchanged {documents : List Document} {l : Ledger} (h : Agrees extract documents l)
    {document : Document}
    (hdiff : (extract document).diff? (documents.getLast?.map extract) = none) :
    Agrees extract (documents ++ [document]) l := by
  obtain ⟨hsame, hmacros⟩ := Snapshot.same_of_diff?_eq_none hdiff
  refine ⟨h.orderedAssemblies, h.orderedMacros, fun key => ?_, fun key => ?_⟩
  · rw [h.assemblies, List.getLast?_concat, Option.map_some, Option.getD_some, hsame]
  · rw [h.macros, macrosOf_concat, mem_keys_union]
    refine ⟨Or.inl, ?_⟩
    rintro (hold | hnew)
    · exact hold
    · exact mem_macrosOf_of_getLast? (hmacros key hnew)

/-- **One action keeps a ledger in agreement**, if the subscriber is live when it is done. -/
theorem Agrees.act {s : Session} (hs : s.QuietReactions) (hinOrder : s.cache.InOrder)
    {documents : List Document} {id handle : Nat}
    (hsnapshot : s.cache.snapshot? id = documents.getLast?.map extract)
    (hlive : s.cache.isLive handle = true) {a : CacheAction} (ha : a.bringsQuiet = true)
    {l : Ledger}
    (h : Agrees extract documents l) :
    Agrees extract (if a.forgets id then [] else documents ++ (a.document? id).toList)
      ((s.act extract a).events.foldl (note handle id) (if a.forgets id then {} else l)) := by
  rw [foldl_note, (Session.act_quietly hs ha).2.2]
  cases a with
  | update i document =>
    have hmem : handle ∈ s.cache.subscribers := List.contains_iff_mem.mp hlive
    show Agrees extract (documents ++ (document? id (.update i document)).toList) _
    rw [document?]
    by_cases hi : i = id
    · subst hi
      rw [if_pos rfl]
      cases hdiff : (extract document).diff? (documents.getLast?.map extract) with
      | none =>
        simp only [Session.published, hsnapshot, hdiff]
        exact h.unchanged hdiff
      | some diff =>
        simp only [Session.published, hsnapshot, hdiff]
        rw [foldl_note_subscribers hinOrder.nodup, if_pos ⟨hmem, rfl⟩]
        exact h.apply hdiff
    · rw [if_neg hi, Option.toList_none, List.append_nil]
      cases hdiff : (extract document).diff? (s.cache.snapshot? i) with
      | none =>
        simp only [Session.published, hdiff]
        exact h
      | some diff =>
        simp only [Session.published, hdiff]
        rw [foldl_note_subscribers hinOrder.nodup, if_neg fun hboth => hi hboth.2]
        exact h
  | unload i =>
    show Agrees extract _ (if forgets id (.unload i) then {} else l)
    split
    · exact agrees_nil
    · exact (List.append_nil documents).symm ▸ h
  | clear => exact agrees_nil
  | subscribe _ | unsubscribe _ | snapshot _ => exact (List.append_nil documents).symm ▸ h

/-- **A run keeps a ledger in agreement**, from a moment on at which the cache has nothing of the
document, if the subscriber is live before each action. -/
theorem agrees_follow {front back : List CacheAction}
    (h : ∀ a ∈ front ++ back, a.bringsQuiet = true) {handle id : Nat}
    (hempty : documentsSince id front = [])
    (hlive : ∀ mid a rest, back = mid ++ a :: rest →
      (Session.acts extract (front ++ mid) {}).cache.isLive handle = true) :
    Agrees extract (documentsSince id (front ++ back))
      (follow extract handle id back (Session.acts extract front {}) {}) := by
  induction back using List.reverseRecOn with
  | nil =>
    rw [List.append_nil, hempty]
    exact agrees_nil
  | append_singleton back a ih =>
    rw [← List.append_assoc, List.forall_mem_append, List.forall_mem_singleton] at h
    have hagrees := ih h.1 fun mid b rest hback =>
      hlive mid b (rest ++ [a]) (by rw [hback, List.append_assoc, List.cons_append])
    have hacts : Session.acts extract back (Session.acts extract front {})
        = Session.acts extract (front ++ back) {} := List.foldl_append.symm
    rw [← List.append_assoc, documentsSince_concat, follow_concat, hacts]
    exact hagrees.act (Session.quietReactions_acts h.1)
      (Session.acts_cache Cache.kept_inOrder _ Cache.inOrder_empty)
      (Session.snapshot?_acts h.1 id) (hlive back a [] rfl) h.2

end Ledger

namespace Session

open CacheAction

/-- **The changes that are told are a faithful log.** Take any run of actions from outside on a new
cache, of which the subscribers read what they like, subscribe and unsubscribe, but leave the
snapshots alone. The snapshot of a document is that of the document last given for its number since
it was last forgotten, and there is none if none was given. The size counts the numbers for which
there is one. An action about one number leaves the snapshots of the others as they are. An update
returns a change exactly if it has told the live subscribers of it, each of them once. And a
subscriber that is live from a moment at which the cache has nothing of a document, and that writes
down the changes it is told of, has the assemblies of the latest snapshot and the macros of all
snapshots since the document was last forgotten. -/
theorem acts_snapshot?_and_ledger (schema : Schema) (lookup : String → Option String)
    (actions : List CacheAction) (hactions : ∀ a ∈ actions, a.bringsQuiet = true) :
    let extract := Snapshot.extract schema lookup
    let s := acts extract actions {}
    (∀ id, s.cache.snapshot? id = (documentsSince id actions).getLast?.map extract)
      ∧ (∃ ids : List Nat, ids.Nodup ∧ (∀ id, id ∈ ids ↔ documentsSince id actions ≠ [])
          ∧ s.cache.size = ids.length)
      ∧ (∀ a other, a.bringsQuiet = true → a.document? other = none → a.forgets other = false →
          (s.act extract a).cache.snapshot? other = s.cache.snapshot? other)
      ∧ (∀ id document, ∃ change? : Option SnapshotDiff,
          (s.act extract (.update id document)).result? = some (.diff change?)
            ∧ (s.act extract (.update id document)).events.filterMap CacheEvent.told?
              = match change? with
                | none => []
                | some diff => s.cache.subscribers.map fun handle => (handle, ⟨id, diff⟩))
      ∧ s.cache.subscribers.Nodup
      ∧ (∀ front back handle id, actions = front ++ back → documentsSince id front = [] →
          (∀ mid a rest, back = mid ++ a :: rest →
            (acts extract (front ++ mid) {}).cache.isLive handle = true) →
          let l := Ledger.follow extract handle id back (acts extract front {}) {}
          l.assemblies.sameNames ((s.cache.snapshot? id).getD {}).assemblies = true
            ∧ l.macros.sameNames (Ledger.macrosOf extract (documentsSince id actions)) = true) := by
  intro extract s
  have hsnapshot := @snapshot?_acts extract _ hactions
  have hquiet : s.QuietReactions := quietReactions_acts hactions
  have hinOrder : s.cache.InOrder :=
    acts_cache Cache.kept_inOrder actions Cache.inOrder_empty
  refine ⟨hsnapshot, ?_, ?_, ?_, hinOrder.nodup, ?_⟩
  · refine ⟨s.cache.documents, acts_cache Cache.kept_nodup_documents actions List.Pairwise.nil,
      fun id => ?_, s.cache.size_eq_length_documents⟩
    rw [Cache.mem_documents_iff, hsnapshot, ne_eq, Option.map_eq_none_iff,
      List.getLast?_eq_none_iff]
  · intro a other ha hdocument hforgets
    rw [(act_quietly hquiet ha).2.1, hforgets, hdocument]
    rfl
  · intro id document
    refine ⟨_, result?_act_update hquiet id document, ?_⟩
    exact (act_quietly hquiet rfl).2.2
  · rintro front back handle id rfl hempty hlive
    have hagrees := Ledger.agrees_follow hactions hempty hlive
    constructor
    · refine (NameSet.sameNames_eq_true_iff hagrees.orderedAssemblies ?_).mpr fun key => ?_
      · rw [hsnapshot]
        cases (documentsSince id (front ++ back)).getLast? with
        | none => exact NameSet.ordered_empty
        | some document => exact (Snapshot.ordered_extract schema lookup document).1
      · rw [hsnapshot, hagrees.assemblies]
    · exact (NameSet.sameNames_eq_true_iff hagrees.orderedMacros (Ledger.ordered_macrosOf _)).mpr
        hagrees.macros

/-- A template that refers to an assembly. -/
def referring (assembly : String) : Document :=
  ((Builder.new 0 "page.tt").directive "assembly" [("name", assembly)]).build

/-- The snapshots of templates, without environment variables. -/
def plainSnapshot : Document → Snapshot := Snapshot.extract .standard fun _ => none

/-- Somebody subscribes who looks at the first document when told of a change. -/
def subscription : List CacheAction := [.subscribe [[.snapshot 1]]]

/-- Two documents are given, the first one twice. -/
def referringUpdates : List CacheAction :=
  [.update 1 (referring "$(Lib)a"), .update 2 (referring "b"), .update 1 (referring "C")]

set_option maxRecDepth 20000 in
/-- The subscriber is live before each of the updates. -/
theorem isLive_referringUpdates : ∀ mid a rest, referringUpdates = mid ++ a :: rest →
    (acts plainSnapshot (subscription ++ mid) {}).cache.isLive 0 = true := by
  intro mid a rest h
  match mid, h with
  | [], _ => cbv
  | [_], h => cases h; cbv
  | [_, _], h => cases h; cbv
  | _ :: _ :: _ :: _ :: _, h => cases h

/-- The cache after the updates. -/
def referringCache : Cache := (acts plainSnapshot (subscription ++ referringUpdates) {}).cache

/-- What the subscriber has written down of the first document. -/
def referringLedger : Ledger :=
  Ledger.follow plainSnapshot 0 1 referringUpdates (acts plainSnapshot subscription {}) {}

set_option maxRecDepth 20000 in
/-- The second update of the first document takes an assembly away together with the macro in its
path. The subscriber is told that the assembly is gone, but keeps the macro. -/
theorem acts_snapshot?_and_ledger_referring :
    (∀ a ∈ subscription ++ referringUpdates, a.bringsQuiet = true)
      ∧ referringCache.snapshot? 1 = some ⟨⟨["C"]⟩, ⟨[]⟩⟩ ∧ referringCache.snapshot? 3 = none
      ∧ referringLedger.assemblies.sameNames ⟨["C"]⟩ = true
      ∧ referringLedger.macros.sameNames ⟨["Lib"]⟩ = true := by
  have hquiet : ∀ a ∈ subscription ++ referringUpdates, a.bringsQuiet = true := by decide
  have hfirst : plainSnapshot (referring "$(Lib)a") = ⟨⟨["$(Lib)a"]⟩, ⟨["Lib"]⟩⟩ := by
    decide +kernel
  have hlatest : plainSnapshot (referring "C") = ⟨⟨["C"]⟩, ⟨[]⟩⟩ := by decide +kernel
  obtain ⟨hsnapshot, -, -, -, -, hledger⟩ :=
    acts_snapshot?_and_ledger .standard (fun _ => none) _ hquiet
  have hone : referringCache.snapshot? 1 = some ⟨⟨["C"]⟩, ⟨[]⟩⟩ :=
    (hsnapshot 1).trans (congrArg some hlatest)
  obtain ⟨hassemblies, hmacros⟩ :=
    hledger subscription referringUpdates 0 1 rfl rfl isLive_referringUpdates
  refine ⟨hquiet, hone, hsnapshot 3, ?_, ?_⟩
  · change referringLedger.assemblies.sameNames
      ((referringCache.snapshot? 1).getD {}).assemblies = true at hassemblies
    rw [hone] at hassemblies
    exact hassemblies
  · have hall : Ledger.macrosOf plainSnapshot [referring "$(Lib)a", referring "C"] = ⟨["Lib"]⟩ := by
      simp only [Ledger.macrosOf, List.foldl_cons, List.foldl_nil, hfirst, hlatest]
      rfl
    exact hall ▸ hmacros

end Session

end TextTemplate
