import TextTemplate.Dependency.Cache

/-!
# Runs of a cache

What a run of a cache does is known from what one step does. This module states both for two kinds
of runs.

Of every run, whatever the subscribers do: a property of caches that each operation keeps is kept
(`Session.run_cache`). Two such properties are that no document has two entries and that the
subscriptions are listed in the order of their numbers.

Of **quiet** runs, in which the subscribers may read the cache, subscribe and unsubscribe, but leave
the snapshots alone: the snapshots stay as they are, and what the subscribers will have been told at
the end can be read off at any moment, as what they have been told so far and what stands on the
agenda (`Session.tellings`). No step of a quiet run changes this list, and at the end nothing is on
the agenda.
-/

namespace TextTemplate

/-! ## The store -/

namespace Cache

/-- A snapshot that is kept is found, and the others are as before. -/
theorem lookup_put (id other : Nat) (s : Snapshot) (entries : List (Nat × Snapshot)) :
    (put id s entries).lookup other = if other = id then some s else entries.lookup other := by
  induction entries with
  | nil =>
    rw [put, List.lookup_cons, List.lookup_nil]
    by_cases h : other = id
    · rw [if_pos h, beq_iff_eq.mpr h]
    · rw [if_neg h, beq_eq_false_iff_ne.mpr h]
  | cons entry entries ih =>
    obtain ⟨i, t⟩ := entry
    rw [put]
    by_cases hid : i = id
    · rw [if_pos (beq_iff_eq.mpr hid), List.lookup_cons, List.lookup_cons, hid]
      by_cases h : other = id
      · rw [if_pos h, beq_iff_eq.mpr h]
      · rw [if_neg h, beq_eq_false_iff_ne.mpr h]
    · rw [if_neg (by simpa using hid), List.lookup_cons, List.lookup_cons, ih]
      by_cases h : other = i
      · have hne : other ≠ id := fun heq => hid (h.symm.trans heq)
        rw [if_neg hne, if_neg hne, beq_iff_eq.mpr h]
      · rw [beq_eq_false_iff_ne.mpr h]

/-- The entries without a document have no snapshot of it, and the others are as before. -/
theorem lookup_filter_ne (id other : Nat) (entries : List (Nat × Snapshot)) :
    (entries.filter fun (i, _) => i != id).lookup other
      = if other = id then none else entries.lookup other := by
  induction entries with
  | nil => rw [List.filter_nil, List.lookup_nil, ite_self]
  | cons entry entries ih =>
    obtain ⟨i, t⟩ := entry
    by_cases hid : i = id
    · rw [List.filter_cons_of_neg (by simpa using hid), ih, List.lookup_cons, hid]
      by_cases h : other = id
      · rw [if_pos h, if_pos h]
      · rw [if_neg h, if_neg h, beq_eq_false_iff_ne.mpr h]
    · rw [List.filter_cons_of_pos (by simpa using hid), List.lookup_cons, List.lookup_cons, ih]
      by_cases h : other = i
      · have hne : other ≠ id := fun heq => hid (h.symm.trans heq)
        rw [if_neg hne, if_neg hne, beq_iff_eq.mpr h]
      · rw [beq_eq_false_iff_ne.mpr h]

@[simp] theorem snapshot?_store (c : Cache) (id other : Nat) (s : Snapshot) :
    (c.store id s).snapshot? other = if other = id then some s else c.snapshot? other :=
  lookup_put id other s c.entries

@[simp] theorem snapshot?_unload (c : Cache) (id other : Nat) :
    (c.unload id).snapshot? other = if other = id then none else c.snapshot? other :=
  lookup_filter_ne id other c.entries

/-- **The documents that have a snapshot**, in no particular order. -/
def documents (c : Cache) : List Nat := c.entries.map Prod.fst

theorem size_eq_length_documents (c : Cache) : c.size = c.documents.length :=
  (List.length_map _).symm

/-- A document is listed if it has a snapshot. -/
theorem mem_documents_iff {c : Cache} {id : Nat} : id ∈ c.documents ↔ c.snapshot? id ≠ none := by
  unfold documents snapshot?
  rw [ne_eq, List.lookup_eq_none_iff, List.mem_map]
  constructor
  · rintro ⟨entry, hentry, rfl⟩ hall
    simpa using hall entry hentry
  · intro hnot
    refine Decidable.byContradiction fun hno => hnot fun entry hentry => ?_
    exact bne_iff_ne.mpr fun heq => hno ⟨entry, hentry, heq.symm⟩

/-- **A property of caches that no operation breaks.** -/
structure Kept (P : Cache → Prop) : Prop where
  store : ∀ {c}, P c → ∀ id s, P (c.store id s)
  unload : ∀ {c}, P c → ∀ id, P (c.unload id)
  clear : ∀ {c}, P c → P c.clear
  subscribe : ∀ {c}, P c → P c.subscribe
  unsubscribe : ∀ {c}, P c → ∀ handle, P (c.unsubscribe handle)

/-- The documents of the entries with one more. -/
theorem map_fst_put (id : Nat) (s : Snapshot) (entries : List (Nat × Snapshot)) :
    (put id s entries).map Prod.fst
      = if id ∈ entries.map Prod.fst then entries.map Prod.fst
        else entries.map Prod.fst ++ [id] := by
  induction entries with
  | nil => rfl
  | cons entry entries ih =>
    obtain ⟨i, t⟩ := entry
    rw [put]
    by_cases hid : i = id
    · rw [if_pos (beq_iff_eq.mpr hid), List.map_cons, List.map_cons, hid, if_pos List.mem_cons_self]
    · rw [if_neg (by simpa using hid), List.map_cons, List.map_cons, ih]
      have hmem : id ∈ i :: entries.map Prod.fst ↔ id ∈ entries.map Prod.fst := by
        rw [List.mem_cons, or_iff_right (Ne.symm hid)]
      by_cases h : id ∈ entries.map Prod.fst
      · rw [if_pos h, if_pos (hmem.mpr h)]
      · rw [if_neg h, if_neg (mt hmem.mp h), List.cons_append]

/-- **No document has two entries.** -/
theorem kept_nodup_documents : Kept fun c => c.documents.Nodup where
  store := by
    intro c h id s
    show ((put id s c.entries).map Prod.fst).Nodup
    rw [map_fst_put]
    split
    · exact h
    · rename_i hid
      refine List.nodup_append.mpr ⟨h, List.pairwise_singleton _ _, ?_⟩
      rintro a ha b hb rfl
      exact hid (List.mem_singleton.mp hb ▸ ha)
  unload := fun h id => h.sublist (List.filter_sublist.map Prod.fst)
  clear := fun _ => List.Pairwise.nil
  subscribe := fun h => h
  unsubscribe := fun h _ => h

/-- The live subscriptions are listed in the order of their numbers, all smaller than the next one.
-/
structure InOrder (c : Cache) : Prop where
  increasing : c.subscribers.Pairwise (· < ·)
  lt_next : ∀ handle ∈ c.subscribers, handle < c.next

theorem inOrder_empty : InOrder {} := ⟨List.Pairwise.nil, List.forall_mem_nil _⟩

/-- No subscription is listed twice. -/
theorem InOrder.nodup {c : Cache} (h : c.InOrder) : c.subscribers.Nodup :=
  h.increasing.imp Nat.ne_of_lt

/-- **Subscriptions are listed in the order of their numbers.** -/
theorem kept_inOrder : Kept InOrder where
  store := fun h _ _ => ⟨h.increasing, h.lt_next⟩
  unload := fun h _ => ⟨h.increasing, h.lt_next⟩
  clear := fun h => ⟨h.increasing, h.lt_next⟩
  subscribe := fun {c} h =>
    ⟨List.pairwise_append.mpr ⟨h.increasing, List.pairwise_singleton _ _,
        fun handle hmem _ hnext => List.mem_singleton.mp hnext ▸ h.lt_next handle hmem⟩,
      List.forall_mem_append.mpr ⟨fun handle hmem => Nat.lt_succ_of_lt (h.lt_next handle hmem),
        List.forall_mem_singleton.mpr (Nat.lt_succ_self c.next)⟩⟩
  unsubscribe := fun h _ =>
    ⟨h.increasing.sublist List.filter_sublist, fun a ha => h.lt_next a (List.mem_filter.mp ha).1⟩

end Cache

/-! ## Every run -/

namespace Session

variable {extract : Document → Snapshot}

/-- A run with nothing to do is over. -/
theorem run_of_agenda_nil {s : Session} (h : s.agenda = []) : s.run extract = s := by
  rw [run]
  split
  · rfl
  · rename_i hcons
    rw [h] at hcons
    cases hcons

/-- A run does the first thing and goes on. -/
theorem run_of_agenda_cons {s : Session} (h : s.agenda ≠ []) :
    s.run extract = (s.step extract).run extract := by
  rw [run]
  split
  · rename_i hnil
    exact absurd hnil h
  · rfl

/-- **What every step keeps a run keeps**, and at its end nothing is left to do. -/
theorem run_invariant {P : Session → Prop} (hstep : ∀ s, P s → P (s.step extract)) {s : Session}
    (h : P s) : P (s.run extract) ∧ (s.run extract).agenda = [] := by
  induction s using run.induct extract with
  | case1 s hnil =>
    rw [run_of_agenda_nil hnil]
    exact ⟨h, hnil⟩
  | case2 s task rest hcons _ ih =>
    rw [run_of_agenda_cons (hcons ▸ List.cons_ne_nil task rest)]
    exact ih (hstep s h)

/-- An action from outside is performed first. -/
theorem act_eq_run (a : CacheAction) (s : Session) :
    s.act extract a
      = (perform extract none { s with agenda := [], events := [] } a).run extract := by
  unfold act
  rw [run_of_agenda_cons (List.cons_ne_nil _ _)]
  rfl

/-- What no operation breaks is not broken by performing an action. -/
theorem perform_cache {P : Cache → Prop} (hP : Cache.Kept P) {s : Session} (h : P s.cache)
    (caller : Option Nat) (a : CacheAction) : P (perform extract caller s a).cache := by
  cases a with
  | subscribe reactions => exact hP.subscribe h
  | unsubscribe handle => exact hP.unsubscribe h handle
  | update id document => exact hP.store h id (extract document)
  | snapshot id => exact h
  | unload id => exact hP.unload h id
  | clear => exact hP.clear h

/-- Telling a subscriber does not change the cache. -/
theorem tell_cache (handle : Nat) (change : Change) (s : Session) :
    (tell handle change s).cache = s.cache := by
  unfold tell
  split <;> rfl

/-- What no operation breaks is not broken by a step. -/
theorem step_cache {P : Cache → Prop} (hP : Cache.Kept P) {s : Session} (h : P s.cache) :
    P (s.step extract).cache := by
  unfold step
  split
  · exact h
  · rename_i rest _
    exact perform_cache hP (s := { s with agenda := rest }) h _ _
  · rw [tell_cache]
    exact h
  · exact h

/-- **A property that no operation breaks holds at the end of every run.** -/
theorem run_cache {P : Cache → Prop} (hP : Cache.Kept P) {s : Session} (h : P s.cache) :
    P (s.run extract).cache :=
  (run_invariant (P := fun t => P t.cache) (fun _ ht => step_cache hP ht) h).1

/-- So it does after an action from outside. -/
theorem act_cache {P : Cache → Prop} (hP : Cache.Kept P) {s : Session} (h : P s.cache)
    (a : CacheAction) : P (s.act extract a).cache :=
  run_cache hP h

end Session

/-! ## Subscribers that leave the snapshots alone -/

namespace CacheAction

mutual

/-- Whether an action, and every reaction of a subscriber that it brings, leaves the snapshots
alone. -/
def isQuiet : CacheAction → Bool
  | .subscribe reactions => reactionsQuiet reactions
  | .unsubscribe _ => true
  | .snapshot _ => true
  | .update _ _ => false
  | .unload _ => false
  | .clear => false

/-- Whether every action of a list leaves the snapshots alone. -/
def allQuiet : List CacheAction → Bool
  | [] => true
  | a :: as => isQuiet a && allQuiet as

/-- Whether every action of a list of reactions leaves the snapshots alone. -/
def reactionsQuiet : List (List CacheAction) → Bool
  | [] => true
  | r :: rs => allQuiet r && reactionsQuiet rs

end

/-- **Whether an action brings only subscribers that leave the snapshots alone.** The action itself
may be any. -/
def bringsQuiet : CacheAction → Bool
  | .subscribe reactions => reactionsQuiet reactions
  | _ => true

theorem isQuiet_of_mem {as : List CacheAction} (h : allQuiet as = true) :
    ∀ a ∈ as, a.isQuiet = true := by
  induction as with
  | nil => exact List.forall_mem_nil _
  | cons b bs ih =>
    rw [allQuiet, Bool.and_eq_true] at h
    exact List.forall_mem_cons.mpr ⟨h.1, ih h.2⟩

end CacheAction

/-- What a subscriber is told by an event. -/
def CacheEvent.told? : CacheEvent → Option (Nat × Change)
  | .told handle change => some (handle, change)
  | .returned _ _ => none

/-- What an event returns to the outside. -/
def CacheEvent.answer? : CacheEvent → Option CacheResult
  | .returned none result => some result
  | _ => none

namespace CacheTask

/-- What a subscriber is to be told. -/
def tell? : CacheTask → Option (Nat × Change)
  | .tell handle change => some (handle, change)
  | _ => none

/-- What is to be returned to the outside. -/
def answer? : CacheTask → Option CacheResult
  | .finish none result => some result
  | _ => none

/-- Whether a task leaves the snapshots alone and does not come from outside. -/
def isQuiet : CacheTask → Bool
  | .perform (some _) a => a.isQuiet
  | .perform none _ => false
  | _ => true

end CacheTask

namespace Session

variable {extract : Document → Snapshot}

/-- **A quiet session**: every reaction that is left and everything on the agenda leaves the
snapshots alone. -/
structure Quiet (s : Session) : Prop where
  reactions : ∀ rs ∈ s.reactions, CacheAction.reactionsQuiet rs = true
  agenda : ∀ task ∈ s.agenda, task.isQuiet = true

/-- **What the subscribers will have been told**, in order: so far, and by the agenda. -/
def tellings (s : Session) : List (Nat × Change) :=
  s.events.filterMap CacheEvent.told? ++ s.agenda.filterMap CacheTask.tell?

/-- What will have been returned to the outside, in order. -/
def answers (s : Session) : List CacheResult :=
  s.events.filterMap CacheEvent.answer? ++ s.agenda.filterMap CacheTask.answer?

/-- **One session comes from another without a change that matters**: it is quiet, has the same
snapshots, and the same will have been told and returned. -/
structure QuietlyFrom (s t : Session) : Prop where
  quiet : t.Quiet
  entries : t.cache.entries = s.cache.entries
  tellings : t.tellings = s.tellings
  answers : t.answers = s.answers

theorem QuietlyFrom.trans {s t u : Session} (h : QuietlyFrom s t) (h' : QuietlyFrom t u) :
    QuietlyFrom s u :=
  ⟨h'.quiet, h'.entries.trans h.entries, h'.tellings.trans h.tellings, h'.answers.trans h.answers⟩

/-- A subscriber's reaction puts only actions on the agenda, and these are its own. -/
theorem quiet_map_perform {reaction : List CacheAction} (h : CacheAction.allQuiet reaction = true)
    (handle : Nat) :
    (∀ task ∈ reaction.map (CacheTask.perform (some handle)), task.isQuiet = true)
      ∧ (reaction.map (CacheTask.perform (some handle))).filterMap CacheTask.tell? = []
      ∧ (reaction.map (CacheTask.perform (some handle))).filterMap CacheTask.answer? = [] := by
  refine ⟨?_, ?_, ?_⟩
  · intro task htask
    obtain ⟨a, ha, rfl⟩ := List.mem_map.mp htask
    exact CacheAction.isQuiet_of_mem h a ha
  · rw [List.filterMap_map]
    exact List.filterMap_eq_nil_iff.mpr fun _ _ => rfl
  · rw [List.filterMap_map]
    exact List.filterMap_eq_nil_iff.mpr fun _ _ => rfl

/-- A quiet action of a subscriber. -/
theorem perform_quietly {s : Session} {rest : List CacheTask} {handle : Nat} {a : CacheAction}
    (hagenda : s.agenda = .perform (some handle) a :: rest) (hs : s.Quiet) :
    QuietlyFrom s (perform extract (some handle) { s with agenda := rest } a) := by
  have hquiet := hs.agenda
  rw [hagenda, List.forall_mem_cons] at hquiet
  have htells : s.agenda.filterMap CacheTask.tell? = rest.filterMap CacheTask.tell? := by
    rw [hagenda]
    rfl
  have hanswers : s.agenda.filterMap CacheTask.answer? = rest.filterMap CacheTask.answer? := by
    rw [hagenda]
    rfl
  have hrecord : ∀ (c : Cache) (reactions : List (List (List CacheAction))) (result : CacheResult),
      (∀ rs ∈ reactions, CacheAction.reactionsQuiet rs = true) → c.entries = s.cache.entries →
      QuietlyFrom s ({ s with cache := c, reactions := reactions, agenda := rest }.record
        (.returned (some handle) result)) := by
    intro c reactions result hreactions hentries
    refine ⟨⟨hreactions, hquiet.2⟩, hentries, ?_, ?_⟩
    · simp only [tellings, record, List.filterMap_append, htells, List.append_assoc]
      rfl
    · simp only [answers, record, List.filterMap_append, hanswers, List.append_assoc]
      rfl
  cases a with
  | subscribe reactions =>
    refine hrecord _ _ _ ?_ rfl
    intro rs hrs
    rcases List.mem_append.mp hrs with hrs | hrs
    · exact hs.reactions rs hrs
    · rw [List.mem_singleton.mp hrs]
      exact hquiet.1
  | unsubscribe other => exact hrecord _ _ _ hs.reactions rfl
  | snapshot id => exact hrecord _ _ _ hs.reactions rfl
  | update id document => exact absurd hquiet.1 Bool.false_ne_true
  | unload id => exact absurd hquiet.1 Bool.false_ne_true
  | clear => exact absurd hquiet.1 Bool.false_ne_true

/-- A subscriber is told of a change. -/
theorem tell_quietly {s : Session} {rest : List CacheTask} {handle : Nat} {change : Change}
    (hagenda : s.agenda = .tell handle change :: rest) (hs : s.Quiet) :
    QuietlyFrom s (tell handle change { s with agenda := rest }) := by
  have hquiet := hs.agenda
  rw [hagenda, List.forall_mem_cons] at hquiet
  have htells : s.agenda.filterMap CacheTask.tell?
      = (handle, change) :: rest.filterMap CacheTask.tell? := by
    rw [hagenda]
    rfl
  have hanswers : s.agenda.filterMap CacheTask.answer? = rest.filterMap CacheTask.answer? := by
    rw [hagenda]
    rfl
  unfold tell
  split
  · rename_i reaction later hreaction
    have hmem := List.mem_of_getElem? hreaction
    have hboth := hs.reactions _ hmem
    rw [CacheAction.reactionsQuiet, Bool.and_eq_true] at hboth
    obtain ⟨hperform, hnone, hnone'⟩ := quiet_map_perform hboth.1 handle
    refine ⟨⟨?_, ?_⟩, rfl, ?_, ?_⟩
    · intro rs hrs
      rcases List.mem_or_eq_of_mem_set hrs with hrs | rfl
      · exact hs.reactions rs hrs
      · exact hboth.2
    · exact List.forall_mem_append.mpr ⟨hperform, hquiet.2⟩
    · simp only [tellings, record, List.filterMap_append, htells, hnone, List.append_assoc]
      rfl
    · simp only [answers, record, List.filterMap_append, hanswers, hnone', List.append_assoc]
      rfl
  · refine ⟨⟨hs.reactions, hquiet.2⟩, rfl, ?_, ?_⟩
    · simp only [tellings, record, List.filterMap_append, htells, List.append_assoc]
      rfl
    · simp only [answers, record, List.filterMap_append, hanswers, List.append_assoc]
      rfl

/-- **A step of a quiet session changes nothing that matters.** -/
theorem step_quietly {s : Session} (hs : s.Quiet) : QuietlyFrom s (s.step extract) := by
  unfold step
  split
  · exact ⟨hs, rfl, rfl, rfl⟩
  · rename_i caller a rest hagenda
    cases caller with
    | some handle => exact perform_quietly hagenda hs
    | none =>
      have := hs.agenda (.perform none a) (hagenda ▸ List.mem_cons_self)
      cases this
  · rename_i handle change rest hagenda
    exact tell_quietly hagenda hs
  · rename_i caller result rest hagenda
    have hquiet := hs.agenda
    rw [hagenda, List.forall_mem_cons] at hquiet
    refine ⟨⟨hs.reactions, hquiet.2⟩, rfl, ?_, ?_⟩
    · simp only [tellings, record, List.filterMap_append, hagenda, List.append_assoc]
      rfl
    · simp only [answers, record, List.filterMap_append, hagenda, List.append_assoc]
      cases caller <;> rfl

/-- **A quiet run ends with the snapshots that it started with**, and with everything told and
returned that was on the agenda. -/
theorem run_quietly {s : Session} (hs : s.Quiet) :
    (s.run extract).Quiet
      ∧ (s.run extract).cache.entries = s.cache.entries
      ∧ (s.run extract).events.filterMap CacheEvent.told? = s.tellings
      ∧ (s.run extract).events.filterMap CacheEvent.answer? = s.answers := by
  obtain ⟨hfrom, hnil⟩ := run_invariant (P := QuietlyFrom s)
    (fun t ht => ht.trans (step_quietly ht.quiet)) ⟨hs, rfl, rfl, rfl⟩
  refine ⟨hfrom.quiet, hfrom.entries, ?_, ?_⟩
  · rw [← hfrom.tellings, tellings, hnil, List.filterMap_nil, List.append_nil]
  · rw [← hfrom.answers, answers, hnil, List.filterMap_nil, List.append_nil]

end Session

end TextTemplate
