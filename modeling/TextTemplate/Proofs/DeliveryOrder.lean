import TextTemplate.Proofs.ChangeLog
import TextTemplate.Proofs.SnapshotChanges

/-!
# In which order subscribers are told

A subscriber that is told of a change may update a document itself, and then everybody is told of
the new change before those who wait for the old one. So a change that is published goes in front of
all that is still to be told, and never behind it: this is the law of one step (`told_step`), and
what a subscriber is told along a whole run follows from it.

A run is looked at through its **moments**, the sessions from which a step is taken. At a moment at
which a snapshot is stored it is known what the update publishes (`Session.publishing`), so the
moments list the changes in the order in which the snapshots are stored; and at every moment it is
known what a subscriber waits for (`Session.waiting`). If nothing is published for it while it waits
for something, a subscriber is told in the order of the snapshots (`changesFor_run`); if something
is, it is told of that first (`publishing_append_waiting_sublist`), and it comes from a subscriber
that is active while what is waited for is being delivered (`update_of_publishing`).
-/

namespace TextTemplate

/-! ## Moments of a run -/

namespace Session

open CacheAction

variable {extract : Document → Snapshot}

/-- **The moments of a run**: the sessions from which a step is taken, in order. -/
def moments (extract : Document → Snapshot) (s : Session) : List Session :=
  match h : s.agenda with
  | [] => []
  | _ :: _ =>
    have := step_left extract (s := s) (by simp [h])
    s :: moments extract (s.step extract)
termination_by (s.actionsLeft, s.stepsLeft)
decreasing_by
  rcases this with h | ⟨h₁, h₂⟩
  · exact Prod.Lex.left _ _ h
  · rw [h₁]; exact Prod.Lex.right _ h₂

theorem moments_of_agenda_nil {s : Session} (h : s.agenda = []) : s.moments extract = [] := by
  rw [moments]
  split
  · rfl
  · rename_i hcons
    rw [h] at hcons
    cases hcons

theorem moments_of_agenda_cons {s : Session} (h : s.agenda ≠ []) :
    s.moments extract = s :: (s.step extract).moments extract := by
  rw [moments]
  split
  · rename_i hnil
    exact absurd hnil h
  · rfl

/-- **Induction along a run**: what holds of a session with nothing to do, and of any other one if
it holds of the session after its first step, holds of every session. -/
theorem runInduction (extract : Document → Snapshot) {motive : Session → Prop}
    (done : ∀ s, s.agenda = [] → motive s)
    (step : ∀ s, s.agenda ≠ [] → motive (s.step extract) → motive s) (s : Session) :
    motive s := by
  induction s using run.induct extract with
  | case1 s hnil => exact done s hnil
  | case2 s task rest hcons _ ih => exact step s (hcons ▸ List.cons_ne_nil task rest) ih

/-- **What every step keeps of a session and of the moments behind it** holds at every moment and at
the end. -/
theorem moments_invariant {P : List Session → Session → Prop}
    (hstep : ∀ past s, P past s → P (past ++ [s]) (s.step extract)) {past : List Session}
    {s : Session} (h : P past s) :
    (∀ front t back, s.moments extract = front ++ t :: back → P (past ++ front) t)
      ∧ P (past ++ s.moments extract) (s.run extract) := by
  induction s using runInduction extract generalizing past with
  | done s hnil =>
    rw [moments_of_agenda_nil hnil, run_of_agenda_nil hnil, List.append_nil]
    exact ⟨fun front t back hsplit => by simp at hsplit, h⟩
  | step s hcons ih =>
    obtain ⟨hmoments, hend⟩ := ih (hstep past s h)
    rw [moments_of_agenda_cons hcons, run_of_agenda_cons hcons]
    rw [List.append_assoc, List.singleton_append] at hend
    refine ⟨fun front t back hsplit => ?_, hend⟩
    cases front with
    | nil =>
      rw [List.append_nil, ← (List.cons.inj hsplit).1]
      exact h
    | cons u front =>
      obtain ⟨rfl, hrest⟩ := List.cons.inj hsplit
      rw [← List.singleton_append, ← List.append_assoc]
      exact hmoments front t back hrest

/-- The action that is performed next, if it is an action that comes next. -/
def nextAction? (s : Session) : Option CacheAction :=
  match s.agenda with
  | .perform _ a :: _ => some a
  | _ => none

/-- **What is published at a moment**: what the action that is performed tells the subscribers. -/
def publishing (extract : Document → Snapshot) (s : Session) : List (Nat × Change) :=
  (s.nextAction?.map (published extract s.cache)).getD []

/-- What the subscribers have been told. -/
def told (s : Session) : List (Nat × Change) := s.events.filterMap CacheEvent.told?

/-- What the subscribers are still to be told. -/
def toTell (s : Session) : List (Nat × Change) := s.agenda.filterMap CacheTask.tell?

/-! ## The law of one step -/

/-- Performing an action tells nobody, and puts what it publishes in front of what is to be told. -/
theorem told_perform (caller : Option Nat) (s : Session) (a : CacheAction) :
    (perform extract caller s a).told = s.told
      ∧ (perform extract caller s a).toTell = published extract s.cache a ++ s.toTell := by
  have hrecord : ∀ (c : Cache) (reactions : List (List (List CacheAction))) (result : CacheResult),
      ({ s with cache := c, reactions := reactions }.record (.returned caller result)).told
        = s.told := by
    intro c reactions result
    simp only [told, record, List.filterMap_append]
    exact List.append_nil _
  cases a with
  | update id document =>
    refine ⟨rfl, ?_⟩
    cases hdiff : (extract document).diff? (s.cache.snapshot? id) with
    | none =>
      simp only [perform, toTell, published, hdiff]
      rfl
    | some diff =>
      simp only [perform, toTell, published, hdiff, List.filterMap_append, List.filterMap_map]
      show List.filterMap (some ∘ fun handle => (handle, (⟨id, diff⟩ : Change))) _ ++ _ = _
      rw [List.filterMap_eq_map]
      rfl
  | subscribe _ | unsubscribe _ | snapshot _ | unload _ | clear => exact ⟨hrecord _ _ _, rfl⟩

/-- Telling a subscriber puts no more to tell on the agenda. -/
theorem told_tell (handle : Nat) (change : Change) (s : Session) :
    (tell handle change s).told = s.told ++ [(handle, change)]
      ∧ (tell handle change s).toTell = s.toTell := by
  have htold : ∀ t : Session, t.events = s.events → (t.record (.told handle change)).told
      = s.told ++ [(handle, change)] := by
    intro t ht
    simp only [told, record, ht, List.filterMap_append]
    rfl
  unfold tell
  split
  · rename_i reaction later _
    have hnone :
        (reaction.map (CacheTask.perform (some handle))).filterMap CacheTask.tell? = [] := by
      rw [List.filterMap_map]
      exact List.filterMap_eq_nil_iff.mpr fun _ _ => rfl
    refine ⟨htold _ rfl, ?_⟩
    simp only [toTell, record, List.filterMap_append, hnone, List.nil_append]
  · exact ⟨htold _ rfl, rfl⟩

/-- **What is published goes in front of what is still to be told.** -/
theorem told_step (s : Session) :
    (s.step extract).told ++ (s.step extract).toTell
      = s.told ++ (s.publishing extract ++ s.toTell) := by
  unfold step publishing nextAction? toTell
  split
  · rename_i hnil
    simp only [hnil]
    rfl
  · rename_i caller a rest hagenda
    obtain ⟨htold, htoTell⟩ := @told_perform extract caller { s with agenda := rest } a
    simp only [hagenda]
    exact congrArg₂ _ htold htoTell
  · rename_i handle change rest hagenda
    obtain ⟨htold, htoTell⟩ := told_tell handle change { s with agenda := rest }
    simp only [hagenda]
    refine (congrArg₂ _ htold htoTell).trans ?_
    rw [List.append_assoc]
    rfl
  · rename_i caller result rest hagenda
    simp only [hagenda, told, record, List.filterMap_append]
    rw [List.append_assoc]
    rfl

/-! ## What one subscriber is told of one document -/

/-- The changes of a document in a list of what is told to whom, as far as it is told to one
subscriber. -/
def changesFor (handle id : Nat) (tellings : List (Nat × Change)) : List SnapshotDiff :=
  (tellings.filter fun t => t.1 = handle ∧ t.2.document = id).map fun t => t.2.diff

@[simp] theorem changesFor_append (handle id : Nat) (front back : List (Nat × Change)) :
    changesFor handle id (front ++ back)
      = changesFor handle id front ++ changesFor handle id back := by
  rw [changesFor, List.filter_append, List.map_append]
  rfl

/-- **The changes of a document that a subscriber waits for** at a moment. -/
def waiting (handle id : Nat) (s : Session) : List SnapshotDiff := changesFor handle id s.toTell

/-- **The changes of a document that are published for a subscriber** at the moments of a run, in
the order in which the snapshots are stored. -/
def publishedFor (extract : Document → Snapshot) (handle id : Nat) (ms : List Session) :
    List SnapshotDiff :=
  ms.flatMap fun t => changesFor handle id (t.publishing extract)

/-- **Nothing of a document is published for a subscriber while it waits** for an earlier change of
the document. -/
def Orderly (extract : Document → Snapshot) (handle id : Nat) (ms : List Session) : Prop :=
  ∀ t ∈ ms, changesFor handle id (t.publishing extract) ≠ [] → t.waiting handle id = []

/-- The law of one step, for one subscriber and one document. -/
theorem changesFor_step (handle id : Nat) (s : Session) :
    changesFor handle id (s.step extract).told ++ (s.step extract).waiting handle id
      = changesFor handle id s.told
        ++ (changesFor handle id (s.publishing extract) ++ s.waiting handle id) := by
  unfold waiting
  rw [← changesFor_append, told_step, changesFor_append, changesFor_append]

/-- **A subscriber is told each change that is published for it, once**, and what it waits for. -/
theorem changesFor_run_perm (handle id : Nat) (s : Session) :
    (changesFor handle id (s.run extract).told).Perm
      (changesFor handle id s.told
        ++ (s.waiting handle id ++ publishedFor extract handle id (s.moments extract))) := by
  induction s using runInduction extract with
  | done s hnil =>
    rw [run_of_agenda_nil hnil, moments_of_agenda_nil hnil, waiting, toTell, hnil]
    exact (List.append_nil _).symm ▸ List.Perm.refl _
  | step s hcons ih =>
    rw [run_of_agenda_cons hcons, moments_of_agenda_cons hcons, publishedFor, List.flatMap_cons]
    refine ih.trans ?_
    rw [← List.append_assoc, changesFor_step, List.append_assoc]
    refine List.Perm.append_left _ ?_
    -- What is published now went in front of what was waited for, and is listed behind it.
    rw [← List.append_assoc (s.waiting handle id)]
    exact List.Perm.append_right _ List.perm_append_comm

/-- **In an orderly run a subscriber is told in the order in which the snapshots are stored.** -/
theorem changesFor_run {handle id : Nat} {s : Session}
    (h : Orderly extract handle id (s.moments extract)) :
    changesFor handle id (s.run extract).told
      = changesFor handle id s.told
        ++ (s.waiting handle id ++ publishedFor extract handle id (s.moments extract)) := by
  induction s using runInduction extract with
  | done s hnil =>
    rw [run_of_agenda_nil hnil, moments_of_agenda_nil hnil, waiting, toTell, hnil]
    exact (List.append_nil _).symm
  | step s hcons ih =>
    rw [moments_of_agenda_cons hcons, Orderly, List.forall_mem_cons] at h
    rw [run_of_agenda_cons hcons, moments_of_agenda_cons hcons, publishedFor, List.flatMap_cons,
      ih h.2, ← List.append_assoc, changesFor_step, List.append_assoc]
    congr 1
    by_cases hnone : changesFor handle id (s.publishing extract) = []
    · rw [hnone, List.nil_append, List.nil_append]
      rfl
    · rw [h.1 hnone, List.append_nil, List.nil_append]
      rfl

/-- What a subscriber waits for it will be told, in this order and after what it has been told. -/
theorem told_append_waiting_sublist (handle id : Nat) (s : Session) :
    (changesFor handle id s.told ++ s.waiting handle id).Sublist
      (changesFor handle id (s.run extract).told) := by
  induction s using runInduction extract with
  | done s hnil =>
    rw [run_of_agenda_nil hnil, waiting, toTell, hnil]
    exact (List.append_nil _).symm ▸ List.Sublist.refl _
  | step s hcons ih =>
    rw [run_of_agenda_cons hcons]
    rw [changesFor_step] at ih
    exact ((List.sublist_append_right _ _).append_left _).trans ih

/-- **What is published while a subscriber waits it is told first.** -/
theorem publishing_append_waiting_sublist {handle id : Nat} {s : Session} :
    ∀ t ∈ s.moments extract,
      (changesFor handle id (t.publishing extract) ++ t.waiting handle id).Sublist
        (changesFor handle id (s.run extract).told) := by
  induction s using runInduction extract with
  | done s hnil =>
    rw [moments_of_agenda_nil hnil]
    exact List.forall_mem_nil _
  | step s hcons ih =>
    rw [moments_of_agenda_cons hcons, run_of_agenda_cons hcons]
    refine List.forall_mem_cons.mpr ⟨?_, ih⟩
    have hrest := @told_append_waiting_sublist extract handle id (s.step extract)
    rw [changesFor_step] at hrest
    exact (List.sublist_append_right _ _).trans hrest

/-! ## What a step puts on the agenda -/

/-- **What can come in front of the agenda with one step**: nothing, what a subscriber does in turn,
the return of an update, or that the subscribers are told of a change first. -/
inductive ComesInFront (c : Cache) : List CacheTask → Prop where
  | nothing : ComesInFront c []
  | reaction (handle : Nat) (actions : List CacheAction) :
      ComesInFront c (actions.map (CacheTask.perform (some handle)))
  | delivery (change : Change) (caller : Option Nat) (result : CacheResult) :
      ComesInFront c
        ((c.subscribers.map fun handle => CacheTask.tell handle change) ++ [.finish caller result])
  | finish (caller : Option Nat) (result : CacheResult) : ComesInFront c [.finish caller result]

/-- **A step takes the first task off the agenda and puts others in its place.** -/
theorem exists_agenda_step (s : Session) :
    ∃ front, ComesInFront s.cache front ∧ (s.step extract).agenda = front ++ s.agenda.tail := by
  unfold step
  split
  · rename_i hnil
    exact ⟨[], .nothing, by rw [hnil]; rfl⟩
  · rename_i caller a rest hagenda
    rw [hagenda]
    cases a with
    | update id document =>
      cases hdiff : (extract document).diff? (s.cache.snapshot? id) with
      | none =>
        refine ⟨_, .finish caller (.diff none), ?_⟩
        simp only [perform, hdiff]
        rfl
      | some diff =>
        refine ⟨_, .delivery ⟨id, diff⟩ caller (.diff (some diff)), ?_⟩
        simp only [perform, hdiff, List.append_assoc]
        rfl
    | subscribe _ | unsubscribe _ | snapshot _ | unload _ | clear => exact ⟨[], .nothing, rfl⟩
  · rename_i handle change rest hagenda
    rw [hagenda]
    unfold tell
    split
    · rename_i reaction later _
      exact ⟨_, .reaction handle reaction, rfl⟩
    · exact ⟨[], .nothing, rfl⟩
  · rename_i rest hagenda
    rw [hagenda]
    exact ⟨[], .nothing, rfl⟩

/-- The cache after a step is that after the action that is performed, if there is one. -/
theorem cache_step (s : Session) :
    (s.step extract).cache
      = (s.nextAction?.map fun a => (perform extract none s a).cache).getD s.cache := by
  unfold step nextAction?
  split
  · rename_i hnil
    simp only [hnil]
    rfl
  · rename_i caller a rest hagenda
    simp only [hagenda]
    cases a <;> rfl
  · rename_i handle change rest hagenda
    simp only [hagenda]
    exact tell_cache handle change _
  · rename_i caller result rest hagenda
    simp only [hagenda]
    rfl

/-! ## Runs from outside -/

/-- The moments of a run of actions from outside. -/
def chronicle (extract : Document → Snapshot) : List CacheAction → Session → List Session
  | [], _ => []
  | a :: actions, s =>
    moments extract { s with agenda := [.perform none a], events := [] }
      ++ chronicle extract actions (s.act extract a)

/-- What happens along a run of actions from outside. -/
def history (extract : Document → Snapshot) : List CacheAction → Session → List CacheEvent
  | [], _ => []
  | a :: actions, s => (s.act extract a).events ++ history extract actions (s.act extract a)

/-- **The changes of a document that a subscriber is told of** along a run of actions from outside,
in the order in which it is told of them. -/
def received (extract : Document → Snapshot) (handle id : Nat) (actions : List CacheAction)
    (s : Session) : List SnapshotDiff :=
  changesFor handle id ((history extract actions s).filterMap CacheEvent.told?)

/-- Each action is told of before the next one is done. -/
theorem received_cons (handle id : Nat) (a : CacheAction) (actions : List CacheAction)
    (s : Session) :
    received extract handle id (a :: actions) s
      = changesFor handle id (s.act extract a).told
        ++ received extract handle id actions (s.act extract a) := by
  unfold received
  rw [history, List.filterMap_append, changesFor_append]
  rfl

/-- **What holds whenever an action from outside is started, and is kept by every step**, of a session
and of the moments behind it, holds at every moment of a run. -/
theorem chronicle_invariant {P : List Session → Session → Prop}
    (hstart : ∀ past s a, P past s → P past { s with agenda := [.perform none a], events := [] })
    (hstep : ∀ past s, P past s → P (past ++ [s]) (s.step extract)) {actions : List CacheAction}
    {past : List Session} {s : Session} (h : P past s) :
    ∀ front t back, chronicle extract actions s = front ++ t :: back → P (past ++ front) t := by
  induction actions generalizing past s with
  | nil =>
    intro front t back hsplit
    simp [chronicle] at hsplit
  | cons a actions ih =>
    intro front t back hsplit
    obtain ⟨hmoments, hend⟩ := moments_invariant hstep (hstart past s a h)
    rcases List.append_eq_append_iff.mp hsplit with ⟨mid, hfront, hlater⟩ | ⟨mid, hfirst, hlater⟩
    · rw [hfront, ← List.append_assoc]
      exact ih hend mid t back hlater
    · cases mid with
      | nil =>
        rw [List.append_nil] at hfirst
        rw [← hfirst, ← List.append_nil (past ++ _)]
        exact ih hend [] t back hlater.symm
      | cons u mid =>
        rw [(List.cons.inj hlater).1]
        exact hmoments front u mid hfirst

/-- The moments behind a session need not be asked. -/
theorem forall_mem_chronicle {P : Session → Prop} {actions : List CacheAction} {s : Session}
    (hstart : ∀ s a, P s → P { s with agenda := [.perform none a], events := [] })
    (hstep : ∀ s, P s → P (s.step extract)) (h : P s) : ∀ t ∈ chronicle extract actions s, P t := by
  intro t ht
  obtain ⟨front, back, hsplit⟩ := List.append_of_mem ht
  have hinvariant := @chronicle_invariant extract (fun _ => P) (fun _ => hstart) (fun _ => hstep)
    actions [] s h
  exact hinvariant front t back hsplit

/-- **A subscriber is told each change that is published for it, once.** -/
theorem received_perm (handle id : Nat) (actions : List CacheAction) (s : Session) :
    (received extract handle id actions s).Perm
      (publishedFor extract handle id (chronicle extract actions s)) := by
  induction actions generalizing s with
  | nil => exact List.Perm.refl _
  | cons a actions ih =>
    rw [received_cons, chronicle, publishedFor, List.flatMap_append]
    exact (changesFor_run_perm handle id _).append (ih _)

/-- **In an orderly run a subscriber is told in the order in which the snapshots are stored.** -/
theorem received_eq_publishedFor {handle id : Nat} {actions : List CacheAction} {s : Session}
    (h : Orderly extract handle id (chronicle extract actions s)) :
    received extract handle id actions s
      = publishedFor extract handle id (chronicle extract actions s) := by
  induction actions generalizing s with
  | nil => rfl
  | cons a actions ih =>
    rw [chronicle, Orderly, List.forall_mem_append] at h
    rw [received_cons, chronicle, publishedFor, List.flatMap_append]
    exact congrArg₂ _ (changesFor_run h.1) (ih h.2)

/-- **What is published while a subscriber waits it is told first.** -/
theorem sublist_received {handle id : Nat} {actions : List CacheAction} {s : Session} :
    ∀ t ∈ chronicle extract actions s,
      (changesFor handle id (t.publishing extract) ++ t.waiting handle id).Sublist
        (received extract handle id actions s) := by
  induction actions generalizing s with
  | nil => exact List.forall_mem_nil _
  | cons a actions ih =>
    rw [chronicle, received_cons]
    refine List.forall_mem_append.mpr ⟨fun t ht => ?_, fun t ht => ?_⟩
    · exact (publishing_append_waiting_sublist t ht).trans (List.sublist_append_left _ _)
    · exact (ih t ht).trans (List.sublist_append_right _ _)

/-! ## Orderly runs -/

theorem changesFor_eq_nil {handle id : Nat} {tellings : List (Nat × Change)}
    (h : ∀ t ∈ tellings, t.1 = handle → t.2.document ≠ id) :
    changesFor handle id tellings = [] := by
  unfold changesFor
  rw [List.map_eq_nil_iff, List.filter_eq_nil_iff]
  intro t ht hboth
  have hboth := of_decide_eq_true hboth
  exact h t ht hboth.1 hboth.2

/-- Only an update of a document publishes a change of it. -/
theorem exists_update_of_publishing {handle id : Nat} {s : Session}
    (h : changesFor handle id (s.publishing extract) ≠ []) :
    ∃ caller document rest, s.agenda = .perform caller (.update id document) :: rest := by
  unfold publishing nextAction? at h
  split at h
  · rename_i caller a rest hagenda
    cases a with
    | update i document =>
      refine ⟨caller, document, rest, hagenda.trans ?_⟩
      by_cases hi : i = id
      · rw [hi]
      · refine absurd (changesFor_eq_nil fun t ht _ => ?_) h
        rw [Option.map_some, Option.getD_some, published] at ht
        split at ht
        · cases ht
        · obtain ⟨_, -, rfl⟩ := List.mem_map.mp ht
          exact hi
    | subscribe _ | unsubscribe _ | snapshot _ | unload _ | clear => exact absurd rfl h
  · exact absurd rfl h

/-- An action from outside is on the agenda only when it is started, and alone. -/
def OutsideAlone (s : Session) : Prop :=
  (∃ a, s.agenda = [.perform none a]) ∨ ∀ a, CacheTask.perform none a ∉ s.agenda

theorem OutsideAlone.step {s : Session} (h : s.OutsideAlone) : (s.step extract).OutsideAlone := by
  obtain ⟨front, hfront, hagenda⟩ := @exists_agenda_step extract s
  have htail : ∀ a, CacheTask.perform none a ∉ s.agenda.tail := by
    intro a ha
    rcases h with ⟨b, hb⟩ | hnone
    · rw [hb] at ha
      cases ha
    · exact hnone a (List.mem_of_mem_tail ha)
  refine Or.inr fun a ha => ?_
  rw [hagenda, List.mem_append] at ha
  refine ha.elim (fun ha => ?_) (htail a)
  cases hfront with
  | nothing => cases ha
  | reaction handle actions =>
    obtain ⟨_, -, heq⟩ := List.mem_map.mp ha
    cases heq
  | delivery change caller result =>
    rcases List.mem_append.mp ha with ha | ha
    · obtain ⟨_, -, heq⟩ := List.mem_map.mp ha
      cases heq
    · cases List.mem_singleton.mp ha
  | finish caller result => cases List.mem_singleton.mp ha

/-- At no moment of a run there is anything beside an action from outside. -/
theorem outsideAlone_chronicle (actions : List CacheAction) :
    ∀ t ∈ chronicle extract actions {}, t.OutsideAlone :=
  forall_mem_chronicle (fun _ a _ => Or.inl ⟨a, rfl⟩) (fun _ ht => ht.step)
    (Or.inr fun _ => List.not_mem_nil)

/-! ## Deliveries under way

The subscribers are told of a change one after another, and between two of them there may be all that
the first one and those who are told in turn do. What is told later stays on the agenda meanwhile,
with all that was behind it: so an entry of the agenda is known from what is `below` it. -/

/-- **The delivery of a change is under way**: at one of these moments a subscription in front of a
given one was told of the change, while the given one was to be told of it after that and perhaps
others. What is below on the agenda says that it is the same telling. -/
def UnderWay (past : List Session) (handle : Nat) (change : Change) (below : List CacheTask) : Prop :=
  ∃ u ∈ past, ∃ earlier < handle, ∃ between : List CacheTask,
    u.agenda = .tell earlier change :: (between ++ .tell handle change :: below)
      ∧ ∀ task ∈ between, ∃ other : Nat, task = .tell other change

/-- **Whoever is still to be told of a change** is told next but for others who are told of it first,
or its delivery is under way. -/
structure Delivers (past : List Session) (s : Session) : Prop where
  inOrder : s.cache.InOrder
  agenda : ∀ above handle change below, s.agenda = above ++ .tell handle change :: below →
    UnderWay past handle change below
      ∨ ∀ task ∈ above, ∃ earlier < handle, task = .tell earlier change

/-- **A telling that comes onto the agenda** has only tellings of the same change above it, to
subscriptions with smaller numbers. -/
theorem ComesInFront.pairwise {c : Cache} (hc : c.InOrder) {front : List CacheTask}
    (h : ComesInFront c front) :
    front.Pairwise fun task later => ∀ handle change, later = .tell handle change →
      ∃ earlier < handle, task = .tell earlier change := by
  cases h with
  | nothing => exact List.Pairwise.nil
  | reaction caller actions =>
    refine List.pairwise_map.mpr (List.pairwise_of_forall fun _ _ handle change htell => ?_)
    cases htell
  | delivery published caller result =>
    refine List.pairwise_append.mpr ⟨List.pairwise_map.mpr (hc.increasing.imp ?_),
      List.pairwise_singleton _ _, ?_⟩
    · intro earlier later hlt handle change htell
      cases htell
      exact ⟨earlier, hlt, rfl⟩
    · intro task _ later hlater handle change htell
      rw [List.mem_singleton.mp hlater] at htell
      cases htell
  | finish caller result => exact List.pairwise_singleton _ _

/-- A telling that is not the first task stays on the agenda, and from now on its delivery is under
way: if it was not before, then the first task is a telling of the same delivery. -/
theorem Delivers.underWay {past : List Session} {s : Session} (h : Delivers past s)
    {above below : List CacheTask} {handle : Nat} {change : Change}
    (htail : s.agenda.tail = above ++ .tell handle change :: below) :
    UnderWay (past ++ [s]) handle change below := by
  cases hagenda : s.agenda with
  | nil =>
    rw [hagenda] at htail
    simp at htail
  | cons first rest =>
    rw [hagenda, List.tail_cons] at htail
    rcases h.agenda (first :: above) handle change below (by rw [hagenda, htail]; rfl) with
      ⟨u, hu, hearlier⟩ | htells
    · exact ⟨u, List.mem_append_left _ hu, hearlier⟩
    · obtain ⟨⟨earlier, hlt, rfl⟩, hbetween⟩ := List.forall_mem_cons.mp htells
      refine ⟨s, List.mem_append_right _ List.mem_cons_self, earlier, hlt, above,
        by rw [hagenda, htail], fun task htask => ?_⟩
      obtain ⟨other, -, rfl⟩ := hbetween task htask
      exact ⟨other, rfl⟩

/-- **One step** leaves a telling where it is, or puts it behind tellings of the same change. -/
theorem Delivers.step {past : List Session} {s : Session} (h : Delivers past s) :
    Delivers (past ++ [s]) (s.step extract) := by
  refine ⟨step_cache Cache.kept_inOrder h.inOrder, fun above handle change below hsplit => ?_⟩
  obtain ⟨front, hfront, hagenda⟩ := @exists_agenda_step extract s
  rw [hagenda] at hsplit
  rcases List.append_eq_append_iff.mp hsplit with ⟨mid, -, htail⟩ | ⟨mid, hnew, hrest⟩
  · exact Or.inl (h.underWay htail)
  · cases mid with
    | nil => exact Or.inl (h.underWay (hrest.symm.trans (List.nil_append _).symm))
    | cons first mid =>
      have hpairwise := hfront.pairwise h.inOrder
      rw [hnew, ← (List.cons.inj hrest).1] at hpairwise
      exact Or.inr fun task htask =>
        (List.pairwise_append.mp hpairwise).2.2 task htask _ List.mem_cons_self handle change rfl

theorem delivers_of_forall_not_mem {s : Session} (hs : s.cache.InOrder)
    (h : ∀ handle change, CacheTask.tell handle change ∉ s.agenda) (past : List Session) :
    Delivers past s := by
  refine ⟨hs, fun above handle change below hagenda => absurd ?_ (h handle change)⟩
  rw [hagenda]
  exact List.mem_append_right _ List.mem_cons_self

theorem delivers_chronicle {actions : List CacheAction} {front back : List Session} {t : Session}
    (hsplit : chronicle extract actions {} = front ++ t :: back) : Delivers front t := by
  have hstart : ∀ past s a, Delivers past s →
      Delivers past { s with agenda := [.perform none a], events := [] } := by
    intro past s a hs
    refine delivers_of_forall_not_mem (s := { s with agenda := [.perform none a], events := [] })
      hs.inOrder (fun handle change hmem => ?_) past
    cases List.mem_singleton.mp hmem
  exact chronicle_invariant hstart (fun _ _ hs => hs.step)
    (delivers_of_forall_not_mem Cache.inOrder_empty (fun _ _ => List.not_mem_nil) []) front t back
    hsplit

/-- **What is published while somebody is still to be told of a change** is published by an update of
a subscriber, and the delivery of that change is under way. -/
theorem update_of_publishing {actions : List CacheAction} {front back : List Session} {t : Session}
    (hsplit : chronicle extract actions {} = front ++ t :: back) {handle id : Nat}
    (hpublishing : changesFor handle id (t.publishing extract) ≠ []) {change : Change}
    {above below : List CacheTask} (htell : t.agenda = above ++ .tell handle change :: below) :
    (∃ caller document rest, t.agenda = .perform (some caller) (.update id document) :: rest)
      ∧ UnderWay front handle change below := by
  obtain ⟨caller, document, rest, hagenda⟩ := exists_update_of_publishing hpublishing
  constructor
  · cases caller with
    | some caller => exact ⟨caller, document, rest, hagenda⟩
    | none =>
      have ht : t ∈ chronicle extract actions {} := by
        rw [hsplit]
        exact List.mem_append_right _ List.mem_cons_self
      rcases outsideAlone_chronicle actions t ht with ⟨a, ha⟩ | hnone
      · have hmem : CacheTask.tell handle change ∈ [CacheTask.perform none a] := by
          rw [← ha, htell]
          exact List.mem_append_right _ List.mem_cons_self
        cases List.mem_singleton.mp hmem
      · exact absurd (hagenda ▸ List.mem_cons_self) (hnone (.update id document))
  · rcases (delivers_chronicle hsplit).agenda above handle change below htell with
      hunderWay | htells
    · exact hunderWay
    -- the update is above the telling, and is no telling itself
    · rw [hagenda] at htell
      cases above with
      | nil => cases (List.cons.inj htell).1
      | cons first above =>
        obtain ⟨earlier, -, hfirst⟩ := htells first List.mem_cons_self
        rw [← (List.cons.inj htell).1] at hfirst
        cases hfirst

/-- What a subscriber waits for stands on the agenda. -/
theorem exists_agenda_of_mem_waiting {handle id : Nat} {s : Session} {diff : SnapshotDiff}
    (h : diff ∈ s.waiting handle id) :
    ∃ above below, s.agenda = above ++ .tell handle ⟨id, diff⟩ :: below := by
  obtain ⟨⟨other, document, _⟩, hmem, rfl⟩ := List.mem_map.mp h
  obtain ⟨htold, hboth⟩ := List.mem_filter.mp hmem
  obtain ⟨rfl, rfl⟩ : other = handle ∧ document = id := of_decide_eq_true hboth
  obtain ⟨task, htask, htell⟩ := List.mem_filterMap.mp htold
  cases task with
  | tell handle change =>
    cases htell
    exact List.append_of_mem htask
  | perform _ _ | finish _ _ => cases htell

/-- A run is orderly if nobody is to be told of a change when one is published. -/
theorem orderly_of_forall {handle id : Nat} {ms : List Session}
    (h : ∀ front t back, ms = front ++ t :: back → changesFor handle id (t.publishing extract) ≠ [] →
      ∀ above diff below, t.agenda ≠ above ++ .tell handle ⟨id, diff⟩ :: below) :
    Orderly extract handle id ms := by
  intro t ht hpublishing
  obtain ⟨front, back, hsplit⟩ := List.append_of_mem ht
  refine List.eq_nil_iff_forall_not_mem.mpr fun diff hdiff => ?_
  obtain ⟨above, below, htell⟩ := exists_agenda_of_mem_waiting hdiff
  exact h front t back hsplit hpublishing above diff below htell

/-- **A run is orderly for everybody if no subscriber updates the document.** -/
theorem orderly_of_forall_ne {handle id : Nat} {actions : List CacheAction}
    (h : ∀ t ∈ chronicle extract actions {}, ∀ caller document rest,
      t.agenda ≠ .perform (some caller) (.update id document) :: rest) :
    Orderly extract handle id (chronicle extract actions {}) := by
  refine orderly_of_forall fun front t back hsplit hpublishing above diff below htell => ?_
  obtain ⟨caller, document, rest, hagenda⟩ := (update_of_publishing hsplit hpublishing htell).1
  refine h t ?_ caller document rest hagenda
  rw [hsplit]
  exact List.mem_append_right _ List.mem_cons_self

/-- **Every run is orderly for the first subscription**, whatever the subscribers do: nobody is told
before it. -/
theorem orderly_zero (id : Nat) (actions : List CacheAction) :
    Orderly extract 0 id (chronicle extract actions {}) := by
  refine orderly_of_forall fun front t back hsplit hpublishing above diff below htell => ?_
  obtain ⟨u, -, earlier, hlt, -⟩ := (update_of_publishing hsplit hpublishing htell).2
  exact Nat.not_lt_zero earlier hlt

/-! ## Replaying the changes -/

/-- **The assemblies after a list of changes**, applied one after another. -/
def applyAll (diffs : List SnapshotDiff) (assemblies : NameSet) : NameSet :=
  diffs.foldl (fun names diff => diff.applyTo names) assemblies

theorem applyAll_append (front back : List SnapshotDiff) (assemblies : NameSet) :
    applyAll (front ++ back) assemblies = applyAll back (applyAll front assemblies) :=
  List.foldl_append

theorem ordered_applyAll {assemblies : NameSet} (h : assemblies.Ordered)
    (diffs : List SnapshotDiff) : (applyAll diffs assemblies).Ordered := by
  induction diffs generalizing assemblies with
  | nil => exact h
  | cons diff diffs ih => exact ih ((h.union _).difference _)

/-- A subscriber is told of a change once, if it is live and the change is of the document. -/
theorem changesFor_subscribers {subscribers : List Nat} (hnodup : subscribers.Nodup)
    (handle id : Nat) (change : Change) :
    changesFor handle id (subscribers.map fun h => (h, change))
      = if handle ∈ subscribers ∧ change.document = id then [change.diff] else [] := by
  induction subscribers with
  | nil => exact (if_neg fun h => List.not_mem_nil h.1).symm
  | cons h subscribers ih =>
    obtain ⟨hfirst, hrest⟩ := List.nodup_cons.mp hnodup
    rw [List.map_cons, ← List.singleton_append, changesFor_append, ih hrest]
    by_cases hh : h = handle
    · subst hh
      by_cases hid : change.document = id <;> simp [changesFor, hid, hfirst]
    · simp [changesFor, hh, Ne.symm hh]

/-- **What an action publishes for a live subscriber** is the change that the document brings which
it gives, if it gives one and there is a change. -/
theorem changesFor_published {c : Cache} (hc : c.InOrder) (handle id : Nat) (a : CacheAction) :
    changesFor handle id (published extract c a)
      = if handle ∈ c.subscribers
        then ((a.document? id).bind fun document =>
          (extract document).diff? (c.snapshot? id)).toList
        else [] := by
  cases a with
  | update i document =>
    by_cases hi : i = id
    · subst hi
      rw [document?, if_pos rfl, Option.bind_some, published]
      cases (extract document).diff? (c.snapshot? i) with
      | none => exact (ite_self _).symm
      | some diff =>
        show changesFor handle i (c.subscribers.map fun h => (h, (⟨i, diff⟩ : Change))) = _
        rw [changesFor_subscribers hc.nodup]
        simp only [and_true, Option.toList_some]
    · rw [document?, if_neg hi, Option.bind_none, Option.toList_none, ite_self]
      refine changesFor_eq_nil fun t ht _ => ?_
      rw [published] at ht
      split at ht
      · cases ht
      · obtain ⟨_, -, rfl⟩ := List.mem_map.mp ht
        exact hi
  | subscribe _ | unsubscribe _ | snapshot _ | unload _ | clear => exact (ite_self _).symm

/-- **Names that are those of the assemblies of the latest snapshot**, however they are spelled. -/
def Mirrors (id : Nat) (assemblies : NameSet) (s : Session) : Prop :=
  ∀ key, key ∈ assemblies.keys ↔ key ∈ ((s.cache.snapshot? id).getD {}).assemblies.keys

/-- **Whether a subscriber keeps track of a document at a moment**: the document is not forgotten,
and if it is updated the subscriber is live. -/
def tracks (handle id : Nat) (s : Session) : Bool :=
  s.nextAction?.all fun a => !a.forgets id && ((a.document? id).isNone || s.cache.isLive handle)

/-- **One step of a replay.** -/
theorem Mirrors.step {handle id : Nat} {assemblies : NameSet} {s : Session}
    (h : Mirrors id assemblies s) (hs : s.cache.InOrder) (htracks : s.tracks handle id = true) :
    Mirrors id (applyAll (changesFor handle id (s.publishing extract)) assemblies)
      (s.step extract) := by
  unfold Mirrors
  rw [cache_step, publishing]
  cases hnext : s.nextAction? with
  | none => exact h
  | some a =>
    rw [tracks, hnext, Option.all_some, Bool.and_eq_true, Bool.not_eq_true', Bool.or_eq_true]
      at htracks
    obtain ⟨hforgets, hlive⟩ := htracks
    simp only [Option.map_some, Option.getD_some]
    rw [snapshot?_perform, hforgets, changesFor_published hs]
    cases hdocument : a.document? id with
    | none =>
      rw [Option.bind_none, Option.toList_none, ite_self]
      exact h
    | some document =>
      have hmem : handle ∈ s.cache.subscribers :=
        List.contains_iff_mem.mp (hlive.resolve_left (by rw [hdocument]; exact Bool.false_ne_true))
      have hdiff : (extract document).diff? (s.cache.snapshot? id)
          = (extract document).diff? (some ((s.cache.snapshot? id).getD {})) := by
        cases s.cache.snapshot? id with
        | none => exact Snapshot.diff?_none
        | some old => rfl
      have happly : ∀ change : Option SnapshotDiff,
          applyAll change.toList assemblies = Snapshot.applyChange assemblies change := by
        intro change
        cases change <;> rfl
      rw [if_pos hmem, Option.bind_some, happly, hdiff]
      exact Snapshot.mem_keys_applyChange h

/-- **The replay of a whole run**: the changes in the order of the snapshots lead to the latest one.
-/
theorem Mirrors.run {handle id : Nat} {assemblies : NameSet} {s : Session}
    (h : Mirrors id assemblies s) (hs : s.cache.InOrder)
    (htracks : ∀ t ∈ s.moments extract, t.tracks handle id = true) :
    Mirrors id (applyAll (publishedFor extract handle id (s.moments extract)) assemblies)
      (s.run extract) := by
  induction s using runInduction extract generalizing assemblies with
  | done s hnil =>
    rw [run_of_agenda_nil hnil, moments_of_agenda_nil hnil]
    exact h
  | step s hcons ih =>
    rw [moments_of_agenda_cons hcons, List.forall_mem_cons] at htracks
    rw [run_of_agenda_cons hcons, moments_of_agenda_cons hcons, publishedFor, List.flatMap_cons,
      applyAll_append]
    exact ih (h.step hs htracks.1) (step_cache Cache.kept_inOrder hs) htracks.2

theorem Mirrors.acts {handle id : Nat} {actions : List CacheAction} {assemblies : NameSet}
    {s : Session} (h : Mirrors id assemblies s) (hs : s.cache.InOrder)
    (htracks : ∀ t ∈ chronicle extract actions s, t.tracks handle id = true) :
    Mirrors id
      (applyAll (publishedFor extract handle id (chronicle extract actions s)) assemblies)
      (s.acts extract actions) := by
  induction actions generalizing assemblies s with
  | nil => exact h
  | cons a actions ih =>
    rw [chronicle, List.forall_mem_append] at htracks
    rw [chronicle, publishedFor, List.flatMap_append, applyAll_append]
    have hrun := Mirrors.run (s := { s with agenda := [.perform none a], events := [] }) h hs
      htracks.1
    exact ih hrun (act_cache Cache.kept_inOrder hs a) htracks.2

/-- The latest snapshots are such as are extracted, with their names in order. -/
theorem ordered_snapshot?_acts (hextract : ∀ d, (extract d).assemblies.Ordered)
    (actions : List CacheAction) (id : Nat) :
    (((acts extract actions {}).cache.snapshot? id).getD {}).assemblies.Ordered := by
  have hstep : ∀ s : Session, ((s.cache.snapshot? id).getD {}).assemblies.Ordered →
      (((s.step extract).cache.snapshot? id).getD {}).assemblies.Ordered := by
    intro s hs
    rw [cache_step]
    cases s.nextAction? with
    | none => exact hs
    | some a =>
      rw [Option.map_some, Option.getD_some, snapshot?_perform]
      split
      · exact NameSet.ordered_empty
      · cases a.document? id with
        | none => exact hs
        | some document => exact hextract document
  induction actions using List.reverseRecOn with
  | nil => exact NameSet.ordered_empty
  | append_singleton actions a ih =>
    rw [acts_concat]
    exact (run_invariant (P := fun s => ((s.cache.snapshot? id).getD {}).assemblies.Ordered) hstep
      (s := { acts extract actions {} with agenda := [.perform none a], events := [] }) ih).1

/-- **In which order a subscriber is told of the changes of a document.** Take any run of actions
from outside on a new cache, whatever the subscribers do in turn. A subscriber is told each change
that is published for it, once. A change that is published while the subscriber waits for others it
is told of before all of these; so it is told in the order in which the snapshots are stored if
nothing is published for it while it waits. If something is, this comes from an update by a
subscriber that is done while each change that is waited for is being delivered: a subscription with
a smaller number was told of that change at an earlier moment, and the subscriber has been next but
for others told of the same change since. So nothing of the kind happens to anybody if no subscriber
updates the document, and never to the first subscription. And a subscriber that is told in this
order, of a document that is never forgotten and at whose every update it is live, has the assemblies
of the latest snapshot when it has applied the changes one after another. -/
theorem received_inOrder_and_replay (schema : Schema) (lookup : String → Option String)
    (actions : List CacheAction) (handle id : Nat) :
    let extract := Snapshot.extract schema lookup
    let moments := chronicle extract actions {}
    let told := received extract handle id actions {}
    told.Perm (publishedFor extract handle id moments)
      ∧ (∀ t ∈ moments, (changesFor handle id (t.publishing extract)
          ++ t.waiting handle id).Sublist told)
      ∧ (Orderly extract handle id moments → told = publishedFor extract handle id moments)
      ∧ (∀ front t back, moments = front ++ t :: back →
          changesFor handle id (t.publishing extract) ≠ [] →
          ∀ above diff below, t.agenda = above ++ .tell handle ⟨id, diff⟩ :: below →
            (∃ caller document rest,
                t.agenda = .perform (some caller) (.update id document) :: rest)
              ∧ UnderWay front handle ⟨id, diff⟩ below)
      ∧ (handle = 0 ∨ (∀ t ∈ moments, ∀ caller document rest,
            t.agenda ≠ .perform (some caller) (.update id document) :: rest) →
          Orderly extract handle id moments)
      ∧ (Orderly extract handle id moments → (∀ t ∈ moments, t.tracks handle id = true) →
          (applyAll told {}).sameNames
            (((acts extract actions {}).cache.snapshot? id).getD {}).assemblies = true) := by
  intro extract moments told
  refine ⟨received_perm handle id actions {}, sublist_received, received_eq_publishedFor,
    fun front t back hsplit hpublishing above diff below htell =>
      update_of_publishing hsplit hpublishing htell, ?_, ?_⟩
  · rintro (rfl | hnone)
    · exact orderly_zero id actions
    · exact orderly_of_forall_ne hnone
  · intro horderly htracks
    have hordered := fun document => (Snapshot.ordered_extract schema lookup document).1
    have htold : told = publishedFor extract handle id moments := received_eq_publishedFor horderly
    have hmirrors : Mirrors id (applyAll told {}) (acts extract actions {}) := by
      rw [htold]
      exact Mirrors.acts (fun _ => Iff.rfl) Cache.inOrder_empty htracks
    exact (NameSet.sameNames_eq_true_iff (ordered_applyAll NameSet.ordered_empty told)
      (ordered_snapshot?_acts hordered actions id)).mpr hmirrors

/-- Two subscribers, of whom the first one updates the document again when it is told of a change.
-/
def crossing : List CacheAction :=
  [.subscribe [[.update 1 (referring "Y")]], .subscribe [], .update 1 (referring "X")]

/-- The change that the update from outside brings. -/
def crossingFirst : SnapshotDiff := ⟨⟨["X"]⟩, ⟨[]⟩, ⟨[]⟩⟩

/-- The change that the first subscriber brings. -/
def crossingSecond : SnapshotDiff := ⟨⟨["Y"]⟩, ⟨["X"]⟩, ⟨[]⟩⟩

/-- Two subscribers, of whom the first one updates another document when it is told of a change. The
second one updates the document when it is told of that, while it waits for the change. -/
def nested : List CacheAction :=
  [.subscribe [[.update 2 (referring "P")]], .subscribe [[.update 1 (referring "Y")]],
    .update 1 (referring "X")]

set_option maxRecDepth 20000 in
/-- The first subscriber is told in the order of the snapshots, although it is its own update that
comes in between, and has the right assembly at the end. The second subscriber of the other run is
not: it updates the document itself, told of another one, while the change is being delivered. -/
theorem received_inOrder_and_replay_crossing :
    publishedFor plainSnapshot 0 1 (chronicle plainSnapshot crossing {})
        = [crossingFirst, crossingSecond]
      ∧ received plainSnapshot 0 1 crossing {} = [crossingFirst, crossingSecond]
      ∧ (∀ t ∈ chronicle plainSnapshot crossing {}, t.tracks 0 1 = true)
      ∧ (applyAll [crossingFirst, crossingSecond] {}).sameNames
          (((acts plainSnapshot crossing {}).cache.snapshot? 1).getD {}).assemblies = true
      ∧ ∃ front t back diff below, chronicle plainSnapshot nested {} = front ++ t :: back
          ∧ (∃ caller document rest,
              t.agenda = .perform (some caller) (.update 1 document) :: rest)
          ∧ UnderWay front 1 ⟨1, diff⟩ below := by
  obtain ⟨-, -, hinOrder, -, horderly, hreplay⟩ :=
    received_inOrder_and_replay .standard (fun _ => none) crossing 0 1
  have hpublished : publishedFor plainSnapshot 0 1 (chronicle plainSnapshot crossing {})
      = [crossingFirst, crossingSecond] := by
    cbv
  have htracks : ((chronicle plainSnapshot crossing {}).all fun t => t.tracks 0 1) = true := by
    cbv
  have hreceived := (hinOrder (horderly (Or.inl rfl))).trans hpublished
  refine ⟨hpublished, hreceived, List.all_eq_true.mp htracks, ?_, ?_⟩
  · rw [← hreceived]
    exact hreplay (horderly (Or.inl rfl)) (List.all_eq_true.mp htracks)
  · obtain ⟨-, -, hinOrder, hunderWay, -⟩ :=
      received_inOrder_and_replay .standard (fun _ => none) nested 1 1
    have hpublished : publishedFor plainSnapshot 1 1 (chronicle plainSnapshot nested {})
        = [crossingFirst, crossingSecond] := by
      cbv
    have hreceived : received plainSnapshot 1 1 nested {} = [crossingSecond, crossingFirst] := by
      cbv
    refine Classical.byContradiction fun hnone => ?_
    have horderly : Orderly plainSnapshot 1 1 (chronicle plainSnapshot nested {}) :=
      orderly_of_forall fun front t back hsplit hpublishing above diff below htell =>
        hnone ⟨front, t, back, diff, below, hsplit,
          hunderWay front t back hsplit hpublishing above diff below htell⟩
    have hequal := hreceived.symm.trans ((hinOrder horderly).trans hpublished)
    revert hequal
    decide

set_option maxRecDepth 20000 in
/-- The second subscriber of the same run is told of the later change first. It is live at both
updates, and the document is never forgotten, but at the end it has an assembly too many. -/
theorem received_crossing :
    publishedFor plainSnapshot 1 1 (chronicle plainSnapshot crossing {})
        = [crossingFirst, crossingSecond]
      ∧ received plainSnapshot 1 1 crossing {} = [crossingSecond, crossingFirst]
      ∧ (∀ t ∈ chronicle plainSnapshot crossing {}, t.tracks 1 1 = true)
      ∧ (applyAll [crossingSecond, crossingFirst] {}).toList = ["X", "Y"]
      ∧ (acts plainSnapshot crossing {}).cache.snapshot? 1 = some ⟨⟨["Y"]⟩, ⟨[]⟩⟩ := by
  have htracks : ((chronicle plainSnapshot crossing {}).all fun t => t.tracks 1 1) = true := by
    cbv
  refine ⟨?_, ?_, List.all_eq_true.mp htracks, ?_, ?_⟩
  · cbv
  · cbv
  · decide
  · cbv

end Session

end TextTemplate
