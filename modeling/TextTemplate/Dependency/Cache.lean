import TextTemplate.Dependency.Snapshot

/-!
# The dependency cache

A cache keeps the latest snapshot of every open document. Whoever wants to know about changes
subscribes, and is told of each change when a document is updated.

`Cache` is the store and the list of subscriptions; its operations are plain functions. What makes a
run of a cache interesting is that a subscriber who is told of a change may itself use the cache,
while others still wait to be told. `Session` describes such runs. A subscriber is known by its
*reactions*: what it does the first time it is told of a change, what it does the second time, and
so on. The session keeps an agenda of what is still to be done, and `Session.step` does the first
thing on it; telling the subscribers of a change puts one entry for each of them on the agenda, and
the reactions of a subscriber come before whatever was still to be done. Every finite run of one
thread is described in this way. Runs in which several threads use a cache at once are not.
-/

namespace TextTemplate

/-- **A change of what a document depends on.** -/
structure Change where
  document : Nat
  diff : SnapshotDiff
deriving DecidableEq, Repr

/-- The name of a document in a cache. -/
def Change.documentName (c : Change) : String := "document#" ++ toString c.document

/-! ## The store -/

/-- **A cache**: the snapshots by document, the live subscriptions in the order of their numbers, and
the number of the next one. -/
structure Cache where
  entries : List (Nat × Snapshot) := []
  subscribers : List Nat := []
  next : Nat := 0
deriving DecidableEq, Repr, Inhabited

namespace Cache

/-- The number of documents that have a snapshot. -/
def size (c : Cache) : Nat := c.entries.length

/-- Whether no document has a snapshot. -/
def isEmpty (c : Cache) : Bool := c.entries.isEmpty

/-- **The latest snapshot of a document.** -/
def snapshot? (c : Cache) (id : Nat) : Option Snapshot := c.entries.lookup id

/-- The entries with the snapshot of a document put in, in place of an older one. -/
def put (id : Nat) (s : Snapshot) : List (Nat × Snapshot) → List (Nat × Snapshot)
  | [] => [(id, s)]
  | (i, t) :: rest => if i == id then (id, s) :: rest else (i, t) :: put id s rest

/-- **Keeps the snapshot of a document.** -/
def store (c : Cache) (id : Nat) (s : Snapshot) : Cache :=
  { c with entries := put id s c.entries }

/-- **Forgets a document.** Nobody is told. -/
def unload (c : Cache) (id : Nat) : Cache :=
  { c with entries := c.entries.filter fun (i, _) => i != id }

/-- Forgets every document. -/
def clear (c : Cache) : Cache := { c with entries := [] }

/-- **A new subscription.** Its number is the one that was next. -/
def subscribe (c : Cache) : Cache :=
  { c with subscribers := c.subscribers ++ [c.next], next := c.next + 1 }

/-- Whether a subscription is live. -/
def isLive (c : Cache) (handle : Nat) : Bool := c.subscribers.contains handle

/-- Ends a subscription. -/
def unsubscribe (c : Cache) (handle : Nat) : Cache :=
  { c with subscribers := c.subscribers.filter (· != handle) }

end Cache

/-! ## Runs -/

/-- **What can be done with a cache.** A subscription comes with the reactions of the subscriber. -/
inductive CacheAction where
  | subscribe (reactions : List (List CacheAction))
  | unsubscribe (handle : Nat)
  | update (id : Nat) (document : Document)
  | snapshot (id : Nat)
  | unload (id : Nat)
  | clear

/-- What an action returns. -/
inductive CacheResult where
  | handle (number : Nat)
  | flag (b : Bool)
  | diff (d : Option SnapshotDiff)
  | snapshot (s : Option Snapshot)
  | nothing
deriving DecidableEq, Repr

/-- **Something that happens in a run**: a subscriber is told of a change, or an action returns to
the subscriber who did it, or to nobody if it was done from outside. -/
inductive CacheEvent where
  | told (handle : Nat) (change : Change)
  | returned (caller : Option Nat) (result : CacheResult)
deriving DecidableEq, Repr

/-- Something still to be done: an action, telling a subscriber, or returning from an update. -/
inductive CacheTask where
  | perform (caller : Option Nat) (action : CacheAction)
  | tell (handle : Nat) (change : Change)
  | finish (caller : Option Nat) (result : CacheResult)

/-- **A run of a cache on one thread**: the cache, the reactions that each subscriber ever subscribed
has left, what is still to be done, and what has happened. -/
structure Session where
  cache : Cache := {}
  reactions : List (List (List CacheAction)) := []
  agenda : List CacheTask := []
  events : List CacheEvent := []

namespace Session

/-- Notes what has happened. -/
def record (e : CacheEvent) (s : Session) : Session := { s with events := s.events ++ [e] }

/-- Performs an action. Everything but an update is done at once; an update keeps the new snapshot
and puts on the agenda to tell the subscribers of the change, if there is one, and to return. -/
def perform (extract : Document → Snapshot) (caller : Option Nat) (s : Session) :
    CacheAction → Session
  | .subscribe reactions =>
    { s with cache := s.cache.subscribe, reactions := s.reactions ++ [reactions] }.record
      (.returned caller (.handle s.cache.next))
  | .unsubscribe handle =>
    { s with cache := s.cache.unsubscribe handle }.record
      (.returned caller (.flag (s.cache.isLive handle)))
  | .update id document =>
    let new := extract document
    let diff := new.diff? (s.cache.snapshot? id)
    let cache := s.cache.store id new
    let tell := match diff with
      | none => []
      | some d => cache.subscribers.map fun handle => .tell handle ⟨id, d⟩
    { s with cache, agenda := tell ++ .finish caller (.diff diff) :: s.agenda }
  | .snapshot id => s.record (.returned caller (.snapshot (s.cache.snapshot? id)))
  | .unload id =>
    { s with cache := s.cache.unload id }.record
      (.returned caller (.snapshot (s.cache.snapshot? id)))
  | .clear => { s with cache := s.cache.clear }.record (.returned caller .nothing)

/-- Tells a subscriber of a change. What it does in turn goes to the front of the agenda. -/
def tell (handle : Nat) (change : Change) (s : Session) : Session :=
  match s.reactions[handle]? with
  | some (reaction :: later) =>
    { s with
      reactions := s.reactions.set handle later
      agenda := reaction.map (CacheTask.perform (some handle)) ++ s.agenda }.record (.told handle change)
  | _ => s.record (.told handle change)

/-- **Does the first thing on the agenda.** -/
def step (extract : Document → Snapshot) (s : Session) : Session :=
  match s.agenda with
  | [] => s
  | .perform caller action :: rest => perform extract caller { s with agenda := rest } action
  | .tell handle change :: rest => tell handle change { s with agenda := rest }
  | .finish caller result :: rest => { s with agenda := rest }.record (.returned caller result)

/-! ## Every run ends

An action is performed once, and the reactions of a subscriber leave the session when they go on the
agenda. So the number of actions that are still to come, on the agenda or in a reaction, never grows,
and it shrinks with every action performed. In between, the entries that are no actions shrink. -/

mutual

/-- The number of actions in an action: itself and those of its reactions. -/
def actionWeight : CacheAction → Nat
  | .subscribe reactions => 1 + reactionsWeight reactions
  | _ => 1

/-- The number of actions in a list. -/
def actionsWeight : List CacheAction → Nat
  | [] => 0
  | a :: as => actionWeight a + actionsWeight as

/-- The number of actions in a list of reactions. -/
def reactionsWeight : List (List CacheAction) → Nat
  | [] => 0
  | r :: rs => actionsWeight r + reactionsWeight rs

end

/-- The number of actions in an entry of the agenda. -/
def taskWeight : CacheTask → Nat
  | .perform _ action => actionWeight action
  | _ => 0

/-- One for an entry of the agenda that is no action. -/
def taskStep : CacheTask → Nat
  | .perform _ _ => 0
  | _ => 1

/-- The sum of the weights of a list. -/
def total {α : Type} (weight : α → Nat) : List α → Nat
  | [] => 0
  | a :: as => weight a + total weight as

/-- The number of actions that are still to come. -/
def actionsLeft (s : Session) : Nat := total taskWeight s.agenda + total reactionsWeight s.reactions

/-- The number of entries of the agenda that are no actions. -/
def stepsLeft (s : Session) : Nat := total taskStep s.agenda

theorem total_append {α : Type} (weight : α → Nat) (as bs : List α) :
    total weight (as ++ bs) = total weight as + total weight bs := by
  induction as with
  | nil => simp only [List.nil_append, total, Nat.zero_add]
  | cons a as ih => simp only [List.cons_append, total, ih, Nat.add_assoc]

theorem total_taskWeight_perform (caller : Option Nat) (as : List CacheAction) :
    total taskWeight (as.map (CacheTask.perform caller)) = actionsWeight as := by
  induction as with
  | nil => simp only [List.map_nil, total, actionsWeight]
  | cons a as ih => simp only [List.map_cons, total, taskWeight, actionsWeight, ih]

theorem total_taskStep_perform (caller : Option Nat) (as : List CacheAction) :
    total taskStep (as.map (CacheTask.perform caller)) = 0 := by
  induction as with
  | nil => rfl
  | cons a as ih => simp only [List.map_cons, total, taskStep, ih]

theorem total_taskWeight_tell (change : Change) (handles : List Nat) :
    total taskWeight (handles.map fun handle => CacheTask.tell handle change) = 0 := by
  induction handles with
  | nil => rfl
  | cons h hs ih => simp only [List.map_cons, total, taskWeight, ih]

/-- Taking the first reaction of a subscriber takes its actions from the reactions left. -/
theorem total_reactionsWeight_set {all : List (List (List CacheAction))} {handle : Nat}
    {reaction : List CacheAction} {later : List (List CacheAction)}
    (h : all[handle]? = some (reaction :: later)) :
    actionsWeight reaction + total reactionsWeight (all.set handle later)
      = total reactionsWeight all := by
  induction all generalizing handle with
  | nil => simp at h
  | cons r rs ih =>
    cases handle with
    | zero =>
      simp only [List.getElem?_cons_zero, Option.some.injEq] at h
      subst h
      simp only [List.set_cons_zero, total, reactionsWeight, Nat.add_assoc]
    | succ n =>
      have := @ih n (by simpa using h)
      simp only [List.set_cons_succ, total]
      omega

/-- Performing an action leaves fewer of them. -/
theorem actionsLeft_perform (extract : Document → Snapshot) (caller : Option Nat) (s : Session)
    (a : CacheAction) :
    (perform extract caller s a).actionsLeft + 1 ≤ actionWeight a + s.actionsLeft := by
  cases a with
  | subscribe reactions =>
    simp only [perform, record, actionsLeft, actionWeight, total_append, total]
    omega
  | update id document =>
    simp only [perform, actionsLeft, actionWeight, total_append, total, taskWeight]
    split
    · simp only [total]
      omega
    · rw [total_taskWeight_tell]
      omega
  | unsubscribe _ | snapshot _ | unload _ | clear =>
    simp only [perform, record, actionsLeft, actionWeight]
    omega

/-- Telling a subscriber leaves as many actions, and no more of the other entries. -/
theorem tell_left (handle : Nat) (change : Change) (s : Session) :
    (tell handle change s).actionsLeft = s.actionsLeft
      ∧ (tell handle change s).stepsLeft = s.stepsLeft := by
  unfold tell
  split
  · next reaction later h =>
    have := total_reactionsWeight_set h
    simp only [record, actionsLeft, stepsLeft, total_append, total_taskWeight_perform,
      total_taskStep_perform]
    omega
  · exact ⟨rfl, rfl⟩

/-- **A step of a run makes progress.** -/
theorem step_left (extract : Document → Snapshot) {s : Session} (h : s.agenda ≠ []) :
    (step extract s).actionsLeft < s.actionsLeft
      ∨ (step extract s).actionsLeft = s.actionsLeft ∧ (step extract s).stepsLeft < s.stepsLeft := by
  unfold step
  split
  · next hnil => exact absurd hnil h
  · next caller action rest hs =>
    left
    have := actionsLeft_perform extract caller { s with agenda := rest } action
    simp only [actionsLeft, hs, total, taskWeight] at this ⊢
    omega
  · next handle change rest hs =>
    right
    have := tell_left handle change { s with agenda := rest }
    simp only [actionsLeft, stepsLeft, hs, total, taskWeight, taskStep] at this ⊢
    omega
  · next caller result rest hs =>
    right
    simp only [record, actionsLeft, stepsLeft, hs, total, taskWeight, taskStep]
    omega

/-- **Does everything on the agenda.** -/
def run (extract : Document → Snapshot) (s : Session) : Session :=
  match h : s.agenda with
  | [] => s
  | _ :: _ =>
    have := step_left extract (s := s) (by simp [h])
    run extract (s.step extract)
termination_by (s.actionsLeft, s.stepsLeft)
decreasing_by
  rcases this with h | ⟨h₁, h₂⟩
  · exact Prod.Lex.left _ _ h
  · rw [h₁]; exact Prod.Lex.right _ h₂

/-- **Does an action from outside** and all that follows from it. The events are those that it
raises. -/
def act (extract : Document → Snapshot) (a : CacheAction) (s : Session) : Session :=
  run extract { s with agenda := [.perform none a], events := [] }

/-- What the last action from outside returned. -/
def result? (s : Session) : Option CacheResult :=
  s.events.findSome? fun
    | .returned none result => some result
    | _ => none

end Session

end TextTemplate
