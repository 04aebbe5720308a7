import TextTemplate.Proofs.DeliveryOrder

/-!
# On whose behalf subscribers are told

An update tells the subscribers of a change, and while it does so they may subscribe others,
unsubscribe, and update documents themselves, which tells the subscribers of further changes. The
events of such a run are a flat list, in which it cannot be seen to which update a telling belongs.
It belongs to one all the same: the run is a **tree of calls** (`CallTree`). Inside a call are the
tellings that it is the cause of, and at the end its return; inside a telling are the calls that the
subscriber makes in turn. Read from left to right the tree gives the events of the run, and its
calls are the actions in the order in which they are performed (`exists_callTrees`).

In the tree it can be said what is delivered to whom: the tellings directly inside an update are
those of the subscriptions that were live in the cache which the update found, one for each and in
their order. What the subscribers do to the list of subscriptions in the meantime does not matter
for this update, only for those that come later.

Which subscriptions are live is told by the actions performed so far (`Live`): one that was made and
not ended since. The number of a subscription is the number of those made before it, so no number is
given twice, and only the first attempt to end a subscription finds it (`not_live_append`).
-/

namespace TextTemplate

/-! ## Calls -/

/-- **A call on a cache**: who makes it, or nobody if it comes from outside, the cache that it finds,
and the action. -/
structure CacheCall where
  caller : Option Nat
  cache : Cache
  action : CacheAction

/-- What a call returns. -/
def CacheCall.result (extract : Document → Snapshot) (c : CacheCall) : CacheResult :=
  match c.action with
  | .subscribe _ => .handle c.cache.next
  | .unsubscribe handle => .flag (c.cache.isLive handle)
  | .update id document => .diff ((extract document).diff? (c.cache.snapshot? id))
  | .snapshot id => .snapshot (c.cache.snapshot? id)
  | .unload id => .snapshot (c.cache.snapshot? id)
  | .clear => .nothing

/-- **What a run consists of**: calls, tellings and returns, with what happens inside each. -/
inductive CallTree where
  | call (c : CacheCall) (inside : List CallTree)
  | telling (handle : Nat) (change : Change) (inside : List CallTree)
  | returning (caller : Option Nat) (result : CacheResult)

namespace CallTree

mutual

/-- The events of a tree. -/
def events : CallTree → List CacheEvent
  | .call _ inside => eventsOf inside
  | .telling handle change inside => .told handle change :: eventsOf inside
  | .returning caller result => [.returned caller result]

/-- **The events of trees**, from left to right. -/
def eventsOf : List CallTree → List CacheEvent
  | [] => []
  | t :: ts => t.events ++ eventsOf ts

end

mutual

/-- The calls of a tree, each before those inside it. -/
def calls : CallTree → List CacheCall
  | .call c inside => c :: callsOf inside
  | .telling _ _ inside => callsOf inside
  | .returning _ _ => []

/-- **The calls of trees**, in the order in which they are made. -/
def callsOf : List CallTree → List CacheCall
  | [] => []
  | t :: ts => t.calls ++ callsOf ts

end

mutual

/-- The parts of a tree, itself first. -/
def parts : CallTree → List CallTree
  | .call c inside => .call c inside :: partsOf inside
  | .telling handle change inside => .telling handle change inside :: partsOf inside
  | .returning caller result => [.returning caller result]

/-- **The parts of trees.** -/
def partsOf : List CallTree → List CallTree
  | [] => []
  | t :: ts => t.parts ++ partsOf ts

end

/-- What a tree tells whom, if it is a telling. -/
def telling? : CallTree → Option (Nat × Change)
  | .telling handle change _ => some (handle, change)
  | _ => none

/-- **A part of a tree as it should be.** Directly inside a call are the tellings of what its action
publishes, each of them once and in order, and then its return; inside a telling are calls of the
subscriber that is told. -/
def Proper (extract : Document → Snapshot) : CallTree → Prop
  | .call c inside => ∃ tellings : List CallTree,
      inside = tellings ++ [.returning c.caller (c.result extract)]
        ∧ tellings.map telling? = (Session.published extract c.cache c.action).map some
  | .telling handle _ inside => ∀ t ∈ inside, ∃ c inner, t = .call c inner ∧ c.caller = some handle
  | .returning _ _ => True

@[simp] theorem eventsOf_append (ts us : List CallTree) :
    eventsOf (ts ++ us) = eventsOf ts ++ eventsOf us := by
  induction ts with
  | nil => rfl
  | cons t ts ih => rw [List.cons_append, eventsOf, eventsOf, ih, List.append_assoc]

@[simp] theorem callsOf_append (ts us : List CallTree) :
    callsOf (ts ++ us) = callsOf ts ++ callsOf us := by
  induction ts with
  | nil => rfl
  | cons t ts ih => rw [List.cons_append, callsOf, callsOf, ih, List.append_assoc]

@[simp] theorem partsOf_append (ts us : List CallTree) :
    partsOf (ts ++ us) = partsOf ts ++ partsOf us := by
  induction ts with
  | nil => rfl
  | cons t ts ih => rw [List.cons_append, partsOf, partsOf, ih, List.append_assoc]

end CallTree

/-! ## The tree of a run -/

namespace Session

open CallTree

variable {extract : Document → Snapshot}

/-- The call that is performed at a moment, if there is one. -/
def performing? (s : Session) : Option CacheCall :=
  match s.agenda with
  | .perform caller a :: _ => some ⟨caller, s.cache, a⟩
  | _ => none

/-- **A tree that grows from a task** of the agenda. -/
inductive Grows : CacheTask → CallTree → Prop where
  | perform (caller : Option Nat) (c : Cache) (a : CacheAction) (inside : List CallTree) :
    Grows (.perform caller a) (.call ⟨caller, c, a⟩ inside)
  | tell (handle : Nat) (change : Change) (inside : List CallTree) :
    Grows (.tell handle change) (.telling handle change inside)
  | finish (caller : Option Nat) (result : CacheResult) :
    Grows (.finish caller result) (.returning caller result)

/-- **Trees describe a run** if one grows from each task of the agenda, they give the events that
are still to come and the calls that are still to be made, and they are as they should be. -/
structure Describes (extract : Document → Snapshot) (s : Session) (trees : List CallTree) :
    Prop where
  grows : List.Forall₂ Grows s.agenda trees
  events : (s.run extract).events = s.events ++ eventsOf trees
  calls : (s.moments extract).filterMap performing? = callsOf trees
  proper : ∀ t ∈ partsOf trees, t.Proper extract

/-- The trees of tasks in front of others. -/
theorem exists_append_of_grows {front back : List CacheTask} {trees : List CallTree}
    (h : List.Forall₂ Grows (front ++ back) trees) :
    ∃ ts us, trees = ts ++ us ∧ List.Forall₂ Grows front ts ∧ List.Forall₂ Grows back us := by
  induction front generalizing trees with
  | nil => exact ⟨[], trees, rfl, .nil, h⟩
  | cons task front ih =>
    cases h with
    | cons hfirst hrest =>
      obtain ⟨ts, us, rfl, hts, hus⟩ := ih hrest
      exact ⟨_ :: ts, us, rfl, .cons hfirst hts, hus⟩

/-- From what is to be told grow tellings of it. -/
theorem map_telling?_of_grows {tellings : List (Nat × Change)} {trees : List CallTree}
    (h : List.Forall₂ Grows (tellings.map fun t => CacheTask.tell t.1 t.2) trees) :
    trees.map telling? = tellings.map some := by
  induction tellings generalizing trees with
  | nil =>
    cases h
    rfl
  | cons t tellings ih =>
    cases h with
    | cons hfirst hrest =>
      cases hfirst
      rw [List.map_cons, ih hrest]
      rfl

/-- From what a subscriber does grow calls of the subscriber. -/
theorem exists_call_of_grows {handle : Nat} {actions : List CacheAction} {trees : List CallTree}
    (h : List.Forall₂ Grows (actions.map (CacheTask.perform (some handle))) trees) :
    ∀ t ∈ trees, ∃ c inner, t = .call c inner ∧ c.caller = some handle := by
  induction actions generalizing trees with
  | nil =>
    cases h
    exact List.forall_mem_nil _
  | cons a actions ih =>
    cases h with
    | cons hfirst hrest =>
      cases hfirst
      exact List.forall_mem_cons.mpr ⟨⟨_, _, rfl, rfl⟩, ih hrest⟩

/-- **When a call is performed**, an update is still to tell what it publishes and to return, and
everything else has returned. -/
theorem step_call {s : Session} {caller : Option Nat} {a : CacheAction} {rest : List CacheTask}
    (hagenda : s.agenda = .perform caller a :: rest) :
    let c : CacheCall := ⟨caller, s.cache, a⟩
    ((s.step extract).events = s.events
        ∧ (s.step extract).agenda
          = ((published extract c.cache c.action).map fun t => CacheTask.tell t.1 t.2)
            ++ .finish caller (c.result extract) :: rest)
      ∨ ((s.step extract).events = s.events ++ [.returned caller (c.result extract)]
        ∧ (s.step extract).agenda = rest ∧ published extract c.cache c.action = []) := by
  intro c
  have hstep : s.step extract = perform extract caller { s with agenda := rest } a := by
    simp only [Session.step, hagenda]
  rw [hstep]
  cases a with
  | update id document =>
    refine Or.inl ⟨rfl, ?_⟩
    cases hdiff : (extract document).diff? (s.cache.snapshot? id) with
    | none => simp only [c, perform, published, CacheCall.result, hdiff, List.map_nil]
    | some diff =>
      simp only [c, perform, published, CacheCall.result, hdiff, List.map_map]
      rfl
  | subscribe _ | unsubscribe _ | snapshot _ | unload _ | clear => exact Or.inr ⟨rfl, rfl, rfl⟩

/-- **When a subscriber is told**, it is to do what it does in turn. -/
theorem step_telling {s : Session} {handle : Nat} {change : Change} {rest : List CacheTask}
    (hagenda : s.agenda = .tell handle change :: rest) :
    (s.step extract).events = s.events ++ [.told handle change]
      ∧ ∃ reaction : List CacheAction,
        (s.step extract).agenda = reaction.map (CacheTask.perform (some handle)) ++ rest := by
  have hstep : s.step extract = tell handle change { s with agenda := rest } := by
    simp only [Session.step, hagenda]
  rw [hstep, tell]
  split
  · rename_i reaction later _
    exact ⟨rfl, reaction, rfl⟩
  · exact ⟨rfl, [], rfl⟩

/-- **When an update returns**, nothing else happens. -/
theorem step_returning {s : Session} {caller : Option Nat} {result : CacheResult}
    {rest : List CacheTask} (hagenda : s.agenda = .finish caller result :: rest) :
    (s.step extract).events = s.events ++ [.returned caller result]
      ∧ (s.step extract).agenda = rest := by
  have hstep : s.step extract
      = { s with agenda := rest }.record (.returned caller result) := by
    simp only [Session.step, hagenda]
  rw [hstep]
  exact ⟨rfl, rfl⟩

/-- A run with something to do goes on from its first step. -/
theorem Describes.of_step {s : Session} {task : CacheTask} {rest : List CacheTask}
    (hagenda : s.agenda = task :: rest) {trees : List CallTree}
    (hgrows : List.Forall₂ Grows (task :: rest) trees)
    (hevents : ((s.step extract).run extract).events = s.events ++ eventsOf trees)
    (hcalls : s.performing?.toList ++ ((s.step extract).moments extract).filterMap performing?
      = callsOf trees)
    (hproper : ∀ t ∈ partsOf trees, t.Proper extract) : Describes extract s trees := by
  have hne : s.agenda ≠ [] := hagenda ▸ List.cons_ne_nil task rest
  refine ⟨hagenda ▸ hgrows, ?_, ?_, hproper⟩
  · rw [run_of_agenda_cons hne, hevents]
  · rw [moments_of_agenda_cons hne, List.filterMap_cons, ← hcalls]
    cases s.performing? <;> rfl

/-- A call that is performed first, with tellings of what it publishes and its return, is a tree in
front of those of the other tasks. -/
theorem Describes.of_call {s : Session} {caller : Option Nat} {a : CacheAction}
    {rest : List CacheTask} (hagenda : s.agenda = .perform caller a :: rest) {ts us : List CallTree}
    (hrest : List.Forall₂ Grows rest us)
    (htellings : ts.map telling? = (published extract s.cache a).map some)
    (hevents : ((s.step extract).run extract).events = s.events
      ++ (eventsOf ts ++ .returned caller (CacheCall.result extract ⟨caller, s.cache, a⟩)
        :: eventsOf us))
    (hcalls : ((s.step extract).moments extract).filterMap performing? = callsOf ts ++ callsOf us)
    (hproper : ∀ t ∈ partsOf ts ++ partsOf us, t.Proper extract) :
    ∃ all, Describes extract s all := by
  let c : CacheCall := ⟨caller, s.cache, a⟩
  have hperforming : s.performing?.toList = [c] := by
    rw [performing?, hagenda]
    rfl
  obtain ⟨hts, hus⟩ := List.forall_mem_append.mp hproper
  refine ⟨.call c (ts ++ [.returning caller (c.result extract)]) :: us,
    .of_step hagenda (.cons (.perform ..) hrest) ?_ ?_ ?_⟩
  · rw [hevents]
    simp only [eventsOf, CallTree.events, eventsOf_append, List.append_assoc, List.cons_append,
      List.nil_append, c]
  · rw [hperforming, hcalls]
    simp only [callsOf, CallTree.calls, callsOf_append, List.append_nil, List.cons_append,
      List.nil_append]
  · simp only [partsOf, CallTree.parts, partsOf_append, List.cons_append, List.forall_mem_cons,
      List.forall_mem_append, List.append_nil]
    exact ⟨⟨ts, rfl, htellings⟩, ⟨hts, trivial, List.forall_mem_nil _⟩, hus⟩

/-- A call that is performed first, and what happens inside it, are a tree. -/
theorem Describes.call {s : Session} {caller : Option Nat} {a : CacheAction}
    {rest : List CacheTask} (hagenda : s.agenda = .perform caller a :: rest) {trees : List CallTree}
    (h : Describes extract (s.step extract) trees) : ∃ all, Describes extract s all := by
  obtain ⟨hgrows, hevents, hcalls, hproper⟩ := h
  rcases step_call hagenda with ⟨hbefore, htasks⟩ | ⟨hbefore, htasks, hnone⟩
  · -- the tellings of an update and its return are the next tasks, and come inside the call
    rw [htasks] at hgrows
    obtain ⟨ts, us, rfl, htellings, hrest⟩ := exists_append_of_grows hgrows
    cases hrest with
    | @cons _ _ _ us hreturn hrest =>
      cases hreturn
      rw [partsOf_append, partsOf, List.forall_mem_append, List.forall_mem_append] at hproper
      refine Describes.of_call hagenda hrest (map_telling?_of_grows htellings) ?_ ?_
        (List.forall_mem_append.mpr ⟨hproper.1, hproper.2.2⟩)
      · rw [hevents, hbefore, eventsOf_append]
        rfl
      · rw [hcalls, callsOf_append]
        rfl
  · -- everything else has returned
    rw [htasks] at hgrows
    refine @Describes.of_call extract s caller a rest hagenda [] trees hgrows ?_ ?_ hcalls hproper
    · show [] = (published extract s.cache a).map some
      rw [show published extract s.cache a = [] from hnone]
      rfl
    · rw [hevents, hbefore, List.append_assoc]
      rfl

/-- A telling that comes first, and the calls that the subscriber makes in turn, are a tree. -/
theorem Describes.telling {s : Session} {handle : Nat} {change : Change} {rest : List CacheTask}
    (hagenda : s.agenda = .tell handle change :: rest) {trees : List CallTree}
    (h : Describes extract (s.step extract) trees) : ∃ all, Describes extract s all := by
  obtain ⟨hgrows, hevents, hcalls, hproper⟩ := h
  have hperforming : s.performing? = none := by
    rw [performing?, hagenda]
  obtain ⟨hbefore, reaction, htasks⟩ := @step_telling extract _ _ _ _ hagenda
  rw [htasks] at hgrows
  obtain ⟨ts, us, rfl, hreaction, hrest⟩ := exists_append_of_grows hgrows
  refine ⟨.telling handle change ts :: us, .of_step hagenda (.cons (.tell ..) hrest) ?_ ?_ ?_⟩
  · rw [hevents, hbefore, eventsOf_append]
    simp only [eventsOf, CallTree.events, List.append_assoc, List.cons_append, List.nil_append]
  · rw [hperforming, hcalls, callsOf_append]
    rfl
  · rw [partsOf_append] at hproper
    exact List.forall_mem_cons.mpr ⟨exists_call_of_grows hreaction, hproper⟩

/-- A return that comes first is a tree of its own. -/
theorem Describes.returning {s : Session} {caller : Option Nat} {result : CacheResult}
    {rest : List CacheTask} (hagenda : s.agenda = .finish caller result :: rest)
    {trees : List CallTree} (h : Describes extract (s.step extract) trees) :
    ∃ all, Describes extract s all := by
  obtain ⟨hgrows, hevents, hcalls, hproper⟩ := h
  have hperforming : s.performing? = none := by
    rw [performing?, hagenda]
  obtain ⟨hbefore, htasks⟩ := @step_returning extract _ _ _ _ hagenda
  rw [htasks] at hgrows
  refine ⟨.returning caller result :: trees,
    .of_step hagenda (.cons (.finish ..) hgrows) ?_ ?_ ?_⟩
  · rw [hevents, hbefore, List.append_assoc]
    rfl
  · rw [hperforming, hcalls]
    rfl
  · exact List.forall_mem_cons.mpr ⟨trivial, hproper⟩

/-- **Every run is described by trees**, one for each task of the agenda. -/
theorem exists_describes (extract : Document → Snapshot) (s : Session) :
    ∃ trees, Describes extract s trees := by
  induction s using runInduction extract with
  | done s hnil =>
    refine ⟨[], hnil ▸ .nil, ?_, ?_, List.forall_mem_nil _⟩
    · rw [run_of_agenda_nil hnil]
      exact (List.append_nil _).symm
    · rw [moments_of_agenda_nil hnil]
      rfl
  | step s hne ih =>
    obtain ⟨trees, htrees⟩ := ih
    cases hagenda : s.agenda with
    | nil => exact absurd hagenda hne
    | cons task rest =>
      cases task with
      | perform caller a => exact htrees.call hagenda
      | tell handle change => exact htrees.telling hagenda
      | finish caller result => exact htrees.returning hagenda

/-- **Every run of actions from outside is described by trees**, one for each action. -/
theorem exists_callTrees (extract : Document → Snapshot) (actions : List CacheAction) (s : Session) :
    ∃ trees : List CallTree,
      List.Forall₂ (fun a t => Grows (.perform none a) t) actions trees
        ∧ eventsOf trees = history extract actions s
        ∧ callsOf trees = (chronicle extract actions s).filterMap performing?
        ∧ ∀ t ∈ partsOf trees, t.Proper extract := by
  induction actions generalizing s with
  | nil => exact ⟨[], .nil, rfl, rfl, List.forall_mem_nil _⟩
  | cons a actions ih =>
    obtain ⟨ts, hts⟩ :=
      exists_describes extract { s with agenda := [.perform none a], events := [] }
    obtain ⟨us, hgrows, hevents, hcalls, hproper⟩ := ih (s.act extract a)
    cases hts.grows with
    | cons hfirst hnil =>
      cases hnil
      refine ⟨_ :: us, .cons hfirst hgrows, ?_, ?_, ?_⟩
      · have hact := hts.events
        rw [eventsOf, eventsOf, List.append_nil, List.nil_append] at hact
        rw [eventsOf, history, hevents, ← hact]
        rfl
      · have hact := hts.calls
        rw [callsOf, callsOf, List.append_nil] at hact
        rw [callsOf, chronicle, List.filterMap_append, hcalls, hact]
      · have hact := hts.proper
        rw [partsOf, partsOf, List.append_nil] at hact
        exact List.forall_mem_append.mpr ⟨hact, hproper⟩

end Session

/-! ## Live subscriptions -/

namespace CacheAction

/-- Whether an action is a subscription. -/
def subscribes : CacheAction → Bool
  | .subscribe _ => true
  | _ => false

/-- Whether an action ends a subscription. -/
def ends (handle : Nat) : CacheAction → Bool
  | .unsubscribe h => h == handle
  | _ => false

/-- **A subscription is live after a list of actions** if it was made and not ended since. Its number
is that of the subscriptions made before it. -/
def Live (handle : Nat) (actions : List CacheAction) : Prop :=
  ∃ (before after : List CacheAction) (reactions : List (List CacheAction)),
    actions = before ++ .subscribe reactions :: after
      ∧ before.countP subscribes = handle ∧ ∀ a ∈ after, a.ends handle = false

/-- One more action makes a subscription, or ends one. -/
theorem live_concat {handle : Nat} {actions : List CacheAction} {a : CacheAction} :
    Live handle (actions ++ [a])
      ↔ (a.subscribes = true ∧ actions.countP subscribes = handle)
        ∨ (Live handle actions ∧ a.ends handle = false) := by
  constructor
  · rintro ⟨before, after, reactions, heq, hcount, hafter⟩
    rcases List.eq_nil_or_concat after with rfl | ⟨after, last, rfl⟩
    · obtain ⟨rfl, hlast⟩ := List.append_inj' heq rfl
      cases hlast
      exact Or.inl ⟨rfl, hcount⟩
    · rw [List.concat_eq_append, List.forall_mem_append, List.forall_mem_singleton] at hafter
      rw [List.concat_eq_append, ← List.cons_append, ← List.append_assoc] at heq
      obtain ⟨rfl, hlast⟩ := List.append_inj' heq rfl
      cases hlast
      exact Or.inr ⟨⟨before, after, reactions, rfl, hcount, hafter.1⟩, hafter.2⟩
  · rintro (⟨hsubscribes, hcount⟩ | ⟨⟨before, after, reactions, rfl, hcount, hafter⟩, hends⟩)
    · cases a with
      | subscribe reactions => exact ⟨actions, [], reactions, rfl, hcount, List.forall_mem_nil _⟩
      | _ => cases hsubscribes
    · refine ⟨before, after ++ [a], reactions, ?_, hcount, ?_⟩
      · rw [List.append_assoc, List.cons_append]
      · exact List.forall_mem_append.mpr ⟨hafter, List.forall_mem_singleton.mpr hends⟩

/-- A live subscription has the number of one that was made. -/
theorem Live.lt_countP {handle : Nat} {actions : List CacheAction} (h : Live handle actions) :
    handle < actions.countP subscribes := by
  obtain ⟨before, after, reactions, rfl, rfl, -⟩ := h
  rw [List.countP_append, List.countP_cons_of_pos rfl]
  omega

/-- **What is gone is gone**: a subscription that was made and has been ended is not live again. -/
theorem not_live_append {handle : Nat} {actions : List CacheAction} (h : ¬ Live handle actions)
    (hlt : handle < actions.countP subscribes) (more : List CacheAction) :
    ¬ Live handle (actions ++ more) := by
  induction more using List.reverseRecOn with
  | nil => rwa [List.append_nil]
  | append_singleton more a ih =>
    rw [← List.append_assoc, live_concat]
    rintro (⟨-, hcount⟩ | ⟨hlive, -⟩)
    · rw [List.countP_append] at hcount
      omega
    · exact ih hlive

end CacheAction

namespace Cache

open CacheAction

/-- **The subscriptions of a cache are those that a list of actions leaves live**, and the next
number is that of the subscriptions made. -/
structure Enrolled (actions : List CacheAction) (c : Cache) : Prop where
  mem_iff : ∀ handle, handle ∈ c.subscribers ↔ Live handle actions
  next : c.next = actions.countP subscribes

theorem enrolled_nil : Enrolled [] {} where
  mem_iff := by
    refine fun handle => iff_of_false List.not_mem_nil ?_
    rintro ⟨before, _, _, heq, -, -⟩
    cases before <;> cases heq
  next := rfl

/-- An action that neither makes a subscription nor ends one leaves them as they are. -/
theorem Enrolled.concat {actions : List CacheAction} {c d : Cache} (h : Enrolled actions c)
    {a : CacheAction} (hsubscribes : a.subscribes = false)
    (hends : ∀ handle, a.ends handle = false) (hsame : d.subscribers = c.subscribers)
    (hnext : d.next = c.next) : Enrolled (actions ++ [a]) d where
  mem_iff := by
    intro handle
    rw [hsame, h.mem_iff, live_concat, hsubscribes, hends]
    simp only [Bool.false_eq_true, false_and, false_or, and_true]
  next := by
    rw [hnext, h.next, List.countP_append, List.countP_singleton, hsubscribes]
    rfl

/-- **Performing an action** adds it to the list. -/
theorem Enrolled.perform {extract : Document → Snapshot} {actions : List CacheAction} {s : Session}
    (h : s.cache.Enrolled actions) (a : CacheAction) :
    (s.perform extract none a).cache.Enrolled (actions ++ [a]) := by
  cases a with
  | subscribe reactions =>
    refine ⟨fun handle => ?_, ?_⟩
    · show handle ∈ s.cache.subscribers ++ [s.cache.next] ↔ _
      rw [List.mem_append, List.mem_singleton, h.mem_iff, live_concat, h.next, or_comm]
      exact or_congr ⟨fun heq => ⟨rfl, heq.symm⟩, fun heq => heq.2.symm⟩ (and_iff_left rfl).symm
    · show s.cache.next + 1 = _
      rw [h.next, List.countP_append]
      rfl
  | unsubscribe ended =>
    refine ⟨fun handle => ?_, ?_⟩
    · show handle ∈ s.cache.subscribers.filter (· != ended) ↔ _
      have hother : (handle != ended) = true ↔ (ended == handle) = false := by
        rw [bne_iff_ne, beq_eq_false_iff_ne, ne_comm]
      rw [List.mem_filter, h.mem_iff, live_concat, hother]
      exact ⟨Or.inr, fun hlive => hlive.resolve_left fun hnew => nomatch hnew.1⟩
    · show s.cache.next = _
      rw [h.next, List.countP_append]
      rfl
  | update _ _ | snapshot _ | unload _ | clear => exact h.concat rfl (fun _ => rfl) rfl rfl

end Cache

namespace CacheCall

open CacheAction

/-- **Calls one after another**, each of which finds the subscriptions that the actions before it
leave live. -/
def Chained : List CacheAction → List CacheCall → Prop
  | _, [] => True
  | earlier, c :: cs => c.cache.Enrolled earlier ∧ Chained (earlier ++ [c.action]) cs

theorem chained_append {earlier : List CacheAction} {cs ds : List CacheCall} :
    Chained earlier (cs ++ ds)
      ↔ Chained earlier cs ∧ Chained (earlier ++ cs.map CacheCall.action) ds := by
  induction cs generalizing earlier with
  | nil => simp only [List.nil_append, List.map_nil, List.append_nil, Chained, true_and]
  | cons c cs ih =>
    rw [List.cons_append, Chained, ih, Chained, and_assoc, List.append_assoc, List.map_cons,
      List.singleton_append]

/-- An attempt to end a subscription succeeds if the subscription is live. -/
theorem result_unsubscribe_iff {extract : Document → Snapshot} {c : CacheCall} {handle : Nat}
    (h : c.action = .unsubscribe handle) :
    c.result extract = .flag true ↔ handle ∈ c.cache.subscribers := by
  rw [result, h]
  show CacheResult.flag (c.cache.subscribers.contains handle) = .flag true ↔ _
  rw [CacheResult.flag.injEq, List.contains_iff_mem]

/-- **A subscription is ended once**: after that no attempt to end it succeeds. -/
theorem Chained.result_ne_true {extract : Document → Snapshot} {earlier : List CacheAction}
    {c : CacheCall} {back : List CacheCall} (h : Chained earlier (c :: back)) {handle : Nat}
    (hc : c.action = .unsubscribe handle) (htrue : c.result extract = .flag true) :
    ∀ d ∈ back, d.action = .unsubscribe handle → d.result extract ≠ .flag true := by
  intro d hd hunsubscribe
  have hlive := (h.1.mem_iff handle).mp ((result_unsubscribe_iff hc).mp htrue)
  have hgone : ¬ Live handle (earlier ++ [c.action]) := by
    rw [hc, live_concat]
    rintro (⟨hnew, -⟩ | ⟨-, hkept⟩)
    · cases hnew
    · exact absurd (beq_self_eq_true handle) (Bool.eq_false_iff.mp hkept)
  have hlt : handle < (earlier ++ [c.action]).countP subscribes := by
    rw [List.countP_append]
    exact Nat.lt_add_right _ hlive.lt_countP
  obtain ⟨front, rest, rfl⟩ := List.append_of_mem hd
  have henrolled := (chained_append.mp h.2).2.1
  rw [ne_eq, result_unsubscribe_iff hunsubscribe, henrolled.mem_iff]
  exact not_live_append hgone hlt _

end CacheCall

/-! ## The calls of a run -/

namespace Session

open CacheAction CallTree

variable {extract : Document → Snapshot}

/-- The calls of a run of actions from outside, in the order in which they are made. -/
def callsMade (extract : Document → Snapshot) (actions : List CacheAction) (s : Session) :
    List CacheCall :=
  (chronicle extract actions s).filterMap performing?

/-- **A step adds the action that it performs.** -/
theorem enrolled_step {s : Session} {earlier : List CacheAction} (h : s.cache.Enrolled earlier) :
    (s.step extract).cache.Enrolled (earlier ++ s.performing?.toList.map CacheCall.action) := by
  have hnext : s.performing?.toList.map CacheCall.action = s.nextAction?.toList := by
    rw [performing?, nextAction?]
    rcases s.agenda with _ | ⟨_ | _ | _, _⟩ <;> rfl
  rw [hnext, cache_step]
  cases s.nextAction? with
  | none => rwa [Option.toList_none, List.append_nil]
  | some a => exact h.perform a

/-- **The calls of a run come one after another**, and its end finds what they leave live. -/
theorem chained_moments {s : Session} {earlier : List CacheAction} (h : s.cache.Enrolled earlier) :
    let calls := (s.moments extract).filterMap performing?
    CacheCall.Chained earlier calls
      ∧ (s.run extract).cache.Enrolled (earlier ++ calls.map CacheCall.action) := by
  induction s using runInduction extract generalizing earlier with
  | done s hnil =>
    rw [moments_of_agenda_nil hnil, run_of_agenda_nil hnil]
    exact ⟨trivial, (List.append_nil earlier).symm ▸ h⟩
  | step s hne ih =>
    obtain ⟨hchained, hend⟩ := ih (enrolled_step h)
    rw [moments_of_agenda_cons hne, run_of_agenda_cons hne, List.filterMap_cons]
    cases hperforming : s.performing? with
    | none =>
      rw [hperforming, Option.toList_none, List.map_nil, List.append_nil] at hchained hend
      exact ⟨hchained, hend⟩
    | some c =>
      rw [hperforming, Option.toList_some, List.map_singleton] at hchained hend
      refine ⟨⟨?_, hchained⟩, ?_⟩
      · have hcache : c.cache = s.cache := by
          unfold performing? at hperforming
          split at hperforming <;> cases hperforming
          rfl
        exact hcache ▸ h
      · rwa [List.append_assoc, List.singleton_append] at hend

/-- So do those of a run of actions from outside. -/
theorem chained_callsMade {actions : List CacheAction} {s : Session} {earlier : List CacheAction}
    (h : s.cache.Enrolled earlier) :
    CacheCall.Chained earlier (callsMade extract actions s) := by
  induction actions generalizing s earlier with
  | nil => exact trivial
  | cons a actions ih =>
    obtain ⟨hchained, hend⟩ := @chained_moments extract
      { s with agenda := [.perform none a], events := [] } earlier h
    rw [callsMade, chronicle, List.filterMap_append, CacheCall.chained_append]
    exact ⟨hchained, ih hend⟩

/-- **Who is told of which update, and who can unsubscribe.** Take any run of actions from outside
on a new cache, whatever the subscribers do in turn. Subscriptions are always listed in the order of
their numbers, all smaller than the next one. The run is a tree of calls, which gives its events and
its calls: directly inside an update that brings a change are tellings of this change, one for each
subscription that is in the cache which the update finds, in their order, and directly inside any
other call there are none. The subscriptions that a call finds are those that the actions before it,
also those of subscribers that are being told, have made and not ended since. A new subscription
gets the number of those made before it; an attempt to end a subscription succeeds if it is the
first one since the subscription was made, and no later attempt does. -/
theorem deliveries_exact (extract : Document → Snapshot) (actions : List CacheAction) :
    (∀ t ∈ chronicle extract actions {}, t.cache.InOrder)
      ∧ (acts extract actions {}).cache.InOrder
      ∧ (∃ trees : List CallTree,
          List.Forall₂ (fun a t => Grows (.perform none a) t) actions trees
            ∧ eventsOf trees = history extract actions {}
            ∧ callsOf trees = callsMade extract actions {}
            ∧ ∀ t ∈ partsOf trees, t.Proper extract)
      ∧ ∀ (front back : List CacheCall) (c : CacheCall),
          callsMade extract actions {} = front ++ c :: back →
          let earlier : List CacheAction := front.map CacheCall.action
          (∀ handle : Nat, handle ∈ c.cache.subscribers ↔ Live handle earlier)
            ∧ (∀ reactions : List (List CacheAction), c.action = .subscribe reactions →
                c.result extract = .handle (earlier.countP subscribes))
            ∧ ∀ handle : Nat, c.action = .unsubscribe handle →
                (c.result extract = .flag true ↔ Live handle earlier)
                  ∧ (c.result extract = .flag true → ∀ d ∈ back,
                      d.action = .unsubscribe handle → d.result extract ≠ .flag true) := by
  refine ⟨?_, acts_cache Cache.kept_inOrder actions Cache.inOrder_empty,
    exists_callTrees extract actions {}, ?_⟩
  · exact forall_mem_chronicle (P := fun t => t.cache.InOrder) (fun _ _ h => h)
      (fun _ h => step_cache Cache.kept_inOrder h) Cache.inOrder_empty
  · intro front back c hcalls earlier
    have hchained : CacheCall.Chained [] (front ++ c :: back) :=
      hcalls ▸ chained_callsMade Cache.enrolled_nil
    have hrest := (CacheCall.chained_append.mp hchained).2
    rw [List.nil_append] at hrest
    refine ⟨hrest.1.mem_iff, ?_, ?_⟩
    · intro reactions hsubscribe
      rw [CacheCall.result, hsubscribe, ← hrest.1.next]
    · intro handle hunsubscribe
      exact ⟨(CacheCall.result_unsubscribe_iff hunsubscribe).trans (hrest.1.mem_iff handle),
        hrest.result_ne_true hunsubscribe⟩

/-- Two subscribers, of whom the first one replaces the second one when it is told of a change, and
updates another document. At last it is tried to end the second subscription again. -/
def replacement : List CacheAction :=
  [.subscribe [[.subscribe [], .unsubscribe 1, .update 2 (referring "B")]], .subscribe [],
    .update 1 (referring "A"), .unsubscribe 1]

/-- A change that adds an assembly. -/
def adding (id : Nat) (assembly : String) : Change := ⟨id, ⟨⟨[assembly]⟩, ⟨[]⟩, ⟨[]⟩⟩⟩

/-- The call of the first subscriber that ends the second subscription. -/
def replacing : CacheCall :=
  ⟨some 0, ⟨[(1, ⟨⟨["A"]⟩, ⟨[]⟩⟩)], [0, 1, 2], 3⟩, .unsubscribe 1⟩

/-- The calls before it. -/
def beforeReplacing : List CacheCall := (callsMade plainSnapshot replacement {}).take 4

/-- The calls after it. -/
def afterReplacing : List CacheCall := (callsMade plainSnapshot replacement {}).drop 5

set_option maxRecDepth 20000 in
/-- The second subscriber is told of the change although it has been replaced, and the third one is
not; of the change of the other document the third one is told. The second subscription is ended
once. -/
theorem deliveries_exact_replacement :
    (history plainSnapshot replacement {}).filterMap CacheEvent.told?
        = [(0, adding 1 "A"), (0, adding 2 "B"), (2, adding 2 "B"), (1, adding 1 "A")]
      ∧ callsMade plainSnapshot replacement {} = beforeReplacing ++ replacing :: afterReplacing
      ∧ replacing.result plainSnapshot = .flag true
      ∧ Live 1 (beforeReplacing.map CacheCall.action)
      ∧ ∀ d ∈ afterReplacing,
          d.action = .unsubscribe 1 → d.result plainSnapshot ≠ .flag true := by
  have hsplit : callsMade plainSnapshot replacement {}
      = beforeReplacing ++ replacing :: afterReplacing := by
    cbv
  obtain ⟨-, -, -, hcalls⟩ := deliveries_exact plainSnapshot replacement
  obtain ⟨-, -, hunsubscribe⟩ := hcalls beforeReplacing afterReplacing replacing hsplit
  obtain ⟨hlive, hlater⟩ := hunsubscribe 1 rfl
  exact ⟨by cbv, hsplit, rfl, hlive.mp rfl, hlater rfl⟩

end Session

end TextTemplate
