import TextTemplate.Command.Basic

/-!
# What an action does to a world

A command is a sequence of requests, and `Interaction.run` answers them from a `World`. Here it is
said once for each kind of request what it comes to, and how the parts of a command are put
together: `Action.outcome_bind_of_ok` goes on in the world that the first part has left, and
`Action.outcome_bind_of_error` ends there. A command is then followed through from its first line to
its last by naming the world after each.
-/

namespace TextTemplate

namespace Interaction

/-- **One sequence of requests after another**: the second one starts in the world that the first one
has left. -/
theorem run_bind {α β : Type} (x : Interaction α) (f : α → Interaction β) (w : World) :
    (x.bind f).run w = (f (x.run w).1).run (x.run w).2 := by
  induction x generalizing w with
  | done a => rfl
  | lookUp name next ih => exact ih _ w
  | readFile path next ih => exact ih _ w
  | writeFile path content next ih =>
    rw [bind, run, run]
    cases w.files.write path content with
    | ok files => exact ih _ _
    | error fault => exact ih _ _
  | print text next ih => exact ih _
  | tell line next ih => exact ih _

/-- Lines are added to the messages in order. -/
theorem run_tellAll (lines : List String) (w : World) :
    (tellAll lines).run w = ((), { w with messages := w.messages ++ lines }) := by
  induction lines generalizing w with
  | nil =>
    rw [List.append_nil]
    rfl
  | cons line lines ih =>
    refine (ih _).trans ?_
    rw [List.append_assoc]
    rfl

/-- **Asking for environment variables** leaves the world as it is. -/
theorem run_environment (names : List String) (w : World) :
    (environment names).run w
      = (names.filterMap fun name =>
          (Variable.inEnvironment w.environment name).map fun value => (name, value), w) := by
  induction names with
  | nil => rfl
  | cons name names ih =>
    show ((environment names).bind _).run w = _
    rw [run_bind, ih, List.filterMap_cons]
    cases Variable.inEnvironment w.environment name <;> rfl

end Interaction

namespace Command.Action

variable {α β : Type}

/-- **What an action comes to in a world**: its result or why it failed, and the world after it. -/
def outcome (x : Action α) (w : World) : Except Failure α × World := Interaction.run w x.run

theorem outcome_pure (a : α) (w : World) : outcome (pure a : Action α) w = (.ok a, w) := rfl

/-- **After a part that succeeds** an action goes on in the world that it has left. -/
theorem outcome_bind_of_ok {x : Action α} {f : α → Action β} {w w' : World} {a : α}
    (h : outcome x w = (.ok a, w')) : outcome (x >>= f) w = outcome (f a) w' := by
  show (Interaction.bind x.run fun r => ExceptT.bindCont f r).run w = _
  rw [Interaction.run_bind]
  show Interaction.run (outcome x w).2 (ExceptT.bindCont f (outcome x w).1) = _
  rw [h]
  rfl

/-- **A part that fails** is the end of an action. -/
theorem outcome_bind_of_error {x : Action α} {f : α → Action β} {w w' : World} {why : Failure}
    (h : outcome x w = (.error why, w')) : outcome (x >>= f) w = (.error why, w') := by
  show (Interaction.bind x.run fun r => ExceptT.bindCont f r).run w = _
  rw [Interaction.run_bind]
  show Interaction.run (outcome x w).2 (ExceptT.bindCont f (outcome x w).1) = _
  rw [h]
  rfl

/-- **If an action succeeds, so does its first part**, and the rest goes on from there. -/
theorem exists_of_outcome_bind_eq_ok {x : Action α} {f : α → Action β} {w last : World} {b : β}
    (h : outcome (x >>= f) w = (.ok b, last)) :
    ∃ a w', outcome x w = (.ok a, w') ∧ outcome (f a) w' = (.ok b, last) := by
  rcases hfirst : outcome x w with ⟨why | a, w'⟩
  · rw [outcome_bind_of_error hfirst] at h
    cases h
  · rw [outcome_bind_of_ok hfirst] at h
    exact ⟨a, w', rfl, h⟩

/-- Requests that cannot fail are made as they are. -/
theorem outcome_lift (x : Interaction α) (w : World) :
    outcome (liftM x) w = (.ok (x.run w).1, (x.run w).2) := by
  show (x.bind fun a => .done (Except.ok a)).run w = _
  rw [Interaction.run_bind]
  rfl

theorem outcome_tell (lines : List String) (w : World) :
    outcome (tell lines) w = (.ok (), { w with messages := w.messages ++ lines }) := by
  refine (outcome_lift (Interaction.tellAll lines) w).trans ?_
  rw [Interaction.run_tellAll]

theorem outcome_print (text : String) (w : World) :
    outcome (print text) w = (.ok (), { w with output := w.output ++ text }) := rfl

/-- A file is read, or it is not and nothing has happened. -/
theorem outcome_readFile (path : String) (w : World) :
    outcome (readFile path) w = ((w.files.read path).mapError (.cannotRead path), w) := by
  show outcome (ofExcept (.cannotRead path) (w.files.read path)) w = _
  cases w.files.read path <;> rfl

/-- A file is written, or it is not and nothing has happened. -/
theorem outcome_writeFile_of_ok {path content : String} {w : World} {files : FileTree}
    (h : w.files.write path content = .ok files) :
    outcome (writeFile path content) w = (.ok (), { w with files }) := by
  show (Interaction.writeFile path content _).run w = _
  rw [Interaction.run, h]
  rfl

theorem outcome_writeFile_of_error {path content : String} {w : World} {fault : FileFault}
    (h : w.files.write path content = .error fault) :
    outcome (writeFile path content) w = (.error (.cannotWrite path fault), w) := by
  show (Interaction.writeFile path content _).run w = _
  rw [Interaction.run, h]
  rfl

/-- If a file was written, its content has been put into the files. -/
theorem write_of_outcome_writeFile_eq_ok {path content : String} {w w' : World} {u : Unit}
    (h : outcome (writeFile path content) w = (.ok u, w')) :
    w.files.write path content = .ok w'.files := by
  cases hwrite : w.files.write path content with
  | error fault =>
    rw [outcome_writeFile_of_error hwrite] at h
    cases h
  | ok files =>
    rw [outcome_writeFile_of_ok hwrite] at h
    cases h
    rfl

/-- An entry of the log is a line of the messages, if the filter shows it. -/
theorem outcome_log (filter : Log.Filter) (entry : Log.Entry) (w : World) :
    outcome (log filter entry) w
      = (.ok (), { w with
          messages := w.messages ++ ([entry].filter filter.shows).map Log.Entry.line }) := by
  unfold log
  cases hshows : filter.shows entry with
  | true =>
    rw [List.filter_cons_of_pos hshows]
    exact outcome_tell [entry.line] w
  | false =>
    rw [List.filter_cons_of_neg (by rw [hshows]; exact Bool.false_ne_true)]
    show _ = (Except.ok (), { w with messages := w.messages ++ [] })
    rw [List.append_nil]
    rfl

/-- Entries of the log are added in order. -/
theorem outcome_forM_log (filter : Log.Filter) (entry : α → Log.Entry) (as : List α) (w : World) :
    outcome (as.forM fun a => log filter (entry a)) w
      = (.ok (), { w with
          messages := w.messages ++ ((as.map entry).filter filter.shows).map Log.Entry.line }) := by
  induction as generalizing w with
  | nil =>
    show (Except.ok (), w) = (Except.ok (), { w with messages := w.messages ++ [] })
    rw [List.append_nil]
  | cons a as ih =>
    show outcome (log filter (entry a) >>= fun _ => as.forM fun a => log filter (entry a)) w = _
    have hsplit : ((a :: as).map entry).filter filter.shows
        = [entry a].filter filter.shows ++ (as.map entry).filter filter.shows :=
      List.filter_append [entry a] (as.map entry)
    rw [outcome_bind_of_ok (outcome_log filter (entry a) w), ih, hsplit, List.map_append,
      ← List.append_assoc]

end Command.Action

end TextTemplate
