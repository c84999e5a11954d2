import Jukebox.Proofs.Effect
import Jukebox.Session

/-!
# Executing commands, step by step

Executing a command follows aliases, looks an operation up, and then holds the command back, runs
it, or runs it and flushes.  The lemmas here say once what each of these functions can do, so that
what is proved about them later is a case analysis and not another reading of their definitions.

* `Performed` and `Invoked` list the ways in which `Session.perform` and `Session.invoke` can go.
* `flush_of_connected` and `flush_of_disconnected` are the two ends of a flush.
* `Stable` says that a property of sessions is kept by the changes that executing is made of:
  running one operation, setting the queue, and reporting an error.  `Stable.execute` and
  `Stable.runStartup` are what follows from that.
-/

set_option autoImplicit false

namespace Jukebox
namespace Session

variable {σ : Type}

/-! ## One operation -/

/-- What an operation works on. -/
def scope (s : Session σ) : Scope σ := ⟨s.console, s.interpreter.aliases⟩

/-- The session in which an operation has left a scope. -/
def withScope (scope : Scope σ) (s : Session σ) : Session σ :=
  { s with
    interpreter := { s.interpreter with aliases := scope.aliases }
    console := scope.console }

/-- The session with a command at the end of its history. -/
def remember (c : Command) (s : Session σ) : Session σ := { s with history := s.history ++ [c] }

variable [Client σ]

/-- Over the standard catalogue, running an operation takes one of the courses of `Effect`. -/
theorem exists_effect {s : Session σ} (hs : s.interpreter.catalogue = .standard σ)
    {op : Operation σ} {c : Command} (found : s.interpreter.catalogue.get? c.name = some op) :
    ∃ result scope, Effect s.scope op.kind (result, scope) ∧
      s.runOperation op c = (result, (s.withScope scope).remember c) := by
  rw [hs] at found
  exact ⟨_, _, effect_standard found s.interpreter.catalogue.help c.args s.scope, rfl⟩

/-- How performing a command can go. -/
inductive Performed (s : Session σ) (c : Command) : Except CommandError Unit × Session σ → Prop
  | unknown (found : s.interpreter.catalogue.get? c.name = none) :
      Performed s c (.error (.unknownCommand c.name), s)
  | unavailable {op : Operation σ} (found : s.interpreter.catalogue.get? c.name = some op)
      (player : op.kind = .player) (off : s.isConnected = false) :
      Performed s c (.error .connectionUnavailable, s)
  | ran {op : Operation σ} (found : s.interpreter.catalogue.get? c.name = some op)
      (ready : op.kind = .player → s.isConnected = true) : Performed s c (s.runOperation op c)

theorem performed (c : Command) (s : Session σ) : Performed s c (s.perform c) := by
  rw [perform]
  split
  · exact .unknown ‹_›
  · rename_i op found
    split
    · rename_i h
      exact .unavailable found h.1 h.2
    · rename_i h
      refine .ran found fun hk ↦ ?_
      simpa [hk] using h

/-- An operation can reach nothing of the interpreter but the aliases. -/
theorem interpreter_perform (c : Command) (s : Session σ) :
    (s.perform c).2.interpreter =
      { s.interpreter with aliases := (s.perform c).2.interpreter.aliases } := by
  have hp := performed c s
  generalize s.perform c = r at hp ⊢
  cases hp <;> rfl

theorem interpreter_performAll (queue : List QueuedCommand) (s : Session σ) :
    (performAll queue s).2.interpreter =
      { s.interpreter with aliases := (performAll queue s).2.interpreter.aliases } := by
  induction queue generalizing s with
  | nil => rfl
  | cons q queue ih =>
    have hq := ih (s.perform q.command).2
    rw [interpreter_perform] at hq
    exact hq

/-- A command that has what it needs runs its operation. -/
theorem perform_of_ready {s : Session σ} {c : Command} {op : Operation σ}
    (found : s.interpreter.catalogue.get? c.name = some op)
    (ready : op.kind = .player → s.isConnected = true) : s.perform c = s.runOperation op c := by
  rw [perform, found]
  refine if_neg fun ⟨player, off⟩ ↦ ?_
  rw [ready player] at off
  cases off

/-! ## Flushing -/

/-- The outcome of the connects of a flush. -/
def flushConnects (s : Session σ) : List CommandError × Session σ :=
  if s.console.settings.skipconfigconnects then ([], s.withoutQueue)
  else performAll (s.interpreter.queue.filter (·.kind = .connecting)) s.withoutQueue

/-- The commands that a flush comes to after its connects. -/
def others (s : Session σ) : List QueuedCommand :=
  s.interpreter.queue.filter fun q ↦ !decide (q.kind = .connecting)

/-- The session with other commands in its queue. -/
def withQueue (queue : List QueuedCommand) (s : Session σ) : Session σ :=
  { s with interpreter := { s.interpreter with queue } }

theorem flush_eq (s : Session σ) :
    s.flush =
      if s.flushConnects.2.isConnected then
        (s.flushConnects.1 ++ (performAll s.others s.flushConnects.2).1,
          (performAll s.others s.flushConnects.2).2)
      else (s.flushConnects.1, s.flushConnects.2.withQueue s.others) := by
  rw [flush, List.partition_eq_filter_filter]
  rfl

/-- After the connecting commands of a flush, the queue is empty and nothing is held back. -/
theorem interpreter_flushConnects (s : Session σ) :
    s.flushConnects.2.interpreter =
      { s.withoutQueue.interpreter with aliases := s.flushConnects.2.interpreter.aliases } := by
  rw [flushConnects]
  split
  · rfl
  · exact interpreter_performAll _ _

theorem flush_of_connected {s : Session σ} (h : s.flushConnects.2.isConnected = true) :
    s.flush.2 = (performAll s.others s.flushConnects.2).2 := by
  rw [flush_eq, if_pos h]

theorem flush_of_disconnected {s : Session σ} (h : s.flushConnects.2.isConnected = false) :
    s.flush.2 = s.flushConnects.2.withQueue s.others := by
  rw [flush_eq, h]
  rfl

/-! ## Invoking -/

/-- Whether a command of some kind is held back. -/
def Holds (s : Session σ) (kind : OperationKind) : Prop :=
  s.interpreter.queueing = true ∧ kind ≠ .standalone

/-- How invoking a command can go. -/
inductive Invoked (s : Session σ) (c : Command) : Except CommandError Unit × Session σ → Prop
  | unknown (found : s.interpreter.catalogue.get? c.name = none) :
      Invoked s c (.error (.unknownCommand c.name), s)
  | held {op : Operation σ} (found : s.interpreter.catalogue.get? c.name = some op)
      (holds : s.Holds op.kind) : Invoked s c (.ok (), s.hold c op.kind)
  | failed {op : Operation σ} {e : CommandError} {s' : Session σ}
      (found : s.interpreter.catalogue.get? c.name = some op) (free : ¬ s.Holds op.kind)
      (run : s.perform c = (.error e, s')) : Invoked s c (.error e, s')
  | done {op : Operation σ} {s' : Session σ}
      (found : s.interpreter.catalogue.get? c.name = some op) (free : ¬ s.Holds op.kind)
      (run : s.perform c = (.ok (), s'))
      (still : ¬ (op.kind = .connecting ∧ s'.interpreter.queue ≠ [])) : Invoked s c (.ok (), s')
  | flushed {op : Operation σ} {s' : Session σ}
      (found : s.interpreter.catalogue.get? c.name = some op) (free : ¬ s.Holds op.kind)
      (run : s.perform c = (.ok (), s')) (kind : op.kind = .connecting)
      (waiting : s'.interpreter.queue ≠ []) :
      Invoked s c (.ok (), s'.flush.2.mapConsole (.reportErrors s'.flush.1))

theorem invoked (c : Command) (s : Session σ) : Invoked s c (s.invoke c) := by
  rw [invoke]
  split
  · exact .unknown ‹_›
  · rename_i op found
    split
    · exact .held found ‹_›
    · rename_i free
      split
      · exact .failed found free ‹_›
      · rename_i run
        split
        · rename_i h
          exact .flushed found free run h.1 h.2
        · exact .done found free run ‹_›

/-- A command that neither is held back nor connects is performed, and that is all. -/
theorem invoke_of_free {s : Session σ} {c : Command} {op : Operation σ}
    (found : s.interpreter.catalogue.get? c.name = some op) (free : ¬ s.Holds op.kind)
    (alone : op.kind ≠ .connecting) : s.invoke c = s.perform c := by
  have hv := invoked c s
  generalize s.invoke c = r at hv ⊢
  cases hv with
  | unknown found' => rw [perform, found']
  | held found' holds =>
    cases found.symm.trans found'
    exact absurd holds free
  | failed _ _ run => exact run.symm
  | done _ _ run => exact run.symm
  | flushed found' _ _ kind =>
    cases found.symm.trans found'
    exact absurd kind alone

/-- How executing a command can go. -/
inductive Executed (s : Session σ) (c : Command) : Except CommandError Unit × Session σ → Prop
  | lost {e : CommandError} (resolve : s.interpreter.aliases.resolve c = .error e) :
      Executed s c (.error e, s)
  | empty {d : Command} (resolve : s.interpreter.aliases.resolve c = .ok d)
      (name : d.name.isEmpty = true) : Executed s c (.ok (), s)
  | found {d : Command} (resolve : s.interpreter.aliases.resolve c = .ok d)
      (name : d.name.isEmpty = false) : Executed s c (s.invoke d)

theorem executed (c : Command) (s : Session σ) : Executed s c (s.execute c) := by
  rw [execute]
  split
  · exact .lost ‹_›
  · split
    · exact .empty ‹_› ‹_›
    · rename_i name
      exact .found ‹_› (Bool.not_eq_true _ ▸ name)

/-- Executing what stands for a command invokes the command. -/
theorem execute_of_resolve {s : Session σ} {c d : Command}
    (resolve : s.interpreter.aliases.resolve c = .ok d) (named : d.name ≠ "") :
    s.execute c = s.invoke d := by
  have some_name : d.name.isEmpty = false := by simpa using named
  rw [execute, resolve]
  dsimp only
  rw [some_name, if_neg (by decide)]

/-! ## What executing keeps -/

omit [Client σ] in
theorem mapConsole_reportErrors_cons (e : CommandError) (errors : List CommandError)
    (s : Session σ) :
    s.mapConsole (.reportErrors (e :: errors)) =
      (s.mapConsole (.reportError e)).mapConsole (.reportErrors errors) := by
  simp only [mapConsole, Console.reportErrors, List.foldl_cons]

/-- A property of sessions that none of the changes breaks of which executing is made up. -/
structure Stable (I : Session σ → Prop) : Prop where
  /-- One operation is run. -/
  operation {s : Session σ} {op : Operation σ} {c : Command}
    (found : s.interpreter.catalogue.get? c.name = some op) (h : I s) : I (s.runOperation op c).2
  /-- The queue and the holding back change. -/
  queue {s : Session σ} (queueing : Bool) (queue : List QueuedCommand) (h : I s) :
    I { s with interpreter := { s.interpreter with queueing, queue } }
  /-- An error is shown. -/
  report {s : Session σ} (e : CommandError) (h : I s) : I (s.mapConsole (.reportError e))

namespace Stable

variable {I : Session σ → Prop} {s : Session σ}

theorem perform (hI : Stable I) (h : I s) (c : Command) : I (s.perform c).2 := by
  have hp := performed c s
  generalize s.perform c = r at hp ⊢
  cases hp with
  | unknown => exact h
  | unavailable => exact h
  | ran found => exact hI.operation found h

theorem performAll (hI : Stable I) :
    ∀ (queue : List QueuedCommand) {s : Session σ}, I s → I (performAll queue s).2
  | [], _, h => h
  | q :: queue, _, h => hI.performAll queue (hI.perform h q.command)

theorem flushConnects (hI : Stable I) (h : I s) : I s.flushConnects.2 := by
  rw [Session.flushConnects]
  split
  · exact hI.queue false [] h
  · exact hI.performAll _ (hI.queue false [] h)

theorem flush (hI : Stable I) (h : I s) : I s.flush.2 := by
  rw [flush_eq]
  split
  · exact hI.performAll _ (hI.flushConnects h)
  · exact hI.queue _ _ (hI.flushConnects h)

omit [Client σ] in
theorem reportErrors (hI : Stable I) (errors : List CommandError) (h : I s) :
    I (s.mapConsole (.reportErrors errors)) := by
  induction errors generalizing s with
  | nil => exact h
  | cons e errors ih =>
    rw [mapConsole_reportErrors_cons]
    exact ih (hI.report e h)

theorem invoke (hI : Stable I) (h : I s) (c : Command) : I (s.invoke c).2 := by
  have hv := invoked c s
  generalize s.invoke c = r at hv ⊢
  cases hv with
  | unknown => exact h
  | held => exact hI.queue _ _ h
  | failed _ _ run =>
    have hr := hI.perform h c
    rwa [run] at hr
  | done _ _ run =>
    have hr := hI.perform h c
    rwa [run] at hr
  | flushed _ _ run =>
    have hr := hI.perform h c
    rw [run] at hr
    exact hI.reportErrors _ (hI.flush hr)

theorem execute (hI : Stable I) (h : I s) (c : Command) : I (s.execute c).2 := by
  have hx := executed c s
  generalize s.execute c = r at hx ⊢
  cases hx with
  | lost => exact h
  | empty => exact h
  | found => exact hI.invoke h _

theorem executeLines (hI : Stable I) :
    ∀ (lines : List String) {s : Session σ}, I s → I (executeLines lines s).2
  | [], _, h => h
  | line :: lines, _, h => hI.executeLines lines (hI.execute h (.ofLine line))

theorem runStartup (hI : Stable I) (lines : List String) (h : I s) : I (s.runStartup lines).2 :=
  hI.flush (hI.executeLines lines (hI.queue true _ h))

end Stable

omit [Client σ] in
/-- Whatever operations there are, executing a command changes neither the catalogue nor
completion. -/
theorem stable_catalogue_completion (s₀ : Session σ) :
    Stable fun s ↦ s.interpreter.catalogue = s₀.interpreter.catalogue ∧
      s.interpreter.completion = s₀.interpreter.completion where
  operation _ h := h
  queue _ _ h := h
  report _ h := h

/-- Nor does reporting what has come of it. -/
theorem catalogue_completion_report_execute (s : Session σ) (c : Command) :
    (report (s.execute c)).2.interpreter.catalogue = s.interpreter.catalogue ∧
      (report (s.execute c)).2.interpreter.completion = s.interpreter.completion := by
  have h := (stable_catalogue_completion s).execute ⟨rfl, rfl⟩ c
  generalize s.execute c = outcome at h ⊢
  obtain ⟨_ | e, s'⟩ := outcome
  · exact h
  · exact h

/-! ## The frame of executing

Over the standard catalogue, executing a command leaves alone what belongs to the modes, and the
catalogue itself. -/

/-- Two sessions with the same catalogue and completion, and the same frame of the console. -/
structure SameFrame (s s' : Session σ) : Prop where
  catalogue : s'.interpreter.catalogue = s.interpreter.catalogue
  completion : s'.interpreter.completion = s.interpreter.completion
  console : s.console.SameFrame s'.console

omit [Client σ] in
theorem SameFrame.trans {s₁ s₂ s₃ : Session σ} (h : s₁.SameFrame s₂) (h' : s₂.SameFrame s₃) :
    s₁.SameFrame s₃ :=
  ⟨h'.catalogue.trans h.catalogue, h'.completion.trans h.completion, h.console.trans h'.console⟩

omit [Client σ] in
theorem SameFrame.refl (s : Session σ) : s.SameFrame s := ⟨rfl, rfl, .refl _⟩

omit [Client σ] in
theorem sameFrame_report {s : Session σ} {outcome : Except CommandError Unit × Session σ}
    (h : s.SameFrame outcome.2) : s.SameFrame (report outcome).2 := by
  obtain ⟨_ | e, s'⟩ := outcome
  · exact h.trans ⟨rfl, rfl, Console.sameFrame_reportError _ _⟩
  · exact h

/-- No operation of the standard catalogue touches the frame of the console. -/
theorem sameFrame_effect {scope : Scope σ} {kind : OperationKind}
    {r : Except CommandError Unit × Scope σ} (h : Effect scope kind r) :
    scope.console.SameFrame r.2.console := by
  cases h with
  | refused => exact .refl _
  | unasked frame => exact frame
  | answered _ frame => exact frame
  | unanswered => exact Console.sameFrame_client _ _
  | connected _ frame => exact frame
  | unconnected => exact Console.sameFrame_client _ _

theorem stable_sameFrame (s₀ : Session σ) (h₀ : s₀.interpreter.catalogue = .standard σ) :
    Stable s₀.SameFrame where
  operation found h := by
    obtain ⟨result, scope, heffect, hrun⟩ := exists_effect (h.catalogue.trans h₀) found
    rw [hrun]
    exact h.trans ⟨rfl, rfl, sameFrame_effect heffect⟩
  queue _ _ h := h.trans ⟨rfl, rfl, .refl _⟩
  report e h := h.trans ⟨rfl, rfl, Console.sameFrame_reportError e _⟩

/-- **Executing a command leaves alone what belongs to the modes.** -/
theorem sameFrame_execute {s : Session σ} (h : s.interpreter.catalogue = .standard σ)
    (c : Command) : s.SameFrame (s.execute c).2 :=
  (stable_sameFrame s h).execute (.refl s) c

/-- Nor does reporting what has come of it touch that. -/
theorem sameFrame_report_execute {s : Session σ} (h : s.interpreter.catalogue = .standard σ)
    (c : Command) : s.SameFrame (report (s.execute c)).2 :=
  sameFrame_report (sameFrame_execute h c)

end Session
end Jukebox
