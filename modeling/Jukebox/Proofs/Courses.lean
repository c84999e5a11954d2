import Jukebox.Client.Canned
import Jukebox.Proofs.Execution

/-!
# The courses of a command

A command that has been resolved takes exactly one of five courses: it is nothing, it is unknown, it
is held back, there is no connection for it, or its operation is run.  Which one it is depends on the
operations that have been registered, on the holding back and on the connection, and on nothing else.
This holds for all operations, whatever they do, and for all queues.

* `Session.Course` are the courses; `Session.Dispatched` says when a command takes one, and what
  comes of it, and `Session.Ran` what comes of running an operation.
* `Session.history_flush`: a flush runs nothing but what was held back, each at most once, in turn.
* `Session.dispatch_is_exact` is the outcome.
-/

set_option autoImplicit false

namespace Jukebox

variable {σ : Type}

namespace Session

variable [Client σ]

/-! ## What a flush runs -/

/-- What is held back, in the order in which a flush comes to it. -/
def turns (s : Session σ) : List Command :=
  (s.interpreter.queue.filter (·.kind = .connecting) ++ s.others).map (·.command)

/-- Performing a command runs its operation or none. -/
theorem history_perform (c : Command) (s : Session σ) :
    ∃ ran, (s.perform c).2.history = s.history ++ ran ∧ ran.Sublist [c] := by
  have hp := performed c s
  generalize s.perform c = r at hp ⊢
  cases hp with
  | unknown => exact ⟨[], by simp⟩
  | unavailable => exact ⟨[], by simp⟩
  | ran => exact ⟨[c], rfl, .refl _⟩

theorem history_performAll (queue : List QueuedCommand) (s : Session σ) :
    ∃ ran, (performAll queue s).2.history = s.history ++ ran ∧
      ran.Sublist (queue.map (·.command)) := by
  induction queue generalizing s with
  | nil => exact ⟨[], by simp [performAll]⟩
  | cons q queue ih =>
    obtain ⟨first, hfirst, once⟩ := history_perform q.command s
    obtain ⟨rest, hrest, inTurn⟩ := ih (s.perform q.command).2
    refine ⟨first ++ rest, ?_, once.append inTurn⟩
    rw [hfirst, List.append_assoc] at hrest
    exact hrest

theorem history_flushConnects (s : Session σ) :
    ∃ ran, s.flushConnects.2.history = s.history ++ ran ∧
      ran.Sublist ((s.interpreter.queue.filter (·.kind = .connecting)).map (·.command)) := by
  rw [flushConnects]
  split
  · exact ⟨[], by simp [withoutQueue]⟩
  · exact history_performAll _ _

/-- **A flush runs nothing but what is held back, each command at most once, and in turn.** -/
theorem history_flush (s : Session σ) :
    ∃ ran, s.flush.2.history = s.history ++ ran ∧ ran.Sublist s.turns := by
  obtain ⟨connects, hconnects, first⟩ := history_flushConnects s
  rw [turns, List.map_append, flush_eq]
  split
  · obtain ⟨rest, hrest, next⟩ := history_performAll s.others s.flushConnects.2
    refine ⟨connects ++ rest, ?_, first.append next⟩
    rw [hrest, hconnects, List.append_assoc]
  · exact ⟨connects, hconnects, first.trans (List.sublist_append_left _ _)⟩

/-! ## The courses -/

/-- What becomes of a command. -/
inductive Course where
  /-- The empty command does nothing. -/
  | nothing
  /-- There is no operation of that name. -/
  | unknown
  /-- It is put at the end of the queue. -/
  | held
  /-- There is no connection for its operation. -/
  | unavailable
  /-- Its operation is run. -/
  | run
  deriving DecidableEq, Repr

/-- What comes of running an operation with the arguments of a command.  Only a connection that is
made while commands are waiting has others run behind it: those of one flush, whose errors are
shown and are not the command's own. -/
inductive Ran (s : Session σ) (d : Command) (op : Operation σ) :
    Except CommandError Unit × Session σ → Prop
  | failed {e : CommandError} {scope : Scope σ}
      (run : (op.run s.interpreter.catalogue.help d.args).act s.scope = (.error e, scope)) :
      Ran s d op (.error e, (s.withScope scope).remember d)
  | done {scope : Scope σ}
      (run : (op.run s.interpreter.catalogue.help d.args).act s.scope = (.ok (), scope))
      (alone : ¬ (op.kind = .connecting ∧ s.interpreter.queue ≠ [])) :
      Ran s d op (.ok (), (s.withScope scope).remember d)
  | flushed {scope : Scope σ} {s' : Session σ} {errors : List CommandError} {ran : List Command}
      (run : (op.run s.interpreter.catalogue.help d.args).act s.scope = (.ok (), scope))
      (kind : op.kind = .connecting) (waiting : s.interpreter.queue ≠ [])
      (flush : ((s.withScope scope).remember d).flush = (errors, s'))
      (history : s'.history = s.history ++ d :: ran) (once : ran.Sublist s.turns) :
      Ran s d op (.ok (), s'.mapConsole (.reportErrors errors))

/-- When a command whose operation is known takes a course, and what comes of it. -/
inductive Handled (s : Session σ) (d : Command) (op : Operation σ) :
    Course → Except CommandError Unit × Session σ → Prop
  | held (holds : s.Holds op.kind) :
      Handled s d op .held
        (.ok (), { s with interpreter :=
          { s.interpreter with queue := s.interpreter.queue ++ [⟨d, op.kind⟩] } })
  | unavailable (free : ¬ s.Holds op.kind) (player : op.kind = .player)
      (off : s.isConnected = false) :
      Handled s d op .unavailable (.error .connectionUnavailable, s)
  | run {r : Except CommandError Unit × Session σ} (free : ¬ s.Holds op.kind)
      (ready : op.kind = .player → s.isConnected = true) (ran : Ran s d op r) :
      Handled s d op .run r

/-- When a command takes a course over some operations, and what comes of it.  The operation is the
last one registered under the name of the command, letter for letter. -/
inductive Dispatched (ops : List (Operation σ)) (s : Session σ) (d : Command) :
    Course → Except CommandError Unit × Session σ → Prop
  | nothing (name : d.name = "") : Dispatched ops s d .nothing (.ok (), s)
  | unknown (name : d.name ≠ "") (unregistered : ∀ op ∈ ops, op.name ≠ d.name) :
      Dispatched ops s d .unknown (.error (.unknownCommand d.name), s)
  | known {op : Operation σ} {course : Course} {r : Except CommandError Unit × Session σ}
      (name : d.name ≠ "") (last : Catalogue.Last ops d.name op)
      (handled : Handled s d op course r) : Dispatched ops s d course r

/-! ## There is one course, and executing takes it -/

variable {s : Session σ} {c d : Command} {op : Operation σ} {ops : List (Operation σ)}
  {course course' : Course} {r r' : Except CommandError Unit × Session σ}

theorem Ran.unique (h : Ran s d op r) (h' : Ran s d op r') : r = r' := by
  cases h <;> cases h' <;> simp_all

theorem Handled.unique (h : Handled s d op course r) (h' : Handled s d op course' r') :
    course = course' ∧ r = r' := by
  cases h with
  | held holds =>
    cases h' with
    | held => exact ⟨rfl, rfl⟩
    | unavailable free => exact absurd holds free
    | run free => exact absurd holds free
  | unavailable free player off =>
    cases h' with
    | held holds => exact absurd holds free
    | unavailable => exact ⟨rfl, rfl⟩
    | run _ ready => simp [ready player] at off
  | run free ready ran =>
    cases h' with
    | held holds => exact absurd holds free
    | unavailable _ player off => simp [ready player] at off
    | run _ _ ran' => exact ⟨rfl, ran.unique ran'⟩

/-- The conditions of the courses exclude each other, and each course has one outcome. -/
theorem Dispatched.unique (h : Dispatched ops s d course r) (h' : Dispatched ops s d course' r') :
    course = course' ∧ r = r' := by
  cases h with
  | nothing empty =>
    cases h' with
    | nothing => exact ⟨rfl, rfl⟩
    | unknown name => exact absurd empty name
    | known name => exact absurd empty name
  | unknown name unregistered =>
    cases h' with
    | nothing empty => exact absurd empty name
    | unknown => exact ⟨rfl, rfl⟩
    | known _ last => exact absurd unregistered last.not_unregistered
  | known name last handled =>
    cases h' with
    | nothing empty => exact absurd empty name
    | unknown _ unregistered => exact absurd unregistered last.not_unregistered
    | known _ last' handled' =>
      obtain rfl := last.eq last'
      exact handled.unique handled'

omit [Client σ] in
theorem runOperation_eq {result : Except CommandError Unit} {scope : Scope σ}
    (run : (op.run s.interpreter.catalogue.help d.args).act s.scope = (result, scope)) :
    s.runOperation op d = (result, (s.withScope scope).remember d) := by
  rw [Session.scope] at run
  rw [runOperation, run]
  rfl

/-- Invoking a command that has what it needs runs its operation, and then nothing or one flush. -/
theorem ran_invoke (found : s.interpreter.catalogue.get? d.name = some op)
    (free : ¬ s.Holds op.kind) (ready : op.kind = .player → s.isConnected = true) :
    Ran s d op (s.invoke d) := by
  rcases run : (op.run s.interpreter.catalogue.help d.args).act s.scope with ⟨result, scope⟩
  have performed := (perform_of_ready found ready).trans (runOperation_eq run)
  have hv := invoked d s
  generalize s.invoke d = r at hv ⊢
  cases hv with
  | unknown found' => cases found.symm.trans found'
  | held found' holds =>
    obtain rfl := Option.some.inj (found.symm.trans found')
    exact absurd holds free
  | failed _ _ failed =>
    cases performed.symm.trans failed
    exact .failed run
  | done found' _ done still =>
    obtain rfl := Option.some.inj (found.symm.trans found')
    cases performed.symm.trans done
    exact .done run still
  | flushed found' _ done kind waiting =>
    obtain rfl := Option.some.inj (found.symm.trans found')
    cases performed.symm.trans done
    obtain ⟨ran, history, once⟩ := history_flush ((s.withScope scope).remember d)
    refine .flushed run kind waiting rfl ?_ once
    rw [history, remember, List.append_assoc]
    rfl

/-- A command whose operation is known is handled in one of three ways. -/
theorem handled_invoke (found : s.interpreter.catalogue.get? d.name = some op) :
    ∃ course, Handled s d op course (s.invoke d) := by
  by_cases holds : s.Holds op.kind
  · refine ⟨.held, ?_⟩
    have held : s.invoke d = (.ok (), s.hold d op.kind) := by
      rw [invoke, found]
      exact if_pos holds
    rw [held]
    exact .held holds
  by_cases off : op.kind = .player ∧ s.isConnected = false
  · refine ⟨.unavailable, ?_⟩
    have refused : s.invoke d = (.error .connectionUnavailable, s) := by
      rw [invoke, found]
      refine (if_neg holds).trans ?_
      rw [perform, found]
      simp only [if_pos off]
    rw [refused]
    exact .unavailable holds off.1 off.2
  · have ready (player : op.kind = .player) : s.isConnected = true := by simpa [player] using off
    exact ⟨.run, .run holds ready (ran_invoke found holds ready)⟩

theorem exists_dispatched (table : s.interpreter.catalogue = .registerAll {} ops)
    (resolve : s.interpreter.aliases.resolve c = .ok d) :
    ∃ course, Dispatched ops s d course (s.execute c) := by
  by_cases name : d.name = ""
  · have idle : s.execute c = (.ok (), s) := by simp [execute, resolve, name]
    rw [idle]
    exact ⟨.nothing, .nothing name⟩
  rw [execute_of_resolve resolve name]
  cases found : s.interpreter.catalogue.get? d.name with
  | none =>
    have unknown : s.invoke d = (.error (.unknownCommand d.name), s) := by rw [invoke, found]
    rw [table] at found
    rw [unknown]
    exact ⟨.unknown, .unknown name (Catalogue.get?_registerAll_eq_none_iff.1 found)⟩
  | some op =>
    obtain ⟨course, handled⟩ := handled_invoke found
    rw [table] at found
    exact ⟨course, .known name (Catalogue.get?_registerAll_eq_some_iff.1 found) handled⟩

/-- **Dispatch is exact.**  Over any operations, in the order in which they are registered, and from
any session, executing what resolves to a command takes one course, and its outcome is that of this
course; there is no other course that the command could take, and no other outcome. -/
theorem dispatch_is_exact (ops : List (Operation σ)) (s : Session σ) (c d : Command)
    (table : s.interpreter.catalogue = .registerAll {} ops)
    (resolve : s.interpreter.aliases.resolve c = .ok d) :
    ∃ course, Dispatched ops s d course (s.execute c) ∧
      ∀ course' r, Dispatched ops s d course' r → course' = course ∧ r = s.execute c := by
  obtain ⟨course, dispatched⟩ := exists_dispatched table resolve
  exact ⟨course, dispatched, fun course' r h ↦ h.unique dispatched⟩

/-- An alias of an operation that has been replaced runs the replacement, and the connection that it
makes has what is waiting run.  The last error of that is shown.  While commands are held back, the
same alias puts it behind what is waiting, and does nothing else. -/
theorem dispatch_is_exact_for_a_replaced_connect :
    let ops : List (Operation Canned) := Catalogue.builtins Canned ++
      [⟨"connect", "Connect to the attic", .connecting, fun _ _ ↦ Builtin.connect "attic"⟩]
    let s : Session Canned :=
      { interpreter :=
          { catalogue := .registerAll {} ops
            aliases := (∅ : AliasTable).insert "up" "connect cellar"
            queue := [⟨⟨"mpc", ""⟩, .player⟩, ⟨⟨"play", ""⟩, .player⟩, ⟨⟨"mpc", "stop"⟩, .player⟩] }
        console := { client := ⟨["attic"], false⟩ } }
    let c : Command := ⟨"up", "now"⟩
    let d : Command := ⟨"connect", "cellar"⟩
    let holding := s.setQueueing true
    s.interpreter.aliases.resolve c = .ok d ∧
      (∃ course, Dispatched ops s d course (s.execute c) ∧
        ∀ course' r, Dispatched ops s d course' r → course' = course ∧ r = s.execute c) ∧
      (s.execute c).2.history = [d, ⟨"mpc", ""⟩, ⟨"mpc", "stop"⟩] ∧
      (s.execute c).2.console.status = .error "E: Not an editor command: play" ∧
      (∃ course, Dispatched ops holding d course (holding.execute c) ∧
        ∀ course' r, Dispatched ops holding d course' r → course' = course ∧ r = holding.execute c) ∧
      (holding.execute c).1 = .ok () ∧ (holding.execute c).2.history = [] ∧
      (holding.execute c).2.interpreter.queue = [⟨⟨"mpc", ""⟩, .player⟩, ⟨⟨"play", ""⟩, .player⟩,
        ⟨⟨"mpc", "stop"⟩, .player⟩, ⟨d, .connecting⟩] := by
  intro ops s c d holding
  have resolve : s.interpreter.aliases.resolve c = .ok d := by decide +kernel
  have ran : (s.execute c).2.history = [d, ⟨"mpc", ""⟩, ⟨"mpc", "stop"⟩] := by decide +kernel
  have shown : (s.execute c).2.console.status = .error "E: Not an editor command: play" := by
    decide +kernel
  have held : (holding.execute c).1 = .ok () ∧ (holding.execute c).2.history = [] ∧
      (holding.execute c).2.interpreter.queue = [⟨⟨"mpc", ""⟩, .player⟩, ⟨⟨"play", ""⟩, .player⟩,
        ⟨⟨"mpc", "stop"⟩, .player⟩, ⟨d, .connecting⟩] := by
    decide +kernel
  exact ⟨resolve, dispatch_is_exact ops s c d rfl resolve, ran, shown,
    dispatch_is_exact ops holding c d rfl resolve, held⟩

end Session
end Jukebox
