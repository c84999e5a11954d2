import Jukebox.Proofs.Courses

/-!
# Invoking and flushing, each in terms of the other

A connection that is made while commands are waiting starts a flush, and a flush invokes what is
waiting, connecting commands among it.  Nothing in the commands themselves stops this from going on:
what does is that a flush takes the queue away and ends the holding back before it invokes anything,
and that no operation can reach either.  `Session.flush` builds on that, as it performs commands and
does not invoke them.  Here the two functions do call each other, and are shown to come to the same.

* `Session.callInvoke` and `Session.callFlush` are the two functions, and `Session.callExecute` is
  executing with them.  They are given how deep their calls may be, and have no outcome if that is not
  enough; what happens on the way to an outcome is logged as a list of `Session.Mark`s.
* `Session.Clear` is what holds of every session while a flush is going on, and
  `Session.callInvoke_of_clear` says that invoking a command keeps it, and starts no flush.
* `Session.FlushLog` and `Session.InvokeLog` say what is logged.
* `Session.flushes_do_not_nest` is the outcome.
-/

set_option autoImplicit false

namespace Jukebox
namespace Session

/-- What happens while commands are invoked. -/
inductive Mark (σ : Type) where
  /-- A command is invoked in a session. -/
  | invoked (c : Command) (s : Session σ)
  /-- Its operation is run, and leaves another session. -/
  | ran (c : Command) (s s' : Session σ)
  /-- A flush begins. -/
  | flushing (s : Session σ)
  /-- The flush is over. -/
  | flushed (s : Session σ)

variable {σ : Type}

/-! ## Functions that call each other -/

section Calls

/-- Invokes commands in turn and collects the errors. -/
def callInTurn (invoke : Command → Session σ →
      Option (List (Mark σ) × Except CommandError Unit × Session σ)) :
    List QueuedCommand → Session σ → Option (List (Mark σ) × List CommandError × Session σ)
  | [], s => some ([], [], s)
  | q :: queue, s => do
    let (log, result, s) ← invoke q.command s
    let (log', errors, s) ← callInTurn invoke queue s
    some (log ++ log', errorOf result ++ errors, s)

variable [Client σ]

mutual

/-- Invokes a command, with calls of the two functions inside one another as deep as that.  A connection
made with commands in the queue calls for a flush. -/
def callInvoke : Nat → Command → Session σ →
    Option (List (Mark σ) × Except CommandError Unit × Session σ)
  | 0, _, _ => none
  | depth + 1, c, s =>
    match s.interpreter.catalogue.get? c.name with
    | none => some ([.invoked c s], .error (.unknownCommand c.name), s)
    | some op =>
      if s.interpreter.queueing ∧ op.kind ≠ .standalone then
        some ([.invoked c s], .ok (), s.hold c op.kind)
      else if op.kind = .player ∧ s.isConnected = false then
        some ([.invoked c s], .error .connectionUnavailable, s)
      else
        match s.runOperation op c with
        | (.error e, s') => some ([.invoked c s, .ran c s s'], .error e, s')
        | (.ok _, s') =>
          if op.kind = .connecting ∧ s'.interpreter.queue ≠ [] then do
            let (log, errors, t) ← callFlush depth s'
            some (.invoked c s :: .ran c s s' :: log, .ok (), t.mapConsole (.reportErrors errors))
          else some ([.invoked c s, .ran c s s'], .ok (), s')

/-- Invokes what is held back: the connecting commands first, unless they are to be skipped, and then
the others, which stay in the queue as long as there is no connection. -/
def callFlush : Nat → Session σ → Option (List (Mark σ) × List CommandError × Session σ)
  | 0, _ => none
  | depth + 1, s => do
    let (connects, others) := s.interpreter.queue.partition (·.kind = .connecting)
    let due := if s.console.settings.skipconfigconnects then [] else connects
    let (log, errors, t) ← callInTurn (callInvoke depth) due s.withoutQueue
    if t.isConnected then
      let (log', more, t) ← callInTurn (callInvoke depth) others t
      some (.flushing s :: (log ++ log' ++ [.flushed t]), errors ++ more, t)
    else
      let t := t.withQueue others
      some (.flushing s :: (log ++ [.flushed t]), errors, t)

end

/-- Runs what a command stands for. -/
def callExecute (depth : Nat) (c : Command) (s : Session σ) :
    Option (List (Mark σ) × Except CommandError Unit × Session σ) :=
  match s.interpreter.aliases.resolve c with
  | .error e => some ([], .error e, s)
  | .ok d => if d.name.isEmpty then some ([], .ok (), s) else callInvoke depth d s

end Calls

/-! ## What is logged -/

/-- Nothing is waiting, and nothing is held back. -/
structure Clear (s : Session σ) : Prop where
  queue : s.interpreter.queue = []
  free : s.interpreter.queueing = false

namespace Mark

/-- The command that is invoked. -/
def invoked? : Mark σ → Option Command
  | invoked c _ => some c
  | _ => none

/-- The command whose operation is run. -/
def ran? : Mark σ → Option Command
  | ran c _ _ => some c
  | _ => none

/-- A flush begins. -/
def isFlushing : Mark σ → Bool
  | flushing _ => true
  | _ => false

/-- What may happen inside a flush: no other flush begins, and no session has a queue. -/
def Inside : Mark σ → Prop
  | invoked _ s => s.Clear
  | ran _ s s' => s.Clear ∧ s'.Clear
  | flushing _ => False
  | flushed _ => False

theorem Inside.isFlushing_eq_false {m : Mark σ} (h : m.Inside) : m.isFlushing = false := by
  cases m with
  | flushing => exact h.elim
  | _ => rfl

end Mark

/-- What is logged while some commands are invoked inside a flush, from one session to another: each
of them is invoked once, in turn, and its operation is run at most once. -/
structure Undisturbed (s : Session σ) (commands : List Command) (log : List (Mark σ))
    (s' : Session σ) : Prop where
  inside : ∀ m ∈ log, m.Inside
  invoked : log.filterMap Mark.invoked? = commands
  ran : (log.filterMap Mark.ran?).Sublist commands
  history : s'.history = s.history ++ log.filterMap Mark.ran?
  clear : s'.Clear

theorem Undisturbed.append {s s' s'' : Session σ} {cs cs' : List Command} {log log' : List (Mark σ)}
    (h : Undisturbed s cs log s') (h' : Undisturbed s' cs' log' s'') :
    Undisturbed s (cs ++ cs') (log ++ log') s'' where
  inside m hm := (List.mem_append.1 hm).elim (h.inside m) (h'.inside m)
  invoked := by rw [List.filterMap_append, h.invoked, h'.invoked]
  ran := by
    rw [List.filterMap_append]
    exact h.ran.append h'.ran
  history := by rw [h'.history, h.history, List.filterMap_append, List.append_assoc]
  clear := h'.clear

variable [Client σ] {s s' : Session σ} {c d : Command} {log : List (Mark σ)}

/-- What a flush logs.  Between its two ends some of what was waiting is invoked, each entry of the
queue at most once and in turn, and every session on the way is clear. -/
inductive FlushLog (s : Session σ) : List (Mark σ) → Prop
  | mk {commands : List Command} {log : List (Mark σ)} {t : Session σ}
      (inside : Undisturbed s.withoutQueue commands log t) (once : commands.Sublist s.turns) :
      FlushLog s (.flushing s :: (log ++ [.flushed s.flush.2]))

/-- What invoking a command logs. -/
inductive InvokeLog (s : Session σ) (c : Command) : List (Mark σ) → Prop
  | alone : InvokeLog s c [.invoked c s]
  | ran (s' : Session σ) : InvokeLog s c [.invoked c s, .ran c s s']
  | flushed {s' : Session σ} {log : List (Mark σ)} (kept : s'.interpreter.queue = s.interpreter.queue)
      (flush : FlushLog s' log) : InvokeLog s c (.invoked c s :: .ran c s s' :: log)

/-! ## Inside a flush -/

omit [Client σ] in
theorem Clear.runOperation (h : s.Clear) (op : Operation σ) (c : Command) :
    (s.runOperation op c).2.Clear := ⟨h.queue, h.free⟩

omit [Client σ] in
theorem clear_withoutQueue (s : Session σ) : s.withoutQueue.Clear := ⟨rfl, rfl⟩

omit [Client σ] in
theorem undisturbed_nil (h : s.Clear) : Undisturbed s [] [] s where
  inside := List.forall_mem_nil _
  invoked := rfl
  ran := .refl _
  history := (List.append_nil _).symm
  clear := h

omit [Client σ] in
/-- A command that is refused leaves everything as it is. -/
theorem undisturbed_refused (h : s.Clear) (c : Command) : Undisturbed s [c] [.invoked c s] s where
  inside m hm := by
    obtain rfl := List.mem_singleton.1 hm
    exact h
  invoked := rfl
  ran := List.nil_sublist _
  history := (List.append_nil _).symm
  clear := h

omit [Client σ] in
theorem undisturbed_ran (h : s.Clear) (op : Operation σ) (c : Command) :
    Undisturbed s [c] [.invoked c s, .ran c s (s.runOperation op c).2] (s.runOperation op c).2 where
  inside m hm := by
    rcases List.mem_cons.1 hm with rfl | hm
    · exact h
    · obtain rfl := List.mem_singleton.1 hm
      exact ⟨h, h.runOperation op c⟩
  invoked := rfl
  ran := .refl _
  history := rfl
  clear := h.runOperation op c

/-- **In a clear session, invoking a command is performing it:** it is not held back, and no flush is
called for. -/
theorem callInvoke_of_clear (h : s.Clear) (c : Command) :
    ∃ log, (∀ depth, callInvoke (depth + 1) c s = some (log, s.perform c)) ∧
      Undisturbed s [c] log (s.perform c).2 := by
  simp only [callInvoke]
  rw [perform]
  cases s.interpreter.catalogue.get? c.name with
  | none => exact ⟨_, fun _ ↦ rfl, undisturbed_refused h c⟩
  | some op =>
    have free : ¬(s.interpreter.queueing = true ∧ op.kind ≠ .standalone) := by simp [h.free]
    simp only [if_neg free]
    by_cases off : op.kind = .player ∧ s.isConnected = false
    · simp only [if_pos off]
      exact ⟨_, fun _ ↦ rfl, undisturbed_refused h c⟩
    · simp only [if_neg off]
      have log := undisturbed_ran h op c
      have left := h.runOperation op c
      generalize s.runOperation op c = r at log left ⊢
      obtain ⟨⟨⟩ | ⟨⟩, s'⟩ := r
      · exact ⟨_, fun _ ↦ rfl, log⟩
      · have idle : ¬(op.kind = .connecting ∧ s'.interpreter.queue ≠ []) := fun flush ↦
          flush.2 left.queue
        exact ⟨_, fun _ ↦ if_neg idle, log⟩

/-- Commands that are invoked in turn stay undisturbed. -/
theorem callInTurn_of_clear (queue : List QueuedCommand) {s : Session σ} (h : s.Clear) :
    ∃ log, (∀ depth, callInTurn (callInvoke (depth + 1)) queue s = some (log, performAll queue s)) ∧
      Undisturbed s (queue.map (·.command)) log (performAll queue s).2 := by
  induction queue generalizing s with
  | nil => exact ⟨[], fun _ ↦ rfl, undisturbed_nil h⟩
  | cons q queue ih =>
    obtain ⟨first, hfirst, undisturbed⟩ := callInvoke_of_clear h q.command
    obtain ⟨rest, hrest, undisturbed'⟩ := ih undisturbed.clear
    refine ⟨first ++ rest, fun depth ↦ ?_, undisturbed.append undisturbed'⟩
    rw [callInTurn, hfirst, performAll]
    dsimp only [bind, Option.bind]
    rw [hrest]

/-! ## One flush -/

omit [Client σ] in
/-- The connecting commands that a flush comes to. -/
def due (s : Session σ) : List QueuedCommand :=
  if s.console.settings.skipconfigconnects then []
  else s.interpreter.queue.filter (·.kind = .connecting)

theorem flushConnects_eq (s : Session σ) : s.flushConnects = performAll s.due s.withoutQueue := by
  rw [flushConnects, due]
  split <;> rfl

omit [Client σ] in
theorem due_sublist (s : Session σ) :
    s.due.Sublist (s.interpreter.queue.filter (·.kind = .connecting)) := by
  rw [due]
  split
  · exact List.nil_sublist _
  · exact .refl _

/-- A flush whose connecting commands have come to an end goes on with the others, or puts them
back. -/
theorem callFlush_of_due {depth : Nat} {first : List (Mark σ)}
    (h : callInTurn (callInvoke depth) s.due s.withoutQueue = some (first, s.flushConnects)) :
    callFlush (depth + 1) s =
      if s.flushConnects.2.isConnected then
        (callInTurn (callInvoke depth) s.others s.flushConnects.2).bind fun (log, more, t) ↦
          some (.flushing s :: (first ++ log ++ [.flushed t]), s.flushConnects.1 ++ more, t)
      else
        some (.flushing s :: (first ++ [.flushed (s.flushConnects.2.withQueue s.others)]),
          s.flushConnects.1, s.flushConnects.2.withQueue s.others) := by
  rw [due] at h
  rw [callFlush, List.partition_eq_filter_filter]
  dsimp only [bind]
  rw [h]
  rfl

omit [Client σ] in
/-- What is not there at the two ends of a flush is found between them. -/
theorem filterMap_ends {α : Type} {f : Mark σ → Option α} {s t : Session σ} (log : List (Mark σ))
    (begins : f (.flushing s) = none) (ends : f (.flushed t) = none) :
    (Mark.flushing s :: (log ++ [.flushed t])).filterMap f = log.filterMap f := by
  rw [List.filterMap_cons_none begins, List.filterMap_append, List.filterMap_cons_none ends,
    List.filterMap_nil, List.append_nil]

/-- **A flush comes to an end, and to the same as performing what is waiting.** -/
theorem exists_flushLog (s : Session σ) :
    ∃ log, (∀ depth, callFlush (depth + 2) s = some (log, s.flush)) ∧ FlushLog s log ∧
      s.flush.2.history = s.history ++ log.filterMap Mark.ran? := by
  obtain ⟨first, hfirst, connects⟩ := callInTurn_of_clear s.due (clear_withoutQueue s)
  rw [← flushConnects_eq] at hfirst connects
  have once := s.due_sublist.map QueuedCommand.command
  have called (depth : Nat) := callFlush_of_due (hfirst depth)
  by_cases on : s.flushConnects.2.isConnected = true
  · obtain ⟨rest, hrest, others⟩ := callInTurn_of_clear s.others connects.clear
    have all := connects.append others
    have once' : (s.due.map (·.command) ++ s.others.map (·.command)).Sublist s.turns := by
      rw [turns, List.map_append]
      exact once.append (.refl _)
    have log := FlushLog.mk all once'
    rw [flush_of_connected on] at log ⊢
    refine ⟨_, fun depth ↦ ?_, log, ?_⟩
    · rw [called, if_pos on, hrest, flush_eq, if_pos on]
      rfl
    · rw [filterMap_ends _ rfl rfl]
      exact all.history
  · have once' : (s.due.map (·.command)).Sublist s.turns := by
      rw [turns, List.map_append]
      exact once.trans (List.sublist_append_left _ _)
    have log := FlushLog.mk connects once'
    rw [flush_of_disconnected (by simpa using on)] at log ⊢
    refine ⟨_, fun depth ↦ ?_, log, ?_⟩
    · rw [called, if_neg on, flush_eq, if_neg on]
    · rw [filterMap_ends _ rfl rfl]
      exact connects.history

/-- A flush leaves the queue empty, or puts the commands back that do not connect. -/
theorem queue_flush (s : Session σ) :
    s.flush.2.interpreter.queue = [] ∨ s.flush.2.interpreter.queue = s.others := by
  have emptied := interpreter_flushConnects s
  rw [flush_eq]
  split
  · left
    rw [interpreter_performAll, emptied]
    rfl
  · exact .inr rfl

/-! ## Outside a flush -/

/-- **Invoking a command comes to an end, and to what `invoke` says,** with one flush at most. -/
theorem exists_invokeLog (c : Command) (s : Session σ) :
    ∃ log, (∀ depth, callInvoke (depth + 3) c s = some (log, s.invoke c)) ∧ InvokeLog s c log ∧
      (s.invoke c).2.history = s.history ++ log.filterMap Mark.ran? := by
  simp only [callInvoke]
  rw [invoke]
  cases found : s.interpreter.catalogue.get? c.name with
  | none => exact ⟨_, fun _ ↦ rfl, .alone, (List.append_nil _).symm⟩
  | some op =>
    dsimp only
    by_cases holds : s.interpreter.queueing = true ∧ op.kind ≠ .standalone
    · simp only [if_pos holds]
      exact ⟨_, fun _ ↦ rfl, .alone, (List.append_nil _).symm⟩
    simp only [if_neg holds]
    rw [perform, found]
    by_cases off : op.kind = .player ∧ s.isConnected = false
    · simp only [if_pos off]
      exact ⟨_, fun _ ↦ rfl, .alone, (List.append_nil _).symm⟩
    simp only [if_neg off]
    have kept : (s.runOperation op c).2.interpreter.queue = s.interpreter.queue := rfl
    have history : (s.runOperation op c).2.history = s.history ++ [c] := rfl
    generalize s.runOperation op c = r at kept history ⊢
    obtain ⟨⟨⟩ | ⟨⟩, s'⟩ := r
    · exact ⟨_, fun _ ↦ rfl, .ran s', history⟩
    by_cases flush : op.kind = .connecting ∧ s'.interpreter.queue ≠ []
    · obtain ⟨log, called, flushLog, ran⟩ := exists_flushLog s'
      simp only [if_pos flush, called]
      refine ⟨_, fun _ ↦ rfl, .flushed kept flushLog, ?_⟩
      show s'.flush.2.history = s.history ++ c :: log.filterMap Mark.ran?
      rw [ran, show s'.history = s.history ++ [c] from history, List.append_assoc,
        List.singleton_append]
    · simp only [if_neg flush]
      exact ⟨_, fun _ ↦ rfl, .ran s', history⟩

theorem exists_executeLog (c : Command) (s : Session σ) :
    ∃ log, (∀ depth, callExecute (depth + 3) c s = some (log, s.execute c)) ∧
      (log = [] ∨ ∃ d, InvokeLog s d log) ∧
      (s.execute c).2.history = s.history ++ log.filterMap Mark.ran? := by
  simp only [callExecute]
  have hx := executed c s
  generalize s.execute c = r at hx ⊢
  cases hx with
  | lost resolve =>
    rw [resolve]
    exact ⟨[], fun _ ↦ rfl, .inl rfl, (List.append_nil _).symm⟩
  | empty resolve name =>
    rw [resolve]
    exact ⟨[], fun _ ↦ if_pos name, .inl rfl, (List.append_nil _).symm⟩
  | @found d resolve name =>
    obtain ⟨log, called, invokeLog, ran⟩ := exists_invokeLog d s
    have some_name : ¬d.name.isEmpty = true := by simp [name]
    rw [resolve]
    exact ⟨log, fun depth ↦ (if_neg some_name).trans (called depth), .inr ⟨d, invokeLog⟩, ran⟩

/-! ## How much there can be -/

/-- There is one flush at most, and no more is invoked and run than there are commands in the queue,
and one. -/
structure Bounded (s : Session σ) (log : List (Mark σ)) : Prop where
  flushes : log.countP Mark.isFlushing ≤ 1
  calls : (log.filterMap Mark.invoked?).length ≤ s.interpreter.queue.length + 1
  runs : (log.filterMap Mark.ran?).length ≤ s.interpreter.queue.length + 1

omit [Client σ] in
/-- A flush comes to everything that is waiting. -/
theorem turns_perm (s : Session σ) : s.turns.Perm (s.interpreter.queue.map (·.command)) :=
  (List.filter_append_perm _ _).map _

omit [Client σ] in
theorem Undisturbed.countP_eq_zero {s t : Session σ} {commands : List Command}
    (h : Undisturbed s commands log t) : log.countP Mark.isFlushing = 0 := by
  rw [List.countP_eq_zero]
  intro m hm
  rw [(h.inside m hm).isFlushing_eq_false]
  exact Bool.false_ne_true

theorem FlushLog.count (h : FlushLog s log) :
    log.countP Mark.isFlushing = 1 ∧
      (log.filterMap Mark.invoked?).length ≤ s.interpreter.queue.length ∧
      (log.filterMap Mark.ran?).length ≤ s.interpreter.queue.length := by
  obtain ⟨inside, once⟩ := h
  have waiting : s.turns.length = s.interpreter.queue.length := by
    rw [s.turns_perm.length_eq, List.length_map]
  rw [filterMap_ends _ rfl rfl, filterMap_ends _ rfl rfl, inside.invoked, ← waiting]
  refine ⟨?_, once.length_le, (inside.ran.trans once).length_le⟩
  rw [List.countP_cons, List.countP_append, inside.countP_eq_zero]
  rfl

theorem InvokeLog.bounded (h : InvokeLog s c log) : Bounded s log := by
  cases h with
  | alone => exact ⟨Nat.zero_le 1, Nat.le_add_left 1 _, Nat.zero_le _⟩
  | ran => exact ⟨Nat.zero_le 1, Nat.le_add_left 1 _, Nat.le_add_left 1 _⟩
  | flushed kept flush =>
    obtain ⟨flushes, calls, runs⟩ := flush.count
    rw [kept] at calls runs
    exact ⟨Nat.le_of_eq flushes, Nat.succ_le_succ calls, Nat.succ_le_succ runs⟩

/-- **Flushes do not nest.**  Over any operations, whatever they do, from any session: flushing, and
executing a command, come to an end, although invoking and flushing call each other, and they come to
the same as `flush` and `execute`; the calls are never more than three deep.  From the beginning of a
flush to its end no other flush begins and no session has a queue, and each entry of the queue that was
taken is invoked at most once; in the end the queue is still empty, or the commands are put back that
do not connect.  So there is one flush at most, and no more is invoked, and run, than there were
commands in the queue, and one. -/
theorem flushes_do_not_nest (s : Session σ) :
    s.turns.Perm (s.interpreter.queue.map (·.command)) ∧
      (s.flush.2.interpreter.queue = [] ∨ s.flush.2.interpreter.queue = s.others) ∧
      (∃ log, (∀ depth, callFlush (depth + 2) s = some (log, s.flush)) ∧ FlushLog s log ∧
        Bounded s log ∧ s.flush.2.history = s.history ++ log.filterMap Mark.ran?) ∧
      ∀ c, ∃ log, (∀ depth, callExecute (depth + 3) c s = some (log, s.execute c)) ∧
        (log = [] ∨ ∃ d, InvokeLog s d log) ∧ Bounded s log ∧
        (s.execute c).2.history = s.history ++ log.filterMap Mark.ran? := by
  refine ⟨s.turns_perm, s.queue_flush, ?_, fun c ↦ ?_⟩
  · obtain ⟨log, called, flushLog, ran⟩ := exists_flushLog s
    obtain ⟨flushes, calls, runs⟩ := flushLog.count
    exact ⟨log, called, flushLog,
      ⟨Nat.le_of_eq flushes, Nat.le_succ_of_le calls, Nat.le_succ_of_le runs⟩, ran⟩
  · obtain ⟨log, called, logged, ran⟩ := exists_executeLog c s
    refine ⟨log, called, logged, ?_, ran⟩
    rcases logged with rfl | ⟨d, invokeLog⟩
    · exact ⟨Nat.zero_le 1, Nat.zero_le _, Nat.zero_le _⟩
    · exact invokeLog.bounded

end Session
end Jukebox
