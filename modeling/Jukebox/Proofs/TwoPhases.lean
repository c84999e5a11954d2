import Jukebox.Client.Canned
import Jukebox.Proofs.Account

/-!
# The two phases of starting up

While the startup commands are read, those that need no server run at once and all others are held
back.  Behind the last line what is held back is run, the connecting commands first.  This file says
so for every catalogue, whatever its operations do, and says what is returned.

* `Interpreter.Reachable` are the states that an interpreter over a catalogue can get into, and
  `Interpreter.Sound` is what is kept on the way: what is held back fits the catalogue.
* `Session.Reads` is what can become of a line, and `Session.Takes` what can become of a command
  whose turn has come; `Session.InTurn` is either of them for a whole list.
* `Session.StartsUp` is a startup by its phases, and `Session.startup_in_two_phases` the outcome.

A command whose turn has come is *invoked*, as it would be at the command line.  For the whole time
the queue is empty and nothing is held back, so that is no more than running its operation:
`Session.invoke_eq_perform`.
-/

set_option autoImplicit false

namespace Jukebox

variable {σ : Type}

/-! ## The interpreters that there can be -/

/-- What is held back was given under the name of an operation that needs the server. -/
structure Interpreter.Sound (table : Catalogue σ) (i : Interpreter σ) : Prop where
  catalogue : i.catalogue = table
  fits : ∀ q ∈ i.queue, q.Fits table

/-- The states that an interpreter gets into over a catalogue, with any console at each step. -/
inductive Interpreter.Reachable [Client σ] (table : Catalogue σ) : Interpreter σ → Prop
  | fresh : Reachable table { catalogue := table }
  | execute {s : Session σ} (c : Command) (h : Reachable table s.interpreter) :
      Reachable table (s.execute c).2.interpreter
  | setQueueing {s : Session σ} (queueing : Bool) (h : Reachable table s.interpreter) :
      Reachable table (s.setQueueing queueing).interpreter
  | flush {s : Session σ} (h : Reachable table s.interpreter) :
      Reachable table s.flush.2.interpreter
  | complete {s : Session σ} (text : String) (h : Reachable table s.interpreter) :
      Reachable table (s.complete text).2.interpreter
  | resetCompletion {s : Session σ} (h : Reachable table s.interpreter) :
      Reachable table s.resetCompletion.interpreter

theorem Interpreter.Sound.fits_catalogue {table : Catalogue σ} {i : Interpreter σ}
    (h : i.Sound table) {q : QueuedCommand} (hq : q ∈ i.queue) : q.Fits i.catalogue := by
  rw [h.catalogue]
  exact h.fits q hq

namespace Session

variable [Client σ] {s : Session σ} {c : Command} {q : QueuedCommand} {table : Catalogue σ}

/-! ## Invoking with nothing held back -/

/-- With nothing held back, invoking a command is performing it: there is nothing to flush. -/
theorem invoke_eq_perform (free : s.interpreter.queueing = false)
    (empty : s.interpreter.queue = []) (c : Command) : s.invoke c = s.perform c := by
  have hi := interpreter_perform c s
  have hv := invoked c s
  generalize s.invoke c = r at hv ⊢
  cases hv with
  | unknown found => rw [perform, found]
  | held _ holds => cases free.symm.trans holds.1
  | failed _ _ run => exact run.symm
  | done _ _ run => exact run.symm
  | flushed _ _ run _ waiting =>
    rw [run] at hi
    rw [hi] at waiting
    exact absurd empty waiting

/-! ## What is held back fits the catalogue -/

theorem sound_perform (h : s.interpreter.Sound table) (c : Command) :
    (s.perform c).2.interpreter.Sound table := by
  rw [interpreter_perform]
  exact ⟨h.catalogue, h.fits⟩

theorem sound_flush (h : s.interpreter.Sound table) : s.flush.2.interpreter.Sound table := by
  have connected : s.flushConnects.2.interpreter.Sound table := by
    rw [interpreter_flushConnects]
    exact ⟨h.catalogue, fun _ hq ↦ absurd hq List.not_mem_nil⟩
  rw [flush_eq]
  split
  · rw [interpreter_performAll]
    exact ⟨connected.catalogue, connected.fits⟩
  · exact ⟨connected.catalogue, fun q hq ↦ h.fits q (List.mem_filter.1 hq).1⟩

omit [Client σ] in
theorem sound_hold (h : s.interpreter.Sound table) {op : Operation σ}
    (found : s.interpreter.catalogue.get? c.name = some op) (holds : s.Holds op.kind) :
    (s.hold c op.kind).interpreter.Sound table := by
  refine ⟨h.catalogue, fun q hq ↦ ?_⟩
  rcases List.mem_append.1 hq with hq | hq
  · exact h.fits q hq
  · obtain rfl := List.mem_singleton.1 hq
    rw [h.catalogue] at found
    exact ⟨op, found, rfl, holds.2⟩

theorem sound_invoke (h : s.interpreter.Sound table) (c : Command) :
    (s.invoke c).2.interpreter.Sound table := by
  have hp := sound_perform h c
  have hv := invoked c s
  generalize s.invoke c = r at hv ⊢
  cases hv with
  | unknown => exact h
  | held found holds => exact sound_hold h found holds
  | failed _ _ run => rwa [run] at hp
  | done _ _ run => rwa [run] at hp
  | flushed _ _ run =>
    rw [run] at hp
    exact sound_flush hp

theorem sound_execute (h : s.interpreter.Sound table) (c : Command) :
    (s.execute c).2.interpreter.Sound table := by
  have hx := executed c s
  generalize s.execute c = r at hx ⊢
  cases hx with
  | lost => exact h
  | empty => exact h
  | found => exact sound_invoke h _

theorem sound_executeLines (lines : List String) {s : Session σ}
    (h : s.interpreter.Sound table) : (executeLines lines s).2.interpreter.Sound table := by
  induction lines generalizing s with
  | nil => exact h
  | cons line lines ih => exact ih (sound_execute h (.ofLine line))

end Session

theorem Interpreter.Reachable.sound [Client σ] {table : Catalogue σ} {i : Interpreter σ}
    (h : i.Reachable table) : i.Sound table := by
  induction h with
  | fresh => exact ⟨rfl, nofun⟩
  | execute c _ ih => exact Session.sound_execute ih c
  | setQueueing _ _ ih => exact ⟨ih.catalogue, ih.fits⟩
  | flush _ ih => exact Session.sound_flush ih
  | complete _ _ ih => exact ⟨ih.catalogue, ih.fits⟩
  | resetCompletion _ ih => exact ⟨ih.catalogue, ih.fits⟩

namespace Session

/-! ## What becomes of commands -/

/-- What has become of some commands: those that have been run, those that are held back, and the
errors, each in the order in which they came up. -/
structure Outcome where
  ran : List Command := []
  held : List QueuedCommand := []
  errors : List CommandError := []

instance : Append Outcome :=
  ⟨fun o o' ↦ ⟨o.ran ++ o'.ran, o.held ++ o'.held, o.errors ++ o'.errors⟩⟩

/-- What becomes of the things on a list, taken one after the other. -/
inductive InTurn {α : Type} (step : α → Session σ → Outcome → Session σ → Prop) :
    List α → Session σ → Outcome → Session σ → Prop
  | nil (s : Session σ) : InTurn step [] s {} s
  | cons {a : α} {as : List α} {s s' s'' : Session σ} {o o' : Outcome} (first : step a s o s')
      (rest : InTurn step as s' o' s'') : InTurn step (a :: as) s (o ++ o') s''

/-- What becomes of a line while the startup commands are read. -/
inductive Reads (line : String) (s : Session σ) : Outcome → Session σ → Prop
  /-- Its aliases lead nowhere. -/
  | lost {e : CommandError} (resolve : s.interpreter.aliases.resolve (.ofLine line) = .error e) :
      Reads line s { errors := [e] } s
  /-- It comes to the empty command. -/
  | empty {c : Command} (resolve : s.interpreter.aliases.resolve (.ofLine line) = .ok c)
      (name : c.name.isEmpty = true) : Reads line s {} s
  /-- There is no such command. -/
  | unknown {c : Command} (resolve : s.interpreter.aliases.resolve (.ofLine line) = .ok c)
      (name : c.name.isEmpty = false) (found : s.interpreter.catalogue.get? c.name = none) :
      Reads line s { errors := [.unknownCommand c.name] } s
  /-- It needs no server and is run here and now. -/
  | ran {c : Command} {op : Operation σ}
      (resolve : s.interpreter.aliases.resolve (.ofLine line) = .ok c)
      (name : c.name.isEmpty = false) (found : s.interpreter.catalogue.get? c.name = some op)
      (kind : op.kind = .standalone) :
      Reads line s { ran := [c], errors := errorOf (s.runOperation op c).1 } (s.runOperation op c).2
  /-- It needs the server and is held back. -/
  | held {c : Command} {op : Operation σ}
      (resolve : s.interpreter.aliases.resolve (.ofLine line) = .ok c)
      (name : c.name.isEmpty = false) (found : s.interpreter.catalogue.get? c.name = some op)
      (kind : op.kind ≠ .standalone) : Reads line s { held := [⟨c, op.kind⟩] } (s.hold c op.kind)

variable [Client σ]

/-- What becomes of a command that was held back when its turn has come.  It is invoked. -/
inductive Takes (q : QueuedCommand) (s : Session σ) : Outcome → Session σ → Prop
  /-- It is run, and nothing else is. -/
  | ran {op : Operation σ} (found : s.interpreter.catalogue.get? q.command.name = some op)
      (kind : op.kind = q.kind) (ready : q.kind = .player → s.isConnected = true)
      (invoke : s.invoke q.command = s.runOperation op q.command) :
      Takes q s { ran := [q.command], errors := errorOf (s.runOperation op q.command).1 }
        (s.runOperation op q.command).2
  /-- It needs a player, and there is no connection any more. -/
  | refused (player : q.kind = .player) (off : s.isConnected = false)
      (invoke : s.invoke q.command = (.error .connectionUnavailable, s)) :
      Takes q s { errors := [.connectionUnavailable] } s

variable {table : Catalogue σ} {s s' : Session σ} {c : Command} {q : QueuedCommand} {o : Outcome}

/-! ## Keeping the books -/

/-- What has become of commands is all there is to the history and the queue. -/
structure Books (s : Session σ) (o : Outcome) (s' : Session σ) : Prop where
  history : s'.history = s.history ++ o.ran
  queue : s'.interpreter.queue = s.interpreter.queue ++ o.held
  catalogue : s'.interpreter.catalogue = s.interpreter.catalogue
  queueing : s'.interpreter.queueing = s.interpreter.queueing

omit [Client σ] in
theorem Reads.books {line : String} (h : Reads line s o s') : Books s o s' := by
  cases h <;> constructor <;> simp [runOperation, hold]

theorem Takes.books (h : Takes q s o s') : Books s o s' := by
  cases h <;> constructor <;> simp [runOperation]

omit [Client σ] in
theorem InTurn.books {α : Type} {step : α → Session σ → Outcome → Session σ → Prop} {as : List α}
    (each : ∀ {a s o s'}, step a s o s' → Books s o s') (h : InTurn step as s o s') :
    Books s o s' := by
  induction h with
  | nil => constructor <;> simp
  | cons first _ ih =>
    have hf := each first
    refine ⟨?_, ?_, ih.catalogue.trans hf.catalogue, ih.queueing.trans hf.queueing⟩
    · rw [ih.history, hf.history, List.append_assoc]
      rfl
    · rw [ih.queue, hf.queue, List.append_assoc]
      rfl

omit [Client σ] in
/-- Nothing is run while the lines are read but what needs no server. -/
theorem InTurn.standalone {lines : List String} (h : InTurn Reads lines s o s') :
    ∀ c ∈ o.ran, ∃ op, s.interpreter.catalogue.get? c.name = some op ∧ op.kind = .standalone := by
  induction h with
  | nil => nofun
  | cons first _ ih =>
    intro c hc
    rcases List.mem_append.1 hc with hc | hc
    · cases first with
      | ran _ _ found kind =>
        obtain rfl := List.mem_singleton.1 hc
        exact ⟨_, found, kind⟩
      | lost | empty | unknown | held => cases hc
    · rw [← first.books.catalogue]
      exact ih c hc

/-- Connecting commands are run whatever the state of the connection. -/
theorem InTurn.connecting {queue : List QueuedCommand} (h : InTurn Takes queue s o s')
    (hq : ∀ q ∈ queue, q.kind = .connecting) : o.ran = queue.map (·.command) := by
  induction h with
  | nil => rfl
  | cons first _ ih =>
    have hrest := ih fun q hmem ↦ hq q (List.mem_cons_of_mem _ hmem)
    cases first with
    | ran => exact congrArg (_ :: ·) hrest
    | refused player => cases player.symm.trans (hq _ List.mem_cons_self)

/-! ## The first phase -/

/-- While commands are held back, executing a line is reading it. -/
theorem reads_executeLine (holding : s.interpreter.queueing = true) (line : String) :
    ∃ o, Reads line s o (s.executeLine line).2 ∧ errorOf (s.executeLine line).1 = o.errors := by
  have standalone {kind : OperationKind} (free : ¬ s.Holds kind) : kind = .standalone := by
    by_contra hne
    exact free ⟨holding, hne⟩
  have runs {c : Command} {op : Operation σ}
      (found : s.interpreter.catalogue.get? c.name = some op) (free : ¬ s.Holds op.kind) :
      s.perform c = s.runOperation op c := by
    refine perform_of_ready found fun player ↦ ?_
    cases (standalone free).symm.trans player
  have hx := executed (.ofLine line) s
  rw [executeLine]
  generalize s.execute (.ofLine line) = r at hx ⊢
  cases hx with
  | lost resolve => exact ⟨_, .lost resolve, rfl⟩
  | empty resolve name => exact ⟨_, .empty resolve name, rfl⟩
  | @found c resolve name =>
    have hv := invoked c s
    generalize s.invoke c = r at hv ⊢
    cases hv with
    | unknown found => exact ⟨_, .unknown resolve name found, rfl⟩
    | held found holds => exact ⟨_, .held resolve name found holds.2, rfl⟩
    | failed found free run =>
      have reads := Reads.ran resolve name found (standalone free)
      rw [← runs found free, run] at reads
      exact ⟨_, reads, rfl⟩
    | done found free run =>
      have reads := Reads.ran resolve name found (standalone free)
      rw [← runs found free, run] at reads
      exact ⟨_, reads, rfl⟩
    | flushed _ free _ kind => cases (standalone free).symm.trans kind

theorem reads_executeLines (holding : s.interpreter.queueing = true) (lines : List String) :
    ∃ o, InTurn Reads lines s o (executeLines lines s).2 ∧
      (executeLines lines s).1 = o.errors := by
  induction lines generalizing s with
  | nil => exact ⟨_, .nil s, rfl⟩
  | cons line lines ih =>
    obtain ⟨o, first, herrors⟩ := reads_executeLine holding line
    obtain ⟨o', rest, herrors'⟩ := ih (first.books.queueing.trans holding)
    refine ⟨o ++ o', .cons first rest, ?_⟩
    show errorOf (s.executeLine line).1 ++ (executeLines lines (s.executeLine line).2).1 = _
    rw [herrors, herrors']
    rfl

/-! ## The second phase -/

/-- With nothing held back any more, performing a command that was is giving it its turn. -/
theorem takes_perform (free : s.interpreter.queueing = false) (empty : s.interpreter.queue = [])
    (fits : q.Fits s.interpreter.catalogue) :
    ∃ o, Takes q s o (s.perform q.command).2 ∧ errorOf (s.perform q.command).1 = o.errors := by
  obtain ⟨op, found, kind, -⟩ := fits
  have invoke := invoke_eq_perform free empty q.command
  by_cases ready : q.kind = .player → s.isConnected = true
  · have run := perform_of_ready found (kind ▸ ready)
    rw [run] at invoke ⊢
    exact ⟨_, .ran found kind ready invoke, rfl⟩
  · rw [Classical.not_imp, Bool.not_eq_true] at ready
    have refused : s.perform q.command = (.error .connectionUnavailable, s) := by
      rw [perform, found]
      exact if_pos ⟨kind.trans ready.1, ready.2⟩
    rw [refused] at invoke ⊢
    exact ⟨_, .refused ready.1 ready.2 invoke, rfl⟩

theorem takes_performAll (free : s.interpreter.queueing = false)
    (empty : s.interpreter.queue = []) {queue : List QueuedCommand}
    (fits : ∀ q ∈ queue, q.Fits s.interpreter.catalogue) :
    ∃ o, InTurn Takes queue s o (performAll queue s).2 ∧ (performAll queue s).1 = o.errors := by
  induction queue generalizing s with
  | nil => exact ⟨_, .nil s, rfl⟩
  | cons q queue ih =>
    obtain ⟨o, first, herrors⟩ := takes_perform free empty (fits q List.mem_cons_self)
    have hi := interpreter_perform q.command s
    obtain ⟨o', rest, herrors'⟩ := ih (s := (s.perform q.command).2) (by rw [hi]; exact free)
      (by rw [hi]; exact empty)
      (by rw [hi]; exact fun q' hmem ↦ fits q' (List.mem_cons_of_mem _ hmem))
    refine ⟨o ++ o', .cons first rest, ?_⟩
    show errorOf (s.perform q.command).1 ++ (performAll queue (s.perform q.command).2).1 = _
    rw [herrors, herrors']
    rfl

/-- The connecting commands among those that are held back. -/
def connects (s : Session σ) : List QueuedCommand :=
  s.interpreter.queue.filter (·.kind = .connecting)

/-- What becomes of all that is held back.  The connecting commands have their turn, which comes to
the session `connected`; then the others have, unless there is no connection by then. -/
structure Releases (s connected final : Session σ) (first second : Outcome) : Prop where
  /-- The connecting commands are skipped, or each has its turn. -/
  connecting :
    if s.console.settings.skipconfigconnects then first = {} ∧ connected = s.withoutQueue
    else InTurn Takes s.connects s.withoutQueue first connected
  /-- Each of them is run then, and once only. -/
  connects_ran : first.ran =
    if s.console.settings.skipconfigconnects then [] else s.connects.map (·.command)
  /-- The others have their turn if there is a connection, and stay otherwise. -/
  playing :
    if connected.isConnected then InTurn Takes s.others connected second final
    else second = {} ∧ final = connected.withQueue s.others
  /-- Nothing else is run. -/
  history : final.history = s.history ++ first.ran ++ second.ran
  /-- Nothing is lost. -/
  left : final.interpreter.queue = if connected.isConnected then [] else s.others
  /-- And nothing is held back any more. -/
  released : final.interpreter.queueing = false

theorem takes_flushConnects (h : s.interpreter.Sound table) :
    ∃ o, (if s.console.settings.skipconfigconnects then
          o = {} ∧ s.flushConnects.2 = s.withoutQueue
        else InTurn Takes s.connects s.withoutQueue o s.flushConnects.2) ∧
      s.flushConnects.1 = o.errors := by
  rw [flushConnects]
  split
  · exact ⟨{}, ⟨rfl, rfl⟩, rfl⟩
  · exact takes_performAll (s := s.withoutQueue) rfl rfl fun q hq ↦
      h.fits_catalogue (List.mem_filter.1 hq).1

/-- A flush releases all that is held back. -/
theorem releases_flush (h : s.interpreter.Sound table) :
    ∃ connected first second, s.Releases connected s.flush.2 first second ∧
      s.flush.1 = first.errors ++ second.errors := by
  obtain ⟨first, connecting, herrors⟩ := takes_flushConnects h
  have hi := interpreter_flushConnects s
  have ran : first.ran =
      if s.console.settings.skipconfigconnects then [] else s.connects.map (·.command) := by
    split at connecting
    · rw [connecting.1, if_pos ‹_›]
    · rw [if_neg ‹_›]
      exact connecting.connecting fun q hq ↦ of_decide_eq_true (List.mem_filter.1 hq).2
  have history : s.flushConnects.2.history = s.history ++ first.ran := by
    split at connecting
    · rw [connecting.1, connecting.2]
      exact (List.append_nil _).symm
    · exact (connecting.books Takes.books).history
  rw [flush_eq]
  generalize s.flushConnects = r at *
  obtain ⟨errors, connected⟩ := r
  dsimp only at connecting herrors hi history ⊢
  by_cases on : connected.isConnected = true
  · have free : connected.interpreter.queueing = false := by rw [hi]; rfl
    have empty : connected.interpreter.queue = [] := by rw [hi]; rfl
    have fits : ∀ q ∈ s.others, q.Fits connected.interpreter.catalogue := by
      intro q hq
      rw [hi]
      exact h.fits_catalogue (List.mem_filter.1 hq).1
    obtain ⟨second, playing, herrors'⟩ := takes_performAll free empty fits
    have hi' := interpreter_performAll s.others connected
    rw [if_pos on]
    refine ⟨connected, first, second, ⟨connecting, ran, ?_, ?_, ?_, ?_⟩, ?_⟩
    · rw [if_pos on]
      exact playing
    · rw [(playing.books Takes.books).history, history]
    · rw [if_pos on, hi']
      exact empty
    · rw [hi']
      exact free
    · dsimp only
      rw [herrors, herrors']
  · rw [if_neg on]
    refine ⟨connected, first, {}, ⟨connecting, ran, ?_, ?_, ?_, ?_⟩, ?_⟩
    · rw [if_neg on]
      exact ⟨rfl, rfl⟩
    · exact history.trans (List.append_nil _).symm
    · rw [if_neg on]
      rfl
    · show connected.interpreter.queueing = false
      rw [hi]
      rfl
    · exact herrors.trans (List.append_nil _).symm

/-! ## Both phases -/

/-- A startup of the session `s`: the lines are read, which comes to the session `read`, and then
all that is held back by then is released. -/
structure StartsUp (s : Session σ) (lines : List String) (read connected final : Session σ)
    (early first second : Outcome) : Prop where
  /-- While the lines are read, each of them is run at once, held back, or refused. -/
  reading : InTurn Reads lines (s.setQueueing true) early read
  /-- What is run then needs no server. -/
  standalone : ∀ c ∈ early.ran,
    ∃ op, s.interpreter.catalogue.get? c.name = some op ∧ op.kind = .standalone
  /-- Nothing else is run by then. -/
  history : read.history = s.history ++ early.ran
  /-- What the lines hold back goes behind what was left over. -/
  queue : read.interpreter.queue = s.interpreter.queue ++ early.held
  /-- Then comes the second phase. -/
  releasing : read.Releases connected final first second

/-- **Starting up takes two phases.**  Over any catalogue, in any state that an interpreter can get
into and with any console: only what needs no server is run while the lines are read, each command
when its line is reached.  Behind the last line the connecting commands are run, those left over
from before first, unless they are to be skipped by then; and then all others, if there is a
connection.  The errors are those of the lines, of the connecting commands and of the others, each
in their order. -/
theorem startup_in_two_phases (h : s.interpreter.Reachable table) (lines : List String) :
    ∃ read connected early first second,
      s.StartsUp lines read connected (s.runStartup lines).2 early first second ∧
        (s.runStartup lines).1 = early.errors ++ first.errors ++ second.errors := by
  obtain ⟨early, reading, herrors⟩ := reads_executeLines (s := s.setQueueing true) rfl lines
  have books := reading.books Reads.books
  have sound : (executeLines lines (s.setQueueing true)).2.interpreter.Sound table :=
    sound_executeLines lines ⟨h.sound.catalogue, h.sound.fits⟩
  obtain ⟨connected, first, second, releasing, herrors'⟩ := releases_flush sound
  refine ⟨_, connected, early, first, second,
    ⟨reading, reading.standalone, books.history, books.queue, releasing⟩, ?_⟩
  show (executeLines lines (s.setQueueing true)).1 ++
    (executeLines lines (s.setQueueing true)).2.flush.1 = _
  rw [herrors, herrors', List.append_assoc]

/-- A command for the player, left over from before, waits for the connection that the startup
commands make, and so do theirs, one of which fails then. -/
theorem startup_in_two_phases_with_a_play_left_over :
    let before : Session Canned :=
      { interpreter := { catalogue := .standard Canned }
        console := { client := ⟨["attic"], false⟩ } }
    let s := ((before.setQueueing true).execute ⟨"play", "1"⟩).2
    let lines := ["mpc", "volume 5", "set nopolling", "bogus", "connect attic"]
    s.interpreter.Reachable (.standard Canned) ∧
      ∃ read connected early first second,
        s.StartsUp lines read connected (s.runStartup lines).2 early first second ∧
        early.ran ++ first.ran ++ second.ran = [⟨"set", "nopolling"⟩, ⟨"connect", "attic"⟩,
          ⟨"play", "1"⟩, ⟨"mpc", ""⟩, ⟨"volume", "5"⟩] ∧
        early.errors ++ first.errors ++ second.errors =
          [.unknownCommand "bogus", .usage "mpc <arguments>"] := by
  intro before s lines
  have reachable : s.interpreter.Reachable (.standard Canned) :=
    .execute _ (.setQueueing true .fresh)
  have ran : (s.runStartup lines).2.history = [⟨"set", "nopolling"⟩, ⟨"connect", "attic"⟩,
      ⟨"play", "1"⟩, ⟨"mpc", ""⟩, ⟨"volume", "5"⟩] := by decide +kernel
  have failed : (s.runStartup lines).1 =
      [.unknownCommand "bogus", .usage "mpc <arguments>"] := by decide +kernel
  have fresh : s.history = [] := by decide +kernel
  obtain ⟨read, connected, early, first, second, starts, errors⟩ :=
    startup_in_two_phases reachable lines
  refine ⟨reachable, read, connected, early, first, second, starts, ?_, ?_⟩
  · rw [← ran, starts.releasing.history, starts.history, fresh]
    rfl
  · rw [← errors, failed]

end Session
end Jukebox
