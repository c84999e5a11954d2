import Jukebox.Mode.Standard
import Jukebox.Proofs.Execution

/-!
# Consoles that commands cannot tell apart

Operations look at little of the console, and much of what it holds they only write.  Two consoles
that agree on what operations look at are changed by them in the same way, and whatever else they
differ in, they go on differing in it.

* `Console.Change` lists the changes that operations make to a console without the client.
* `Console.Lockstep` says of a relation of consoles that operations cannot tell related ones apart
  and keep them related; `matches_standard` is what that is good for.
* `Session.Alike` is the relation of sessions that goes with it, and `Session.matches_perform`,
  `Session.matches_flush`, up to `Session.matches_execute` carry it through the interpreter.
* `Modes.report_execute_showLine` is the case of the bottom line, which no operation looks at.
-/

set_option autoImplicit false

namespace Jukebox

open CommandM

variable {σ : Type}

namespace Console

/-- A change that an operation makes to a console. -/
inductive Change where
  | info (text : String)
  | error (text : String)
  | output (lines : List String)
  | serverStatus (text : String)
  | settings (value : Settings)
  | search (value : Search)
  | refresh
  | shutdown

/-- Carries out a change. -/
def Change.apply : Change → Console σ → Console σ
  | .info text => .info text
  | .error text => .error text
  | .output lines => .showOutput lines
  | .serverStatus text => .setServerStatus text
  | .settings value => fun c ↦ { c with settings := value }
  | .search value => fun c ↦ { c with search := value }
  | .refresh => fun c ↦ { c with refreshRequested := true }
  | .shutdown => fun c ↦ { c with shutdown := true }

/-- The answer to a call of the client, and the console afterwards. -/
def call {α : Type} (request : σ → α × σ) (c : Console σ) : α × Console σ :=
  ((request c.client).1, { c with client := (request c.client).2 })

/-- Operations look at the same things in consoles that are related, get the same answers from
their clients, and leave them related. -/
structure Lockstep [Client σ] (R : Console σ → Console σ → Prop) : Prop where
  settings {c c' : Console σ} (h : R c c') : c'.settings = c.settings
  server {c c' : Console σ} (h : R c c') : c'.server = c.server
  search {c c' : Console σ} (h : R c c') : c'.search = c.search
  isConnected {c c' : Console σ} (h : R c c') :
    Client.isConnected c'.client = Client.isConnected c.client
  connect {c c' : Console σ} (server : Endpoint) (h : R c c') :
    (c'.call (Client.connect server)).1 = (c.call (Client.connect server)).1 ∧
      R (c.call (Client.connect server)).2 (c'.call (Client.connect server)).2
  run {c c' : Console σ} (request : String) (h : R c c') :
    (c'.call (Client.run request)).1 = (c.call (Client.run request)).1 ∧
      R (c.call (Client.run request)).2 (c'.call (Client.run request)).2
  /-- The status that a client tells when it has connected may be another one. -/
  announce {s s' : Scope σ} (server : Endpoint) (h : R s.console s'.console) :
    R (Builtin.announce server s).console (Builtin.announce server s').console
  change {c c' : Console σ} (change : Change) (h : R c c') : R (change.apply c) (change.apply c')

end Console

/-- The same outcome, in states that are related. -/
def Matches {α β : Type} (rel : β → β → Prop) (x x' : α × β) : Prop := x'.1 = x.1 ∧ rel x.2 x'.2

/-! ## Operations -/

namespace Scope

/-- Scopes with related consoles and the same aliases. -/
structure Alike (R : Console σ → Console σ → Prop) (s s' : Scope σ) : Prop where
  console : R s.console s'.console
  aliases : s'.aliases = s.aliases

end Scope

namespace Builtin

variable [Client σ] {R : Console σ → Console σ → Prop} {s s' : Scope σ}

theorem alike_change (hR : Console.Lockstep R) (h : s.Alike R s') (change : Console.Change) :
    (s.mapConsole change.apply).Alike R (s'.mapConsole change.apply) :=
  ⟨hR.change change h.console, h.aliases⟩

theorem matches_change (hR : Console.Lockstep R) (h : s.Alike R s') (change : Console.Change) :
    Matches (α := Except CommandError Unit) (Scope.Alike R) (.ok (), s.mapConsole change.apply)
      (.ok (), s'.mapConsole change.apply) :=
  ⟨rfl, alike_change hR h change⟩

theorem matches_set (hR : Console.Lockstep R) (h : s.Alike R s') (args : String) :
    Matches (Scope.Alike R) (act (set args) s) (act (set args) s') := by
  rw [act_set, act_set, hR.settings h.console]
  split
  · exact matches_change hR h (.output _)
  · split
    · exact matches_change hR h (.settings _)
    · exact ⟨rfl, h⟩

theorem matches_manageAliases (hR : Console.Lockstep R) (h : s.Alike R s') (args : String) :
    Matches (Scope.Alike R) (act (manageAliases args) s) (act (manageAliases args) s') := by
  rw [act_manageAliases, act_manageAliases, h.aliases]
  refine ⟨rfl, ?_⟩
  dsimp only
  split
  · split
    · exact alike_change hR h (.info _)
    · exact alike_change hR h (.output _)
  · split
    · split
      · exact alike_change hR h (.info _)
      · exact alike_change hR h (.info _)
    · exact ⟨h.console, rfl⟩

theorem aliases_announce (server : Endpoint) (s : Scope σ) :
    (announce server s).aliases = s.aliases := by
  rw [announce]
  generalize "Connected to " ++ server.host ++ ":" ++ toString server.port.toNat = text
  rcases Client.status (s.mapConsole (.info text)).console.client with ⟨_ | _, _⟩ <;> simp

theorem matches_connect (hR : Console.Lockstep R) (h : s.Alike R s') (args : String) :
    Matches (Scope.Alike R) (act (connect args) s) (act (connect args) s') := by
  rw [act_connect, act_connect, hR.server h.console]
  cases endpoint? s.console.server args with
  | none => exact ⟨rfl, h⟩
  | some server =>
    obtain ⟨answer, after⟩ := hR.connect server h.console
    dsimp only [Console.call] at answer after ⊢
    rcases hc : Client.connect server s.console.client with ⟨e | _, client⟩ <;>
      rcases hc' : Client.connect server s'.console.client with ⟨e' | _, client'⟩ <;>
      rw [hc, hc'] at answer after <;> cases answer
    · exact ⟨rfl, after, h.aliases⟩
    · refine ⟨rfl, hR.announce server after, ?_⟩
      rw [aliases_announce, aliases_announce]
      exact h.aliases

/-- A request gets the same answer, and so the same is made of it. -/
theorem matches_request (hR : Console.Lockstep R) (h : s.Alike R s') (request : String)
    (shown : String → Scope σ → Scope σ)
    (each : ∀ (output : String) {s s' : Scope σ}, s.Alike R s' →
      (shown output s).Alike R (shown output s')) :
    Matches (α := Except CommandError Unit) (Scope.Alike R)
      (match Client.run request s.console.client with
        | (.ok output, client) => (.ok (), shown output (s.withClient client))
        | (.error e, client) => (.error (.ofClient e), s.withClient client))
      (match Client.run request s'.console.client with
        | (.ok output, client) => (.ok (), shown output (s'.withClient client))
        | (.error e, client) => (.error (.ofClient e), s'.withClient client)) := by
  obtain ⟨answer, after⟩ := hR.run request h.console
  dsimp only [Console.call] at answer after
  rcases hc : Client.run request s.console.client with ⟨e | output, client⟩ <;>
    rcases hc' : Client.run request s'.console.client with ⟨e' | output', client'⟩ <;>
    rw [hc, hc'] at answer after <;> cases answer
  · exact ⟨rfl, after, h.aliases⟩
  · exact ⟨rfl, each output ⟨after, h.aliases⟩⟩

theorem matches_mpc (hR : Console.Lockstep R) (h : s.Alike R s') (args : String) :
    Matches (Scope.Alike R) (act (mpc args) s) (act (mpc args) s') := by
  rw [act_mpc, act_mpc]
  split
  · exact ⟨rfl, h⟩
  · exact matches_request hR h args _ fun output _ _ h ↦
      alike_change hR h (.output (Text.lines output))

theorem matches_pass (hR : Console.Lockstep R) (h : s.Alike R s') (word args : String) :
    Matches (Scope.Alike R) (act (pass word args) s) (act (pass word args) s') := by
  rw [act_pass, act_pass]
  exact matches_request hR h _ _ fun output _ _ h ↦ alike_change hR h (.serverStatus output)

/-- What is told about a search is the same, for the search is. -/
theorem alike_report (hR : Console.Lockstep R) (h : s.Alike R s') :
    (s.mapConsole fun c ↦ c.info c.search.report).Alike R
      (s'.mapConsole fun c ↦ c.info c.search.report) := by
  have same := hR.search h.console
  have told := alike_change hR h (.info s.console.search.report)
  obtain ⟨c, aliases⟩ := s
  obtain ⟨c', aliases'⟩ := s'
  dsimp only [Console.Change.apply, Scope.mapConsole] at same told ⊢
  rw [same]
  exact told

theorem matches_search (hR : Console.Lockstep R) (h : s.Alike R s') (args : String) :
    Matches (Scope.Alike R) (act (search args) s) (act (search args) s') := by
  rw [act_search, act_search]
  split
  · exact ⟨rfl, h⟩
  · refine matches_request hR h "playlist" (fun listing s ↦ (s.mapConsole fun c ↦
      { c with search := .run (Text.trim args) listing c.settings.ignorecase }).mapConsole
        fun c ↦ c.info c.search.report) fun listing s s' h ↦ alike_report hR ?_
    have same := hR.settings h.console
    have found := alike_change hR h
      (.search (.run (Text.trim args) listing s.console.settings.ignorecase))
    obtain ⟨c, aliases⟩ := s
    obtain ⟨c', aliases'⟩ := s'
    dsimp only [Console.Change.apply, Scope.mapConsole] at same found ⊢
    rw [same] at found ⊢
    exact found

theorem matches_searchMove (hR : Console.Lockstep R) (h : s.Alike R s') (move : Search → Search) :
    Matches (Scope.Alike R) (act (searchMove move) s) (act (searchMove move) s') := by
  have moved := hR.change (.search (move s.console.search)) h.console
  refine ⟨rfl, alike_report hR ⟨?_, h.aliases⟩⟩
  dsimp only [Console.Change.apply] at moved ⊢
  rw [hR.search h.console]
  exact moved

end Builtin

/-- **No operation of the standard catalogue tells alike scopes apart.** -/
theorem matches_standard [Client σ] {R : Console σ → Console σ → Prop} (hR : Console.Lockstep R)
    {op : Operation σ} {name : String} (found : (Catalogue.standard σ).get? name = some op)
    (text : List String) (args : String) {s s' : Scope σ} (h : s.Alike R s') :
    Matches (Scope.Alike R) (act (op.run text args) s) (act (op.run text args) s') := by
  refine Catalogue.forall_standard
    (P := fun _ run ↦ Matches (Scope.Alike R) (act (run text args) s) (act (run text args) s'))
    ?set ?mpc ?manageAliases ?connect ?echo ?help ?redraw ?quit ?search ?searchNext
    ?searchPrevious ?pass found
  case set => exact Builtin.matches_set hR h args
  case mpc => exact Builtin.matches_mpc hR h args
  case manageAliases => exact Builtin.matches_manageAliases hR h args
  case connect => exact Builtin.matches_connect hR h args
  case echo => exact Builtin.matches_change hR h (.info args)
  case help => exact Builtin.matches_change hR h (.output text)
  case redraw => exact Builtin.matches_change hR h .refresh
  case quit => exact Builtin.matches_change hR h .shutdown
  case search => exact Builtin.matches_search hR h args
  case searchNext => exact Builtin.matches_searchMove hR h .next
  case searchPrevious => exact Builtin.matches_searchMove hR h .previous
  case pass => exact fun word ↦ Builtin.matches_pass hR h word args

/-! ## Commands -/

namespace Session

/-- Sessions over the standard catalogue with related consoles, and the same otherwise. -/
structure Alike [Client σ] (R : Console σ → Console σ → Prop) (s s' : Session σ) : Prop where
  standard : s.interpreter.catalogue = .standard σ
  console : R s.console s'.console
  interpreter : s'.interpreter = s.interpreter
  history : s'.history = s.history

variable [Client σ] {R : Console σ → Console σ → Prop} {s s' : Session σ}

theorem Alike.scope (h : s.Alike R s') : s.scope.Alike R s'.scope := by
  refine ⟨h.console, ?_⟩
  rw [Session.scope, h.interpreter]
  rfl

theorem Alike.isConnected (hR : Console.Lockstep R) (h : s.Alike R s') :
    s'.isConnected = s.isConnected :=
  hR.isConnected h.console

theorem Alike.change (hR : Console.Lockstep R) (h : s.Alike R s') (change : Console.Change) :
    (s.mapConsole change.apply).Alike R (s'.mapConsole change.apply) :=
  ⟨h.standard, hR.change change h.console, h.interpreter, h.history⟩

theorem Alike.reportErrors (hR : Console.Lockstep R) (h : s.Alike R s')
    (errors : List CommandError) :
    (s.mapConsole (.reportErrors errors)).Alike R (s'.mapConsole (.reportErrors errors)) := by
  induction errors generalizing s s' with
  | nil => exact h
  | cons e errors ih =>
    rw [mapConsole_reportErrors_cons, mapConsole_reportErrors_cons, Console.reportError_eq]
    exact ih (h.change hR (.error _))

theorem matches_runOperation (hR : Console.Lockstep R) (h : s.Alike R s') {op : Operation σ}
    {c : Command} (found : s.interpreter.catalogue.get? c.name = some op) :
    Matches (Alike R) (s.runOperation op c) (s'.runOperation op c) := by
  rw [h.standard] at found
  obtain ⟨outcome, scope⟩ :=
    matches_standard hR found s.interpreter.catalogue.help c.args h.scope
  rw [Session.scope, Session.scope, h.interpreter] at outcome scope
  rw [runOperation, runOperation, h.interpreter, h.history]
  refine ⟨outcome, h.standard, scope.console, ?_, rfl⟩
  dsimp only
  rw [scope.aliases]

theorem matches_perform (hR : Console.Lockstep R) (h : s.Alike R s') (c : Command) :
    Matches (Alike R) (s.perform c) (s'.perform c) := by
  rw [perform, perform, h.interpreter, h.isConnected hR]
  split
  · exact ⟨rfl, h⟩
  · split
    · exact ⟨rfl, h⟩
    · exact matches_runOperation hR h ‹_›

theorem matches_performAll (hR : Console.Lockstep R) (queue : List QueuedCommand)
    {s s' : Session σ} (h : s.Alike R s') :
    Matches (Alike R) (performAll queue s) (performAll queue s') := by
  induction queue generalizing s s' with
  | nil => exact ⟨rfl, h⟩
  | cons q queue ih =>
    obtain ⟨outcome, after⟩ := matches_perform hR h q.command
    obtain ⟨errors, rest⟩ := ih after
    refine ⟨?_, rest⟩
    rw [performAll, performAll]
    dsimp only
    rw [outcome, errors]

theorem matches_flushConnects (hR : Console.Lockstep R) (h : s.Alike R s') :
    Matches (Alike R) s.flushConnects s'.flushConnects := by
  have emptied : s.withoutQueue.Alike R s'.withoutQueue := by
    refine ⟨h.standard, h.console, ?_, h.history⟩
    rw [withoutQueue, withoutQueue, h.interpreter]
  rw [flushConnects, flushConnects, hR.settings h.console, h.interpreter]
  split
  · exact ⟨rfl, emptied⟩
  · exact matches_performAll hR _ emptied

theorem matches_flush (hR : Console.Lockstep R) (h : s.Alike R s') :
    Matches (Alike R) s.flush s'.flush := by
  obtain ⟨errors, connected⟩ := matches_flushConnects hR h
  have others : s'.others = s.others := by rw [Session.others, h.interpreter, Session.others]
  rw [flush_eq, flush_eq, others, errors, connected.isConnected hR]
  split
  · obtain ⟨more, final⟩ := matches_performAll hR s.others connected
    exact ⟨congrArg (_ ++ ·) more, final⟩
  · refine ⟨rfl, connected.standard, connected.console, ?_, connected.history⟩
    rw [withQueue, withQueue, connected.interpreter]

theorem matches_invoke (hR : Console.Lockstep R) (h : s.Alike R s') (c : Command) :
    Matches (Alike R) (s.invoke c) (s'.invoke c) := by
  obtain ⟨outcome, after⟩ := matches_perform hR h c
  rw [invoke, invoke, h.interpreter]
  split
  · exact ⟨rfl, h⟩
  · split
    · refine ⟨rfl, h.standard, h.console, ?_, h.history⟩
      rw [hold, hold, h.interpreter]
    · generalize s.perform c = r at outcome after
      generalize s'.perform c = r' at outcome after
      obtain ⟨e | _, s₁⟩ := r <;> obtain ⟨e' | _, s₁'⟩ := r' <;> cases outcome
      · exact ⟨rfl, after⟩
      · dsimp only at after ⊢
        rw [after.interpreter]
        split
        · obtain ⟨errors, flushed⟩ := matches_flush hR after
          rw [errors]
          exact ⟨rfl, flushed.reportErrors hR _⟩
        · exact ⟨rfl, after⟩

theorem matches_execute (hR : Console.Lockstep R) (h : s.Alike R s') (c : Command) :
    Matches (Alike R) (s.execute c) (s'.execute c) := by
  rw [execute, execute, h.interpreter]
  split
  · exact ⟨rfl, h⟩
  · split
    · exact ⟨rfl, h⟩
    · exact matches_invoke hR h _

theorem matches_report (hR : Console.Lockstep R) {x x' : Except CommandError Unit × Session σ}
    (h : Matches (Alike R) x x') : Matches (Alike R) (report x) (report x') := by
  obtain ⟨outcome, after⟩ := h
  obtain ⟨e | _, s⟩ := x <;> obtain ⟨e' | _, s'⟩ := x' <;> cases outcome
  · refine ⟨rfl, ?_⟩
    have told := after.change hR (.error ("E: " ++ e.message))
    rw [Console.Change.apply, ← Console.reportError_eq] at told
    exact told
  · exact ⟨rfl, after⟩

end Session

/-! ## The bottom line -/

/-- No operation looks at the bottom line. -/
theorem Console.lockstep_modeLine [Client σ] (line : Option String) :
    Lockstep fun c c' : Console σ ↦ c' = { c with modeLine := line } where
  settings h := by rw [h]
  server h := by rw [h]
  search h := by rw [h]
  isConnected h := by rw [h]
  connect server h := by
    subst h
    exact ⟨rfl, rfl⟩
  run request h := by
    subst h
    exact ⟨rfl, rfl⟩
  announce {s s'} server h := by
    obtain ⟨c, aliases⟩ := s
    obtain ⟨c', aliases'⟩ := s'
    obtain rfl : c' = { c with modeLine := line } := h
    rw [Builtin.announce, Builtin.announce]
    generalize "Connected to " ++ server.host ++ ":" ++ toString server.port.toNat = text
    simp only [Scope.withClient, Scope.mapConsole, info, setServerStatus]
    rcases Client.status c.client with ⟨_ | _, _⟩ <;> dsimp only
  change change h := by
    subst h
    cases change <;>
      simp only [Change.apply, info, error, showOutput, setServerStatus]

namespace Modes

/-- **Nothing looks at the bottom line.**  Executing a command and reporting its outcome comes to
the same whatever is shown there, and goes on being shown. -/
theorem report_execute_showLine [Client σ] {s : Session σ}
    (h : s.interpreter.catalogue = .standard σ) (line : Option String) (c : Command) :
    (Session.report ((showLine line s).execute c)).2 =
      showLine line (Session.report (s.execute c)).2 := by
  have alike : s.Alike (fun c c' ↦ c' = { c with modeLine := line }) (showLine line s) :=
    ⟨h, rfl, rfl, rfl⟩
  have hR := Console.lockstep_modeLine (σ := σ) line
  obtain ⟨-, -, console, interpreter, history⟩ :=
    Session.matches_report hR (Session.matches_execute hR alike c)
  generalize (Session.report ((showLine line s).execute c)).2 = s' at *
  obtain ⟨i', c', h'⟩ := s'
  dsimp only at console interpreter history
  rw [console, interpreter, history]
  rfl

end Modes
end Jukebox
