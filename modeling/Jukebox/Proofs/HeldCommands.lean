import Jukebox.Client.Canned
import Jukebox.Client.Watched
import Jukebox.Proofs.Account

/-!
# The player commands of the startup file

The startup commands that need a player are held back until there is a connection, and the first
connection may come from the startup commands themselves, from bringing the application up, or from
anything the user does later.  Wherever it comes from, the commands held back are then run, in
their order and before any other command for the player, and until then they stay where they are.

* `Watched.StaysOff` says that there was no connection at any moment.
* `Session.Gathering` is the stage of reading the startup commands, and `Session.Settled` the
  invariant once they have been flushed.
* `Settled.kept` is its preservation, `App.settled_startupSession` its beginning, and
  `App.held_commands_wait_or_come_first` the outcome.

What the client does when it connects is left open but for `Client.Steady`.  The client is a watched
one, so that there having been no connection at any moment can be said.
-/

set_option autoImplicit false

namespace Jukebox

/-! ## No connection at any moment -/

/-- There is no connection now, there was none before, and none was seen in between. -/
structure Watched.StaysOff {σ : Type} [Client σ] (w w' : Watched σ) : Prop where
  before : Client.isConnected w = false
  now : Client.isConnected w' = false
  between : ∃ later, w'.moments = w.moments ++ later ∧ true ∉ later

namespace Watched.StaysOff

variable {σ : Type} [Client σ] {w w' w₁ w₂ w₃ : Watched σ}

theorem refl (off : Client.isConnected w = false) : w.StaysOff w :=
  ⟨off, off, [], (List.append_nil _).symm, List.not_mem_nil⟩

theorem trans (h : w₁.StaysOff w₂) (h' : w₂.StaysOff w₃) : w₁.StaysOff w₃ := by
  obtain ⟨later, hl, hnot⟩ := h.between
  obtain ⟨later', hl', hnot'⟩ := h'.between
  refine ⟨h.before, h'.now, later ++ later', ?_, ?_⟩
  · rw [hl', hl, List.append_assoc]
  · rw [List.mem_append]
    exact not_or.2 ⟨hnot, hnot'⟩

/-- A call after which there is no connection. -/
theorem watch {α : Type} (off : Client.isConnected w = false) {answer : α × σ}
    (now : Client.isConnected (w.watch answer).2 = false) : w.StaysOff (w.watch answer).2 := by
  refine ⟨off, now, [false], ?_, by decide⟩
  rw [moments_watch, now]

theorem run (hσ : Client.Steady (Watched σ)) (off : Client.isConnected w = false)
    {request : String} {r : Except ClientError String} (h : Client.run request w = (r, w')) :
    w.StaysOff w' := by
  obtain rfl : _ = w' := congrArg Prod.snd h
  exact watch off ((hσ.run request w).trans off)

theorem connect (hσ : Client.Steady (Watched σ)) (off : Client.isConnected w = false)
    {server : Endpoint} {e : ClientError} (h : Client.connect server w = (.error e, w')) :
    w.StaysOff w' := by
  have now := hσ.unconnected h off
  obtain rfl : _ = w' := congrArg Prod.snd h
  exact watch off now

theorem status (hσ : Client.Steady (Watched σ)) (off : Client.isConnected w = false) :
    w.StaysOff (Client.status w).2 :=
  watch off ((hσ.status w).trans off)

end Watched.StaysOff

/-- Without a connection, an operation either connects or there is none at any moment. -/
theorem Effect.connects_or_staysOff {σ : Type} [Client σ] (hσ : Client.Steady (Watched σ))
    {s s' : Scope (Watched σ)} {kind : OperationKind} {r : Except CommandError Unit}
    (h : Effect s kind (r, s')) (off : Client.isConnected s.console.client = false) :
    (r = .ok () ∧ kind = .connecting ∧ Client.isConnected s'.console.client = true) ∨
      ((r = .ok () → kind ≠ .connecting) ∧ s.console.client.StaysOff s'.console.client) := by
  cases h with
  | refused => exact .inr ⟨nofun, .refl off⟩
  | unasked _ client =>
    rw [client]
    exact .inr ⟨nofun, .refl off⟩
  | answered run _ after =>
    rw [after]
    exact .inr ⟨nofun, .run hσ off run⟩
  | unanswered run => exact .inr ⟨nofun, .run hσ off run⟩
  | connected connect _ after =>
    refine .inl ⟨rfl, rfl, ?_⟩
    rw [after, hσ.status]
    exact hσ.connected connect
  | unconnected connect => exact .inr ⟨nofun, .connect hσ off connect⟩

namespace Session

variable {σ : Type}

/-! ## Reading the startup commands -/

/-- A session that holds back what it is given, with nothing played yet. -/
structure Gathering [Client σ] (s : Session σ) : Prop where
  account : Account true s.interpreter.queue [] s
  fits : ∀ q ∈ s.interpreter.queue, q.Fits (.standard σ)

namespace Gathering

variable [Client σ] {s : Session σ}

theorem of_account {s' : Session σ} (h : Account true s.interpreter.queue [] s')
    (hs : s.Gathering) : s'.Gathering := by
  have hq := h.queue
  refine ⟨?_, ?_⟩
  · rw [hq]
    exact h
  · rw [hq]
    exact hs.fits

theorem kind_eq_standalone (h : s.Gathering) {kind : OperationKind} (free : ¬ s.Holds kind) :
    kind = .standalone := by
  by_contra hne
  exact free ⟨h.account.queueing, hne⟩

/-- What is not held back plays nothing. -/
theorem perform (h : s.Gathering) {c : Command} {op : Operation σ}
    (found : s.interpreter.catalogue.get? c.name = some op) (free : ¬ s.Holds op.kind) :
    (s.perform c).2.Gathering := by
  refine .of_account (h.account.perform_aside (.inr ?_)) h
  rw [h.account.catalogue] at found
  rw [Catalogue.isPlayer_of_get? found, h.kind_eq_standalone free]
  rfl

theorem hold (h : s.Gathering) {c : Command} {op : Operation σ}
    (found : s.interpreter.catalogue.get? c.name = some op) (holds : s.Holds op.kind) :
    (s.hold c op.kind).Gathering := by
  refine ⟨⟨h.account.catalogue, h.account.queueing, rfl, h.account.played⟩, fun q hmem ↦ ?_⟩
  rcases List.mem_append.1 hmem with hmem | hmem
  · exact h.fits q hmem
  · obtain rfl := List.mem_singleton.1 hmem
    rw [h.account.catalogue] at found
    exact ⟨op, found, rfl, holds.2⟩

theorem invoke (h : s.Gathering) (c : Command) : (s.invoke c).2.Gathering := by
  have hv := invoked c s
  generalize s.invoke c = r at hv ⊢
  cases hv with
  | unknown => exact h
  | held found holds => exact h.hold found holds
  | failed found free run =>
    have hp := h.perform found free
    rwa [run] at hp
  | done found free run =>
    have hp := h.perform found free
    rwa [run] at hp
  | flushed found free run kind => cases (h.kind_eq_standalone free).symm.trans kind

theorem execute (h : s.Gathering) (c : Command) : (s.execute c).2.Gathering := by
  have hx := executed c s
  generalize s.execute c = r at hx ⊢
  cases hx with
  | lost => exact h
  | empty => exact h
  | found => exact h.invoke _

theorem executeLines :
    ∀ (lines : List String) {s : Session σ}, s.Gathering → (executeLines lines s).2.Gathering
  | [], _, h => h
  | line :: lines, _, h => executeLines lines (h.execute (.ofLine line))

end Gathering

/-! ## Once the startup commands have been flushed -/

/-- Either there has been no connection at any moment since the client was `w`, and all that was
held back is still in the queue and nothing has been played; or the queue is empty, and what was
held back is the first that has been played. -/
def Settled [Client σ] (w : Watched σ) (held : List QueuedCommand) (s : Session (Watched σ)) :
    Prop :=
  (Account false held [] s ∧ w.StaysOff s.console.client) ∨
    ∃ later, Account false [] (held.map (·.command) ++ later) s

theorem flushConnects_of_player [Client σ] {s : Session σ}
    (h : ∀ q ∈ s.interpreter.queue, q.kind = .player) : s.flushConnects.2 = s.withoutQueue := by
  have none : s.interpreter.queue.filter (·.kind = .connecting) = [] := by
    rw [List.filter_eq_nil_iff]
    intro q hmem
    rw [h q hmem]
    decide
  rw [flushConnects, none]
  split <;> rfl

theorem others_of_player {s : Session σ} (h : ∀ q ∈ s.interpreter.queue, q.kind = .player) :
    s.others = s.interpreter.queue := by
  rw [others, List.filter_eq_self]
  intro q hmem
  rw [h q hmem]
  rfl

namespace Settled

variable [Client σ] {w : Watched σ} {held : List QueuedCommand} {s s' : Session (Watched σ)}

/-- Without a connection, a command either connects or there is none at any moment. -/
theorem connects_or_staysOff (hσ : Client.Steady (Watched σ))
    (hs : s.interpreter.catalogue = .standard (Watched σ)) (off : s.isConnected = false)
    {c : Command} {op : Operation (Watched σ)} {r : Except CommandError Unit}
    (found : s.interpreter.catalogue.get? c.name = some op) (run : s.perform c = (r, s')) :
    (r = .ok () ∧ op.kind = .connecting ∧ s'.isConnected = true) ∨
      ((r = .ok () → op.kind ≠ .connecting) ∧
        s.console.client.StaysOff s'.console.client) := by
  have hp := performed c s
  generalize s.perform c = x at hp run
  cases hp with
  | unknown =>
    cases run
    exact .inr ⟨nofun, .refl off⟩
  | unavailable =>
    cases run
    exact .inr ⟨nofun, .refl off⟩
  | ran found' =>
    cases found.symm.trans found'
    obtain ⟨result, scope, heffect, hrun⟩ := exists_effect hs found
    cases hrun.symm.trans run
    exact heffect.connects_or_staysOff hσ off

/-- Connecting with nothing but player commands in the queue plays them all. -/
theorem flush (hσ : Client.Steady (Watched σ))
    (hheld : ∀ q ∈ held, q.Fits (.standard (Watched σ)) ∧ q.kind = .player)
    (account : Account false held [] s) (on : s.isConnected = true) :
    Account false [] (held.map (·.command)) s.flush.2 := by
  have player : ∀ q ∈ s.interpreter.queue, q.kind = .player := fun q hmem ↦
    (hheld q (account.queue ▸ hmem)).2
  have hf := account.flush_of_connected hσ (fun q hmem ↦ (hheld q hmem).1)
    (by rwa [flushConnects_of_player player])
  rwa [others_of_player player, account.queue, List.nil_append] at hf

/-- An invocation leaves a session without a connection in one of the two stages. -/
theorem invoke_of_staysOff (hσ : Client.Steady (Watched σ))
    (hheld : ∀ q ∈ held, q.Fits (.standard (Watched σ)) ∧ q.kind = .player)
    (account : Account false held [] s) (off : w.StaysOff s.console.client) (c : Command) :
    Settled w held (s.invoke c).2 := by
  have hv := invoked c s
  generalize s.invoke c = r at hv ⊢
  have performed {r : Except CommandError Unit} {s' : Session (Watched σ)}
      (run : s.perform c = (r, s')) : Account false held [] s' := by
    have hp := account.perform_aside (c := c) (.inl off.now)
    rwa [run] at hp
  cases hv with
  | unknown => exact .inl ⟨account, off⟩
  | held _ holds => cases account.queueing.symm.trans holds.1
  | failed found _ run =>
    rcases connects_or_staysOff hσ account.catalogue off.now found run with ⟨hr, -⟩ | ⟨-, still⟩
    · cases hr
    · exact .inl ⟨performed run, off.trans still⟩
  | done found _ run still =>
    rcases connects_or_staysOff hσ account.catalogue off.now found run with
      ⟨-, kind, -⟩ | ⟨-, still⟩
    -- a connection with nothing to flush: nothing was held back
    · have empty : held = [] := by
        rw [← (performed run).queue]
        by_contra hne
        exact still ⟨kind, hne⟩
      subst empty
      exact .inr ⟨[], performed run⟩
    · exact .inl ⟨performed run, off.trans still⟩
  | flushed found _ run kind =>
    rcases connects_or_staysOff hσ account.catalogue off.now found run with
      ⟨-, -, on⟩ | ⟨other, -⟩
    · refine .inr ⟨[], ?_⟩
      rw [List.append_nil]
      exact (flush hσ hheld (performed run) on).aside (sameWork_reportErrors _)
    · exact absurd kind (other rfl)

/-- With the queue empty, an invocation can only add to what has been played. -/
theorem invoke_of_served {played : List Command} (account : Account false [] played s)
    (c : Command) : ∃ later, Account false [] (played ++ later) (s.invoke c).2 := by
  have hv := invoked c s
  generalize s.invoke c = r at hv ⊢
  have performed {r : Except CommandError Unit} {s' : Session (Watched σ)}
      (run : s.perform c = (r, s')) : ∃ later, Account false [] (played ++ later) s' := by
    have hp := account.perform c
    rw [run] at hp
    exact ⟨_, hp⟩
  cases hv with
  | unknown =>
    refine ⟨[], ?_⟩
    rwa [List.append_nil]
  | held _ holds => cases account.queueing.symm.trans holds.1
  | failed _ _ run => exact performed run
  | done _ _ run => exact performed run
  | flushed _ _ run _ waiting =>
    obtain ⟨later, hp⟩ := performed run
    exact absurd hp.queue waiting

theorem invoke (hσ : Client.Steady (Watched σ))
    (hheld : ∀ q ∈ held, q.Fits (.standard (Watched σ)) ∧ q.kind = .player)
    (h : Settled w held s) (c : Command) : Settled w held (s.invoke c).2 := by
  rcases h with ⟨account, off⟩ | ⟨later, account⟩
  · exact invoke_of_staysOff hσ hheld account off c
  · obtain ⟨more, account⟩ := invoke_of_served account c
    rw [List.append_assoc] at account
    exact .inr ⟨later ++ more, account⟩

/-- **What is settled stays settled.** -/
theorem kept (hσ : Client.Steady (Watched σ))
    (hheld : ∀ q ∈ held, q.Fits (.standard (Watched σ)) ∧ q.kind = .player) :
    Kept (Settled w held) where
  execute {s} c h := by
    have hx := executed c s
    generalize s.execute c = r at hx ⊢
    cases hx with
    | lost => exact h
    | empty => exact h
    | found => exact h.invoke hσ hheld _
  status {s} h := by
    rcases h with ⟨account, off⟩ | ⟨later, account⟩
    · refine .inl ⟨⟨account.catalogue, account.queueing, account.queue, account.played⟩, ?_⟩
      exact off.trans (.status hσ off.now)
    · exact .inr ⟨later, account.catalogue, account.queueing, account.queue, account.played⟩
  aside {s s'} hs h := by
    rcases h with ⟨account, off⟩ | ⟨later, account⟩
    · refine .inl ⟨account.aside hs, ?_⟩
      rwa [hs.client]
    · exact .inr ⟨later, account.aside hs⟩

end Settled
end Session

/-! ## The application -/

namespace App

variable {σ : Type} [Client σ]

/-- The session when the startup commands have been read, and those that need the server are all
held back. -/
def startupRead (config : Config) (launch : Launch) (files : FileReader) (client : σ) :
    Session σ :=
  (Session.executeLines (startupLines config launch files)
    ((initialSession config launch client).setQueueing true)).2

/-- The player commands that the startup commands come to, in the order of their arrival. -/
def heldAtStartup (config : Config) (launch : Launch) (files : FileReader) (client : σ) :
    List QueuedCommand :=
  (startupRead config launch files client).interpreter.queue.filter (·.kind = .player)

theorem startupSession_eq (config : Config) (launch : Launch) (files : FileReader) (client : σ) :
    startupSession config launch files client = (startupRead config launch files client).flush.2 :=
  rfl

variable (config : Config) (launch : Launch) (files : FileReader)

theorem gathering_startupRead (client : σ) :
    (startupRead config launch files client).Gathering :=
  Session.Gathering.executeLines _ ⟨⟨rfl, rfl, rfl, rfl⟩, nofun⟩

theorem others_startupRead (client : σ) :
    (startupRead config launch files client).others = heldAtStartup config launch files client := by
  refine List.filter_congr fun q hmem ↦ ?_
  have fits := (gathering_startupRead config launch files client).fits q hmem
  cases hk : q.kind with
  | standalone => cases (fits.kind_eq_player (by rw [hk]; decide)).symm.trans hk
  | connecting => rfl
  | player => rfl

theorem fits_heldAtStartup (client : σ) {q : QueuedCommand}
    (hmem : q ∈ heldAtStartup config launch files client) :
    q.Fits (.standard σ) ∧ q.kind = .player := by
  obtain ⟨hmem, hk⟩ := List.mem_filter.1 hmem
  exact ⟨(gathering_startupRead config launch files client).fits q hmem, of_decide_eq_true hk⟩

/-- Once the startup commands have been flushed, the session is settled. -/
theorem settled_startupSession (hσ : Client.Steady (Watched σ)) (client : Watched σ) :
    (startupSession config launch files client).Settled
      (startupSession config launch files client).console.client
      (heldAtStartup config launch files client) := by
  obtain ⟨account, fits⟩ := gathering_startupRead config launch files client
  rw [← others_startupRead, startupSession_eq]
  cases on : (startupRead config launch files client).flushConnects.2.isConnected with
  | true =>
    refine .inr ⟨[], ?_⟩
    rw [List.append_nil]
    exact account.flush_of_connected hσ fits on
  | false =>
    refine .inl ⟨account.flush_of_disconnected fits on, .refl ?_⟩
    rw [Session.flush_of_disconnected on]
    exact on

/-- **Player commands of the startup file wait for a connection, and then come first.**  At any
time after the application has come up, one of two things is the case.  Either there has been no
connection at any moment since the startup commands were flushed, the queue holds the player
commands among them just as they arrived, and nothing has been played.  Or the queue is empty, and
they are the first commands to have been played, each of them once and in their order. -/
theorem held_commands_wait_or_come_first (hσ : Client.Steady σ) (client : Watched σ)
    (events : List Event) :
    let held := heldAtStartup config launch files client
    let flushed := startupSession config launch files client
    let s := ((start config launch files client).run events).session
    ((s.isConnected = false ∧ flushed.console.client.StaysOff s.console.client ∧
        s.interpreter.queue = held ∧ s.played = []) ∨
      (s.interpreter.queue = [] ∧ held.map (·.command) <+: s.played)) ∧
    (s.isConnected = true → s.interpreter.queue = []) := by
  intro held flushed s
  have kept : Session.Kept (Session.Settled flushed.console.client held) :=
    Session.Settled.kept (Watched.steady hσ) fun q ↦ fits_heldAtStartup config launch files client
  have settled : s.Settled flushed.console.client held :=
    keeps_run kept handlers_startWith events
      (keeps_startWith kept
        (settled_startupSession config launch files (Watched.steady hσ) client))
  rcases settled with ⟨account, off⟩ | ⟨later, account⟩
  · refine ⟨.inl ⟨off.now, off, account.queue, account.played⟩, fun on ↦ ?_⟩
    cases off.now.symm.trans on
  · exact ⟨.inr ⟨account.queue, later, account.played.symm⟩, fun _ ↦ account.queue⟩

/-- The player named by the configuration does not answer, and the user connects to another. -/
theorem held_commands_come_first_in_the_attic :
    let config : Config := ⟨.default, Config.WrittenKeys.filled {}, some "startup", none, none⟩
    let files : FileReader := fun _ ↦ some "pause\nalias p play 3\np".toUTF8
    let client : Watched Canned := ⟨⟨["attic"], false⟩, []⟩
    let typed := ":connect attic".toList.map fun c ↦ Event.key (.plain (.char c))
    let s := ((start config {} files client).run (typed ++ [.key (.plain .enter)])).session
    Client.Steady Canned ∧ s.interpreter.queue = [] ∧
      [⟨"pause", ""⟩, ⟨"play", "3"⟩] <+: s.played := by
  intro config files client typed
  have on : ((start config {} files client).run
      (typed ++ [.key (.plain .enter)])).session.isConnected = true := by decide +kernel
  have held : (heldAtStartup config {} files client).map (·.command) =
      [⟨"pause", ""⟩, ⟨"play", "3"⟩] := by decide +kernel
  have law := held_commands_wait_or_come_first config {} files Canned.steady client
    (typed ++ [.key (.plain .enter)])
  dsimp only at law
  rw [held] at law
  generalize ((start config {} files client).run (typed ++ [.key (.plain .enter)])).session = s
    at law on ⊢
  rcases law with ⟨⟨off, -⟩ | ⟨queue, played⟩, -⟩
  · cases off.symm.trans on
  · exact ⟨Canned.steady, queue, played⟩

end App
end Jukebox
