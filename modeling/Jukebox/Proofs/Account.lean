import Jukebox.Proofs.Dispatch

/-!
# Accounts of what is held back and what has been played

A command that needs a player is played, held back, or refused for want of a connection, and never
more than one of them.  An account says what a session holds back and what it has played, and each
step of executing commands has an entry in it.

* `Session.played` is the player commands among those that have been run.
* `Session.Account` is an account of a session.
* `Account.perform` is the entry for one command, `Account.performAll` that for several of them, and
  `Account.flush_of_connected` and `Account.flush_of_disconnected` are those for a flush.
-/

set_option autoImplicit false

namespace Jukebox

variable {σ : Type}

/-- An operation that does not connect leaves the connection alone. -/
theorem Effect.isConnected_eq [Client σ] (hσ : Client.Steady σ) {s s' : Scope σ}
    {kind : OperationKind} {r : Except CommandError Unit} (h : Effect s kind (r, s'))
    (hk : kind ≠ .connecting) :
    Client.isConnected s'.console.client = Client.isConnected s.console.client := by
  cases h with
  | refused => rfl
  | unasked _ client => rw [client]
  | answered run _ after =>
    rw [after, ← hσ.run _ s.console.client, run]
  | unanswered run =>
    rw [← hσ.run _ s.console.client, run]
    rfl
  | connected => exact absurd rfl hk
  | unconnected => exact absurd rfl hk

/-! ## What has been played -/

/-- Whether a name is that of an operation that needs a player. -/
def Catalogue.isPlayer (c : Catalogue σ) (name : String) : Bool :=
  (c.get? name).any (·.kind = .player)

theorem Catalogue.isPlayer_of_get? {c : Catalogue σ} {name : String} {op : Operation σ}
    (found : c.get? name = some op) : c.isPlayer name = decide (op.kind = .player) := by
  rw [isPlayer, found, Option.any_some]

/-- A command held back under its proper kind. -/
def QueuedCommand.Fits (q : QueuedCommand) (c : Catalogue σ) : Prop :=
  ∃ op, c.get? q.command.name = some op ∧ op.kind = q.kind ∧ op.kind ≠ .standalone

namespace QueuedCommand.Fits

variable {c : Catalogue σ} {q : QueuedCommand}

theorem isPlayer (h : q.Fits c) : c.isPlayer q.command.name = decide (q.kind = .player) := by
  obtain ⟨op, found, kind, -⟩ := h
  rw [Catalogue.isPlayer_of_get? found, kind]

theorem kind_eq_player (h : q.Fits c) (hk : q.kind ≠ .connecting) : q.kind = .player := by
  obtain ⟨op, -, kind, hne⟩ := h
  rw [kind] at hne
  cases h : q.kind with
  | standalone => exact absurd h hne
  | connecting => exact absurd h hk
  | player => rfl

end QueuedCommand.Fits

namespace Session

/-- The commands for the player that have been run, the first one first. -/
def played (s : Session σ) : List Command :=
  s.history.filter fun c ↦ s.interpreter.catalogue.isPlayer c.name

theorem played_runOperation {s : Session σ} {c : Command} {op : Operation σ}
    (found : s.interpreter.catalogue.get? c.name = some op) :
    (s.runOperation op c).2.played =
      if op.kind = .player then s.played ++ [c] else s.played := by
  have hp := Catalogue.isPlayer_of_get? found
  show (s.history ++ [c]).filter (fun c ↦ s.interpreter.catalogue.isPlayer c.name) = _
  rw [List.filter_append]
  split
  · rename_i hk
    rw [List.filter_cons_of_pos (by rw [hp, hk]; rfl)]
    rfl
  · rename_i hk
    rw [List.filter_cons_of_neg (by rw [hp]; simpa using hk)]
    exact List.append_nil _

/-- The account of a session over the standard catalogue: whether commands are held back, which
ones are, and what has been played. -/
structure Account [Client σ] (queueing : Bool) (queue : List QueuedCommand) (played : List Command)
    (s : Session σ) : Prop where
  catalogue : s.interpreter.catalogue = .standard σ
  queueing : s.interpreter.queueing = queueing
  queue : s.interpreter.queue = queue
  played : s.played = played

namespace Account

variable [Client σ] {queueing : Bool} {queue held : List QueuedCommand} {played : List Command}
  {s s' : Session σ} {c : Command}

/-- Performing a command plays it if it needs a player and there is a connection. -/
theorem perform (h : Account queueing queue played s) (c : Command) :
    Account queueing queue
      (played ++ if s.isConnected && (Catalogue.standard σ).isPlayer c.name then [c] else [])
      (s.perform c).2 := by
  rw [← h.catalogue]
  have hp := performed c s
  generalize s.perform c = r at hp ⊢
  cases hp with
  | unknown found =>
    rw [Catalogue.isPlayer, found, Option.any_none, Bool.and_false]
    exact ⟨h.catalogue, h.queueing, h.queue, h.played.trans (List.append_nil _).symm⟩
  | unavailable _ _ off =>
    rw [off, Bool.false_and]
    exact ⟨h.catalogue, h.queueing, h.queue, h.played.trans (List.append_nil _).symm⟩
  | ran found ready =>
    refine ⟨h.catalogue, h.queueing, h.queue, ?_⟩
    rw [played_runOperation found, Catalogue.isPlayer_of_get? found, h.played]
    split
    · rename_i hk
      rw [ready hk, hk]
      rfl
    · rename_i hk
      rw [decide_eq_false hk, Bool.and_false]
      exact (List.append_nil _).symm

/-- Without a connection, or if it needs no player, performing a command plays nothing. -/
theorem perform_aside (h : Account queueing queue played s)
    (hc : s.isConnected = false ∨ (Catalogue.standard σ).isPlayer c.name = false) :
    Account queueing queue played (s.perform c).2 := by
  have hp := h.perform c
  rw [if_neg (by rcases hc with hc | hc <;> simp [hc]), List.append_nil] at hp
  exact hp

theorem performAll_aside (h : Account queueing queue played s)
    (hq : ∀ q ∈ held, (Catalogue.standard σ).isPlayer q.command.name = false) :
    Account queueing queue played (performAll held s).2 := by
  induction held generalizing s with
  | nil => exact h
  | cons q held ih =>
    refine ih (h.perform_aside (.inr (hq q List.mem_cons_self))) fun q' hq' ↦ ?_
    exact hq q' (List.mem_cons_of_mem _ hq')

/-- Performing a command that needs a player neither makes nor loses the connection. -/
theorem isConnected_perform (hσ : Client.Steady σ) (h : Account queueing queue played s)
    (hc : (Catalogue.standard σ).isPlayer c.name = true) :
    (s.perform c).2.isConnected = s.isConnected := by
  have hp := performed c s
  generalize s.perform c = r at hp ⊢
  cases hp with
  | unknown => rfl
  | unavailable => rfl
  | ran found =>
    obtain ⟨result, scope, heffect, hrun⟩ := exists_effect h.catalogue found
    rw [hrun]
    refine heffect.isConnected_eq hσ ?_
    rw [h.catalogue] at found
    rw [Catalogue.isPlayer_of_get? found] at hc
    rw [of_decide_eq_true hc]
    decide

/-- Once there is a connection, commands for the player are all played. -/
theorem performAll (hσ : Client.Steady σ) (h : Account queueing queue played s)
    (on : s.isConnected = true)
    (hq : ∀ q ∈ held, (Catalogue.standard σ).isPlayer q.command.name = true) :
    Account queueing queue (played ++ held.map (·.command)) (performAll held s).2 := by
  induction held generalizing played s with
  | nil => rwa [List.map_nil, List.append_nil]
  | cons q held ih =>
    have player := hq q List.mem_cons_self
    have hp := h.perform q.command
    rw [on, player] at hp
    rw [List.map_cons, List.append_cons]
    refine ih hp ((h.isConnected_perform hσ player).trans on) fun q' hq' ↦ ?_
    exact hq q' (List.mem_cons_of_mem _ hq')

/-! ### Flushing -/

/-- The connects of a flush play nothing. -/
theorem flushConnects (h : Account queueing queue played s)
    (hq : ∀ q ∈ queue, q.Fits (.standard σ)) : Account false [] played s.flushConnects.2 := by
  have taken : Account false [] played s.withoutQueue := ⟨h.catalogue, rfl, rfl, h.played⟩
  rw [Session.flushConnects]
  split
  · exact taken
  · refine taken.performAll_aside fun q hmem ↦ ?_
    obtain ⟨hmem, hk⟩ := List.mem_filter.1 hmem
    rw [h.queue] at hmem
    rw [(hq q hmem).isPlayer, of_decide_eq_true hk]
    rfl

/-- What a flush comes to after its connects needs a player. -/
theorem kind_of_mem_others (h : Account queueing queue played s)
    (hq : ∀ q ∈ queue, q.Fits (.standard σ)) {q : QueuedCommand} (hmem : q ∈ s.others) :
    q.Fits (.standard σ) ∧ q.kind = .player := by
  obtain ⟨hmem, hk⟩ := List.mem_filter.1 hmem
  rw [h.queue] at hmem
  exact ⟨hq q hmem, (hq q hmem).kind_eq_player (by simpa using hk)⟩

/-- With a connection, a flush plays what was held back and leaves nothing. -/
theorem flush_of_connected (hσ : Client.Steady σ) (h : Account queueing queue played s)
    (hq : ∀ q ∈ queue, q.Fits (.standard σ)) (on : s.flushConnects.2.isConnected = true) :
    Account false [] (played ++ s.others.map (·.command)) s.flush.2 := by
  rw [Session.flush_of_connected on]
  refine (h.flushConnects hq).performAll hσ on fun q hmem ↦ ?_
  obtain ⟨fits, player⟩ := h.kind_of_mem_others hq hmem
  rw [fits.isPlayer, player]
  rfl

/-- Without one, it plays nothing and keeps all that needs a player. -/
theorem flush_of_disconnected (h : Account queueing queue played s)
    (hq : ∀ q ∈ queue, q.Fits (.standard σ)) (off : s.flushConnects.2.isConnected = false) :
    Account false s.others played s.flush.2 := by
  rw [Session.flush_of_disconnected off]
  have hc := h.flushConnects hq
  exact ⟨hc.catalogue, hc.queueing, rfl, hc.played⟩

/-- The account is not touched by what commands do not work on. -/
theorem aside (h : Account queueing queue played s) (hs : s.SameWork s') :
    Account queueing queue played s' := by
  have hi := hs.interpreter
  refine ⟨?_, ?_, ?_, ?_⟩
  · rw [hi]
    exact h.catalogue
  · rw [hi]
    exact h.queueing
  · rw [hi]
    exact h.queue
  · rw [Session.played, hs.history, hi]
    exact h.played

end Account

end Session
end Jukebox
