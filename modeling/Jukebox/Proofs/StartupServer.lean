import Jukebox.Client.Traced
import Jukebox.Proofs.AliasChain
import Jukebox.Proofs.HeldCommands
import Jukebox.Proofs.TwoPhases
import Jukebox.Proofs.Words

/-!
# The servers asked for at startup

Three things can make the application ask for a server while it comes up: the connecting commands of
the startup file, the server of the configuration, for which it falls back on a command that it
writes itself, and the server of the command line, which is put in place of the configuration's.
This file says which of them reach the client.

* `Traced.servers` are the servers that a client has been asked to connect to, and
  `Session.servers_perform` and its like say what each step of executing adds to them.
* `Endpoint.reread?` is what becomes of an address that is written and read again: it comes out as
  it was only if its host is a word.
* `App.servers_startWith` is what is asked for after the startup commands.
* `App.fallback_connect` and `App.named_server_wins` are the outcome.
-/

set_option autoImplicit false

namespace Jukebox

open CommandM

variable {σ : Type}

/-! ## Addresses -/

/-- What `connect` makes of the address of a server when it is written behind it, the host before
the port.  The host is taken for as many words as there are in it. -/
def Endpoint.reread? (server : Endpoint) : Option Endpoint :=
  match Text.words server.host with
  | [] => some ⟨toString server.port.toNat, defaultPort⟩
  | [host] => some ⟨host, server.port⟩
  | _ => none

theorem Builtin.endpoint?_written (configured server : Endpoint) :
    endpoint? configured (server.host ++ " " ++ toString server.port.toNat) = server.reread? := by
  rw [endpoint?, Text.words_append_space, Text.words_of_isWord (Text.isWord_numeral _),
    Endpoint.reread?]
  rcases Text.words server.host with _ | ⟨host, _ | ⟨word, words⟩⟩
  · rfl
  · show (Text.uint16? (toString server.port.toNat)).map _ = _
    rw [Text.uint16?_numeral]
    rfl
  · cases words <;> rfl

/-- An address is read as it was written exactly if its host is a word. -/
theorem Endpoint.reread?_eq_some_self_iff (server : Endpoint) :
    server.reread? = some server ↔ Text.IsWord server.host := by
  obtain ⟨host, port⟩ := server
  rw [reread?]
  constructor
  · intro h
    split at h
    · obtain ⟨same, -⟩ := Endpoint.mk.inj (Option.some.inj h)
      exact same ▸ Text.isWord_numeral _
    · rename_i word hw
      obtain ⟨rfl, -⟩ := Endpoint.mk.inj (Option.some.inj h)
      exact Text.words_eq_singleton_iff.1 hw
    · cases h
  · intro h
    rw [Text.words_of_isWord h]

/-! ## The servers that a client is asked for -/

namespace Traced

/-- The servers that the client has been asked to connect to, the first one first. -/
def servers (t : Traced σ) : List Endpoint :=
  t.calls.filterMap fun
    | .connect server => some server
    | .run _ | .status => none

variable [Client σ] (t : Traced σ)

theorem servers_connect (server : Endpoint) :
    (Client.connect server t).2.servers = t.servers ++ [server] :=
  List.filterMap_append

theorem servers_run (request : String) : (Client.run request t).2.servers = t.servers :=
  List.filterMap_append.trans (List.append_nil _)

theorem servers_status : (Client.status t).2.servers = t.servers :=
  List.filterMap_append.trans (List.append_nil _)

end Traced

/-! ## Operations -/

variable [Client σ]

theorem Catalogue.get?_connect :
    (standard σ).get? "connect" =
      some ⟨"connect", "Connect to a server: connect [host] [port]", .connecting,
        fun _ => Builtin.connect⟩ :=
  get?_standard_eq_some_iff.2 ⟨by simp [builtins], rfl⟩

/-- There is no other operation that connects. -/
theorem Catalogue.kind_eq_connecting_iff {op : Operation σ} {name : String}
    (found : (standard σ).get? name = some op) : op.kind = .connecting ↔ name = "connect" := by
  constructor
  · intro kind
    obtain ⟨hop, rfl⟩ := get?_standard_eq_some_iff.1 found
    rcases List.mem_append.1 hop with hop | hop
    · simp only [builtins, List.mem_cons, List.not_mem_nil, or_false] at hop
      rcases hop with rfl | rfl | rfl | rfl | rfl | rfl | rfl | rfl | rfl | rfl | rfl | rfl <;>
        first | rfl | cases kind
    · obtain ⟨⟨name, word, description⟩, -, rfl⟩ := List.mem_map.1 hop
      cases kind
  · rintro rfl
    rw [get?_connect] at found
    cases found
    rfl

/-- Only an operation that connects asks for a server. -/
theorem Effect.servers_eq {s s' : Scope (Traced σ)} {kind : OperationKind}
    {result : Except CommandError Unit} (h : Effect s kind (result, s'))
    (hk : kind ≠ .connecting) : s'.console.client.servers = s.console.client.servers := by
  cases h with
  | refused => rfl
  | unasked _ client => rw [client]
  | @answered request _ _ _ run _ after =>
    have asked := Traced.servers_run s.console.client request
    rwa [run, ← after] at asked
  | @unanswered request _ _ run =>
    have asked := Traced.servers_run s.console.client request
    rwa [run] at asked
  | connected => exact absurd rfl hk
  | unconnected => exact absurd rfl hk

theorem Builtin.servers_connect (args : String) (s : Scope (Traced σ)) :
    (act (connect args) s).2.console.client.servers =
      s.console.client.servers ++ (endpoint? s.console.server args).toList := by
  rw [act_connect]
  cases endpoint? s.console.server args with
  | none => exact (List.append_nil _).symm
  | some server =>
    have asked := Traced.servers_connect s.console.client server
    dsimp only
    rcases hc : Client.connect server s.console.client with ⟨e | _, client⟩ <;> rw [hc] at asked
    · exact asked
    · rw [(announce_spec (s.withClient client) server).2, Traced.servers_status]
      exact asked

/-! ## Commands -/

namespace Session

variable {s : Session (Traced σ)} {c : Command} {queue : List QueuedCommand}

/-- The servers that a command asks for when it is performed. -/
def asks (c : Command) (s : Session (Traced σ)) : List Endpoint :=
  if c.name = "connect" then (Builtin.endpoint? s.console.server c.args).toList else []

theorem servers_perform (hs : s.interpreter.catalogue = .standard (Traced σ)) (c : Command) :
    (s.perform c).2.console.client.servers = s.console.client.servers ++ s.asks c := by
  have idle (hc : c.name ≠ "connect") : s.console.client.servers ++ s.asks c =
      s.console.client.servers := by
    rw [asks, if_neg hc, List.append_nil]
  have hp := performed c s
  generalize s.perform c = r at hp ⊢
  cases hp with
  | unknown found =>
    refine (idle fun hc ↦ ?_).symm
    rw [hs, hc, Catalogue.get?_connect] at found
    cases found
  | unavailable found player =>
    refine (idle fun hc ↦ ?_).symm
    rw [hs] at found
    cases player.symm.trans ((Catalogue.kind_eq_connecting_iff found).2 hc)
  | @ran op found =>
    by_cases hc : c.name = "connect"
    · rw [hs, hc, Catalogue.get?_connect] at found
      cases found
      rw [asks, if_pos hc]
      exact Builtin.servers_connect c.args s.scope
    · obtain ⟨result, scope, effect, run⟩ := exists_effect hs found
      rw [hs] at found
      rw [idle hc, run]
      exact effect.servers_eq fun hk ↦ hc ((Catalogue.kind_eq_connecting_iff found).1 hk)

/-- What is held back for the player asks for no server. -/
theorem servers_performAll (hs : s.interpreter.catalogue = .standard (Traced σ))
    (fits : ∀ q ∈ queue, q.Fits (.standard (Traced σ)))
    (players : ∀ q ∈ queue, q.kind ≠ .connecting) :
    (performAll queue s).2.console.client.servers = s.console.client.servers := by
  induction queue generalizing s with
  | nil => rfl
  | cons q queue ih =>
    obtain ⟨op, found, kind, -⟩ := fits q List.mem_cons_self
    have other : q.command.name ≠ "connect" := fun hc ↦ by
      have hk := (Catalogue.kind_eq_connecting_iff found).2 hc
      exact players q List.mem_cons_self (kind.symm.trans hk)
    have first := servers_perform hs q.command
    rw [asks, if_neg other, List.append_nil] at first
    have hs' : (s.perform q.command).2.interpreter.catalogue = .standard (Traced σ) := by
      rw [interpreter_perform]
      exact hs
    exact (ih hs' (fun q' hq ↦ fits q' (List.mem_cons_of_mem _ hq))
      fun q' hq ↦ players q' (List.mem_cons_of_mem _ hq)).trans first

/-- A flush asks for no server if it skips the connecting commands, or finds none. -/
theorem servers_flush (hs : s.interpreter.Sound (.standard (Traced σ)))
    (h : s.console.settings.skipconfigconnects = true ∨
      ∀ q ∈ s.interpreter.queue, q.kind ≠ .connecting) :
    s.flush.2.console.client.servers = s.console.client.servers := by
  have connects : s.flushConnects.2.console.client.servers = s.console.client.servers := by
    rw [flushConnects]
    split
    · rfl
    · rename_i skip
      have players := h.resolve_left skip
      rw [List.filter_eq_nil_iff.2 fun q hq ↦ by simpa using players q hq]
      rfl
  rw [flush_eq]
  split
  · refine (servers_performAll ?_ (fun q hq ↦ hs.fits q (List.mem_filter.1 hq).1)
      fun q hq ↦ ?_).trans connects
    · rw [interpreter_flushConnects]
      exact hs.catalogue
    · simpa using (List.mem_filter.1 hq).2
  · exact connects

/-- With nothing held back but commands for the player, a command asks for what it asks for. -/
theorem servers_invoke (hs : s.interpreter.Sound (.standard (Traced σ)))
    (free : s.interpreter.queueing = false)
    (players : ∀ q ∈ s.interpreter.queue, q.kind ≠ .connecting) (c : Command) :
    (s.invoke c).2.console.client.servers = s.console.client.servers ++ s.asks c := by
  have asked := servers_perform hs.catalogue c
  have sound := sound_perform hs c
  have hi := interpreter_perform c s
  have hv := invoked c s
  generalize s.invoke c = r at hv ⊢
  cases hv with
  | unknown found =>
    rw [perform, found] at asked
    exact asked
  | held _ holds => cases free.symm.trans holds.1
  | failed _ _ run =>
    rw [run] at asked
    exact asked
  | done _ _ run =>
    rw [run] at asked
    exact asked
  | flushed _ _ run =>
    rw [run] at asked sound hi
    have flushed := servers_flush sound (.inr (by rw [hi]; exact players))
    rw [← asked, ← flushed]
    exact congrArg Traced.servers (Console.client_reportErrors _ _)

/-- A command that connects asks for its server, unless its name is an alias: what that leads to is
another command. -/
theorem servers_execute_connect (hs : s.interpreter.Sound (.standard (Traced σ)))
    (free : s.interpreter.queueing = false)
    (players : ∀ q ∈ s.interpreter.queue, q.kind ≠ .connecting) (args : String) :
    (s.execute ⟨"connect", args⟩).2.console.client.servers = s.console.client.servers ++
      if "connect" ∈ s.interpreter.aliases then []
      else (Builtin.endpoint? s.console.server args).toList := by
  by_cases shadowed : "connect" ∈ s.interpreter.aliases
  · rw [if_pos shadowed, List.append_nil]
    have hx := executed ⟨"connect", args⟩ s
    generalize s.execute ⟨"connect", args⟩ = r at hx ⊢
    cases hx with
    | lost => rfl
    | empty => rfl
    | @found d resolve =>
      obtain ⟨k, -, leads⟩ := AliasTable.resolve_eq_ok_iff.1 resolve
      have asked := servers_invoke hs free players d
      rwa [asks, if_neg fun hd : d.name = _ ↦ leads.ends (hd ▸ shadowed), List.append_nil] at asked
  · have plain : s.interpreter.aliases.resolve ⟨"connect", args⟩ = .ok ⟨"connect", args⟩ :=
      AliasTable.resolve_eq_ok_iff.2 ⟨0, Nat.zero_le _, rfl, shadowed⟩
    have asked := servers_invoke hs free players ⟨"connect", args⟩
    rw [asks, if_pos rfl] at asked
    rw [execute, plain, if_neg shadowed]
    exact asked

/-! ## Reading the startup commands -/

theorem servers_reads {line : String} {o : Outcome} {s' : Session (Traced σ)}
    (h : Reads line s o s') (hs : s.interpreter.catalogue = .standard (Traced σ)) :
    s'.console.client.servers = s.console.client.servers := by
  cases h with
  | lost => rfl
  | empty => rfl
  | unknown => rfl
  | ran _ _ found kind =>
    obtain ⟨result, scope, effect, run⟩ := exists_effect hs found
    rw [run]
    exact effect.servers_eq (by rw [kind]; decide)
  | held => rfl

/-- While lines are read, no server is asked for. -/
theorem servers_inTurn_reads {lines : List String} {o : Outcome} {s' : Session (Traced σ)}
    (h : InTurn Reads lines s o s') (hs : s.interpreter.catalogue = .standard (Traced σ)) :
    s'.console.client.servers = s.console.client.servers := by
  induction h with
  | nil => rfl
  | cons first _ ih =>
    exact (ih (first.books.catalogue.trans hs)).trans (servers_reads first hs)

end Session

/-! ## Starting up -/

namespace App

variable (keymap : Keymap) (config : Config) (launch : Launch) (files : FileReader)
  (client : Traced σ)

theorem sound_startupRead (client : σ) :
    (startupRead config launch files client).interpreter.Sound (.standard σ) :=
  Session.sound_executeLines _ ⟨rfl, nofun⟩

theorem servers_startupRead :
    (startupRead config launch files client).console.client.servers = client.servers := by
  obtain ⟨o, reading, -⟩ := Session.reads_executeLines
    (s := (initialSession config launch client).setQueueing true) rfl
    (startupLines config launch files)
  exact Session.servers_inTurn_reads reading rfl

/-- When the startup commands have been flushed, nothing is held back any more but commands for the
player. -/
theorem released_startupSession (client : σ) :
    (startupSession config launch files client).interpreter.queueing = false ∧
      ∀ q ∈ (startupSession config launch files client).interpreter.queue,
        q.kind ≠ .connecting := by
  obtain ⟨connected, first, second, releases, -⟩ :=
    Session.releases_flush (sound_startupRead config launch files client)
  refine ⟨releases.released, fun q hq ↦ ?_⟩
  rw [startupSession_eq, releases.left] at hq
  split at hq
  · cases hq
  · simpa using (List.mem_filter.1 hq).2

theorem client_showStartupErrors (errors : List CommandError) (s : Session σ) :
    (showStartupErrors errors s).console.client = s.console.client := by
  have reported := Console.client_reportErrors errors s.console
  rw [showStartupErrors]
  split
  · exact reported
  · exact (Console.client_error _ _).trans reported

/-- Without a connection the server is asked for, as far as its address can be read. -/
theorem servers_connectIfNeeded {s : Session (Traced σ)}
    (hs : s.interpreter.Sound (.standard (Traced σ))) (free : s.interpreter.queueing = false)
    (players : ∀ q ∈ s.interpreter.queue, q.kind ≠ .connecting) (server : Endpoint) :
    (connectIfNeeded server s).console.client.servers = s.console.client.servers ++
      if s.isConnected ∨ "connect" ∈ s.interpreter.aliases then [] else server.reread?.toList := by
  rw [connectIfNeeded]
  cases on : s.isConnected with
  | true => simp
  | false =>
    have asked := Session.servers_execute_connect hs free players
      (server.host ++ " " ++ toString server.port.toNat)
    rw [Builtin.endpoint?_written] at asked
    simpa using asked

/-- After the startup commands, only the server of the configuration is asked for, and only if there
is no connection. -/
theorem servers_startWith :
    (startWith keymap config launch files client).session.console.client.servers =
      (startupSession config launch files client).console.client.servers ++
        if (startupSession config launch files client).isConnected ∨
          "connect" ∈ (startupSession config launch files client).interpreter.aliases then []
        else (launch.server config.server).reread?.toList := by
  obtain ⟨free, players⟩ := released_startupSession config launch files client
  have sound := Session.sound_flush (sound_startupRead config launch files client)
  rw [← startupSession_eq] at sound
  rw [startWith_session]
  show Traced.servers (showStartupErrors _ _).console.client = _
  rw [client_showStartupErrors]
  exact servers_connectIfNeeded (s := setSkipConnects false
    (startupSession config launch files client)) sound free players (launch.server config.server)

/-- **Without a connection, the server asked for is the one whose address was written**: that of the
command line and the configuration if its host is a word.  A blank host is lost and the port taken
for it, and of a host of several words nothing is made. -/
theorem fallback_connect
    (off : (startupSession config launch files client).isConnected = false)
    (plain : "connect" ∉ (startupSession config launch files client).interpreter.aliases) :
    let server := launch.server config.server
    let further : List Endpoint :=
      match Text.words server.host with
      | [] => [⟨toString server.port.toNat, Endpoint.defaultPort⟩]
      | [host] => [⟨host, server.port⟩]
      | _ => []
    (startWith keymap config launch files client).session.console.client.servers =
        (startupSession config launch files client).console.client.servers ++ further ∧
      (further = [server] ↔ Text.IsWord server.host) := by
  intro server further
  have written : further = server.reread?.toList := by
    rw [Endpoint.reread?]
    dsimp only [further]
    split <;> rfl
  have asked := servers_startWith keymap config launch files client
  rw [off, if_neg (by simpa using plain)] at asked
  rw [written, ← Endpoint.reread?_eq_some_self_iff]
  refine ⟨asked, ?_⟩
  cases server.reread? <;> simp

/-- The server of the configuration does not answer in the startup file and is asked for again. -/
theorem fallback_connect_to_the_attic :
    let config : Config :=
      ⟨⟨"attic", 6601⟩, Config.WrittenKeys.filled {}, some "startup", none, none⟩
    let files : FileReader := fun _ ↦ some "play 2\nconnect cellar".toUTF8
    let client : Traced Canned := ⟨⟨["attic"], false⟩, []⟩
    let flushed := startupSession config {} files client
    flushed.isConnected = false ∧ "connect" ∉ flushed.interpreter.aliases ∧
      flushed.console.client.servers = [⟨"cellar", 6600⟩] ∧
      (start config {} files client).session.console.client.servers =
        [⟨"cellar", 6600⟩, ⟨"attic", 6601⟩] := by
  intro config files client flushed
  have off : flushed.isConnected = false := by decide +kernel
  have plain : "connect" ∉ flushed.interpreter.aliases := by decide +kernel
  have before : flushed.console.client.servers = [⟨"cellar", 6600⟩] := by decide +kernel
  obtain ⟨asked, word⟩ :=
    fallback_connect (.ofNames config.keys) config {} files client off plain
  rw [word.2 (by decide +kernel)] at asked
  refine ⟨off, plain, before, asked.trans ?_⟩
  rw [before]
  rfl

/-- An empty host is lost: the port is taken for the host. -/
theorem fallback_connect_without_host :
    let config : Config := ⟨.default, Config.WrittenKeys.filled {}, none, none, none⟩
    let launch : Launch := { host := some "" }
    let client : Traced Canned := ⟨⟨["localhost"], false⟩, []⟩
    let flushed := startupSession config launch (fun _ ↦ none) client
    flushed.isConnected = false ∧ "connect" ∉ flushed.interpreter.aliases ∧
      flushed.console.client.servers = [] ∧
      (start config launch (fun _ ↦ none) client).session.console.client.servers =
        [⟨"6600", 6600⟩] ∧
      launch.server config.server = ⟨"", 6600⟩ := by
  decide +kernel

/-- **A server on the command line wins over the startup file**, as long as that leaves the option
alone by which its connecting commands are skipped: none of them reaches the client, and no server
is asked for but the one named, if its host is a word. -/
theorem named_server_wins (named : launch.overridesServer = true)
    (kept : (startupRead config launch files client).console.settings.skipconfigconnects =
      launch.overridesServer) :
    (startupSession config launch files client).console.client.servers = client.servers ∧
      (Text.IsWord (launch.server config.server).host → ∃ servers,
        (startWith keymap config launch files client).session.console.client.servers =
            client.servers ++ servers ∧
          servers.length ≤ 1 ∧ ∀ server ∈ servers, server = launch.server config.server) := by
  have skipped : (startupSession config launch files client).console.client.servers =
      client.servers := by
    rw [startupSession_eq, ← servers_startupRead config launch files client]
    exact Session.servers_flush (sound_startupRead config launch files client)
      (.inl (kept.trans named))
  refine ⟨skipped, fun word ↦ ?_⟩
  have asked := servers_startWith keymap config launch files client
  rw [skipped, (Endpoint.reread?_eq_some_self_iff _).2 word] at asked
  refine ⟨_, asked, ?_, ?_⟩
  · split
    · exact Nat.zero_le 1
    · exact Nat.le_refl 1
  · split
    · nofun
    · exact fun server ↦ List.mem_singleton.1

/-- The startup file connects to another server and sets something else, and is overruled. -/
theorem named_server_wins_in_the_attic :
    let config : Config := ⟨.default, Config.WrittenKeys.filled {}, some "startup", none, none⟩
    let launch : Launch := { host := some "attic" }
    let files : FileReader := fun _ ↦ some "connect cellar\nset nopolling\nplay 1".toUTF8
    let client : Traced Canned := ⟨⟨["attic", "cellar"], false⟩, []⟩
    launch.overridesServer = true ∧
      (startupRead config launch files client).console.settings.skipconfigconnects =
        launch.overridesServer ∧
      ∀ server ∈ (start config launch files client).session.console.client.servers,
        server = ⟨"attic", 6600⟩ := by
  intro config launch files client
  have named : launch.overridesServer = true := rfl
  have kept : (startupRead config launch files client).console.settings.skipconfigconnects =
      launch.overridesServer := by decide +kernel
  obtain ⟨-, law⟩ := named_server_wins (.ofNames config.keys) config launch files client named kept
  obtain ⟨servers, asked, -, same⟩ := law (by decide +kernel)
  refine ⟨named, kept, ?_⟩
  rw [start, asked]
  exact same

/-- The startup file can turn the option off that would have its connecting commands skipped. -/
theorem named_server_loses :
    let config : Config := ⟨.default, Config.WrittenKeys.filled {}, some "startup", none, none⟩
    let launch : Launch := { host := some "attic" }
    let files : FileReader := fun _ ↦
      some "set noskipconfigconnects\nconnect cellar 6601".toUTF8
    let client : Traced Canned := ⟨⟨["attic", "cellar"], false⟩, []⟩
    launch.overridesServer = true ∧
      (start config launch files client).session.console.client.servers = [⟨"cellar", 6601⟩] ∧
      launch.server config.server = ⟨"attic", 6600⟩ := by
  decide +kernel

end App
end Jukebox
