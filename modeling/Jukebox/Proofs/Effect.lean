import Jukebox.Proofs.Lookup

/-!
# What the standard operations come to

Running an operation of the standard catalogue takes one of six courses, and which of them are open
to it depends on its kind.  Everything that holds of all operations is a matter of these six.

* `act_set`, `act_connect` and their like say what each operation does to a scope.
* `Effect` lists the courses, and `effect_standard` says that there are no others.
-/

set_option autoImplicit false

namespace Jukebox

open CommandM

variable {σ : Type}

/-! ## Actions on a scope -/

namespace Scope

/-- The scope with its console changed. -/
def mapConsole (f : Console σ → Console σ) (s : Scope σ) : Scope σ :=
  { s with console := f s.console }

/-- The scope with another state of the client. -/
def withClient (client : σ) (s : Scope σ) : Scope σ := s.mapConsole fun c ↦ { c with client }

@[simp] theorem aliases_mapConsole (f : Console σ → Console σ) (s : Scope σ) :
    (s.mapConsole f).aliases = s.aliases := rfl

@[simp] theorem aliases_withClient (client : σ) (s : Scope σ) :
    (s.withClient client).aliases = s.aliases := rfl

end Scope

namespace Builtin

variable (s : Scope σ)

theorem act_console : act console s = (.ok s.console, s) := rfl

theorem act_update (f : Console σ → Console σ) : act (update f) s = (.ok (), s.mapConsole f) := rfl

theorem act_callClient {α : Type} (call : σ → α × σ) :
    act (callClient call) s =
      (.ok (call s.console.client).1, s.withClient (call s.console.client).2) :=
  rfl

theorem act_orThrow {α : Type} (r : Except ClientError α) :
    act (orThrow r) s = (r.mapError .ofClient, s) := by
  cases r <;> rfl

theorem act_runClient [Client σ] (request : String) :
    act (runClient request) s =
      ((Client.run request s.console.client).1.mapError .ofClient,
        s.withClient (Client.run request s.console.client).2) := by
  rw [runClient, act_bind, act_callClient]
  exact act_orThrow _ _

/-! ## The outcome of each operation -/

theorem act_set (args : String) :
    act (set args) s =
      if Text.isAllBlank args then (.ok (), s.mapConsole (.showOutput s.console.settings.listing))
      else
        match applyAll s.console.settings (Text.words args) with
        | .ok settings => (.ok (), s.mapConsole fun c ↦ { c with settings })
        | .error e => (.error (.badSetting e), s) := by
  rw [set, act_bind, act_console]
  dsimp only
  split
  · rfl
  · cases applyAll s.console.settings (Text.words args) <;> rfl

theorem act_mpc [Client σ] (args : String) :
    act (mpc args) s =
      if args.isEmpty then (.error (.usage "mpc <arguments>"), s)
      else
        match Client.run args s.console.client with
        | (.ok output, client) =>
          (.ok (), (s.withClient client).mapConsole (.showOutput (Text.lines output)))
        | (.error e, client) => (.error (.ofClient e), s.withClient client) := by
  rw [mpc]
  split
  · rfl
  · rw [act_bind, act_runClient]
    rcases Client.run args s.console.client with ⟨_ | _, _⟩ <;> rfl

theorem act_manageAliases (args : String) :
    act (manageAliases args) s =
      (.ok (),
        match aliasDefinition? args with
        | none =>
          if s.aliases.isEmpty then s.mapConsole (.info "No aliases defined")
          else s.mapConsole (.showOutput s.aliases.listing)
        | some (name, line) =>
          if line = "" then
            match s.aliases[name]? with
            | some line => s.mapConsole (.info (name ++ " -> " ++ line))
            | none => s.mapConsole (.info ("No such alias: " ++ name))
          else { s with aliases := s.aliases.insert name line }) := by
  rw [manageAliases, act_bind, act_get]
  dsimp only
  split
  · rename_i hd
    rw [hd]
    split <;> rfl
  · rename_i name hd
    rw [hd]
    dsimp only
    rw [if_pos rfl]
    cases s.aliases[name]? <;> rfl
  · rename_i hline hd
    rw [hd]
    dsimp only
    rw [if_neg hline]
    rfl

/-- Tells where the client has connected to, and shows what is playing if the server says so. -/
def announce [Client σ] (server : Endpoint) (s : Scope σ) : Scope σ :=
  let s := s.mapConsole
    (.info ("Connected to " ++ server.host ++ ":" ++ toString server.port.toNat))
  match Client.status s.console.client with
  | (.ok text, client) => (s.withClient client).mapConsole (.setServerStatus text)
  | (.error _, client) => s.withClient client

theorem act_connect [Client σ] (args : String) :
    act (connect args) s =
      match endpoint? s.console.server args with
      | none => (.error (.usage "connect [host] [port]"), s)
      | some server =>
        match Client.connect server s.console.client with
        | (.ok _, client) => (.ok (), announce server (s.withClient client))
        | (.error e, client) => (.error (.ofClient e), s.withClient client) := by
  rw [connect, act_bind]
  show (match endpoint? s.console.server args with
    | none => _ | some server => _ : CommandM σ Unit).act s = _
  cases endpoint? s.console.server args with
  | none => rfl
  | some server =>
    dsimp only
    rw [act_bind, act_callClient]
    dsimp only
    rw [act_bind, act_orThrow]
    rcases Client.connect server s.console.client with ⟨e | _, client⟩
    · rfl
    · show _ = (Except.ok (), announce server (s.withClient client))
      rw [announce]
      generalize "Connected to " ++ server.host ++ ":" ++ toString server.port.toNat = text
      dsimp only [Except.mapError]
      rw [act_bind, act_update]
      dsimp only
      rw [act_bind, act_callClient]
      dsimp only
      rcases Client.status ((s.withClient client).mapConsole (.info text)).console.client with
        ⟨_ | _, _⟩ <;> rfl

theorem act_pass [Client σ] (word args : String) :
    act (pass word args) s =
      match Client.run (if args.isEmpty then word else word ++ " " ++ args) s.console.client with
      | (.ok output, client) =>
        (.ok (), (s.withClient client).mapConsole (.setServerStatus output))
      | (.error e, client) => (.error (.ofClient e), s.withClient client) := by
  rw [pass, act_bind, act_runClient]
  rcases Client.run _ s.console.client with ⟨_ | _, _⟩ <;> rfl

theorem act_search [Client σ] (args : String) :
    act (search args) s =
      if (Text.trim args).isEmpty then (.error (.usage "search <pattern>"), s)
      else
        match Client.run "playlist" s.console.client with
        | (.ok listing, client) =>
          (.ok (), ((s.withClient client).mapConsole fun c ↦
            { c with search := .run (Text.trim args) listing c.settings.ignorecase }).mapConsole
              fun c ↦ c.info c.search.report)
        | (.error e, client) => (.error (.ofClient e), s.withClient client) := by
  rw [search]
  split
  · rfl
  · rw [act_bind, act_runClient]
    rcases Client.run "playlist" s.console.client with ⟨_ | _, _⟩ <;> rfl

theorem act_searchMove (move : Search → Search) :
    act (searchMove move) s =
      (.ok (), (s.mapConsole fun c ↦ { c with search := move c.search }).mapConsole fun c ↦
        c.info c.search.report) := by
  rw [searchMove, act_bind, act_update, reportSearch]
  dsimp only
  rw [act_update]

end Builtin

/-! ## The courses that are open -/

namespace Console

/-- What a console holds on behalf of the modes and of the configuration is in both the same. -/
structure SameFrame (c c' : Console σ) : Prop where
  modeLine : c'.modeLine = c.modeLine
  prompt : c'.prompt = c.prompt
  server : c'.server = c.server

theorem SameFrame.refl (c : Console σ) : c.SameFrame c := ⟨rfl, rfl, rfl⟩

theorem SameFrame.trans {c₁ c₂ c₃ : Console σ} (h : c₁.SameFrame c₂) (h' : c₂.SameFrame c₃) :
    c₁.SameFrame c₃ :=
  ⟨h'.modeLine.trans h.modeLine, h'.prompt.trans h.prompt, h'.server.trans h.server⟩

theorem sameFrame_client (client : σ) (c : Console σ) : c.SameFrame { c with client } :=
  ⟨rfl, rfl, rfl⟩

theorem sameFrame_search (search : Search) (c : Console σ) : c.SameFrame { c with search } :=
  ⟨rfl, rfl, rfl⟩

theorem sameFrame_info (text : String) (c : Console σ) : c.SameFrame (c.info text) := by
  rw [info]
  exact ⟨rfl, rfl, rfl⟩

theorem client_info (text : String) (c : Console σ) : (c.info text).client = c.client := by
  rw [info]

theorem sameFrame_setServerStatus (text : String) (c : Console σ) :
    c.SameFrame (c.setServerStatus text) := by
  rw [setServerStatus]
  exact ⟨rfl, rfl, rfl⟩

theorem client_setServerStatus (text : String) (c : Console σ) :
    (c.setServerStatus text).client = c.client := by
  rw [setServerStatus]

theorem sameFrame_showOutput (lines : List String) (c : Console σ) :
    c.SameFrame (c.showOutput lines) := by
  rw [showOutput]
  exact ⟨rfl, rfl, rfl⟩

theorem client_showOutput (lines : List String) (c : Console σ) :
    (c.showOutput lines).client = c.client := by
  rw [showOutput]

theorem sameFrame_error (text : String) (c : Console σ) : c.SameFrame (c.error text) := by
  rw [error]
  exact ⟨rfl, rfl, rfl⟩

theorem client_error (text : String) (c : Console σ) : (c.error text).client = c.client := by
  rw [error]

theorem reportError_eq (e : CommandError) :
    (reportError e : Console σ → Console σ) = .error ("E: " ++ e.message) := by
  funext c
  rw [reportError]

theorem sameFrame_reportError (e : CommandError) (c : Console σ) :
    c.SameFrame (c.reportError e) := by
  rw [reportError]
  exact sameFrame_error _ c

theorem client_reportError (e : CommandError) (c : Console σ) :
    (c.reportError e).client = c.client := by
  rw [reportError]
  exact client_error _ c

theorem sameFrame_refreshServerStatus [Client σ] (c : Console σ) :
    c.SameFrame c.refreshServerStatus := by
  rw [refreshServerStatus]
  split
  · rcases Client.status c.client with ⟨e | text, client⟩
    · exact (sameFrame_client client c).trans (sameFrame_reportError _ _)
    · exact (sameFrame_client client c).trans (sameFrame_setServerStatus text _)
  · exact .refl c

/-- A connected client is asked for its status. -/
theorem client_refreshServerStatus [Client σ] (c : Console σ) :
    c.refreshServerStatus.client =
      if Client.isConnected c.client then (Client.status c.client).2 else c.client := by
  rw [refreshServerStatus]
  split
  · rcases Client.status c.client with ⟨e | text, client⟩
    · exact client_reportError _ _
    · exact client_setServerStatus _ _
  · rfl

theorem client_reportErrors (errors : List CommandError) (c : Console σ) :
    (c.reportErrors errors).client = c.client := by
  rw [reportErrors]
  induction errors generalizing c with
  | nil => rw [List.foldl_nil]
  | cons e errors ih => rw [List.foldl_cons, ih, client_reportError]

end Console

/-- An error that is raised without the client being asked. -/
def CommandError.isOwn : CommandError → Bool
  | unknownCommand _ | aliasCycle _ _ | badSetting _ | usage _ => true
  | connectionUnavailable | client _ => false

@[simp] theorem CommandError.isOwn_ofClient (e : ClientError) : (ofClient e).isOwn = false := by
  cases e <;> rfl

/-- What can come of an operation of each kind, run on the scope `s`. -/
inductive Effect [Client σ] (s : Scope σ) :
    OperationKind → Except CommandError Unit × Scope σ → Prop
  /-- The arguments do not make sense, and nothing has happened. -/
  | refused {kind : OperationKind} {e : CommandError} (own : e.isOwn = true) :
      Effect s kind (.error e, s)
  /-- Without the client. -/
  | unasked {s' : Scope σ} (frame : s.console.SameFrame s'.console)
      (client : s'.console.client = s.console.client) : Effect s .standalone (.ok (), s')
  /-- The client has answered a request. -/
  | answered {request output : String} {client : σ} {s' : Scope σ}
      (run : Client.run request s.console.client = (.ok output, client))
      (frame : s.console.SameFrame s'.console) (after : s'.console.client = client) :
      Effect s .player (.ok (), s')
  /-- The client has failed to answer a request. -/
  | unanswered {request : String} {e : ClientError} {client : σ}
      (run : Client.run request s.console.client = (.error e, client)) :
      Effect s .player (.error (.ofClient e), s.withClient client)
  /-- The client has connected, and was then asked what is playing. -/
  | connected {server : Endpoint} {client : σ} {s' : Scope σ}
      (connect : Client.connect server s.console.client = (.ok (), client))
      (frame : s.console.SameFrame s'.console)
      (after : s'.console.client = (Client.status client).2) : Effect s .connecting (.ok (), s')
  /-- The client has failed to connect. -/
  | unconnected {server : Endpoint} {e : ClientError} {client : σ}
      (connect : Client.connect server s.console.client = (.error e, client)) :
      Effect s .connecting (.error (.ofClient e), s.withClient client)

namespace Builtin

variable [Client σ] (s : Scope σ)

theorem effect_showOutput (lines : List String) :
    Effect s .standalone (.ok (), s.mapConsole (.showOutput lines)) :=
  .unasked (Console.sameFrame_showOutput lines s.console)
    (Console.client_showOutput lines s.console)

theorem effect_info (text : String) : Effect s .standalone (.ok (), s.mapConsole (.info text)) :=
  .unasked (Console.sameFrame_info text s.console) (Console.client_info text s.console)

theorem effect_set (args : String) : Effect s .standalone (act (set args) s) := by
  rw [act_set]
  split
  · exact effect_showOutput s _
  · split
    · exact .unasked ⟨rfl, rfl, rfl⟩ rfl
    · exact .refused rfl

theorem effect_manageAliases (args : String) :
    Effect s .standalone (act (manageAliases args) s) := by
  rw [act_manageAliases]
  split
  · split
    · exact effect_info s _
    · exact effect_showOutput s _
  · split
    · split <;> exact effect_info s _
    · exact .unasked ⟨rfl, rfl, rfl⟩ rfl

/-- Announcing a connection asks the client for its status and shows the answer, if there is
one. -/
theorem announce_spec (server : Endpoint) :
    s.console.SameFrame (announce server s).console ∧
      (announce server s).console.client = (Client.status s.console.client).2 := by
  rw [announce]
  generalize "Connected to " ++ server.host ++ ":" ++ toString server.port.toNat = text
  rw [show (s.mapConsole (.info text)).console.client = s.console.client from
    Console.client_info text s.console]
  rcases Client.status s.console.client with ⟨_ | text', client⟩
  · exact ⟨(Console.sameFrame_info text _).trans (Console.sameFrame_client client _), rfl⟩
  · exact ⟨((Console.sameFrame_info text _).trans (Console.sameFrame_client client _)).trans
      (Console.sameFrame_setServerStatus text' _), Console.client_setServerStatus text' _⟩

theorem effect_connect (args : String) : Effect s .connecting (act (connect args) s) := by
  rw [act_connect]
  cases endpoint? s.console.server args with
  | none => exact .refused rfl
  | some server =>
    dsimp only
    rcases hc : Client.connect server s.console.client with ⟨e | ⟨⟩, client⟩
    · exact .unconnected hc
    · obtain ⟨frame, after⟩ := announce_spec (s.withClient client) server
      exact .connected hc ((Console.sameFrame_client client _).trans frame) after

theorem effect_mpc (args : String) : Effect s .player (act (mpc args) s) := by
  rw [act_mpc]
  split
  · exact .refused rfl
  · split
    · rename_i hr
      exact .answered hr
        ((Console.sameFrame_client _ _).trans (Console.sameFrame_showOutput _ _))
        (Console.client_showOutput _ _)
    · rename_i hr
      exact .unanswered hr

theorem effect_pass (word args : String) : Effect s .player (act (pass word args) s) := by
  rw [act_pass]
  split
  · rename_i hr
    exact .answered hr
      ((Console.sameFrame_client _ _).trans (Console.sameFrame_setServerStatus _ _))
      (Console.client_setServerStatus _ _)
  · rename_i hr
    exact .unanswered hr

theorem effect_search (args : String) : Effect s .player (act (search args) s) := by
  rw [act_search]
  split
  · exact .refused rfl
  · split
    · rename_i hr
      exact .answered hr
        (((Console.sameFrame_client _ _).trans (Console.sameFrame_search _ _)).trans
          (Console.sameFrame_info _ _))
        (Console.client_info _ _)
    · rename_i hr
      exact .unanswered hr

theorem effect_searchMove (move : Search → Search) :
    Effect s .standalone (act (searchMove move) s) := by
  rw [act_searchMove]
  let c : Console σ := { s.console with search := move s.console.search }
  have frame : s.console.SameFrame (c.info c.search.report) :=
    (Console.sameFrame_search _ _).trans (Console.sameFrame_info _ c)
  exact .unasked frame (Console.client_info _ c)

end Builtin

/-- **The operations of the standard catalogue take no other courses.** -/
theorem effect_standard [Client σ] {op : Operation σ} {name : String}
    (h : (Catalogue.standard σ).get? name = some op) (text : List String) (args : String)
    (s : Scope σ) : Effect s op.kind (act (op.run text args) s) := by
  refine Catalogue.forall_standard (P := fun kind run ↦ Effect s kind (act (run text args) s))
    ?set ?mpc ?manageAliases ?connect ?echo ?help ?redraw ?quit ?search ?searchNext
    ?searchPrevious ?pass h
  case set => exact Builtin.effect_set s args
  case mpc => exact Builtin.effect_mpc s args
  case manageAliases => exact Builtin.effect_manageAliases s args
  case connect => exact Builtin.effect_connect s args
  case echo => exact Builtin.effect_info s args
  case help => exact Builtin.effect_showOutput s text
  case redraw => exact .unasked ⟨rfl, rfl, rfl⟩ rfl
  case quit => exact .unasked ⟨rfl, rfl, rfl⟩ rfl
  case search => exact Builtin.effect_search s args
  case searchNext => exact Builtin.effect_searchMove s .next
  case searchPrevious => exact Builtin.effect_searchMove s .previous
  case pass => exact fun word ↦ Builtin.effect_pass s word args

end Jukebox
