import Jukebox.Client.Canned
import Jukebox.Client.Traced
import Jukebox.Proofs.TypedCommands
import Jukebox.Proofs.Unison

/-!
# Idle moments do not interfere with input

An idle moment may ask the server for news, and a resize asks for the screen to be drawn again.
Neither makes a difference to what is typed and executed: with all of them left out, the same events
lead to the same modes and lines, the same commands are run, and the client gets the same requests.

* `Client.Unaffected` is what this asks of a client: to be asked for its status makes no difference
  to its other answers.
* `Console.DifferIdly` relates consoles that differ at most in what idle moments and resizes change,
  and `Console.unison_differIdly` says that nothing else looks at that.
* `App.run_differIdly` runs two applications side by side, one of them without the idle events.
* `App.idle_events_do_not_interfere` is the outcome.
-/

set_option autoImplicit false

namespace Jukebox

variable {σ : Type} [Client σ]

/-! ## Clients that do not mind being asked -/

/-- The connects and the requests among calls. -/
def Call.requests (calls : List Call) : List Call := calls.filter (· ≠ .status)

namespace Client

/-- Asking the client for its status makes no difference to its later answers, whatever else it is
called for before and after: neither to a connect, nor to a request, nor to whether there is a
connection. -/
structure Unaffected (c : σ) : Prop where
  connect (earlier later : List Call) (server : Endpoint) :
    (Client.connect server (after (earlier ++ .status :: later) c)).1 =
      (Client.connect server (after (earlier ++ later) c)).1
  run (earlier later : List Call) (request : String) :
    (Client.run request (after (earlier ++ .status :: later) c)).1 =
      (Client.run request (after (earlier ++ later) c)).1
  isConnected (earlier later : List Call) :
    Client.isConnected (after (earlier ++ .status :: later) c) =
      Client.isConnected (after (earlier ++ later) c)

variable {α : Type} {c : σ}

/-- What one question for the status leaves as it is does not depend on any of them. -/
theorem eq_after_requests {f : σ → α}
    (hf : ∀ earlier later,
      f (after (earlier ++ .status :: later) c) = f (after (earlier ++ later) c))
    (earlier later : List Call) :
    f (after (earlier ++ later) c) = f (after (earlier ++ Call.requests later) c) := by
  induction later generalizing earlier with
  | nil => rfl
  | cons call later ih =>
    have other (hc : call ≠ .status) :
        f (after (earlier ++ call :: later) c) =
          f (after (earlier ++ Call.requests (call :: later)) c) := by
      rw [Call.requests, List.filter_cons_of_pos (by simpa using hc),
        List.append_cons earlier call later, List.append_cons earlier call (List.filter _ later)]
      exact ih (earlier ++ [call])
    cases call with
    | connect server => exact other nofun
    | run request => exact other nofun
    | status => exact (hf earlier later).trans (ih earlier)

theorem eq_of_requests_eq {f : σ → α}
    (hf : ∀ earlier later,
      f (after (earlier ++ .status :: later) c) = f (after (earlier ++ later) c))
    {calls calls' : List Call} (h : Call.requests calls' = Call.requests calls) :
    f (after calls' c) = f (after calls c) := by
  rw [← List.nil_append calls', eq_after_requests hf, h, ← eq_after_requests hf, List.nil_append]

end Client

/-! ## Traces with the same requests -/

/-- Two traces of calls to the client `c` that differ at most in when its status was asked for. -/
structure Traced.SameRequests (c : σ) (t t' : Traced σ) : Prop where
  left : t.client = Client.after t.calls c
  right : t'.client = Client.after t'.calls c
  requests : Call.requests t'.calls = Call.requests t.calls

namespace Traced.SameRequests

variable {c : σ} {t t' : Traced σ}

omit [Client σ] in
theorem requests_append (calls calls' : List Call) :
    Call.requests (calls ++ calls') = Call.requests calls ++ Call.requests calls' :=
  List.filter_append ..

/-- A call to a traced client is one to the client inside. -/
theorem outcome_eq (call : Call) (t : Traced σ) :
    call.outcome t = ⟨call.outcome t.client, t.calls ++ [call]⟩ := by
  cases call <;> rfl

theorem outcome (h : SameRequests c t t') (call : Call) :
    SameRequests c (call.outcome t) (call.outcome t') := by
  rw [outcome_eq, outcome_eq]
  refine ⟨?_, ?_, ?_⟩
  · exact (congrArg call.outcome h.left).trans (Client.after_concat t.calls call).symm
  · exact (congrArg call.outcome h.right).trans (Client.after_concat t'.calls call).symm
  · rw [requests_append, requests_append, h.requests]

theorem status_left (h : SameRequests c t t') : SameRequests c (Call.status.outcome t) t' := by
  rw [outcome_eq]
  refine ⟨?_, h.right, ?_⟩
  · exact (congrArg Call.status.outcome h.left).trans (Client.after_concat t.calls .status).symm
  · rw [requests_append, h.requests]
    exact (List.append_nil _).symm

/-- Traces with the same requests belong to clients that give the same answers. -/
theorem answer_eq {α : Type} {f : σ → α}
    (hf : ∀ earlier later,
      f (Client.after (earlier ++ .status :: later) c) = f (Client.after (earlier ++ later) c))
    (h : SameRequests c t t') : f t'.client = f t.client := by
  rw [h.left, h.right]
  exact Client.eq_of_requests_eq hf h.requests

end Traced.SameRequests

/-! ## What nothing looks at -/

namespace Console

variable {client : σ}

/-- Consoles that differ at most in the server's status, the status line, whether the screen is to
be drawn again, and in when their clients, which began as `client`, were asked for the status. -/
def DifferIdly (client : σ) (c c' : Console (Traced σ)) : Prop :=
  ∃ client' status serverStatus refreshRequested,
    c' = { c with client := client', status, serverStatus, refreshRequested } ∧
      c.client.SameRequests client client'

/-- Neither commands nor the modes look at any of that. -/
theorem unison_differIdly (h : Client.Unaffected client) : Unison (DifferIdly client) where
  settings := by
    rintro c _ ⟨_, _, _, _, rfl, -⟩
    rfl
  server := by
    rintro c _ ⟨_, _, _, _, rfl, -⟩
    rfl
  search := by
    rintro c _ ⟨_, _, _, _, rfl, -⟩
    rfl
  isConnected := by
    rintro c _ ⟨_, _, _, _, rfl, same⟩
    exact same.answer_eq h.isConnected
  connect := by
    rintro c _ server ⟨_, _, _, _, rfl, same⟩
    refine ⟨same.answer_eq (f := fun c ↦ (Client.connect server c).1) fun earlier later ↦
      h.connect earlier later server, _, _, _, _, rfl, same.outcome (.connect server)⟩
  run := by
    rintro c _ request ⟨_, _, _, _, rfl, same⟩
    refine ⟨same.answer_eq (f := fun c ↦ (Client.run request c).1) fun earlier later ↦
      h.run earlier later request, _, _, _, _, rfl, same.outcome (.run request)⟩
  announce := by
    rintro ⟨c, _⟩ ⟨_, _⟩ server ⟨client', _, _, _, rfl, same⟩
    have asked := same.outcome .status
    rw [Builtin.announce, Builtin.announce]
    generalize "Connected to " ++ server.host ++ ":" ++ toString server.port.toNat = text
    simp only [Scope.withClient, Scope.mapConsole, info, setServerStatus]
    dsimp only [Call.outcome] at asked
    generalize Client.status c.client = told at asked ⊢
    generalize Client.status client' = told' at asked ⊢
    -- the two clients may tell different statuses, which only the pane for it shows
    obtain ⟨_ | _, _⟩ := told <;> obtain ⟨_ | _, _⟩ := told' <;> exact ⟨_, _, _, _, rfl, asked⟩
  change := by
    rintro c _ change ⟨_, _, _, _, rfl, same⟩
    cases change <;> simp only [Change.apply, info, error, showOutput, setServerStatus] <;>
      exact ⟨_, _, _, _, rfl, same⟩
  prompt := by
    rintro c _ ⟨_, _, _, _, rfl, -⟩
    rfl
  withPrompt := by
    rintro c _ prompt ⟨_, _, _, _, rfl, same⟩
    exact ⟨_, _, _, _, rfl, same⟩
  withModeLine := by
    rintro c _ modeLine ⟨_, _, _, _, rfl, same⟩
    exact ⟨_, _, _, _, rfl, same⟩
  clearStatus := by
    rintro c _ ⟨_, _, _, _, rfl, same⟩
    exact ⟨_, _, _, _, rfl, same⟩

variable {c c' : Console (Traced σ)}

theorem DifferIdly.refl (h : c.client.client = Client.after c.client.calls client) :
    c.DifferIdly client c :=
  ⟨_, _, _, _, rfl, h, h, rfl⟩

/-- Asking for news makes an idle difference. -/
theorem DifferIdly.refreshServerStatus (h : c.DifferIdly client c') :
    c.refreshServerStatus.DifferIdly client c' := by
  obtain ⟨client', status, serverStatus, refreshRequested, rfl, same⟩ := h
  have asked := same.status_left
  rw [Console.refreshServerStatus]
  dsimp only [Call.outcome] at asked
  split
  · generalize Client.status c.client = told at asked ⊢
    obtain ⟨_ | _, _⟩ := told <;> exact ⟨_, _, _, _, rfl, asked⟩
  · exact ⟨_, _, _, _, rfl, same⟩

/-- So does asking for the screen to be drawn again. -/
theorem DifferIdly.refresh (h : c.DifferIdly client c') :
    ({ c with refreshRequested := true } : Console (Traced σ)).DifferIdly client c' := by
  obtain ⟨client', status, serverStatus, refreshRequested, rfl, same⟩ := h
  exact ⟨_, _, _, _, rfl, same⟩

end Console

/-! ## What becomes of a client -/

theorem Effect.exists_calls {s s' : Scope σ} {kind : OperationKind}
    {r : Except CommandError Unit} (h : Effect s kind (r, s')) :
    ∃ calls, s'.console.client = Client.after calls s.console.client := by
  cases h with
  | refused => exact ⟨[], rfl⟩
  | unasked _ client => exact ⟨[], client⟩
  | @answered request output _ _ run _ after =>
    refine ⟨[.run request], after.trans ?_⟩
    exact congrArg Prod.snd run.symm
  | @unanswered request _ _ run => exact ⟨[.run request], congrArg Prod.snd run.symm⟩
  | @connected server client _ connect _ after =>
    refine ⟨[.connect server, .status], after.trans ?_⟩
    have connected : client = (Client.connect server s.console.client).2 :=
      congrArg Prod.snd connect.symm
    rw [connected]
    rfl
  | @unconnected server _ _ connect => exact ⟨[.connect server], congrArg Prod.snd connect.symm⟩

/-- A session over the standard catalogue whose client has become of `client` by being called. -/
structure Session.CalledFrom (client : σ) (s : Session σ) : Prop where
  catalogue : s.interpreter.catalogue = .standard σ
  calls : ∃ calls, s.console.client = Client.after calls client

namespace Session

theorem CalledFrom.call {client : σ} {s s' : Session σ} (h : s.CalledFrom client)
    (hi : s'.interpreter.catalogue = s.interpreter.catalogue)
    (hc : ∃ calls, s'.console.client = Client.after calls s.console.client) :
    s'.CalledFrom client := by
  obtain ⟨catalogue, calls, hcalls⟩ := h
  obtain ⟨more, hmore⟩ := hc
  refine ⟨hi.trans catalogue, calls ++ more, ?_⟩
  rw [hmore, hcalls]
  exact List.foldl_append.symm

theorem stable_calledFrom (client : σ) : Stable (CalledFrom client) where
  operation found h := by
    obtain ⟨result, scope, heffect, hrun⟩ := exists_effect h.catalogue found
    rw [hrun]
    exact h.call rfl heffect.exists_calls
  queue _ _ h := ⟨h.catalogue, h.calls⟩
  report e h := h.call rfl ⟨[], Console.client_reportError e _⟩

theorem kept_calledFrom (client : σ) : Kept (CalledFrom client) where
  execute c h := (stable_calledFrom client).execute h c
  status h := h.call rfl ⟨[.status], rfl⟩
  aside hs h := h.call (by rw [hs.interpreter]) ⟨[], hs.client⟩

end Session

theorem Traced.after_eq (calls : List Call) (t : Traced σ) :
    Client.after calls t = ⟨Client.after calls t.client, t.calls ++ calls⟩ := by
  induction calls generalizing t with
  | nil => rw [List.append_nil]; rfl
  | cons call calls ih =>
    show Client.after calls (call.outcome t) = _
    rw [ih, SameRequests.outcome_eq, List.append_assoc]
    rfl

/-! ## Two runs -/

namespace App

variable {client : σ} {app app' : App (Traced σ)} {keymap : Keymap} {p : Char}

/-- Nothing is ever made of a client but by calling it. -/
theorem exists_calls_run (keymap : Keymap) (config : Config) (launch : Launch)
    (files : FileReader) (client : σ) (events : List Event) :
    ∃ calls, ((startWith keymap config launch files client).run events).session.console.client =
      Client.after calls client := by
  have hI := Session.kept_calledFrom client
  have started := (Session.stable_calledFrom client).runStartup
    (startupLines config launch files)
    (show (initialSession config launch client).CalledFrom client from ⟨rfl, [], rfl⟩)
  exact (keeps_run hI handlers_startWith events (keeps_startWith hI started)).calls

/-- Whether an event is a press of a key. -/
def Event.isKey : Event → Bool
  | .key _ => true
  | .tick | .resize => false

/-- In an idle moment the bottom line shows what it has shown. -/
theorem onTick_eq (h : Orderly keymap p app) :
    app.onTick =
      { app with session :=
          if app.session.console.settings.polling then app.session.mapConsole .refreshServerStatus
          else app.session } := by
  rw [onTick, Modes.refresh_standard h.handlers, Modes.showLine_of_eq]
  rw [← h.modeLine]
  split
  · exact (Console.sameFrame_refreshServerStatus app.session.console).modeLine
  · rfl

/-- An idle moment makes an idle difference. -/
theorem Alike.onTick (h : app.Alike (Console.DifferIdly client) app')
    (ho : Orderly keymap p app) : app.onTick.Alike (Console.DifferIdly client) app' := by
  obtain ⟨modes, standard, console, interpreter, history⟩ := h
  rw [onTick_eq ho]
  refine ⟨modes, ?_⟩
  dsimp only
  split
  · exact ⟨standard, console.refreshServerStatus, interpreter, history⟩
  · exact ⟨standard, console, interpreter, history⟩

/-- **Leaving idle moments and resizes out makes an idle difference.**  Presses are taken in unison,
and everything else is taken by one of the two applications alone. -/
theorem run_differIdly (hc : Client.Unaffected client)
    (h : app.Alike (Console.DifferIdly client) app') (ho : Orderly keymap p app)
    (events : List Event) :
    (app.run events).Alike (Console.DifferIdly client) (app'.run (events.filter Event.isKey)) := by
  induction events generalizing app app' p with
  | nil => exact h
  | cons event events ih =>
    obtain ⟨q, ho'⟩ := orderly_step ho event
    cases event with
    | key press => exact ih (h.onKey (Console.unison_differIdly hc) ho.handlers press) ho'
    | tick => exact ih (h.onTick ho) ho'
    | resize =>
      refine ih ⟨h.modes, ?_⟩ ho'
      exact ⟨h.session.standard, h.session.console.refresh, h.session.interpreter,
        h.session.history⟩

/-- **Idle moments and resizes do not interfere with input.**  Take any client that does not mind
being asked for its status, and any application that events have led to.  Further events then lead
to the same modes and lines, to the same interpreter with its aliases, queue and completion, and to
the same console but for the server's status, the status line and whether the screen is to be drawn
again, whether or not the idle moments and resizes among them are left out.  The commands that were
run are the same, and so are the connects and requests that the client got. -/
theorem idle_events_do_not_interfere (hc : Client.Unaffected client) (keymap : Keymap)
    (config : Config) (launch : Launch) (files : FileReader) (earlier events : List Event) :
    let app := (startWith keymap config launch files (⟨client, []⟩ : Traced σ)).run earlier
    let after := app.run events
    let undisturbed := app.run (events.filter Event.isKey)
    after.modes = undisturbed.modes ∧
      after.session.interpreter = undisturbed.session.interpreter ∧
      after.session.history = undisturbed.session.history ∧
      after.session.console =
        { undisturbed.session.console with
          client := after.session.console.client
          status := after.session.console.status
          serverStatus := after.session.console.serverStatus
          refreshRequested := after.session.console.refreshRequested } ∧
      Call.requests after.session.console.client.calls =
        Call.requests undisturbed.session.console.client.calls := by
  intro app after undisturbed
  obtain ⟨p, orderly, -⟩ := orderly_run keymap config launch files (⟨client, []⟩ : Traced σ) earlier
  obtain ⟨calls, called⟩ :=
    exists_calls_run keymap config launch files (⟨client, []⟩ : Traced σ) earlier
  have traced : app.session.console.client.client =
      Client.after app.session.console.client.calls client := by
    rw [show app.session.console.client = _ from called, Traced.after_eq, List.nil_append]
  have alike : app.Alike (Console.DifferIdly client) app :=
    ⟨rfl, orderly.catalogue, .refl traced, rfl, rfl⟩
  obtain ⟨modes, -, ⟨client', status, serverStatus, refresh, console, same⟩, interpreter,
    history⟩ := run_differIdly hc alike orderly events
  refine ⟨modes.symm, interpreter.symm, history.symm, ?_, ?_⟩
  · rw [console]
  · rw [console]
    exact same.requests.symm

/-- A client that connects to its hosts and answers everything else from memory is not affected. -/
theorem unaffected_canned (c : Canned) : Client.Unaffected c := by
  have same (earlier later : List Call) :
      Client.after (earlier ++ .status :: later) c = Client.after (earlier ++ later) c := by
    rw [Client.after, Client.after, List.foldl_append, List.foldl_append]
    rfl
  refine ⟨fun earlier later server ↦ ?_, fun earlier later request ↦ ?_, fun earlier later ↦ ?_⟩
  · rw [same]
  · rw [same]
  · rw [same]

/-- While a name is being completed, the server is asked for news and the screen for being drawn
again, and completion goes on as if they had not been. -/
theorem idle_events_do_not_interfere_with_completing :
    let config : Config := ⟨.default, Config.WrittenKeys.filled {}, none, none, none⟩
    let keymap : Keymap := .ofNames config.keys
    let client : Canned := ⟨["localhost"], false⟩
    let type (text : String) : List Event := text.toList.map fun c ↦ .key (.plain (.char c))
    let tab : Event := .key (.plain .tab)
    let app := (startWith keymap config {} (fun _ ↦ none) (⟨client, []⟩ : Traced Canned)).run
      [.tick]
    let events := type ":" ++ .tick :: type "se" ++ [.tick, tab, .resize, .tick, tab]
    let after := app.run events
    let undisturbed := app.run (events.filter Event.isKey)
    Client.Unaffected client ∧ after.modes = undisturbed.modes ∧
      after.modes.states.command.text = "searchnext" ∧
      after.session.console.refreshRequested = true ∧
      undisturbed.session.console.refreshRequested = false ∧
      after.session.console.client.calls =
        [.connect .default, .status, .status, .status, .status, .status] ∧
      undisturbed.session.console.client.calls = [.connect .default, .status, .status] := by
  intro config keymap client type tab app events after undisturbed
  have unaffected := unaffected_canned client
  obtain ⟨modes, -⟩ := idle_events_do_not_interfere unaffected keymap config {} (fun _ ↦ none)
    [.tick] events
  refine ⟨unaffected, modes, ?_⟩
  decide +kernel

end App
end Jukebox
