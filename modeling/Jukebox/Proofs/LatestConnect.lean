import Jukebox.Client.Logged
import Jukebox.Client.Traced
import Jukebox.Proofs.Lookup
import Mathlib.Data.List.Induction

/-!
# The server of the latest connect

The client that runs `mpc` is pointed at a server before it is known whether that server answers.  So
it has to be said that a connect which fails leaves no connection behind, even if there was one to
another server, and that all that is asked later is asked of the server of the latest connect.

* `LatestConnect` says which of some calls is the latest connect.
* `Mpc.connect_eq` makes a connect out of a request for the status, and `Mpc.outcome_eq_checked` is
  about all the calls that are not connects.
* `Mpc.Tracks` says where calls leave a client; `Mpc.Tracks.outcome` is one call, and
  `Mpc.tracks_after` any number of them.
* `Mpc.exists_started` is about the processes that a call starts.
* `Mpc.talks_to_latest_connect` is the outcome.
-/

set_option autoImplicit false

namespace Jukebox

/-! ## Calls -/

namespace Call

/-- The server that a call turns to, if it is a connect. -/
def server? : Call → Option Endpoint
  | connect server => some server
  | run _ | status => none

theorem eq_connect_of_server? {call : Call} {server : Endpoint} (h : call.server? = some server) :
    call = .connect server := by
  cases call with
  | connect server' => rw [Option.some.inj h]
  | run => cases h
  | status => cases h

/-- The words of a call.  A server is connected to by asking for its status. -/
def words : Call → List String
  | run request => Text.words request
  | connect _ | status => ["status"]

/-- What a call that succeeds returns of the text that was printed. -/
def returned : Call → String → Option String
  | connect _, _ => none
  | run _, text | status, text => some text

/-- How a call is answered: with what was printed, or with nothing if it is a connect. -/
def answer {σ : Type} [Client σ] : Call → σ → Except ClientError (Option String)
  | connect server, c => (Client.connect server c).1.map fun _ ↦ none
  | run request, c => (Client.run request c).1.map some
  | status, c => (Client.status c).1.map some

end Call

variable {calls earlier : List Call} {call : Call} {server server' : Endpoint}

/-- The latest connect among some calls is one to the server, and there were some calls earlier. -/
def LatestConnect (calls earlier : List Call) (server : Endpoint) : Prop :=
  ∃ later, calls = earlier ++ .connect server :: later ∧ ∀ call ∈ later, call.server? = none

theorem not_latestConnect_nil : ¬LatestConnect [] earlier server := by
  rintro ⟨later, split, -⟩
  simp at split

/-- A further connect is the latest one. -/
theorem latestConnect_concat_connect_iff :
    LatestConnect (calls ++ [.connect server]) earlier server' ↔
      earlier = calls ∧ server' = server := by
  constructor
  · rintro ⟨later, split, others⟩
    rcases concat_eq_append_cons_iff.1 split with ⟨rfl, same, -⟩ | ⟨later, rfl, -⟩
    · exact ⟨rfl, Call.connect.inj same⟩
    · cases others (.connect server) (by simp)
  · rintro ⟨rfl, rfl⟩
    exact ⟨[], rfl, by simp⟩

/-- Any other call makes no difference to which connect is the latest. -/
theorem latestConnect_concat_iff (other : call.server? = none) :
    LatestConnect (calls ++ [call]) earlier server ↔ LatestConnect calls earlier server := by
  constructor
  · rintro ⟨later, split, others⟩
    rcases concat_eq_append_cons_iff.1 split with ⟨-, rfl, -⟩ | ⟨later, rfl, rfl⟩
    · cases other
    · exact ⟨later, rfl, fun call hcall ↦ others call (by simp [hcall])⟩
  · rintro ⟨later, rfl, others⟩
    refine ⟨later ++ [call], by simp, ?_⟩
    simpa [or_imp, forall_and, other] using others

namespace Mpc

/-! ## What each operation does -/

section

variable {π : Type} [Launcher π] {m : Mpc π}

theorem endpoint_request (words : List String) (m : Mpc π) :
    (request words m).2.endpoint = m.endpoint := by
  rw [request]
  rcases Launcher.launch (address m.endpoint ++ words) m.launcher with ⟨_ | _, _⟩ <;> rfl

theorem checked_of_connected (words : List String) (on : m.connected = true) :
    checked words m = request words m := if_pos on

theorem checked_of_not_connected (words : List String) (off : m.connected = false) :
    checked words m = (.error .notConnected, m) := if_neg (by simp [off])

/-- The client as it asks for the status of a server that it turns to. -/
def turned (server : Endpoint) (m : Mpc π) : Mpc π :=
  { m with endpoint := some server, connected := false }

/-- A connect asks for the status, and there is a connection if that is told. -/
theorem connect_eq (server : Endpoint) (m : Mpc π) :
    connect server m =
      let asked := request ["status"] (m.turned server)
      (asked.1.map fun _ ↦ (), { asked.2 with connected := asked.1.isOk }) := by
  have off : (request ["status"] (m.turned server)).2.connected = false := connected_request ..
  rw [connect, ← turned]
  generalize request ["status"] (m.turned server) = asked at off ⊢
  rcases asked with ⟨_ | _, launcher, endpoint, connected⟩
  · obtain rfl : connected = false := off
    rfl
  · rfl

theorem connected_connect_iff :
    (connect server m).2.connected = true ↔ (connect server m).1 = .ok () := by
  rw [connect_eq]
  rcases request ["status"] (m.turned server) with ⟨_ | _, m'⟩ <;>
    simp [Except.map, Except.isOk, Except.toBool]

theorem answer_connect (server : Endpoint) (m : Mpc π) :
    (Call.connect server).answer m =
      (request ["status"] (m.turned server)).1.map (Call.connect server).returned := by
  have asked : (Call.connect server).answer m = (connect server m).1.map fun _ ↦ none := rfl
  rw [asked, connect_eq]
  rcases request ["status"] (m.turned server) with ⟨_ | _, m'⟩ <;> rfl

theorem endpoint_connect (server : Endpoint) (m : Mpc π) :
    (connect server m).2.endpoint = some server := by
  rw [connect_eq]
  exact endpoint_request ["status"] (m.turned server)

theorem endpoint_checked (words : List String) (m : Mpc π) :
    (checked words m).2.endpoint = m.endpoint := by
  rw [checked]
  split
  · exact endpoint_request words m
  · rfl

/-! ## Any calls -/

/-- A call that is not a connect is a request that is refused without a connection. -/
theorem answer_eq_checked (other : call.server? = none) (m : Mpc π) :
    call.answer m = (checked call.words m).1.map call.returned := by
  cases call with
  | connect => cases other
  | run request => rfl
  | status => rfl

theorem outcome_eq_checked (other : call.server? = none) (m : Mpc π) :
    call.outcome m = (checked call.words m).2 := by
  cases call with
  | connect => cases other
  | run request => rfl
  | status => rfl

/-- The client has gone through the calls and is where the latest connect among them leaves it: it
is pointed at the server of that connect, and connected if that connect succeeded. -/
structure Tracks (client : Mpc π) (calls : List Call) (m : Mpc π) : Prop where
  endpoint : ∀ earlier server, LatestConnect calls earlier server → m.endpoint = some server
  connected : m.connected = true ↔ ∃ earlier server, LatestConnect calls earlier server ∧
    (connect server (Client.after earlier client)).1 = .ok ()

/-- Every call leads from where the calls before it lead to where they lead together with it. -/
theorem Tracks.outcome {client : Mpc π} (h : Tracks client calls (Client.after calls client))
    (call : Call) : Tracks client (calls ++ [call]) (call.outcome (Client.after calls client)) := by
  cases hserver : call.server? with
  | some server =>
    obtain rfl := Call.eq_connect_of_server? hserver
    constructor
    · simp only [latestConnect_concat_connect_iff]
      rintro earlier server' ⟨-, rfl⟩
      exact endpoint_connect server' _
    · simp only [latestConnect_concat_connect_iff]
      refine connected_connect_iff.trans ⟨fun succeeds ↦ ⟨_, _, ⟨rfl, rfl⟩, succeeds⟩, ?_⟩
      rintro ⟨_, _, ⟨rfl, rfl⟩, succeeds⟩
      exact succeeds
  | none =>
    rw [outcome_eq_checked hserver]
    constructor
    · simp only [latestConnect_concat_iff hserver, endpoint_checked]
      exact h.endpoint
    · simp only [latestConnect_concat_iff hserver, connected_checked]
      exact h.connected

theorem tracks_after {client : Mpc π} (off : client.connected = false) (calls : List Call) :
    Tracks client calls (Client.after calls client) := by
  induction calls using List.reverseRecOn with
  | nil =>
    constructor
    · exact fun _ _ latest ↦ absurd latest not_latestConnect_nil
    · simp [Client.after, off, not_latestConnect_nil]
  | append_singleton calls call ih =>
    rw [Client.after_concat]
    exact ih.outcome call

end

/-! ## What is started -/

section

variable {π : Type} [Launcher π]

theorem map_eq_ok_iff {ε α β : Type} {f : α → β} {x : Except ε α} {b : β} :
    x.map f = .ok b ↔ ∃ a, x = .ok a ∧ b = f a := by
  cases x <;> simp [Except.map, eq_comm]

/-- A call starts the program once or, if it is refused, not at all.  The address that the program
is given is the one the client is pointed at by then, and the call succeeds if the program does. -/
theorem exists_started (call : Call) (m : Mpc (Logged π)) :
    ∃ started : Option Start,
      (call.outcome m).launcher.started = m.launcher.started ++ started.toList ∧
      (started = none ↔ call.server? = none ∧ m.connected = false) ∧
      (∀ start ∈ started, start.arguments = address (call.outcome m).endpoint ++ call.words) ∧
      ∀ output, call.answer m = .ok output ↔
        ∃ start ∈ started, ∃ text, start.Prints text ∧ output = call.returned text := by
  cases hserver : call.server? with
  | some server =>
    obtain rfl := Call.eq_connect_of_server? hserver
    obtain ⟨start, given, added, answered⟩ := exists_start_request ["status"] (m.turned server)
    have after : (Call.connect server).outcome m = (connect server m).2 := rfl
    refine ⟨some start, ?_, by simp, ?_, fun output ↦ ?_⟩
    · rw [after, connect_eq]
      exact added
    · rintro _ ⟨⟩
      rw [given, after, endpoint_connect]
      rfl
    · rw [answer_connect, map_eq_ok_iff]
      simp [answered]
  | none =>
    rw [outcome_eq_checked hserver, answer_eq_checked hserver]
    cases hconnected : m.connected with
    | true =>
      obtain ⟨start, given, added, answered⟩ := exists_start_request call.words m
      rw [checked_of_connected call.words hconnected]
      refine ⟨some start, added, by simp, ?_, fun output ↦ ?_⟩
      · rintro _ ⟨⟩
        rw [given, endpoint_request]
      · rw [map_eq_ok_iff]
        simp [answered]
    | false =>
      rw [checked_of_not_connected call.words hconnected]
      exact ⟨none, (List.append_nil _).symm, by simp, by simp, by simp [Except.map]⟩

/-- There is a connect among the calls once one of them is not refused. -/
theorem Tracks.exists_latestConnect {client m : Mpc π} (h : Tracks client calls m)
    (accepted : ¬(call.server? = none ∧ m.connected = false)) :
    ∃ earlier server, LatestConnect (calls ++ [call]) earlier server := by
  cases hserver : call.server? with
  | some server =>
    obtain rfl := Call.eq_connect_of_server? hserver
    exact ⟨calls, server, latestConnect_concat_connect_iff.2 ⟨rfl, rfl⟩⟩
  | none =>
    have on : m.connected = true := by simpa [hserver] using accepted
    obtain ⟨earlier, server, latest, -⟩ := h.connected.1 on
    exact ⟨earlier, server, (latestConnect_concat_iff hserver).2 latest⟩

/-- **The client talks to the server of the latest connect.**  For every program, and after any calls
to a new client of it: there is a connection if a connect has been made and the latest one succeeded.
Without one, a request or a question for the status is refused and changes nothing, so that nothing is
started; and neither of them ever makes or loses a connection.  Every other call starts the program
once.  It is given the host and the port of the latest connect, this call counted in, and then the words
of the call; and the call succeeds, returning what was printed unless it is a connect, if the program
was started and succeeded, and in no other case. -/
theorem talks_to_latest_connect (program : π) (calls : List Call) (call : Call) :
    let client : Mpc (Logged π) := { launcher := { launcher := program } }
    let before := Client.after calls client
    let after := call.outcome before
    (Client.isConnected before = true ↔
      ∃ earlier server, LatestConnect calls earlier server ∧
        (Client.connect server (Client.after earlier client)).1 = .ok ()) ∧
    (call.server? = none →
      (Client.isConnected before = false →
        call.answer before = .error .notConnected ∧ after = before) ∧
      Client.isConnected after = Client.isConnected before) ∧
    ∃ started : Option Start,
      after.launcher.started = before.launcher.started ++ started.toList ∧
      (started = none ↔ call.server? = none ∧ Client.isConnected before = false) ∧
      (∀ start ∈ started, ∃ earlier server, LatestConnect (calls ++ [call]) earlier server ∧
        start.arguments =
          ["--host=" ++ server.host, "--port=" ++ toString server.port.toNat] ++ call.words) ∧
      ∀ output, call.answer before = .ok output ↔
        ∃ start ∈ started, ∃ text, start.Prints text ∧ output = call.returned text := by
  intro client before after
  have here : Tracks client calls before := tracks_after rfl calls
  have there : Tracks client (calls ++ [call]) after := here.outcome call
  refine ⟨here.connected, fun other ↦ ⟨fun off ↦ ?_, ?_⟩, ?_⟩
  · rw [answer_eq_checked other, show after = _ from outcome_eq_checked other before,
      checked_of_not_connected call.words off]
    exact ⟨rfl, rfl⟩
  · rw [show after = _ from outcome_eq_checked other before]
    exact connected_checked call.words before
  · obtain ⟨started, added, refused, given, answered⟩ := exists_started call before
    refine ⟨started, added, refused, fun start hstart ↦ ?_, answered⟩
    have accepted : started ≠ none := Option.ne_none_iff_exists'.2 ⟨start, hstart⟩
    obtain ⟨earlier, server, latest⟩ := here.exists_latestConnect (refused.not.1 accepted)
    have endpoint : (call.outcome before).endpoint = some server :=
      there.endpoint earlier server latest
    exact ⟨earlier, server, latest, by rw [given start hstart, endpoint, address]⟩

end

end Mpc
end Jukebox
