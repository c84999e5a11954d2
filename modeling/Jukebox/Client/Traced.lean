import Jukebox.Client.Basic

/-!
# Calls and traced clients

What is asked of a client is a list of calls, and `Client.after` is what they make of it.

A traced client answers as the client inside it does and remembers every call made to it, so that
"no call was made" and "the same calls were made" can be said.  Asking whether there is a
connection is not a call.
-/

set_option autoImplicit false

namespace Jukebox

/-- A call to a client. -/
inductive Call where
  | connect (server : Endpoint)
  | run (request : String)
  | status
  deriving DecidableEq, Repr

section

variable {σ : Type} [Client σ]

/-- What a call makes of a client. -/
def Call.outcome : Call → σ → σ
  | connect server, c => (Client.connect server c).2
  | run request, c => (Client.run request c).2
  | status, c => (Client.status c).2

namespace Client

/-- The client after calls. -/
def after (calls : List Call) (c : σ) : σ := calls.foldl (fun c call ↦ call.outcome c) c

theorem after_concat {c : σ} (calls : List Call) (call : Call) :
    after (calls ++ [call]) c = call.outcome (after calls c) :=
  List.foldl_append

end Client

end

/-- A client with the calls made to it, the first one first. -/
structure Traced (σ : Type) where
  client : σ
  calls : List Call := []

namespace Traced

variable {σ α : Type}

/-- The answer of the client inside, with the call written down. -/
def record (call : Call) (t : Traced σ) (answer : α × σ) : α × Traced σ :=
  (answer.1, { client := answer.2, calls := t.calls ++ [call] })

instance [Client σ] : Client (Traced σ) where
  connect server t := t.record (.connect server) (Client.connect server t.client)
  isConnected t := Client.isConnected t.client
  run request t := t.record (.run request) (Client.run request t.client)
  status t := t.record .status (Client.status t.client)

@[simp] theorem calls_record (call : Call) (t : Traced σ) (answer : α × σ) :
    (t.record call answer).2.calls = t.calls ++ [call] := rfl

end Traced
end Jukebox
