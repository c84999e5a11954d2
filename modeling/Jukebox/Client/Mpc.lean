import Jukebox.Client.Basic
import Jukebox.Text.Blank
import Jukebox.Text.Utf8

/-!
# The mpc client

This client starts the command line tool `mpc` once for every request, with the server's address
before the words of the request.  What starting a program does is left open: a `Launcher` answers
for it, so the client can be reasoned about for every behaviour of the tool.

* `Launcher` starts programs; `Exit` is how one ends.
* `Mpc` is the client: the server it was last pointed at, whether that server answered, and the
  launcher.
* `Mpc.steady` is what can be relied on, whatever the tool does.
-/

set_option autoImplicit false

namespace Jukebox

/-- How a program ends and what it has written; there is no code if a signal ended it. -/
structure Exit where
  code : Option Int
  stdout : List UInt8
  stderr : List UInt8

/-- A state in which the client program can be started with a list of arguments. -/
class Launcher (π : Type) where
  /-- Runs the program to its end, or gives the reason why it cannot be started. -/
  launch : List String → π → Except String Exit × π

/-- The client that runs `mpc`. -/
structure Mpc (π : Type) where
  launcher : π
  endpoint : Option Endpoint := none
  connected : Bool := false

namespace Mpc

variable {π : Type} [Launcher π]

/-- The arguments that tell the program which server to talk to. -/
def address : Option Endpoint → List String
  | none => []
  | some server => ["--host=" ++ server.host, "--port=" ++ toString server.port.toNat]

/-- What the end of a program says about the request: its output if it succeeded, and otherwise
its code with what it complained about. -/
def outcome (e : Exit) : Except ClientError String :=
  if e.code = some 0 then .ok (.ofList (Text.Utf8.decodeLossy e.stdout))
  else
    .error (.failed (e.code.getD (-1)) (.ofList (Text.Chars.trim (Text.Utf8.decodeLossy e.stderr))))

/-- Starts the program with the words of a request. -/
def request (words : List String) (m : Mpc π) : Except ClientError String × Mpc π :=
  let (answer, launcher) := Launcher.launch (address m.endpoint ++ words) m.launcher
  let m := { m with launcher }
  match answer with
  | .error reason => (.error (.spawn reason), m)
  | .ok e => (outcome e, m)

/-- A request that is refused without a connection. -/
def checked (words : List String) (m : Mpc π) : Except ClientError String × Mpc π :=
  if m.connected then request words m else (.error .notConnected, m)

/-- Points the client at a server, which counts as connected once it has told its status. -/
def connect (server : Endpoint) (m : Mpc π) : Except ClientError Unit × Mpc π :=
  match request ["status"] { m with endpoint := some server, connected := false } with
  | (.error e, m) => (.error e, m)
  | (.ok _, m) => (.ok (), { m with connected := true })

instance : Client (Mpc π) where
  connect := connect
  isConnected m := m.connected
  run text m := checked (Text.words text) m
  status m := checked ["status"] m

/-! ## Its connection -/

theorem connected_request (words : List String) (m : Mpc π) :
    (request words m).2.connected = m.connected := by
  rw [request]
  rcases Launcher.launch (address m.endpoint ++ words) m.launcher with ⟨_ | _, _⟩ <;> rfl

theorem connected_checked (words : List String) (m : Mpc π) :
    (checked words m).2.connected = m.connected := by
  rw [checked]
  split
  · exact connected_request words m
  · rfl

/-- The client counts as connected from a connect that succeeds to the next connect. -/
theorem steady : Client.Steady (Mpc π) where
  connected {server m m'} h := by
    simp only [Client.connect, connect] at h
    split at h
    · cases h
    · cases h
      rfl
  unconnected {server e m m'} h off := by
    have hr := connected_request ["status"] { m with endpoint := some server, connected := false }
    simp only [Client.connect, connect] at h
    split at h
    · rename_i he
      cases h
      rw [he] at hr
      exact hr
    · cases h
  run request m := connected_checked (Text.words request) m
  status m := connected_checked ["status"] m

end Mpc
end Jukebox
