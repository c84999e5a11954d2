/-!
# Clients

Everything the player is asked goes through a *client*: a state that can be connected to a server,
asked whether it is, and sent requests.  The rest of the library is written for every client, so
nothing it does can depend on how requests are carried out.

* `Endpoint` is the address of a server.
* `Client` is the interface; each operation gives its answer and the client afterwards.
* `ClientError` is how a request fails.
* `Client.Steady` is the law of clients whose connections are made by connecting only.
-/

set_option autoImplicit false

namespace Jukebox

/-- The address of a server. -/
structure Endpoint where
  host : String
  port : UInt16
  deriving DecidableEq, Repr

/-- The port that players listen on. -/
def Endpoint.defaultPort : UInt16 := 6600

/-- The server that is meant when none is named. -/
def Endpoint.default : Endpoint := ⟨"localhost", defaultPort⟩

instance : Inhabited Endpoint := ⟨Endpoint.default⟩

/-- How a request fails: there is no connection, the client program cannot be started, or it
reports a failure. -/
inductive ClientError where
  | notConnected
  | spawn (reason : String)
  | failed (code : Int) (stderr : String)
  deriving DecidableEq, Repr

/-- The wording of a failure. -/
def ClientError.message : ClientError → String
  | .notConnected => "not connected"
  | .spawn reason => "failed to run mpc: " ++ reason
  | .failed code stderr => "mpc exited with " ++ toString code ++ ": " ++ stderr

/-- A state that talks to a player. -/
class Client (σ : Type) where
  /-- Turns to a server and checks that it answers. -/
  connect : Endpoint → σ → Except ClientError Unit × σ
  /-- Whether there is a connection. -/
  isConnected : σ → Bool
  /-- Passes a request on and returns what the server printed. -/
  run : String → σ → Except ClientError String × σ
  /-- Asks what is playing. -/
  status : σ → Except ClientError String × σ

/-- Connections are made by connecting, if that succeeds, and are made and lost in no other way. -/
structure Client.Steady (σ : Type) [Client σ] : Prop where
  /-- After connecting there is a connection. -/
  connected {server : Endpoint} {c c' : σ} (h : connect server c = (.ok (), c')) :
    isConnected c' = true
  /-- A failure to connect does not make a connection. -/
  unconnected {server : Endpoint} {e : ClientError} {c c' : σ}
    (h : connect server c = (.error e, c')) (off : isConnected c = false) : isConnected c' = false
  /-- A request neither makes nor loses the connection. -/
  run (request : String) (c : σ) : isConnected (Client.run request c).2 = isConnected c
  /-- Asking what is playing does not either. -/
  status (c : σ) : isConnected (Client.status c).2 = isConnected c

end Jukebox
