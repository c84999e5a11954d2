import Jukebox.Client.Basic

/-!
# Clients with canned answers

Clients without a server behind them.  What they do can be computed, so a general law can be tried
out on them.

* `Canned` connects to the hosts that it is given and to no others, and answers every request.
* `Reciting` is always connected, and answers with a text of one's own.
-/

set_option autoImplicit false

namespace Jukebox

/-- The hosts that accept a connection, and whether there is one. -/
structure Canned where
  hosts : List String
  online : Bool := false
  deriving DecidableEq, Repr

instance : Client Canned where
  connect server c :=
    if server.host ∈ c.hosts then (.ok (), { c with online := true })
    else (.error (.failed 1 "Connection refused"), c)
  isConnected c := c.online
  run request c := (.ok ("ok: " ++ request), c)
  status c := (if c.online then .ok "[playing] #1/3" else .error .notConnected, c)

theorem Canned.steady : Client.Steady Canned where
  connected {server c c'} h := by
    simp only [Client.connect] at h
    split at h
    · cases h
      rfl
    · cases h
  unconnected {server e c c'} h off := by
    simp only [Client.connect] at h
    split at h
    · cases h
    · cases h
      exact off
  run _ _ := rfl
  status _ := rfl

/-- What is answered to every request. -/
structure Reciting where
  text : String
  deriving DecidableEq, Repr

instance : Client Reciting where
  connect _ c := (.ok (), c)
  isConnected _ := true
  run _ c := (.ok c.text, c)
  status c := (.ok c.text, c)

end Jukebox
