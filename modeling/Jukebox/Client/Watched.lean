import Jukebox.Client.Basic

/-!
# Watched clients

A watched client answers as the client inside it does and writes down after every call whether
there is a connection, so that "there was no connection at any moment since" can be said.
-/

set_option autoImplicit false

namespace Jukebox

/-- A client with what was seen of its connection after each call, the first one first. -/
structure Watched (σ : Type) where
  client : σ
  moments : List Bool := []

namespace Watched

variable {σ α : Type} [Client σ]

/-- The answer of the client inside, with a look at the connection after it. -/
def watch (w : Watched σ) (answer : α × σ) : α × Watched σ :=
  (answer.1,
    { client := answer.2, moments := w.moments ++ [Client.isConnected answer.2] })

instance : Client (Watched σ) where
  connect server w := w.watch (Client.connect server w.client)
  isConnected w := Client.isConnected w.client
  run request w := w.watch (Client.run request w.client)
  status w := w.watch (Client.status w.client)

/-- What is seen after a call is whether there is a connection by then. -/
theorem moments_watch (w : Watched σ) (answer : α × σ) :
    (w.watch answer).2.moments = w.moments ++ [Client.isConnected (w.watch answer).2] :=
  rfl

/-- Watching a client does not unsettle it. -/
theorem steady (h : Client.Steady σ) : Client.Steady (Watched σ) where
  connected {server w w'} he := by
    obtain ⟨hr, rfl⟩ := Prod.ext_iff.1 he
    exact h.connected (Prod.ext hr rfl)
  unconnected {server e w w'} he off := by
    obtain ⟨hr, rfl⟩ := Prod.ext_iff.1 he
    exact h.unconnected (Prod.ext hr rfl) off
  run request w := h.run request w.client
  status w := h.status w.client

end Watched
end Jukebox
