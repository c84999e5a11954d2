import Jukebox.Client.Canned
import Jukebox.Client.Traced
import Jukebox.Proofs.Execution

/-!
# A failing command changes nothing

A command that fails leaves the session as it was, but for the state of the client, which may have
been called once.  The operations are written so that what can go wrong goes wrong first: arguments
are read before the client is called, and nothing is shown before the client has answered.

* `Effect.atomic` is this for one operation: of the six courses that an operation can take, those
  that end in an error leave the scope alone.
* `atomic_execute` is this for a command, with all that executing puts around an operation.

The client is a traced one, so that its calls can be counted; whatever is inside it answers as it
likes.
-/

set_option autoImplicit false

namespace Jukebox

open CommandM

variable {σ : Type} [Client σ]

/-! ## Calls that are written down -/

namespace Traced

theorem calls_of_run {request : String} {t t' : Traced σ} {r : Except ClientError String}
    (h : Client.run request t = (r, t')) : t'.calls = t.calls ++ [.run request] := by
  obtain rfl : _ = t' := congrArg Prod.snd h
  exact calls_record _ t _

theorem calls_of_connect {server : Endpoint} {t t' : Traced σ} {r : Except ClientError Unit}
    (h : Client.connect server t = (r, t')) : t'.calls = t.calls ++ [.connect server] := by
  obtain rfl : _ = t' := congrArg Prod.snd h
  exact calls_record _ t _

end Traced

/-! ## What a failure leaves -/

/-- A console that differs only in its client, to which at most one call was made, and none at all
if the error `e` is one that is raised without the client. -/
structure Console.FailedWith (e : CommandError) (c c' : Console (Traced σ)) : Prop where
  same : c' = { c with client := c'.client }
  calls : ∃ calls, c'.client.calls = c.client.calls ++ calls ∧ calls.length ≤ 1 ∧
    (e.isOwn = true → calls = [])

omit [Client σ] in
theorem Console.FailedWith.refl (e : CommandError) (c : Console (Traced σ)) :
    c.FailedWith e c :=
  ⟨rfl, [], (List.append_nil _).symm, Nat.zero_le 1, fun _ ↦ rfl⟩

omit [Client σ] in
/-- One call that fails is a failure of the client. -/
theorem Console.failedWith_client {client : Traced σ} {c : Console (Traced σ)} {call : Call}
    (h : client.calls = c.client.calls ++ [call]) (e : ClientError) :
    c.FailedWith (.ofClient e) { c with client } := by
  refine ⟨rfl, [call], h, Nat.le_refl 1, fun own ↦ ?_⟩
  rw [CommandError.isOwn_ofClient] at own
  cases own

/-- **An operation that fails leaves the scope as it was.** -/
theorem Effect.atomic {scope scope' : Scope (Traced σ)} {kind : OperationKind} {e : CommandError}
    (h : Effect scope kind (.error e, scope')) :
    scope'.aliases = scope.aliases ∧ scope.console.FailedWith e scope'.console := by
  cases h with
  | refused => exact ⟨rfl, .refl e _⟩
  | unanswered run => exact ⟨rfl, Console.failedWith_client (Traced.calls_of_run run) _⟩
  | unconnected connect =>
    exact ⟨rfl, Console.failedWith_client (Traced.calls_of_connect connect) _⟩

namespace Session

/-- A session that differs only in the client and in what has been run, as `FailedWith` says. -/
structure FailedWith (e : CommandError) (s s' : Session (Traced σ)) : Prop where
  interpreter : s'.interpreter = s.interpreter
  console : s.console.FailedWith e s'.console

omit [Client σ] in
theorem FailedWith.refl (e : CommandError) (s : Session (Traced σ)) : s.FailedWith e s :=
  ⟨rfl, .refl e _⟩

theorem atomic_perform {s s' : Session (Traced σ)} {c : Command} {e : CommandError}
    (hs : s.interpreter.catalogue = .standard (Traced σ)) (h : s.perform c = (.error e, s')) :
    s.FailedWith e s' := by
  have hp := performed c s
  generalize s.perform c = r at h hp
  cases hp with
  | unknown =>
    cases h
    exact .refl _ _
  | unavailable =>
    cases h
    exact .refl _ _
  | ran found =>
    obtain ⟨result, scope, heffect, hrun⟩ := exists_effect hs found
    cases hrun.symm.trans h
    obtain ⟨haliases, hconsole⟩ := heffect.atomic
    refine ⟨?_, hconsole⟩
    show { s.interpreter with aliases := scope.aliases } = s.interpreter
    rw [haliases]
    rfl

theorem atomic_invoke {s s' : Session (Traced σ)} {c : Command} {e : CommandError}
    (hs : s.interpreter.catalogue = .standard (Traced σ)) (h : s.invoke c = (.error e, s')) :
    s.FailedWith e s' := by
  have hv := invoked c s
  generalize s.invoke c = r at h hv
  cases hv with
  | unknown =>
    cases h
    exact .refl _ _
  | failed _ _ run =>
    cases h
    exact atomic_perform hs run
  | held => cases h
  | done => cases h
  -- the errors of a flush are shown, and are not the command's own
  | flushed => cases h

/-- **A command that fails leaves everything as it was but the client.**  Aliases, queue and
completion are those of before, and so is all that the console shows or waits to show.  The client
was called at most once, and not at all if the command is unknown, an alias without an end, or used
wrongly. -/
theorem atomic_execute {s s' : Session (Traced σ)} {c : Command} {e : CommandError}
    (hs : s.interpreter.catalogue = .standard (Traced σ)) (h : s.execute c = (.error e, s')) :
    s'.interpreter = s.interpreter ∧
      s'.console = { s.console with client := s'.console.client } ∧
      ∃ calls, s'.console.client.calls = s.console.client.calls ++ calls ∧ calls.length ≤ 1 ∧
        (e.isOwn = true → calls = []) := by
  suffices hf : s.FailedWith e s' from ⟨hf.interpreter, hf.console.same, hf.console.calls⟩
  have hx := executed c s
  generalize s.execute c = r at h hx
  cases hx with
  | lost =>
    cases h
    exact .refl _ _
  | empty => cases h
  | found => exact atomic_invoke hs h

/-- Setting an option that there is, then one that there is not, sets neither and calls nobody. -/
theorem atomic_execute_set_bogus :
    let s : Session (Traced Canned) :=
      { interpreter := { catalogue := .standard (Traced Canned) }
        console := { client := ⟨⟨["localhost"], true⟩, []⟩ } }
    let e : CommandError := .badSetting (.unknownOption "bogus")
    ∃ s', s.execute ⟨"set", "nopolling bogus"⟩ = (.error e, s') ∧
      s'.console.settings = s.console.settings ∧ s'.console.client.calls = [] := by
  intro s e
  have failed : (s.execute ⟨"set", "nopolling bogus"⟩).1 = .error e := by decide +kernel
  generalize run : s.execute ⟨"set", "nopolling bogus"⟩ = x at failed ⊢
  obtain ⟨r, s'⟩ := x
  obtain rfl : r = .error e := failed
  have hs : s.interpreter.catalogue = .standard (Traced Canned) := rfl
  obtain ⟨-, same, calls, hcalls, -, own⟩ := atomic_execute hs run
  rw [own rfl] at hcalls
  refine ⟨s', rfl, ?_, hcalls⟩
  rw [same]

end Session
end Jukebox
