import Jukebox.Client.Mpc

/-!
# Logged launchers

A logged launcher starts programs as the launcher inside it does and writes down every start with
what came of it, so that "no process was started" and "it was given these arguments" can be said.
-/

set_option autoImplicit false

namespace Jukebox

/-- A start of a program: the arguments it was given, and how it ended or why it could not be
started. -/
structure Start where
  arguments : List String
  result : Except String Exit

/-- The program was started, succeeded, and printed the text. -/
def Start.Prints (s : Start) (text : String) : Prop :=
  ∃ e, s.result = .ok e ∧ e.code = some 0 ∧ text = .ofList (Text.Utf8.decodeLossy e.stdout)

/-- A launcher with the starts that were asked of it, the first one first. -/
structure Logged (π : Type) where
  launcher : π
  started : List Start := []

variable {π : Type} [Launcher π]

instance : Launcher (Logged π) where
  launch arguments l :=
    let (result, launcher) := Launcher.launch arguments l.launcher
    (result, { launcher, started := l.started ++ [{ arguments, result }] })

namespace Mpc

/-- A request starts the program once, with its words behind the address of the server, and is
answered by what the program prints. -/
theorem exists_start_request (words : List String) (m : Mpc (Logged π)) :
    ∃ start : Start, start.arguments = address m.endpoint ++ words ∧
      (request words m).2.launcher.started = m.launcher.started ++ [start] ∧
      ∀ text, (request words m).1 = .ok text ↔ start.Prints text := by
  obtain ⟨result, launcher, answered⟩ : ∃ result launcher,
      Launcher.launch (address m.endpoint ++ words) m.launcher.launcher = (result, launcher) :=
    ⟨_, _, rfl⟩
  have launched : Launcher.launch (address m.endpoint ++ words) m.launcher =
      (result, ⟨launcher, m.launcher.started ++ [⟨address m.endpoint ++ words, result⟩]⟩) := by
    simp only [Launcher.launch, answered]
  refine ⟨⟨address m.endpoint ++ words, result⟩, rfl, ?_, fun text ↦ ?_⟩
  · rw [request, launched]
    cases result <;> rfl
  · rw [request, launched]
    cases result with
    | error reason => simp [Start.Prints]
    | ok e => by_cases success : e.code = some 0 <;> simp [Start.Prints, outcome, success, eq_comm]

end Mpc
end Jukebox
