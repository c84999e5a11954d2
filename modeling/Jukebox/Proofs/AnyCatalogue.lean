import Jukebox.Proofs.TypedCommands

/-!
# Presses over any catalogue

What keeps the lines of input in order does not depend on which operations there are.  An operation
may change all of the console, and in particular leave any wish for a prompt; the press that has run
it grants that wish, and everything is tidy again.

* `Modes.exists_tidy_dispatch` says what a press leaves of order.
* `App.ofSession` is an application over any session, and so over any catalogue.
* `App.AtRest` is what holds of it between events, and `App.AtRest.run` says that it always does.
-/

set_option autoImplicit false

namespace Jukebox

/-! ## Presses -/

namespace Modes

variable {σ : Type} [Client σ] {keymap : Keymap} {r : Modes InputLine σ} {s : Session σ} {p : Char}

/-- Whatever has been wished for, granting it leaves everything tidy, and no wish. -/
theorem exists_tidy_grantPrompt (h : r.Tidy p s) (hr : r.handlers = (standard keymap).handlers) :
    let x := r.grantPrompt s
    (∃ q, x.1.Tidy q x.2) ∧ x.2.interpreter.catalogue = s.interpreter.catalogue ∧
      x.2.console.prompt = none := by
  cases hw : s.console.prompt with
  | none =>
    rw [grantPrompt_of_none hw]
    exact ⟨⟨p, h⟩, rfl, hw⟩
  | some wish =>
    have granted := settles_grantPrompt h hr hw
    exact ⟨⟨_, granted.tidy⟩, granted.catalogue, granted.prompt⟩

/-- A press leaves everything tidy, whatever operations there are and whatever they wish for. -/
theorem exists_tidy_dispatch (press : KeyPress) (h : r.Tidy p s)
    (hr : r.handlers = (standard keymap).handlers) :
    let x := (r.dispatch press s).2
    (∃ q, x.1.Tidy q x.2) ∧ x.2.interpreter.catalogue = s.interpreter.catalogue ∧
      x.2.console.prompt = none ∧ x.2.console.modeLine = x.1.wantedLine := by
  rcases hx : (r.handlers.get r.active).handle press (r.states.get r.active) s with
    ⟨handled, line, s₁⟩
  obtain ⟨ready, kept⟩ := ready_handle h hr hx
  have moved := settles_change ready hr
  obtain ⟨⟨q, tidy⟩, catalogue, prompt⟩ :=
    exists_tidy_grantPrompt moved.tidy ((handlers_change press).trans hr)
  rw [dispatch_standard hr hx]
  exact ⟨⟨q, tidy.of_completion rfl⟩, catalogue.trans (moved.catalogue.trans kept), prompt, rfl⟩

end Modes

/-! ## Applications -/

namespace App

variable {σ : Type} [Client σ] {app : App σ} {keymap : Keymap} {catalogue : Catalogue σ}

/-- The application over a session, in which nothing has been executed yet. -/
def ofSession (keymap : Keymap) (s : Session σ) : App σ :=
  let (modes, session) := (Modes.standard keymap).start s
  { modes, session }

/-- Bringing the application up is bringing it up over what the startup commands have left. -/
theorem startWith_eq_ofSession (keymap : Keymap) (config : Config) (launch : Launch)
    (files : FileReader) (client : σ) :
    startWith keymap config launch files client =
      ofSession keymap (startWith keymap config launch files client).session := by
  have shown : Modes.showLine none (startWith keymap config launch files client).session =
      (startWith keymap config launch files client).session := by
    rw [startWith_session, Modes.showLine_showLine]
  exact congrArg (App.mk (Modes.standard keymap)) shown.symm

/-- What holds of an application between events, whatever operations there are. -/
structure AtRest (keymap : Keymap) (catalogue : Catalogue σ) (app : App σ) : Prop where
  handlers : app.modes.handlers = (Modes.standard keymap).handlers
  tidy : ∃ p, app.modes.Tidy p app.session
  catalogue : app.session.interpreter.catalogue = catalogue
  modeLine : app.session.console.modeLine = app.modes.wantedLine
  prompt (ha : app.modes.active ≠ .normal) : app.session.console.prompt = none

theorem atRest_ofSession (keymap : Keymap) {s : Session σ}
    (idle : s.interpreter.completion = .idle) :
    AtRest keymap s.interpreter.catalogue (ofSession keymap s) := by
  refine ⟨rfl, ⟨':', fun {m} _ _ ↦ ?_, absurd rfl, fun {a} hc ↦ ?_⟩, rfl, rfl, absurd rfl⟩
  · cases m <;> rfl
  · cases (congrArg Completion.answer? idle).symm.trans hc

theorem AtRest.onKey (h : AtRest keymap catalogue app) (press : KeyPress) :
    AtRest keymap catalogue (app.onKey press) := by
  obtain ⟨p, tidy⟩ := h.tidy
  obtain ⟨tidy', kept, prompt, modeLine⟩ := Modes.exists_tidy_dispatch press tidy h.handlers
  exact ⟨(Modes.handlers_dispatch press).trans h.handlers, tidy', kept.trans h.catalogue, modeLine,
    fun _ ↦ prompt⟩

theorem completion_onTick (h : app.modes.handlers = (Modes.standard keymap).handlers) :
    app.onTick.session.interpreter.completion = app.session.interpreter.completion := by
  rw [onTick]
  dsimp only
  rw [Modes.refresh_standard h]
  split <;> rfl

theorem AtRest.onTick (h : AtRest keymap catalogue app) : AtRest keymap catalogue app.onTick := by
  obtain ⟨p, tidy⟩ := h.tidy
  have shown : app.onTick.session = Modes.showLine app.modes.wantedLine
      (if app.session.console.settings.polling then
        app.session.mapConsole .refreshServerStatus else app.session) :=
    Modes.refresh_standard h.handlers
  refine ⟨h.handlers, ⟨p, tidy.of_completion (completion_onTick h.handlers)⟩, ?_, ?_, fun ha ↦ ?_⟩
  · rw [shown]
    split <;> exact h.catalogue
  · rw [shown]
    rfl
  · rw [shown]
    split
    · exact (Console.sameFrame_refreshServerStatus _).prompt.trans (h.prompt ha)
    · exact h.prompt ha

theorem AtRest.onResize (h : AtRest keymap catalogue app) :
    AtRest keymap catalogue app.onResize := by
  obtain ⟨p, tidy⟩ := h.tidy
  exact ⟨h.handlers, ⟨p, tidy.of_completion rfl⟩, h.catalogue, h.modeLine, h.prompt⟩

theorem AtRest.run (h : AtRest keymap catalogue app) (events : List Event) :
    AtRest keymap catalogue (app.run events) := by
  induction events generalizing app with
  | nil => exact h
  | cons event events ih =>
    cases event with
    | key press => exact ih (h.onKey press)
    | tick => exact ih h.onTick
    | resize => exact ih h.onResize

/-- The command line has a prompt while input goes to it. -/
theorem AtRest.exists_prompt (h : AtRest keymap catalogue app) (ha : app.modes.active = .command) :
    ∃ p, app.modes.states.command.chars.head? = some p := by
  obtain ⟨p, tidy⟩ := h.tidy
  have hl := tidy.inUse (by rw [ha]; decide)
  rw [ha] at hl
  exact ⟨p, hl⟩

end App
end Jukebox
