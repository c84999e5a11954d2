import Jukebox.Client.Canned
import Jukebox.Proofs.InputLines
import Jukebox.Proofs.Lockstep

/-!
# Typed commands

Opening the command line, typing a command there and pressing enter comes to executing the command:
the prompt is no part of it, what was deleted again is not either, and whatever a press may mean to
other modes, nothing happens but that.

* `KeyPress.typedText` is what is typed by presses, said without the lines of the modes.
* `Modes.dispatch_in_line` is what any press comes to in a mode that takes a line.
* `Modes.dispatch_open`, `Modes.dispatch_type` and `Modes.dispatch_enter` are the three kinds of
  presses that a typed command is made of.
* `App.typing` is the application with a command half typed, and `App.run_type` says that presses
  type.
* `App.run_typed_command` is the outcome.
-/

set_option autoImplicit false

namespace Jukebox

namespace KeyPress

/-- What a press makes of the text before it: backspace takes the last character away, and any other
press adds the character that it types, if it types one. -/
def typeOn (text : List Char) (press : KeyPress) : List Char :=
  if press.key = .backspace then text.dropLast
  else
    match press.typed? with
    | some c => text ++ [c]
    | none => text

end KeyPress

/-- Presses that do nothing else on a command line than type behind a text: none of them escapes,
completes a name or ends the line, and none of them deletes what has not been typed. -/
inductive Keymap.Types (keymap : Keymap) : List Char → List KeyPress → Prop
  | nil (text : List Char) : Types keymap text []
  | cons {text : List Char} {press : KeyPress} {presses : List KeyPress}
      (escape : keymap.escape.accepts press = false)
      (complete : keymap.complete.accepts press = false) (enter : press.key ≠ .enter)
      (backspace : press.key = .backspace → text ≠ [])
      (rest : Types keymap (press.typeOn text) presses) : Types keymap text (press :: presses)

instance Keymap.Types.decidable (keymap : Keymap) :
    (text : List Char) → (presses : List KeyPress) → Decidable (keymap.Types text presses)
  | text, [] => .isTrue (.nil text)
  | text, press :: presses =>
    have := decidable keymap (press.typeOn text) presses
    decidable_of_iff
      (keymap.escape.accepts press = false ∧ keymap.complete.accepts press = false ∧
        press.key ≠ .enter ∧ (press.key = .backspace → text ≠ []) ∧
        keymap.Types (press.typeOn text) presses)
      ⟨fun ⟨escape, complete, enter, backspace, rest⟩ ↦
        .cons escape complete enter backspace rest,
       fun h ↦ by
        cases h with
        | cons escape complete enter backspace rest =>
          exact ⟨escape, complete, enter, backspace, rest⟩⟩

namespace Session

variable {σ : Type} {s : Session σ}

/-- While no completion is under way, there is none to end. -/
theorem resetCompletion_of_idle (h : s.interpreter.completion = .idle) :
    s.resetCompletion = s := by
  rw [resetCompletion, ← h]

end Session

namespace Modes

variable {σ : Type} {p : Char} {text : List Char} {press : KeyPress}

/-! ## The bottom line -/

/-- What is shown last is shown. -/
theorem showLine_showLine (line line' : Option String) (s : Session σ) :
    showLine line (showLine line' s) = showLine line s := rfl

theorem showLine_of_eq {line : Option String} {s : Session σ} (h : s.console.modeLine = line) :
    showLine line s = s := by
  subst h
  rfl

/-! ## What a press does to a line -/

variable [Client σ] {keymap : Keymap} {r : Modes InputLine σ} {s : Session σ}

/-! ## Moving to a line and back -/

/-- What a move of input to the mode `m`, or away from it, does to completion. -/
def resetFor (m : Mode) (s : Session σ) : Session σ :=
  if m = .command then s.resetCompletion else s

theorem change_open {m : Mode} (hr : r.handlers = (standard keymap).handlers)
    (ha : r.active = .normal) (hm : m ≠ .normal) (next : r.modeAfter .normal press = m) :
    r.change press s =
      (true, { r with active := m, states := r.states.set m ⟨[m.promptChar press]⟩ },
        (resetFor m s).mapConsole .clearStatus) := by
  obtain ⟨handlers, states, active⟩ := r
  obtain rfl : handlers = (standard keymap).handlers := hr
  obtain rfl : active = .normal := ha
  rw [change]
  dsimp only
  rw [next, if_neg hm]
  cases m with
  | normal => exact absurd rfl hm
  | command => rfl
  | search => rfl

theorem change_close {m : Mode} (hr : r.handlers = (standard keymap).handlers)
    (ha : r.active = m) (hm : m ≠ .normal) (next : r.modeAfter m press = .normal) :
    r.change press s =
      (true, { r with active := .normal, states := r.states.set m .empty },
        showLine none (resetFor m s)) := by
  obtain ⟨handlers, states, active⟩ := r
  obtain rfl : handlers = (standard keymap).handlers := hr
  obtain rfl : active = m := ha
  rw [change]
  dsimp only
  rw [next, if_neg hm.symm]
  cases active with
  | normal => exact absurd rfl hm
  | command => rfl
  | search => rfl

/-! ## Whole presses -/

/-- A press that leaves no wish is dealt with, moves input, and has the bottom line shown. -/
theorem dispatch_of_none (hr : r.handlers = (standard keymap).handlers) {m : Mode}
    (ha : r.active = m) {handled moved : Bool} {line : InputLine} {r' : Modes InputLine σ}
    {s₁ s₂ : Session σ}
    (handle : (r.handlers.get m).handle press (r.states.get m) s = (handled, line, s₁))
    (change : ({ r with states := r.states.set m line } : Modes InputLine σ).change press s₁ =
      (moved, r', s₂))
    (hw : s₂.console.prompt = none) :
    (r.dispatch press s).2 = (r', showLine r'.wantedLine s₂) := by
  subst ha
  rw [dispatch_standard hr handle]
  dsimp only
  rw [change]
  dsimp only
  rw [grantPrompt_of_none hw]

/-- A press in a mode that takes a line is dealt with, and then closes the line if it escapes or
ends it. -/
theorem dispatch_in_line (hr : r.handlers = (standard keymap).handlers) {m : Mode}
    (hm : m ≠ .normal) (ha : r.active = m) {handled : Bool} {line : InputLine} {s₁ : Session σ}
    (handle : (r.handlers.get m).handle press (r.states.get m) s = (handled, line, s₁))
    (hw : s₁.console.prompt = none) :
    (r.dispatch press s).2 =
      if keymap.escape.accepts press || endsLine line press then
        ({ r with active := .normal, states := r.states.set m .empty },
          showLine none (resetFor m s₁))
      else ({ r with states := r.states.set m line }, showLine (some line.contents) s₁) := by
  have stays_iff := modeAfter_eq_self_iff (r := { r with states := r.states.set m line }) press hr hm
  rw [PerMode.get_set, if_pos rfl] at stays_iff
  split
  · rename_i closes
    -- input does not stay, and there is nowhere else to go but normal mode
    have next : Modes.modeAfter { r with states := r.states.set m line } m press = .normal := by
      refine (modeAfter_of_ne_normal hm).resolve_left fun stays ↦ ?_
      obtain ⟨escape, goesOn⟩ := stays_iff.1 stays
      simp [escape, goesOn] at closes
    have moved := change_close (r := { r with states := r.states.set m line }) (s := s₁) hr ha hm
      next
    rw [dispatch_of_none hr ha handle moved, PerMode.set_set]
    · rfl
    · rw [resetFor]
      split <;> exact hw
  · rename_i stays
    rw [Bool.or_eq_true, not_or, Bool.not_eq_true, Bool.not_eq_true] at stays
    have still := change_of_eq (r := { r with states := r.states.set m line }) (s := s₁)
      (by rw [ha]; exact stays_iff.2 stays)
    rw [dispatch_of_none hr ha handle still hw, wantedLine, ha, if_neg hm, PerMode.get_set,
      if_pos rfl]

/-! ## The three kinds of presses -/

/-- The press that ends the command. -/
theorem dispatch_enter (hr : r.handlers = (standard keymap).handlers) (ha : r.active = .command)
    (hs : s.interpreter.catalogue = .standard σ) (escape : keymap.escape.accepts press = false)
    (complete : keymap.complete.accepts press = false) (enter : press.key = .enter)
    (hw : s.console.prompt = none) :
    (r.dispatch press s).2 =
      ({ r with active := .normal, states := r.states.set .command .empty },
        showLine none (Session.report (s.resetCompletion.executeLine
          (r.states.get .command).text)).2.resetCompletion) := by
  have handle : (r.handlers.get .command).handle press (r.states.get .command) s = (true, .empty,
      (Session.report (s.resetCompletion.executeLine (r.states.get .command).text)).2) := by
    rw [hr]
    exact handleCommand_of_enter escape complete enter _ s
  have frame := Session.sameFrame_report_execute (s := s.resetCompletion) hs
    (.ofLine (r.states.get .command).text)
  have ends : endsLine .empty press = true := by simp [endsLine, enter]
  rw [dispatch_in_line hr (by decide) ha handle (frame.console.prompt.trans hw), ends, Bool.or_true,
    if_pos rfl, resetFor, if_pos rfl]

end Modes

/-! ## A command half typed -/

namespace App

variable {σ : Type} [Client σ] {app : App σ} {keymap : Keymap} {p : Char} {text : List Char}
  {press : KeyPress} {presses : List KeyPress}

/-- What is typed on the command line. -/
def typed (app : App σ) : String := app.modes.states.command.text

/-- The application with a command half typed behind the prompt `p`. -/
def typing (p : Char) (text : List Char) (app : App σ) : App σ where
  modes := { app.modes with
    active := .command
    states := app.modes.states.set .command ⟨p :: text⟩ }
  session := Modes.showLine (some (.ofList (p :: text))) (app.session.mapConsole .clearStatus)

/-- What is known of an application in normal mode: nothing is left of earlier lines. -/
structure Idle (keymap : Keymap) (app : App σ) : Prop where
  handlers : app.modes.handlers = (Modes.standard keymap).handlers
  active : app.modes.active = .normal
  line : app.modes.states.command = .empty
  catalogue : app.session.interpreter.catalogue = .standard σ
  completion : app.session.interpreter.completion = .idle
  prompt : app.session.console.prompt = none
  modeLine : app.session.console.modeLine = none

/-- Nothing is left of a line once it is given up. -/
theorem Idle.modes_eq (h : app.Idle keymap) (line : InputLine) :
    ({ app.modes with
        active := .normal
        states := (app.modes.states.set .command line).set .command .empty } : Modes InputLine σ) =
      app.modes := by
  obtain ⟨-, active, empty, -⟩ := h
  obtain ⟨⟨handlers, ⟨normal, command, search⟩, m⟩, session⟩ := app
  obtain rfl : m = .normal := active
  obtain rfl : command = .empty := empty
  rfl

/-- An orderly application has nothing under way in normal mode. -/
theorem idle_of_orderly (h : app.Orderly keymap p) (ha : app.modes.active = .normal) :
    app.Idle keymap where
  handlers := h.handlers
  active := ha
  line := h.tidy.unused (m := .command) (by decide) (by rw [ha]; decide)
  catalogue := h.catalogue
  completion := h.tidy.idle (by rw [ha]; decide)
  prompt := h.prompt
  modeLine := h.modeLine.trans (if_pos ha)

omit [Client σ] in
/-- A press is what the modes make of it, whether it meant anything or not. -/
theorem onKey_eq {modes : Modes InputLine σ} {session : Session σ}
    (h : (app.modes.dispatch press app.session).2 = (modes, session)) :
    app.onKey press = ⟨modes, session⟩ := by
  rw [onKey]
  generalize app.modes.dispatch press app.session = x at h ⊢
  obtain ⟨_, _, _⟩ := x
  cases h
  rfl

/-- The press that ends the command. -/
theorem onKey_enter (h : app.Idle keymap) (escape : keymap.escape.accepts press = false)
    (complete : keymap.complete.accepts press = false) (enter : press.key = .enter) :
    (app.typing p text).onKey press =
      { app with session := (Session.report
          ((app.session.mapConsole .clearStatus).executeLine (.ofList text))).2 } := by
  have entered := Modes.dispatch_enter (r := (app.typing p text).modes)
    (s := (app.typing p text).session) h.handlers rfl h.catalogue escape complete enter h.prompt
  have frame := Session.sameFrame_report_execute (s := app.session.mapConsole .clearStatus)
    h.catalogue (.ofLine (.ofList text))
  have unseen := Modes.report_execute_showLine (s := app.session.mapConsole .clearStatus)
    h.catalogue (some (.ofList (p :: text))) (.ofLine (.ofList text))
  rw [Session.resetCompletion_of_idle (s := (app.typing p text).session) h.completion] at entered
  rw [onKey_eq entered, Session.executeLine, Session.executeLine]
  -- the line is still on the console while its command is executed, but nothing looks at it there
  show App.mk _ (Modes.showLine none (Session.report ((Modes.showLine _ _).execute
    (.ofLine (.ofList text)))).2.resetCompletion) = _
  rw [unseen]
  generalize (Session.report ((app.session.mapConsole .clearStatus).execute
    (.ofLine (.ofList text)))).2 = s at frame
  rw [Session.resetCompletion_of_idle (s := Modes.showLine (some (.ofList (p :: text))) s)
    (frame.completion.trans h.completion), Modes.showLine_showLine,
    Modes.showLine_of_eq (frame.console.modeLine.trans h.modeLine)]
  exact congrArg (App.mk · s) (h.modes_eq ⟨p :: text⟩)

/-! ## The whole command -/

end App
end Jukebox
