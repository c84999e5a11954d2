import Jukebox.Client.Traced
import Jukebox.Proofs.TypedCommands

/-!
# Prompt bindings

A chord that is bound to a text opens the command line with the text typed already.  Normal mode
only leaves a wish, which is granted by the press of the command chord, so that the line comes up as
if it had been opened by hand: with the same prompt, and over the same session.

* `Modes.grantPrompt_opens` says how the wish is granted, and `Modes.dispatch_wish` what becomes of
  the press that has raised it.
* `App.onKey_prompt`: the application is then the one with the text half typed.
* `App.prompt_binding_opens_line` is the outcome.

The press of the command chord must not be one that opens a search as well, since a search would
win.
-/

set_option autoImplicit false

namespace Jukebox

/-- The session with no wish for a prompt. -/
def Session.withoutWish {σ : Type} (s : Session σ) : Session σ :=
  s.mapConsole fun c ↦ { c with prompt := none }

theorem Session.withoutWish_of_none {σ : Type} {s : Session σ} (h : s.console.prompt = none) :
    s.withoutWish = s := by
  rw [withoutWish, mapConsole, ← h]

namespace Modes

variable {σ : Type} [Client σ] {keymap : Keymap} {press : KeyPress} {r : Modes InputLine σ}
  {s : Session σ} {text : String}

/-- The command line that a wish for a text opens. -/
def wished (keymap : Keymap) (text : String) : InputLine :=
  ⟨keymap.command.press.typed?.getD ':' :: text.toList⟩

/-- In normal mode the wish for the command line opens it, and the text comes behind the prompt. -/
theorem grantPrompt_opens (hr : r.handlers = (standard keymap).handlers) (ha : r.active = .normal)
    (apart : keymap.search.accepts keymap.command.press = false)
    (hw : s.console.prompt = some ⟨keymap.command.press, text⟩) :
    r.grantPrompt s =
      ({ r with active := .command, states := r.states.set .command (wished keymap text) },
        s.withoutWish.resetCompletion.mapConsole .clearStatus) := by
  have next : r.modeAfter .normal keymap.command.press = .command := by
    rw [modeAfter_normal _ hr, apart, Chord.accepts_press]
    rfl
  rw [grantPrompt, hw]
  dsimp only
  rw [changeWith, change_open hr ha (by decide) next]
  dsimp only
  obtain ⟨handlers, states, active⟩ := r
  obtain rfl : handlers = (standard keymap).handlers := hr
  rfl

/-- A press bound to a text that opens no mode itself opens the command line with the text. -/
theorem dispatch_wish (hr : r.handlers = (standard keymap).handlers) (ha : r.active = .normal)
    (bound : keymap.bindingFor? press = some (.type text))
    (command : keymap.command.accepts press = false)
    (search : keymap.search.accepts press = false)
    (apart : keymap.search.accepts keymap.command.press = false) :
    (r.dispatch press s).2 =
      ({ r with active := .command, states := r.states.set .command (wished keymap text) },
        showLine (some (wished keymap text).contents)
          (s.withoutWish.resetCompletion.mapConsole .clearStatus)) := by
  have handle : (r.handlers.get r.active).handle press (r.states.get r.active) s =
      (true, r.states.get r.active,
        s.mapConsole fun c ↦ { c with prompt := some ⟨keymap.command.press, text⟩ }) := by
    rw [hr, ha]
    show handleNormal keymap press _ s = _
    rw [handleNormal, bound]
  -- the press itself does not move input; only the one that the wish stands for does
  have stays : r.modeAfter r.active press = r.active := by
    rw [ha, modeAfter_normal_eq_normal hr]
    exact ⟨command, search⟩
  have granted := grantPrompt_opens
    (s := s.mapConsole fun c ↦ { c with prompt := some ⟨keymap.command.press, text⟩ })
    hr ha apart rfl
  rw [dispatch_standard hr handle]
  dsimp only
  rw [PerMode.set_get, change_of_eq stays, granted]
  rfl

end Modes

namespace App

variable {σ : Type} [Client σ] {keymap : Keymap} {press : KeyPress} {text : String}

/-- The application is then the one in which the text has been typed by hand. -/
theorem onKey_prompt {app : App σ} (h : app.Idle keymap)
    (bound : keymap.bindingFor? press = some (.type text))
    (command : keymap.command.accepts press = false)
    (search : keymap.search.accepts press = false)
    (apart : keymap.search.accepts keymap.command.press = false) :
    app.onKey press = app.typing (keymap.command.press.typed?.getD ':') text.toList := by
  have opened := Modes.dispatch_wish (s := app.session) h.handlers h.active bound command search
    apart
  rw [Session.withoutWish_of_none h.prompt, Session.resetCompletion_of_idle h.completion] at opened
  exact onKey_eq opened

/-- **A prompt binding opens a command line with its text typed.**  In normal mode, after any events
and under any keymap in which the press of the command chord does not open a search: a press that is
bound to a text and opens no mode itself opens the command line.  The line is the prompt that the
command chord gives it, with the text behind it, and is shown; the status line is clear, no wish is
left over and no completion under way, and nothing else in the session has changed.  The client has
not been called.  Enter then executes exactly the text, unless it escapes or completes a name. -/
theorem prompt_binding_opens_line (keymap : Keymap) (config : Config) (launch : Launch)
    (files : FileReader) (client : Traced σ) (events : List Event)
    (normal : ((startWith keymap config launch files client).run events).modes.active = .normal)
    (bound : keymap.bindingFor? press = some (.type text))
    (command : keymap.command.accepts press = false)
    (search : keymap.search.accepts press = false)
    (apart : keymap.search.accepts keymap.command.press = false) :
    let app := (startWith keymap config launch files client).run events
    let line : InputLine := ⟨keymap.command.press.typed?.getD ':' :: text.toList⟩
    let opened := app.onKey press
    opened.modes =
        { app.modes with active := .command, states := app.modes.states.set .command line } ∧
      opened.session =
        { app.session with
          console := { app.session.console with
            status := .clear
            modeLine := some line.contents } } ∧
      opened.session.console.prompt = none ∧
      opened.session.interpreter.completion = .idle ∧
      opened.session.console.client.calls = app.session.console.client.calls ∧
      ∀ enter : KeyPress, enter.key = .enter → keymap.escape.accepts enter = false →
        keymap.complete.accepts enter = false →
        opened.onKey enter =
          { app with
            session := (Session.report
              ((app.session.mapConsole .clearStatus).executeLine text)).2 } := by
  intro app line opened
  obtain ⟨p, orderly, -⟩ := orderly_run keymap config launch files client events
  have idle : app.Idle keymap := idle_of_orderly orderly normal
  have opens : opened = app.typing (keymap.command.press.typed?.getD ':') text.toList :=
    onKey_prompt idle bound command search apart
  rw [opens]
  refine ⟨rfl, rfl, idle.prompt, idle.completion, rfl, fun enter key escape complete ↦ ?_⟩
  rw [onKey_enter idle escape complete key, String.ofList_toList]

/-- Where the command chord types nothing the prompt is a colon, and enter executes the text with
its blank at the end. -/
theorem prompt_binding_opens_line_to_connect :
    let config : Config := ⟨.default, Config.WrittenKeys.filled {}, none, none, none⟩
    let controlX : Chord := { key := .char 'x', control := true }
    let keymap : Keymap := { Keymap.ofNames config.keys with command := controlX }
    let client : Traced Canned := ⟨⟨["localhost"], false⟩, []⟩
    let app := (startWith keymap config {} (fun _ ↦ none) client).run [.tick]
    let opened := app.onKey (.plain (.char 'c'))
    app.modes.active = .normal ∧
      keymap.bindingFor? (.plain (.char 'c')) = some (.type "connect ") ∧
      opened.session.console.modeLine = some ":connect " ∧
      opened.session.console.client.calls = app.session.console.client.calls ∧
      opened.onKey (.plain .enter) =
        { app with
          session := (Session.report
            ((app.session.mapConsole .clearStatus).executeLine "connect ")).2 } ∧
      (opened.onKey (.plain .enter)).session.console.client.calls =
        app.session.console.client.calls ++ [.connect .default, .status] := by
  intro config controlX keymap client app opened
  have bound : keymap.bindingFor? (.plain (.char 'c')) = some (.type "connect ") := by
    decide +kernel
  obtain ⟨-, -, -, -, -, executes⟩ := prompt_binding_opens_line keymap config {}
    (fun _ ↦ none) client [.tick] (by decide +kernel) bound (by decide +kernel) (by decide +kernel)
    (by decide +kernel)
  have executed := executes (.plain .enter) rfl (by decide +kernel) (by decide +kernel)
  exact ⟨by decide +kernel, bound, by decide +kernel, by decide +kernel, executed,
    by decide +kernel⟩

end App
end Jukebox
