import Jukebox.Proofs.TypedCommands

/-!
# Leaving command mode

There are four ways out of command mode: escaping, deleting the prompt, sending off the line, and
one by which the line is lost.  Dealing with a press, command mode looks whether it escapes and
whether it completes a name before it looks at the key, but for whether it ends the line only the key
counts.  Under a keymap that completes names with enter, what is typed is therefore thrown away.

* `App.closed` is the application once the command line is closed over a session.
* `App.onKey_command` is what a press in command mode comes to.
* `App.Leaves` lists the ways out, and `App.leaves_command_mode` says that there are no others.
* `App.line_lost_to_completion`: the last of them can be taken.
-/

set_option autoImplicit false

namespace Jukebox

/-! ## The end of a line -/

/-- A line that is gone after a backspace was no more than its prompt. -/
theorem InputLine.chars_of_isEmpty_backspace {l : InputLine} {p : Char}
    (h : l.chars.head? = some p) (gone : l.backspace.isEmpty = true) : l.chars = [p] := by
  obtain ⟨_ | ⟨c, _ | ⟨c', cs⟩⟩⟩ := l
  · cases h
  · cases h
    rfl
  · cases gone

namespace Modes

variable {press : KeyPress} {line : InputLine} {p : Char}

/-- An edited line is ended by enter, or by the backspace that deletes its prompt. -/
theorem eq_backspace_of_endsLine (enter : press.key ≠ .enter)
    (ends : endsLine (edit press line).2 press = true) (h : line.chars.head? = some p) :
    press.key = .backspace ∧ line.chars = [p] := by
  have gone : press.key = .backspace ∧ (edit press line).2.isEmpty = true := by
    simpa [endsLine, enter] using ends
  refine ⟨gone.1, InputLine.chars_of_isEmpty_backspace h ?_⟩
  have isEmpty := gone.2
  rwa [edit, if_pos gone.1] at isEmpty

end Modes

namespace App

variable {σ : Type} [Client σ] {app : App σ} {keymap : Keymap} {p : Char} {press : KeyPress}

/-- The application with its command line closed, over what has become of the session. -/
def closed (app : App σ) (s : Session σ) : App σ where
  modes := { app.modes with
    active := .normal
    states := app.modes.states.set .command .empty }
  session := Modes.showLine none s.resetCompletion

/-- The application with another command line, over what has become of the session. -/
def withLine (app : App σ) (line : InputLine) (s : Session σ) : App σ where
  modes := { app.modes with states := app.modes.states.set .command line }
  session := Modes.showLine (some line.contents) s

/-! ## A press in command mode -/

/-- A press in command mode is dealt with, and then closes the line if it escapes or ends it. -/
theorem onKey_command (h : app.Orderly keymap p) (ha : app.modes.active = .command)
    {handled : Bool} {line : InputLine} {s : Session σ}
    (handle : Modes.handleCommand keymap press app.modes.states.command app.session =
      (handled, line, s)) (hw : s.console.prompt = none) :
    app.onKey press =
      if keymap.escape.accepts press || Modes.endsLine line press then app.closed s
      else app.withLine line s := by
  have handle' : (app.modes.handlers.get .command).handle press (app.modes.states.get .command)
      app.session = (handled, line, s) := by
    rw [h.handlers]
    exact handle
  have dispatched := Modes.dispatch_in_line h.handlers (by decide) ha handle' hw
  split at dispatched
  · rw [onKey_eq dispatched, if_pos ‹_›]
    rfl
  · rw [onKey_eq dispatched, if_neg ‹_›]
    rfl

/-! ## The ways out -/

/-- The ways out of command mode, and what is left behind on each. -/
inductive Leaves (keymap : Keymap) (app : App σ) (press : KeyPress) : App σ → Prop
  /-- The line is given up. -/
  | escaped (escape : keymap.escape.accepts press = true) :
      Leaves keymap app press (app.closed app.session)
  /-- The prompt, and there is no more than that, is deleted. -/
  | deleted {p : Char} (escape : keymap.escape.accepts press = false)
      (complete : keymap.complete.accepts press = false) (backspace : press.key = .backspace)
      (prompt : app.modes.states.command.chars = [p]) :
      Leaves keymap app press (app.closed app.session)
  /-- What is typed is executed, and that is all that happens. -/
  | executed (escape : keymap.escape.accepts press = false)
      (complete : keymap.complete.accepts press = false) (enter : press.key = .enter) :
      Leaves keymap app press
        (app.closed (Session.report (app.session.resetCompletion.executeLine app.typed)).2)
  /-- A name is completed, and the line ends all the same: nothing is executed. -/
  | lost (escape : keymap.escape.accepts press = false)
      (complete : keymap.complete.accepts press = true) (enter : press.key = .enter) :
      Leaves keymap app press (app.closed app.session)

/-- A press that leaves command mode closes the line. -/
theorem closed_of_leaves (h : app.Orderly keymap p) (ha : app.modes.active = .command)
    {handled : Bool} {line : InputLine} {s : Session σ}
    (handle : Modes.handleCommand keymap press app.modes.states.command app.session =
      (handled, line, s)) (hw : s.console.prompt = none)
    (leaves : (app.onKey press).modes.active ≠ .command) :
    (keymap.escape.accepts press = true ∨ Modes.endsLine line press = true) ∧
      app.onKey press = app.closed s := by
  have pressed := onKey_command h ha handle hw
  split at pressed
  · rename_i closes
    exact ⟨by simpa using closes, pressed⟩
  · rw [pressed] at leaves
    exact absurd ha leaves

omit [Client σ] in
/-- Where completion stands makes no difference to a line that is closed. -/
theorem closed_withCompletion (completion : Completion) (s : Session σ) :
    app.closed (s.withCompletion completion) = app.closed s := rfl

/-- There is no other way out. -/
theorem leaves_onKey (h : app.Orderly keymap p) (ha : app.modes.active = .command)
    (leaves : (app.onKey press).modes.active ≠ .command) :
    app.Leaves keymap press (app.onKey press) := by
  have prompt : app.modes.states.command.chars.head? = some p := by
    have inUse := h.tidy.inUse (by rw [ha]; decide)
    rwa [ha] at inUse
  cases escape : keymap.escape.accepts press with
  | true =>
    obtain ⟨completion, handle⟩ :=
      Modes.handleCommand_of_escape escape app.modes.states.command app.session
    rw [(closed_of_leaves h ha handle h.prompt leaves).2, closed_withCompletion]
    exact .escaped escape
  | false =>
    have unescaped : keymap.escape.accepts press ≠ true := by simp [escape]
    cases complete : keymap.complete.accepts press with
    | true =>
      have handle := Modes.handleCommand_of_complete escape complete
        app.modes.states.command app.session
      obtain ⟨completion, completed⟩ :=
        Modes.exists_completeName app.modes.states.command app.session
      have kept := Modes.head?_completeName (s := app.session) prompt
      rcases hx : Modes.completeName app.modes.states.command app.session with ⟨line, s⟩
      rw [hx] at handle completed kept
      obtain rfl : s = app.session.withCompletion completion := completed
      obtain ⟨ends, closes⟩ := closed_of_leaves h ha handle h.prompt leaves
      -- the prompt is still there, so the line cannot have ended in any other way
      have enter : press.key = .enter := by
        by_contra enter
        rw [Modes.endsLine_eq_false kept enter] at ends
        exact ends.elim unescaped nofun
      rw [closes, closed_withCompletion]
      exact .lost escape complete enter
    | false =>
      by_cases enter : press.key = .enter
      · have handle := Modes.handleCommand_of_enter escape complete enter
          app.modes.states.command app.session
        have frame := Session.sameFrame_report_execute (s := app.session.resetCompletion)
          h.catalogue (.ofLine app.typed)
        rw [(closed_of_leaves h ha handle (frame.console.prompt.trans h.prompt) leaves).2]
        exact .executed escape complete enter
      · have handle := Modes.handleCommand_of_edit escape complete enter
          app.modes.states.command app.session
        obtain ⟨ends, closes⟩ := closed_of_leaves h ha handle h.prompt leaves
        obtain ⟨backspace, only⟩ :=
          Modes.eq_backspace_of_endsLine enter (ends.resolve_left unescaped) prompt
        rw [closes]
        exact .deleted escape complete backspace only

/-- **The ways out of command mode.**  After any events and under any keymap, a press that leaves
command mode escapes, or is the backspace that deletes the prompt, or is enter.  Enter executes what
is typed, once and before anything else happens, unless it is also the chord for completing a name:
then nothing is executed. -/
theorem leaves_command_mode (keymap : Keymap) (config : Config) (launch : Launch)
    (files : FileReader) (client : σ) (events : List Event) (press : KeyPress) :
    let app := (startWith keymap config launch files client).run events
    app.modes.active = .command → (app.onKey press).modes.active ≠ .command →
      app.Leaves keymap press (app.onKey press) := by
  intro app ha leaves
  obtain ⟨p, orderly, -⟩ := orderly_run keymap config launch files client events
  exact leaves_onKey orderly ha leaves

/-- Under the default keymap enter executes the line. -/
theorem leaves_command_mode_by_quitting :
    let config : Config := ⟨.default, Config.WrittenKeys.filled {}, none, none, none⟩
    let keymap : Keymap := .ofNames config.keys
    let client : Canned := ⟨["localhost"], false⟩
    let events : List Event := ":quit".toList.map fun c ↦ .key (.plain (.char c))
    let app := (startWith keymap config {} (fun _ ↦ none) client).run events
    let after := app.onKey (.plain .enter)
    app.modes.active = .command ∧ after.modes.active ≠ .command ∧
      app.Leaves keymap (.plain .enter) after ∧ app.typed = "quit" ∧
      after.session.console.shutdown = true := by
  intro config keymap client events app after
  have active : app.modes.active = .command := by decide +kernel
  have leaves : after.modes.active ≠ .command := by decide +kernel
  have way := leaves_command_mode keymap config {} (fun _ ↦ none) client events (.plain .enter)
    (by decide +kernel) (by decide +kernel)
  exact ⟨active, leaves, way, by decide +kernel, by decide +kernel⟩

/-- Under a keymap that completes names with enter, enter leaves command mode and nothing is
executed, although it neither escapes nor deletes anything. -/
theorem line_lost_to_completion :
    let config : Config :=
      ⟨.default, Config.WrittenKeys.filled { complete := some "enter" }, none, none, none⟩
    let keymap : Keymap := .ofNames config.keys
    let client : Canned := ⟨["localhost"], false⟩
    let events : List Event := ":quit".toList.map fun c ↦ .key (.plain (.char c))
    let app := (startWith keymap config {} (fun _ ↦ none) client).run events
    let after := app.onKey (.plain .enter)
    app.modes.active = .command ∧ after.modes.active = .normal ∧
      keymap.escape.accepts (.plain .enter) = false ∧ app.typed = "quit" ∧
      after.session.history = app.session.history ∧ after.session.console.shutdown = false := by
  decide +kernel

end App
end Jukebox
