import Jukebox.Client.Traced
import Jukebox.Proofs.TypedCommands
import Mathlib.Data.List.Infix

/-!
# Cancelling

Giving up a line leaves everything as it was before the line was opened, but for the status line,
which opening a line has cleared.  What was typed, deleted or completed in between makes no
difference, and it makes none either which other meanings the press has that gives the line up: it
neither executes the line nor completes a name.

* `App.editing` is the application with a line under way.
* `Modes.handle_line` and `Modes.handle_escape` say what a press does to a line under way, and
  `Modes.dispatch_line` and `Modes.dispatch_cancel` what it comes to.
* `App.onKey_open_line`, `App.onKey_editing` and `App.onKey_cancel` are the three kinds of presses:
  the one that opens the line, those after which it is still under way, and the one that gives it
  up.
* `App.cancelling_leaves_no_trace` is the outcome.
-/

set_option autoImplicit false

namespace Jukebox

namespace Modes

variable {σ : Type} [Client σ] {keymap : Keymap} {press : KeyPress} {r : Modes InputLine σ}
  {s : Session σ} {m : Mode}

/-! ## What a press does while a line is under way -/

/-- A press that neither escapes nor is enter does nothing but edit the line and complete. -/
theorem handle_line (hr : r.handlers = (standard keymap).handlers) (hm : m ≠ .normal)
    (escape : keymap.escape.accepts press = false) (enter : press.key ≠ .enter) (line : InputLine) :
    ∃ handled line' completion,
      (r.handlers.get m).handle press line s = (handled, line', s.withCompletion completion) := by
  rw [hr]
  cases m with
  | normal => exact absurd rfl hm
  | command =>
    cases complete : keymap.complete.accepts press with
    | true =>
      obtain ⟨completion, completed⟩ := exists_completeName line s
      refine ⟨true, (completeName line s).1, completion, ?_⟩
      rw [← completed]
      exact handleCommand_of_complete escape complete line s
    | false => exact ⟨_, _, .idle, handleCommand_of_edit escape complete enter line s⟩
  | search =>
    show ∃ handled line' completion, handleSearch keymap press line s = _
    rw [handleSearch, escape, if_neg (by decide), if_neg enter]
    exact ⟨_, _, _, rfl⟩

/-- A press that escapes empties the line, whatever else it means. -/
theorem handle_escape (hr : r.handlers = (standard keymap).handlers) (hm : m ≠ .normal)
    (escape : keymap.escape.accepts press = true) (line : InputLine) :
    ∃ completion,
      (r.handlers.get m).handle press line s = (true, .empty, s.withCompletion completion) := by
  rw [hr]
  cases m with
  | normal => exact absurd rfl hm
  | command => exact handleCommand_of_escape escape line s
  | search =>
    show ∃ completion, handleSearch keymap press line s = _
    rw [handleSearch, if_pos escape]
    exact ⟨_, rfl⟩

/-- A press that does not take input out of a mode that takes a line has changed the line and
completion, and nothing else. -/
theorem dispatch_line (hr : r.handlers = (standard keymap).handlers) (hm : m ≠ .normal)
    (ha : r.active = m) (hs : s.interpreter.catalogue = .standard σ)
    (hw : s.console.prompt = none) (stays : (r.dispatch press s).2.1.active = m) :
    ∃ line completion, (r.dispatch press s).2 =
      ({ r with states := r.states.set m line },
        showLine (some line.contents) (s.withCompletion completion)) := by
  rcases hx : (r.handlers.get m).handle press (r.states.get m) s with ⟨handled, line, s₁⟩
  have result := handled_handle keymap press m (r.states.get m) s
  rw [← hr, hx] at result
  have hw₁ : s₁.console.prompt = none :=
    ((result.prompt hs).resolve_right fun wished ↦ hm wished.1).trans hw
  have dispatched := dispatch_in_line hr hm ha hx hw₁
  split at dispatched
  -- had the line come to its end, input would be back in normal mode
  · rw [dispatched] at stays
    exact absurd stays.symm hm
  · rename_i goesOn
    rw [Bool.or_eq_true, not_or, Bool.not_eq_true, Bool.not_eq_true] at goesOn
    obtain ⟨_, line', completion, handle⟩ := handle_line (s := s) hr hm goesOn.1
      (ne_enter_of_stays goesOn.2) (r.states.get m)
    cases hx.symm.trans handle
    exact ⟨line, completion, dispatched⟩

/-- A press that escapes takes input back to normal mode, and the line is given up. -/
theorem dispatch_cancel (hr : r.handlers = (standard keymap).handlers) (hm : m ≠ .normal)
    (ha : r.active = m) (hw : s.console.prompt = none)
    (escape : keymap.escape.accepts press = true) :
    ∃ completion, (r.dispatch press s).2 =
      ({ r with active := .normal, states := r.states.set m .empty },
        showLine none (s.withCompletion completion)) := by
  obtain ⟨completion, handle⟩ := handle_escape (s := s) hr hm escape (r.states.get m)
  rw [dispatch_in_line hr hm ha handle hw, escape, Bool.true_or, if_pos rfl, resetFor]
  split
  · exact ⟨.idle, rfl⟩
  · exact ⟨completion, rfl⟩

end Modes

namespace App

variable {σ : Type} [Client σ] {app : App σ} {keymap : Keymap} {m : Mode} {press : KeyPress}
  {line : InputLine} {completion : Completion}

/-- The application with a line under way in the mode `m`. -/
def editing (m : Mode) (line : InputLine) (completion : Completion) (app : App σ) : App σ where
  modes := { app.modes with active := m, states := app.modes.states.set m line }
  session := Modes.showLine (some line.contents)
    ((app.session.mapConsole .clearStatus).withCompletion completion)

/-- The press that opens a line. -/
theorem onKey_open_line (h : app.Idle keymap) (hm : m ≠ .normal)
    (free : keymap.bindingFor? press = none) (enters : (app.onKey press).modes.active = m) :
    app.onKey press = app.editing m ⟨[m.promptChar press]⟩ .idle := by
  have handle : (app.modes.handlers.get .normal).handle press (app.modes.states.get .normal)
      app.session = (false, app.modes.states.get .normal, app.session) := by
    rw [h.handlers]
    show Modes.handleNormal keymap press _ app.session = _
    rw [Modes.handleNormal, free]
  have dispatched {moved modes session} (change : app.modes.change press app.session =
      (moved, modes, session)) (hw : session.console.prompt = none) :
      app.onKey press = ⟨modes, Modes.showLine modes.wantedLine session⟩ :=
    onKey_eq (Modes.dispatch_of_none h.handlers h.active handle
      (by rw [PerMode.set_get, change]) hw)
  by_cases next : app.modes.modeAfter .normal press = .normal
  · rw [dispatched (Modes.change_of_eq (by rw [h.active, next])) h.prompt] at enters
    exact absurd (enters.symm.trans h.active) hm
  · have opens := Modes.change_open (s := app.session) h.handlers h.active next rfl
    rw [Modes.resetFor, Session.resetCompletion_of_idle h.completion, ite_self] at opens
    have opened := dispatched opens h.prompt
    rw [opened] at enters ⊢
    obtain rfl : app.modes.modeAfter .normal press = m := enters
    have idle : (app.session.mapConsole .clearStatus).withCompletion .idle =
        app.session.mapConsole .clearStatus :=
      Session.resetCompletion_of_idle h.completion
    rw [editing, idle, Modes.wantedLine, if_neg next, PerMode.get_set, if_pos rfl]

/-- A press after which the line is still under way. -/
theorem onKey_editing (h : app.Idle keymap) (hm : m ≠ .normal)
    (stays : ((app.editing m line completion).onKey press).modes.active = m) :
    ∃ line' completion',
      (app.editing m line completion).onKey press = app.editing m line' completion' := by
  obtain ⟨line', completion', dispatched⟩ := Modes.dispatch_line
    (r := (app.editing m line completion).modes) (s := (app.editing m line completion).session)
    h.handlers hm rfl h.catalogue h.prompt stays
  refine ⟨line', completion', (onKey_eq dispatched).trans ?_⟩
  rw [editing, editing]
  dsimp only
  rw [PerMode.set_set]
  rfl

/-- Presses after each of which the line is still under way. -/
theorem run_editing (h : app.Idle keymap) (hm : m ≠ .normal) (presses : List KeyPress)
    (under_way : ∀ typed, typed <+: presses →
      ((app.editing m line completion).run (typed.map .key)).modes.active = m) :
    ∃ line' completion',
      (app.editing m line completion).run (presses.map .key) = app.editing m line' completion' := by
  induction presses generalizing line completion with
  | nil => exact ⟨line, completion, rfl⟩
  | cons press presses ih =>
    obtain ⟨line', completion', edited⟩ :=
      onKey_editing h hm (under_way [press] (by simp))
    show ∃ _ _, ((app.editing m line completion).onKey press).run (presses.map .key) = _
    rw [edited]
    refine ih fun typed some_typed ↦ ?_
    rw [← edited]
    exact under_way (press :: typed) (List.cons_prefix_cons.2 ⟨rfl, some_typed⟩)

/-- The press that gives the line up. -/
theorem onKey_cancel (h : app.Idle keymap) (hm : m ≠ .normal)
    (unused : app.modes.states.get m = .empty) (escape : keymap.escape.accepts press = true)
    (line : InputLine) (completion : Completion) :
    ∃ completion', (app.editing m line completion).onKey press =
      { app with
        session := (app.session.mapConsole .clearStatus).withCompletion completion' } := by
  obtain ⟨completion', dispatched⟩ := Modes.dispatch_cancel
    (r := (app.editing m line completion).modes) (s := (app.editing m line completion).session)
    h.handlers hm rfl h.prompt escape
  refine ⟨completion', (onKey_eq dispatched).trans ?_⟩
  have given_up : ({ app.modes with active := .normal, states := app.modes.states.set m .empty } :
      Modes InputLine σ) = app.modes := by
    rw [← h.active, ← unused, PerMode.set_get]
  rw [editing]
  dsimp only
  rw [PerMode.set_set, given_up]
  exact congrArg (App.mk _)
    (Modes.showLine_of_eq (s := (app.session.mapConsole .clearStatus).withCompletion completion')
      h.modeLine)

/-- **Cancelling leaves no trace.**  In normal mode, after any events and under any keymap: when a
press without a binding opens a line, any presses follow after each of which the line is still under
way, and then one that escapes, whatever else it means, the application is what it was before, but
for the status line, which is clear.  So is the client: if it is one that is traced, then no call
has been made to it. -/
theorem cancelling_leaves_no_trace (keymap : Keymap) (config : Config) (launch : Launch)
    (files : FileReader) (client : σ) (events : List Event) (opening cancel : KeyPress)
    (presses : List KeyPress) (m : Mode) (hm : m ≠ .normal)
    (normal : ((startWith keymap config launch files client).run events).modes.active = .normal)
    (free : keymap.bindingFor? opening = none)
    (under_way : ∀ typed, typed <+: presses →
      (((startWith keymap config launch files client).run events).run
        (.key opening :: typed.map .key)).modes.active = m)
    (escape : keymap.escape.accepts cancel = true) :
    let app := (startWith keymap config launch files client).run events
    let after := app.run (.key opening :: presses.map .key ++ [.key cancel])
    after = { app with session :=
        { app.session with console := { app.session.console with status := .clear } } } ∧
      after.session.console.status = .clear ∧
      after.modes.active = .normal ∧ after.modes.states.command = .empty ∧
      after.modes.states.search = .empty ∧ after.session.console.modeLine = none ∧
      after.session.interpreter.completion = .idle := by
  intro app after
  obtain ⟨p, orderly, -⟩ := orderly_run keymap config launch files client events
  have idle : app.Idle keymap := idle_of_orderly orderly normal
  have empty {m : Mode} (hm : m ≠ .normal) : app.modes.states.get m = .empty :=
    orderly.tidy.unused hm (by rw [normal]; exact hm)
  have opened : app.onKey opening = app.editing m ⟨[m.promptChar opening]⟩ .idle :=
    onKey_open_line idle hm free (under_way [] (List.nil_prefix))
  obtain ⟨line, completion, edited⟩ := run_editing idle hm presses
    fun typed some_typed ↦ by
      rw [← opened]
      exact under_way typed some_typed
  obtain ⟨completion', cancelled⟩ := onKey_cancel idle hm (empty hm) escape line completion
  have run : after = { app with
      session := (app.session.mapConsole .clearStatus).withCompletion completion' } := by
    show (app.onKey opening).run (presses.map .key ++ [.key cancel]) = _
    rw [opened, run_append, edited]
    exact cancelled
  have normal_again : after.modes.active = .normal := by
    rw [run]
    exact normal
  -- whichever mode the line was in, there is no completion under way in normal mode
  have idle_again : after.Idle keymap := by
    obtain ⟨q, orderly', -⟩ := orderly_run keymap config launch files client
      (events ++ (.key opening :: presses.map .key ++ [.key cancel]))
    rw [run_append] at orderly'
    exact idle_of_orderly orderly' normal_again
  have law : after = { app with session :=
      { app.session with console := { app.session.console with status := .clear } } } := by
    have ended := idle_again.completion
    rw [run] at ended ⊢
    obtain rfl : completion' = .idle := ended
    exact congrArg (App.mk _)
      (Session.resetCompletion_of_idle (s := app.session.mapConsole .clearStatus) idle.completion)
  refine ⟨law, ?cleared, normal_again, idle_again.line, ?search, idle_again.modeLine,
    idle_again.completion⟩
  case cleared => rw [law]
  case search =>
    rw [law]
    exact empty (m := .search) (by decide)

/-- Escaping with enter executes nothing, though a whole command has been typed and enter would end
its line.  What the status line has shown of the connection is gone. -/
theorem cancelling_leaves_no_trace_with_enter :
    let config : Config := ⟨.default, Config.WrittenKeys.filled {}, none, none, none⟩
    let keymap : Keymap := { Keymap.ofNames config.keys with escape := .plain .enter }
    let client : Traced Canned := ⟨⟨["localhost"], false⟩, []⟩
    let presses : List KeyPress := "clear".toList.map fun c ↦ .plain (.char c)
    let app := (startWith keymap config {} (fun _ ↦ none) client).run [.tick]
    let after := app.run (.key (.plain (.char ':')) :: presses.map .key ++ [.key (.plain .enter)])
    app.modes.active = .normal ∧
      (app.run (.key (.plain (.char ':')) :: presses.map .key)).modes.states.command.text =
        "clear" ∧
      app.session.console.status = .info "Connected to localhost:6600" ∧
      after.session.console.status = .clear ∧
      after = { app with session :=
        { app.session with console := { app.session.console with status := .clear } } } ∧
      after.session.console.client.calls = app.session.console.client.calls := by
  intro config keymap client presses app after
  have under_way : ∀ typed, typed <+: presses →
      (app.run (.key (.plain (.char ':')) :: typed.map .key)).modes.active = .command := by
    have each : ∀ typed ∈ presses.inits,
        (app.run (.key (.plain (.char ':')) :: typed.map .key)).modes.active = .command := by
      decide +kernel
    exact fun typed some_typed ↦ each typed ((List.mem_inits typed presses).2 some_typed)
  have typed : (app.run (.key (.plain (.char ':')) :: presses.map .key)).modes.states.command.text =
      "clear" := by
    decide +kernel
  have shown : app.session.console.status = .info "Connected to localhost:6600" := by
    decide +kernel
  have law : after = { app with session :=
      { app.session with console := { app.session.console with status := .clear } } } :=
    (cancelling_leaves_no_trace keymap config {} (fun _ ↦ none) client [.tick]
      (.plain (.char ':')) (.plain .enter) presses .command (by decide) rfl
      (by decide +kernel) under_way (by decide +kernel)).1
  refine ⟨rfl, typed, shown, ?_, law, ?_⟩
  · rw [law]
  · rw [law]

end App
end Jukebox
