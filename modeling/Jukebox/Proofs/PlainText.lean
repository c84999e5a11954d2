import Jukebox.Proofs.TypedCommands

/-!
# What is typed into a line

In a mode that takes a line, a press that has no other meaning there types its character or does
nothing at all.  It types if its key is a character that is no control and none of control, alt and
super is held.  The other modifiers make no difference: shift has shaped the character already, and
meta and hyper are not looked at.

* `KeyPress.TypesChar` says which presses type, and `KeyPress.typed?_eq_some_iff` that the lines
  go by it.
* `Modes.dispatch_edit` is what a press comes to that only edits the line, in either mode.
* `App.types_or_ignored` is the outcome.
* `App.types_with_meta_or_hyper`: a character is typed with meta held, and with hyper.
-/

set_option autoImplicit false

namespace Jukebox

/-! ## Presses that type -/

/-- The press types a character: its key is that character, which is no control, and none of
control, alt and super is held. -/
structure KeyPress.TypesChar (press : KeyPress) (c : Char) : Prop where
  key : press.key = .char c
  printable : isControl c = false
  control : press.modifiers.control = false
  alt : press.modifiers.alt = false
  super : press.modifiers.super = false

theorem KeyPress.typed?_eq_some_iff {press : KeyPress} {c : Char} :
    press.typed? = some c ↔ press.TypesChar c := by
  constructor
  · intro h
    rw [typed?] at h
    split at h
    · rename_i d key
      rw [Option.ite_none_left_eq_some] at h
      obtain ⟨free, rfl⟩ := h.imp_right Option.some.inj
      simp only [Bool.or_eq_true, not_or, Bool.not_eq_true] at free
      obtain ⟨⟨⟨control, alt⟩, super⟩, printable⟩ := free
      exact ⟨key, printable, control, alt, super⟩
    · cases h
  · rintro ⟨key, printable, control, alt, super⟩
    rw [typed?, key]
    simp [printable, control, alt, super]

namespace Modes

variable {press : KeyPress} {line : InputLine}

theorem edit_of_typed? (backspace : press.key ≠ .backspace) {c : Char}
    (types : press.typed? = some c) : edit press line = (true, line.push c) := by
  rw [edit, if_neg backspace, types]

theorem edit_of_untyped (backspace : press.key ≠ .backspace) (untyped : press.typed? = none) :
    edit press line = (false, line) := by
  rw [edit, if_neg backspace, untyped]

variable {σ : Type} [Client σ] {keymap : Keymap} {r : Modes InputLine σ} {s : Session σ} {m : Mode}

/-! ## Presses that only edit -/

/-- A press that neither escapes, nor completes a name, nor ends the line, edits it. -/
theorem handle_edit (hr : r.handlers = (standard keymap).handlers) (hm : m ≠ .normal)
    (escape : keymap.escape.accepts press = false)
    (complete : m = .command → keymap.complete.accepts press = false)
    (enter : press.key ≠ .enter) (line : InputLine) :
    (r.handlers.get m).handle press line s =
      ((edit press line).1, (edit press line).2, resetFor m s) := by
  rw [hr]
  cases m with
  | normal => exact absurd rfl hm
  | command => exact handleCommand_of_edit escape (complete rfl) enter line s
  | search =>
    show handleSearch keymap press line s = _
    rw [handleSearch, escape, if_neg (by decide), if_neg enter]
    rfl

/-- Unless it deletes, the line is still under way then, and nothing else has happened but that
completion has ended. -/
theorem dispatch_edit (hr : r.handlers = (standard keymap).handlers) (hm : m ≠ .normal)
    (ha : r.active = m) (escape : keymap.escape.accepts press = false)
    (complete : m = .command → keymap.complete.accepts press = false)
    (enter : press.key ≠ .enter) (backspace : press.key ≠ .backspace)
    (hw : s.console.prompt = none) :
    (r.dispatch press s).2 =
      ({ r with states := r.states.set m (edit press (r.states.get m)).2 },
        showLine (some (edit press (r.states.get m)).2.contents) (resetFor m s)) := by
  have goesOn : endsLine (edit press (r.states.get m)).2 press = false := by
    simp [endsLine, enter, backspace]
  have unwished : (resetFor m s).console.prompt = none := by
    rw [resetFor]
    split <;> exact hw
  rw [dispatch_in_line hr hm ha (handle_edit hr hm escape complete enter _) unwished, escape,
    goesOn]
  rfl

end Modes

namespace App

variable {σ : Type} [Client σ]

/-- **A press types its character or does nothing.**  In a mode that takes a line, after any events
and under any keymap, take a press that neither escapes nor completes a name there and is not enter
or backspace.  The mode stays, and the line grows by a character exactly if that is the press's own
one, no control, and none of control, alt and super is held; in every other case no line and no mode
has changed. -/
theorem types_or_ignored (keymap : Keymap) (config : Config) (launch : Launch) (files : FileReader)
    (client : σ) (events : List Event) (press : KeyPress) (m : Mode) (hm : m ≠ .normal)
    (active : ((startWith keymap config launch files client).run events).modes.active = m)
    (escape : keymap.escape.accepts press = false)
    (complete : m = .command → keymap.complete.accepts press = false)
    (enter : press.key ≠ .enter) (backspace : press.key ≠ .backspace) :
    let app := (startWith keymap config launch files client).run events
    let after := app.onKey press
    after.modes.active = m ∧
      (∀ c, (after.modes.states.get m).chars = (app.modes.states.get m).chars ++ [c] ↔
        press.TypesChar c) ∧
      ((∀ c, ¬ press.TypesChar c) → after.modes = app.modes) := by
  intro app after
  obtain ⟨p, orderly, -⟩ := orderly_run keymap config launch files client events
  have pressed : after.modes =
      { app.modes with
        states := app.modes.states.set m (Modes.edit press (app.modes.states.get m)).2 } :=
    congrArg App.modes (onKey_eq (Modes.dispatch_edit orderly.handlers hm active escape complete
      enter backspace orderly.prompt))
  have line : after.modes.states.get m = (Modes.edit press (app.modes.states.get m)).2 := by
    rw [pressed, PerMode.get_set, if_pos rfl]
  cases typed : press.typed? with
  | some c =>
    have types : press.TypesChar c := KeyPress.typed?_eq_some_iff.1 typed
    rw [Modes.edit_of_typed? backspace typed] at line
    refine ⟨?_, fun d ↦ ?_, fun none_typed ↦ absurd types (none_typed c)⟩
    · rw [pressed]
      exact active
    · rw [line, ← KeyPress.typed?_eq_some_iff, typed, Option.some_inj]
      show _ ++ [c] = _ ↔ _
      rw [List.append_cancel_left_eq, List.cons.injEq, and_iff_left rfl]
  | none =>
    rw [Modes.edit_of_untyped backspace typed] at line pressed
    have same : after.modes = app.modes := by
      rw [pressed, PerMode.set_get]
    refine ⟨?_, fun c ↦ ?_, fun _ ↦ same⟩
    · rw [same]
      exact active
    · rw [line, ← KeyPress.typed?_eq_some_iff, typed]
      simp

/-- A letter with shift is typed into a search, and one with control is not. -/
theorem types_or_ignored_in_a_search :
    let config : Config := ⟨.default, Config.WrittenKeys.filled {}, none, none, none⟩
    let keymap : Keymap := .ofNames config.keys
    let client : Canned := ⟨["localhost"], false⟩
    let shiftE : KeyPress := ⟨.char 'É', { shift := true }⟩
    let controlE : KeyPress := ⟨.char 'e', { control := true }⟩
    let app := (startWith keymap config {} (fun _ ↦ none) client).run
      [.key (.plain (.char '/')), .key (.plain (.char 'b'))]
    app.modes.active = .search ∧ app.modes.states.search.chars = ['/', 'b'] ∧
      shiftE.TypesChar 'É' ∧
      ((app.onKey shiftE).modes.states.get .search).chars =
        (app.modes.states.get .search).chars ++ ['É'] ∧
      (∀ c, ¬ controlE.TypesChar c) ∧ (app.onKey controlE).modes = app.modes := by
  intro config keymap client shiftE controlE app
  have typed : shiftE.TypesChar 'É' := ⟨rfl, by decide, rfl, rfl, rfl⟩
  have untyped : ∀ c, ¬ controlE.TypesChar c := fun c types ↦ by cases types.control
  obtain ⟨-, grows, -⟩ := types_or_ignored keymap config {} (fun _ ↦ none) client
    [.key (.plain (.char '/')), .key (.plain (.char 'b'))] shiftE .search (by decide)
    (by decide +kernel) (by decide +kernel) nofun (by decide) (by decide)
  obtain ⟨-, -, ignored⟩ := types_or_ignored keymap config {} (fun _ ↦ none) client
    [.key (.plain (.char '/')), .key (.plain (.char 'b'))] controlE .search (by decide)
    (by decide +kernel) (by decide +kernel) nofun (by decide) (by decide)
  have grown := (grows 'É').2 typed
  refine ⟨by decide +kernel, by decide +kernel, typed, ?_, untyped, ignored untyped⟩
  simp only [app]
  exact grown

/-- On a command line a letter is typed although meta is held, and another although hyper is,
neither of which is a shift. -/
theorem types_with_meta_or_hyper :
    let config : Config := ⟨.default, Config.WrittenKeys.filled {}, none, none, none⟩
    let keymap : Keymap := .ofNames config.keys
    let client : Canned := ⟨["localhost"], false⟩
    let metaA : KeyPress := ⟨.char 'a', { metaKey := true }⟩
    let hyperB : KeyPress := ⟨.char 'b', { hyper := true }⟩
    let app := (startWith keymap config {} (fun _ ↦ none) client).run [.key (.plain (.char ':'))]
    app.modes.active = .command ∧
      keymap.escape.accepts metaA = false ∧ keymap.complete.accepts metaA = false ∧
      keymap.escape.accepts hyperB = false ∧ keymap.complete.accepts hyperB = false ∧
      app.modes.states.command.chars = [':'] ∧
      (app.onKey metaA).modes.states.command.chars = [':', 'a'] ∧
      (app.onKey hyperB).modes.states.command.chars = [':', 'b'] := by
  decide +kernel

end App
end Jukebox
