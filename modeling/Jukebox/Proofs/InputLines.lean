import Jukebox.Proofs.Tidy
import Mathlib.Data.List.Induction

/-!
# Input lines

After any events, the line of the active mode is the one in use: it is what the bottom line shows
and begins with the prompt chosen when its mode was last opened, and the other lines are empty.

* `App.Orderly` is the invariant of the application, kept by each event and true from the start.
* `App.LastOpening` finds the press that opened the active mode among the events so far.
* `App.input_lines` is the outcome.
-/

set_option autoImplicit false

namespace Jukebox

namespace App

variable {σ : Type} [Client σ]

/-- What holds of an application between events, its line in use having the prompt `p`. -/
structure Orderly (keymap : Keymap) (p : Char) (app : App σ) : Prop where
  handlers : app.modes.handlers = (Modes.standard keymap).handlers
  tidy : app.modes.Tidy p app.session
  catalogue : app.session.interpreter.catalogue = .standard σ
  prompt : app.session.console.prompt = none
  modeLine : app.session.console.modeLine = app.modes.wantedLine

/-- The press is the one among the events after which input last came out of normal mode and to the
mode `m`, where it has been since. -/
def LastOpening (app : App σ) (events : List Event) (m : Mode) (press : KeyPress) : Prop :=
  ∃ earlier later, events = earlier ++ .key press :: later ∧
    (app.run earlier).modes.active = .normal ∧
    ∀ some_later, some_later <+: later →
      (app.run (earlier ++ .key press :: some_later)).modes.active = m

variable {app : App σ} {keymap : Keymap} {p : Char}

theorem run_append (events events' : List Event) :
    app.run (events ++ events') = (app.run events).run events' :=
  List.foldl_append

theorem LastOpening.concat {events : List Event} {m : Mode} {press : KeyPress}
    (h : app.LastOpening events m press) {event : Event}
    (hm : (app.run (events ++ [event])).modes.active = m) :
    app.LastOpening (events ++ [event]) m press := by
  obtain ⟨earlier, later, rfl, hnormal, hlater⟩ := h
  refine ⟨earlier, later ++ [event], by simp, hnormal, fun l hl ↦ ?_⟩
  rcases List.prefix_concat_iff.1 hl with rfl | hl
  · rw [← hm]
    simp
  · exact hlater l hl

theorem lastOpening_concat {events : List Event} {press : KeyPress} {m : Mode}
    (hnormal : (app.run events).modes.active = .normal)
    (hm : (app.run (events ++ [.key press])).modes.active = m) :
    app.LastOpening (events ++ [.key press]) m press := by
  refine ⟨events, [], rfl, hnormal, fun l hl ↦ ?_⟩
  obtain rfl := List.prefix_nil.1 hl
  exact hm

/-! ## One event -/

theorem orderly_onKey (h : Orderly keymap p app) (press : KeyPress) :
    Orderly keymap
        (if app.modes.active = .normal then
          (app.onKey press).modes.active.promptChar (keymap.opener press)
        else p) (app.onKey press) ∧
      (app.modes.active ≠ .normal →
        (app.onKey press).modes.active = app.modes.active ∨
          (app.onKey press).modes.active = .normal) := by
  have hh := (Modes.handlers_dispatch (r := app.modes) (s := app.session) press).trans h.handlers
  rw [onKey]
  rcases hx : app.modes.dispatch press app.session with ⟨handled, r, s⟩
  rw [hx] at hh
  obtain ⟨tidy, active, catalogue, prompt, modeLine⟩ :=
    Modes.tidy_dispatch h.tidy h.handlers h.catalogue h.prompt hx
  exact ⟨⟨hh, tidy, catalogue, prompt, modeLine⟩, active⟩

theorem orderly_onTick (h : Orderly keymap p app) : Orderly keymap p app.onTick := by
  have refreshed {s : Session σ} (hs : app.session.SameFrame s) :
      Orderly keymap p { app with session := app.modes.refresh s } := by
    rw [Modes.refresh_standard h.handlers]
    exact ⟨h.handlers, h.tidy.of_completion hs.completion, hs.catalogue.trans h.catalogue,
      hs.console.prompt.trans h.prompt, rfl⟩
  rw [onTick]
  refine refreshed ?_
  split
  · exact ⟨rfl, rfl, Console.sameFrame_refreshServerStatus _⟩
  · exact .refl _

theorem orderly_onResize (h : Orderly keymap p app) : Orderly keymap p app.onResize :=
  ⟨h.handlers, h.tidy.of_completion rfl, h.catalogue, h.prompt, h.modeLine⟩

theorem orderly_step (h : Orderly keymap p app) (event : Event) :
    ∃ q, Orderly keymap q (app.step event) := by
  cases event with
  | key press => exact ⟨_, (orderly_onKey h press).1⟩
  | tick => exact ⟨p, orderly_onTick h⟩
  | resize => exact ⟨p, orderly_onResize h⟩

/-! ## Bringing the application up -/

section

variable (keymap : Keymap) (config : Config) (launch : Launch) (files : FileReader) (client : σ)

theorem sameFrame_startWith :
    ∃ s, (initialSession config launch client).SameFrame s ∧
      (startWith keymap config launch files client).session = Modes.showLine none s := by
  have stable := Session.stable_sameFrame (initialSession config launch client) rfl
  exact exists_startWith (fun c h ↦ stable.execute h c) (·.trans ⟨rfl, rfl, rfl, rfl, rfl⟩)
    (fun text h ↦ h.trans ⟨rfl, rfl, Console.sameFrame_error text _⟩)
    (stable.runStartup (startupLines config launch files) (.refl _))

theorem orderly_startWith (p : Char) :
    Orderly keymap p (startWith keymap config launch files client) := by
  obtain ⟨s, frame, hs⟩ := sameFrame_startWith keymap config launch files client
  refine ⟨rfl, ⟨fun {m} _ _ ↦ ?_, fun ha ↦ absurd rfl ha, fun {a} hc ↦ ?_⟩, ?_, ?_, ?_⟩
  · cases m <;> rfl
  · rw [hs] at hc
    cases (congrArg Completion.answer? frame.completion).symm.trans hc
  · rw [hs]
    exact frame.catalogue
  · rw [hs]
    exact frame.console.prompt
  · rw [hs]
    rfl

/-! ## Runs -/

/-- The application is orderly after all events, with the prompt of the last opening. -/
theorem orderly_run (events : List Event) :
    let app := startWith keymap config launch files client
    ∃ p, Orderly keymap p (app.run events) ∧
      ((app.run events).modes.active ≠ .normal → ∃ press,
        app.LastOpening events (app.run events).modes.active press ∧
          p = (app.run events).modes.active.promptChar (keymap.opener press)) := by
  intro app
  induction events using List.reverseRecOn with
  | nil =>
    exact ⟨':', orderly_startWith keymap config launch files client ':', fun ha ↦ absurd rfl ha⟩
  | append_singleton events event ih =>
    obtain ⟨p, orderly, opening⟩ := ih
    have still (ha : (app.run (events ++ [event])).modes.active = (app.run events).modes.active)
        (hne : (app.run (events ++ [event])).modes.active ≠ .normal) :
        ∃ press, app.LastOpening (events ++ [event])
          (app.run (events ++ [event])).modes.active press ∧
            p = (app.run (events ++ [event])).modes.active.promptChar (keymap.opener press) := by
      rw [ha] at hne ⊢
      obtain ⟨press, last, hp⟩ := opening hne
      exact ⟨press, last.concat ha, hp⟩
    cases event with
    | tick =>
      refine ⟨p, ?_, still ?_⟩
      · rw [run_append]
        exact orderly_onTick orderly
      · rw [run_append]
        rfl
    | resize =>
      refine ⟨p, ?_, still ?_⟩
      · rw [run_append]
        exact orderly_onResize orderly
      · rw [run_append]
        rfl
    | key press =>
      obtain ⟨orderly', hactive⟩ := orderly_onKey orderly press
      have hrun : app.run (events ++ [.key press]) = (app.run events).onKey press :=
        run_append events [.key press]
      rw [← hrun] at orderly' hactive
      by_cases ha : (app.run events).modes.active = .normal
      · rw [if_pos ha] at orderly'
        exact ⟨_, orderly', fun _ ↦ ⟨press, lastOpening_concat ha rfl, rfl⟩⟩
      · rw [if_neg ha] at orderly'
        refine ⟨p, orderly', fun hne ↦ still ((hactive ha).resolve_right hne) hne⟩

/-- **Lines of input keep to their modes.**  After any events, under any keymap: in normal mode both
lines are empty and the bottom line is free.  In a mode that takes a line, that line is not empty
and is what the bottom line shows, the other is empty, and the prompt is the one chosen when the
mode was last opened.  No wish is left over, and completion is under way only in command mode and
only while what is typed is its last answer. -/
theorem input_lines (events : List Event) :
    let app := startWith keymap config launch files client
    let modes := (app.run events).modes
    let session := (app.run events).session
    (modes.active = .normal → modes.states.command = .empty ∧ modes.states.search = .empty ∧
      session.console.modeLine = none) ∧
    (modes.active = .command → modes.states.command.isEmpty = false ∧
      modes.states.search = .empty ∧
      session.console.modeLine = some modes.states.command.contents) ∧
    (modes.active = .search → modes.states.search.isEmpty = false ∧
      modes.states.command = .empty ∧
      session.console.modeLine = some modes.states.search.contents) ∧
    (modes.active ≠ .normal → ∃ press, app.LastOpening events modes.active press ∧
      (modes.states.get modes.active).chars.head? =
        some (modes.active.promptChar (keymap.opener press))) ∧
    session.console.prompt = none ∧
    ∀ answer, session.interpreter.completion.answer? = some answer →
      modes.active = .command ∧ modes.states.command.text = answer := by
  intro app modes session
  obtain ⟨p, ⟨-, tidy, -, prompt, modeLine⟩, opening⟩ :=
    orderly_run keymap config launch files client events
  have empty {m : Mode} (hm : m ≠ .normal) (ha : modes.active ≠ m) :
      modes.states.get m = .empty := tidy.unused hm ha.symm
  have nonempty {m : Mode} (hm : m ≠ .normal) (ha : modes.active = m) :
      (modes.states.get m).isEmpty = false := by
    subst ha
    exact InputLine.isEmpty_of_head? (tidy.inUse hm)
  have shown {m : Mode} (hm : m ≠ .normal) (ha : modes.active = m) :
      session.console.modeLine = some (modes.states.get m).contents := by
    subst ha
    exact modeLine.trans (if_neg hm)
  refine ⟨fun ha ↦ ?_, fun ha ↦ ?_, fun ha ↦ ?_, fun ha ↦ ?_, prompt, fun answer ↦ tidy.completion⟩
  · exact ⟨empty (m := .command) (by decide) (by rw [ha]; decide),
      empty (m := .search) (by decide) (by rw [ha]; decide), modeLine.trans (if_pos ha)⟩
  · exact ⟨nonempty (by decide) ha, empty (m := .search) (by decide) (by rw [ha]; decide),
      shown (by decide) ha⟩
  · exact ⟨nonempty (by decide) ha, empty (m := .command) (by decide) (by rw [ha]; decide),
      shown (by decide) ha⟩
  · obtain ⟨press, last, rfl⟩ := opening ha
    exact ⟨press, last, tidy.inUse ha⟩

end

end App
end Jukebox
