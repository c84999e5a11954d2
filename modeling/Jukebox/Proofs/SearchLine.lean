import Jukebox.Client.Traced
import Jukebox.Proofs.AliasExpansion
import Jukebox.Proofs.TypedCommands

/-!
# The search line and the search command

A pattern that is typed into the search line reaches the operation as it is, blanks and all, whereas
one behind the command `search` has been cut off the name and trimmed.  The two come to the same all
the same: the operation trims what it is given, and an alias drops it.

* `Session.SameState` leaves out how the commands that have been run were written;
  `Session.matches_execute_search` says that blanks around a pattern make no other difference.
* `Modes.searchFor` is what enter comes to on the search line, by `Modes.dispatch_enter_search`.
* `Session.Responsive` holds of the application's own session at all times, by
  `App.responsive_run`.
* `App.search_line_is_search_command` is the outcome.
-/

set_option autoImplicit false

namespace Jukebox

open CommandM

/-! ## Blanks around a pattern -/

variable {σ : Type}

theorem Catalogue.get?_search [Client σ] :
    (standard σ).get? "search" =
      some ⟨"search", "Search the queue for a pattern", .player, fun _ ↦ Builtin.search⟩ :=
  get?_standard_eq_some_iff.2 ⟨by simp [builtins], rfl⟩

/-- The operation trims its pattern. -/
theorem Builtin.act_search_congr [Client σ] {args args' : String}
    (h : Text.trim args = Text.trim args') (s : Scope σ) :
    act (search args) s = act (search args') s := by
  rw [act_search, act_search, h]

namespace Session

/-- Two sessions with the same interpreter and the same console, however the commands that have been
run in them were written. -/
structure SameState (s s' : Session σ) : Prop where
  interpreter : s'.interpreter = s.interpreter
  console : s'.console = s.console

/-- A session over the standard catalogue in which nothing comes between a press and what it means:
commands are not held back, and there is no wish left over. -/
structure Responsive [Client σ] (s : Session σ) : Prop where
  catalogue : s.interpreter.catalogue = .standard σ
  queueing : s.interpreter.queueing = false
  prompt : s.console.prompt = none

variable {s : Session σ}

theorem SameState.report {x x' : Except CommandError Unit × Session σ}
    (h : Matches SameState x x') :
    SameState (Session.report x).2 (Session.report x').2 := by
  obtain ⟨result, s₁⟩ := x
  obtain ⟨result', s₁'⟩ := x'
  obtain ⟨outcome, interpreter, console⟩ := h
  obtain rfl : result' = result := outcome
  refine ⟨interpreter, ?_⟩
  show (Console.report result' s₁'.console).2 = (Console.report result' s₁.console).2
  rw [console]

variable [Client σ]

/-- What an alias is given makes no difference. -/
theorem Means.execute_eq {name line : String} (h : s.Means name line) (args args' : String) :
    s.execute ⟨name, args⟩ = s.execute ⟨name, args'⟩ := by
  by_cases near : ∃ k ≤ 15, ∃ d, s.interpreter.aliases.Leads (.ofLine line) k d
  · obtain ⟨k, hk, d, leads⟩ := near
    rw [h.within hk leads args, h.within hk leads args']
  · have far (k : Nat) (hk : k ≤ 15) (d : Command) :
        ¬ s.interpreter.aliases.Leads (.ofLine line) k d := fun leads ↦ near ⟨k, hk, d, leads⟩
    rw [h.beyond far args, h.beyond far args']

/-- Arguments that an operation takes for the same make no difference but to how the command is
remembered. -/
theorem matches_perform_of_act {name args args' : String} {op : Operation σ}
    (found : s.interpreter.catalogue.get? name = some op)
    (same : act (op.run s.interpreter.catalogue.help args) s.scope =
      act (op.run s.interpreter.catalogue.help args') s.scope) :
    Matches SameState (s.perform ⟨name, args⟩) (s.perform ⟨name, args'⟩) := by
  rw [perform, perform]
  dsimp only
  rw [found]
  dsimp only
  split
  · exact ⟨rfl, rfl, rfl⟩
  · rw [scope] at same
    rw [runOperation, runOperation]
    dsimp only
    rw [same]
    exact ⟨rfl, rfl, rfl⟩

/-- **Blanks around a pattern make no difference to a search**, whatever aliases there are. -/
theorem matches_execute_search (h : s.Responsive) {pattern pattern' : String}
    (same : Text.trim pattern = Text.trim pattern') :
    Matches SameState (s.execute ⟨"search", pattern⟩) (s.execute ⟨"search", pattern'⟩) := by
  cases aliased : s.interpreter.aliases["search"]? with
  | some line =>
    -- the alias drops the pattern, trimmed or not
    rw [(means_of_getElem? aliased).execute_eq pattern pattern']
    exact ⟨rfl, rfl, rfl⟩
  | none =>
    have found := Catalogue.get?_search (σ := σ)
    rw [← h.catalogue] at found
    have unaliased : "search" ∉ s.interpreter.aliases := by simpa using aliased
    have free : ¬ s.Holds .player := fun holds ↦ by cases h.queueing.symm.trans holds.1
    have executes (args : String) : s.execute ⟨"search", args⟩ = s.perform ⟨"search", args⟩ := by
      have resolve : s.interpreter.aliases.resolve ⟨"search", args⟩ = .ok ⟨"search", args⟩ :=
        AliasTable.resolve_eq_ok_iff.2 ⟨0, Nat.zero_le _, rfl, unaliased⟩
      rw [execute_of_resolve resolve (by simp)]
      exact invoke_of_free found free nofun
    rw [executes, executes]
    refine matches_perform_of_act found ?_
    -- the operation has to be taken out of its record before anything is compared
    dsimp only
    exact Builtin.act_search_congr same s.scope

/-! ## Nothing is held back after the start -/

/-- A flush ends the holding back. -/
theorem queueing_flush (s : Session σ) : s.flush.2.interpreter.queueing = false := by
  have connected : s.flushConnects.2.interpreter.queueing = false := by
    rw [interpreter_flushConnects]
    rfl
  rw [flush_eq]
  split
  · rw [interpreter_performAll]
    exact connected
  · exact connected

/-- No command begins to hold others back. -/
theorem queueing_execute (free : s.interpreter.queueing = false) (c : Command) :
    (s.execute c).2.interpreter.queueing = false := by
  have hx := executed c s
  generalize s.execute c = r at hx ⊢
  cases hx with
  | lost | empty => exact free
  | @found d =>
    have performed := interpreter_perform d s
    have hv := invoked d s
    generalize s.invoke d = r at hv ⊢
    cases hv with
    | unknown | held => exact free
    | failed _ _ run | done _ _ run =>
      rw [run] at performed
      rw [performed]
      exact free
    | flushed => exact queueing_flush _

theorem kept_queueing : Kept fun s : Session σ ↦ s.interpreter.queueing = false where
  execute c free := queueing_execute free c
  status free := free
  aside same free := by
    rw [same.interpreter]
    exact free

end Session

/-- The application's own session is responsive after all events. -/
theorem App.responsive_run [Client σ] (keymap : Keymap) (config : Config) (launch : Launch)
    (files : FileReader) (client : σ) (events : List Event) :
    ((startWith keymap config launch files client).run events).session.Responsive := by
  obtain ⟨p, orderly, -⟩ := orderly_run keymap config launch files client events
  have released : (startupSession config launch files client).interpreter.queueing = false :=
    Session.queueing_flush _
  exact ⟨orderly.catalogue,
    keeps_run Session.kept_queueing handlers_startWith events
      (keeps_startWith Session.kept_queueing released),
    orderly.prompt⟩

/-! ## Enter on the search line -/

namespace Modes

variable [Client σ] {keymap : Keymap} {press : KeyPress} {r : Modes InputLine σ} {s : Session σ}

/-- What becomes of the session when a search line is finished: unless it is blank, the queue is
searched for what is on it. -/
def searchFor (query : String) (s : Session σ) : Session σ :=
  if Text.isAllBlank query then s else (Session.report (s.execute ⟨"search", query⟩)).2

/-- Searching for what is on the line comes to executing the command that has it behind its name. -/
theorem sameState_searchFor {query : String} (h : s.Responsive)
    (nonblank : Text.isAllBlank query = false) :
    Session.SameState (Session.report (s.executeLine ("search " ++ query))).2
      (searchFor query s) := by
  have read : Command.ofLine ("search " ++ query) = ⟨"search", Text.trim query⟩ :=
    Command.ofLine_append (show Text.IsWord "search" by decide) query
  have trimmed : Text.trim (Text.trim query) = Text.trim query :=
    Text.trim_of_trimmed (Text.trimmed_trim query)
  rw [Session.executeLine, read, searchFor, nonblank, if_neg (by decide)]
  exact Session.SameState.report (Session.matches_execute_search h trimmed)

theorem handleSearch_of_enter (escape : keymap.escape.accepts press = false)
    (enter : press.key = .enter) (line : InputLine) (s : Session σ) :
    handleSearch keymap press line s = (true, .empty, searchFor line.text s) := by
  rw [handleSearch, escape, if_neg (by decide), if_pos enter, searchFor]
  split <;> rfl

/-- The press that finishes the search line. -/
theorem dispatch_enter_search (hr : r.handlers = (standard keymap).handlers)
    (ha : r.active = .search) (hs : s.interpreter.catalogue = .standard σ)
    (escape : keymap.escape.accepts press = false) (enter : press.key = .enter)
    (hw : s.console.prompt = none) :
    (r.dispatch press s).2 =
      ({ r with active := .normal, states := r.states.set .search .empty },
        showLine none (searchFor (r.states.get .search).text s)) := by
  have handle : (r.handlers.get .search).handle press (r.states.get .search) s =
      (true, .empty, searchFor (r.states.get .search).text s) := by
    rw [hr]
    exact handleSearch_of_enter escape enter _ s
  have unwished : (searchFor (r.states.get .search).text s).console.prompt = none := by
    rw [searchFor]
    split
    · exact hw
    · exact (Session.sameFrame_report_execute hs _).console.prompt.trans hw
  have ends : endsLine .empty press = true := by simp [endsLine, enter]
  rw [dispatch_in_line hr (by decide) ha handle unwished, ends, Bool.or_true, if_pos rfl, resetFor,
    if_neg (by decide)]

end Modes

namespace App

variable [Client σ]

/-- **Enter on the search line does what the search command does.**  In search mode, after any
events and under any keymap, an enter that does not escape returns to normal mode.  From any session
over the standard catalogue that holds nothing back and has no wish left over, whatever its aliases,
its client and its connection, it comes to executing the line that has the pattern behind `search`,
with the same outcome in the interpreter and on the console and the same calls of the client.  If
the pattern is blank, nothing happens to the session.  In both cases the bottom line is cleared.
The application's own session is always such a one. -/
theorem search_line_is_search_command (keymap : Keymap) (config : Config) (launch : Launch)
    (files : FileReader) (client : Traced σ) (events : List Event)
    (active : ((startWith keymap config launch files client).run events).modes.active = .search) :
    let app := (startWith keymap config launch files client).run events
    let query := (app.modes.states.get .search).text
    app.session.Responsive ∧
      ∀ (s : Session (Traced σ)) (enter : KeyPress), s.Responsive → enter.key = .enter →
        keymap.escape.accepts enter = false →
        let after := (App.mk app.modes s).onKey enter
        let executed := (Session.report (s.executeLine ("search " ++ query))).2
        after.modes =
            { app.modes with
              active := .normal
              states := app.modes.states.set .search .empty } ∧
          (Text.isAllBlank query = false →
            after.session.interpreter = executed.interpreter ∧
            after.session.console = (Modes.showLine none executed).console ∧
            after.session.console.client.calls = executed.console.client.calls) ∧
          (Text.isAllBlank query = true → after.session = Modes.showLine none s) := by
  intro app query
  obtain ⟨p, orderly, -⟩ := orderly_run keymap config launch files client events
  refine ⟨responsive_run keymap config launch files client events, ?_⟩
  intro s enter responsive key escape after executed
  have entered : after = ⟨{ app.modes with
      active := .normal
      states := app.modes.states.set .search .empty },
      Modes.showLine none (Modes.searchFor query s)⟩ :=
    onKey_eq (Modes.dispatch_enter_search orderly.handlers active responsive.catalogue escape key
      responsive.prompt)
  rw [entered]
  refine ⟨rfl, fun nonblank ↦ ?_, fun blank ↦ ?_⟩
  · obtain ⟨interpreter, console⟩ := Modes.sameState_searchFor responsive nonblank
    generalize Modes.searchFor query s = searched at interpreter console ⊢
    refine ⟨interpreter, ?_, congrArg (·.client.calls) console⟩
    exact congrArg (fun c ↦ { c with modeLine := none }) console
  · rw [Modes.searchFor, if_pos blank]

/-- A pattern with blanks around it is searched for as if it had none. -/
theorem search_line_is_search_command_for_list :
    let config : Config := ⟨.default, Config.WrittenKeys.filled {}, none, none, none⟩
    let keymap : Keymap := .ofNames config.keys
    let client : Traced Canned := ⟨⟨["localhost"], false⟩, []⟩
    let events := "/ LIST ".toList.map fun c ↦ Event.key (.plain (.char c))
    let modes := ((startWith keymap config {} (fun _ ↦ none) client).run events).modes
    let s : Session (Traced Canned) :=
      { interpreter := { catalogue := .standard _ }, console := { client := ⟨⟨[], true⟩, []⟩ } }
    let query := (modes.states.get .search).text
    let after := (App.mk modes s).onKey (.plain .enter)
    let executed := (Session.report (s.executeLine ("search " ++ query))).2
    modes.active = .search ∧ query = " LIST " ∧ after.session.interpreter = executed.interpreter ∧
      after.session.console = (Modes.showLine none executed).console ∧
      after.session.console.client.calls = [.run "playlist"] ∧
      after.session.console.status = .info "[1/1] 1: ok: playlist" := by
  intro config keymap client events modes s query after executed
  obtain ⟨-, law⟩ := search_line_is_search_command keymap config {} (fun _ ↦ none) client events
    (by decide +kernel)
  obtain ⟨-, agrees, -⟩ := law s (.plain .enter) ⟨rfl, rfl, rfl⟩ rfl (by decide +kernel)
  obtain ⟨interpreter, console, -⟩ := agrees (by decide +kernel)
  refine ⟨by decide +kernel, by decide +kernel, ?_, ?_, by decide +kernel, by decide +kernel⟩
  · simp only [after, executed, query, modes]
    exact interpreter
  · simp only [after, executed, query, modes]
    exact console

end App
end Jukebox
