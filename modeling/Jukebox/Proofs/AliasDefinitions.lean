import Jukebox.Proofs.AliasExpansion
import Jukebox.Proofs.Dispatch
import Jukebox.Proofs.Lockstep

/-!
# Where aliases come from

The aliases of a session are what the `alias` commands that have been run in it say, the last one of
each name counting, however these commands have come to be run.  What can be said by such a command
is a word and a trimmed line, so an alias can always be typed and never stands for nothing.

* `Command.Defines` is what one command says, and `LastDefinition` what several do.
* `Session.getElem?_runOperation` is the step: running an operation changes what a definition says,
  and nothing else.
* `Session.Reaches` are all the sessions that a session can come to; `Session.Recorded` is kept on the
  way, by `Session.stable_recorded` and `Session.Reaches.keeps`.
* `Session.held_or_run_of_execute`: a command that succeeds and has a name has been run or held back.
* `Session.aliases_follow_definitions` is the outcome.
-/

set_option autoImplicit false

namespace Jukebox

open CommandM

variable {c : Command} {commands : List Command} {name name' line line' : String}

/-! ## What commands say -/

namespace Command

/-- Running the command gives the name the line to stand for: it is an `alias` whose arguments are the
name and the line behind it. -/
structure Defines (c : Command) (name line : String) : Prop where
  operation : c.name = "alias"
  written : StandsOn ⟨name, line⟩ c.args
  some_line : line ≠ ""

theorem Defines.isWord (h : c.Defines name line) : Text.IsWord name :=
  ⟨fun nameless ↦ h.some_line (h.written.nameless nameless).2, h.written.name⟩

theorem defines_iff :
    c.Defines name line ↔
      c.name = "alias" ∧ aliasDefinition? c.args = some (name, line) ∧ line ≠ "" := by
  constructor
  · intro h
    refine ⟨h.operation, ?_, h.some_line⟩
    rw [aliasDefinition?_eq, h.written.ofLine_eq]
    exact if_neg h.isWord.1
  · rintro ⟨operation, definition, some_line⟩
    exact ⟨operation, ofLine_eq_iff.1 (ofLine_of_aliasDefinition? definition), some_line⟩

/-- A command gives one name one line. -/
theorem Defines.unique (h : c.Defines name line) (h' : c.Defines name' line') :
    name = name' ∧ line = line' := by
  obtain ⟨-, definition, -⟩ := defines_iff.1 h
  obtain ⟨-, definition', -⟩ := defines_iff.1 h'
  simpa [definition] using definition'

end Command

/-- Of some commands, the last one that gives the name a line gives it this one. -/
def LastDefinition (commands : List Command) (name line : String) : Prop :=
  ∃ earlier c later, commands = earlier ++ c :: later ∧ c.Defines name line ∧
    ∀ c' ∈ later, ∀ line', ¬ c'.Defines name line'

/-- A further command counts if it is about the name, and makes no difference otherwise. -/
theorem lastDefinition_concat_iff :
    LastDefinition (commands ++ [c]) name line ↔
      c.Defines name line ∨ LastDefinition commands name line ∧ ∀ line', ¬ c.Defines name line' := by
  constructor
  · rintro ⟨earlier, d, later, split, defines, last⟩
    rcases concat_eq_append_cons_iff.1 split with ⟨-, rfl, -⟩ | ⟨later, rfl, rfl⟩
    · exact .inl defines
    · exact .inr ⟨⟨earlier, d, later, rfl, defines, fun c' hc' ↦ last c' (by simp [hc'])⟩,
        last c (by simp)⟩
  · rintro (defines | ⟨⟨earlier, d, later, rfl, defines, last⟩, other⟩)
    · exact ⟨commands, c, [], rfl, defines, by simp⟩
    · refine ⟨earlier, d, later ++ [c], by simp, defines, ?_⟩
      intro c' hc'
      rcases List.mem_append.1 hc' with hc' | hc'
      · exact last c' hc'
      · exact List.mem_singleton.1 hc' ▸ other

theorem exists_lastDefinition (h : ∃ c ∈ commands, ∃ line, c.Defines name line) :
    ∃ line, LastDefinition commands name line := by
  have keyed : ∃ c ∈ commands, (∃ line, c.Defines name line) = True := by simpa using h
  obtain ⟨c, earlier, later, split, defines, last⟩ := exists_lastBy keyed
  obtain ⟨line, defines⟩ := of_eq_true defines
  refine ⟨line, earlier, c, later, split, defines, fun c' hc' line' defines' ↦ ?_⟩
  exact last c' hc' (eq_true ⟨line', defines'⟩)

/-! ## One operation -/

namespace Builtin

variable {σ : Type} [Client σ]

/-- No other operation of the standard catalogue than `alias` changes an alias. -/
theorem aliases_standard {op : Operation σ} (found : (Catalogue.standard σ).get? name = some op)
    (other : name ≠ "alias") (text : List String) (args : String) (s : Scope σ) :
    (act (op.run text args) s).2.aliases = s.aliases := by
  refine Catalogue.forall_standard_named
    (P := fun name _ run ↦ name ≠ "alias" → (act (run text args) s).2.aliases = s.aliases)
    ?set ?mpc ?manageAliases ?connect ?echo ?help ?redraw ?quit ?search ?searchNext
    ?searchPrevious ?pass found other
  case set =>
    intro _
    rw [act_set]
    split
    · simp
    · split <;> simp
  case mpc =>
    intro _
    rw [act_mpc]
    split
    · rfl
    · split <;> simp
  case manageAliases => exact fun other ↦ absurd rfl other
  case connect =>
    intro _
    rw [act_connect]
    cases endpoint? s.console.server args with
    | none => rfl
    | some server =>
      dsimp only
      rcases Client.connect server s.console.client with ⟨_ | _, client⟩
      · exact Scope.aliases_withClient client s
      · exact aliases_announce server (s.withClient client)
  case echo => exact fun _ ↦ Scope.aliases_mapConsole _ s
  case help => exact fun _ ↦ Scope.aliases_mapConsole _ s
  case redraw => exact fun _ ↦ rfl
  case quit => exact fun _ _ ↦ rfl
  case search =>
    intro _
    rw [act_search]
    split
    · rfl
    · split <;> simp
  case searchNext =>
    intro _
    rw [act_searchMove]
    simp
  case searchPrevious =>
    intro _
    rw [act_searchMove]
    simp
  case pass =>
    intro _ word _
    rw [act_pass]
    split <;> simp

end Builtin

namespace Session

variable {σ : Type} [Client σ] {s s' s₀ : Session σ} {op : Operation σ}

omit [Client σ] in
theorem aliases_runOperation (op : Operation σ) (c : Command) (s : Session σ) :
    (s.runOperation op c).2.interpreter.aliases =
      (act (op.run s.interpreter.catalogue.help c.args) s.scope).2.aliases := by
  rw [runOperation]
  rfl

theorem aliases_of_defines (standard : s.interpreter.catalogue = .standard σ)
    (found : s.interpreter.catalogue.get? c.name = some op) (h : c.Defines name line) :
    (s.runOperation op c).2.interpreter.aliases = s.interpreter.aliases.insert name line := by
  obtain ⟨operation, definition, some_line⟩ := Command.defines_iff.1 h
  rw [standard, operation, get?_alias] at found
  cases found
  rw [aliases_runOperation, Builtin.act_manageAliases, definition]
  dsimp only
  rw [if_neg some_line]
  rfl

theorem aliases_of_not_defines (standard : s.interpreter.catalogue = .standard σ)
    (found : s.interpreter.catalogue.get? c.name = some op)
    (h : ∀ name line, ¬ c.Defines name line) :
    (s.runOperation op c).2.interpreter.aliases = s.interpreter.aliases := by
  rw [standard] at found
  by_cases other : c.name = "alias"
  · rw [other, get?_alias] at found
    cases found
    rw [aliases_runOperation, Builtin.act_manageAliases]
    dsimp only
    split
    · split <;> rfl
    · rename_i name line definition
      split
      · split <;> rfl
      · rename_i some_line
        exact absurd (Command.defines_iff.2 ⟨other, definition, some_line⟩) (h name line)
  · rw [aliases_runOperation]
    exact Builtin.aliases_standard found other _ c.args s.scope

/-- **Running an operation changes what a definition says, and nothing else.** -/
theorem getElem?_runOperation (standard : s.interpreter.catalogue = .standard σ)
    (found : s.interpreter.catalogue.get? c.name = some op) :
    (s.runOperation op c).2.interpreter.aliases[name]? = some line ↔
      c.Defines name line ∨
        s.interpreter.aliases[name]? = some line ∧ ∀ line', ¬ c.Defines name line' := by
  by_cases defines : ∃ name' line', c.Defines name' line'
  · obtain ⟨name', line', defines⟩ := defines
    rw [aliases_of_defines standard found defines, Std.TreeMap.getElem?_insert]
    simp only [Std.LawfulEqOrd.compare_eq_iff_eq]
    split
    · rename_i same
      subst same
      constructor
      · intro inserted
        exact .inl (Option.some.inj inserted ▸ defines)
      · rintro (defines' | ⟨-, other⟩)
        · rw [(defines.unique defines').2]
        · exact absurd defines (other line')
    · rename_i differ
      constructor
      · intro kept
        exact .inr ⟨kept, fun l defines' ↦ differ (defines.unique defines').1⟩
      · rintro (defines' | ⟨kept, -⟩)
        · exact absurd (defines.unique defines').1 differ
        · exact kept
  · push Not at defines
    rw [aliases_of_not_defines standard found defines]
    simp [defines]

/-! ## All sessions that a session comes to -/

/-- The sessions that a session can come to.  Commands are executed, be it that they are read off lines
or have been split before; holding back begins and ends, and what is held back is flushed; and in
between anything may happen to the console and to completion. -/
inductive Reaches (s : Session σ) : Session σ → Prop
  | refl : Reaches s s
  | execute {s' : Session σ} (c : Command) (h : Reaches s s') : Reaches s (s'.execute c).2
  | setQueueing {s' : Session σ} (queueing : Bool) (h : Reaches s s') :
      Reaches s (s'.setQueueing queueing)
  | flush {s' : Session σ} (h : Reaches s s') : Reaches s s'.flush.2
  | aside {s' s'' : Session σ} (h : Reaches s s')
      (interpreter : s''.interpreter =
        { s'.interpreter with completion := s''.interpreter.completion })
      (history : s''.history = s'.history) : Reaches s s''

/-- A session over the standard catalogue in which nothing has happened yet, with any console. -/
structure Fresh (s : Session σ) : Prop where
  interpreter : s.interpreter = { catalogue := .standard σ }
  history : s.history = []

theorem Reaches.mapConsole (f : Console σ → Console σ) (h : s₀.Reaches s) :
    s₀.Reaches (s.mapConsole f) :=
  h.aside rfl rfl

theorem Reaches.executeLines (lines : List String) (h : s₀.Reaches s) :
    s₀.Reaches (executeLines lines s).2 := by
  induction lines generalizing s with
  | nil => exact h
  | cons line lines ih => exact ih (h.execute (.ofLine line))

theorem Reaches.runStartup (lines : List String) (h : s₀.Reaches s) :
    s₀.Reaches (s.runStartup lines).2 :=
  ((h.setQueueing true).executeLines lines).flush

/-- What the changes keep of which executing is made up is kept on the way to any session, if it has
nothing to do with the console. -/
theorem Reaches.keeps {I : Session σ → Prop} (hI : Stable I)
    (aside : ∀ {s s' : Session σ},
      s'.interpreter = { s.interpreter with completion := s'.interpreter.completion } →
      s'.history = s.history → I s → I s')
    (h : s.Reaches s') (hs : I s) : I s' := by
  induction h with
  | refl => exact hs
  | execute c _ ih => exact hI.execute ih c
  | setQueueing queueing _ ih => exact hI.queue queueing _ ih
  | flush _ ih => exact hI.flush ih
  | aside _ interpreter history ih => exact aside interpreter history ih

/-! ## The aliases of a session -/

/-- Over the standard catalogue, the aliases are what the commands say that have been run. -/
structure Recorded (s : Session σ) : Prop where
  catalogue : s.interpreter.catalogue = .standard σ
  aliases (name line : String) :
    s.interpreter.aliases[name]? = some line ↔ LastDefinition s.history name line

theorem Recorded.mapConsole (f : Console σ → Console σ) (h : s.Recorded) :
    (s.mapConsole f).Recorded :=
  ⟨h.catalogue, h.aliases⟩

theorem Fresh.recorded (h : s.Fresh) : s.Recorded where
  catalogue := by rw [h.interpreter]
  aliases name line := by
    rw [h.interpreter, h.history]
    simp [LastDefinition]

/-- None of the changes of which executing is made up comes between the aliases and the commands. -/
theorem stable_recorded : Stable (σ := σ) Recorded where
  operation {s op c} found h := by
    refine ⟨h.catalogue, fun name line ↦ ?_⟩
    have ran : (s.runOperation op c).2.history = s.history ++ [c] := rfl
    rw [getElem?_runOperation h.catalogue found, ran, lastDefinition_concat_iff, h.aliases]
  queue _ _ h := ⟨h.catalogue, h.aliases⟩
  report _ h := h.mapConsole _

theorem Reaches.recorded (h : s.Reaches s') (hs : s.Recorded) : s'.Recorded := by
  refine h.keeps stable_recorded (fun interpreter history h ↦ ?_) hs
  constructor
  · rw [interpreter]
    exact h.catalogue
  · rw [interpreter, history]
    exact h.aliases

omit [Client σ] in
theorem history_mapConsole (f : Console σ → Console σ) (s : Session σ) :
    (s.mapConsole f).history = s.history := rfl

omit [Client σ] in
theorem stable_history_grows (s₀ : Session σ) :
    Stable fun s : Session σ ↦ s₀.history <+: s.history where
  operation _ h := h.trans (List.prefix_append _ _)
  queue _ _ h := h
  report _ h := by rwa [history_mapConsole]

/-- What has been run stays in the history. -/
theorem Reaches.history_grows (h : s.Reaches s') : s.history <+: s'.history :=
  h.keeps (stable_history_grows s) (fun _ history h ↦ history ▸ h) (List.prefix_refl _)

/-- An alias stays one. -/
theorem Recorded.mem_of_reaches (hs : s.Recorded) (h : s.Reaches s')
    (mem : name ∈ s.interpreter.aliases) : name ∈ s'.interpreter.aliases := by
  obtain ⟨line, found⟩ := Option.isSome_iff_exists.1 (Std.TreeMap.isSome_getElem?_iff_mem.2 mem)
  obtain ⟨earlier, c, later, ran, defines, -⟩ := (hs.aliases name line).1 found
  have still : c ∈ s'.history := h.history_grows.subset (by simp [ran])
  obtain ⟨line', last⟩ := exists_lastDefinition ⟨c, still, line, defines⟩
  refine Std.TreeMap.isSome_getElem?_iff_mem.1 ?_
  rw [((h.recorded hs).aliases name line').2 last]
  rfl

/-- What an alias is, and what it stands for. -/
theorem Recorded.well_formed (hs : s.Recorded) (found : s.interpreter.aliases[name]? = some line) :
    Text.IsWord name ∧ Text.Trimmed line ∧ line ≠ "" := by
  obtain ⟨-, c, -, -, defines, -⟩ := (hs.aliases name line).1 found
  exact ⟨defines.isWord, defines.written.args, defines.some_line⟩

/-- The command on a line that an alias stands for has a name. -/
theorem Recorded.named_expansion (hs : s.Recorded)
    (found : s.interpreter.aliases[name]? = some line) : (Command.ofLine line).name ≠ "" := by
  obtain ⟨-, trimmed, some_line⟩ := hs.well_formed found
  intro nameless
  have blank := ((Command.standsOn_ofLine line).nameless nameless).1
  exact some_line (Text.trim_of_trimmed trimmed ▸ Text.trim_of_isAllBlank blank)

/-- No command with a name stands for the empty one. -/
theorem Recorded.named_of_resolve (hs : s.Recorded) {d : Command} (named : c.name ≠ "")
    (resolve : s.interpreter.aliases.resolve c = .ok d) : d.name ≠ "" := by
  obtain ⟨k, -, leads⟩ := AliasTable.resolve_eq_ok_iff.1 resolve
  cases k with
  | zero => exact Option.some.inj leads.reaches ▸ named
  | succ k =>
    -- the last expansion is that of some alias
    obtain ⟨b, -, expanded⟩ := Option.bind_eq_some_iff.1 leads.reaches
    obtain ⟨line, found, rfl⟩ := Option.map_eq_some_iff.1 expanded
    exact hs.named_expansion found

/-- A command that succeeds and has a name has been run or held back. -/
theorem held_or_run_of_execute {d : Command} (named : d.name ≠ "")
    (resolve : s.interpreter.aliases.resolve c = .ok d) (succeeds : (s.execute c).1 = .ok ()) :
    (∃ kind, (s.execute c).2 = { s with interpreter :=
        { s.interpreter with queue := s.interpreter.queue ++ [⟨d, kind⟩] } }) ∨
      ∃ others, (s.execute c).2.history = s.history ++ d :: others := by
  rw [execute_of_resolve resolve named] at succeeds ⊢
  cases found : s.interpreter.catalogue.get? d.name with
  | none =>
    rw [invoke, found] at succeeds
    cases succeeds
  | some op =>
    obtain ⟨course, handled⟩ := handled_invoke found
    generalize s.invoke d = r at handled succeeds ⊢
    cases handled with
    | held => exact .inl ⟨op.kind, rfl⟩
    | unavailable => cases succeeds
    | run _ _ ran =>
      cases ran with
      | failed => cases succeeds
      | done => exact .inr ⟨[], rfl⟩
      | flushed _ _ _ _ history => exact .inr ⟨_, history⟩

end Session

/-! ## The application -/

namespace App

variable {σ : Type} [Client σ] {config : Config} {launch : Launch} {files : FileReader} {client : σ}

theorem fresh_initialSession : (initialSession config launch client).Fresh := ⟨rfl, rfl⟩

/-- None of the changes that events are made up of leads to a session that executing does not. -/
theorem upheld_reaches (s₀ : Session σ) : Session.Upheld s₀.Reaches where
  execute c h := h.execute c
  reportError _ h := h.mapConsole _
  refreshServerStatus h := h.mapConsole _
  clearStatus h := h.mapConsole _
  aside same h := h.aside same.interpreter same.history

/-- The application never comes to any other sessions. -/
theorem reaches_run (keymap : Keymap) (events : List Event) :
    (initialSession config launch client).Reaches
      ((startWith keymap config launch files client).run events).session := by
  have started : (initialSession config launch client).Reaches
      (startupSession config launch files client) := .runStartup _ .refl
  obtain ⟨s, hs, shown⟩ :
      ∃ s, (initialSession config launch client).Reaches s ∧
        (startWith keymap config launch files client).session = Modes.showLine none s :=
    exists_startWith (fun c h ↦ .execute c h) (fun h ↦ h.mapConsole _) (fun _ h ↦ h.mapConsole _)
      started
  refine upholds_run (upheld_reaches _) handlers_startWith events ?_
  rw [shown]
  exact hs.aside rfl rfl

end App

/-- **The aliases are what the commands say that have been run.**  Take a session over the standard
catalogue in which nothing has happened yet, and any session that it comes to by executing commands;
those of the application are among them, after any startup file and any events.  Every alias is a word,
and stands for a line that is trimmed and not empty: the line that the last `alias` command about the
name gives it, and there are no others.  An alias stays one whatever comes later, and no other command
changes any.  So an alias can be typed, and means the line behind it.  A line that is not blank has a
command with a name on it, which never stands for the empty one: if it succeeds, a command with a name
has been run, or put at the end of the queue. -/
theorem Session.aliases_follow_definitions {σ : Type} [Client σ] :
    (∀ (keymap : Keymap) (config : Config) (launch : Launch) (files : FileReader) (client : σ)
        (events : List App.Event),
      (App.initialSession config launch client).Fresh ∧
        (App.initialSession config launch client).Reaches
          ((App.startWith keymap config launch files client).run events).session) ∧
    ∀ s₀ s : Session σ, s₀.Fresh → s₀.Reaches s →
      let t := s.interpreter.aliases
      (∀ name line, t[name]? = some line → Text.IsWord name ∧ Text.Trimmed line ∧ line ≠ "") ∧
      (∀ name line, t[name]? = some line ↔ LastDefinition s.history name line) ∧
      (∀ s', s.Reaches s' → s.history <+: s'.history ∧
        ∀ name ∈ t, name ∈ s'.interpreter.aliases) ∧
      (∀ c op, s.interpreter.catalogue.get? c.name = some op → c.name ≠ "alias" →
        (s.runOperation op c).2.interpreter.aliases = t) ∧
      (∀ name line, t[name]? = some line →
        Command.ofLine name = ⟨name, ""⟩ ∧ s.Means name line) ∧
      (∀ line, Text.isAllBlank line = false → (Command.ofLine line).name ≠ "") ∧
      ∀ c, c.name ≠ "" →
        (∀ d, t.resolve c = .ok d → d.name ≠ "") ∧
        ((s.execute c).1 = .ok () → ∃ d, t.resolve c = .ok d ∧
          ((∃ kind, (s.execute c).2 = { s with interpreter :=
              { s.interpreter with queue := s.interpreter.queue ++ [⟨d, kind⟩] } }) ∨
            ∃ others, (s.execute c).2.history = s.history ++ d :: others)) := by
  constructor
  · intro keymap config launch files client events
    exact ⟨App.fresh_initialSession, App.reaches_run keymap events⟩
  intro s₀ s fresh reaches t
  have recorded : s.Recorded := reaches.recorded fresh.recorded
  refine ⟨fun name line ↦ recorded.well_formed, recorded.aliases, ?later, ?others, ?typed, ?lines,
    ?named⟩
  case later =>
    intro s' reaches'
    exact ⟨reaches'.history_grows, fun name ↦ recorded.mem_of_reaches reaches'⟩
  case others =>
    intro c op found other
    exact aliases_of_not_defines recorded.catalogue found
      fun name line defines ↦ other defines.operation
  case typed =>
    intro name line found
    exact ⟨Command.ofLine_of_isWord (recorded.well_formed found).1, means_of_getElem? found⟩
  case lines =>
    intro line some_left nameless
    rw [((Command.standsOn_ofLine line).nameless nameless).1] at some_left
    cases some_left
  case named =>
    intro c named
    refine ⟨fun d ↦ recorded.named_of_resolve named, fun succeeds ↦ ?_⟩
    cases resolve : t.resolve c with
    | error e =>
      have refused : s.execute c = (.error e, s) := by
        rw [execute, resolve]
      rw [refused] at succeeds
      cases succeeds
    | ok d =>
      exact ⟨d, rfl, held_or_run_of_execute (recorded.named_of_resolve named resolve) resolve succeeds⟩

/-- A definition may come from an alias, and the last one counts. -/
example :
    let s : Session Canned :=
      { interpreter := { catalogue := .standard Canned }, console := { client := ⟨[], false⟩ } }
    let lines := ["alias x echo one", "alias again alias x  echo two ", "again ignored", "alias x"]
    let s' := (Session.executeLines lines s).2
    s'.interpreter.aliases.toList = [("again", "alias x  echo two"), ("x", "echo two")] ∧
      s'.console.status = .info "x -> echo two" := by
  decide +kernel

end Jukebox
