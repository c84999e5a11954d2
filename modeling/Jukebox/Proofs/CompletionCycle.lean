import Jukebox.Proofs.AnyCatalogue
import Jukebox.Proofs.ByteOrder
import Mathlib.Data.List.GetD
import Mathlib.Data.List.Nodup

/-!
# Completion goes round

Whatever operations there are, and after any events, completing moves through the names that begin
with what is typed, in the order of their bytes, and from the last one back to the first.  A press
that does anything else ends this, and the next completion begins with what is typed by then.

* `Keymap.Completes` says that a press does nothing else in command mode than complete.
* `App.lastPress?` is the last press among events, and `App.idle_run` says that completion is under
  way only if that is one that completes.
* `App.cycling` is the application after so many presses that complete, as `App.run_complete` says.
* `App.Cycles` says what is shown while completing, and `App.completion_cycles` is the outcome.
-/

set_option autoImplicit false

namespace Jukebox

/-- The press completes a name in command mode: it does not escape, and it does not end the line. -/
structure Keymap.Completes (keymap : Keymap) (press : KeyPress) : Prop where
  completes : keymap.complete.accepts press = true
  escape : keymap.escape.accepts press = false
  enter : press.key ≠ .enter

/-- There is no blank in a text. -/
def Text.Unspaced (s : String) : Prop := s.toList.any isBlank = false

instance (s : String) : Decidable (Text.Unspaced s) :=
  inferInstanceAs (Decidable (s.toList.any Text.isBlank = false))

namespace Modes

variable {σ : Type} [Client σ] {keymap : Keymap} {press : KeyPress} {r : Modes InputLine σ}
  {s : Session σ} {p : Char}

/-! ## When completion is under way -/

/-- No completion begins when input moves, and one that is under way ends if input leaves the
command line. -/
theorem idle_change (press : KeyPress) (hr : r.handlers = (standard keymap).handlers)
    (h : s.interpreter.completion = .idle ∨
      r.active = .command ∧ r.modeAfter r.active press ≠ r.active) :
    (r.change press s).2.2.interpreter.completion = .idle := by
  by_cases hn : r.modeAfter r.active press = r.active
  · rw [change_of_eq hn]
    exact h.resolve_right fun hne ↦ hne.2 hn
  · obtain ⟨r', s', hx, moved⟩ := change_of_ne (s := s) hr hn
    rw [hx]
    refine moved.completion.trans ?_
    split
    · rfl
    · rename_i hc
      exact h.resolve_right fun ha ↦ hc (.inl ha.1)

theorem idle_grantPrompt (hr : r.handlers = (standard keymap).handlers)
    (h : s.interpreter.completion = .idle) :
    (r.grantPrompt s).2.interpreter.completion = .idle := by
  rw [grantPrompt]
  split
  · exact h
  · rename_i wish _
    have idle := idle_change (s := s.mapConsole fun c ↦ { c with prompt := none }) wish.trigger hr
      (.inl h)
    have hh := (handlers_change (r := r)
      (s := s.mapConsole fun c ↦ { c with prompt := none }) wish.trigger).trans hr
    rw [changeWith]
    generalize r.change wish.trigger _ = x at idle hh ⊢
    obtain ⟨_ | _, r', s'⟩ := x
    · exact idle
    · dsimp only
      rw [runHook_seed hh]
      exact idle

/-- A press that has been dealt with leaves no completion under way, unless it completes, or is
about to move input out of the command line. -/
theorem idle_handle (h : r.Tidy p s) (hr : r.handlers = (standard keymap).handlers)
    (other : r.active = .command → ¬ keymap.Completes press) {handled : Bool} {line : InputLine}
    {s' : Session σ}
    (hx : (r.handlers.get r.active).handle press (r.states.get r.active) s = (handled, line, s')) :
    s'.interpreter.completion = .idle ∨ r.active = .command ∧
      Modes.modeAfter { r with states := r.states.set r.active line } r.active press ≠
        r.active := by
  by_cases ha : r.active = .command
  · by_cases stays : r.active =
        Modes.modeAfter { r with states := r.states.set r.active line } r.active press
    · left
      obtain ⟨escape, goesOn⟩ := (modeAfter_eq_self_iff press
        (r := { r with states := r.states.set r.active line }) hr (by rw [ha]; decide)).1 stays.symm
      have enter := ne_enter_of_stays goesOn
      have complete : keymap.complete.accepts press = false := by
        rw [← Bool.not_eq_true]
        exact fun completes ↦ other ha ⟨completes, escape, enter⟩
      rw [hr, ha] at hx
      have handle : handleCommand keymap press (r.states.get .command) s = (handled, line, s') := hx
      rw [handleCommand, complete, escape] at handle
      simp only [Bool.false_eq_true, ↓reduceIte, enter] at handle
      cases handle
      rfl
    · exact .inr ⟨ha, Ne.symm stays⟩
  · left
    have result := handled_handle keymap press r.active (r.states.get r.active) s
    rw [← hr, hx] at result
    exact (result.completion ha).trans (h.idle ha)

/-- After a press completion is not under way, unless the press completes. -/
theorem idle_dispatch (h : r.Tidy p s) (hr : r.handlers = (standard keymap).handlers)
    (other : r.active = .command → ¬ keymap.Completes press) :
    (r.dispatch press s).2.2.interpreter.completion = .idle := by
  rcases hx : (r.handlers.get r.active).handle press (r.states.get r.active) s with
    ⟨handled, line, s₁⟩
  have moved := idle_change (r := { r with states := r.states.set r.active line }) press hr
    (idle_handle h hr other hx)
  rw [dispatch_standard hr hx]
  exact idle_grantPrompt ((handlers_change press).trans hr) moved

/-! ## Completing -/

omit [Client σ] in
/-- What is typed is completed if there is no blank in it. -/
theorem completeName_of_unspaced {line : InputLine} (h : Text.Unspaced line.text) (s : Session σ) :
    completeName line s =
      (line.replaceText (s.complete line.text).1, (s.complete line.text).2) := by
  rw [completeName, show line.text.toList.any Text.isBlank = false from h, if_neg (by decide)]

/-- A press that completes. -/
theorem dispatch_complete (hr : r.handlers = (standard keymap).handlers) (ha : r.active = .command)
    (hl : (r.states.get .command).chars.head? = some p) (hw : s.console.prompt = none)
    (completes : keymap.Completes press) :
    let x := completeName (r.states.get .command) s
    (r.dispatch press s).2 =
      ({ r with states := r.states.set .command x.1 }, showLine (some x.1.contents) x.2) := by
  intro x
  have handle : (r.handlers.get .command).handle press (r.states.get .command) s =
      (true, x.1, x.2) := by
    rw [hr]
    exact handleCommand_of_complete completes.escape completes.completes _ s
  obtain ⟨completion, completed⟩ := exists_completeName (r.states.get .command) s
  have kept : x.2.console.prompt = none := by
    rw [show x.2 = _ from completed]
    exact hw
  have goesOn : endsLine x.1 press = false :=
    endsLine_eq_false (head?_completeName hl) completes.enter
  rw [dispatch_in_line hr (by decide) ha handle kept, completes.escape, goesOn]
  rfl

end Modes

namespace App

variable {σ : Type} [Client σ] {app : App σ} {keymap : Keymap} {press : KeyPress}
  {catalogue : Catalogue σ} {p : Char}

/-! ## The last press -/

/-- The press that an event is, if it is one. -/
def Event.press? : Event → Option KeyPress
  | .key press => some press
  | .tick | .resize => none

/-- The last press among events, with the mode that it came in. -/
def lastPress? (app : App σ) : List Event → Option (Mode × KeyPress)
  | [] => none
  | event :: events =>
    ((app.step event).lastPress? events).or (event.press?.map (app.modes.active, ·))

theorem lastPress?_concat (app : App σ) (events : List Event) (event : Event) :
    app.lastPress? (events ++ [event]) =
      (event.press?.map ((app.run events).modes.active, ·)).or (app.lastPress? events) := by
  induction events generalizing app with
  | nil => exact (Option.or_none).symm
  | cons event' events ih =>
    rw [List.cons_append, lastPress?, lastPress?, ih, Option.or_assoc]
    rfl

/-- Completion is under way only if the last press has completed. -/
theorem idle_run (keymap : Keymap) {s : Session σ} (idle : s.interpreter.completion = .idle)
    (events : List Event)
    (fresh : ∀ press, (ofSession keymap s).lastPress? events = some (.command, press) →
      ¬ keymap.Completes press) :
    ((ofSession keymap s).run events).session.interpreter.completion = .idle := by
  induction events using List.reverseRecOn with
  | nil => exact idle
  | append_singleton events event ih =>
    have rest := (atRest_ofSession keymap idle).run events
    rw [run_append]
    cases event with
    | key press =>
      obtain ⟨p, tidy⟩ := rest.tidy
      refine Modes.idle_dispatch tidy rest.handlers fun ha ↦ fresh press ?_
      rw [lastPress?_concat, ha]
      rfl
    | tick =>
      rw [lastPress?_concat] at fresh
      exact (completion_onTick rest.handlers).trans (ih fresh)
    | resize =>
      rw [lastPress?_concat] at fresh
      exact ih fresh

/-! ## Going round -/

/-- The names that completing moves through. -/
def namesFound (app : App σ) : List String :=
  Completion.candidates app.typed app.session.interpreter.catalogue.names

/-- What is shown after a number of further presses that complete. -/
def nameShown (app : App σ) (k : Nat) : String :=
  Completion.shown app.typed app.namesFound (k % app.namesFound.length)

/-- The command line then. -/
def lineShown (app : App σ) (k : Nat) : InputLine :=
  app.modes.states.command.replaceText (app.nameShown k)

/-- The application after one press that completes, and a number of further ones. -/
def cycling (app : App σ) (k : Nat) : App σ where
  modes := { app.modes with states := app.modes.states.set .command (app.lineShown k) }
  session := Modes.showLine (some (app.lineShown k).contents)
    (app.session.withCompletion
      (.cycling app.typed app.namesFound (k % app.namesFound.length)))

/-- A name is being typed, and neither what is typed nor any name has a blank in it. -/
structure Naming (keymap : Keymap) (app : App σ) : Prop where
  rest : AtRest keymap app.session.interpreter.catalogue app
  active : app.modes.active = .command
  typed : Text.Unspaced app.typed
  names : ∀ name ∈ app.session.interpreter.catalogue.names, Text.Unspaced name

/-- What is shown has no blank in it. -/
theorem Naming.unspaced_nameShown (h : app.Naming keymap) (k : Nat) :
    Text.Unspaced (app.nameShown k) := by
  rw [nameShown, Completion.shown, List.getD_eq_getElem?_getD]
  cases found : app.namesFound[k % app.namesFound.length]? with
  | none => exact h.typed
  | some name => exact h.names name (List.mem_filter.1 (List.mem_of_getElem? found)).1

theorem Naming.prompt_eq (h : app.Naming keymap) : app.session.console.prompt = none :=
  h.rest.prompt (by rw [h.active]; decide)

/-- The first press that completes. -/
theorem onKey_complete (h : app.Naming keymap)
    (idle : app.session.interpreter.completion = .idle) (completes : keymap.Completes press) :
    app.onKey press = app.cycling 0 := by
  obtain ⟨p, hl⟩ := h.rest.exists_prompt h.active
  have line : app.modes.states.get .command = app.modes.states.command := rfl
  have completed : Modes.completeName app.modes.states.command app.session =
      (app.lineShown 0, app.session.withCompletion
        (.cycling app.typed app.namesFound (0 % app.namesFound.length))) := by
    rw [Modes.completeName_of_unspaced h.typed, Session.complete, idle, lineShown, nameShown,
      Nat.zero_mod]
    rfl
  have dispatched := Modes.dispatch_complete h.rest.handlers h.active hl h.prompt_eq completes
  rw [line, completed] at dispatched
  exact onKey_eq dispatched

/-- A further press that completes. -/
theorem onKey_cycling (h : app.Naming keymap) (completes : keymap.Completes press) (k : Nat) :
    (app.cycling k).onKey press = app.cycling (k + 1) := by
  obtain ⟨p, hl⟩ := h.rest.exists_prompt h.active
  have line : (app.cycling k).modes.states.get .command = app.lineShown k := by
    rw [cycling, PerMode.get_set, if_pos rfl]
  have text : (app.lineShown k).text = app.nameShown k := InputLine.text_replaceText hl _
  have completion : (app.cycling k).session.interpreter.completion =
      .cycling app.typed app.namesFound (k % app.namesFound.length) := rfl
  have unspaced : Text.Unspaced (app.lineShown k).text := by
    rw [text]
    exact h.unspaced_nameShown k
  have completed : Modes.completeName (app.lineShown k) (app.cycling k).session =
      (app.lineShown (k + 1), (app.cycling k).session.withCompletion
        (.cycling app.typed app.namesFound ((k + 1) % app.namesFound.length))) := by
    rw [Modes.completeName_of_unspaced unspaced, Session.complete, completion, Completion.complete,
      Nat.mod_add_mod, lineShown, InputLine.replaceText_replaceText hl]
    rfl
  have dispatched := Modes.dispatch_complete (r := (app.cycling k).modes)
    (s := (app.cycling k).session) h.rest.handlers h.active
    (by rw [line]; exact InputLine.head?_replaceText hl _) h.prompt_eq completes
  rw [line, completed] at dispatched
  refine (onKey_eq dispatched).trans ?_
  rw [cycling, cycling]
  dsimp only
  rw [PerMode.set_set]
  rfl

/-- Presses that complete. -/
theorem run_complete (h : app.Naming keymap) (idle : app.session.interpreter.completion = .idle)
    (presses : List KeyPress) (completes : ∀ press ∈ presses, keymap.Completes press)
    (some_press : presses ≠ []) :
    app.run (presses.map .key) = app.cycling (presses.length - 1) := by
  have go_on (presses : List KeyPress) (completes : ∀ press ∈ presses, keymap.Completes press)
      (k : Nat) : (app.cycling k).run (presses.map .key) = app.cycling (k + presses.length) := by
    induction presses generalizing k with
    | nil => rfl
    | cons press presses ih =>
      obtain ⟨now, later⟩ := List.forall_mem_cons.1 completes
      show ((app.cycling k).onKey press).run (presses.map .key) = _
      rw [onKey_cycling h now, ih later, List.length_cons, Nat.add_assoc, Nat.add_comm 1]
  cases presses with
  | nil => exact absurd rfl some_press
  | cons press presses =>
    obtain ⟨now, later⟩ := List.forall_mem_cons.1 completes
    show (app.onKey press).run (presses.map .key) = _
    rw [onKey_complete h idle now, go_on presses later, Nat.zero_add]
    rfl

/-- What is typed is not completed if it has a blank in it. -/
theorem onKey_spaced (h : AtRest keymap catalogue app) (ha : app.modes.active = .command)
    (spaced : ¬ Text.Unspaced app.typed) (completes : keymap.Completes press) :
    app.onKey press = app := by
  obtain ⟨p, hl⟩ := h.exists_prompt ha
  have modeLine : app.session.console.modeLine = some app.modes.states.command.contents := by
    rw [h.modeLine, Modes.wantedLine, ha, if_neg (by decide)]
    rfl
  have unchanged : Modes.completeName (app.modes.states.get .command) app.session =
      (app.modes.states.get .command, app.session) := if_pos (Bool.not_eq_false _ ▸ spaced)
  have dispatched := Modes.dispatch_complete h.handlers ha hl (h.prompt (by rw [ha]; decide))
    completes
  rw [unchanged] at dispatched
  dsimp only at dispatched
  rw [PerMode.set_get] at dispatched
  exact (onKey_eq dispatched).trans (congrArg (App.mk _) (Modes.showLine_of_eq modeLine))

/-! ## Each name comes up once -/

/-- Going round from anywhere, each place comes up once. -/
theorem existsUnique_mod {n i : Nat} (hi : i < n) (start : Nat) :
    ∃! k, k < n ∧ (start + k) % n = i := by
  have bound : start % n < n := Nat.mod_lt start (by omega)
  have place {k : Nat} (hk : k < n) :
      (start + k) % n = if start % n + k < n then start % n + k else start % n + k - n := by
    rw [← Nat.mod_add_mod]
    split
    · exact Nat.mod_eq_of_lt ‹_›
    · rw [Nat.mod_eq_sub_mod (by omega), Nat.mod_eq_of_lt (by omega)]
  refine ⟨if start % n ≤ i then i - start % n else i + n - start % n, ⟨?_, ?_⟩, fun k ⟨hk, he⟩ ↦ ?_⟩
  · split <;> omega
  · rw [place (by split <;> omega)]
    split_ifs <;> omega
  · rw [place hk] at he
    split_ifs at he ⊢ <;> omega

/-- Going round a list from anywhere, each of its elements comes up once. -/
theorem existsUnique_getD {names : List String} (nodup : names.Nodup) {name : String}
    (h : name ∈ names) (start : Nat) (typed : String) :
    ∃! k, k < names.length ∧ names.getD ((start + k) % names.length) typed = name := by
  obtain ⟨i, hi, rfl⟩ := List.getElem_of_mem h
  obtain ⟨k, ⟨hk, place⟩, unique⟩ := existsUnique_mod hi start
  have comes_up (k : Nat) :
      names.getD ((start + k) % names.length) typed = names[i] ↔
        (start + k) % names.length = i := by
    rw [List.getD_eq_getElem _ _ (Nat.mod_lt _ (by omega))]
    exact List.Nodup.getElem_inj_iff nodup
  exact ⟨k, ⟨hk, (comes_up k).2 place⟩, fun k' ⟨hk', he⟩ ↦ unique k' ⟨hk', (comes_up k').1 he⟩⟩

/-- What is shown while completing what is typed behind the prompt `p`, if the names that begin with
it are `names`. -/
structure Cycles (keymap : Keymap) (p : Char) (names : List String) (app : App σ) : Prop where
  /-- The prompt is there to begin with. -/
  prompt : app.modes.states.command.chars.head? = some p
  /-- The names come in the order of their bytes. -/
  sorted : names.Pairwise fun name name' ↦ Text.bytes name < Text.bytes name'
  /-- They are those of the operations that begin with what is typed. -/
  mem (name : String) :
    name ∈ names ↔ (app.session.interpreter.catalogue.get? name).isSome = true ∧
      app.typed.toList <+: name.toList
  /-- One after the other is shown, round and round, and what is typed if there is none. -/
  shows (presses : List KeyPress) (completes : ∀ press ∈ presses, keymap.Completes press)
    (some_press : presses ≠ []) :
    (app.run (presses.map .key)).modes.active = .command ∧
      (app.run (presses.map .key)).modes.states.command.chars =
        p :: (names.getD ((presses.length - 1) % names.length) app.typed).toList
  /-- As many presses as there are names show each name once. -/
  each_once (earlier presses : List KeyPress)
    (completes : ∀ press ∈ earlier ++ presses, keymap.Completes press)
    (as_many : presses.length = names.length) (name : String) (h : name ∈ names) :
    ∃! k, k < presses.length ∧
      (app.run ((earlier ++ presses.take (k + 1)).map .key)).typed = name

/-- While nothing is being completed, completing goes round the names that begin with what is
typed. -/
theorem cycles_of_idle (h : app.Naming keymap)
    (idle : app.session.interpreter.completion = .idle) :
    ∃ p, app.Cycles keymap p app.namesFound := by
  obtain ⟨p, hl⟩ := h.rest.exists_prompt h.active
  have run {presses : List KeyPress} := run_complete h idle presses
  have sorted : app.namesFound.Pairwise fun name name' ↦ Text.bytes name < Text.bytes name' :=
    (Catalogue.names_sorted _).filter _
  have nodup : app.namesFound.Nodup :=
    sorted.imp fun {name name'} lt (he : name = name') ↦ List.lt_irrefl _ (he ▸ lt)
  refine ⟨p, hl, sorted, fun name ↦ ?_, fun presses completes some_press ↦ ?_,
    fun earlier presses completes as_many name hname ↦ ?_⟩
  · rw [namesFound, Completion.candidates, List.mem_filter, Catalogue.mem_names,
      List.isPrefixOf_iff_prefix]
  · rw [run completes some_press]
    exact ⟨h.active, InputLine.chars_replaceText hl _⟩
  · have text {k : Nat} (hk : k < presses.length) :
        (app.run ((earlier ++ presses.take (k + 1)).map .key)).typed =
          app.namesFound.getD ((earlier.length + k) % app.namesFound.length) app.typed := by
      have count : (earlier ++ presses.take (k + 1)).length = earlier.length + k + 1 := by
        rw [List.length_append, List.length_take]
        omega
      have some_press : earlier ++ presses.take (k + 1) ≠ [] := by
        rw [← List.length_pos_iff]
        omega
      have completes_some : ∀ press ∈ earlier ++ presses.take (k + 1), keymap.Completes press :=
        fun press hp ↦ completes press <| List.mem_append.2 <|
          (List.mem_append.1 hp).imp_right List.mem_of_mem_take
      rw [run completes_some some_press, count]
      exact InputLine.text_replaceText hl _
    obtain ⟨k, ⟨hk, he⟩, unique⟩ := existsUnique_getD nodup hname earlier.length app.typed
    rw [← as_many] at hk
    refine ⟨k, ⟨hk, (text hk).trans he⟩, fun k' ⟨hk', he'⟩ ↦ unique k' ⟨as_many ▸ hk', ?_⟩⟩
    exact (text hk').symm.trans he'

/-- The names of the standard catalogue have no blanks in them. -/
theorem unspaced_of_standard {name : String}
    (found : ((Catalogue.standard σ).get? name).isSome = true) : Text.Unspaced name := by
  obtain ⟨op, found⟩ := Option.isSome_iff_exists.1 found
  obtain ⟨registered, rfl⟩ := Catalogue.get?_standard_eq_some_iff.1 found
  -- the names are the same over any client, and over a concrete one they can be gone through
  have each : ∀ name ∈ (Catalogue.builtins Canned ++ Catalogue.forwarders Canned).map Operation.name,
      Text.Unspaced name := by
    decide +kernel
  exact each _ (List.mem_map_of_mem registered)

/-- If the last press was none that completes, completing begins with what is typed. -/
theorem exists_cycles (keymap : Keymap) {s : Session σ} (idle : s.interpreter.completion = .idle)
    (names : ∀ name, (s.interpreter.catalogue.get? name).isSome = true → Text.Unspaced name)
    (events : List Event) (ha : ((ofSession keymap s).run events).modes.active = .command)
    (fresh : ∀ press, (ofSession keymap s).lastPress? events = some (.command, press) →
      ¬ keymap.Completes press)
    (typed : Text.Unspaced ((ofSession keymap s).run events).typed) :
    ∃ p names, ((ofSession keymap s).run events).Cycles keymap p names := by
  have rest := (atRest_ofSession keymap idle).run events
  have kept := rest.catalogue
  have naming : Naming keymap ((ofSession keymap s).run events) :=
    { rest := kept ▸ rest
      active := ha
      typed := typed
      names := fun name hname ↦ names name (Catalogue.mem_names.1 (kept ▸ hname)) }
  obtain ⟨p, cycles⟩ := cycles_of_idle naming (idle_run keymap idle events fresh)
  exact ⟨p, _, cycles⟩

/-- **Completion goes round.**  Over any catalogue whose names have no blanks in them, under any
keymap and after any events that leave input on the command line:

* if the last press was none that completes, and what is typed has no blank in it, presses that
  complete go round the names that begin with what is typed;
* after any other press that leaves input there, they go round those that begin with what is typed
  by then;
* if what is typed has a blank in it, they do nothing.

The application that is brought up with any configuration is one of those that this is about. -/
theorem completion_cycles (keymap : Keymap) :
    (∀ (config : Config) (launch : Launch) (files : FileReader) (client : σ),
      let app := startWith keymap config launch files client
      let s := app.session
      app = ofSession keymap s ∧ s.interpreter.completion = .idle ∧
        ∀ name, (s.interpreter.catalogue.get? name).isSome = true → Text.Unspaced name) ∧
    ∀ s : Session σ, s.interpreter.completion = .idle →
      (∀ name, (s.interpreter.catalogue.get? name).isSome = true → Text.Unspaced name) →
      ∀ events, ((ofSession keymap s).run events).modes.active = .command →
        let app := (ofSession keymap s).run events
        ((∀ press, (ofSession keymap s).lastPress? events = some (.command, press) →
            ¬ keymap.Completes press) →
          Text.Unspaced app.typed → ∃ p names, app.Cycles keymap p names) ∧
        (∀ press, ¬ keymap.Completes press → (app.onKey press).modes.active = .command →
          Text.Unspaced (app.onKey press).typed →
            ∃ p names, (app.onKey press).Cycles keymap p names) ∧
        (¬ Text.Unspaced app.typed → ∀ press, keymap.Completes press → app.onKey press = app) := by
  constructor
  · intro config launch files client app s
    have started : app.Idle keymap :=
      idle_of_orderly (orderly_startWith keymap config launch files client ':') rfl
    refine ⟨startWith_eq_ofSession keymap config launch files client, started.completion, ?_⟩
    intro name found
    rw [started.catalogue] at found
    exact unspaced_of_standard found
  intro s idle names events ha app
  refine ⟨exists_cycles keymap idle names events ha, fun press other stays typed ↦ ?_,
    fun spaced press ↦ onKey_spaced ((atRest_ofSession keymap idle).run events) ha spaced⟩
  have again := exists_cycles keymap idle names (events ++ [.key press])
  rw [run_append, lastPress?_concat, ha] at again
  refine again stays (fun press' last ↦ ?_) typed
  cases last
  exact other

/-- Two names begin with what is typed, so a third press is back at the first.  What is typed on is
completed for itself, and an argument is not completed. -/
theorem completion_cycles_through_two_names :
    let config : Config := ⟨.default, Config.WrittenKeys.filled {}, none, none, none⟩
    let keymap : Keymap := .ofNames config.keys
    let s : Session Canned := initialSession config {} ⟨["localhost"], false⟩
    let tab : KeyPress := .plain .tab
    let type (text : String) : List Event := text.toList.map fun c ↦ .key (.plain (.char c))
    let app := (ofSession keymap s).run (type ":re" ++ [.tick])
    let after (presses : List KeyPress) : String := (app.run (presses.map .key)).typed
    let argument := (ofSession keymap s).run (type ":seek +")
    (∃ p names, app.Cycles keymap p names) ∧
      [after [tab], after [tab, tab], after [tab, tab, tab]] = ["redraw", "repeat", "redraw"] ∧
      (∃ p names, (app.onKey (.plain (.char 'p'))).Cycles keymap p names) ∧
      argument.onKey tab = argument := by
  intro config keymap s tab type app after argument
  have names : ∀ name, (s.interpreter.catalogue.get? name).isSome = true → Text.Unspaced name :=
    fun name ↦ unspaced_of_standard
  have types {press : KeyPress} (h : keymap.complete.accepts press = false) :
      ¬ keymap.Completes press := by
    rintro ⟨completes, -, -⟩
    cases h.symm.trans completes
  have completes : keymap.Completes tab :=
    ⟨by decide +kernel, by decide +kernel, by decide +kernel⟩
  have last : (ofSession keymap s).lastPress? (type ":re" ++ [.tick]) =
      some (.command, .plain (.char 'e')) := by
    decide +kernel
  obtain ⟨-, law⟩ := @completion_cycles Canned _ keymap
  obtain ⟨goes_round, goes_on, -⟩ := law s rfl names (type ":re" ++ [.tick]) (by decide +kernel)
  obtain ⟨-, -, nothing⟩ := law s rfl names (type ":seek +") (by decide +kernel)
  refine ⟨goes_round (fun press h ↦ ?_) (by decide +kernel), by decide +kernel,
    goes_on _ (types (by decide +kernel)) (by decide +kernel) (by decide +kernel),
    nothing (by decide +kernel) tab completes⟩
  cases last.symm.trans h
  exact types (by decide +kernel)

end App
end Jukebox
