import Jukebox.App
import Jukebox.Proofs.LineHandlers

/-!
# What events keep

A key press reaches the session through the hooks of the handlers and in no other way, so a
property of sessions that the hooks keep is kept by every press.  This file carries such properties
from the changes that hooks make to runs of the whole application.

* `Handler.Keeps` says that the hooks of a handler keep a property, and `Modes.keeps_dispatch` that
  a press then does.
* `Session.Upheld` lists the changes that the standard handlers and the events make, and
  `Modes.keeps_standard` says that there are no others; `App.upholds_run` is the outcome for runs.
* `Session.Kept` lists what is left of them for a property of what commands work on, and
  `App.keeps_run` is the same outcome for that.
* `App.exists_startWith` says what bringing the application up comes to once the startup commands
  have been run, and `App.keeps_startWith` what that keeps.
-/

set_option autoImplicit false

namespace Jukebox

variable {η σ : Type} {I : Session σ → Prop}

/-! ## Hooks -/

/-- The hooks of a handler keep a property of sessions. -/
structure Handler.Keeps (h : Handler η σ) (I : Session σ → Prop) : Prop where
  initialise (press : KeyPress) (own : η) {s : Session σ} : I s → I (h.initialise press own s).2
  finalise (press : KeyPress) (own : η) {s : Session σ} : I s → I (h.finalise press own s).2
  handle (press : KeyPress) (own : η) {s : Session σ} : I s → I (h.handle press own s).2.2
  refresh (own : η) {s : Session σ} : I s → I (h.refresh own s)
  seed (text : String) (own : η) {s : Session σ} : I s → I (h.seed text own s).2

namespace Modes

variable {r : Modes η σ} {s : Session σ}

theorem handlers_change (press : KeyPress) : (r.change press s).2.1.handlers = r.handlers := by
  rw [change]
  split <;> rfl

theorem handlers_changeWith (press : KeyPress) (initial : String) :
    (r.changeWith press initial s).2.1.handlers = r.handlers := by
  have h := handlers_change (r := r) (s := s) press
  rw [changeWith]
  generalize r.change press s = x at h ⊢
  rcases x with ⟨_ | _, _, _⟩ <;> exact h

theorem handlers_grantPrompt : (r.grantPrompt s).1.handlers = r.handlers := by
  rw [grantPrompt]
  split
  · rfl
  · exact handlers_changeWith _ _

theorem handlers_dispatch (press : KeyPress) :
    (r.dispatch press s).2.1.handlers = r.handlers := by
  rw [dispatch]
  exact handlers_grantPrompt.trans (handlers_change press)

/-- The hooks of all handlers keep a property of sessions. -/
def Keeps (r : Modes η σ) (I : Session σ → Prop) : Prop := ∀ m, (r.handlers.get m).Keeps I

theorem Keeps.of_handlers {r' : Modes η σ} (hr : r.Keeps I) (h : r'.handlers = r.handlers) :
    r'.Keeps I := by
  rw [Keeps, h]
  exact hr

theorem keeps_change (hr : r.Keeps I) (press : KeyPress) (h : I s) : I (r.change press s).2.2 := by
  rw [change]
  split
  · exact h
  · exact (hr _).initialise press _ ((hr _).finalise press _ h)

theorem keeps_changeWith (hr : r.Keeps I) (press : KeyPress) (initial : String) (h : I s) :
    I (r.changeWith press initial s).2.2 := by
  have hc := keeps_change hr press h
  have hh := hr.of_handlers (handlers_change (s := s) press)
  rw [changeWith]
  generalize r.change press s = x at hc hh ⊢
  rcases x with ⟨_ | _, r', s'⟩
  · exact hc
  · exact (hh _).seed initial _ hc

theorem keeps_grantPrompt (hr : r.Keeps I)
    (hwish : I s → I (s.mapConsole fun c ↦ { c with prompt := none })) (h : I s) :
    I (r.grantPrompt s).2 := by
  rw [grantPrompt]
  split
  · exact h
  · exact keeps_changeWith hr _ _ (hwish h)

/-- **What the hooks keep, and taking a wish back does, a press keeps.** -/
theorem keeps_dispatch (hr : r.Keeps I)
    (hwish : ∀ {s : Session σ}, I s → I (s.mapConsole fun c ↦ { c with prompt := none }))
    (press : KeyPress) (h : I s) : I (r.dispatch press s).2.2 := by
  rw [dispatch]
  have handled := (hr r.active).handle press (r.states.get r.active) h
  generalize (r.handlers.get r.active).handle press (r.states.get r.active) s = x at handled ⊢
  obtain ⟨_, own, s'⟩ := x
  have changed : I _ := keeps_change (r := { r with states := r.states.set r.active own }) hr press
    handled
  have hh := hr.of_handlers
    (handlers_change (r := { r with states := r.states.set r.active own }) (s := s') press)
  exact (hh.of_handlers handlers_grantPrompt _).refresh _ (keeps_grantPrompt hh hwish changed)

end Modes

/-! ## The standard handlers -/

/-- Two sessions that differ at most in what the modes show and wish for, in completion, and in
whether the screen is to be drawn anew. -/
structure Session.SameContent (s s' : Session σ) : Prop where
  interpreter : s'.interpreter = { s.interpreter with completion := s'.interpreter.completion }
  console : s'.console =
    { s.console with
      modeLine := s'.console.modeLine
      prompt := s'.console.prompt
      refreshRequested := s'.console.refreshRequested }
  history : s'.history = s.history

/-- A property of sessions that is upheld by each of the changes of which all events are made up. -/
structure Session.Upheld [Client σ] (I : Session σ → Prop) : Prop where
  /-- A command is executed. -/
  execute {s : Session σ} (c : Command) : I s → I (s.execute c).2
  /-- An error is shown. -/
  reportError {s : Session σ} (e : CommandError) : I s → I (s.mapConsole (.reportError e))
  /-- The client is asked for its status, which is shown. -/
  refreshServerStatus {s : Session σ} : I s → I (s.mapConsole .refreshServerStatus)
  /-- The status line is cleared. -/
  clearStatus {s : Session σ} : I s → I (s.mapConsole .clearStatus)
  /-- Only the modes do something on their own account. -/
  aside {s s' : Session σ} : s.SameContent s' → I s → I s'

/-- Two sessions that differ at most in what is shown, typed, set or wished for. -/
structure Session.SameWork (s s' : Session σ) : Prop where
  interpreter : s'.interpreter = { s.interpreter with completion := s'.interpreter.completion }
  client : s'.console.client = s.console.client
  history : s'.history = s.history

/-- A property of sessions that is kept by the changes of which all events are made up, as far as
commands work on what changes. -/
structure Session.Kept [Client σ] (I : Session σ → Prop) : Prop where
  /-- A command is executed. -/
  execute {s : Session σ} (c : Command) : I s → I (s.execute c).2
  /-- The client is asked for its status. -/
  status {s : Session σ} :
    I s → I (s.mapConsole fun c ↦ { c with client := (Client.status c.client).2 })
  /-- Nothing changes that commands work on. -/
  aside {s s' : Session σ} : s.SameWork s' → I s → I s'

namespace Session

variable {s : Session σ}

theorem sameWork_mapConsole {f : Console σ → Console σ}
    (h : (f s.console).client = s.console.client) : s.SameWork (s.mapConsole f) :=
  ⟨rfl, h, rfl⟩

theorem sameWork_reportError (e : CommandError) : s.SameWork (s.mapConsole (.reportError e)) :=
  sameWork_mapConsole (Console.client_reportError e _)

theorem sameWork_reportErrors (errors : List CommandError) :
    s.SameWork (s.mapConsole (.reportErrors errors)) :=
  sameWork_mapConsole (Console.client_reportErrors errors _)

theorem SameContent.sameWork {s' : Session σ} (h : s.SameContent s') : s.SameWork s' :=
  ⟨h.interpreter, by rw [h.console], h.history⟩

variable [Client σ]

namespace Upheld

theorem report (hI : Upheld I) {outcome : Except CommandError Unit × Session σ} (h : I outcome.2) :
    I (Session.report outcome).2 := by
  obtain ⟨e | _, s⟩ := outcome
  · exact hI.reportError e h
  · exact h

theorem showLine (hI : Upheld I) (line : Option String) (h : I s) : I (Modes.showLine line s) :=
  hI.aside ⟨rfl, rfl, rfl⟩ h

theorem resetCompletion (hI : Upheld I) (h : I s) : I s.resetCompletion :=
  hI.aside ⟨rfl, rfl, rfl⟩ h

end Upheld

theorem Kept.refreshServerStatus (hI : Kept I) (h : I s) :
    I (s.mapConsole .refreshServerStatus) := by
  have hc := Console.client_refreshServerStatus s.console
  cases hs : Client.isConnected s.console.client with
  | true =>
    rw [if_pos hs] at hc
    refine hI.aside ?_ (hI.status h)
    exact ⟨rfl, hc, rfl⟩
  | false =>
    rw [if_neg (by simp [hs])] at hc
    exact hI.aside ⟨rfl, hc, rfl⟩ h

/-- What is kept as far as commands work on it is upheld. -/
theorem Kept.upheld (hI : Kept I) : Upheld I where
  execute := hI.execute
  reportError := fun e h ↦ hI.aside (sameWork_reportError e) h
  refreshServerStatus := hI.refreshServerStatus
  clearStatus := hI.aside ⟨rfl, rfl, rfl⟩
  aside := fun same h ↦ hI.aside same.sameWork h

end Session

namespace Modes

variable [Client σ] {s : Session σ}

theorem keeps_handle (hI : Session.Upheld I) (keymap : Keymap) (m : Mode) (press : KeyPress)
    (line : InputLine) (h : I s) :
    I (((standard keymap).handlers.get m).handle press line s).2.2 := by
  have result := handled_handle keymap press m line s
  generalize (((standard keymap).handlers.get m).handle press line s).2.2 = s' at result ⊢
  cases result with
  | nothing => exact h
  | executed _ c => exact hI.report (hI.execute c h)
  | wished | completed => exact hI.aside ⟨rfl, rfl, rfl⟩ h
  | entered c => exact hI.report (hI.execute c (hI.resetCompletion h))

/-- The standard handlers make no other changes than those that are listed. -/
theorem keeps_standard (hI : Session.Upheld I) (keymap : Keymap) :
    (standard (σ := σ) keymap).Keeps I
  | .normal =>
    { initialise := fun _ _ ↦ hI.showLine none
      finalise := fun _ _ _ h ↦ h
      handle := fun press line _ h ↦ keeps_handle hI keymap .normal press line h
      refresh := fun _ ↦ hI.showLine none
      seed := fun _ _ _ h ↦ h }
  | .command =>
    { initialise := fun _ _ _ h ↦ hI.clearStatus (hI.resetCompletion h)
      finalise := fun _ _ ↦ hI.resetCompletion
      handle := fun press line _ h ↦ keeps_handle hI keymap .command press line h
      refresh := fun line ↦ hI.showLine (some line.contents)
      seed := fun _ _ _ h ↦ h }
  | .search =>
    { initialise := fun _ _ ↦ hI.clearStatus
      finalise := fun _ _ _ h ↦ h
      handle := fun press line _ h ↦ keeps_handle hI keymap .search press line h
      refresh := fun line ↦ hI.showLine (some line.contents)
      seed := fun _ _ _ h ↦ h }

end Modes

/-! ## The application -/

namespace App

variable [Client σ] {app : App σ} {keymap : Keymap}

theorem handlers_step (event : Event) : (app.step event).modes.handlers = app.modes.handlers := by
  cases event with
  | key press => exact Modes.handlers_dispatch press
  | tick => rfl
  | resize => rfl

theorem keeps_step (hI : Session.Upheld I)
    (hm : app.modes.handlers = (Modes.standard keymap).handlers) (event : Event)
    (h : I app.session) : I (app.step event).session := by
  have hr := (Modes.keeps_standard hI keymap).of_handlers hm
  cases event with
  | key press => exact Modes.keeps_dispatch hr (hI.aside ⟨rfl, rfl, rfl⟩) press h
  | tick =>
    rw [step, onTick]
    refine (hr _).refresh _ ?_
    split
    · exact hI.refreshServerStatus h
    · exact h
  | resize => exact hI.aside ⟨rfl, rfl, rfl⟩ h

/-- **What each of the changes upholds, all events uphold.** -/
theorem upholds_run (hI : Session.Upheld I)
    (hm : app.modes.handlers = (Modes.standard keymap).handlers) (events : List Event)
    (h : I app.session) : I (app.run events).session := by
  induction events generalizing app with
  | nil => exact h
  | cons event events ih => exact ih ((handlers_step event).trans hm) (keeps_step hI hm event h)

/-- **What commands and a look at the status keep, all events keep.** -/
theorem keeps_run (hI : Session.Kept I)
    (hm : app.modes.handlers = (Modes.standard keymap).handlers) (events : List Event)
    (h : I app.session) : I (app.run events).session :=
  upholds_run hI.upheld hm events h

variable {config : Config} {launch : Launch} {files : FileReader} {client : σ}

theorem handlers_startWith :
    (startWith keymap config launch files client).modes.handlers =
      (Modes.standard keymap).handlers := rfl

/-- What the session is once the startup commands have been run. -/
def startupSession (config : Config) (launch : Launch) (files : FileReader) (client : σ) :
    Session σ :=
  ((initialSession config launch client).runStartup (startupLines config launch files)).2

theorem startWith_session :
    (startWith keymap config launch files client).session =
      Modes.showLine none
        (showStartupErrors
          ((initialSession config launch client).runStartup (startupLines config launch files)).1
          (connectIfNeeded (launch.server config.server)
            (setSkipConnects false (startupSession config launch files client)))) :=
  rfl

/-- Once the startup commands have been run, one more command may be executed, connects are allowed
again, and errors are shown; then the bottom line is cleared. -/
theorem exists_startWith {I : Session σ → Prop}
    (execute : ∀ {s : Session σ} (c : Command), I s → I (s.execute c).2)
    (allow : ∀ {s : Session σ}, I s → I (setSkipConnects false s))
    (error : ∀ {s : Session σ} (text : String), I s → I (s.mapConsole (.error text)))
    (h : I (startupSession config launch files client)) :
    ∃ s, I s ∧ (startWith keymap config launch files client).session = Modes.showLine none s := by
  refine ⟨_, ?_, startWith_session⟩
  have connected {server : Endpoint} {s : Session σ} (h : I s) : I (connectIfNeeded server s) := by
    rw [connectIfNeeded]
    split
    · exact h
    · exact execute _ h
  have reported (errors : List CommandError) {s : Session σ} (h : I s) :
      I (s.mapConsole (.reportErrors errors)) := by
    induction errors generalizing s with
    | nil => exact h
    | cons e errors ih =>
      rw [Session.mapConsole_reportErrors_cons, Console.reportError_eq]
      exact ih (error _ h)
  rw [showStartupErrors]
  split
  · exact reported _ (connected (allow h))
  · exact error _ (reported _ (connected (allow h)))

/-- What holds after the startup commands holds when the application is up. -/
theorem keeps_startWith (hI : Session.Kept I) (h : I (startupSession config launch files client)) :
    I (startWith keymap config launch files client).session := by
  have error {s : Session σ} (text : String) (h : I s) : I (s.mapConsole (.error text)) := by
    refine hI.aside (Session.sameWork_mapConsole ?_) h
    exact Console.client_error text s.console
  obtain ⟨s, hs, he⟩ := exists_startWith (I := I) hI.execute (hI.aside ⟨rfl, rfl, rfl⟩) error h
  rw [he]
  exact hI.upheld.showLine none hs

end App
end Jukebox
