import Jukebox.Proofs.Dispatch
import Jukebox.Proofs.Lockstep

/-!
# Presses in unison

Commands cannot tell apart consoles that are in lockstep.  If the modes cannot either, then a press
does the same to both: it moves input to the same mode, leaves the same lines, and keeps the
consoles related.

* `Handler.Respects` says that the hooks of a handler cannot tell related sessions apart, and
  `Modes.matches_dispatch` that a press then does not.
* `Console.Unison` adds to `Console.Lockstep` what the modes look at and write.
* `Modes.respects_standard` says that this is all that the standard handlers look at and write.
-/

set_option autoImplicit false

namespace Jukebox

variable {η σ : Type} {rel : Session σ → Session σ → Prop}

/-! ## Hooks -/

/-- The hooks of a handler do the same to its state on related sessions, and leave the sessions
related. -/
structure Handler.Respects (h : Handler η σ) (rel : Session σ → Session σ → Prop) : Prop where
  initialise (press : KeyPress) (own : η) {s s' : Session σ} :
    rel s s' → Matches rel (h.initialise press own s) (h.initialise press own s')
  finalise (press : KeyPress) (own : η) {s s' : Session σ} :
    rel s s' → Matches rel (h.finalise press own s) (h.finalise press own s')
  handle (press : KeyPress) (own : η) {s s' : Session σ} :
    rel s s' → Matches (Matches rel) (h.handle press own s) (h.handle press own s')
  refresh (own : η) {s s' : Session σ} : rel s s' → rel (h.refresh own s) (h.refresh own s')
  seed (text : String) (own : η) {s s' : Session σ} :
    rel s s' → Matches rel (h.seed text own s) (h.seed text own s')

namespace Modes

variable {r : Modes η σ} {s s' : Session σ}

/-- The hooks of all handlers respect a relation of sessions. -/
def Respects (r : Modes η σ) (rel : Session σ → Session σ → Prop) : Prop :=
  ∀ m, (r.handlers.get m).Respects rel

theorem Respects.of_handlers {r' : Modes η σ} (hr : r.Respects rel)
    (h : r'.handlers = r.handlers) : r'.Respects rel := by
  rw [Respects, h]
  exact hr

/-- A hook that does the same to the state of its handler does the same to all modes. -/
theorem matches_runHook (m : Mode) (hook : Handler η σ → η → Session σ → η × Session σ)
    (h : Matches rel (hook (r.handlers.get m) (r.states.get m) s)
      (hook (r.handlers.get m) (r.states.get m) s')) :
    Matches rel (r.runHook m hook s) (r.runHook m hook s') := by
  rw [runHook, runHook]
  generalize hook (r.handlers.get m) (r.states.get m) s = x at h ⊢
  generalize hook (r.handlers.get m) (r.states.get m) s' = x' at h ⊢
  exact ⟨congrArg (fun own ↦ { r with states := r.states.set m own }) h.1, h.2⟩

theorem matches_change (hr : r.Respects rel) (press : KeyPress) (h : rel s s') :
    Matches (Matches rel) (r.change press s) (r.change press s') := by
  rw [change, change]
  dsimp only
  split
  · exact ⟨rfl, rfl, h⟩
  · obtain ⟨left, finalised⟩ :=
      matches_runHook r.active (·.finalise press) ((hr _).finalise press _ h)
    have handlers : (r.runHook r.active (·.finalise press) s).1.handlers = r.handlers := rfl
    rw [left]
    generalize r.runHook r.active (·.finalise press) s = x at finalised handlers ⊢
    have initialise := (hr.of_handlers handlers (r.modeAfter r.active press)).initialise press
      (x.1.states.get (r.modeAfter r.active press)) finalised
    exact ⟨rfl, matches_runHook (r := { x.1 with active := r.modeAfter r.active press }) _
      (·.initialise press) initialise⟩

theorem matches_changeWith (hr : r.Respects rel) (press : KeyPress) (initial : String)
    (h : rel s s') :
    Matches (Matches rel) (r.changeWith press initial s) (r.changeWith press initial s') := by
  have changed := matches_change hr press h
  have hh := hr.of_handlers (handlers_change (s := s) press)
  rw [changeWith, changeWith]
  generalize r.change press s = x at changed hh ⊢
  generalize r.change press s' = x' at changed ⊢
  obtain ⟨moved, r₁, s₁⟩ := x
  obtain ⟨moved', r₁', s₁'⟩ := x'
  obtain ⟨(rfl : moved' = moved), (rfl : r₁' = r₁), after⟩ := changed
  cases moved' with
  | false => exact ⟨rfl, rfl, after⟩
  | true => exact ⟨rfl, matches_runHook _ (·.seed initial) ((hh _).seed initial _ after)⟩

/-- Granting a wish does the same if the sessions have the same wish. -/
theorem matches_grantPrompt (hr : r.Respects rel)
    (hwish : rel s s' → s'.console.prompt = s.console.prompt ∧
      rel (s.mapConsole fun c ↦ { c with prompt := none })
        (s'.mapConsole fun c ↦ { c with prompt := none }))
    (h : rel s s') : Matches rel (r.grantPrompt s) (r.grantPrompt s') := by
  obtain ⟨same, taken⟩ := hwish h
  rw [grantPrompt, grantPrompt, same]
  split
  · exact ⟨rfl, h⟩
  · exact (matches_changeWith hr _ _ taken).2

/-- **What the hooks cannot tell apart, a press cannot.** -/
theorem matches_dispatch (hr : r.Respects rel)
    (hwish : ∀ {s s' : Session σ}, rel s s' → s'.console.prompt = s.console.prompt ∧
      rel (s.mapConsole fun c ↦ { c with prompt := none })
        (s'.mapConsole fun c ↦ { c with prompt := none }))
    (press : KeyPress) (h : rel s s') :
    Matches (Matches rel) (r.dispatch press s) (r.dispatch press s') := by
  rw [dispatch, dispatch]
  have dealt := (hr r.active).handle press (r.states.get r.active) h
  generalize (r.handlers.get r.active).handle press (r.states.get r.active) s = x at dealt ⊢
  generalize (r.handlers.get r.active).handle press (r.states.get r.active) s' = x' at dealt ⊢
  obtain ⟨handled, own, s₁⟩ := x
  obtain ⟨handled', own', s₁'⟩ := x'
  obtain ⟨(rfl : handled' = handled), (rfl : own' = own), dealt⟩ := dealt
  have hr₁ : Respects { r with states := r.states.set r.active own' } rel := hr
  dsimp only
  generalize ({ r with states := r.states.set r.active own' } : Modes η σ) = r₁ at hr₁ ⊢
  have changed := matches_change hr₁ press dealt
  have hr₂ := hr₁.of_handlers (handlers_change (r := r₁) (s := s₁) press)
  generalize r₁.change press s₁ = y at changed hr₂ ⊢
  generalize r₁.change press s₁' = y' at changed ⊢
  obtain ⟨moved, r₂, s₂⟩ := y
  obtain ⟨moved', r₂', s₂'⟩ := y'
  obtain ⟨-, (rfl : r₂' = r₂), changed⟩ := changed
  obtain ⟨granted, final⟩ := matches_grantPrompt hr₂ hwish changed
  have hr₃ := hr₂.of_handlers (handlers_grantPrompt (r := r₂') (s := s₂))
  dsimp only
  rw [granted]
  exact ⟨rfl, rfl, (hr₃ _).refresh _ final⟩

end Modes

/-! ## The standard handlers -/

variable [Client σ] {R : Console σ → Console σ → Prop}

/-- Neither commands nor the modes can tell related consoles apart, and both leave them related. -/
structure Console.Unison (R : Console σ → Console σ → Prop) : Prop extends Console.Lockstep R where
  prompt {c c' : Console σ} (h : R c c') : c'.prompt = c.prompt
  withPrompt {c c' : Console σ} (prompt : Option PromptRequest) (h : R c c') :
    R { c with prompt } { c' with prompt }
  withModeLine {c c' : Console σ} (modeLine : Option String) (h : R c c') :
    R { c with modeLine } { c' with modeLine }
  clearStatus {c c' : Console σ} (h : R c c') : R c.clearStatus c'.clearStatus

namespace Session

variable {s s' : Session σ}

/-- A change of the console that keeps consoles related keeps sessions alike. -/
theorem Alike.mapConsole (h : s.Alike R s') {f : Console σ → Console σ}
    (hf : R (f s.console) (f s'.console)) : (s.mapConsole f).Alike R (s'.mapConsole f) :=
  ⟨h.standard, hf, h.interpreter, h.history⟩

theorem Alike.resetCompletion (h : s.Alike R s') :
    s.resetCompletion.Alike R s'.resetCompletion := by
  refine ⟨h.standard, h.console, ?_, h.history⟩
  rw [Session.resetCompletion, Session.resetCompletion, h.interpreter]

theorem matches_complete (h : s.Alike R s') (text : String) :
    Matches (Alike R) (s.complete text) (s'.complete text) := by
  rw [complete, complete, h.interpreter]
  exact ⟨rfl, h.standard, h.console, rfl, h.history⟩

theorem alike_report_execute (hR : Console.Lockstep R) (h : s.Alike R s') (c : Command) :
    (report (s.execute c)).2.Alike R (report (s'.execute c)).2 :=
  (matches_report hR (matches_execute hR h c)).2

end Session

namespace Modes

variable {s s' : Session σ}

theorem alike_showLine (hR : Console.Unison R) (line : Option String) (h : s.Alike R s') :
    (showLine line s).Alike R (showLine line s') :=
  h.mapConsole (hR.withModeLine line h.console)

theorem alike_clearStatus (hR : Console.Unison R) (h : s.Alike R s') :
    (s.mapConsole .clearStatus).Alike R (s'.mapConsole .clearStatus) :=
  h.mapConsole (hR.clearStatus h.console)

/-- Leaving a wish and taking it back keeps sessions alike. -/
theorem alike_wish (hR : Console.Unison R) (prompt : Option PromptRequest) (h : s.Alike R s') :
    (s.mapConsole fun c ↦ { c with prompt }).Alike R (s'.mapConsole fun c ↦ { c with prompt }) :=
  h.mapConsole (hR.withPrompt prompt h.console)

theorem matches_handleNormal (hR : Console.Unison R) (keymap : Keymap) (press : KeyPress)
    (line : InputLine) (h : s.Alike R s') :
    Matches (Matches (Session.Alike R)) (handleNormal keymap press line s)
      (handleNormal keymap press line s') := by
  rw [handleNormal, handleNormal]
  split
  · exact ⟨rfl, rfl, h⟩
  · exact ⟨rfl, rfl, Session.alike_report_execute hR.toLockstep h _⟩
  · exact ⟨rfl, rfl, alike_wish hR _ h⟩

theorem matches_completeName (line : InputLine) (h : s.Alike R s') :
    Matches (Session.Alike R) (completeName line s) (completeName line s') := by
  obtain ⟨shown, after⟩ := Session.matches_complete h line.text
  rw [completeName, completeName]
  split
  · exact ⟨rfl, h⟩
  · exact ⟨congrArg line.replaceText shown, after⟩

theorem matches_handleCommand (hR : Console.Unison R) (keymap : Keymap) (press : KeyPress)
    (line : InputLine) (h : s.Alike R s') :
    Matches (Matches (Session.Alike R)) (handleCommand keymap press line s)
      (handleCommand keymap press line s') := by
  have begun : Session.Alike R
      (if keymap.complete.accepts press then s else s.resetCompletion)
      (if keymap.complete.accepts press then s' else s'.resetCompletion) := by
    split
    · exact h
    · exact h.resetCompletion
  rw [handleCommand, handleCommand]
  dsimp only
  generalize (if keymap.complete.accepts press then s else s.resetCompletion) = s₁ at begun ⊢
  generalize (if keymap.complete.accepts press then s' else s'.resetCompletion) = s₁' at begun ⊢
  split
  · exact ⟨rfl, rfl, begun⟩
  · split
    · exact ⟨rfl, matches_completeName line begun⟩
    · split
      · exact ⟨rfl, rfl, Session.alike_report_execute hR.toLockstep begun _⟩
      · exact ⟨rfl, rfl, begun⟩

theorem matches_handleSearch (hR : Console.Unison R) (keymap : Keymap) (press : KeyPress)
    (line : InputLine) (h : s.Alike R s') :
    Matches (Matches (Session.Alike R)) (handleSearch keymap press line s)
      (handleSearch keymap press line s') := by
  rw [handleSearch, handleSearch]
  split
  · exact ⟨rfl, rfl, h⟩
  · split
    · split
      · exact ⟨rfl, rfl, h⟩
      · exact ⟨rfl, rfl, Session.alike_report_execute hR.toLockstep h _⟩
    · exact ⟨rfl, rfl, h⟩

/-- **The standard handlers cannot tell alike sessions apart.** -/
theorem respects_standard (hR : Console.Unison R) (keymap : Keymap) :
    (standard (σ := σ) keymap).Respects (Session.Alike R)
  | .normal =>
    { initialise := fun _ _ _ _ h ↦ ⟨rfl, alike_showLine hR none h⟩
      finalise := fun _ _ _ _ h ↦ ⟨rfl, h⟩
      handle := fun press line _ _ h ↦ matches_handleNormal hR keymap press line h
      refresh := fun _ _ _ h ↦ alike_showLine hR none h
      seed := fun _ _ _ _ h ↦ ⟨rfl, h⟩ }
  | .command =>
    { initialise := fun _ _ _ _ h ↦ ⟨rfl, alike_clearStatus hR h.resetCompletion⟩
      finalise := fun _ _ _ _ h ↦ ⟨rfl, h.resetCompletion⟩
      handle := fun press line _ _ h ↦ matches_handleCommand hR keymap press line h
      refresh := fun line _ _ h ↦ alike_showLine hR (some line.contents) h
      seed := fun _ _ _ _ h ↦ ⟨rfl, h⟩ }
  | .search =>
    { initialise := fun _ _ _ _ h ↦ ⟨rfl, alike_clearStatus hR h⟩
      finalise := fun _ _ _ _ h ↦ ⟨rfl, h⟩
      handle := fun press line _ _ h ↦ matches_handleSearch hR keymap press line h
      refresh := fun line _ _ h ↦ alike_showLine hR (some line.contents) h
      seed := fun _ _ _ _ h ↦ ⟨rfl, h⟩ }

end Modes

namespace App

/-- Applications in the same modes, with sessions alike. -/
structure Alike (R : Console σ → Console σ → Prop) (app app' : App σ) : Prop where
  modes : app'.modes = app.modes
  session : app.session.Alike R app'.session

/-- A press keeps applications alike. -/
theorem Alike.onKey {app app' : App σ} {keymap : Keymap} (hR : Console.Unison R)
    (hm : app.modes.handlers = (Modes.standard keymap).handlers) (h : app.Alike R app')
    (press : KeyPress) : (app.onKey press).Alike R (app'.onKey press) := by
  have hr : app.modes.Respects (Session.Alike R) :=
    (Modes.respects_standard hR keymap).of_handlers hm
  obtain ⟨-, modes, session⟩ := Modes.matches_dispatch hr
    (fun h ↦ ⟨hR.prompt h.console, Modes.alike_wish hR none h⟩) press h.session
  rw [App.onKey, App.onKey, h.modes]
  exact ⟨modes, session⟩

end App
end Jukebox
