import Jukebox.Session

/-!
# Modes

Input goes to one mode at a time.  Every mode has a handler; the same key press that a handler
deals with may then move input to another mode, and a handler may leave a wish to open a mode with
text already typed.

* `Mode` names the modes.
* `Handler` is the behaviour of a mode: hooks that change the handler's own state and the session,
  and predicates that only look.
* `Modes` holds the handlers, their states and the active mode.
* `Modes.modeAfter` decides where input goes, `Modes.dispatch` carries a key press out.
-/

set_option autoImplicit false

namespace Jukebox

/-- The modes of input.  Where several could start, the last one named here does. -/
inductive Mode where
  | normal | command | search
  deriving DecidableEq, Repr, Inhabited

namespace Mode

/-- Every mode, in order. -/
def all : List Mode := [normal, command, search]

/-- The name that is shown. -/
def name : Mode → String
  | normal => "NORMAL"
  | command => "COMMAND"
  | search => "SEARCH"

/-- The word for a mode in diagnostics. -/
def word : Mode → String
  | normal => "Normal"
  | command => "Command"
  | search => "Search"

/-- What is said about a mode that nothing handles. -/
def missingHandler (m : Mode) : String := "mode registry has no handler for " ++ m.word ++ " mode"

end Mode

/-- The behaviour of a mode whose handler has states of type `η`. -/
structure Handler (η σ : Type) where
  /-- Input comes to the mode. -/
  initialise : KeyPress → η → Session σ → η × Session σ
  /-- Input leaves the mode. -/
  finalise : KeyPress → η → Session σ → η × Session σ
  /-- Deals with a press, and says whether it meant anything. -/
  handle : KeyPress → η → Session σ → Bool × η × Session σ
  /-- Shows the mode's line. -/
  refresh : η → Session σ → Session σ
  /-- Whether a press starts the mode. -/
  startsOn : η → KeyPress → Bool
  /-- Whether a press ends the mode. -/
  endsOn : η → KeyPress → Bool
  /-- Types a text into the mode, which has just been initialised. -/
  seed : String → η → Session σ → η × Session σ := fun _ own session => (own, session)

/-- Something for each mode. -/
structure PerMode (α : Type) where
  normal : α
  command : α
  search : α
  deriving DecidableEq, Repr

namespace PerMode

variable {α : Type}

/-- What belongs to a mode. -/
def get (p : PerMode α) : Mode → α
  | .normal => p.normal
  | .command => p.command
  | .search => p.search

/-- Replaces what belongs to a mode. -/
def set (p : PerMode α) (m : Mode) (a : α) : PerMode α :=
  match m with
  | .normal => { p with normal := a }
  | .command => { p with command := a }
  | .search => { p with search := a }

@[simp] theorem get_set (p : PerMode α) (m n : Mode) (a : α) :
    (p.set m a).get n = if m = n then a else p.get n := by
  cases m <;> cases n <;> rfl

@[simp] theorem set_set (p : PerMode α) (m : Mode) (a b : α) :
    (p.set m a).set m b = p.set m b := by
  cases m <;> rfl

@[simp] theorem set_get (p : PerMode α) (m : Mode) : p.set m (p.get m) = p := by
  cases m <;> rfl

/-- Collects one thing for each mode out of a list, the last one given for a mode; fails with the
first mode that nothing is given for. -/
def collect (given : List (Mode × α)) : Except Mode (PerMode α) := do
  let find (m : Mode) : Except Mode α :=
    match given.reverse.lookup m with
    | some a => .ok a
    | none => .error m
  return { normal := ← find .normal, command := ← find .command, search := ← find .search }

end PerMode

/-- The handlers with their states, and the mode that input goes to. -/
structure Modes (η σ : Type) where
  handlers : PerMode (Handler η σ)
  states : PerMode η
  active : Mode := .normal

namespace Modes

variable {η σ : Type}

/-- Puts handlers and their states together.  Every mode needs one, or its input would be lost. -/
def ofList (given : List (Mode × Handler η σ × η)) : Except Mode (Modes η σ) := do
  let each ← PerMode.collect given
  return {
    handlers := ⟨each.normal.1, each.command.1, each.search.1⟩
    states := ⟨each.normal.2, each.command.2, each.search.2⟩ }

/-- Runs a hook on the state of a mode. -/
def runHook (m : Mode) (hook : Handler η σ → η → Session σ → η × Session σ) (r : Modes η σ)
    (session : Session σ) : Modes η σ × Session σ :=
  let (own, session) := hook (r.handlers.get m) (r.states.get m) session
  ({ r with states := r.states.set m own }, session)

/-- Whether a press starts a mode. -/
def startsOn (r : Modes η σ) (m : Mode) (press : KeyPress) : Bool :=
  (r.handlers.get m).startsOn (r.states.get m) press

/-- Whether a press ends a mode. -/
def endsOn (r : Modes η σ) (m : Mode) (press : KeyPress) : Bool :=
  (r.handlers.get m).endsOn (r.states.get m) press

/-- The mode that input goes to after a press in mode `m`.  Out of normal mode goes the last mode
that the press starts; back to it goes a press that starts it or ends the present one. -/
def modeAfter (r : Modes η σ) (m : Mode) (press : KeyPress) : Mode :=
  if m = .normal then
    (Mode.all.filter (r.startsOn · press)).getLastD .normal
  else if r.startsOn .normal press || r.endsOn m press then .normal
  else m

/-- Lets the active mode show its line. -/
def refresh (r : Modes η σ) (session : Session σ) : Session σ :=
  (r.handlers.get r.active).refresh (r.states.get r.active) session

/-- Brings up the active mode before the first press. -/
def start (r : Modes η σ) (session : Session σ) : Modes η σ × Session σ :=
  let (r, session) := r.runHook r.active (·.initialise (.plain .null)) session
  (r, r.refresh session)

/-- Moves input to the mode that a press asks for, and says whether that is another one. -/
def change (r : Modes η σ) (press : KeyPress) (session : Session σ) :
    Bool × Modes η σ × Session σ :=
  let next := r.modeAfter r.active press
  if next = r.active then (false, r, session)
  else
    let (r, session) := r.runHook r.active (·.finalise press) session
    let (r, session) := { r with active := next }.runHook next (·.initialise press) session
    (true, r, session)

/-- Moves input and, if it has come to another mode, types a text there. -/
def changeWith (r : Modes η σ) (press : KeyPress) (initial : String) (session : Session σ) :
    Bool × Modes η σ × Session σ :=
  match r.change press session with
  | (false, r, session) => (false, r, session)
  | (true, r, session) => (true, r.runHook r.active (·.seed initial) session)

/-- Grants the wish for a prompt, if there is one; it is gone afterwards in any case. -/
def grantPrompt (r : Modes η σ) (session : Session σ) : Modes η σ × Session σ :=
  match session.console.prompt with
  | none => (r, session)
  | some wish =>
    (r.changeWith wish.trigger wish.initial
      (session.mapConsole fun c => { c with prompt := none })).2

/-- Carries out a key press: the active mode deals with it, then input may move, once for the
press and once more for a wish it has raised, and the mode that input is in shows its line.  The
answer is whether the press meant anything to the mode that dealt with it. -/
def dispatch (r : Modes η σ) (press : KeyPress) (session : Session σ) :
    Bool × Modes η σ × Session σ :=
  let (handled, own, session) :=
    (r.handlers.get r.active).handle press (r.states.get r.active) session
  let r := { r with states := r.states.set r.active own }
  let (_, r, session) := r.change press session
  let (r, session) := r.grantPrompt session
  (handled, r, r.refresh session)

end Modes
end Jukebox
