import Jukebox.Mode.Basic
import Mathlib.Data.List.Induction

/-!
# Calls of hooks

Whatever the handlers do, and whatever their predicates say from one moment to the next, the modes
call their hooks in an order that handlers can rely on.  A handler is initialised before anything
else is asked of it and finalised before input goes elsewhere, and there is never more than one of
which that holds.

* `Hook` is a call of a hook and `Hook.run` what it does.
* `Modes.Next` says where a press leads.
* `Modes.Changes`, `Modes.Grants` and `Modes.Dispatches` say which hooks are called in which order,
  with what comes of them; `Modes.Calls` says so of a whole run.
* `Hook.inCharge` tells from the calls so far whether a mode has been initialised and not finalised
  since, and `Hook.InOrder` says when a call may come.
* `Modes.Handovers` is the order of the calls, without what they do.
* `Modes.hooks_in_order` is the outcome.

Nothing is assumed of the hooks: they may change the session in any way, and leave any wish.
-/

set_option autoImplicit false

namespace Jukebox

/-! ## Hooks -/

/-- A call of a hook of the handler of a mode. -/
inductive Hook where
  | initialise (m : Mode) (press : KeyPress)
  | finalise (m : Mode) (press : KeyPress)
  | handle (m : Mode) (press : KeyPress)
  | refresh (m : Mode)
  | seed (m : Mode) (text : String)
  deriving DecidableEq, Repr

namespace Hook

variable {η σ : Type}

/-- What a call does to the state of the handler and to the session. -/
def run : Hook → Modes η σ × Session σ → Modes η σ × Session σ
  | initialise m press, (r, s) => r.runHook m (·.initialise press) s
  | finalise m press, (r, s) => r.runHook m (·.finalise press) s
  | handle m press, (r, s) => r.runHook m (fun h own s ↦ (h.handle press own s).2) s
  | refresh m, (r, s) => (r, (r.handlers.get m).refresh (r.states.get m) s)
  | seed m text, (r, s) => r.runHook m (·.seed text) s

/-- Calls of hooks leave input where it is. -/
@[simp] theorem active_run (hook : Hook) (x : Modes η σ × Session σ) :
    (hook.run x).1.active = x.1.active := by
  cases hook <;> rfl

/-- The mode whose handler is used, if the call is neither its first nor its last. -/
def uses : Hook → Option Mode
  | handle m _ | refresh m | seed m _ => some m
  | initialise _ _ | finalise _ _ => none

/-- Whether the mode `m` is in charge after a call, given whether it was before. -/
def charge (m : Mode) (before : Bool) : Hook → Bool
  | initialise n _ => before || decide (n = m)
  | finalise n _ => before && decide (n ≠ m)
  | handle _ _ | refresh _ | seed _ _ => before

/-- Whether a mode has been initialised by calls, and not finalised since. -/
def inCharge (calls : List Hook) (m : Mode) : Bool := calls.foldl (charge m) false

/-- A mode is in charge and no other is. -/
def Alone (calls : List Hook) (m : Mode) : Prop := ∀ n, inCharge calls n = decide (n = m)

/-- When a call may come, given those before and after it: a handler that is finalised, used, or
shown must be the only one in charge.  One that is initialised takes over from another that has just
been finalised for the same press, unless it is the first, and no other is in charge then.  One that
is finalised is taken over from at once. -/
def InOrder (before after : List Hook) : Hook → Prop
  | initialise m press =>
    (∀ n, inCharge before n = false) ∧
      (before = [] ∨ ∃ earlier n, before = earlier ++ [finalise n press] ∧ n ≠ m)
  | finalise m press => Alone before m ∧ ∃ n later, after = initialise n press :: later ∧ n ≠ m
  | handle m _ | refresh m | seed m _ => Alone before m

variable {calls : List Hook} {m n : Mode} {press : KeyPress} {hook : Hook}

theorem inCharge_concat (calls : List Hook) (hook : Hook) (m : Mode) :
    inCharge (calls ++ [hook]) m = charge m (inCharge calls m) hook := by
  rw [inCharge, List.foldl_append]
  rfl

/-- Using a handler leaves it in charge. -/
theorem Alone.concat_use (h : Alone calls m) (used : hook.uses = some n) :
    Alone (calls ++ [hook]) m := by
  intro k
  rw [inCharge_concat, ← h k]
  cases hook with
  | initialise | finalise => cases used
  | handle | refresh | seed => rfl

/-- Nobody is in charge once the handler that was alone is finalised. -/
theorem Alone.concat_finalise (h : Alone calls m) (press : KeyPress) (k : Mode) :
    inCharge (calls ++ [finalise m press]) k = false := by
  rw [inCharge_concat, h k]
  cases m <;> cases k <;> rfl

/-- A handler that is initialised while nobody is in charge is alone then. -/
theorem alone_concat_initialise (h : ∀ k, inCharge calls k = false) (press : KeyPress) :
    Alone (calls ++ [initialise m press]) m := by
  intro k
  rw [inCharge_concat, h k]
  cases m <;> cases k <;> rfl

end Hook

namespace Modes

variable {η σ : Type} {press : KeyPress} {presses : List KeyPress} {m n : Mode}
  {hooks hooks' : List Hook} {r : Modes η σ} {s : Session σ} {x y : Modes η σ × Session σ}

/-! ## Which hooks are called -/

/-- Where a press leads: out of normal mode, to the last mode in order that it starts, and from any
other back to normal mode, or nowhere. -/
structure Next (r : Modes η σ) (press : KeyPress) (next : Mode) : Prop where
  out (ha : r.active = .normal) :
    next =
      if r.startsOn .search press then .search
      else if r.startsOn .command press then .command
      else .normal
  back (ha : r.active ≠ .normal) :
    next = if r.startsOn .normal press || r.endsOn r.active press then .normal else r.active

/-- Input leaves the active mode and comes to another. -/
def handOver (press : KeyPress) (next : Mode) (x : Modes η σ × Session σ) :
    Modes η σ × Session σ :=
  let (r, s) := (Hook.finalise x.1.active press).run x
  (Hook.initialise next press).run ({ r with active := next }, s)

/-- A wish is taken back. -/
def takeWish (x : Modes η σ × Session σ) : Modes η σ × Session σ :=
  (x.1, x.2.mapConsole fun c ↦ { c with prompt := none })

/-- Input moves for a press, or does not. -/
inductive Changes (press : KeyPress) :
    Modes η σ × Session σ → List Hook → Modes η σ × Session σ → Prop
  | stays {x : Modes η σ × Session σ} (next : x.1.Next press x.1.active) : Changes press x [] x
  | moves {x : Modes η σ × Session σ} {n : Mode} (next : x.1.Next press n) (hn : n ≠ x.1.active) :
      Changes press x [.finalise x.1.active press, .initialise n press] (handOver press n x)

/-- A wish is granted, or refused, or there is none. -/
inductive Grants : Modes η σ × Session σ → List Hook → Modes η σ × Session σ → Prop
  | none {x : Modes η σ × Session σ} (hw : x.2.console.prompt = none) : Grants x [] x
  | refused {x : Modes η σ × Session σ} {wish : PromptRequest}
      (hw : x.2.console.prompt = some wish) (next : x.1.Next wish.trigger x.1.active) :
      Grants x [] (takeWish x)
  | granted {x : Modes η σ × Session σ} {wish : PromptRequest} {n : Mode}
      (hw : x.2.console.prompt = some wish) (next : x.1.Next wish.trigger n)
      (hn : n ≠ x.1.active) :
      Grants x
        [.finalise x.1.active wish.trigger, .initialise n wish.trigger, .seed n wish.initial]
        ((Hook.seed n wish.initial).run (handOver wish.trigger n (takeWish x)))

/-- A press is dealt with by the active mode, input moves for it and then for a wish, and the mode
that is active by then shows its line. -/
inductive Dispatches (press : KeyPress) :
    Modes η σ × Session σ → List Hook → Modes η σ × Session σ → Prop
  | intro {x y z : Modes η σ × Session σ} {hooks hooks' : List Hook}
      (moved : Changes press ((Hook.handle x.1.active press).run x) hooks y)
      (granted : Grants y hooks' z) :
      Dispatches press x
        (.handle x.1.active press :: hooks ++ hooks' ++ [.refresh z.1.active])
        ((Hook.refresh z.1.active).run z)

/-- The active mode is brought up, and presses are carried out one after the other. -/
inductive Calls (x : Modes η σ × Session σ) :
    List KeyPress → List Hook → Modes η σ × Session σ → Prop
  | start :
      Calls x [] [.initialise x.1.active (.plain .null), .refresh x.1.active]
        ((Hook.refresh x.1.active).run ((Hook.initialise x.1.active (.plain .null)).run x))
  | dispatch {presses : List KeyPress} {press : KeyPress} {hooks hooks' : List Hook}
      {y z : Modes η σ × Session σ} (earlier : Calls x presses hooks y)
      (now : Dispatches press y hooks' z) :
      Calls x (presses ++ [press]) (hooks ++ hooks') z

/-- Carries out presses in turn. -/
def dispatchAll (presses : List KeyPress) (x : Modes η σ × Session σ) : Modes η σ × Session σ :=
  presses.foldl (fun x press ↦ (x.1.dispatch press x.2).2) x

/-- The rule by which input moves is the one by which it does. -/
theorem next_modeAfter (r : Modes η σ) (press : KeyPress) :
    r.Next press (r.modeAfter r.active press) where
  out ha := by
    rw [ha, modeAfter, if_pos rfl, Mode.all]
    simp only [List.filter]
    cases r.startsOn .normal press <;> cases r.startsOn .command press <;>
      cases r.startsOn .search press <;> rfl
  back ha := by rw [modeAfter, if_neg ha]

/-- Input is handed over to where a press leads, if that is elsewhere. -/
theorem change_eq (press : KeyPress) (x : Modes η σ × Session σ) :
    (x.1.Next press x.1.active ∧ x.1.change press x.2 = (false, x)) ∨
      ∃ n, x.1.Next press n ∧ n ≠ x.1.active ∧
        x.1.change press x.2 = (true, handOver press n x) := by
  have next := next_modeAfter x.1 press
  rw [change]
  split
  · rename_i stays
    rw [stays] at next
    exact .inl ⟨next, rfl⟩
  · rename_i moves
    exact .inr ⟨_, next, moves, rfl⟩

theorem exists_changes (press : KeyPress) (x : Modes η σ × Session σ) :
    ∃ hooks, Changes press x hooks (x.1.change press x.2).2 := by
  rcases change_eq press x with ⟨next, change⟩ | ⟨n, next, hn, change⟩
  · rw [change]
    exact ⟨_, .stays next⟩
  · rw [change]
    exact ⟨_, .moves next hn⟩

theorem exists_grants (x : Modes η σ × Session σ) :
    ∃ hooks, Grants x hooks (x.1.grantPrompt x.2) := by
  rw [grantPrompt]
  split
  · exact ⟨_, .none ‹_›⟩
  · rename_i wish hw
    show ∃ hooks, Grants x hooks
      ((takeWish x).1.changeWith wish.trigger wish.initial (takeWish x).2).2
    rw [changeWith]
    rcases change_eq wish.trigger (takeWish x) with ⟨next, change⟩ | ⟨n, next, hn, change⟩
    · rw [change]
      exact ⟨_, .refused hw next⟩
    · rw [change]
      exact ⟨_, .granted hw next hn⟩

/-- A press calls the hooks that are listed, and does what comes of them. -/
theorem exists_dispatches (press : KeyPress) (x : Modes η σ × Session σ) :
    ∃ hooks, Dispatches press x hooks (x.1.dispatch press x.2).2 := by
  obtain ⟨hooks, moved⟩ := exists_changes press ((Hook.handle x.1.active press).run x)
  obtain ⟨hooks', granted⟩ :=
    exists_grants (((Hook.handle x.1.active press).run x).1.change press
      ((Hook.handle x.1.active press).run x).2).2
  exact ⟨_, .intro moved granted⟩

/-! ## The order of the calls -/

/-- Calls that come in order, from the mode `m` being in charge to another being so. -/
inductive Handovers : Mode → List Hook → Mode → Prop
  | nil (m : Mode) : Handovers m [] m
  | use {m n : Mode} {hook : Hook} {hooks : List Hook} (used : hook.uses = some m)
      (rest : Handovers m hooks n) : Handovers m (hook :: hooks) n
  | move {m next n : Mode} {press : KeyPress} {hooks : List Hook} (hne : next ≠ m)
      (rest : Handovers next hooks n) :
      Handovers m (.finalise m press :: .initialise next press :: hooks) n

theorem Handovers.append {k : Mode} (h : Handovers m hooks n) (h' : Handovers n hooks' k) :
    Handovers m (hooks ++ hooks') k := by
  induction h with
  | nil => exact h'
  | use used _ ih => exact .use used (ih h')
  | move hne _ ih => exact .move hne (ih h')

theorem Changes.handovers (h : Changes press x hooks y) :
    Handovers x.1.active hooks y.1.active := by
  cases h with
  | stays => exact .nil _
  | moves _ hn => exact .move hn (.nil _)

theorem Grants.handovers (h : Grants x hooks y) : Handovers x.1.active hooks y.1.active := by
  cases h with
  | none => exact .nil _
  | refused => exact .nil _
  | granted _ _ hn => exact .move hn (.use rfl (.nil _))

theorem Dispatches.handovers (h : Dispatches press x hooks y) :
    Handovers x.1.active hooks y.1.active := by
  obtain ⟨moved, granted⟩ := h
  have moves := moved.handovers
  have shows {m : Mode} : Handovers m [.refresh m] m := .use rfl (.nil m)
  rw [Hook.active_run] at moves ⊢
  exact .append (.append (.use rfl moves) granted.handovers) shows

theorem Calls.handovers (h : Calls x presses hooks y) :
    ∃ later, hooks = .initialise x.1.active (.plain .null) :: later ∧
      Handovers x.1.active later y.1.active := by
  induction h with
  | start => exact ⟨_, rfl, .use rfl (.nil _)⟩
  | dispatch _ now ih =>
    obtain ⟨later, rfl, in_order⟩ := ih
    exact ⟨_, rfl, in_order.append now.handovers⟩

/-- The mode that calls end with is in charge, if the one that they begin with was. -/
theorem Handovers.alone {past : List Hook} (h : Handovers m hooks n) (alone : Hook.Alone past m) :
    Hook.Alone (past ++ hooks) n := by
  induction h generalizing past with
  | nil =>
    rw [List.append_nil]
    exact alone
  | use used _ ih =>
    rw [List.append_cons]
    exact ih (alone.concat_use used)
  | move _ _ ih =>
    rw [List.append_cons, List.append_cons]
    exact ih (Hook.alone_concat_initialise (alone.concat_finalise _) _)

/-- Each of the calls comes in order, if the mode that they begin with was in charge. -/
theorem Handovers.inOrder {past before after : List Hook} {hook : Hook} (h : Handovers m hooks n)
    (alone : Hook.Alone past m) (split : hooks = before ++ hook :: after) :
    hook.InOrder (past ++ before) after := by
  induction h generalizing past before with
  | nil => cases before <;> cases split
  | @use m n first hooks used _ ih =>
    cases before with
    | nil =>
      obtain ⟨rfl, rfl⟩ := List.cons.inj split
      rw [List.append_nil]
      cases first with
      | initialise | finalise => cases used
      | handle | refresh | seed =>
        cases used
        exact alone
    | cons second before =>
      obtain ⟨rfl, rest⟩ := List.cons.inj split
      rw [List.append_cons]
      exact ih (alone.concat_use used) rest
  | @move m next n press hooks hne _ ih =>
    have nobody := alone.concat_finalise press
    match before with
    | [] =>
      obtain ⟨rfl, rfl⟩ := List.cons.inj split
      rw [List.append_nil]
      exact ⟨alone, next, hooks, rfl, hne⟩
    | [finalised] =>
      obtain ⟨rfl, rest⟩ := List.cons.inj split
      obtain ⟨rfl, -⟩ := List.cons.inj rest
      exact ⟨nobody, .inr ⟨past, m, rfl, hne.symm⟩⟩
    | finalised :: initialised :: before =>
      obtain ⟨rfl, rest⟩ := List.cons.inj split
      obtain ⟨rfl, later⟩ := List.cons.inj rest
      rw [List.append_cons, List.append_cons]
      exact ih (Hook.alone_concat_initialise nobody press) later

/-- **Hooks are called in order.**  Over any handlers, with any states, on any session and for any
presses: bringing the modes up and carrying the presses out calls the hooks that `Calls` lists and
does what comes of them.  Each of these calls comes in order after those before it, and when the
presses have been carried out, the active mode is in charge and no other.

So a handler that is used, shown or finalised is the only one in charge, and it is the active one,
for `Calls` has no hooks of others called.  From the first call on there always is one in charge,
but for the moment between the two calls of a handover. -/
theorem hooks_in_order (handlers : PerMode (Handler η σ)) (states : PerMode η) (s : Session σ)
    (presses : List KeyPress) :
    let r : Modes η σ := { handlers, states }
    let up := r.start s
    let y := dispatchAll presses up
    ∃ calls, Calls (r, s) presses calls y ∧
      (∀ before hook after, calls = before ++ hook :: after → hook.InOrder before after) ∧
      Hook.Alone calls y.1.active := by
  intro r up y
  have called : ∃ calls, Calls (r, s) presses calls y := by
    induction presses using List.reverseRecOn with
    | nil => exact ⟨_, .start⟩
    | append_singleton presses press ih =>
      obtain ⟨calls, called⟩ := ih
      obtain ⟨hooks, dispatched⟩ := exists_dispatches press (dispatchAll presses up)
      have last : y = ((dispatchAll presses up).1.dispatch press (dispatchAll presses up).2).2 :=
        List.foldl_append
      rw [last]
      exact ⟨_, called.dispatch dispatched⟩
  obtain ⟨calls, called⟩ := called
  obtain ⟨later, rfl, handovers⟩ := called.handovers
  have alone : Hook.Alone ([] ++ [.initialise .normal (.plain .null)]) .normal :=
    Hook.alone_concat_initialise (fun _ ↦ rfl) _
  refine ⟨_, called, fun before hook after split ↦ ?_, ?_⟩
  · cases before with
    | nil =>
      obtain ⟨rfl, -⟩ := List.cons.inj split
      exact ⟨fun _ ↦ rfl, .inl rfl⟩
    | cons first before =>
      obtain ⟨rfl, rest⟩ := List.cons.inj split
      exact handovers.inOrder alone rest
  · exact handovers.alone alone

end Modes
end Jukebox
