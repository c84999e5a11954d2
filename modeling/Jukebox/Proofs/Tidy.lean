import Jukebox.Proofs.Dispatch
import Jukebox.Proofs.LineHandlers

/-!
# Tidy modes

Whatever a keymap makes of a press, the lines of input keep to their modes: a line is empty unless
its mode is the one that input goes to, and then it begins with the prompt that it was opened with.
Completion is under way only in command mode, and what is typed there is then what it has filled in
last.

* `Modes.Tidy` is the invariant between events.
* `Modes.Ready` is what is left of it while a press has been dealt with and input has still to move.
  It asks for nothing about a line that is about to be given up.
* `Modes.ready_handle`, `Modes.settles_change`, `Modes.settles_grantPrompt` and
  `Modes.tidy_dispatch` take a press through its stages.

No chord is assumed to differ from another, or from enter and backspace: a press that opens a mode
may end it at once, and one that completes a name may end the line.
-/

set_option autoImplicit false

namespace Jukebox

/-- The prompt of a mode that a press has opened: what it types, if it types something. -/
def Mode.promptChar (m : Mode) (press : KeyPress) : Char :=
  press.typed?.getD (if m = .search then '/' else ':')

/-- The press that opens a mode when `press` comes in normal mode: it may start one itself, and
otherwise one can only be opened on behalf of a binding, as the command line is. -/
def Keymap.opener (keymap : Keymap) (press : KeyPress) : KeyPress :=
  if keymap.command.accepts press || keymap.search.accepts press then press
  else keymap.command.press

namespace Modes

variable {σ : Type}

/-- What the active mode has to show on the bottom line. -/
def wantedLine (r : Modes InputLine σ) : Option String :=
  if r.active = .normal then none else some (r.states.get r.active).contents

/-- Between two changes of mode: the lines that are not in use are empty, the one in use begins with
the prompt `p`, and completion goes with the command line. -/
structure Tidy (p : Char) (r : Modes InputLine σ) (s : Session σ) : Prop where
  unused {m : Mode} (hm : m ≠ .normal) (ha : m ≠ r.active) : r.states.get m = .empty
  inUse (ha : r.active ≠ .normal) : (r.states.get r.active).chars.head? = some p
  completion {a : String} (h : s.interpreter.completion.answer? = some a) :
    r.active = .command ∧ (r.states.get .command).text = a

/-- The same before a press moves input: what is said of the line in use counts only if it is to
stay in use. -/
structure Ready (p : Char) (press : KeyPress) (r : Modes InputLine σ) (s : Session σ) : Prop where
  unused {m : Mode} (hm : m ≠ .normal) (ha : m ≠ r.active) : r.states.get m = .empty
  inUse (ha : r.active ≠ .normal) (stays : r.modeAfter r.active press = r.active) :
    (r.states.get r.active).chars.head? = some p
  completion {a : String} (h : s.interpreter.completion.answer? = some a) :
    r.active = .command ∧
      (r.modeAfter r.active press = r.active → (r.states.get .command).text = a)

variable {p q : Char} {press : KeyPress} {r : Modes InputLine σ} {s s' : Session σ}

theorem Tidy.ready (h : r.Tidy p s) (press : KeyPress) : r.Ready p press s where
  unused := h.unused
  inUse ha _ := h.inUse ha
  completion hc := ⟨(h.completion hc).1, fun _ ↦ (h.completion hc).2⟩

theorem Ready.tidy (h : r.Ready p press s) (stays : r.modeAfter r.active press = r.active) :
    r.Tidy p s where
  unused := h.unused
  inUse ha := h.inUse ha stays
  completion hc := ⟨(h.completion hc).1, (h.completion hc).2 stays⟩

/-- In normal mode no line has a prompt. -/
theorem Tidy.of_normal (h : r.Tidy p s) (ha : r.active = .normal) (q : Char) : r.Tidy q s where
  unused := h.unused
  inUse hne := absurd ha hne
  completion := h.completion

/-- Nothing in the session matters but completion. -/
theorem Tidy.of_completion (h : r.Tidy p s)
    (hs : s'.interpreter.completion = s.interpreter.completion) : r.Tidy p s' where
  unused := h.unused
  inUse := h.inUse
  completion hc := h.completion (hs ▸ hc)

/-- Outside of command mode no completion is under way. -/
theorem Tidy.idle (h : r.Tidy p s) (ha : r.active ≠ .command) :
    s.interpreter.completion = .idle := by
  cases hc : s.interpreter.completion with
  | idle => rfl
  | cycling => exact absurd (h.completion (congrArg Completion.answer? hc)).1 ha

/-! ## Where input can go -/

/-- Out of a mode that takes a line, input can only go back to normal mode. -/
theorem modeAfter_of_ne_normal {m : Mode} (hm : m ≠ .normal) :
    r.modeAfter m press = m ∨ r.modeAfter m press = .normal := by
  rw [modeAfter, if_neg hm]
  split
  · exact .inr rfl
  · exact .inl rfl

variable [Client σ] {keymap : Keymap}

/-- Input stays in a mode that takes a line unless a press escapes or ends the line. -/
theorem modeAfter_eq_self_iff (press : KeyPress) (hr : r.handlers = (standard keymap).handlers)
    {m : Mode} (hm : m ≠ .normal) :
    r.modeAfter m press = m ↔
      keymap.escape.accepts press = false ∧ endsLine (r.states.get m) press = false := by
  have hstart : r.startsOn .normal press = keymap.escape.accepts press := by
    rw [startsOn, hr]
    rfl
  have hend : r.endsOn m press = endsLine (r.states.get m) press := by
    rw [endsOn, hr]
    cases m with
    | normal => exact absurd rfl hm
    | command => rfl
    | search => rfl
  rw [modeAfter, if_neg hm, hstart, hend, ← Bool.or_eq_false_iff]
  split
  · rename_i h
    rw [h]
    exact ⟨fun he ↦ absurd he.symm hm, nofun⟩
  · rename_i h
    exact ⟨fun _ ↦ Bool.not_eq_true _ ▸ h, fun _ ↦ rfl⟩

/-- Out of normal mode a press goes to the last mode that it opens, if it opens one. -/
theorem modeAfter_normal (press : KeyPress) (hr : r.handlers = (standard keymap).handlers) :
    r.modeAfter .normal press =
      if keymap.search.accepts press then .search
      else if keymap.command.accepts press then .command
      else .normal := by
  have escapes : r.startsOn .normal press = keymap.escape.accepts press := by
    rw [startsOn, hr]
    rfl
  have opensCommand : r.startsOn .command press = keymap.command.accepts press := by
    rw [startsOn, hr]
    rfl
  have opensSearch : r.startsOn .search press = keymap.search.accepts press := by
    rw [startsOn, hr]
    rfl
  rw [modeAfter, if_pos rfl]
  simp only [Mode.all, List.filter, escapes, opensCommand, opensSearch]
  cases keymap.escape.accepts press <;> cases keymap.command.accepts press <;>
    cases keymap.search.accepts press <;> rfl

/-- A press takes input out of normal mode exactly if it opens one of the other modes. -/
theorem modeAfter_normal_eq_normal (hr : r.handlers = (standard keymap).handlers) :
    r.modeAfter .normal press = .normal ↔
      keymap.command.accepts press = false ∧ keymap.search.accepts press = false := by
  rw [modeAfter_normal press hr]
  cases keymap.command.accepts press <;> cases keymap.search.accepts press <;> decide

theorem opener_of_modeAfter (hr : r.handlers = (standard keymap).handlers)
    (h : r.modeAfter .normal press = .normal) :
    keymap.opener press = keymap.command.press := by
  obtain ⟨hc, hs⟩ := (modeAfter_normal_eq_normal hr).1 h
  rw [Keymap.opener, hc, hs]
  rfl

theorem opener_of_modeAfter_ne (hr : r.handlers = (standard keymap).handlers)
    (h : r.modeAfter .normal press ≠ .normal) : keymap.opener press = press := by
  refine if_pos (Bool.or_eq_true_iff.2 ?_)
  by_contra hc
  rw [not_or, Bool.not_eq_true, Bool.not_eq_true] at hc
  exact h ((modeAfter_normal_eq_normal hr).2 hc)

/-! ## Moving input -/

/-- What moving input to another mode does: the line that is left is given up, the one that is
opened has a prompt and nothing else, and completion ends. -/
structure Moved (press : KeyPress) (next : Mode) (r r' : Modes InputLine σ) (s s' : Session σ) :
    Prop where
  active : r'.active = next
  states (m : Mode) :
    r'.states.get m =
      if m = .normal then r.states.get m
      else if m = next then ⟨[m.promptChar press]⟩
      else if m = r.active then .empty
      else r.states.get m
  completion :
    s'.interpreter.completion =
      if r.active = .command ∨ next = .command then .idle else s.interpreter.completion
  catalogue : s'.interpreter.catalogue = s.interpreter.catalogue
  prompt : s'.console.prompt = s.console.prompt

omit [Client σ] in
theorem change_of_eq (h : r.modeAfter r.active press = r.active) :
    r.change press s = (false, r, s) := by
  rw [change, if_pos h]

theorem change_of_ne (hr : r.handlers = (standard keymap).handlers)
    (h : r.modeAfter r.active press ≠ r.active) :
    ∃ r' s', r.change press s = (true, r', s') ∧
      Moved press (r.modeAfter r.active press) r r' s s' := by
  rw [change, if_neg h]
  refine ⟨_, _, rfl, ?_⟩
  generalize r.modeAfter r.active press = next at h
  obtain ⟨handlers, states, active⟩ := r
  obtain rfl : handlers = (standard keymap).handlers := hr
  cases active <;> cases next <;>
    exact ⟨rfl, fun m ↦ by cases m <;> rfl, rfl, rfl, rfl⟩

omit [Client σ] in
/-- Moving input makes everything tidy again. -/
theorem Moved.tidy {next : Mode} {r' : Modes InputLine σ} (h : r.Ready p press s)
    (hm : Moved press next r r' s s') :
    r'.Tidy (next.promptChar press) s' ∧ s'.interpreter.completion.answer? = none := by
  have idle : s'.interpreter.completion.answer? = none := by
    rw [hm.completion]
    split
    · rfl
    · rename_i hc
      -- only the command line can have completion under way, and input is not there
      by_contra hs
      obtain ⟨a, ha⟩ := Option.ne_none_iff_exists'.1 hs
      exact hc (.inl (h.completion ha).1)
  refine ⟨⟨fun {m} hmn ha ↦ ?_, fun ha ↦ ?_, fun hc ↦ ?_⟩, idle⟩
  · rw [hm.active] at ha
    rw [hm.states, if_neg hmn, if_neg ha]
    split
    · rfl
    · exact h.unused hmn ‹_›
  · rw [hm.active] at ha ⊢
    rw [hm.states, if_neg ha, if_pos rfl]
    rfl
  · rw [idle] at hc
    cases hc

/-! ## The stages of a press -/

/-- Putting a line in place of the one in use leaves the modes ready, if the line is in order unless
it has come to its end. -/
theorem Tidy.ready_set (h : r.Tidy p s) (s' : Session σ) (press : KeyPress) (line : InputLine)
    (hr : r.handlers = (standard keymap).handlers)
    (inUse : r.active ≠ .normal → keymap.escape.accepts press = false →
      endsLine line press = false → line.chars.head? = some p)
    (completion : ∀ a, s'.interpreter.completion.answer? = some a → r.active = .command ∧
      (keymap.escape.accepts press = false → endsLine line press = false → line.text = a)) :
    Ready p press { r with states := r.states.set r.active line } s' := by
  have get_self : (r.states.set r.active line).get r.active = line := by
    rw [PerMode.get_set, if_pos rfl]
  have stays_iff (ha : r.active ≠ .normal) :=
    modeAfter_eq_self_iff (r := { r with states := r.states.set r.active line }) press hr ha
  refine ⟨fun {m} hm ha ↦ ?_, fun ha stays ↦ ?_, fun {a} hc ↦ ?_⟩
  · show (r.states.set r.active line).get m = .empty
    rw [PerMode.get_set, if_neg (Ne.symm ha)]
    exact h.unused hm ha
  · obtain ⟨escape, goesOn⟩ := (stays_iff ha).1 stays
    show ((r.states.set r.active line).get r.active).chars.head? = some p
    rw [get_self] at goesOn ⊢
    exact inUse ha escape goesOn
  · obtain ⟨ha, htext⟩ := completion a hc
    refine ⟨ha, fun stays ↦ ?_⟩
    obtain ⟨escape, goesOn⟩ := (stays_iff (by rw [ha]; decide)).1 stays
    show ((r.states.set r.active line).get .command).text = a
    rw [← ha]
    rw [get_self] at goesOn ⊢
    exact htext escape goesOn

/-- What dealing with a press leaves of order, whatever operations there are: the modes are ready
for input to move, and the catalogue is what it was. -/
theorem ready_handle (h : r.Tidy p s) (hr : r.handlers = (standard keymap).handlers)
    {handled : Bool} {line : InputLine}
    (hx : (r.handlers.get r.active).handle press (r.states.get r.active) s = (handled, line, s')) :
    Ready p press { r with states := r.states.set r.active line } s' ∧
      s'.interpreter.catalogue = s.interpreter.catalogue := by
  have ready := h.ready_set s' press line hr
  have answerless (ha : r.active ≠ .command) (a : String) :
      s.interpreter.completion.answer? ≠ some a := fun hc ↦ ha (h.completion hc).1
  have result := handled_handle keymap press r.active (r.states.get r.active) s
  rw [← hr, hx] at result
  have completion := result.completion
  refine ⟨?_, result.catalogue⟩
  rw [hr] at hx
  generalize hm : r.active = m at *
  cases m with
  | normal =>
    refine ready (absurd rfl) fun a hc ↦ ?_
    rw [completion (by decide)] at hc
    exact absurd hc (answerless (by decide) a)
  | command =>
    have hline := h.inUse (by rw [hm]; decide)
    have hc (a : String) (ha : s.interpreter.completion.answer? = some a) := (h.completion ha).2
    rw [hm] at hline
    have tidy (escape : keymap.escape.accepts press = false) := tidy_handleCommand hline hc escape
    rw [show handleCommand keymap press _ s = _ from hx] at tidy
    refine ready (fun _ escape stays ↦ (tidy escape stays).1) fun a ha ↦ ?_
    exact ⟨rfl, fun escape stays ↦ (tidy escape stays).2 a ha⟩
  | search =>
    have hline := h.inUse (by rw [hm]; decide)
    rw [hm] at hline
    have head (escape : keymap.escape.accepts press = false) :=
      head?_handleSearch (s := s) hline escape
    rw [show handleSearch keymap press _ s = _ from hx] at head
    refine ready (fun _ escape stays ↦ head escape stays) fun a ha ↦ ?_
    rw [completion (by decide)] at ha
    exact absurd ha (answerless (by decide) a)

/-- What is known once input has moved, if it has: a line that stays in use still has the prompt
`p`, and one that is opened out of normal mode has that of the press. -/
structure Settles (p : Char) (press : KeyPress) (r r' : Modes InputLine σ) (s s' : Session σ) :
    Prop where
  tidy : r'.Tidy (if r.active = .normal then r'.active.promptChar press else p) s'
  active : r'.active = r.modeAfter r.active press
  catalogue : s'.interpreter.catalogue = s.interpreter.catalogue
  prompt : s'.console.prompt = s.console.prompt

namespace Settles

variable {r' : Modes InputLine σ}

omit [Client σ]

theorem of_eq (h : r.Tidy p s) (hn : r.modeAfter r.active press = r.active) :
    Settles p press r r s s := by
  refine ⟨?_, hn.symm, rfl, rfl⟩
  split
  · exact h.of_normal ‹_› _
  · exact h

theorem of_moved (hn : r.modeAfter r.active press ≠ r.active)
    (moved : Moved press (r.modeAfter r.active press) r r' s s') {r₁ : Modes InputLine σ}
    (active : r₁.active = r'.active)
    (h : r₁.Tidy ((r.modeAfter r.active press).promptChar press) s') :
    Settles p press r r₁ s s' := by
  refine ⟨?_, active.trans moved.active, moved.catalogue, moved.prompt⟩
  split
  · rwa [active, moved.active]
  · rename_i ha
    have back := (modeAfter_of_ne_normal ha).resolve_left hn
    exact h.of_normal (active.trans (moved.active.trans back)) _

/-- Input is in the mode that it was in, or back in normal mode, unless it was there. -/
theorem active_eq (h : Settles p press r r' s s') (ha : r.active ≠ .normal) :
    r'.active = r.active ∨ r'.active = .normal := by
  rw [h.active]
  exact modeAfter_of_ne_normal ha

end Settles

/-- Input moves out of a line that may have come to its end, and everything is tidy. -/
theorem settles_change (h : r.Ready p press s) (hr : r.handlers = (standard keymap).handlers) :
    Settles p press r (r.change press s).2.1 s (r.change press s).2.2 := by
  by_cases hn : r.modeAfter r.active press = r.active
  · rw [change_of_eq hn]
    exact .of_eq (h.tidy hn) hn
  · obtain ⟨r', s', hx, moved⟩ := change_of_ne (s := s) hr hn
    rw [hx]
    exact .of_moved hn moved rfl (moved.tidy h).1

theorem runHook_seed (hr : r.handlers = (standard keymap).handlers) (text : String) :
    let line := r.states.get r.active
    r.runHook r.active (·.seed text) s =
      ({ r with
          states := r.states.set r.active
            (if r.active = .normal then line else line.append text) }, s) := by
  obtain ⟨handlers, states, active⟩ := r
  obtain rfl : handlers = (standard keymap).handlers := hr
  cases active <;> rfl

omit [Client σ] in
/-- Nothing but the prompt is asked of the line in use while completion is not under way. -/
theorem Tidy.set (h : r.Tidy p s) (idle : s.interpreter.completion.answer? = none)
    {line : InputLine} (hl : r.active ≠ .normal → line.chars.head? = some p) :
    Tidy p { r with states := r.states.set r.active line } s := by
  refine ⟨fun {m} hm ha ↦ ?_, fun ha ↦ ?_, fun hc ↦ ?_⟩
  · show (r.states.set r.active line).get m = .empty
    rw [PerMode.get_set, if_neg (Ne.symm ha)]
    exact h.unused hm ha
  · show ((r.states.set r.active line).get r.active).chars.head? = some p
    rw [PerMode.get_set, if_pos rfl]
    exact hl ha
  · rw [idle] at hc
    cases hc

/-- A wish moves input like a press, and what it types comes behind the prompt. -/
theorem settles_changeWith (h : r.Tidy p s) (hr : r.handlers = (standard keymap).handlers)
    (text : String) :
    Settles p press r (r.changeWith press text s).2.1 s (r.changeWith press text s).2.2 := by
  rw [changeWith]
  by_cases hn : r.modeAfter r.active press = r.active
  · rw [change_of_eq hn]
    exact .of_eq h hn
  · have hh := handlers_change (r := r) (s := s) press
    obtain ⟨r', s', hx, moved⟩ := change_of_ne (s := s) hr hn
    rw [hx] at hh ⊢
    obtain ⟨tidy, idle⟩ := moved.tidy (h.ready press)
    dsimp only
    rw [runHook_seed (hh.trans hr)]
    refine .of_moved hn moved rfl (tidy.set idle fun ha ↦ ?_)
    rw [if_neg ha]
    exact InputLine.head?_append (tidy.inUse ha) text

omit [Client σ] in
theorem grantPrompt_of_none (hw : s.console.prompt = none) : r.grantPrompt s = (r, s) := by
  rw [grantPrompt, hw]

/-- A wish that is granted is gone. -/
theorem settles_grantPrompt (h : r.Tidy p s) (hr : r.handlers = (standard keymap).handlers)
    {wish : PromptRequest} (hw : s.console.prompt = some wish) :
    Settles p wish.trigger r (r.grantPrompt s).1
      (s.mapConsole fun c ↦ { c with prompt := none }) (r.grantPrompt s).2 := by
  rw [grantPrompt, hw]
  have tidy : r.Tidy p (s.mapConsole fun c ↦ { c with prompt := none }) := h.of_completion rfl
  exact settles_changeWith tidy hr wish.initial

/-- The mode that input is in shows its line. -/
theorem refresh_standard (hr : r.handlers = (standard keymap).handlers) :
    r.refresh s = showLine r.wantedLine s := by
  obtain ⟨handlers, states, active⟩ := r
  obtain rfl : handlers = (standard keymap).handlers := hr
  cases active <;> rfl

/-- Once a press has been dealt with, input moves for it and then for a wish, and the mode that it
is in shows its line. -/
theorem dispatch_standard (hr : r.handlers = (standard keymap).handlers) {handled : Bool}
    {line : InputLine}
    (hx : (r.handlers.get r.active).handle press (r.states.get r.active) s = (handled, line, s')) :
    let x := Modes.change { r with states := r.states.set r.active line } press s'
    let y := x.2.1.grantPrompt x.2.2
    r.dispatch press s = (handled, y.1, showLine y.1.wantedLine y.2) := by
  intro x y
  have hy : y.1.handlers = (standard keymap).handlers :=
    handlers_grantPrompt.trans ((handlers_change press).trans hr)
  rw [dispatch, hx, ← refresh_standard hy]

/-- A mode that input has moved to is opened by the press. -/
theorem Settles.tidy_opener {r' : Modes InputLine σ} (h : Settles p press r r' s s')
    (hr : r.handlers = (standard keymap).handlers) :
    r'.Tidy (if r.active = .normal then r'.active.promptChar (keymap.opener press) else p) s' := by
  by_cases hn : r'.active = .normal
  · exact h.tidy.of_normal hn _
  · have tidy := h.tidy
    split
    · rename_i ha
      rw [if_pos ha] at tidy
      rw [h.active, ha] at hn
      rwa [opener_of_modeAfter_ne hr hn]
    · rename_i ha
      rwa [if_neg ha] at tidy

/-- A mode that is opened out of normal mode has the prompt of its opener, whether the press itself
opens it or the wish that the press has raised. -/
theorem Settles.tidy_grantPrompt {r' : Modes InputLine σ} (h : Settles p press r r' s s')
    (ha : r.active = .normal) (hr : r.handlers = (standard keymap).handlers)
    (hr' : r'.handlers = (standard keymap).handlers) {text : String}
    (hw : s'.console.prompt = some ⟨keymap.command.press, text⟩) :
    (r'.grantPrompt s').1.Tidy
      ((r'.grantPrompt s').1.active.promptChar (keymap.opener press)) (r'.grantPrompt s').2 := by
  have opened := h.tidy_opener hr
  rw [if_pos ha] at opened
  have granted := settles_grantPrompt opened hr' hw
  have tidy := granted.tidy
  by_cases hn : r'.active = .normal
  -- the press itself has opened no mode, so the wish may
  · have closed := h.active.symm.trans hn
    rw [ha] at closed
    rwa [if_pos hn, ← opener_of_modeAfter hr closed] at tidy
  · rw [if_neg hn] at tidy
    rcases granted.active_eq hn with he | he
    · rwa [he]
    · exact tidy.of_normal he _

/-- **A press leaves everything tidy.**  A line that stays in use keeps its prompt, and one that is
opened gets that of the press that opens it.  The wish of normal mode is granted and gone, and the
bottom line shows what it has to. -/
theorem tidy_dispatch (h : r.Tidy p s) (hr : r.handlers = (standard keymap).handlers)
    (hs : s.interpreter.catalogue = .standard σ) (hw : s.console.prompt = none) {handled : Bool}
    {r' : Modes InputLine σ} (hx : r.dispatch press s = (handled, r', s')) :
    r'.Tidy
        (if r.active = .normal then r'.active.promptChar (keymap.opener press) else p) s' ∧
      (r.active ≠ .normal → r'.active = r.active ∨ r'.active = .normal) ∧
      s'.interpreter.catalogue = .standard σ ∧ s'.console.prompt = none ∧
      s'.console.modeLine = r'.wantedLine := by
  rcases hh : (r.handlers.get r.active).handle press (r.states.get r.active) s with
    ⟨handled', line, s₁⟩
  rw [dispatch_standard hr hh] at hx
  obtain ⟨ready, kept⟩ := ready_handle h hr hh
  have hs₁ := kept.trans hs
  have result := handled_handle keymap press r.active (r.states.get r.active) s
  rw [← hr, hh] at result
  have hw₁ := (result.prompt hs).imp_left (·.trans hw)
  have hr₁ : Modes.handlers { r with states := r.states.set r.active line } = _ := hr
  have ha₁ : Modes.active { r with states := r.states.set r.active line } = r.active := rfl
  generalize ({ r with states := r.states.set r.active line } : Modes InputLine σ) = r₁
    at hx ready hr₁ ha₁
  rw [← ha₁] at hw₁ ⊢
  have moved := settles_change ready hr₁
  have hr₂ := (handlers_change (r := r₁) (s := s₁) press).trans hr₁
  generalize r₁.change press s₁ = y at hx moved hr₂
  obtain ⟨_, r₂, s₂⟩ := y
  dsimp only at hx moved hr₂
  have tidy₂ := moved.tidy_opener hr₁
  rcases hw₁ with hnone | ⟨ha, text, hsome⟩
  · rw [grantPrompt_of_none (moved.prompt.trans hnone)] at hx
    cases hx
    exact ⟨tidy₂.of_completion rfl, moved.active_eq, moved.catalogue.trans hs₁,
      moved.prompt.trans hnone, rfl⟩
  · have hw₂ := moved.prompt.trans hsome
    have granted := settles_grantPrompt tidy₂ hr₂ hw₂
    have tidy₃ := moved.tidy_grantPrompt ha hr₁ hr₂ hw₂
    cases hx
    rw [if_pos ha]
    exact ⟨tidy₃.of_completion rfl, (absurd ha ·),
      granted.catalogue.trans (moved.catalogue.trans hs₁), granted.prompt, rfl⟩

end Modes
end Jukebox
