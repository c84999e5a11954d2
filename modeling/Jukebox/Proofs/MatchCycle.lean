import Jukebox.Proofs.Courses
import Jukebox.Proofs.Searching

/-!
# Moving through the matches

The matches of a search lie on a circle, and the two moves are the steps by one in the two
directions.  Where a walk ends is therefore a matter of how many steps of either kind there are in
it, counted modulo the number of matches, and of nothing else.

* `Search.Step` are the moves, and `Search.walk` is what several of them come to.
* `Search.Step.attempt` makes a move in arithmetic that can fail; `Search.Step.attempt_eq` says that
  it does not.
* `Search.active_apply` and `Search.active_walk` say where a move and a walk end, and
  `Search.walk_eq_walk_iff` when two walks come to the same.
* `Session.walked_executeLines` says what the commands for the moves do.
* `Session.match_cycle` is the outcome.
-/

set_option autoImplicit false

namespace Jukebox

namespace Search

/-! ## Moves -/

/-- A move from one match to another. -/
inductive Step where
  | next | previous
  deriving DecidableEq, Repr

namespace Step

/-- The name of the command that makes a move. -/
def command : Step → String
  | next => "searchnext"
  | previous => "searchprev"

/-- What a move does. -/
def apply : Step → Search → Search
  | next => Search.next
  | previous => Search.previous

/-- How far a move goes. -/
def shift : Step → Int
  | next => 1
  | previous => -1

end Step

/-- What several moves come to. -/
def walk (steps : List Step) (s : Search) : Search := steps.foldl (fun s step ↦ step.apply s) s

/-- How far several moves go, if those back are set off against those forth. -/
def distance (steps : List Step) : Int := steps.count .next - steps.count .previous

variable {s : Search} {step : Step} {steps steps' : List Step}

theorem walk_cons (step : Step) (steps : List Step) (s : Search) :
    s.walk (step :: steps) = (step.apply s).walk steps := rfl

theorem distance_cons (step : Step) (steps : List Step) :
    distance (step :: steps) = step.shift + distance steps := by
  cases step <;> simp [distance, Step.shift] <;> omega

/-! ## Moves in arithmetic that can fail -/

/-- The remainder of a division, which there is not if the divisor is nought. -/
def remainder? (a n : Nat) : Option Nat := if n = 0 then none else some (a % n)

/-- The difference of two numbers, which there is not if it is negative. -/
def difference? (a b : Nat) : Option Nat := if b ≤ a then some (a - b) else none

/-- A move in which every division and every difference may turn out not to exist. -/
def Step.attempt : Step → Search → Option Search
  | .next, s =>
    if s.hits = [] then some s
    else (remainder? (s.active + 1) s.hits.length).map fun active ↦ { s with active }
  | .previous, s =>
    if s.hits = [] then some s
    else if s.active = 0 then (difference? s.hits.length 1).map fun active ↦ { s with active }
    else (difference? s.active 1).map fun active ↦ { s with active }

/-- No move divides by nought or takes away too much. -/
theorem Step.attempt_eq (step : Step) (s : Search) : step.attempt s = some (step.apply s) := by
  cases step with
  | next =>
    rw [attempt, apply, Search.next]
    split
    · rfl
    · rename_i hne
      have some_hit : s.hits.length ≠ 0 := by simpa using hne
      rw [remainder?, if_neg some_hit]
      rfl
  | previous =>
    rw [attempt, apply, Search.previous]
    split
    · rfl
    · rename_i hne
      have some_hit : 1 ≤ s.hits.length := List.length_pos_iff.2 hne
      split
      · rw [difference?, if_pos some_hit]
        rfl
      · rename_i away
        rw [difference?, if_pos (Nat.one_le_iff_ne_zero.2 away)]
        rfl

theorem foldlM_attempt (steps : List Step) (s : Search) :
    steps.foldlM (fun s step ↦ step.attempt s) s = some (s.walk steps) := by
  induction steps generalizing s with
  | nil => rfl
  | cons step steps ih =>
    rw [List.foldlM_cons, step.attempt_eq]
    exact ih (step.apply s)

/-! ## What stays -/

/-- A move leaves the query and the matches alone. -/
theorem query_hits_apply (step : Step) (s : Search) :
    (step.apply s).query = s.query ∧ (step.apply s).hits = s.hits := by
  cases step with
  | next =>
    rw [Step.apply, next]
    split <;> exact ⟨rfl, rfl⟩
  | previous =>
    rw [Step.apply, previous]
    split
    · exact ⟨rfl, rfl⟩
    · split <;> exact ⟨rfl, rfl⟩

theorem query_hits_walk (steps : List Step) (s : Search) :
    (s.walk steps).query = s.query ∧ (s.walk steps).hits = s.hits := by
  induction steps generalizing s with
  | nil => exact ⟨rfl, rfl⟩
  | cons step steps ih =>
    obtain ⟨query, hits⟩ := query_hits_apply step s
    exact ⟨(ih (step.apply s)).1.trans query, (ih (step.apply s)).2.trans hits⟩

/-- Without matches there is nowhere to go. -/
theorem walk_of_hits_eq_nil (none_found : s.hits = []) (steps : List Step) : s.walk steps = s := by
  induction steps with
  | nil => rfl
  | cons step steps ih =>
    have stays : step.apply s = s := by
      cases step with
      | next => exact if_pos none_found
      | previous => exact if_pos none_found
    rw [walk_cons, stays, ih]

/-! ## Where moves end -/

/-- **A move is a step on the circle of the matches.** -/
theorem active_apply (inside : s.active < s.hits.length) (step : Step) :
    ((step.apply s).active : Int) = (s.active + step.shift) % s.hits.length := by
  have some_hit : s.hits ≠ [] := List.length_pos_iff.1 (Nat.zero_lt_of_lt inside)
  cases step with
  | next =>
    rw [Step.apply, next, if_neg some_hit]
    exact Int.natCast_emod _ _
  | previous =>
    rw [Step.apply, previous, if_neg some_hit]
    split
    · rename_i first
      -- one round more brings the index back into range
      rw [first, Step.shift, ← Int.add_emod_right, Int.emod_eq_of_lt (by omega) (by omega)]
      dsimp only
      omega
    · rw [Step.shift, Int.emod_eq_of_lt (by omega) (by omega)]
      dsimp only
      omega

theorem active_apply_lt (inside : s.active < s.hits.length) (step : Step) :
    (step.apply s).active < s.hits.length := by
  have bound := Int.emod_lt_of_pos (s.active + step.shift : Int) (b := s.hits.length) (by omega)
  rw [← active_apply inside step] at bound
  exact Int.ofNat_lt.1 bound

/-- **A walk ends as far from where it began as its moves go, around the circle.** -/
theorem active_walk (inside : s.active < s.hits.length) (steps : List Step) :
    ((s.walk steps).active : Int) = (s.active + distance steps) % s.hits.length := by
  induction steps generalizing s with
  | nil =>
    show (s.active : Int) = (s.active + 0) % s.hits.length
    rw [Int.add_zero, Int.emod_eq_of_lt (by omega) (by omega)]
  | cons step steps ih =>
    have rest := ih (s := step.apply s)
    rw [(query_hits_apply step s).2, active_apply inside] at rest
    have moved := rest (active_apply_lt inside step)
    rw [Int.emod_add_emod, Int.add_assoc, ← distance_cons] at moved
    exact moved

/-- A walk from the first match ends as far behind it as its moves go. -/
theorem active_walk_of_first (first : s.active = 0) (hne : s.hits ≠ []) (steps : List Step) :
    ((s.walk steps).active : Int) = distance steps % s.hits.length := by
  have inside : s.active < s.hits.length := first ▸ List.length_pos_iff.2 hne
  rw [active_walk inside, first, Int.ofNat_zero, Int.zero_add]

/-- Two walks come to the same exactly if they go equally far around the circle. -/
theorem walk_eq_walk_iff (inside : s.active < s.hits.length) :
    s.walk steps = s.walk steps' ↔
      distance steps % s.hits.length = distance steps' % s.hits.length := by
  rw [← Int.emod_add_cancel_left (i := s.active), ← active_walk inside steps,
    ← active_walk inside steps', Int.ofNat_inj]
  obtain ⟨query, hits⟩ := query_hits_walk steps s
  obtain ⟨query', hits'⟩ := query_hits_walk steps' s
  exact ⟨congrArg Search.active, fun active ↦
    (Search.mk.injEq ..).mpr ⟨query.trans query'.symm, hits.trans hits'.symm, active⟩⟩

theorem WellFormed.walk (h : s.WellFormed) (steps : List Step) : (s.walk steps).WellFormed := by
  induction steps generalizing s with
  | nil => exact h
  | cons step steps ih =>
    cases step with
    | next => exact ih h.next
    | previous => exact ih h.previous

/-- Walks that go equally far around the circle come to the same. -/
theorem WellFormed.walk_eq_walk (h : s.WellFormed)
    (same : distance steps % s.hits.length = distance steps' % s.hits.length) :
    s.walk steps = s.walk steps' := by
  rcases h.active with inside | ⟨none_found, -⟩
  · exact (walk_eq_walk_iff inside).2 same
  · rw [walk_of_hits_eq_nil none_found, walk_of_hits_eq_nil none_found]

/-- A walk that goes round the circle a whole number of times is back where it began. -/
theorem WellFormed.walk_eq_self (h : s.WellFormed) (steps : List Step)
    (round : distance steps % s.hits.length = 0) : s.walk steps = s := by
  have stays : s.walk steps = s.walk [] := h.walk_eq_walk (round.trans (Int.zero_emod _).symm)
  exact stays

/-- The order of the moves makes no difference. -/
theorem WellFormed.walk_eq_of_perm (h : s.WellFormed) (perm : steps.Perm steps') :
    s.walk steps = s.walk steps' :=
  h.walk_eq_walk (by rw [distance, distance, perm.count_eq, perm.count_eq])

/-- The two moves undo each other. -/
theorem WellFormed.previous_next (h : s.WellFormed) : s.next.previous = s :=
  h.walk_eq_self [.next, .previous] (Int.zero_emod _)

theorem WellFormed.next_previous (h : s.WellFormed) : s.previous.next = s :=
  h.walk_eq_self [.previous, .next] (Int.zero_emod _)

theorem walk_replicate_next (k : Nat) (s : Search) :
    s.walk (.replicate k .next) = Search.next^[k] s := by
  induction k generalizing s with
  | zero => rfl
  | succ k ih => exact ih s.next

/-- As many moves as there are matches go round once. -/
theorem WellFormed.iterate_next_length (h : s.WellFormed) :
    Search.next^[s.hits.length] s = s := by
  rw [← walk_replicate_next]
  refine h.walk_eq_self _ ?_
  simp [distance, List.count_replicate]

/-! ## What the user is told -/

/-- What the user is told at one of the matches of a search is shown as it is. -/
theorem showing_report {pattern listing : String} {ignoreCase : Bool}
    (trimmed : Text.Trimmed pattern) (named : pattern ≠ "")
    (found : s.hits = (run pattern listing ignoreCase).hits) (inside : s.active < s.hits.length) :
    ∃ hit, s.hits[s.active]? = some hit ∧
      StatusLine.showing .info s.report =
        .info ("[" ++ toString (s.active + 1) ++ "/" ++ toString s.hits.length ++ "] " ++
          toString hit.position ++ ": " ++ hit.line) := by
  have at_hit : s.hits[s.active]? = some s.hits[s.active] := List.getElem?_eq_getElem inside
  refine ⟨s.hits[s.active], at_hit, ?_⟩
  have finds : Finds pattern listing ignoreCase s.hits := found ▸ finds_run trimmed named
  obtain ⟨line_trimmed, line_ne⟩ := finds.trimmed named (List.getElem_mem inside)
  rw [report, current?, at_hit]
  exact StatusLine.showing_of_trimmed
    (Text.trimmed_append (c := '[') (by simp) rfl line_trimmed.stop line_ne) (by simp)

end Search

/-! ## The commands -/

open CommandM

variable {σ : Type}

/-- The operations of the moves. -/
theorem Catalogue.exists_get?_step [Client σ] (step : Search.Step) :
    ∃ description, (standard σ).get? step.command =
      some ⟨step.command, description, .standalone, fun _ _ ↦ Builtin.searchMove step.apply⟩ := by
  cases step with
  | next =>
    refine ⟨"Jump to the next search match", get?_standard_eq_some_iff.2 ⟨?_, rfl⟩⟩
    simp [builtins, Search.Step.command, Search.Step.apply]
  | previous =>
    refine ⟨"Jump to the previous search match", get?_standard_eq_some_iff.2 ⟨?_, rfl⟩⟩
    simp [builtins, Search.Step.command, Search.Step.apply]

namespace Session

variable {s : Session σ} {lines : List String} {steps : List Search.Step}

/-- The session after a move: the search has made it, and where that has led is told. -/
def move (step : Search.Step) (s : Session σ) : Session σ :=
  (s.mapConsole fun c ↦ { c with search := step.apply c.search }).mapConsole fun c ↦
    c.info c.search.report

/-- The command of a move makes the move, whatever its arguments are and whether or not there is a
connection. -/
theorem execute_step [Client σ] (standard : s.interpreter.catalogue = .standard σ) {c : Command}
    {step : Search.Step} {args : String}
    (resolve : s.interpreter.aliases.resolve c = .ok ⟨step.command, args⟩) :
    s.execute c = (.ok (), (s.move step).remember ⟨step.command, args⟩) := by
  obtain ⟨description, found⟩ := Catalogue.exists_get?_step (σ := σ) step
  rw [← standard] at found
  have named : step.command ≠ "" := by cases step <;> decide
  have performed : s.invoke ⟨step.command, args⟩ = s.perform ⟨step.command, args⟩ :=
    invoke_of_free found (fun holds ↦ holds.2 rfl) (fun connects ↦ by cases connects)
  rw [execute_of_resolve resolve named, performed,
    perform_of_ready found (fun player ↦ by cases player),
    runOperation_eq (Builtin.act_searchMove s.scope step.apply)]
  rfl

/-- Each of the lines is the command of a move, under whatever name. -/
def Walks (s : Session σ) : List String → List Search.Step → Prop :=
  List.Forall₂ fun line step ↦
    ∃ args, s.interpreter.aliases.resolve (.ofLine line) = .ok ⟨step.command, args⟩

/-- What is left of moves: the interpreter is the same, the search has made the moves, and the last
place is told. -/
structure Walked (s : Session σ) (steps : List Search.Step) (s' : Session σ) : Prop where
  interpreter : s'.interpreter = s.interpreter
  search : s'.console.search = s.console.search.walk steps
  status : s'.console.status =
    if steps = [] then s.console.status else .showing .info s'.console.search.report

theorem walked_move (s : Session σ) (step : Search.Step) (c : Command) :
    s.Walked [step] ((s.move step).remember c) := by
  rw [remember, move, mapConsole, mapConsole]
  constructor
  · dsimp only
  · dsimp only [Console.info]
    rfl
  · rw [if_neg (List.cons_ne_nil _ _)]
    dsimp only [Console.info]

/-- Moves may be made one after the other. -/
theorem Walked.cons {s s₁ s₂ : Session σ} {step : Search.Step} (first : s.Walked [step] s₁)
    (rest : s₁.Walked steps s₂) : s.Walked (step :: steps) s₂ where
  interpreter := rest.interpreter.trans first.interpreter
  search := by
    rw [rest.search, first.search]
    rfl
  status := by
    have last := rest.status
    rw [if_neg (List.cons_ne_nil _ _)]
    split at last
    -- if the first move is the last one too, it is that move that has been told of
    · rename_i none_left
      rw [last, first.status, if_neg (List.cons_ne_nil _ _), rest.search, none_left]
      rfl
    · exact last

/-- **The commands of moves, executed in turn, make the moves.** -/
theorem walked_executeLines [Client σ] (standard : s.interpreter.catalogue = .standard σ)
    (walks : s.Walks lines steps) :
    (executeLines lines s).1 = [] ∧ s.Walked steps (executeLines lines s).2 := by
  induction lines generalizing s steps with
  | nil =>
    cases walks
    exact ⟨rfl, rfl, rfl, (if_pos rfl).symm⟩
  | cons line lines ih =>
    cases walks with
    | @cons _ step _ steps first rest =>
      obtain ⟨args, resolve⟩ := first
      have made := walked_move s step ⟨step.command, args⟩
      have goesOn : executeLines (line :: lines) s =
          executeLines lines ((s.move step).remember ⟨step.command, args⟩) := by
        rw [executeLines, executeLine, execute_step standard resolve]
        rfl
      rw [goesOn]
      generalize (s.move step).remember ⟨step.command, args⟩ = moved at made ⊢
      have rest_walks : moved.Walks lines steps := by
        rw [Walks, made.interpreter]
        exact rest
      obtain ⟨errors, walked⟩ := ih (made.interpreter ▸ standard) rest_walks
      exact ⟨errors, made.cons walked⟩

/-- **The commands for moving through the matches go round and round.**  Take any session over the
standard catalogue whose search has been made for some pattern, and execute any lines that are the
commands of moves, be it through aliases.  None of them fails.  The pattern and the matches stay the
same.  If there are matches, the index of the active one is the number of moves forth less that of
those back, modulo the number of matches, and after the last move, if there has been one, the user
is told its place, counted from one, the number of matches, and the position and the line of the
match.  If there are none, the search stays as it is.  Other lines with the same moves in another
order come to the same.  In no case is a number divided by nought or too much taken away.  From
where the moves end, a move back undoes one forth and the other way round, and as many moves forth
as there are matches lead back there. -/
theorem match_cycle [Client σ] (s : Session σ) (standard : s.interpreter.catalogue = .standard σ)
    {args listing : String} {ignoreCase : Bool} (named : Text.trim args ≠ "")
    (searched : s.console.search = .run (Text.trim args) listing ignoreCase)
    (walks : s.Walks lines steps) :
    let found := s.console.search
    let n := found.hits.length
    let after := (executeLines lines s).2.console
    (executeLines lines s).1 = [] ∧
      after.search.query = found.query ∧ after.search.hits = found.hits ∧
      (0 < n →
        (after.search.active : Int) = ((steps.count .next : Int) - steps.count .previous) % n ∧
        ∃ hit, found.hits[after.search.active]? = some hit ∧
          (steps ≠ [] →
            after.status = .info ("[" ++ toString (after.search.active + 1) ++ "/" ++ toString n ++
              "] " ++ toString hit.position ++ ": " ++ hit.line))) ∧
      (n = 0 → after.search = found) ∧
      (∀ lines' steps', s.Walks lines' steps' → steps'.Perm steps →
        (executeLines lines' s).2.console.search = after.search) ∧
      steps.foldlM (fun search step ↦ step.attempt search) found = some after.search ∧
      after.search.next.previous = after.search ∧ after.search.previous.next = after.search ∧
      Search.next^[n] after.search = after.search := by
  intro found n after
  obtain ⟨errors, -, walked, told⟩ := walked_executeLines standard walks
  obtain ⟨query, hits⟩ := Search.query_hits_walk steps found
  rw [← walked] at query hits
  have carried : steps.foldlM (fun search step ↦ step.attempt search) found =
      some after.search := by
    rw [Search.foldlM_attempt, ← walked]
  have ran : found = .run (Text.trim args) listing ignoreCase := searched
  have ordered : found.WellFormed := by
    rw [ran]
    exact Search.wellFormed_run _ _ _
  have ordered_after : after.search.WellFormed := by
    rw [walked]
    exact ordered.walk steps
  have round : Search.next^[n] after.search = after.search := by
    have whole := ordered_after.iterate_next_length
    rwa [hits] at whole
  refine ⟨errors, query, hits, fun some_hit ↦ ?_, fun none_found ↦ ?_,
    fun lines' steps' walks' perm ↦ ?_, carried, ordered_after.previous_next,
    ordered_after.next_previous, round⟩
  · have hne : found.hits ≠ [] := List.length_pos_iff.1 some_hit
    have first : found.active = 0 := by
      rw [ran]
      rfl
    have same : after.search.hits = (Search.run (Text.trim args) listing ignoreCase).hits := by
      rw [hits, ran]
    obtain ⟨hit, at_hit, shown⟩ := Search.showing_report (Text.trimmed_trim args) named same
      (ordered_after.inside (hits ▸ hne))
    rw [hits] at at_hit shown
    refine ⟨?_, hit, at_hit, fun some_step ↦ ?_⟩
    · rw [walked]
      exact Search.active_walk_of_first first hne steps
    · rw [told, if_neg some_step]
      exact shown
  · rw [walked]
    exact Search.walk_of_hits_eq_nil (List.length_eq_zero_iff.1 none_found) steps
  · obtain ⟨-, -, walked', -⟩ := walked_executeLines standard walks'
    rw [walked', walked]
    exact ordered.walk_eq_of_perm perm

/-- One move forth and two back, through an alias and without a connection, lead from the first of
four matches to the last. -/
theorem match_cycle_to_the_last :
    let listing := "Abba\nBach\nCage\nRed\nXenakis"
    let s : Session Canned :=
      { interpreter :=
          { catalogue := .standard _
            aliases := (∅ : AliasTable).insert "p" "searchprev" }
        console := { client := ⟨[], false⟩, search := .run "a" listing true } }
    let lines := ["searchnext", "p", " p  again"]
    let steps : List Search.Step := [.next, .previous, .previous]
    let after := (executeLines lines s).2.console
    Text.trim "a" ≠ "" ∧ s.console.search = .run (Text.trim "a") listing true ∧
      s.Walks lines steps ∧
      (after.search.active : Int) =
        ((steps.count .next : Int) - steps.count .previous) % s.console.search.hits.length ∧
      after.status = .info "[4/4] 5: Xenakis" := by
  intro listing s lines steps after
  have named : Text.trim "a" ≠ "" := by decide
  have searched : s.console.search = .run (Text.trim "a") listing true := by decide +kernel
  have walks : s.Walks lines steps :=
    .cons ⟨"", by decide +kernel⟩ <| .cons ⟨"", by decide +kernel⟩ <|
      .cons ⟨"", by decide +kernel⟩ .nil
  obtain ⟨-, -, -, cycle, -⟩ := match_cycle s rfl named searched walks
  obtain ⟨active, -⟩ := cycle (by decide +kernel)
  exact ⟨named, searched, walks, active, by decide +kernel⟩

end Session
end Jukebox
