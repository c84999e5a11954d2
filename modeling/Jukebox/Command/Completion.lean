/-!
# Completing command names

The completion key fills in the first name that begins with what was typed; pressed again, it
moves on to the next such name, and from the last one back to the first.  Any other key ends this,
and the next completion begins with what is typed by then.
-/

set_option autoImplicit false

namespace Jukebox

/-- Where completion stands. -/
inductive Completion where
  | idle
  /-- Moving through the candidates for `typed`, now at `candidates[index]`. -/
  | cycling (typed : String) (candidates : List String) (index : Nat)
  deriving DecidableEq, Repr, Inhabited

namespace Completion

/-- The names that begin with `typed`, in the order they are given. -/
def candidates (typed : String) (names : List String) : List String :=
  names.filter fun name => typed.toList.isPrefixOf name.toList

/-- The text shown: the candidate moved to, or what was typed if there is none. -/
def shown (typed : String) (candidates : List String) (index : Nat) : String :=
  candidates.getD index typed

/-- Completes `text`, which counts only if completion is not under way. -/
def complete (names : List String) (text : String) : Completion → String × Completion
  | idle =>
    let found := candidates text names
    (shown text found 0, cycling text found 0)
  | cycling typed found index =>
    let index := (index + 1) % found.length
    (shown typed found index, cycling typed found index)

end Completion
end Jukebox
