import Jukebox.Command.Alias
import Jukebox.Console
import Jukebox.Text.Quoted
import Std.Data.TreeMap

/-!
# Operations

An operation is what a command name runs.  It may change the console and the aliases, and nothing
else: not the catalogue it stands in, and not the queue of commands held back.

* `Scope` is what an operation may change, and `CommandM` the actions on it.  What has happened
  before an action fails stays.  `CommandM.act` is what an action comes to.
* `Operation` is a name, a description, what has to be there before it can run, and an action.
* `Catalogue` maps names to operations; `Catalogue.help` describes it.
-/

set_option autoImplicit false

namespace Jukebox

/-- What an operation may change. -/
structure Scope (σ : Type) where
  console : Console σ
  aliases : AliasTable

/-- Actions of operations. -/
abbrev CommandM (σ : Type) := ExceptT CommandError (StateM (Scope σ))

namespace CommandM

variable {σ α β : Type}

/-- The outcome of an action, and the scope afterwards. -/
def act (m : CommandM σ α) (s : Scope σ) : Except CommandError α × Scope σ := m.run.run s

@[simp] theorem act_pure (a : α) (s : Scope σ) : act (pure a) s = (.ok a, s) := rfl

@[simp] theorem act_throw (e : CommandError) (s : Scope σ) :
    act (throw e : CommandM σ α) s = (.error e, s) := rfl

@[simp] theorem act_get (s : Scope σ) : act get s = (.ok s, s) := rfl

@[simp] theorem act_modify (f : Scope σ → Scope σ) (s : Scope σ) :
    act (modify f) s = (.ok (), f s) := rfl

/-- The first failure ends an action. -/
theorem act_bind (m : CommandM σ α) (f : α → CommandM σ β) (s : Scope σ) :
    act (m >>= f) s =
      match act m s with
      | (.ok a, s) => act (f a) s
      | (.error e, s) => (.error e, s) := by
  show (ExceptT.run (m >>= f)).run s = _
  rw [ExceptT.run_bind, StateT.run_bind]
  rcases h : act m s with ⟨⟨⟩ | ⟨⟩, s'⟩ <;> (rw [act] at h; rw [h]; rfl)

end CommandM

/-- What an operation has to do with the server: nothing, it makes the connection, or it needs
one. -/
inductive OperationKind where
  | standalone | connecting | player
  deriving DecidableEq, Repr

/-- What a command name runs. -/
structure Operation (σ : Type) where
  name : String
  description : String
  kind : OperationKind
  /-- The action, given the help text of the catalogue and the arguments. -/
  run : List String → String → CommandM σ Unit

/-- The word for a kind in diagnostics. -/
def OperationKind.word : OperationKind → String
  | standalone => "Local"
  | connecting => "Connect"
  | player => "Player"

/-- An operation in diagnostics: its name, quoted, and its kind. -/
def Operation.summary {σ : Type} (op : Operation σ) : String :=
  "Operation \x7b name: " ++ Text.quoted op.name ++ ", kind: " ++ op.kind.word ++ ", .. \x7d"

/-- The operations by their names. -/
structure Catalogue (σ : Type) where
  table : Std.TreeMap String (Operation σ) := ∅

namespace Catalogue

variable {σ : Type}

/-- Adds an operation, in place of one of the same name. -/
def register (c : Catalogue σ) (op : Operation σ) : Catalogue σ :=
  ⟨c.table.insert op.name op⟩

/-- Adds several operations, one after the other. -/
def registerAll (c : Catalogue σ) (ops : List (Operation σ)) : Catalogue σ :=
  ops.foldl register c

/-- The operation with a name, the case of letters counting. -/
def get? (c : Catalogue σ) (name : String) : Option (Operation σ) := c.table[name]?

/-- The names in their order. -/
def names (c : Catalogue σ) : List String := c.table.keys

/-- The text with blanks behind it up to a number of characters. -/
def pad (width : Nat) (s : String) : String :=
  s ++ .ofList (.replicate (width - s.length) ' ')

/-- One line for every operation: its name behind a colon, filled up to the longest name's length
in bytes, and its description. -/
def help (c : Catalogue σ) : List String :=
  let width := (c.names.map String.utf8ByteSize).foldr max 0
  c.table.values.map fun op => ":" ++ pad width op.name ++ " " ++ op.description

end Catalogue
end Jukebox
