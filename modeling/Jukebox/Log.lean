import Jukebox.Text.Blank

/-!
# The log file

The log goes to a file, whose directory is made if it is not there.  Only what can fail before the
first entry is written is decided here: whether a path names a file at all, and whether its
directory can be made.

* `FilePath` is a path taken apart, and `FilePath.split?` its directory and file name.
* `FileSystem` makes directories; `Log.makeDirs` makes one with all those above it.
* `Log.prepare` is what happens before logging begins.
-/

set_option autoImplicit false

namespace Jukebox

/-- Why the file system refuses something, with the number it has for that, if it has one. -/
structure IoError where
  text : String
  code : Option Nat
  deriving DecidableEq, Repr

namespace IoError

/-- Whether the refusal is that there is nothing at a path. -/
def isNotFound (e : IoError) : Bool := e.code == some 2

/-- The wording of a refusal. -/
def message (e : IoError) : String :=
  match e.code with
  | some n => e.text ++ " (os error " ++ toString n ++ ")"
  | none => e.text

end IoError

/-- Actions in which directories can be made. -/
class FileSystem (m : Type → Type) where
  /-- Makes one directory, inside one that is there. -/
  makeDir : String → m (Except IoError Unit)
  /-- Whether there is a directory at a path. -/
  isDir : String → m Bool

/-- Why logging does not begin. -/
inductive LogError where
  | io (e : IoError)
  | setup (reason : String)
  deriving DecidableEq, Repr

/-- The wording of it. -/
def LogError.message : LogError → String
  | .io e => "I/O error: " ++ e.message
  | .setup reason => "Logging setup failed: " ++ reason

/-! ## Paths -/

/-- The names on a path from the root, or from the current directory, the last one first. -/
structure FilePath where
  absolute : Bool
  namesUp : List String
  deriving DecidableEq, Repr

namespace FilePath

/-- Takes a path apart.  Repeated slashes and single points lead nowhere. -/
def ofString (s : String) : FilePath where
  absolute := s.toList.head? == some '/'
  namesUp :=
    (((Text.Chars.splitAll '/' s.toList).filter fun p => p ≠ [] ∧ p ≠ ['.']).map
      String.ofList).reverse

/-- The written form of a path. -/
def text (p : FilePath) : String :=
  let names := "/".intercalate p.namesUp.reverse
  if p.absolute then "/" ++ names else if names.isEmpty then "." else names

/-- The directory and the name of the file at a path, if the path ends in a name. -/
def split? (p : FilePath) : Option (FilePath × String) :=
  match p.namesUp with
  | [] | ".." :: _ => none
  | name :: above => some ({ p with namesUp := above }, name)

end FilePath

/-! ## Before logging -/

namespace Log

variable {m : Type → Type} [Monad m] [FileSystem m]

/-- Makes a directory, which counts as done if it is there already. -/
def makeDir (dir : String) : m (Except IoError Unit) := do
  match ← FileSystem.makeDir dir with
  | .ok _ => return .ok ()
  | .error e => return if ← FileSystem.isDir dir then .ok () else .error e

/-- Makes a directory with all those above it, the names being given from the last one up. -/
def makeDirs (absolute : Bool) : List String → m (Except IoError Unit)
  | [] => return .ok ()
  | name :: above => do
    let dir := FilePath.text ⟨absolute, name :: above⟩
    match ← makeDir dir with
    | .ok _ => return .ok ()
    | .error e =>
      if e.isNotFound then
        match ← makeDirs absolute above with
        | .ok _ => makeDir dir
        | .error e => return .error e
      else return .error e

/-- Gets ready to log to a file, if one is given, and gives the directory and the name to log
to. -/
def prepare (file : Option String) : m (Except LogError (Option (String × String))) := do
  match file with
  | none => return .ok none
  | some file =>
    match (FilePath.ofString file).split? with
    | none => return .error (.setup ("not a file path: " ++ file))
    | some (dir, name) =>
      match ← makeDirs dir.absolute dir.namesUp with
      | .error e => return .error (.io e)
      | .ok _ => return .ok (some (dir.text, name))

end Log
end Jukebox
