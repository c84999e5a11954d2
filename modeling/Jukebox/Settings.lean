import Jukebox.Text.Blank
import Jukebox.Text.Letters
import Jukebox.Text.Numeral

/-!
# Settings

The options that `:set` changes at run time.  Four are flags and one is a number of milliseconds.
A flag is set by its name, cleared by its name behind `no`, turned over by its name with `!`
behind it, and given a value by `name=word`.  The number has to be given a value.

* `Setting` names the options, in the order in which they are listed.
* `Settings` holds a value for each, so a setting can be neither missing nor of the wrong kind.
* `Settings.apply` carries out one written change or says why it cannot.
-/

set_option autoImplicit false

namespace Jukebox

/-- An option that is on or off. -/
inductive Flag where
  | hlsearch | ignorecase | polling | skipconfigconnects
  deriving DecidableEq, Repr

/-- An option. -/
inductive Setting where
  | flag (f : Flag)
  | timeout
  deriving DecidableEq, Repr

/-- The value of an option. -/
inductive SettingValue where
  | truth (b : Bool)
  | number (n : UInt64)
  deriving DecidableEq, Repr

/-- Why a change is refused. -/
inductive SettingsError where
  | unknownOption (key : String)
  | invalidValue (key value : String)
  | missingValue (key : String)
  deriving DecidableEq, Repr

/-- The wording of a refusal. -/
def SettingsError.message : SettingsError → String
  | .unknownOption key => "Unknown option: " ++ key
  | .invalidValue key value => "Invalid value for " ++ key ++ ": " ++ value
  | .missingValue key => "Option " ++ key ++ " requires a value"

/-- The written form of a value. -/
def SettingValue.text : SettingValue → String
  | .truth true => "true"
  | .truth false => "false"
  | .number n => toString n.toNat

/-! ## Names -/

/-- The name of a flag. -/
def Flag.name : Flag → String
  | .hlsearch => "hlsearch"
  | .ignorecase => "ignorecase"
  | .polling => "polling"
  | .skipconfigconnects => "skipconfigconnects"

/-- Every flag, by name. -/
def Flag.all : List Flag := [.hlsearch, .ignorecase, .polling, .skipconfigconnects]

/-- The name of an option. -/
def Setting.name : Setting → String
  | .flag f => f.name
  | .timeout => "timeout"

/-- Every option, in the order of the names. -/
def Setting.all : List Setting := Flag.all.map .flag ++ [.timeout]

/-- The flag of a name. -/
def Flag.ofName? (name : String) : Option Flag := all.find? (·.name == name)

/-- The flag whose name stands before an exclamation mark. -/
def Flag.ofToggle? (word : String) : Option Flag := all.find? (·.name ++ "!" == word)

/-- The flag whose name stands behind `no`. -/
def Flag.ofNegation? (word : String) : Option Flag := all.find? ("no" ++ ·.name == word)

/-- The option of a name. -/
def Setting.ofName? (name : String) : Option Setting := all.find? (·.name == name)

/-- The truth value that a word stands for, in any case. -/
def truthOfWord? (word : String) : Option Bool :=
  match Text.lowerAscii word with
  | "true" | "on" | "yes" | "1" => some true
  | "false" | "off" | "no" | "0" => some false
  | _ => none

/-! ## The settings -/

/-- A value for every option. -/
structure Settings where
  hlsearch : Bool := true
  ignorecase : Bool := true
  polling : Bool := true
  skipconfigconnects : Bool := false
  timeout : UInt64 := 1000
  deriving DecidableEq, Repr, Inhabited

namespace Settings

/-- The value of a flag. -/
def flag (s : Settings) : Flag → Bool
  | .hlsearch => s.hlsearch
  | .ignorecase => s.ignorecase
  | .polling => s.polling
  | .skipconfigconnects => s.skipconfigconnects

/-- The settings with another value for a flag. -/
def setFlag (s : Settings) (f : Flag) (b : Bool) : Settings :=
  match f with
  | .hlsearch => { s with hlsearch := b }
  | .ignorecase => { s with ignorecase := b }
  | .polling => { s with polling := b }
  | .skipconfigconnects => { s with skipconfigconnects := b }

/-- The value of an option. -/
def get (s : Settings) : Setting → SettingValue
  | .flag f => .truth (s.flag f)
  | .timeout => .number s.timeout

/-- The value of the option with a name. -/
def lookup? (s : Settings) (name : String) : Option SettingValue :=
  (Setting.ofName? name).map s.get

/-- Every option with its value, as `name=value`, in the order of the names. -/
def listing (s : Settings) : List String :=
  Setting.all.map fun o => o.name ++ "=" ++ (s.get o).text

/-- How long to wait for a key before the player is asked for news.  A time-out of zero means the
usual second. -/
def timeoutMs (s : Settings) : UInt64 := if s.timeout = 0 then 1000 else s.timeout

/-! ## Changing one option -/

/-- What a bare word that is no option's name may still ask for: a flag turned over or cleared. -/
def assignWord (s : Settings) (word : String) : Except SettingsError Settings :=
  match Flag.ofToggle? word, Flag.ofNegation? word with
  | some f, _ => .ok (s.setFlag f (!s.flag f))
  | none, some f => .ok (s.setFlag f false)
  | none, none => .error (.unknownOption word)

/-- Gives the option `key` a value, or without a value does what the word asks for. -/
def assign (s : Settings) (key : String) (value : Option String) :
    Except SettingsError Settings :=
  match Setting.ofName? key, value with
  | some (.flag f), none => .ok (s.setFlag f true)
  | some (.flag f), some raw =>
    match truthOfWord? raw with
    | some b => .ok (s.setFlag f b)
    | none => .error (.invalidValue key raw)
  | some .timeout, none => .error (.missingValue key)
  | some .timeout, some raw =>
    match Text.uint64? raw with
    | some n => .ok { s with timeout := n }
    | none => .error (.invalidValue key raw)
  | none, none => s.assignWord key
  | none, some _ => .error (.unknownOption key)

/-- Carries out one written change: a word, or a key and a value around the first equals sign,
each trimmed. -/
def apply (s : Settings) (token : String) : Except SettingsError Settings :=
  match Text.Chars.splitAt? '=' token.toList with
  | some (key, value) =>
    s.assign (.ofList (Text.Chars.trim key)) (some (.ofList (Text.Chars.trim value)))
  | none => s.assign (Text.trim token) none

@[simp] theorem flag_setFlag (s : Settings) (f g : Flag) (b : Bool) :
    (s.setFlag f b).flag g = if f = g then b else s.flag g := by
  cases f <;> cases g <;> rfl

end Settings
end Jukebox
