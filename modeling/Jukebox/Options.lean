import Jukebox.Text.Numeral

/-!
# Command line options

Arguments are read from left to right, and the first thing wrong with them is what is reported.
An option that takes a value takes it from the rest of its own argument or from the next one.  In
the second case the value is looked at only when the next option comes, or the end, so what is
wrong with an unknown argument is reported before what is wrong with the value before it.

* `Options` is what the arguments say.
* `Options.Stop` is why they are not carried out: something is wrong, or help is wanted.
* `Options.parse` reads them.
-/

set_option autoImplicit false

namespace Jukebox

/-- What the command line says. -/
structure Options where
  host : Option String := none
  port : Option UInt16 := none
  config : Option String := none
  startupFile : Option String := none
  logFile : Option String := none
  logLevel : Option String := none
  projectUrl : Bool := false
  bugReport : Bool := false
  deriving DecidableEq, Repr

namespace Options

/-- An option with a value. -/
inductive Field where
  | host | port | config | startupFile | logFile | logLevel
  deriving DecidableEq, Repr

/-- An option without one. -/
inductive Switch where
  | projectUrl | bugReport
  deriving DecidableEq, Repr

/-- What an option means. -/
inductive Meaning where
  | field (f : Field)
  | switch (s : Switch)
  | help
  | version
  deriving DecidableEq, Repr

/-- Why the arguments are not carried out. -/
inductive Stop where
  | help
  | version
  /-- There is no such option, or a word that belongs to none. -/
  | unknownArgument
  /-- An option is there without its value. -/
  | missingValue
  /-- A value is not one that the option can have. -/
  | badValue
  /-- An option is there twice. -/
  | repeated
  /-- An option that has no value is given one. -/
  | unexpectedValue
  deriving DecidableEq, Repr

/-! ## Names -/

/-- The meaning of a long name. -/
def ofLongName? : String → Option Meaning
  | "host" => some (.field .host)
  | "port" => some (.field .port)
  | "config" => some (.field .config)
  | "rc" => some (.field .startupFile)
  | "log-file" => some (.field .logFile)
  | "log-level" => some (.field .logLevel)
  | "url" => some (.switch .projectUrl)
  | "bugreport" => some (.switch .bugReport)
  | "help" => some .help
  | "version" => some .version
  | _ => none

/-- The meaning of a letter. -/
def ofLetter? : Char → Option Meaning
  | 'p' => some (.field .port)
  | 'c' => some (.field .config)
  | 'u' => some (.switch .projectUrl)
  | 'b' => some (.switch .bugReport)
  | 'h' => some .help
  | 'V' => some .version
  | _ => none

/-! ## Values -/

/-- Whether a field has a value. -/
def has (o : Options) : Field → Bool
  | .host => o.host.isSome
  | .port => o.port.isSome
  | .config => o.config.isSome
  | .startupFile => o.startupFile.isSome
  | .logFile => o.logFile.isSome
  | .logLevel => o.logLevel.isSome

/-- A path, which is not empty. -/
def pathOf (s : String) : Except Stop String := if s.isEmpty then .error .missingValue else .ok s

/-- A port.  A sign may stand before it, as long as the number is in range. -/
def portOf (s : String) : Except Stop UInt16 :=
  match Text.Chars.integer? s.toList with
  | some n => if 0 ≤ n ∧ n < UInt16.size then .ok (.ofNat n.toNat) else .error .badValue
  | none => .error .badValue

/-- The options with a value for a field that had none. -/
def give (o : Options) (f : Field) (value : String) : Except Stop Options :=
  if o.has f then .error .repeated
  else
    match f with
    | .host => .ok { o with host := some value }
    | .port => (portOf value).map fun port => { o with port := some port }
    | .config => (pathOf value).map fun config => { o with config := some config }
    | .startupFile => (pathOf value).map fun file => { o with startupFile := some file }
    | .logFile => (pathOf value).map fun logFile => { o with logFile := some logFile }
    | .logLevel => .ok { o with logLevel := some value }

/-- The options with a switch set that was not. -/
def turnOn (o : Options) : Switch → Except Stop Options
  | .projectUrl => if o.projectUrl then .error .repeated else .ok { o with projectUrl := true }
  | .bugReport => if o.bugReport then .error .repeated else .ok { o with bugReport := true }

/-! ## Reading arguments -/

/-- A field whose value has not been looked at yet. -/
inductive Pending where
  | nothing
  /-- The value is still to come. -/
  | awaiting (f : Field)
  | given (f : Field) (value : String)
  deriving DecidableEq, Repr

/-- What has been read so far. -/
structure Progress where
  options : Options := {}
  pending : Pending := .nothing
  deriving DecidableEq, Repr

namespace Progress

/-- The options with the value of the field looked at that was put off. -/
def settle (p : Progress) : Except Stop Options :=
  match p.pending with
  | .nothing => .ok p.options
  | .awaiting _ => .error .missingValue
  | .given f value => p.options.give f value

/-- Reads an option by its meaning, with the value attached to it, if there is one. -/
def take (p : Progress) (m : Meaning) (value : Option String) : Except Stop Progress := do
  match m, value with
  | .field f, some value => return { options := ← (← p.settle).give f value }
  | .field f, none => return { options := ← p.settle, pending := .awaiting f }
  | _, some _ => throw .unexpectedValue
  | .switch s, none => return { options := ← (← p.settle).turnOn s }
  | .help, none => do
    let _ ← p.settle
    throw .help
  | .version, none => do
    let _ ← p.settle
    throw .version

/-- Reads the letters of an argument.  Behind the letter of a field comes its value, with or
without an equals sign before it. -/
def takeLetters (p : Progress) : List Char → Except Stop Progress
  | [] => .ok p
  | c :: cs =>
    match ofLetter? c, cs with
    | none, _ => .error .unknownArgument
    | some (.field f), [] => p.take (.field f) none
    | some (.field f), '=' :: value => p.take (.field f) (some (.ofList value))
    | some (.field f), value => p.take (.field f) (some (.ofList value))
    | some m, rest => do takeLetters (← p.take m none) rest

/-- Reads a long name, with the value behind an equals sign. -/
def takeLong (p : Progress) (cs : List Char) : Except Stop Progress :=
  let name := cs.takeWhile (· ≠ '=')
  let value :=
    match cs.dropWhile (· ≠ '=') with
    | _ :: value => some (String.ofList value)
    | [] => none
  match ofLongName? (.ofList name) with
  | some m => p.take m value
  | none => .error .unknownArgument

/-- Reads a word that is no option: the value still to come, or one too many. -/
def takeWord (p : Progress) (word : String) : Except Stop Progress :=
  match p.pending with
  | .awaiting f => .ok { p with pending := .given f word }
  | _ => .error .unknownArgument

/-- Reads arguments.  Behind two dashes there are no options, and so nothing that is known. -/
def takeAll : List String → Progress → Except Stop Options
  | [], p => p.settle
  | arg :: args, p =>
    match arg.toList with
    | ['-', '-'] => if args = [] then p.settle else .error .unknownArgument
    | '-' :: '-' :: cs => do takeAll args (← p.takeLong cs)
    | '-' :: c :: cs => do takeAll args (← p.takeLetters (c :: cs))
    | _ => do takeAll args (← p.takeWord arg)

end Progress

/-- Reads the arguments of the command line. -/
def parse (args : List String) : Except Stop Options := Progress.takeAll args {}

/-! ## Texts -/

/-- What is printed on `--version`. -/
def versionText : String := "cuepoint 0.1.0\n"

/-- What is printed on `--help`. -/
def helpText : String :=
  "Modal, vi-style terminal client for a music player daemon\n\n" ++
  "Usage: cuepoint [OPTIONS]\n\n" ++
  "Options:\n" ++
  "      --host <HOST>            Server to connect to. " ++
  "Connects in the startup file are skipped\n" ++
  "  -p, --port <PORT>            Server port. Connects in the startup file are skipped\n" ++
  "  -c, --config <FILE>          Config file to read instead of the user config\n" ++
  "      --rc <FILE>              Startup command file to read instead of the configured one\n" ++
  "      --log-file <FILE>        Write logs to this file\n" ++
  "      --log-level <LOG_LEVEL>  Log level (trace, debug, info, warn, error)\n" ++
  "  -u, --url                    Print the project URL and exit\n" ++
  "  -b, --bugreport              Print where to report bugs and exit\n" ++
  "  -h, --help                   Print help\n" ++
  "  -V, --version                Print version\n"

/-- What is printed on `--url`: the program has no page of its own, so this is its name. -/
def projectUrlText : String := "cuepoint"

/-- What is printed on `--bugreport`: what a report should name. -/
def bugReportText : String := "cuepoint 0.1.0"

end Options
end Jukebox
