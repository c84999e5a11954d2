import Jukebox.Toml.Reader

/-!
# TOML strings and keys

A string is quoted once or three times, by double quotes, inside which a backslash escapes, or by
single quotes, inside which it does not.  A string in triple quotes may run over several lines.
A key is a bare word or a string in single or double quotes, and a dotted key several with points
between them.
-/

set_option autoImplicit false

namespace Jukebox
namespace Toml
namespace Reader

/-! ## Escapes -/

/-- The value of a hexadecimal digit. -/
def hexValue (c : Char) : Nat :=
  if c.isDigit then c.toNat - '0'.toNat else c.toLower.toNat - 'a'.toNat + 10

/-- Whether a character is a hexadecimal digit. -/
def isHexDigit (c : Char) : Bool :=
  c.isDigit || ('a' ≤ c && c ≤ 'f') || ('A' ≤ c && c ≤ 'F')

/-- The character with the code point that `n` hexadecimal digits give. -/
def codePoint (n : Nat) : Reader Char := do
  let value := (← exactly isHexDigit n).foldl (fun v c => v * 16 + hexValue c) 0
  if value.isValidChar then pure (.ofNat value) else failure

/-- The character that a backslash and what is behind it stand for. -/
def escape : Reader Char := do
  char '\\'
  match ← satisfy fun _ => true with
  | 'b' => pure '\x08'
  | 't' => pure '\t'
  | 'n' => pure '\n'
  | 'f' => pure '\x0c'
  | 'r' => pure '\r'
  | '"' => pure '"'
  | '\\' => pure '\\'
  | 'u' => codePoint 4
  | 'U' => codePoint 8
  | _ => failure

/-! ## Strings of one line -/

/-- Whether a character can stand for itself between quotes of the given kind. -/
def isPlain (quote c : Char) : Bool :=
  isCommentChar c && c ≠ quote && !(quote == '"' && c == '\\')

/-- The rest of a string of one line in double quotes.  Every step takes a character, so the length
of the text bounds their number. -/
def basicRest : Nat → Reader (List Char)
  | 0 => failure
  | n + 1 => do
    match ← peek with
    | some '"' => do char '"'; pure []
    | some '\\' => return (← escape) :: (← basicRest n)
    | _ => return (← satisfy (isPlain '"')) :: (← basicRest n)

/-- A string of one line in double quotes. -/
def basicString : Reader String := do
  char '"'
  return .ofList (← basicRest ((← get).length + 1))

/-- A string of one line in single quotes. -/
def literalString : Reader String := do
  char '\''
  let cs ← takeWhile (isPlain '\'')
  char '\''
  return .ofList cs

/-! ## Strings of several lines -/

/-- A backslash at the end of a line, with everything blank up to the next text. -/
def lineContinuation : Reader Unit := do
  char '\\'
  blanks
  newline
  let rec skip : Nat → Reader Unit
    | 0 => pure ()
    | n + 1 => do
      blanks
      match ← optional newline with
      | some _ => skip n
      | none => pure ()
  skip (← get).length

/-- The quotes at the end of a string in triple quotes: up to two of them belong to the text. -/
def closing (quote : Char) : Reader (List Char) := do
  let run ← takeWhile (· == quote)
  if run.length < 3 then failure
  let extra := min (run.length - 3) 2
  set (List.replicate (run.length - 3 - extra) quote ++ (← get))
  return .replicate extra quote

/-- The rest of a string in triple quotes.  One or two quotes with something else behind them
belong to the text. -/
def blockRest (quote : Char) : Nat → Reader (List Char)
  | 0 => failure
  | n + 1 => do
    match ← peek with
    | some c =>
      if c = quote then
        closing quote <|> do
          let run ← takeWhile (· == quote)
          return run ++ (← blockRest quote n)
      else if c = '\\' ∧ quote = '"' then
        (do lineContinuation; blockRest quote n) <|>
          (do return (← escape) :: (← blockRest quote n))
      else if c = '\n' ∨ c = '\r' then do
        newline
        return '\n' :: (← blockRest quote n)
      else return (← satisfy (isPlain quote)) :: (← blockRest quote n)
    | none => failure

/-- A string in triple quotes.  A line end directly behind the opening quotes is dropped. -/
def blockString (quote : Char) : Reader String := do
  (List.replicate 3 quote).forM char
  let _ ← optional newline
  return .ofList (← blockRest quote ((← get).length + 1))

/-- A string. -/
def string : Reader String :=
  blockString '"' <|> basicString <|> blockString '\'' <|> literalString

/-! ## Keys -/

/-- Whether a character can stand in a bare key. -/
def isBare (c : Char) : Bool := c.isAlphanum || c == '_' || c == '-'

/-- One part of a key. -/
def keyPart : Reader String :=
  basicString <|> literalString <|> (do return .ofList (← takeWhile1 isBare))

/-- The parts of a dotted key, which are at most `n`; there may be blanks around each. -/
def keyParts : Nat → Reader (List String)
  | 0 => failure
  | n + 1 => do
    blanks
    let part ← keyPart
    blanks
    match ← peek with
    | some '.' => do
      char '.'
      return part :: (← keyParts n)
    | _ => return [part]

/-- A key may have fewer parts than this, and values may be nested less deep. -/
def depthLimit : Nat := 80

/-- A dotted key: the path of tables to it, and its last part. -/
def key : Reader (List String × String) := do
  let parts ← keyParts (depthLimit - 1)
  return (parts.dropLast, parts.getLastD "")

end Reader
end Toml
end Jukebox
