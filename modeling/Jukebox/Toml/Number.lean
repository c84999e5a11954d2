import Jukebox.Toml.Text

/-!
# TOML numbers, dates and times

Integers are decimal, or hexadecimal, octal or binary without a sign, and have to fit into 64
bits.  Single underscores may stand between digits.  A float too large for any finite value is
refused if it is positive.  A date is checked against the calendar.
-/

set_option autoImplicit false

namespace Jukebox
namespace Toml
namespace Reader

/-- A word as it is written, or nothing of it. -/
def sign : Reader (Option Char) := optional (satisfy fun c => c == '+' || c == '-')

/-- Digits with single underscores between them; the underscores are left out. -/
def digitRun (p : Char → Bool) : Nat → Reader (List Char)
  | 0 => failure
  | n + 1 => do
    let first ← takeWhile1 p
    match ← peek with
    | some '_' => do
      char '_'
      return first ++ (← digitRun p n)
    | _ => return first

/-- Digits with single underscores between them, as many as there are. -/
def digits (p : Char → Bool) : Reader (List Char) := do digitRun p ((← get).length + 1)

/-- The digits of a decimal integer: no zero stands before others. -/
def decimalDigits : Reader (List Char) := do
  match ← peek with
  | some '0' => do char '0'; return ['0']
  | _ => digits Char.isDigit

/-- The value of digits in a base. -/
def valueOf (base : Nat) (cs : List Char) : Nat := cs.foldl (fun v c => v * base + hexValue c) 0

/-- An integer that fits into 64 bits. -/
def inRange (n : Int) : Reader Value :=
  if -0x8000000000000000 ≤ n ∧ n < 0x8000000000000000 then pure (.integer n) else failure

/-- An integer in one of the other bases. -/
def based (mark : String) (base : Nat) (p : Char → Bool) : Reader Value := do
  literal mark
  inRange (valueOf base (← digits p))

/-- An integer. -/
def integer : Reader Value :=
  based "0x" 16 isHexDigit <|> based "0o" 8 (fun c => '0' ≤ c && c ≤ '7') <|>
    based "0b" 2 (fun c => c == '0' || c == '1') <|> do
      let negative := (← sign) == some '-'
      let n := valueOf 10 (← decimalDigits)
      inRange (if negative then -(n : Int) else n)

/-! ## Floats -/

/-- Whether `m * 10 ^ e` is rounded to infinity: it is at least half a unit above the largest
finite value of double precision. -/
def overflows (m : Nat) (e : Int) : Bool :=
  let magnitude := (Nat.toDigits 10 m).length + e
  if m = 0 ∨ magnitude < 300 then false
  else if magnitude > 320 then true
  else if 0 ≤ e then Nat.pow 2 1024 - Nat.pow 2 970 ≤ m * Nat.pow 10 e.toNat
  else (Nat.pow 2 1024 - Nat.pow 2 970) * Nat.pow 10 (-e).toNat ≤ m

/-- The exponent of a float. -/
def exponent : Reader Int := do
  let _ ← satisfy fun c => c == 'e' || c == 'E'
  let negative := (← sign) == some '-'
  let n := valueOf 10 (← digits Char.isDigit)
  return if negative then -(n : Int) else n

/-- The digits behind the point of a float. -/
def fraction : Reader (List Char) := do
  char '.'
  digits Char.isDigit

/-- A float with a point, an exponent or both. -/
def decimalFloat : Reader Value := do
  let negative := (← sign) == some '-'
  let whole ← decimalDigits
  let (places, e) ← (do return ([], ← exponent)) <|> do
    let places ← fraction
    return (places, (← optional exponent).getD 0)
  if !negative && overflows (valueOf 10 (whole ++ places)) (e - places.length) then failure
  return .float

/-- A float. -/
def float : Reader Value :=
  decimalFloat <|> do
    let _ ← sign
    literal "inf" <|> literal "nan"
    return .float

/-! ## Dates and times -/

/-- A number of exactly `n` digits in a range. -/
def field (n lo hi : Nat) : Reader Nat := do
  let value := valueOf 10 (← exactly Char.isDigit n)
  if lo ≤ value ∧ value ≤ hi then return value else failure

/-- The number of days of a month. -/
def daysIn (year month : Nat) : Nat :=
  if month = 2 then
    if year % 4 = 0 ∧ (year % 100 ≠ 0 ∨ year % 400 = 0) then 29 else 28
  else if month ∈ [4, 6, 9, 11] then 30 else 31

/-- A number with zeros before it up to a number of digits. -/
def padded (width n : Nat) : String :=
  let ds := Nat.toDigits 10 n
  .ofList (List.replicate (width - ds.length) '0' ++ ds)

/-- A date, as its canonical text. -/
def date : Reader String := do
  let year ← field 4 0 9999
  char '-'
  let month ← field 2 1 12
  char '-'
  let day ← field 2 1 (daysIn year month)
  return padded 4 year ++ "-" ++ padded 2 month ++ "-" ++ padded 2 day

/-- The part of a second, to nine digits, without the zeros at its end. -/
def secondFraction : Reader String := do
  char '.'
  let ds ← takeWhile1 Char.isDigit
  let kept := ((ds.take 9).reverse.dropWhile (· == '0')).reverse
  return if kept = [] then "" else "." ++ .ofList kept

/-- A time of day, as its canonical text. -/
def time : Reader String := do
  let hour ← field 2 0 23
  char ':'
  let minute ← field 2 0 59
  char ':'
  let second ← field 2 0 60
  let fraction := (← optional secondFraction).getD ""
  return padded 2 hour ++ ":" ++ padded 2 minute ++ ":" ++ padded 2 second ++ fraction

/-- The distance of a clock from universal time, as its canonical text. -/
def offset : Reader String :=
  (do let _ ← satisfy fun c => c == 'Z' || c == 'z'; return "Z") <|> do
    let s ← satisfy fun c => c == '+' || c == '-'
    let hour ← field 2 0 23
    char ':'
    let minute ← field 2 0 59
    let s := if hour = 0 ∧ minute = 0 then '+' else s
    return .ofList [s] ++ padded 2 hour ++ ":" ++ padded 2 minute

/-- A date with or without a time, or a time. -/
def moment : Reader Value :=
  (do
    let day ← date
    let clock ← optional do
      let _ ← satisfy fun c => c == 'T' || c == 't' || c == ' '
      let t ← time
      return "T" ++ t ++ (← optional offset).getD ""
    return .moment (day ++ clock.getD "")) <|> do
    return .moment (← time)

/-- A number, a date or a time. -/
def number : Reader Value := moment <|> float <|> integer

end Reader
end Toml
end Jukebox
