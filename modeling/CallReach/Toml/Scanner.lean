import CallReach.Text.Blank
import CallReach.Toml.Basic

/-!
# Scalars of TOML

Readers of blanks and comments, of keys, of strings, numbers and dates. A reader takes characters
from the front of what is left, or fails.
-/

namespace CallReach.Toml

/-- A reader of characters. -/
abbrev Scanner := StateT (List Char) Option

namespace Scanner

/-- The next character. -/
def peek : Scanner (Option Char) := do
  return (← get).head?

/-- Takes the given characters if they come next. -/
def take? (cs : List Char) : Scanner Bool := do
  let rest ← get
  if cs.isPrefixOf rest then
    set (rest.drop cs.length)
    return true
  else return false

/-- Takes a character that must come next. -/
def expect (c : Char) : Scanner Unit := do
  unless ← take? [c] do failure

/-- Takes a character that satisfies the test. -/
def satisfy (test : Char → Bool) : Scanner Char := do
  match ← get with
  | c :: rest =>
    if test c then
      set rest
      return c
    else failure
  | [] => failure

/-- Takes the characters that satisfy the test. -/
def takeWhile (test : Char → Bool) : Scanner (List Char) := do
  let rest ← get
  let taken := rest.takeWhile test
  set (rest.drop taken.length)
  return taken

/-- Runs a reader if it succeeds, and takes nothing if it fails. -/
def attempt {α : Type} (r : Scanner α) : Scanner (Option α) := fun rest =>
  match r rest with
  | some (a, rest') => some (some a, rest')
  | none => some (none, rest)

/-- Repeats a step that gives a result and tells whether to go on, at most `fuel` times. -/
def repeatUpTo {α : Type} (step : Scanner (Option (α × Bool))) : Nat → Scanner (List α)
  | 0 => failure
  | fuel + 1 => do
    match ← step with
    | none => return []
    | some (a, false) => return [a]
    | some (a, true) => return a :: (← repeatUpTo step fuel)

/-- Repeats a step until it gives no result or asks to stop. Every step takes a character. -/
def repeating {α : Type} (step : Scanner (Option (α × Bool))) : Scanner (List α) := do
  repeatUpTo step ((← get).length + 2)

/-! ### Blanks, line ends and comments -/

/-- Whether a character is a blank within a line. -/
def isSpace (c : Char) : Bool := c = ' ' || c = '\t'

/-- Skips blanks within a line. -/
def spaces : Scanner Unit := do
  let _ ← takeWhile isSpace

/-- Whether a character may stand in a comment or, apart from quotes, in a string. -/
def isPlain (c : Char) : Bool :=
  c = '\t' || (0x20 ≤ c.toNat && c.toNat ≠ 0x7F)

/-- Takes the end of a line if it comes next. -/
def newline? : Scanner Bool := do
  if ← take? ['\n'] then return true else take? ['\r', '\n']

/-- Skips a comment if one comes next. -/
def comment : Scanner Unit := do
  if ← take? ['#'] then
    let _ ← takeWhile isPlain

/-- The end of a line, with a comment before it, or the end of the document. -/
def lineEnd : Scanner Unit := do
  spaces
  comment
  unless (← get).isEmpty do
    unless ← newline? do failure

/-- Skips blanks, comments and line ends. -/
def blankLines : Scanner Unit := do
  let _ ← repeating do
    spaces
    comment
    if ← newline? then return some ((), true) else return none

/-! ### Strings and keys -/

/-- A character given by `n` hexadecimal digits. -/
def codePoint (n : Nat) : Scanner Char := do
  let digits ← (List.replicate n ()).mapM fun _ => satisfy fun c => (Text.hexDigit? c).isSome
  let value := digits.foldl (fun v c => v * 16 + (Text.hexDigit? c).getD 0) 0
  match Text.scalar? value with
  | some c => return c
  | none => failure

/-- An escape after its backslash. -/
def escape : Scanner Char := do
  match ← satisfy fun _ => true with
  | 'b' => return '\x08'
  | 't' => return '\t'
  | 'n' => return '\n'
  | 'f' => return '\x0c'
  | 'r' => return '\r'
  | '"' => return '"'
  | '\\' => return '\\'
  | 'u' => codePoint 4
  | 'U' => codePoint 8
  | _ => failure

/-- The rest of a string on one line with escapes. -/
def basicString : Scanner String := do
  let chars ← repeating do
    if ← take? ['"'] then return none
    else if ← take? ['\\'] then return some (← escape, true)
    else return some (← satisfy isPlain, true)
  return String.ofList chars

/-- The rest of a string on one line without escapes. -/
def literalString : Scanner String := do
  let chars ← takeWhile fun c => isPlain c && c ≠ '\''
  expect '\''
  return String.ofList chars

/-- The end of a string of several lines: up to two quotes before the closing ones belong to it. -/
def closing? (quote : Char) : Scanner (Option (List Char)) := do
  let quotes := ((← get).takeWhile (· = quote)).length
  if quotes < 3 then return none
  let extra := min (quotes - 3) 2
  let _ ← take? (List.replicate (extra + 3) quote)
  return some (List.replicate extra quote)

/-- The end of a line inside a string, as it counts for the string. -/
def lineBreak? : Scanner (Option Char) := do
  if ← newline? then return some '\n' else return none

/-- Skips blanks and line ends after a backslash at the end of a line. -/
def joinLines : Scanner Unit := do
  spaces
  unless ← newline? do failure
  let _ ← repeating do
    spaces
    if ← newline? then return some ((), true) else return none

/-- The rest of a string of several lines with escapes. -/
def multiLineBasic : Scanner String := do
  let _ ← newline?
  let chars ← repeating do
    match ← closing? '"' with
    | some extra => return some (extra, false)
    | none =>
      match ← lineBreak? with
      | some c => return some ([c], true)
      | none =>
        if ← take? ['\\'] then
          match ← attempt joinLines with
          | some () => return some ([], true)
          | none => return some ([← escape], true)
        else return some ([← satisfy isPlain], true)
  return String.ofList chars.flatten

/-- The rest of a string of several lines without escapes. -/
def multiLineLiteral : Scanner String := do
  let _ ← newline?
  let chars ← repeating do
    match ← closing? '\'' with
    | some extra => return some (extra, false)
    | none =>
      match ← lineBreak? with
      | some c => return some ([c], true)
      | none => return some ([← satisfy isPlain], true)
  return String.ofList chars.flatten

/-- A string. -/
def string : Scanner String := do
  if ← take? ['"', '"', '"'] then multiLineBasic
  else if ← take? ['"'] then basicString
  else if ← take? ['\'', '\'', '\''] then multiLineLiteral
  else
    expect '\''
    literalString

/-- Whether a character may stand in a key without quotes. -/
def isBare (c : Char) : Bool := c.isAlphanum || c = '-' || c = '_'

/-- A key without dots. -/
def simpleKey : Scanner String := do
  if ← take? ['"'] then basicString
  else if ← take? ['\''] then literalString
  else
    let chars ← takeWhile isBare
    if chars.isEmpty then failure else return String.ofList chars

/-- How deep keys and values may be nested. -/
def depthLimit : Nat := 80

/-- A key, by its segments. -/
def key : Scanner (List String) := do
  let path ← repeating do
    spaces
    let k ← simpleKey
    spaces
    return some (k, ← take? ['.'])
  if path.length < depthLimit then return path else failure

/-! ### Numbers and dates -/

/-- Digits, with single underscores between them. -/
def digitsWith (isDigit : Char → Bool) : Scanner (List Char) := do
  let first ← satisfy isDigit
  let rest ← repeating do
    if ← take? ['_'] then return some (← satisfy isDigit, true)
    match ← peek with
    | some c => if isDigit c then return some (← satisfy isDigit, true) else return none
    | none => return none
  return first :: rest

/-- A sign, if one comes next; whether it is a minus. -/
def sign : Scanner Bool := do
  if ← take? ['-'] then return true
  else
    let _ ← take? ['+']
    return false

/-- The digits of a decimal number, without leading zeros. -/
def wholeDigits : Scanner (List Char) := do
  if ← take? ['0'] then return ['0'] else digitsWith Char.isDigit

/-- The value of digits to a base. -/
def valueOf (base : Nat) (digits : List Char) : Nat :=
  digits.foldl (fun v c => v * base + (Text.hexDigit? c).getD 0) 0

/-- An integer of 64 bits with a sign. Numbers to another base than ten have none. -/
def integer : Scanner Unit := do
  let based (base : Nat) (test : Char → Bool) : Scanner Unit := do
    let digits ← digitsWith test
    unless valueOf base digits < Nat.pow 2 63 do failure
  if ← take? ['0', 'x'] then based 16 fun c => (Text.hexDigit? c).isSome
  else if ← take? ['0', 'o'] then based 8 fun c => c.isDigit && c < '8'
  else if ← take? ['0', 'b'] then based 2 fun c => c = '0' || c = '1'
  else
    let negative ← sign
    let value := valueOf 10 (← wholeDigits)
    unless value < Nat.pow 2 63 || negative && value = Nat.pow 2 63 do failure

/-- Whether a decimal number is too large for a double: from halfway between the largest one and the
next power of two on. -/
def overflows (digits : List Char) (exponent : Int) : Bool :=
  let value := valueOf 10 digits
  if value = 0 then false
  else if exponent + digits.length < 0 then false
  else if exponent > 400 then true
  else
    let limit := Nat.pow 2 1024 - Nat.pow 2 970
    if 0 ≤ exponent then value * Nat.pow 10 exponent.toNat ≥ limit
    else value ≥ limit * Nat.pow 10 (-exponent).toNat

/-- A floating-point number. Positive numbers may not be too large. -/
def float : Scanner Unit := do
  let negative ← sign
  if ← take? ['i', 'n', 'f'] then return
  if ← take? ['n', 'a', 'n'] then return
  let whole ← wholeDigits
  let fraction ← if ← take? ['.'] then pure (some (← digitsWith Char.isDigit)) else pure none
  let exponent ← match ← peek with
    | some c =>
      if c = 'e' || c = 'E' then
        let _ ← satisfy fun _ => true
        let down ← sign
        let value : Int := valueOf 10 (← digitsWith Char.isDigit)
        pure (some (if down then -value else value))
      else pure none
    | none => pure none
  if fraction.isNone && exponent.isNone then failure
  let places := fraction.getD []
  if !negative && overflows (whole ++ places) (exponent.getD 0 - places.length) then failure

/-- A number of exactly `n` digits. -/
def fixedDigits (n : Nat) : Scanner Nat := do
  let digits ← (List.replicate n ()).mapM fun _ => satisfy Char.isDigit
  return valueOf 10 digits

/-- The number of days of a month. -/
def daysIn (year month : Nat) : Nat :=
  if month = 2 then
    if year % 4 = 0 && year % 100 ≠ 0 || year % 400 = 0 then 29 else 28
  else if [4, 6, 9, 11].contains month then 30
  else 31

/-- A date. -/
def date : Scanner Unit := do
  let year ← fixedDigits 4
  expect '-'
  let month ← fixedDigits 2
  expect '-'
  let day ← fixedDigits 2
  unless 1 ≤ month && month ≤ 12 && 1 ≤ day && day ≤ daysIn year month do failure

/-- Hours and minutes. -/
def hourMinute : Scanner Unit := do
  let hour ← fixedDigits 2
  expect ':'
  let minute ← fixedDigits 2
  unless hour ≤ 23 && minute ≤ 59 do failure

/-- A time of day. -/
def time : Scanner Unit := do
  hourMinute
  expect ':'
  let second ← fixedDigits 2
  unless second ≤ 60 do failure
  if ← take? ['.'] then
    let _ ← satisfy Char.isDigit
    let _ ← takeWhile Char.isDigit

/-- The distance from universal time, if it is given. -/
def offset : Scanner Unit := do
  if ← take? ['Z'] then return
  if ← take? ['z'] then return
  if ← take? ['+'] then hourMinute
  else if ← take? ['-'] then hourMinute

/-- A date, a time, or both with an offset. -/
def dateTime : Scanner Unit := do
  match ← attempt date with
  | some () =>
    let _ ← attempt do
      let _ ← satisfy fun c => c = 'T' || c = 't' || c = ' '
      time
      offset
  | none => time

/-- A number or date. -/
def numeric : Scanner Toml := do
  if (← attempt dateTime).isSome then return .dateTime
  else if (← attempt float).isSome then return .float
  else
    integer
    return .integer

end Scanner

end CallReach.Toml
