import CallReach.Json.Basic

/-!
# Reading JSON

A text is cut into tokens, and the tokens are put together by a machine with a stack of open
brackets, so that values may be nested to any depth.
-/

namespace CallReach.Json

/-! ### Tokens -/

/-- A token of the JSON format. -/
inductive Token where
  | openBrace
  | closeBrace
  | openBracket
  | closeBracket
  | colon
  | comma
  | null
  | bool (b : Bool)
  | number (text : String)
  | string (text : Option String)

/-- The number given by four hexadecimal digits. -/
def hex4? (a b c d : Char) : Option Nat := do
  let a ← Text.hexDigit? a
  let b ← Text.hexDigit? b
  let c ← Text.hexDigit? c
  let d ← Text.hexDigit? d
  return ((a * 16 + b) * 16 + c) * 16 + d

/-- The character of an escape with a single letter. -/
def escaped? : Char → Option Char
  | '"' => some '"'
  | '\\' => some '\\'
  | '/' => some '/'
  | 'b' => some '\x08'
  | 'f' => some '\x0c'
  | 'n' => some '\n'
  | 'r' => some '\r'
  | 't' => some '\t'
  | _ => none

/-- The rest of a string after its opening quote: the code points and surrogates in it, and what
follows the closing quote. -/
def units? : List Char → Option (List Nat × List Char)
  | [] => none
  | '"' :: rest => some ([], rest)
  | '\\' :: 'u' :: a :: b :: c :: d :: rest => do
    let n ← hex4? a b c d
    let (units, rest) ← units? rest
    return (n :: units, rest)
  | '\\' :: c :: rest => do
    let c ← escaped? c
    let (units, rest) ← units? rest
    return (c.toNat :: units, rest)
  | c :: rest =>
    if c.toNat < 0x20 then none
    else do
      let (units, rest) ← units? rest
      return (c.toNat :: units, rest)

/-- The characters of code points and surrogates, if every surrogate is half of a pair. -/
def chars? : List Nat → Option (List Char)
  | [] => some []
  | n :: rest =>
    -- A leading half must be followed by a trailing one.
    if 0xD800 ≤ n ∧ n < 0xDC00 then
      match rest with
      | m :: rest' =>
        if 0xDC00 ≤ m ∧ m < 0xE000 then
          (chars? rest').map (Char.ofNat (0x10000 + (n - 0xD800) * 0x400 + (m - 0xDC00)) :: ·)
        else none
      | [] => none
    else if 0xDC00 ≤ n ∧ n < 0xE000 then none
    else (chars? rest).map (Char.ofNat n :: ·)

/-- At least one digit, and what follows the digits. -/
def digits? (cs : List Char) : Option (List Char × List Char) :=
  let ds := cs.takeWhile Char.isDigit
  if ds.isEmpty then none else some (ds, cs.drop ds.length)

/-- The fraction of a number, if there is one. -/
def fraction? : List Char → Option (List Char × List Char)
  | '.' :: cs => do
    let (ds, rest) ← digits? cs
    return ('.' :: ds, rest)
  | cs => some ([], cs)

/-- The exponent of a number, if there is one. -/
def exponent? : List Char → Option (List Char × List Char)
  | [] => some ([], [])
  | e :: cs =>
    if e = 'e' ∨ e = 'E' then do
      let (sign, cs) := match cs with
        | '+' :: rest => (['+'], rest)
        | '-' :: rest => (['-'], rest)
        | _ => ([], cs)
      let (ds, rest) ← digits? cs
      return (e :: sign ++ ds, rest)
    else some ([], e :: cs)

/-- A number and what follows it. No digit may follow a leading zero. -/
def number? (cs : List Char) : Option (String × List Char) := do
  let (sign, cs) := match cs with
    | '-' :: rest => (['-'], rest)
    | _ => ([], cs)
  let (whole, rest) ← match cs with
    | '0' :: rest => some (['0'], rest)
    | _ => digits? cs
  let (fraction, rest) ← fraction? rest
  let (exponent, rest) ← exponent? rest
  return (String.ofList (sign ++ whole ++ fraction ++ exponent), rest)

/-- The first token of a text that does not start with a blank, and what follows it. -/
def token? : List Char → Option (Token × List Char)
  | '\x7b' :: cs => some (.openBrace, cs)
  | '\x7d' :: cs => some (.closeBrace, cs)
  | '[' :: cs => some (.openBracket, cs)
  | ']' :: cs => some (.closeBracket, cs)
  | ':' :: cs => some (.colon, cs)
  | ',' :: cs => some (.comma, cs)
  | 'n' :: 'u' :: 'l' :: 'l' :: cs => some (.null, cs)
  | 't' :: 'r' :: 'u' :: 'e' :: cs => some (.bool true, cs)
  | 'f' :: 'a' :: 'l' :: 's' :: 'e' :: cs => some (.bool false, cs)
  | '"' :: cs => do
    let (units, rest) ← units? cs
    -- Where a string is skipped its halves need not be paired, so that is decided later.
    return (.string ((chars? units).map String.ofList), rest)
  | cs => do
    let (text, rest) ← number? cs
    return (.number text, rest)

/-- Whether a character is a blank of the format. -/
def isSpace (c : Char) : Bool := c = ' ' || c = '\t' || c = '\n' || c = '\r'

/-- The tokens of a text, at most `fuel` of them. -/
def tokensUpTo : Nat → List Char → Option (List Token)
  | 0, _ => none
  | fuel + 1, cs =>
    match cs.dropWhile isSpace with
    | [] => some []
    | cs => do
      let (t, rest) ← token? cs
      let ts ← tokensUpTo fuel rest
      return t :: ts

/-- The tokens of a text. Every token takes a character. -/
def tokens? (text : String) : Option (List Token) :=
  tokensUpTo (text.length + 1) text.toList

/-! ### Values -/

/-- An open bracket with what has been read after it, the last one first. -/
inductive Frame where
  | array (items : List Json)
  | object (members : List (Option String × Json)) (key : Option String)

/-- What may come next. -/
inductive Expected where
  | value
  | firstItem
  | firstKey
  | key
  | colon
  | next
  | done

/-- The state of the machine. -/
structure Machine where
  stack : List Frame := []
  expected : Expected := .value
  result : Json := .null

namespace Machine

/-- A value is complete. -/
def complete (m : Machine) (v : Json) : Machine :=
  match m.stack with
  | [] => { m with expected := .done, result := v }
  | .array items :: stack => { m with stack := .array (v :: items) :: stack, expected := .next }
  | .object members key :: stack =>
    { m with stack := .object ((key, v) :: members) key :: stack, expected := .next }

/-- The start of a value. -/
def start? (m : Machine) : Token → Option Machine
  | .openBracket => some { m with stack := .array [] :: m.stack, expected := .firstItem }
  | .openBrace => some { m with stack := .object [] none :: m.stack, expected := .firstKey }
  | .null => some (m.complete .null)
  | .bool b => some (m.complete (.bool b))
  | .number t => some (m.complete (.number t))
  | .string s => some (m.complete (.string s))
  | _ => none

/-- A bracket is closed. -/
def close? (m : Machine) : Token → Option Machine
  | .closeBracket =>
    match m.stack with
    | .array items :: stack => some (complete { m with stack } (.array items.reverse))
    | _ => none
  | .closeBrace =>
    match m.stack with
    | .object members _ :: stack => some (complete { m with stack } (.object members.reverse))
    | _ => none
  | _ => none

/-- The key of a member. -/
def key? (m : Machine) : Token → Option Machine
  | .string key =>
    match m.stack with
    | .object members _ :: stack =>
      some { m with stack := .object members key :: stack, expected := .colon }
    | _ => none
  | _ => none

/-- One step of the machine. -/
def step? (m : Machine) (t : Token) : Option Machine :=
  match m.expected, t with
  | .value, t => m.start? t
  | .firstItem, .closeBracket => m.close? t
  | .firstItem, t => m.start? t
  | .firstKey, .closeBrace => m.close? t
  | .firstKey, t => m.key? t
  | .key, t => m.key? t
  | .colon, .colon => some { m with expected := .value }
  | .colon, _ => none
  | .next, .comma =>
    match m.stack with
    | .array _ :: _ => some { m with expected := .value }
    | .object _ _ :: _ => some { m with expected := .key }
    | [] => none
  | .next, t => m.close? t
  | .done, _ => none

/-- The value that has been read. -/
def result? (m : Machine) : Option Json :=
  match m.expected with
  | .done => some m.result
  | _ => none

end Machine

/-- Reads a JSON document. -/
def parse? (text : String) : Option Json := do
  let ts ← tokens? text
  let m ← ts.foldlM Machine.step? {}
  m.result?

end CallReach.Json
