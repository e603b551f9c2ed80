import CallReach.Text.Blank

/-!
# JSON documents

Values of the JSON format and their text, compact or with one member per line. A string whose
escapes name no text is a value as well: such a string may stand where nothing asks what it is.
-/

namespace CallReach

/-- A JSON value. Numbers are kept as written, and members in order. -/
inductive Json where
  | null
  | bool (b : Bool)
  | number (text : String)
  | string (text : Option String)
  | array (items : List Json)
  | object (members : List (Option String × Json))

namespace Json

/-- A natural number. -/
def nat (n : Nat) : Json := number (toString n)

/-- A text. -/
def text (s : String) : Json := string (some s)

/-- A list of texts. -/
def texts (ss : List String) : Json := array (ss.map text)

/-- An object with the given members. -/
def record (members : List (String × Json)) : Json :=
  object (members.map fun (k, v) => (some k, v))

/-- The hexadecimal digit of a number below 16. -/
def hexDigit (n : Nat) : Char :=
  if n < 10 then Char.ofNat (48 + n) else Char.ofNat (87 + n)

/-- A character inside a string. -/
def escapeChar (c : Char) : List Char :=
  match c with
  | '"' => ['\\', '"']
  | '\\' => ['\\', '\\']
  | '\x08' => ['\\', 'b']
  | '\x0c' => ['\\', 'f']
  | '\n' => ['\\', 'n']
  | '\r' => ['\\', 'r']
  | '\t' => ['\\', 't']
  | c =>
    if c.toNat < 0x20 then
      ['\\', 'u', '0', '0', hexDigit (c.toNat / 16), hexDigit (c.toNat % 16)]
    else [c]

/-- A text as a string. -/
def quote (s : String) : String :=
  "\"" ++ String.ofList (s.toList.flatMap escapeChar) ++ "\""

/-- The text of a string, which is replaced by a lone surrogate if it has none. -/
def quoteOption (s : Option String) : String :=
  match s with
  | some s => quote s
  | none => "\"\\ud800\""

mutual

/-- The text of a value without blanks. -/
def compact : Json → String
  | null => "null"
  | bool b => if b then "true" else "false"
  | number t => t
  | string s => quoteOption s
  | array items => "[" ++ ",".intercalate (compactItems items) ++ "]"
  | object members => "\x7b" ++ ",".intercalate (compactMembers members) ++ "\x7d"

/-- The texts of several values. -/
def compactItems : List Json → List String
  | [] => []
  | v :: vs => compact v :: compactItems vs

/-- The texts of several members. -/
def compactMembers : List (Option String × Json) → List String
  | [] => []
  | (k, v) :: ms => (quoteOption k ++ ":" ++ compact v) :: compactMembers ms

end

/-- Lines in brackets, each indented by `depth + 1` levels. -/
def bracketLines (open' close : String) (depth : Nat) (lines : List String) : String :=
  let pad (n : Nat) : String := String.ofList (List.replicate (2 * n) ' ')
  if lines.isEmpty then open' ++ close
  else
    open' ++ "\n" ++ ",\n".intercalate (lines.map fun line => pad (depth + 1) ++ line) ++ "\n" ++
      pad depth ++ close

mutual

/-- The text of a value with one item or member per line, inside of `depth` levels. -/
def prettyAt (depth : Nat) : Json → String
  | array items => bracketLines "[" "]" depth (prettyItems (depth + 1) items)
  | object members => bracketLines "\x7b" "\x7d" depth (prettyMembers (depth + 1) members)
  | v => compact v

/-- The texts of several values. -/
def prettyItems (depth : Nat) : List Json → List String
  | [] => []
  | v :: vs => prettyAt depth v :: prettyItems depth vs

/-- The texts of several members. -/
def prettyMembers (depth : Nat) : List (Option String × Json) → List String
  | [] => []
  | (k, v) :: ms => (quoteOption k ++ ": " ++ prettyAt depth v) :: prettyMembers depth ms

end

/-- The text of a value with one item or member per line. -/
def pretty (v : Json) : String := prettyAt 0 v

end Json

end CallReach
