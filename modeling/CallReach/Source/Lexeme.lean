import CallReach.Source.Token
import CallReach.Text.Identifier

/-!
# Lexemes

What stands at the head of a text: blank space, a comment, a bracket or a leaf. A leaf is a literal,
a punctuation character, a lifetime or a word. Each function here measures one class of lexemes: it
gives the number of characters that the lexeme at the head of the text takes, and `none` when the
text does not start with one of that class.
-/

namespace CallReach.Source.Lexeme

open CallReach.Text

/-! ### Words -/

/-- Length of the identifier at the head of the text, 0 when there is none. -/
def identifier : List Char → Nat
  | [] => 0
  | c :: cs => if isIdentifierStart c then 1 + (cs.takeWhile isIdentifierPart).length else 0

/-- Words that have no raw form. -/
def neverRaw : List String := ["_", "super", "self", "Self", "crate"]

/-- Length of an identifier or of a raw identifier such as `r#match`. -/
def anyWord (cs : List Char) : Option Nat :=
  match cs with
  | 'r' :: '#' :: rest =>
    let n := identifier rest
    if n = 0 || neverRaw.contains (String.ofList (rest.take n)) then none else some (n + 2)
  | _ =>
    let n := identifier cs
    if n = 0 then none else some n

/-- Starts of string and byte literals, which are never the start of a word. -/
def literalStarts : List String :=
  ["r\"", "r#\"", "r##", "b\"", "b'", "br\"", "br#", "c\"", "cr\"", "cr#"]

/-- Length of a word. -/
def word (cs : List Char) : Option Nat :=
  if literalStarts.any (·.toList.isPrefixOf cs) then none else anyWord cs

/-! ### Strings and characters -/

/-- The kinds of quoted literals. -/
inductive Quoted where
  | text
  | bytes
  | terminated
  deriving DecidableEq

/-- The part of a Unicode escape after its opening brace: its length and the character. The escape
holds one to six digits, which underscores may separate. -/
def unicodeDigits (digits value : Nat) : List Char → Option (Nat × Char)
  | [] => none
  | c :: cs =>
    match hexDigit? c with
    | some d =>
      if digits = 6 then none
      else (unicodeDigits (digits + 1) (value * 16 + d) cs).map fun (n, ch) => (n + 1, ch)
    | none =>
      if digits = 0 then none
      else if c = '_' then (unicodeDigits digits value cs).map fun (n, ch) => (n + 1, ch)
      else if c = '\x7d' then (scalar? value).map fun ch => (1, ch)
      else none

/-- Length of the blank space that a backslash at the end of a line swallows. A carriage return has
to be followed by a line feed. -/
def swallowed (afterReturn : Bool) : List Char → Option Nat
  | [] => none
  | c :: cs =>
    if afterReturn then
      if c = '\n' then (swallowed false cs).map (· + 1) else none
    else if c = ' ' || c = '\t' || c = '\n' then (swallowed false cs).map (· + 1)
    else if c = '\r' then (swallowed true cs).map (· + 1)
    else some 0

/-- Length of the escape whose part after the backslash is given; a line end is not among these. -/
def escape (q : Quoted) : List Char → Option Nat
  | 'x' :: a :: b :: _ => do
    let hi ← hexDigit? a
    let lo ← hexDigit? b
    match q with
    | .text => if a.isDigit && hi < 8 then some 3 else none
    | .bytes => some 3
    -- A terminated string may not hold its own terminator.
    | .terminated => if hi = 0 && lo = 0 then none else some 3
  | 'u' :: '\x7b' :: rest => do
    let (n, ch) ← unicodeDigits 0 0 rest
    match q with
    | .text => some (n + 2)
    | .bytes => none
    | .terminated => if ch = '\x00' then none else some (n + 2)
  | c :: _ =>
    if c = 'n' || c = 'r' || c = 't' || c = '\\' || c = '\'' || c = '"' then some 1
    else if c = '0' && q ≠ .terminated then some 1
    else none
  | [] => none

/-- Whether the character may stand for itself in a quoted literal. -/
def Quoted.allows (q : Quoted) (c : Char) : Bool :=
  match q with
  | .text => true
  | .bytes => c.toNat < 0x80
  | .terminated => c ≠ '\x00'

/-- Length of the rest of a quoted literal, its closing quote included. `skip` characters belong to
an escape that has been measured already. -/
def quotedRest (q : Quoted) (skip : Nat) : List Char → Option Nat
  | [] => none
  | c :: cs =>
    if skip > 0 then (quotedRest q (skip - 1) cs).map (· + 1)
    else if c = '"' then some 1
    else if c = '\r' then
      if cs.head? = some '\n' then (quotedRest q 0 cs).map (· + 1) else none
    else if c = '\\' then
      match cs with
      | '\n' :: rest => do
        let n ← swallowed false rest
        (quotedRest q (n + 1) cs).map (· + 1)
      | '\r' :: rest => do
        let n ← swallowed true rest
        (quotedRest q (n + 1) cs).map (· + 1)
      | _ => do
        let n ← escape q cs
        (quotedRest q n cs).map (· + 1)
    else if q.allows c then (quotedRest q 0 cs).map (· + 1)
    else none

/-- Length of the rest of a raw literal that closes with a quote and `hashes` hash signs. -/
def rawRest (q : Quoted) (hashes : Nat) : List Char → Option Nat
  | [] => none
  | c :: cs =>
    if c = '"' && (List.replicate hashes '#').isPrefixOf cs then some (1 + hashes)
    else if c = '\r' then
      if cs.head? = some '\n' then (rawRest q hashes cs).map (· + 1) else none
    else if q.allows c then (rawRest q hashes cs).map (· + 1)
    else none

/-- Length of a raw literal from its hash signs on; at most 255 of them are allowed. -/
def raw (q : Quoted) (cs : List Char) : Option Nat :=
  let hashes := (cs.takeWhile (· = '#')).length
  match cs.drop hashes with
  | '"' :: rest =>
    if hashes > 255 then none else (rawRest q hashes rest).map (· + (hashes + 1))
  | _ => none

/-- The length with that of a suffix added, such as the `u8` of `1u8`. -/
def withSuffix (cs : List Char) (n : Nat) : Nat :=
  n + identifier (cs.drop n)

/-- Length of a string literal of any kind. -/
def string (cs : List Char) : Option Nat :=
  let body : Option Nat :=
    match cs with
    | '"' :: rest => (quotedRest .text 0 rest).map (· + 1)
    | 'r' :: rest => (raw .text rest).map (· + 1)
    | 'b' :: '"' :: rest => (quotedRest .bytes 0 rest).map (· + 2)
    | 'b' :: 'r' :: rest => (raw .bytes rest).map (· + 2)
    | 'c' :: '"' :: rest => (quotedRest .terminated 0 rest).map (· + 2)
    | 'c' :: 'r' :: rest => (raw .terminated rest).map (· + 2)
    | _ => none
  body.map (withSuffix cs)

/-- Length of the single character, possibly escaped, of a character or byte literal. -/
def oneCharacter (q : Quoted) : List Char → Option Nat
  | '\\' :: cs => (escape q cs).map (· + 1)
  | c :: _ => if q.allows c then some 1 else none
  | [] => none

/-- Length of a character or byte literal. -/
def character (cs : List Char) : Option Nat := do
  let (q, start) ← match cs with
    | '\'' :: _ => some (Quoted.text, 1)
    | 'b' :: '\'' :: _ => some (Quoted.bytes, 2)
    | _ => none
  let n ← oneCharacter q (cs.drop start)
  if (cs.drop (start + n)).head? = some '\'' then
    some (withSuffix cs (start + n + 1))
  else none

/-! ### Numbers -/

/-- Digits, underscores and one point, from the second character of a number on; stops after an
exponent mark. Gives the length, whether there was a point and whether there was an exponent mark. A
point followed by another point or by a word belongs to no number. -/
def mantissa (point : Bool) : List Char → Option (Nat × Bool × Bool)
  | [] => some (0, point, false)
  | c :: cs =>
    if c.isDigit || c = '_' then (mantissa point cs).map fun (n, r) => (n + 1, r)
    else if c = '.' then
      if point then some (0, point, false)
      else
        match cs.head? with
        | some d =>
          -- In `1..2` and `1.max(2)` the number ends before the point.
          if d = '.' || isIdentifierStart d then none
          else (mantissa true cs).map fun (n, r) => (n + 1, r)
        | none => some (1, true, false)
    else if c = 'e' || c = 'E' then some (1, point, true)
    else some (0, point, false)

/-- What follows an exponent mark: its length if it has digits. A second sign before any digit
spoils the exponent. -/
def exponent (sign digits : Bool) : List Char → Option Nat
  | [] => if digits then some 0 else none
  | c :: cs =>
    if c = '+' || c = '-' then
      if digits then some 0
      else if sign then none
      else (exponent true digits cs).map (· + 1)
    else if c.isDigit then (exponent sign true cs).map (· + 1)
    else if c = '_' then (exponent sign digits cs).map (· + 1)
    else if digits then some 0 else none

/-- Length of the digits of a number with a point or an exponent. -/
def fractionDigits : List Char → Option Nat
  | c :: cs =>
    if c.isDigit then do
      let (n, point, marked) ← mantissa false cs
      if marked then
        match exponent false false (cs.drop n) with
        | some m => some (1 + n + m)
        -- Without digits the exponent mark starts a suffix.
        | none => if point then some n else none
      else if point then some (1 + n) else none
    else none
  | [] => none

/-- Digits of a whole number to the base; underscores may stand between them. Digits past the base
are malformed below ten and end the number above. -/
def baseDigits (base : Nat) (seen : Bool) : List Char → Option Nat
  | [] => if seen then some 0 else none
  | c :: cs =>
    if c.isDigit then
      if base ≤ c.toNat - 48 then none else (baseDigits base true cs).map (· + 1)
    else if c = '_' then
      if !seen && base = 10 then none else (baseDigits base seen cs).map (· + 1)
    else
      match hexDigit? c with
      | some d =>
        -- A letter that is no digit to the base starts a suffix.
        if d < base then (baseDigits base true cs).map (· + 1)
        else if seen then some 0 else none
      | none => if seen then some 0 else none

/-- Length of the digits of a whole number, with its base mark. -/
def wholeDigits : List Char → Option Nat
  | '0' :: 'x' :: cs => (baseDigits 16 false cs).map (· + 2)
  | '0' :: 'o' :: cs => (baseDigits 8 false cs).map (· + 2)
  | '0' :: 'b' :: cs => (baseDigits 2 false cs).map (· + 2)
  | cs => baseDigits 10 false cs

/-- The length with that of a suffix added; no further identifier character may follow. -/
def wordEnd (cs : List Char) (n : Nat) : Option Nat :=
  let m := withSuffix cs n
  match (cs.drop m).head? with
  | some c => if isIdentifierPart c then none else some m
  | none => some m

/-- Length of a number. -/
def number (cs : List Char) : Option Nat :=
  ((fractionDigits cs).bind (wordEnd cs)).orElse fun _ => (wholeDigits cs).bind (wordEnd cs)

/-- Length of a literal of any kind. -/
def literal (cs : List Char) : Option Nat :=
  (string cs).orElse fun _ => (character cs).orElse fun _ => number cs

/-! ### Punctuation -/

/-- The punctuation characters. -/
def marks : List Char := "~!@#$%^&*-=+|;:,<.>/?'".toList

/-- Whether the text starts with a punctuation character that does not start a comment. -/
def startsMark : List Char → Bool
  | '/' :: '/' :: _ | '/' :: '*' :: _ => false
  | c :: _ => marks.contains c
  | [] => false

/-- Length of the name of a lifetime after its apostrophe. What follows may not make a character
literal or a prefixed literal of it. -/
def lifetimeName (cs : List Char) : Option Nat := do
  let n ← anyWord cs
  match (cs.drop n).head? with
  | some '\'' => none
  -- A hash sign may follow a raw lifetime only.
  | some '#' => if ['r', '#'].isPrefixOf cs then some n else none
  | _ => some n

/-! ### Blank space and comments -/

/-- Length of a block comment whose parts up to depth `depth` are open; comments nest. -/
def blockComment : Nat → List Char → Option Nat
  | depth, '/' :: '*' :: cs => (blockComment (depth + 1) cs).map (· + 2)
  | depth, '*' :: '/' :: cs =>
    if depth ≤ 1 then some 2 else (blockComment (depth - 1) cs).map (· + 2)
  | depth, _ :: cs => (blockComment depth cs).map (· + 1)
  | _, [] => none

/-- Length of the rest of the line, without its line feed. -/
def line : List Char → Nat
  | [] => 0
  | '\n' :: _ => 0
  | _ :: cs => line cs + 1

/-- Whether every carriage return is followed by a line feed. -/
def noBareReturn : List Char → Bool
  | [] => true
  | '\r' :: cs => cs.head? = some '\n' && noBareReturn cs
  | _ :: cs => noBareReturn cs

/-- The white space of source texts: that of Unicode and the two marks of writing direction. -/
def isSpace (c : Char) : Bool :=
  isBlank c || c = '\u200e' || c = '\u200f'

/-- Length of the space or comment, other than a documentation comment, at the head of the text. -/
def space : List Char → Option Nat
  | '/' :: '/' :: cs =>
    match cs with
    -- Four slashes or more make an ordinary comment.
    | '/' :: '/' :: _ => some (line cs + 2)
    | '/' :: _ | '!' :: _ => none
    | _ => some (line cs + 2)
  | '/' :: '*' :: cs =>
    match cs with
    | '*' :: '/' :: _ => some 4
    | '*' :: '*' :: _ => blockComment 0 ('/' :: '*' :: cs)
    | '*' :: _ | '!' :: _ => none
    | _ => blockComment 0 ('/' :: '*' :: cs)
  | c :: _ => if isSpace c then some 1 else none
  | [] => none

/-- Length of the documentation comment at the head of the text, and whether it documents what it
stands in rather than what follows. -/
def docComment (cs : List Char) : Option (Nat × Bool) :=
  let onLine (inner : Bool) : Option (Nat × Bool) :=
    let n := line cs
    if noBareReturn (cs.take (n + 1)) then some (n, inner) else none
  let inBlock (inner : Bool) : Option (Nat × Bool) := do
    let n ← blockComment 0 cs
    if noBareReturn (cs.take n) then some (n, inner) else none
  match cs with
  | '/' :: '/' :: '!' :: _ => onLine true
  | '/' :: '/' :: '/' :: rest => if rest.head? = some '/' then none else onLine false
  | '/' :: '*' :: '!' :: _ => inBlock true
  | '/' :: '*' :: '*' :: rest => if rest.head? = some '*' then none else inBlock false
  | _ => none

end CallReach.Source.Lexeme
