/-!
# Tokens of a source text

A source text is read as a forest of tokens: leaves, and groups in matching brackets. Every token
carries the position of its first character, and a group also that of its closing bracket.
-/

namespace CallReach.Source

/-- A place in a text: the row, counted from 0, and the column in characters, counted from 1. -/
structure Position where
  row : Nat
  column : Nat
  deriving DecidableEq, Repr

namespace Position

/-- The first place of a text. -/
def first : Position := ⟨0, 1⟩

/-- The place after a character that stands at `p`. -/
def after (p : Position) (c : Char) : Position :=
  if c = '\n' then ⟨p.row + 1, 1⟩ else ⟨p.row, p.column + 1⟩

/-- The line of a place. Lines are rows counted from 1. -/
def line (p : Position) : Nat := p.row + 1

end Position

/-- An identifier or keyword as written. It never holds the character `$`, which the names of
closures use as separator, nor a colon, of which the separator of paths is made. -/
structure Name where
  text : String
  unmarked : '$' ∉ text.toList
  undivided : ':' ∉ text.toList
  deriving DecidableEq

namespace Name

/-- The name with the given characters, unless `$` or a colon is among them. -/
def ofChars? (cs : List Char) : Option Name :=
  if h : '$' ∉ cs ∧ ':' ∉ cs then
    some ⟨String.ofList cs, by simpa using h.1, by simpa using h.2⟩
  else none

end Name

/-- The three kinds of brackets. -/
inductive Bracket where
  | paren
  | square
  | brace
  deriving DecidableEq, Repr

namespace Bracket

/-- The kind that the character opens. -/
def opening? : Char → Option Bracket
  | '(' => some paren
  | '[' => some square
  | '{' => some brace
  | _ => none

/-- The kind that the character closes. -/
def closing? : Char → Option Bracket
  | ')' => some paren
  | ']' => some square
  | '}' => some brace
  | _ => none

end Bracket

/-- A token. A mark is one punctuation character; it is `joint` when another one follows without a
gap, which is how operators of several characters are told from separate ones. -/
inductive Token where
  | word (name : Name) (pos : Position)
  | lifetime (pos : Position)
  | literal (text : String) (pos : Position)
  | mark (c : Char) (joint : Bool) (pos : Position)
  | group (b : Bracket) (pos : Position) (close : Position) (inside : List Token)

namespace Token

/-- The place where the token starts. -/
def pos : Token → Position
  | word _ p | lifetime p | literal _ p | mark _ _ p | group _ p _ _ => p

mutual

/-- The number of tokens in a token, groups included. -/
def count : Token → Nat
  | word .. | lifetime .. | literal .. | mark .. => 1
  | group _ _ _ inside => 1 + countAll inside

/-- The number of tokens in a list of tokens, those in groups included. -/
def countAll : List Token → Nat
  | [] => 0
  | t :: ts => t.count + countAll ts

end

end Token

end CallReach.Source
