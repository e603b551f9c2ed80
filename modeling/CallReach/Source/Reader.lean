import CallReach.Source.Outline

/-!
# Readers of tokens

A reader consumes tokens from the front of a list. It fails at a place: at the first token that it
cannot take, or, when there are no more tokens, at the bracket that closes the list. Tokens that are
left over at the end of a group do not stop a reader; the first of them is remembered as stray, and
a text with a stray token is refused in the end.
-/

namespace CallReach.Source

/-- What is left to read. -/
structure Input where
  tokens : List Token
  /-- The place that stands for the end of the tokens. -/
  stop : Position
  /-- The first token that was left over in a group. -/
  stray : Option Position := none

/-- The place of the next token, or of the end. -/
def Input.pos (s : Input) : Position :=
  match s.tokens with
  | [] => s.stop
  | t :: _ => t.pos

/-- A reader of tokens. -/
abbrev Reader := StateT Input (Except Position)

/-- A test of what comes next; it consumes nothing. -/
abbrev Look := List Token → Bool

/-! ### Tests -/

namespace Look

/-- Nothing is left. -/
def none : Look := List.isEmpty

/-- The punctuation characters come next, without gaps. -/
def chars : List Char → Look
  | [], _ => true
  | [c], .mark d _ _ :: _ => c = d
  | c :: cs, .mark d joint _ :: ts => c = d && joint && chars cs ts
  | _, _ => false

/-- The operator comes next. A longer operator that starts with it counts as well. -/
def mark (s : String) : Look := chars s.toList

/-- The word comes next. -/
def word (s : String) : Look
  | .word n _ :: _ => n.text = s
  | _ => false

/-- Any word comes next. -/
def anyWord : Look
  | .word .. :: _ => true
  | _ => false

/-- Words that are no identifiers. -/
def reserved : List String :=
  ["_", "abstract", "as", "async", "await", "become", "box", "break", "const", "continue", "crate",
   "do", "dyn", "else", "enum", "extern", "false", "final", "fn", "for", "if", "impl", "in", "let",
   "loop", "macro", "match", "mod", "move", "mut", "override", "priv", "pub", "ref", "return",
   "Self", "self", "static", "struct", "super", "trait", "true", "try", "type", "typeof", "unsafe",
   "unsized", "use", "virtual", "where", "while", "yield"]

/-- An identifier comes next. -/
def identifier : Look
  | .word n _ :: _ => !reserved.contains n.text
  | _ => false

/-- One of the words that may start a path without being identifiers comes next. -/
def pathKeyword (ts : List Token) : Bool :=
  word "self" ts || word "super" ts || word "crate" ts

/-- A lifetime comes next. -/
def lifetime : Look
  | .lifetime _ :: _ => true
  | _ => false

/-- A group in the brackets comes next. -/
def group (b : Bracket) : Look
  | .group c _ _ _ :: _ => b = c
  | _ => false

/-- A group in any brackets comes next. -/
def anyGroup : Look
  | .group .. :: _ => true
  | _ => false

/-- A literal comes next: a literal token, a truth value or a negated number. -/
def literal : Look
  | .literal .. :: _ => true
  | .word n _ :: _ => n.text = "true" || n.text = "false"
  | .mark '-' _ _ :: .literal text _ :: _ => (text.toList.head?.map Char.isDigit).getD false
  | _ => false

/-- The test holds after one token. -/
def second (l : Look) : Look := fun ts => l ts.tail

/-- The test holds after two tokens. -/
def third (l : Look) : Look := fun ts => l ts.tail.tail

end Look

/-! ### Readers -/

namespace Reader

/-- Fails at the next token. -/
def refuse {α : Type} : Reader α := fun s => .error s.pos

/-- Fails at a given place. -/
def refuseAt {α : Type} (p : Position) : Reader α := fun _ => .error p

/-- Tests what comes next. -/
def look (l : Look) : Reader Bool := do
  return l (← get).tokens

/-- The place of the next token. -/
def here : Reader Position := do
  return (← get).pos

/-- Takes `n` tokens without looking at them. -/
def skip (n : Nat) : Reader Unit :=
  modify fun s => { s with tokens := s.tokens.drop n }

/-- Takes an operator. -/
def mark (m : String) : Reader Unit := do
  if ← look (.mark m) then skip m.length else refuse

/-- Takes an operator if it comes next. -/
def mark? (m : String) : Reader Bool := do
  let found ← look (.mark m)
  if found then skip m.length
  return found

/-- Takes a keyword. -/
def keyword (w : String) : Reader Unit := do
  if ← look (.word w) then skip 1 else refuse

/-- Takes a keyword if it comes next. -/
def keyword? (w : String) : Reader Bool := do
  let found ← look (.word w)
  if found then skip 1
  return found

/-- Takes any word, keywords included. -/
def anyWord : Reader Name := do
  match (← get).tokens with
  | .word n _ :: _ => skip 1; return n
  | _ => refuse

/-- Takes an identifier. -/
def identifier : Reader Name := do
  if ← look .identifier then anyWord else refuse

/-- Takes a lifetime. -/
def lifetime : Reader Unit := do
  if ← look .lifetime then skip 1 else refuse

/-- Takes a lifetime if it comes next. -/
def lifetime? : Reader Unit := do
  if ← look .lifetime then skip 1

/-- Runs a reader on the tokens of a group. -/
def inGroup {α : Type} (b : Bracket) (r : Reader α) : Reader α := fun s =>
  match s.tokens with
  | .group c _ close inside :: rest =>
    if b = c then
      match r { tokens := inside, stop := close, stray := s.stray } with
      | .error p => .error p
      | .ok (a, t) =>
        let stray := t.stray.orElse fun _ => t.tokens.head?.map Token.pos
        .ok (a, { s with tokens := rest, stray })
    else .error s.pos
  | _ => .error s.pos

/-- Takes a group in any brackets: its brackets, its closing place and its tokens. -/
def anyGroup : Reader (Bracket × Position × List Token) := do
  match (← get).tokens with
  | .group b _ close inside :: _ => skip 1; return (b, close, inside)
  | _ => refuse

/-- Runs a reader if it succeeds, and takes nothing if it fails. -/
def attempt {α : Type} (r : Reader α) : Reader (Option α) := fun s =>
  match r s with
  | .ok (a, t) => .ok (some a, t)
  | .error _ => .ok (none, s)

/-- Repeats a step that gives a result and tells whether to go on, at most `fuel` times. -/
def repeatUpTo {α : Type} (step : Reader (Option (α × Bool))) : Nat → Reader (List α)
  | 0 => return []
  | fuel + 1 => do
    match ← step with
    | none => return []
    | some (a, false) => return [a]
    | some (a, true) => return a :: (← repeatUpTo step fuel)

/-- Repeats a step until it gives no result or asks to stop. Every step takes a token, so the number
of tokens bounds their number. -/
def repeating {α : Type} (step : Reader (Option (α × Bool))) : Reader (List α) := do
  repeatUpTo step ((← get).tokens.length + 1)

/-- Repeats a reader until the test holds. -/
def manyUntil {α : Type} (done : Look) (item : Reader α) : Reader (List α) :=
  repeating do
    if ← look done then return none
    return some (← item, true)

/-- Items with separators between them, until the test holds; a last separator may follow. -/
def separated {α : Type} (done : Look) (sep : String) (item : Reader α) : Reader (List α) :=
  repeating do
    if ← look done then return none
    let a ← item
    if ← look done then return some (a, false)
    mark sep
    return some (a, true)

/-- Items for as long as separators follow, none if the test holds; the test may also hold after a
separator. -/
def chained {α : Type} (done : Look) (sep : String) (item : Reader α) : Reader (List α) :=
  repeating do
    if ← look done then return none
    let a ← item
    return some (a, ← mark? sep)

/-- Comma-separated items up to the end of the tokens. -/
def commaSeparated {α : Type} (item : Reader α) : Reader (List α) :=
  separated .none "," item

end Reader

end CallReach.Source
