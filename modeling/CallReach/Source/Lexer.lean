import CallReach.Source.Lexeme

/-!
# From text to tokens

`tokens` reads a text into its forest of tokens. It fails where the text cannot be cut into lexemes,
where a bracket closes nothing or the wrong bracket, and, when the text ends too early, at the
innermost bracket that is still open. A documentation comment stands for the attribute that it
abbreviates.
-/

namespace CallReach.Source

namespace Position

/-- The place after a run of characters that starts at `p`. -/
def afterAll (p : Position) (cs : List Char) : Position :=
  cs.foldl after p

end Position

namespace Token

/-- The leaf at the head of the text, with its length. -/
def leaf (cs : List Char) (pos : Position) : Option (Nat × Token) :=
  match Lexeme.literal cs with
  | some n => some (n, .literal (String.ofList (cs.take n)) pos)
  | none =>
    if Lexeme.startsMark cs then
      match cs with
      | '\'' :: rest => do
        let n ← Lexeme.lifetimeName rest
        -- Behind the apostrophe a literal starts, so that it is a mark of its own.
        if (Lexeme.literal rest).isSome then some (1, .mark '\'' true pos)
        else some (n + 1, .lifetime pos)
      | c :: rest => some (1, .mark c (Lexeme.startsMark rest) pos)
      | [] => none
    else do
      let n ← Lexeme.word cs
      let name ← Name.ofChars? (cs.take n)
      some (n, .word name pos)

/-- The tokens of the attribute `#[doc = "…"]` or `#![doc = "…"]`, last one first. -/
def docAttribute (inner : Bool) (pos : Position) : List Token :=
  let body := [.word ⟨"doc", by decide, by decide⟩ pos, .mark '=' false pos, .literal "\"\"" pos]
  let bang := if inner then [.mark '!' false pos] else []
  .group .square pos pos body :: (bang ++ [.mark '#' false pos])

/-- A bracket that is open: its kind, its place and the tokens before it, last one first. -/
structure Open where
  bracket : Bracket
  pos : Position
  before : List Token

/-- What the head of a text gives: something to pass over, tokens to add, or a bracket. -/
inductive Step where
  | add (length : Nat) (reversed : List Token)
  | opens (b : Bracket)
  | closes (b : Bracket)

/-- Reads the head of a text that is not empty. -/
def step (cs : List Char) (pos : Position) : Option Step :=
  match Lexeme.space cs with
  | some n => some (.add n [])
  | none =>
    match Lexeme.docComment cs with
    | some (n, inner) => some (.add n (docAttribute inner pos))
    | none =>
      match cs.head?.bind Bracket.opening? with
      | some b => some (.opens b)
      | none =>
        match cs.head?.bind Bracket.closing? with
        | some b => some (.closes b)
        | none => (leaf cs pos).map fun (n, t) => .add n [t]

/-- Reads a text from `pos` on. `done` holds the tokens of the innermost open bracket, last one
first; at most `fuel` steps are taken. -/
def readFrom : Nat → List Char → Position → List Open → List Token → Except Position (List Token)
  | _, [], _, [], done => .ok done.reverse
  -- The text ends inside a bracket.
  | _, [], _, o :: _, _ => .error o.pos
  | 0, _ :: _, pos, _, _ => .error pos
  | fuel + 1, c :: cs, pos, opened, done =>
    match step (c :: cs) pos with
    | none => .error pos
    | some (.add n reversed) =>
      readFrom fuel ((c :: cs).drop n) (pos.afterAll ((c :: cs).take n)) opened (reversed ++ done)
    | some (.opens b) => readFrom fuel cs (pos.after c) (⟨b, pos, done⟩ :: opened) []
    | some (.closes b) =>
      match opened with
      | [] => .error pos
      | o :: outer =>
        if o.bracket = b then
          readFrom fuel cs (pos.after c) outer (.group b o.pos pos done.reverse :: o.before)
        else .error pos

end Token

/-- Drops space and comments from the head of a text. -/
def skipSpace : Nat → List Char → List Char
  | 0, cs => cs
  | fuel + 1, cs =>
    match Lexeme.space cs with
    | some n => skipSpace fuel (cs.drop n)
    | none => cs

/-- The text without a first line that names an interpreter, its line feed kept. A line that opens
an attribute is no such line. -/
def dropInterpreterLine (cs : List Char) : List Char :=
  match cs with
  | '#' :: '!' :: rest =>
    if (skipSpace rest.length rest).head? = some '[' then cs else cs.dropWhile (· ≠ '\n')
  | _ => cs

/-- The text without a byte order mark at its head. -/
def dropByteOrderMark : List Char → List Char
  | '\ufeff' :: cs => cs
  | cs => cs

/-- The tokens of a source text, or the place where it cannot be cut into balanced tokens. -/
def tokens (text : String) : Except Position (List Token) :=
  let cs := dropInterpreterLine (dropByteOrderMark text.toList)
  let body := dropByteOrderMark cs
  let start := if body.length < cs.length then Position.first.after '\ufeff' else Position.first
  Token.readFrom body.length body start [] []

end CallReach.Source
