import CallReach.Source.Grammar.Item

/-!
# Statements

Readers of statements and of the sequence of them in a block.
-/

namespace CallReach.Source.Grammar

open Reader

/-- Whether the last token taken between two states of the input is a group in braces. -/
def endsInBrace (before after : List Token) : Bool :=
  match before[before.length - after.length - 1]? with
  | some t => Look.group .brace [t]
  | none => false

/-- A declaration of variables. A block to leave by may follow a value that does not end in a
brace. -/
def letStatement (g : Grammar) : Reader Forest := do
  keyword "let"
  let pattern ← g.read .pattern
  let type ← if ← mark? ":" then pure (← g.type).parts else pure []
  let value ← if ← mark? "=" then
      let before := (← get).tokens
      let value ← g.expression
      let after := (← get).tokens
      if !endsInBrace before after && Look.word "else" after then
        skip 1
        pure (value.parts ++ (← plainBlock g))
      else pure value.parts
    else pure []
  mark ";"
  return pattern.parts ++ type ++ value

/-- Whether a function head, rather than a closure or block, follows `async`. -/
def followsAsync (ts : List Token) : Bool :=
  Look.word "unsafe" ts || Look.word "extern" ts || Look.word "fn" ts

/-- Whether an item, other than an invocation, comes next where a statement starts. -/
def startsItem (ts : List Token) : Bool :=
  let rest := ts.tail
  Look.word "pub" ts || (Look.word "crate" ts && !Look.mark "::" rest) || Look.word "extern" ts ||
    Look.word "use" ts ||
    (Look.word "static" ts && (Look.word "mut" rest || Look.identifier rest)) ||
    (Look.word "const" ts &&
      !(Look.group .brace rest || Look.word "static" rest ||
        (Look.word "async" rest && !followsAsync rest.tail) || Look.word "move" rest ||
        Look.mark "|" rest)) ||
    (Look.word "unsafe" ts && !Look.group .brace rest) ||
    (Look.word "async" ts && followsAsync rest) || Look.word "fn" ts || Look.word "mod" ts ||
    Look.word "type" ts || Look.word "struct" ts || Look.word "enum" ts ||
    (Look.word "union" ts && Look.identifier rest) ||
    (Look.word "auto" ts && Look.word "trait" rest) || Look.word "trait" ts ||
    (Look.word "default" ts && (Look.word "unsafe" rest || Look.word "impl" rest)) ||
    Look.word "impl" ts || Look.word "macro" ts

/-- The tokens after a path without arguments, if one comes next. -/
def afterBarePath (s : Input) : Option (List Token) :=
  match barePath s with
  | .ok (_, t) => some t.tokens
  | .error _ => none

/-- Whether an invocation with a name comes next. -/
def startsNamedInvocation (s : Input) : Bool :=
  match afterBarePath s with
  | some ts => Look.mark "!" ts && (Look.identifier ts.tail || Look.word "try" ts.tail)
  | none => false

/-- Whether an invocation with braces comes next that is not the receiver of a longer expression. -/
def startsBraceInvocation (s : Input) : Bool :=
  match afterBarePath s with
  | some ts =>
    let rest := ts.tail.tail
    Look.mark "!" ts && Look.group .brace ts.tail &&
      !((Look.mark "." rest && !Look.mark ".." rest) || Look.mark "?" rest)
  | none => false

/-- An expression as a statement, and whether only the end of the block may follow it. -/
def expressionStatement (g : Grammar) (attributes : Attributes) : Reader (Forest × Bool) := do
  let e ← g.read .leading
  let e := e.withAttributes attributes
  if ← mark? ";" then return (e.parts, false)
  else return (e.parts, e.form ≠ .block && e.form ≠ .invocation true)

/-- A statement, and whether only the end of the block may follow it. -/
def statement (g : Grammar) : Reader (Forest × Bool) := do
  let attributes ← outerAttributes g
  let s ← get
  if startsBraceInvocation s then
    let _ ← barePath
    mark "!"
    let (_, parts) ← g.invocation
    let _ ← mark? ";"
    return (attributes.parts ++ parts, false)
  else if Look.word "let" s.tokens then
    return (attributes.parts ++ (← letStatement g), false)
  else if startsItem s.tokens || startsNamedInvocation s then
    return ((← itemAfter g attributes).parts, false)
  else expressionStatement g attributes

/-- The statements up to the end of the tokens. -/
def statementsForm (g : Grammar) : Reader Forest := do
  let all ← repeating do
    let _ ← manyUntil (fun ts => !Look.mark ";" ts) (mark ";")
    if ← look .none then return none
    let (parts, last) ← statement g
    if ← look .none then return some (parts, false)
    if last then refuse
    return some (parts, true)
  return all.flatten

end CallReach.Source.Grammar
