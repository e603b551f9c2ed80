import CallReach.Source.Grammar.Pattern

/-!
# Expressions

Readers of expressions: atoms, what may trail an atom, prefix operators, and infix operators by
precedence.
-/

namespace CallReach.Source.Grammar

open Reader

/-! ### Infix operators -/

/-- The infix operators that build values, longer ones before their beginnings, with their
precedences. -/
def operators : List (String × Precedence) :=
  [("+=", .assign), ("-=", .assign), ("*=", .assign), ("/=", .assign), ("%=", .assign),
   ("^=", .assign), ("&=", .assign), ("|=", .assign), ("<<=", .assign), (">>=", .assign),
   ("&&", .and), ("||", .or), ("<<", .shift), (">>", .shift), ("==", .compare), ("<=", .compare),
   ("!=", .compare), (">=", .compare), ("+", .sum), ("-", .sum), ("*", .product), ("/", .product),
   ("%", .product), ("^", .bitXor), ("&", .bitAnd), ("|", .bitOr), ("<", .compare), (">", .compare)]

/-- The infix operator that comes next. -/
def operator? (ts : List Token) : Option (String × Precedence) :=
  operators.find? fun (op, _) => Look.mark op ts

/-- An assignment comes next. -/
def startsAssign (ts : List Token) : Bool :=
  Look.mark "=" ts && !Look.mark "=>" ts

/-- The precedence of what comes next, the least one if it is no infix operator. -/
def nextPrecedence (ts : List Token) : Precedence :=
  match operator? ts with
  | some (_, p) => p
  | none =>
    if startsAssign ts then .assign
    else if Look.mark ".." ts then .range
    else if Look.word "as" ts then .cast
    else .least

/-- Extends the right operand of an operator by operators that bind tighter, at most `fuel`
times. -/
def extendRight (g : Grammar) (structs : Bool) (p : Precedence) :
    Nat → Expression → Reader Expression
  | 0, e => return e
  | fuel + 1, e => do
    let ts := (← get).tokens
    let next := nextPrecedence ts
    -- Assignments group to the right, so an operand takes up another assignment.
    if next > p || next = p && p = .assign then
      let e ← g.read (.operation e structs next)
      -- Without progress the operand is complete.
      if (← get).tokens.length = ts.length then return e else extendRight g structs p fuel e
    else return e

/-- The right operand of an operator. -/
def rightOperand (g : Grammar) (structs : Bool) (p : Precedence) : Reader Expression := do
  let e ← g.read (.operand structs)
  extendRight g structs p ((← get).tokens.length + 1) e

/-- Whether a range without upper bound ends here. -/
def endsOpenRange (structs : Bool) (ts : List Token) : Bool :=
  ts.isEmpty || (Look.mark "." ts && !Look.mark ".." ts) || (!structs && Look.group .brace ts) ||
    Look.word "as" ts ||
    [",", ";", "?", "=>", "=", "+", "/", "%", "^", ">", "<=", "!=", "-=", "*=", "&=", "|=",
     "<<="].any
      fun m => Look.mark m ts

/-- The dots of a range and its upper bound. -/
def rangeEnd (g : Grammar) (structs : Bool) : Reader Forest := do
  if ← look (.mark "...") then refuse
  let closed ← rangeDots
  if !closed && (← look (endsOpenRange structs)) then return []
  else return (← rightOperand g structs .range).parts

/-- Whether something follows a cast that would have to be applied to its type. -/
def followsCast (ts : List Token) : Bool :=
  (Look.mark "." ts && !Look.mark ".." ts) || Look.mark "?" ts || Look.group .square ts ||
    Look.group .paren ts

/-- Joins operators of at least the precedence `base` to a left operand, at most `fuel` of them. -/
def operationLoop (g : Grammar) (structs : Bool) (base : Precedence) :
    Nat → Expression → Reader Expression
  | 0, e => return e
  | fuel + 1, e => do
    let ts := (← get).tokens
    -- A range is never the left operand of an operator.
    if e.form = .range then return e
    match operator? ts with
    | some (op, p) =>
      if p < base then return e
      -- Comparisons cannot be chained.
      if p = .compare && e.form = .comparison then refuse
      mark op
      let right ← rightOperand g structs p
      let form := if p = .compare then .comparison else .operation
      operationLoop g structs base fuel { form, lead := e.lead, parts := e.parts ++ right.parts }
    | none =>
      if .assign ≥ base && startsAssign ts then
        mark "="
        let right ← rightOperand g structs .assign
        operationLoop g structs base fuel
          { form := .operation, lead := e.lead, parts := e.parts ++ right.parts }
      else if .range ≥ base && Look.mark ".." ts then
        let stop ← rangeEnd g structs
        return { form := .range, parts := e.parts ++ stop }
      else if .cast ≥ base && Look.word "as" ts then
        skip 1
        let type ← g.read (.type false)
        if ← look followsCast then refuse
        operationLoop g structs base fuel
          { form := .operation, lead := e.lead, parts := e.parts ++ type.parts }
      else return e

/-- A left operand with the operators that follow it. -/
def operationForm (g : Grammar) (left : Expression) (structs : Bool) (base : Precedence) :
    Reader Expression := do
  operationLoop g structs base ((← get).tokens.length + 1) left

/-- An expression. -/
def expressionForm (g : Grammar) (structs : Bool) : Reader Expression := do
  let left ← g.read (.operand structs)
  g.read (.operation left structs .least)

/-! ### Atoms -/

/-- Comma-separated expressions. -/
def expressions (g : Grammar) : Reader Forest := do
  return (← commaSeparated g.expression).flatMap (·.parts)

/-- Whether an expression comes next. -/
def startsExpression (ts : List Token) : Bool :=
  (Look.anyWord ts && !Look.word "as" ts) || Look.anyGroup ts || Look.literal ts ||
    (Look.mark "!" ts && !Look.mark "!=" ts) ||
    (Look.mark "-" ts && !Look.mark "-=" ts && !Look.mark "->" ts) ||
    (Look.mark "*" ts && !Look.mark "*=" ts) || (Look.mark "|" ts && !Look.mark "|=" ts) ||
    (Look.mark "&" ts && !Look.mark "&=" ts) || Look.mark ".." ts ||
    (Look.mark "<" ts && !Look.mark "<=" ts && !Look.mark "<<=" ts) || Look.mark "::" ts ||
    Look.lifetime ts || Look.mark "#" ts

/-- An expression if one comes next. -/
def expression? (g : Grammar) : Reader Forest := do
  if ← look startsExpression then return (← g.expression).parts else return []

/-- A parameter of a closure. -/
def closureParameter (g : Grammar) : Reader Forest := do
  let attributes ← outerAttributes g
  let pattern ← g.read .pattern
  if ← mark? ":" then return attributes.parts ++ pattern.parts ++ (← g.type).parts
  -- Without a type the attributes are those of the pattern.
  match pattern.shape with
  | .dropped => return []
  | _ => return attributes.parts ++ pattern.parts

/-- A closure. -/
def closure (g : Grammar) (structs : Bool) : Reader Expression := do
  let start ← here
  let lifetimes ← if ← look (.word "for") then boundLifetimes g else pure []
  let _ ← keyword? "const"
  let _ ← keyword? "static"
  let _ ← keyword? "async"
  let _ ← keyword? "move"
  mark "|"
  let parameters ← separated (.mark "|") "," (closureParameter g)
  mark "|"
  let body ← if ← mark? "->" then
      let type ← g.type
      pure (type.parts ++ (← plainBlock g))
    else pure (← g.read (.expression structs)).parts
  let inside := lifetimes ++ parameters.flatten ++ body
  return { form := .closure, parts := [.closure start.row inside] }

/-- A field of a structure expression. A field without value is given by the variable of its
name. -/
def fieldValue (g : Grammar) : Reader Forest := do
  let attributes ← outerAttributes g
  let ts := (← get).tokens
  let named ← member
  -- A field that is named by a number needs a value.
  if !named || (← look (.mark ":")) then
    mark ":"
    return attributes.parts ++ (← g.expression).parts
  else match ts with
    | .word n _ :: _ => return attributes.parts ++ [.mention [n]]
    | _ => return attributes.parts

/-- The fields of a structure expression, of which the last may be the structure to take the rest
from. -/
def fieldValues (g : Grammar) : Reader Forest := do
  let fields ← repeating do
    if ← look .none then return none
    if ← mark? ".." then
      if ← look .none then return some ([], false)
      else return some ((← g.expression).parts, false)
    let parts ← fieldValue g
    if ← look .none then return some (parts, false)
    mark ","
    return some (parts, true)
  return fields.flatten

/-- A path as a value, the invocation of a macro, or a structure expression. -/
def pathExpression (g : Grammar) (structs : Bool) : Reader Expression := do
  let p ← qualifiedPath g true
  let ts := (← get).tokens
  if !p.qualified && p.isBare && Look.mark "!" ts && !Look.mark "!=" ts then
    mark "!"
    let (bracket, parts) ← g.invocation
    return { form := .invocation (bracket = .brace), parts }
  -- In a condition a brace after a path opens the block and no structure.
  else if structs && Look.group .brace ts then
    return { parts := p.parts ++ (← inGroup .brace (fieldValues g)) }
  else return { parts := mentionOf p }

/-- A block expression of the form of a statement. -/
def blockExpression (g : Grammar) : Reader Expression := do
  let (attributes, parts) ← block g
  return { form := .block, parts := attributes.parts ++ parts }

/-- A conditional expression. -/
def conditional (g : Grammar) : Reader Expression := do
  let branches ← repeating do
    keyword "if"
    let condition ← g.read (.expression false)
    let body ← plainBlock g
    let parts := condition.parts ++ body
    if ← keyword? "else" then
      if ← look (.word "if") then return some (parts, true)
      else return some (parts ++ (← plainBlock g), false)
    else return some (parts, false)
  return { form := .block, parts := branches.flatten }

/-- A loop with a condition. -/
def whileLoop (g : Grammar) : Reader Expression := do
  keyword "while"
  let condition ← g.read (.expression false)
  let (attributes, body) ← block g
  return { form := .block, parts := attributes.parts ++ condition.parts ++ body }

/-- A loop over the elements of a sequence. -/
def forLoop (g : Grammar) : Reader Expression := do
  keyword "for"
  let pattern ← alternatives g
  keyword "in"
  let sequence ← g.read (.expression false)
  let (attributes, body) ← block g
  return { form := .block, parts := attributes.parts ++ pattern.parts ++ sequence.parts ++ body }

/-- A loop without condition. -/
def plainLoop (g : Grammar) : Reader Expression := do
  keyword "loop"
  blockExpression g

/-- Takes the numbers of nested fields that a literal with a point stands for, and tells whether the
literal ends with a point, so that a further field follows. -/
def fieldNumbers? : Reader (Option Bool) := do
  match (← get).tokens with
  | .literal text _ :: _ =>
    let isNumber := (text.toList.head?.map Char.isDigit).getD false
    if isNumber && text.contains '.' then
      let parts := Text.cutAt '.' text.toList |>.map String.ofList
      let trailing := text.endsWith "."
      if (if trailing then parts.dropLast else parts).all isFieldNumber then
        skip 1
        return some trailing
      else refuse
    else return none
  | _ => return none

/-- A field, a method call or `await` after a point. -/
def selection (g : Grammar) (e : Expression) : Reader Expression := do
  if ← keyword? "await" then return { parts := e.parts }
  match (← get).tokens with
  | .literal _ _ :: _ =>
    let _ ← member
    return { parts := e.parts }
  | _ =>
    let name ← identifier
    let called ← look (.mark "::")
    let arguments ← if called then pure (← angleArguments g).2 else pure []
    if called || (← look (.group .paren)) then
      let values ← inGroup .paren (expressions g)
      return { parts := .method name :: e.parts ++ arguments ++ values }
    else return { parts := e.parts }

/-- What may follow an atom: calls, fields, method calls, indices and `?`; at most `fuel` of
them. -/
def trailers (g : Grammar) : Nat → Expression → Reader Expression
  | 0, e => return e
  | fuel + 1, e => do
    let ts := (← get).tokens
    if Look.group .paren ts then
      let arguments ← inGroup .paren (expressions g)
      trailers g fuel { parts := e.parts ++ arguments }
    else if Look.mark "." ts && !Look.mark ".." ts && e.form ≠ .range then
      skip 1
      match ← fieldNumbers? with
      -- Two fields such as `.0.1` were read as one number.
      | some false => trailers g fuel { parts := e.parts }
      | _ => trailers g fuel (← selection g e)
    else if Look.group .square ts then
      let index ← inGroup .square g.expression
      trailers g fuel { parts := e.parts ++ index.parts }
    else if Look.mark "?" ts && e.form ≠ .range then
      skip 1
      trailers g fuel { parts := e.parts }
    else return e

/-- An atom with what follows it. -/
def trailing (g : Grammar) (e : Expression) : Reader Expression := do
  trailers g ((← get).tokens.length + 1) e

/-- A loop or block with a label. -/
def labelled (g : Grammar) : Reader Expression := do
  lifetime
  mark ":"
  let ts := (← get).tokens
  if Look.word "while" ts then whileLoop g
  else if Look.word "for" ts then forLoop g
  else if Look.word "loop" ts then plainLoop g
  else if Look.group .brace ts then blockExpression g
  else refuse

/-- Whether generic parameters follow the next word. -/
def bindsLifetimes (ts : List Token) : Bool :=
  Look.word "for" ts && startsGenerics ts.tail

/-- An arm of a `match`. A comma follows it unless it is the last one or its body has block form. -/
def arm (g : Grammar) : Reader Forest := do
  let attributes ← outerAttributes g
  let pattern ← alternatives g
  let guard ← if ← keyword? "if" then pure (← g.expression).parts else pure []
  mark "=>"
  let body ← g.read .leading
  -- A body of block form ends the arm by itself.
  if body.form ≠ .block && !(← look .none) then mark "," else let _ ← mark? ","
  return attributes.parts ++ pattern.parts ++ guard ++ body.parts

/-- A `match`. -/
def selectionByPattern (g : Grammar) : Reader Expression := do
  keyword "match"
  let subject ← g.read (.expression false)
  let (attributes, arms) ← inGroup .brace do
    let attributes ← innerAttributes g
    return (attributes, ← manyUntil .none (arm g))
  return { form := .block, parts := attributes.parts ++ subject.parts ++ arms.flatten }

/-- Leaves a loop or block. A label in front of a loop or block that is the value would be taken for
the label to leave, so it must stand in brackets. -/
def breakExpression (g : Grammar) (structs : Bool) : Reader Expression := do
  keyword "break"
  let start ← here
  let ts := (← get).tokens
  if Look.lifetime ts && Look.second (.mark ":") ts then
    let _ ← g.expression
    refuseAt start
  lifetime?
  if structs || !(← look (.group .brace)) then return { parts := ← expression? g } else return {}

/-- Elements in square brackets, or one element repeated. -/
def arrayExpression (g : Grammar) : Reader Forest := do
  if ← look .none then return []
  let first ← g.expression
  if ← look .none then return first.parts
  else if ← mark? "," then return first.parts ++ (← expressions g)
  else if ← mark? ";" then return first.parts ++ (← g.expression).parts
  else refuse

/-- A pattern with a value to match, as a condition. -/
def letCondition (g : Grammar) (structs : Bool) : Reader Expression := do
  keyword "let"
  let pattern ← alternatives g
  mark "="
  let left ← g.read (.operand structs)
  let value ← g.read (.operation left structs .compare)
  return { parts := pattern.parts ++ value.parts }

/-- Whether a closure comes next. -/
def startsClosure (ts : List Token) : Bool :=
  Look.mark "|" ts || Look.word "move" ts || bindsLifetimes ts ||
    (Look.word "const" ts && !Look.second (.group .brace) ts) || Look.word "static" ts ||
    (Look.word "async" ts && (Look.second (.mark "|") ts || Look.second (.word "move") ts))

/-- Whether a path comes next. -/
def startsPath (ts : List Token) : Bool :=
  Look.identifier ts || Look.mark "::" ts || Look.mark "<" ts || Look.pathKeyword ts ||
    Look.word "Self" ts ||
    (Look.word "try" ts && (Look.second (.mark "!") ts || Look.second (.mark "::") ts))

/-- Whether a block that is evaluated later comes next. -/
def startsAsync (ts : List Token) : Bool :=
  Look.word "async" ts && (Look.second (.group .brace) ts ||
    Look.second (.word "move") ts && Look.third (.group .brace) ts)

/-- An expression without operators and trailing parts. -/
def atom (g : Grammar) (structs : Bool) : Reader Expression := do
  let ts := (← get).tokens
  if Look.literal ts then
    literal
    return {}
  else if startsAsync ts then
    keyword "async"
    let _ ← keyword? "move"
    return { parts := ← plainBlock g }
  else if Look.word "try" ts && Look.second (.group .brace) ts then
    skip 1
    return { form := .block, parts := ← plainBlock g }
  else if startsClosure ts then closure g structs
  else if Look.word "builtin" ts && Look.second (.mark "#") ts then
    skip 1
    mark "#"
    let _ ← identifier
    if ← look (.group .paren) then skip 1 else refuse
    return { form := .dropped }
  else if startsPath ts then pathExpression g structs
  else if Look.group .paren ts then return { parts := ← inGroup .paren (expressions g) }
  else if Look.word "break" ts then breakExpression g structs
  else if ← keyword? "continue" then
    lifetime?
    return {}
  else if ← keyword? "return" then return { parts := ← expression? g }
  else if ← keyword? "become" then
    let _ ← g.expression
    return { form := .dropped }
  else if Look.group .square ts then return { parts := ← inGroup .square (arrayExpression g) }
  else if Look.word "let" ts then letCondition g structs
  else if Look.word "if" ts then conditional g
  else if Look.word "while" ts then whileLoop g
  else if Look.word "for" ts then forLoop g
  else if Look.word "loop" ts then plainLoop g
  else if Look.word "match" ts then selectionByPattern g
  else if ← keyword? "yield" then return { parts := ← expression? g }
  else if ← keyword? "unsafe" then blockExpression g
  else if ← keyword? "const" then blockExpression g
  else if Look.group .brace ts then blockExpression g
  else if Look.mark ".." ts then return { form := .range, parts := ← rangeEnd g structs }
  else if ← keyword? "_" then return {}
  else if Look.lifetime ts then labelled g
  else refuse

/-! ### Prefix operators and leading expressions -/

/-- An expression without infix operators. Attributes may stand in front, but not before a range
that starts with its dots. -/
def operandForm (g : Grammar) (structs : Bool) : Reader Expression := do
  let attributes ← outerAttributes g
  let ts := (← get).tokens
  if Look.mark "&" ts then
    skip 1
    let ts := (← get).tokens
    if Look.word "raw" ts && (Look.second (.word "mut") ts || Look.second (.word "const") ts) then
      skip 2
    else let _ ← keyword? "mut"
    let e ← g.read (.operand structs)
    return { parts := attributes.parts ++ e.parts }
  else if Look.mark "*" ts || Look.mark "!" ts || Look.mark "-" ts then
    skip 1
    let e ← g.read (.operand structs)
    return { parts := attributes.parts ++ e.parts }
  else
    let start ← here
    let e ← trailing g (← atom g structs)
    -- An attribute in front of dots would belong to nothing.
    if attributes.row.isSome && e.form = .range then refuseAt start
    return e.withAttributes attributes

/-- The expression of block form that comes next, if one does. -/
def blockLike? (g : Grammar) : Reader (Option Expression) := do
  let ts := (← get).tokens
  if Look.word "if" ts then return some (← conditional g)
  else if Look.word "while" ts then return some (← whileLoop g)
  else if Look.word "for" ts && !bindsLifetimes ts then return some (← forLoop g)
  else if Look.word "loop" ts then return some (← plainLoop g)
  else if Look.word "match" ts then return some (← selectionByPattern g)
  else if Look.word "try" ts && Look.second (.group .brace) ts then
    skip 1
    return some { form := .block, parts := ← plainBlock g }
  else if ← keyword? "unsafe" then return some (← blockExpression g)
  else if Look.word "const" ts && Look.second (.group .brace) ts then
    skip 1
    return some (← blockExpression g)
  else if Look.group .brace ts then return some (← blockExpression g)
  else if Look.lifetime ts then return some (← labelled g)
  else return none

/-- An expression where a statement starts: one of block form ends there, unless a field, a method
call or `?` follows it. -/
def leadingForm (g : Grammar) : Reader Expression := do
  let attributes ← outerAttributes g
  match ← blockLike? g with
  | none =>
    let e ← g.read (.operand true)
    g.read (.operation (e.withAttributes attributes) true .least)
  | some e =>
    let ts := (← get).tokens
    if (Look.mark "." ts && !Look.mark ".." ts) || Look.mark "?" ts then
      let e ← trailing g e
      g.read (.operation (e.withAttributes attributes) true .least)
    else return e.withAttributes attributes

end CallReach.Source.Grammar
