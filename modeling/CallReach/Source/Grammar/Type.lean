import CallReach.Source.Grammar.Path

/-!
# Types and generic declarations

Readers of types, and of the generic parameters and `where` clauses of declarations.
-/

namespace CallReach.Source.Grammar

open Reader

/-- A path that may be qualified by a type in angle brackets. -/
def qualifiedPath (g : Grammar) (inExpression : Bool) : Reader PathTree := do
  if ← mark? "<" then
    let this ← g.type
    let trait ← if ← keyword? "as" then pure (some (← path g false)) else pure none
    mark ">"
    mark "::"
    let rest ← repeating do
      let s ← segment g inExpression
      return some (s, ← mark? "::")
    return { segments := (trait.map (·.segments)).getD [] ++ rest
             qualified := true
             typeParts := this.parts }
  else path g inExpression

/-- Round arguments after the path of a type, with further segments; at most `fuel` times. -/
def roundTail (g : Grammar) : Nat → PathTree → Reader PathTree
  | 0, p => return p
  | fuel + 1, p => do
    if p.lastArguments.isEmpty && (← look startsRound) then
      let _ ← mark? "::"
      let parts ← roundArguments g
      let p := p.withArguments .round parts
      let more ← moreSegments g false
      roundTail g fuel { p with segments := p.segments ++ more }
    else return p

/-- The path of a type. -/
def typePath (g : Grammar) : Reader PathTree := do
  let p ← qualifiedPath g false
  roundTail g ((← get).tokens.length + 1) p

/-- Whether a further bound may follow a `+`. -/
def startsBound (ts : List Token) : Bool :=
  Look.anyWord ts || Look.mark "::" ts || Look.mark "?" ts || Look.lifetime ts ||
    Look.group .paren ts || Look.group .square ts

/-- Bounds joined by `+`, of which the last one may be missing; also whether a `+` ends them. -/
def boundSum (g : Grammar) (plus capture const : Bool) :
    Reader (List (BoundKind × Forest) × Bool) := do
  let bounds ← repeating do
    let b ← g.read (.bound capture const)
    if plus && (← look (.mark "+")) then
      mark "+"
      let more ← look startsBound
      return some ((b, !more), more)
    else return some ((b, false), false)
  return (bounds.map (·.1), bounds.any (·.2))

/-- The bounds of a type that stands for any type with these bounds; a trait must be among them. -/
def typeBounds (g : Grammar) (start : Position) (plus capture const : Bool) :
    Reader (Forest × Bool) := do
  let (bounds, trailing) ← boundSum g plus capture const
  if bounds.any (·.1 = .trait) then
    return (bounds.flatMap (·.2), bounds.length = 1 && !trailing)
  else refuseAt start

/-- Bounds that each follow a `+`. -/
def addedBounds (g : Grammar) : Reader (List (BoundKind × Forest)) :=
  manyUntil (fun ts => !Look.mark "+" ts) do
    mark "+"
    g.read (.bound false false)

/-- What stands in the round brackets of a type. -/
inductive Bracketed where
  | tuple (parts : Forest)
  | optional (parts : Forest)
  | single (type : TypeTree)

/-- Reads what stands in the round brackets of a type. -/
def bracketedType (g : Grammar) : Reader Bracketed := do
  if ← look .none then return .tuple []
  else if ← look .lifetime then
    let (parts, _) ← typeBounds g (← here) true false false
    return .single { parts }
  else if ← look (.mark "?") then return .optional (← traitBound g false)
  else
    let first ← g.type
    if ← mark? "," then
      let rest ← commaSeparated g.type
      return .tuple (first.parts ++ rest.flatMap (·.parts))
    else return .single first

/-- A type in round brackets: a tuple, a type, or the first of several bounds. -/
def roundType (g : Grammar) (plus : Bool) : Reader TypeTree := do
  match ← inGroup .paren (bracketedType g) with
  | .tuple parts => return { parts }
  | .optional parts =>
    let more ← addedBounds g
    return { shape := .bounds more.isEmpty, parts := parts ++ more.flatMap (·.2) }
  | .single first =>
    let extensible := match first.shape with
      | .path _ => true
      | .bounds single => single
      | .other => false
    if plus && extensible && (← look (.mark "+")) then
      let more ← addedBounds g
      return { shape := .bounds false, parts := first.parts ++ more.flatMap (·.2) }
    else return { first with shape := .other }

/-- Takes the linkage of a function or block of declarations, if it is given. -/
def linkage? : Reader Bool := do
  if ← keyword? "extern" then
    match (← get).tokens with
    | .literal text _ :: _ =>
      if text.startsWith "\"" || text.startsWith "r" then skip 1
    | _ => pure ()
    return true
  else return false

/-- A parameter of a function type. -/
def functionTypeParameter (g : Grammar) (first : Bool) : Reader (Forest × Bool) := do
  let attributes ← outerAttributes g
  let ts := (← get).tokens
  let named := Look.identifier ts || Look.word "_" ts
  if Look.mark "..." ts || named && Look.second (.mark ":") ts && Look.third (.mark "...") ts then
    unless Look.mark "..." ts do
      skip 1
      mark ":"
    mark "..."
    let _ ← mark? ","
    return (attributes.parts, false)
  let mutable := first && Look.word "mut" ts && Look.second (.word "self") ts
  if mutable then skip 1
  let ts := (← get).tokens
  let named := Look.identifier ts || Look.word "_" ts || first && Look.word "self" ts
  if named && Look.second (.mark ":") ts && !Look.second (.mark "::") ts then
    skip 1
    mark ":"
    let type ← g.type
    return (attributes.parts ++ if mutable then [] else type.parts, true)
  else if mutable then
    keyword "self"
    return (attributes.parts, true)
  else return (attributes.parts ++ (← g.type).parts, true)

/-- The parameters of a function type. -/
def functionTypeParameters (g : Grammar) : Reader Forest := do
  let count := (← get).tokens.length
  let parameters ← repeating do
    if ← look .none then return none
    let (parts, more) ← functionTypeParameter g ((← get).tokens.length = count)
    if !more || (← look .none) then return some (parts, false)
    mark ","
    return some (parts, true)
  return parameters.flatten

/-- A function type. -/
def functionType (g : Grammar) : Reader Forest := do
  let _ ← keyword? "unsafe"
  let _ ← linkage?
  keyword "fn"
  let inputs ← inGroup .paren (functionTypeParameters g)
  let output ← returnType g false
  return inputs ++ output

/-- A path as a type, or as the first of several bounds. -/
def namedType (g : Grammar) (plus : Bool) (lifetimes : Option Forest) : Reader TypeTree := do
  let p ← typePath g
  let name := p.names.getLast?
  if p.qualified then return { name, parts := p.parts }
  else if p.isBare && (← look (.mark "!")) && !(← look (.mark "!=")) then
    mark "!"
    let (_, parts) ← g.invocation
    return { parts }
  else if lifetimes.isSome || plus && (← look (.mark "+")) then
    let more ← if plus then
        manyUntil (fun ts => !Look.mark "+" ts) do
          mark "+"
          if ← look startsBound then return (← g.read (.bound false false)).2 else return []
      else pure []
    return { shape := .bounds more.isEmpty, parts := lifetimes.getD [] ++ p.parts ++ more.flatten }
  else
    let simple := p.segments.length = 1 && !p.absolute && p.lastArguments ≠ .round
    return { shape := .path simple, name, parts := p.parts }

/-- Whether a type that binds lifetimes goes on. -/
def followsLifetimes (ts : List Token) : Bool :=
  Look.identifier ts || Look.word "fn" ts || Look.word "unsafe" ts || Look.word "extern" ts ||
    Look.pathKeyword ts || Look.word "Self" ts

/-- A type. -/
def typeForm (g : Grammar) (plus : Bool) : Reader TypeTree := do
  let lifetimes ← if ← look (.word "for") then
      let parts ← boundLifetimes g
      if ← look followsLifetimes then pure (some parts) else refuse
    else pure none
  let start ← here
  let ts := (← get).tokens
  if Look.group .paren ts then roundType g plus
  else if Look.word "fn" ts || Look.word "unsafe" ts || Look.word "extern" ts then
    return { parts := lifetimes.getD [] ++ (← functionType g) }
  else if Look.identifier ts || Look.pathKeyword ts || Look.word "Self" ts || Look.mark "::" ts ||
      Look.mark "<" ts then namedType g plus lifetimes
  else if ← keyword? "dyn" then
    let starred ← mark? "*"
    let (parts, _) ← typeBounds g start plus false false
    return { parts := if starred then [] else parts }
  else if Look.group .square ts then
    inGroup .square do
      let element ← g.type
      if ← mark? ";" then return { parts := element.parts ++ (← g.expression).parts }
      else return { parts := element.parts }
  else if ← mark? "*" then
    if (← look (.word "const")) || (← look (.word "mut")) then skip 1 else refuse
    return { parts := (← g.read (.type false)).parts }
  else if ← mark? "&" then
    lifetime?
    let _ ← keyword? "mut"
    let element ← g.read (.type false)
    return { name := element.name, parts := element.parts }
  else if ← mark? "!" then return {}
  else if ← keyword? "impl" then
    let (parts, _) ← typeBounds g start plus true true
    return { parts }
  else if ← keyword? "_" then return {}
  else if Look.lifetime ts then
    let (parts, single) ← typeBounds g start true false false
    return { shape := .bounds single, parts }
  else refuse

/-! ### Generic declarations -/

/-- The generic parameters of a declaration, if it has any. -/
def generics (g : Grammar) : Reader Forest := do
  if ← mark? "<" then
    let parameters ← separated (.mark ">") "," (genericParameter g true)
    mark ">"
    return parameters.flatten
  else return []

/-- What ends the bounds of a predicate. -/
def endsPredicate (ts : List Token) : Bool :=
  ts.isEmpty || Look.group .brace ts || Look.mark "," ts || Look.mark ";" ts ||
    (Look.mark ":" ts && !Look.mark "::" ts) || Look.mark "=" ts

/-- A predicate of a `where` clause. -/
def predicate (g : Grammar) : Reader Forest := do
  let ts := (← get).tokens
  if Look.lifetime ts && Look.second (.mark ":") ts then
    skip 1
    mark ":"
    let done : Look := fun ts => endsPredicate ts || Look.mark ":" ts
    let _ ← chained done "+" lifetime
    return []
  else
    let lifetimes ← if Look.word "for" ts then boundLifetimes g else pure []
    let subject ← g.type
    mark ":"
    let bounds ← chained endsPredicate "+" (g.read (.bound false true))
    return lifetimes ++ subject.parts ++ bounds.flatMap (·.2)

/-- The `where` clause of a declaration, if it has one. -/
def whereClause (g : Grammar) : Reader Forest := do
  if ← keyword? "where" then
    if ← look startsGenerics then refuse
    return (← chained endsPredicate "," (predicate g)).flatten
  else return []

/-- Takes the visibility of a declaration, if it is given. A group after `pub` belongs to it only if
it names a scope. -/
def visibility? : Reader Bool := do
  if ← keyword? "pub" then
    match (← get).tokens with
    | .group .paren _ _ inside :: _ =>
      if Look.word "in" inside then
        inGroup .paren do
          keyword "in"
          let _ ← barePath
      else if inside.length = 1 && Look.pathKeyword inside then skip 1
    | _ => pure ()
    return true
  else return false

end CallReach.Source.Grammar
