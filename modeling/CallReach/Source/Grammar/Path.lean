import CallReach.Source.Grammar.Goal

/-!
# Attributes, paths and bounds

Readers of attributes, of paths with their generic arguments, and of the bounds and parameters of
generic declarations.
-/

namespace CallReach.Source.Grammar

open Reader

/-! ### Paths without arguments, attributes -/

/-- A word that may be a segment of a path without arguments comes next. -/
def startsSegment (ts : List Token) : Bool :=
  Look.identifier ts || Look.pathKeyword ts || Look.word "Self" ts

/-- A path without arguments, by its segments. -/
def barePath : Reader (List Name) := do
  let _ ← mark? "::"
  let names ← repeating do
    if ← look startsSegment then
      let n ← anyWord
      return some (n, ← mark? "::")
    else refuse
  return names

/-- Number of tokens of the literal that comes next. -/
def literalLength : List Token → Nat
  | .mark .. :: _ => 2
  | _ => 1

/-- Takes a literal. -/
def literal : Reader Unit := do
  if ← look .literal then skip (literalLength (← get).tokens) else refuse

/-- The value of an attribute. -/
def attributeValue (g : Grammar) : Reader Forest := do
  let ts := (← get).tokens
  if Look.literal ts && (ts.drop (literalLength ts)).isEmpty then
    literal
    return []
  else if Look.mark "#" ts && Look.second (.group .square) ts then refuse
  else return (← g.expression).parts

/-- What stands in the brackets of an attribute. -/
def attributeBody (g : Grammar) : Reader Forest := do
  if ← look (.word "unsafe") then skip 1 else let _ ← barePath
  if ← look .anyGroup then
    let _ ← anyGroup
    return []
  else if ← mark? "=" then attributeValue g
  else return []

/-- One attribute. -/
def oneAttribute (g : Grammar) (inner : Bool) : Reader Attributes := do
  let p ← here
  mark "#"
  if inner then mark "!"
  let parts ← inGroup .square (attributeBody g)
  return { row := some p.row, parts }

/-- Attributes that follow one another, joined. -/
def joinAttributes (as : List Attributes) : Attributes :=
  as.foldl Attributes.append {}

/-- The attributes in front of something. -/
def outerAttributes (g : Grammar) : Reader Attributes := do
  return joinAttributes (← manyUntil (fun ts => !Look.mark "#" ts) (oneAttribute g false))

/-- The attributes at the start of a body, which belong to what the body belongs to. -/
def innerAttributes (g : Grammar) : Reader Attributes := do
  let none' : Look := fun ts => !(Look.mark "#" ts && Look.second (.mark "!") ts)
  return joinAttributes (← manyUntil none' (oneAttribute g true))

/-- A block in braces: its attributes and its statements. -/
def block (g : Grammar) : Reader (Attributes × Forest) :=
  inGroup .brace do
    let attributes ← innerAttributes g
    return (attributes, ← g.statements)

/-- A block in braces that has no attributes. -/
def plainBlock (g : Grammar) : Reader Forest :=
  inGroup .brace g.statements

/-! ### Paths with arguments -/

/-- A value given as a generic argument: a literal, a name or a block. -/
def constArgument (g : Grammar) : Reader Forest := do
  if ← look .literal then
    literal
    return []
  else if ← look .identifier then
    return [.mention [← identifier]]
  else if ← look (.group .brace) then
    let (attributes, parts) ← block g
    return attributes.parts ++ parts
  else refuse

/-- Whether generic parameters come next rather than a qualified path. -/
def startsGenerics (ts : List Token) : Bool :=
  Look.mark "<" ts &&
    (Look.second (.mark ">") ts || Look.second (.mark "#") ts ||
      ((Look.second .lifetime ts || Look.second .identifier ts) &&
        (Look.third (.mark ">") ts || Look.third (.mark ",") ts ||
          (Look.third (.mark ":") ts && !Look.third (.mark "::") ts) ||
          Look.third (.mark "=") ts)) ||
      Look.second (.word "const") ts)

/-- The return type after an arrow, if there is one. -/
def returnType (g : Grammar) (plus : Bool) : Reader Forest := do
  if ← mark? "->" then return (← g.read (.type plus)).parts else return []

/-- Generic arguments in round brackets, with a return type. -/
def roundArguments (g : Grammar) : Reader Forest := do
  let inputs ← inGroup .paren (commaSeparated g.type)
  let output ← returnType g false
  return inputs.flatMap (·.parts) ++ output

/-- Whether round arguments come next, possibly after `::`. -/
def startsRound (ts : List Token) : Bool :=
  Look.group .paren ts || (Look.mark "::" ts && Look.third (.group .paren) ts)

/-- A parameter captured by `use<…>`, which is a lifetime or a name. -/
def capturedParameter : Reader Unit := do
  if ← look .lifetime then skip 1
  else if ← look (.word "Self") then skip 1
  else let _ ← identifier

/-- The parameters captured by `use<…>`. -/
def captures : Reader Unit := do
  keyword "use"
  mark "<"
  let _ ← repeating do
    if ← look (.mark ">") then return none
    capturedParameter
    if ← look (.mark ">") then return some ((), false)
    mark ","
    return some ((), true)
  mark ">"

/-- One generic argument in angle brackets. -/
def genericArgument (g : Grammar) : Reader Forest := do
  let ts := (← get).tokens
  if Look.lifetime ts && !Look.second (.mark "+") ts then
    skip 1
    return []
  else if Look.literal ts || Look.group .brace ts then constArgument g
  else
    let argument ← g.type
    if argument.shape ≠ .path true then return argument.parts
    else if ← mark? "=" then
      if (← look .literal) || (← look (.group .brace)) then
        return argument.parts ++ (← constArgument g)
      else return argument.parts ++ (← g.type).parts
    else if ← mark? ":" then
      let done : Look := fun ts => Look.mark "," ts || Look.mark ">" ts
      let bounds ← chained done "+" (g.read (.bound false true))
      return argument.parts ++ bounds.flatMap (·.2)
    else return argument.parts

/-- Generic arguments in angle brackets, possibly after `::`. -/
def angleArguments (g : Grammar) : Reader (Arguments × Forest) := do
  let _ ← mark? "::"
  mark "<"
  let arguments ← separated (.mark ">") "," (genericArgument g)
  mark ">"
  return (.angle arguments.isEmpty, arguments.flatten)

/-- A segment of a path. In an expression, arguments need a leading `::`. -/
def segment (g : Grammar) (inExpression : Bool) : Reader Segment := do
  if (← look .pathKeyword) || (← look (.word "try")) then
    return { name := ← anyWord }
  let name ← if ← look (.word "Self") then anyWord else identifier
  let ts := (← get).tokens
  if !inExpression && Look.mark "<" ts && !Look.mark "<=" ts && !Look.mark "<<=" ts ||
      Look.mark "::" ts && Look.third (.mark "<") ts then
    let (arguments, parts) ← angleArguments g
    return { name, arguments, parts }
  else return { name }

/-- The further segments of a path. -/
def moreSegments (g : Grammar) (inExpression : Bool) : Reader (List Segment) :=
  manyUntil (fun ts => !(Look.mark "::" ts && !Look.third (.group .paren) ts)) do
    mark "::"
    segment g inExpression

/-- A path that is not qualified. -/
def path (g : Grammar) (inExpression : Bool) : Reader PathTree := do
  let absolute ← mark? "::"
  let first ← segment g inExpression
  let rest ← moreSegments g inExpression
  return { segments := first :: rest, absolute }

/-! ### Bounds and generic parameters -/

/-- One parameter of a generic declaration, which may be `_` where the caller allows it. -/
def genericParameter (g : Grammar) (placeholder : Bool) : Reader Forest := do
  let attributes ← outerAttributes g
  let done : Look := fun ts => Look.mark "," ts || Look.mark ">" ts
  if ← look .lifetime then
    skip 1
    if ← mark? ":" then
      let _ ← chained done "+" lifetime
    return attributes.parts
  else if ← look .identifier then
    skip 1
    let bounds ← if ← mark? ":" then
        chained (fun ts => done ts || Look.mark "=" ts) "+" (g.read (.bound false true))
      else pure []
    let default ← if ← mark? "=" then pure (← g.type).parts else pure []
    return attributes.parts ++ bounds.flatMap (·.2) ++ default
  else if ← keyword? "const" then
    let _ ← identifier
    mark ":"
    let type ← g.type
    let default ← if ← mark? "=" then constArgument g else pure []
    return attributes.parts ++ type.parts ++ default
  else if placeholder && (← look (.word "_")) then
    skip 1
    return attributes.parts
  else refuse

/-- The parameters bound by `for<…>`. -/
def boundLifetimes (g : Grammar) : Reader Forest := do
  keyword "for"
  mark "<"
  let parameters ← separated (.mark ">") "," (genericParameter g false)
  mark ">"
  return parameters.flatten

/-- A trait as a bound, possibly with bound lifetimes, `const` or `?`. Bounds with `const` leave no
outline. -/
def traitBound (g : Grammar) (const : Bool) : Reader Forest := do
  let lifetimes ← if ← look (.word "for") then
      pure (some (← boundLifetimes g))
    else pure none
  let p ← here
  let isConst ← if ← look (.group .square) then
      inGroup .square (keyword "const")
      pure true
    else keyword? "const"
  if isConst && !const then refuseAt p
  if lifetimes.isSome && (← look (.mark "?")) then refuse
  let _ ← mark? "?"
  let path ← path g false
  let round ← if path.lastArguments.isEmpty && (← look startsRound) then
      let _ ← mark? "::"
      roundArguments g
    else pure []
  return if isConst then [] else lifetimes.getD [] ++ path.parts ++ round

/-- One bound. -/
def bound (g : Grammar) (capture const : Bool) : Reader (BoundKind × Forest) := do
  if ← look .lifetime then
    skip 1
    return (.lifetime, [])
  else if ← look (.word "use") then
    let p ← here
    captures
    if capture then return (.capture, []) else refuseAt p
  else if ← look (.group .paren) then
    return (.trait, ← inGroup .paren (traitBound g const))
  else return (.trait, ← traitBound g const)

end CallReach.Source.Grammar
