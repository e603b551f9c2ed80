import CallReach.Source.Grammar.Type
import CallReach.Text.Blank

/-!
# Patterns

Readers of patterns. A path that stands as a whole pattern, or as a bound of a range, counts as a
mention like a path in an expression.
-/

namespace CallReach.Source.Grammar

open Reader

/-- The outlines of a path that stands as a value. -/
def mentionOf (p : PathTree) : Forest :=
  .mention p.names :: p.parts

/-- Whether a pattern starts with a path that is more than a single name. -/
def startsPathPattern (ts : List Token) : Bool :=
  Look.identifier ts &&
      (Look.second (.mark "::") ts || Look.second (.mark "!") ts ||
        Look.second (.group .brace) ts || Look.second (.group .paren) ts ||
        Look.second (.mark "..") ts) ||
    Look.word "self" ts && Look.second (.mark "::") ts ||
    Look.mark "::" ts || Look.mark "<" ts || Look.word "Self" ts || Look.word "super" ts ||
    Look.word "crate" ts

/-- Whether a pattern ends before the bound of a range. -/
def endsRange (ts : List Token) : Bool :=
  ts.isEmpty || Look.mark "|" ts || Look.mark "=" ts ||
    (Look.mark ":" ts && !Look.mark "::" ts) || Look.mark "," ts || Look.mark ";" ts ||
    Look.word "if" ts

/-- A bound of a range, if there is one. -/
def rangeBound (g : Grammar) : Reader (Option Forest) := do
  let ts := (← get).tokens
  if endsRange ts then return none
  else if Look.literal ts then
    literal
    return some []
  else if Look.identifier ts || Look.mark "::" ts || Look.mark "<" ts || Look.pathKeyword ts ||
      Look.word "Self" ts then
    return some (mentionOf (← qualifiedPath g true))
  else if ← keyword? "const" then
    let (attributes, parts) ← block g
    return some (attributes.parts ++ parts)
  else refuse

/-- Takes the dots of a range, and tells whether they need an upper bound. -/
def rangeDots : Reader Bool := do
  if ← mark? "..=" then return true
  else if ← mark? "..." then return true
  else
    mark ".."
    return false

/-- The rest of a range that starts with the given outlines. -/
def rangeAfter (g : Grammar) (start : Forest) : Reader PatternTree := do
  let p ← here
  let closed ← rangeDots
  match ← rangeBound g with
  | some stop => return { parts := start ++ stop }
  | none => if closed then refuse else return { shape := .halfRange p, parts := start }

/-- A pattern that starts with dots. -/
def dotsPattern (g : Grammar) : Reader PatternTree := do
  let p ← here
  let closed ← rangeDots
  match ← rangeBound g with
  | some parts => return { shape := .halfRange p, parts }
  | none => if closed then refuse else return { shape := .rest }

/-- Alternatives separated by `|`, possibly with a leading one. -/
def alternatives (g : Grammar) : Reader PatternTree := do
  let isOr : Look := fun ts => Look.mark "|" ts && !Look.mark "||" ts && !Look.mark "|=" ts
  let leading ← mark? "|"
  let first ← g.read .pattern
  if leading || (← look isOr) then
    let rest ← manyUntil (fun ts => !isOr ts) do
      mark "|"
      g.read .pattern
    return { parts := first.parts ++ rest.flatMap (·.parts) }
  else return first

/-- The value of an integer literal without suffix. -/
def integer? (text : String) : Option Nat :=
  let value (base : Nat) (cs : List Char) : Option Nat :=
    let digits := cs.filter (· ≠ '_')
    if digits.isEmpty then none
    else digits.foldlM (fun n c => do
      let d ← Text.hexDigit? c
      if d < base then some (n * base + d) else none) 0
  match text.toList with
  | '0' :: 'x' :: cs => value 16 cs
  | '0' :: 'o' :: cs => value 8 cs
  | '0' :: 'b' :: cs => value 2 cs
  | cs => if cs.head? = some '_' then none else value 10 cs

/-- Whether an integer literal is the number of a field. -/
def isFieldNumber (text : String) : Bool :=
  (integer? text).any (· < Nat.pow 2 32)

/-- Takes the name or number of a field, and tells whether it is a name. -/
def member : Reader Bool := do
  match (← get).tokens with
  | .literal text _ :: _ =>
    if isFieldNumber text then
      skip 1
      return false
    else refuse
  | _ =>
    let _ ← identifier
    return true

/-- A field of a structure pattern. -/
def fieldPattern (g : Grammar) : Reader Forest := do
  let boxed ← keyword? "box"
  let byRef ← keyword? "ref"
  let mutable ← keyword? "mut"
  let modified := boxed || byRef || mutable
  let named ← if modified then
      let _ ← identifier
      pure true
    else member
  if !modified && (← look (.mark ":")) || !named then
    mark ":"
    return (← alternatives g).parts
  else return []

/-- The fields of a structure pattern; `..` ends them. -/
def fieldPatterns (g : Grammar) : Reader Forest := do
  let fields ← repeating do
    if ← look .none then return none
    let attributes ← outerAttributes g
    if ← mark? ".." then return some (attributes.parts, false)
    let parts ← fieldPattern g
    if ← look .none then return some (attributes.parts ++ parts, false)
    mark ","
    return some (attributes.parts ++ parts, true)
  return fields.flatten

/-- A pattern that starts with a path. -/
def pathPattern (g : Grammar) : Reader PatternTree := do
  let p ← qualifiedPath g true
  let ts := (← get).tokens
  if !p.qualified && p.isBare && Look.mark "!" ts && !Look.mark "!=" ts then
    mark "!"
    return { parts := (← g.invocation).2 }
  else if Look.group .brace ts then
    return { parts := p.parts ++ (← inGroup .brace (fieldPatterns g)) }
  else if Look.group .paren ts then
    let elements ← inGroup .paren (commaSeparated (alternatives g))
    return { parts := p.parts ++ elements.flatMap (·.parts) }
  else if Look.mark ".." ts then rangeAfter g (mentionOf p)
  else return { parts := mentionOf p }

/-- A pattern that binds a name. -/
def namePattern (g : Grammar) : Reader PatternTree := do
  let _ ← keyword? "ref"
  let _ ← keyword? "mut"
  if ← look (.word "self") then skip 1 else let _ ← identifier
  if ← mark? "@" then return { parts := (← g.read .pattern).parts } else return {}

/-- An element of a slice pattern, where an open range must stand in brackets. -/
def slicePattern (g : Grammar) : Reader Forest := do
  let element ← alternatives g
  match element.shape with
  | .halfRange p => refuseAt p
  | _ => return element.parts

/-- A pattern without alternatives at its top. -/
def patternForm (g : Grammar) : Reader PatternTree := do
  let ts := (← get).tokens
  if startsPathPattern ts then pathPattern g
  else if ← keyword? "_" then return {}
  else if ← keyword? "box" then
    let _ ← g.read .pattern
    return { shape := .dropped }
  else if Look.mark "-" ts || Look.literal ts || Look.word "const" ts then
    match ← rangeBound g with
    | none => refuse
    | some parts => if ← look (.mark "..") then rangeAfter g parts else return { parts }
  else if Look.word "ref" ts || Look.word "mut" ts || Look.word "self" ts || Look.identifier ts then
    namePattern g
  else if ← mark? "&" then
    let _ ← keyword? "mut"
    return { parts := (← g.read .pattern).parts }
  else if Look.group .paren ts then
    let elements ← inGroup .paren (commaSeparated (alternatives g))
    return { parts := elements.flatMap (·.parts) }
  else if Look.group .square ts then
    return { parts := (← inGroup .square (commaSeparated (slicePattern g))).flatten }
  else if Look.mark ".." ts && !Look.mark "..." ts then dotsPattern g
  else refuse

end CallReach.Source.Grammar
