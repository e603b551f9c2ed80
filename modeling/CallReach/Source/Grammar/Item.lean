import CallReach.Source.Grammar.Expression

/-!
# Items

Readers of declarations: functions, types, modules, `impl` and `trait` blocks, `use` items and the
rest. Forms that later versions of the language may give a meaning to are accepted but leave no
outline, not even of their attributes; their readers give `none`.
-/

namespace CallReach.Source.Grammar

open Reader

/-! ### Functions -/

/-- Whether the start of a function comes next: modifiers and `fn`. `safe` tells whether that word
is a modifier. -/
def startsFunction (safe : Bool) (ts : List Token) : Bool :=
  let skipWord (w : String) (ts : List Token) := if Look.word w ts then ts.tail else ts
  let ts := skipWord "async" (skipWord "const" ts)
  let ts := if safe && Look.word "safe" ts then ts.tail else skipWord "unsafe" ts
  let ts := match ts with
    | .word n _ :: rest =>
      if n.text = "extern" then
        match rest with
        | .literal text _ :: rest' =>
          if text.startsWith "\"" || text.startsWith "r" then rest' else rest
        | _ => rest
      else ts
    | _ => ts
  Look.word "fn" ts

/-- A `self` parameter: the place of the word and the outlines of its type. -/
def receiver (g : Grammar) : Reader (Position × Forest) := do
  let byReference ← mark? "&"
  if byReference then lifetime?
  let _ ← keyword? "mut"
  let p ← here
  keyword "self"
  if !byReference && (← mark? ":") then return (p, (← g.type).parts) else return (p, [])

/-- A parameter of a function, and whether further ones may follow. Only the first parameter may be
`self`. -/
def parameter (g : Grammar) (first : Bool) : Reader (Forest × Bool) := do
  let attributes ← outerAttributes g
  let lastOne (parts : Forest) : Reader (Forest × Bool) := do
    unless ← look .none do mark ","
    return (attributes.parts ++ parts, false)
  if ← mark? "..." then lastOne []
  -- `self` comes in many forms, so it is tried first.
  else match ← attempt (receiver g) with
    | some (p, parts) =>
      if first then return (attributes.parts ++ parts, true) else refuseAt p
    | none =>
      let ts := (← get).tokens
      -- A type alone stands where old sources leave out the name of a parameter.
      if Look.identifier ts && Look.second (.mark "<") ts then
        return (attributes.parts ++ (← g.type).parts, true)
      else
        let pattern ← g.read .pattern
        mark ":"
        if ← mark? "..." then lastOne pattern.parts
        else return (attributes.parts ++ pattern.parts ++ (← g.type).parts, true)

/-- The parameters of a function. -/
def parameters (g : Grammar) : Reader Forest := do
  let count := (← get).tokens.length
  let all ← repeating do
    if ← look .none then return none
    let (parts, more) ← parameter g ((← get).tokens.length = count)
    if !more || (← look .none) then return some (parts, false)
    mark ","
    return some (parts, true)
  return all.flatten

/-- The head of a function. -/
structure Signature where
  name : Name
  row : Nat
  safe : Bool := false
  parts : Forest

/-- Reads the head of a function. -/
def signature (g : Grammar) (safe : Bool) : Reader Signature := do
  let _ ← keyword? "const"
  let _ ← keyword? "async"
  let safe ← if safe then keyword? "safe" else pure false
  unless safe do let _ ← keyword? "unsafe"
  let _ ← linkage?
  keyword "fn"
  let row := (← here).row
  let name ← identifier
  let declared ← generics g
  let inputs ← inGroup .paren (parameters g)
  let output ← returnType g true
  let required ← whereClause g
  return { name, row, safe, parts := declared ++ required ++ inputs ++ output }

/-- The outline of a function with a body. -/
def functionOutline (s : Signature) (associated : Bool) (outer inner : Attributes) (body : Forest) :
    Outline :=
  .function s.name s.row associated (outer.parts ++ inner.parts ++ s.parts ++ body)

/-- A function from its head on. Only in a trait, where `required` holds, it may lack a body. -/
def functionItem (g : Grammar) (attributes : Attributes) (associated required : Bool) :
    Reader Forest := do
  let s ← signature g false
  if ← mark? ";" then
    return if required then [.requirement s.name s.row (attributes.parts ++ s.parts)] else []
  let (inner, body) ← block g
  return [functionOutline s associated attributes inner body]

/-! ### Constants, types and their fields -/

/-- A constant after its keyword. It is dropped if it has generic parameters, or if it has no value
and needs one. -/
def constant (g : Grammar) (needsValue : Bool) : Reader (Option Forest) := do
  if (← look .identifier) || (← look (.word "_")) then skip 1 else refuse
  let plain := !(← look (.mark "<"))
  let _ ← generics g
  mark ":"
  let type ← g.type
  let value ← if ← mark? "=" then pure (some (← g.expression).parts) else pure none
  let plain := plain && !(← look (.word "where"))
  let _ ← whereClause g
  mark ";"
  return match value with
    | some parts => if plain then some (type.parts ++ parts) else none
    | none => if plain && !needsValue then some type.parts else none

/-- A variable that lives as long as the program. It is dropped unless it has a type and a value. -/
def staticItem (g : Grammar) : Reader (Option Forest) := do
  keyword "static"
  let _ ← keyword? "mut"
  let _ ← identifier
  if ← mark? "=" then
    let _ ← g.expression
    mark ";"
    return none
  mark ":"
  let type ← g.type
  if ← mark? ";" then return none
  mark "="
  let value ← g.expression
  mark ";"
  return some (type.parts ++ value.parts)

/-- A type declaration: its parameters and `where` clause, its bounds and its definition. -/
structure TypeDeclaration where
  declared : Forest
  bounds : Option Forest
  definition : Option Forest

/-- Reads a type declaration. Its `where` clause may stand before the definition, after it, or both
ways. -/
def typeDeclaration (g : Grammar) (before after : Bool) : Reader TypeDeclaration := do
  keyword "type"
  let _ ← identifier
  let declared ← generics g
  let stop : Look := fun ts => Look.word "where" ts || Look.mark "=" ts || Look.mark ";" ts
  let bounds ← if ← mark? ":" then
      let bounds ← separated stop "+" (g.read (.bound false true))
      pure (some (bounds.flatMap (·.2)))
    else pure none
  let early ← if before then look (.word "where") else pure false
  let required ← if before then whereClause g else pure []
  let definition ← if ← mark? "=" then pure (some (← g.type).parts) else pure none
  let late ← if after && !early then whereClause g else pure []
  mark ";"
  return { declared := declared ++ required ++ late, bounds, definition }

/-- The outlines of a type declaration, which is dropped unless it has a definition and no
bounds. -/
def TypeDeclaration.defined? (d : TypeDeclaration) : Option Forest :=
  match d.bounds, d.definition with
  | none, some type => some (d.declared ++ type)
  | _, _ => none

/-- A field with a name. -/
def namedField (g : Grammar) : Reader Forest := do
  let attributes ← outerAttributes g
  let _ ← visibility?
  let unnamed ← look (.word "_")
  if unnamed then skip 1 else let _ ← identifier
  mark ":"
  let ts := (← get).tokens
  if unnamed &&
      (Look.word "struct" ts || Look.word "union" ts && Look.second (.group .brace) ts) then
    skip 1
    if ← look (.group .brace) then skip 1 else refuse
    return attributes.parts
  else return attributes.parts ++ (← g.type).parts

/-- Fields with names, in braces. -/
def namedFields (g : Grammar) : Reader Forest := do
  return (← inGroup .brace (commaSeparated (namedField g))).flatten

/-- Fields without names, in round brackets. -/
def unnamedFields (g : Grammar) : Reader Forest := do
  let fields ← inGroup .paren <| commaSeparated do
    let attributes ← outerAttributes g
    let _ ← visibility?
    return attributes.parts ++ (← g.type).parts
  return fields.flatten

/-- A structure. -/
def structItem (g : Grammar) : Reader Forest := do
  keyword "struct"
  let _ ← identifier
  let declared ← generics g
  let early ← look (.word "where")
  let required ← whereClause g
  -- A `where` clause stands behind unnamed fields and before named ones.
  if !early && (← look (.group .paren)) then
    let fields ← unnamedFields g
    let required ← whereClause g
    mark ";"
    return declared ++ required ++ fields
  else if ← look (.group .brace) then return declared ++ required ++ (← namedFields g)
  else
    mark ";"
    return declared ++ required

/-- A variant of an enumeration. -/
def variant (g : Grammar) : Reader Forest := do
  let attributes ← outerAttributes g
  let _ ← visibility?
  let _ ← identifier
  let fields ← if ← look (.group .brace) then namedFields g
    else if ← look (.group .paren) then unnamedFields g
    else pure []
  let value ← if ← mark? "=" then pure (← g.expression).parts else pure []
  return attributes.parts ++ fields ++ value

/-- An enumeration. -/
def enumItem (g : Grammar) : Reader Forest := do
  keyword "enum"
  let _ ← identifier
  let declared ← generics g
  let required ← whereClause g
  let variants ← inGroup .brace (commaSeparated (variant g))
  return declared ++ required ++ variants.flatten

/-- A union. -/
def unionItem (g : Grammar) : Reader Forest := do
  keyword "union"
  let _ ← identifier
  let declared ← generics g
  let required ← whereClause g
  return declared ++ required ++ (← namedFields g)

/-! ### Invocations as items -/

/-- Whether the path of an invocation comes next. -/
def startsInvocation (ts : List Token) : Bool :=
  Look.identifier ts || Look.pathKeyword ts || Look.mark "::" ts

/-- An invocation as an item; one with a name may stand where `named` says so. -/
def invocationItem (g : Grammar) (named : Bool) : Reader Forest := do
  let _ ← barePath
  mark "!"
  if named && ((← look .identifier) || (← look (.word "try"))) then skip 1
  let (bracket, parts) ← g.invocation
  unless bracket = .brace do mark ";"
  return parts

/-- A macro declared by `macro`, which leaves no outline. -/
def macroDeclaration : Reader Unit := do
  keyword "macro"
  let _ ← identifier
  if ← look (.group .paren) then skip 1
  if ← look (.group .brace) then skip 1 else refuse

/-! ### Blocks of declarations -/

/-- The items of a block in braces, with the attributes of the block. -/
def bodyOf (g : Grammar) (item : Reader Forest) : Reader (Attributes × Forest) :=
  inGroup .brace do
    let attributes ← innerAttributes g
    return (attributes, (← manyUntil .none item).flatten)

/-- An item of a `trait` block. -/
def traitItem (g : Grammar) : Reader Forest := do
  let attributes ← outerAttributes g
  let visible ← visibility?
  let default ← keyword? "default"
  let ts := (← get).tokens
  let isFunction := startsFunction false ts || Look.word "const" ts &&
    (Look.second (.word "async") ts || Look.second (.word "unsafe") ts ||
      Look.second (.word "extern") ts || Look.second (.word "fn") ts)
  let parts ← if isFunction then functionItem g attributes true true
    else if ← keyword? "const" then pure (attributes.on (← constant g false))
    else if Look.word "type" ts then
      let d ← typeDeclaration g false true
      pure (attributes.parts ++ d.declared ++ d.bounds.getD [] ++ d.definition.getD [])
    else if !visible && !default && startsInvocation ts then
      pure (attributes.parts ++ (← invocationItem g false))
    else refuse
  -- Neither visibility nor `default` has a meaning in a trait yet.
  return if visible || default then [] else parts

/-- An item of an `impl` block. -/
def implItem (g : Grammar) : Reader Forest := do
  let attributes ← outerAttributes g
  let visible ← visibility?
  let default := (← look (.word "default")) && !(← look (.second (.mark "!")))
  if default then skip 1
  let ts := (← get).tokens
  if startsFunction false ts then functionItem g attributes true false
  else if ← keyword? "const" then return attributes.on (← constant g true)
  else if Look.word "type" ts then
    return attributes.on (← typeDeclaration g false true).defined?
  else if !visible && !default && startsInvocation ts then
    return attributes.parts ++ (← invocationItem g false)
  else refuse

/-- An item of a block of foreign declarations. -/
def foreignItem (g : Grammar) : Reader Forest := do
  let attributes ← outerAttributes g
  let visible ← visibility?
  let ts := (← get).tokens
  if startsFunction true ts then
    let s ← signature g true
    if ← look (.group .brace) then
      let _ ← block g
      return []
    mark ";"
    -- A foreign function has no body, only what its head mentions.
    return if s.safe then [] else attributes.parts ++ s.parts
  else if Look.word "static" ts ||
      (Look.word "unsafe" ts || Look.word "safe" ts) && Look.second (.word "static") ts then
    let modified ← keyword? "unsafe"
    let modified ← if modified then pure true else keyword? "safe"
    keyword "static"
    let _ ← keyword? "mut"
    let _ ← identifier
    mark ":"
    let type ← g.type
    let valued ← mark? "="
    if valued then let _ ← g.expression
    mark ";"
    return if modified || valued then [] else attributes.parts ++ type.parts
  else if Look.word "type" ts then
    let d ← typeDeclaration g true true
    return if d.bounds.isSome || d.definition.isSome then [] else attributes.parts ++ d.declared
  else if !visible && startsInvocation ts then
    return attributes.parts ++ (← invocationItem g false)
  else refuse

/-- A block of foreign declarations. -/
def foreignBlock (g : Grammar) (attributes : Attributes) : Reader Forest := do
  let _ ← keyword? "unsafe"
  unless ← linkage? do refuse
  let (inner, items) ← bodyOf g (foreignItem g)
  return attributes.parts ++ inner.parts ++ items

/-- A `trait` block, or a trait alias where `aliasAllowed` says so. -/
def traitBlock (g : Grammar) (attributes : Attributes) (aliasAllowed : Bool) : Reader Forest := do
  let _ ← keyword? "unsafe"
  let _ ← keyword? "auto"
  keyword "trait"
  let name ← identifier
  let declared ← generics g
  if aliasAllowed && (← mark? "=") then
    let stop : Look := fun ts => Look.word "where" ts || Look.mark ";" ts
    let bounds ← separated stop "+" (g.read (.bound false true))
    let required ← whereClause g
    mark ";"
    return attributes.parts ++ declared ++ required ++ bounds.flatMap (·.2)
  let stop : Look := fun ts => Look.word "where" ts || Look.group .brace ts
  let bounds ← if ← mark? ":" then separated stop "+" (g.read (.bound false true)) else pure []
  let required ← whereClause g
  let (inner, items) ← bodyOf g (traitItem g)
  return [.owner name (attributes.parts ++ inner.parts ++ declared ++ required ++
    bounds.flatMap (·.2) ++ items)]

/-- The name of a type that has none. -/
def unknownType : Name := ⟨"<unknown>", by decide, by decide⟩

/-- An `impl` block. -/
def implBlock (g : Grammar) (attributes : Attributes) (visible : Bool) : Reader Forest := do
  let _ ← keyword? "default"
  let _ ← keyword? "unsafe"
  keyword "impl"
  let declared ← if ← look startsGenerics then generics g else pure []
  let ts := (← get).tokens
  let isConst := Look.word "const" ts || Look.mark "?" ts && Look.second (.word "const") ts
  if isConst then
    let _ ← mark? "?"
    keyword "const"
  let bang ← here
  let ts := (← get).tokens
  let negative := Look.mark "!" ts && !Look.second (.group .brace) ts
  if negative then skip 1
  let first ← g.type
  let ofTrait ← keyword? "for"
  let self ← if ofTrait then g.type
    else if negative then refuseAt bang
    else pure first
  let isTrait := match first.shape with
    | .path _ => true
    | _ => false
  let required ← whereClause g
  let (inner, items) ← bodyOf g (implItem g)
  -- Forms without a meaning yet are read to their end and dropped.
  if visible || isConst || ofTrait && !isTrait then return []
  return [.owner (self.name.getD unknownType) (attributes.parts ++ inner.parts ++ declared ++
    required ++ (if ofTrait then first.parts else []) ++ self.parts ++ items)]

/-- A module. -/
def moduleItem (g : Grammar) (attributes : Attributes) : Reader Forest := do
  let _ ← keyword? "unsafe"
  keyword "mod"
  let name ← if ← look (.word "try") then anyWord else identifier
  if ← mark? ";" then return [.moduleFile name attributes.parts]
  let (inner, items) ← bodyOf g do return (← g.read .item).parts
  return [.module name (attributes.parts ++ inner.parts ++ items)]

/-! ### Items -/

/-- The tree of a `use` item. `root` tells whether trees in a group may start with `::`, which
leaves no tree. -/
def useTreeForm (g : Grammar) (root : Bool) : Reader (Option UseTree) := do
  let ts := (← get).tokens
  if Look.identifier ts || Look.pathKeyword ts || Look.word "try" ts then
    let name ← anyWord
    if ← mark? "::" then return (← g.read (.useTree false)).map (.path name)
    else if ← keyword? "as" then
      if (← look .identifier) || (← look (.word "_")) then return some (.rename name (← anyWord))
      else refuse
    else return some (.name name)
  else if ← mark? "*" then return some .glob
  else if Look.group .brace ts then
    let trees ← inGroup .brace <| commaSeparated do
      let fromRoot ← if root then mark? "::" else pure false
      let tree ← g.read (.useTree (root && !fromRoot))
      return if fromRoot then none else tree
    return (trees.mapM id).map .group
  else refuse

/-- An item that brings names into scope. -/
def useItem (g : Grammar) : Reader (Option UseTree) := do
  keyword "use"
  let absolute ← mark? "::"
  let tree ← g.read (.useTree !absolute)
  mark ";"
  return tree

/-- A declaration of a package that is used. -/
def packageItem : Reader Unit := do
  keyword "extern"
  keyword "crate"
  if ← look (.word "self") then skip 1 else let _ ← identifier
  if ← keyword? "as" then
    if (← look .identifier) || (← look (.word "_")) then skip 1 else refuse
  mark ";"

/-- An item that starts with `extern` and is no function. -/
def externItem (g : Grammar) (attributes : Attributes) (start : Option Position) :
    Reader Forest := do
  let after := (← get).tokens.tail
  if Look.word "crate" after then
    packageItem
    return attributes.parts
  let startsBlock := Look.group .brace after || match after with
    | .literal text _ :: rest =>
      (text.startsWith "\"" || text.startsWith "r") && Look.group .brace rest
    | _ => false
  if startsBlock then
    match start with
    | some p => refuseAt p
    | none => foreignBlock g attributes
  else
    let _ ← linkage?
    refuse

/-- An item that starts with `unsafe` and is no function. -/
def unsafeItem (g : Grammar) (attributes : Attributes) (start : Option Position) :
    Reader Forest := do
  let after := (← get).tokens.tail
  if Look.word "trait" after || Look.word "auto" after && Look.second (.word "trait") after then
    traitBlock g attributes false
  else if Look.word "impl" after then implBlock g attributes start.isSome
  else if Look.word "extern" after then
    match start with
    | some p => refuseAt p
    | none => foreignBlock g attributes
  else if Look.word "mod" after then moduleItem g attributes
  else
    skip 1
    refuse

/-- An item after its attributes. -/
def itemAfter (g : Grammar) (attributes : Attributes) : Reader ItemTree := do
  let first ← here
  let visible ← visibility?
  let start := if visible then some first else none
  let kept (parts : Forest) : ItemTree := { parts := attributes.parts ++ parts }
  let ts := (← get).tokens
  if startsFunction false ts then return { parts := ← functionItem g attributes false false }
  else if Look.word "extern" ts then return { parts := ← externItem g attributes start }
  else if Look.word "use" ts then
    match ← useItem g with
    | some tree => return { kept [] with tree := some tree }
    | none => return {}
  else if Look.word "static" ts then return { parts := attributes.on (← staticItem g) }
  else if ← keyword? "const" then return { parts := attributes.on (← constant g true) }
  else if Look.word "unsafe" ts then return { parts := ← unsafeItem g attributes start }
  else if Look.word "mod" ts then return { parts := ← moduleItem g attributes }
  else if Look.word "type" ts then
    return { parts := attributes.on (← typeDeclaration g true false).defined? }
  else if Look.word "struct" ts then return kept (← structItem g)
  else if Look.word "enum" ts then return kept (← enumItem g)
  else if Look.word "union" ts && Look.second .identifier ts then return kept (← unionItem g)
  else if Look.word "trait" ts then return { parts := ← traitBlock g attributes true }
  else if Look.word "auto" ts && Look.second (.word "trait") ts then
    return { parts := ← traitBlock g attributes false }
  else if Look.word "impl" ts || Look.word "default" ts && !Look.second (.mark "!") ts then
    return { parts := ← implBlock g attributes visible }
  else if Look.word "macro" ts then
    macroDeclaration
    return {}
  else if !visible && startsInvocation ts then return kept (← invocationItem g true)
  else refuse

/-- An item. -/
def itemForm (g : Grammar) : Reader ItemTree := do
  let attributes ← outerAttributes g
  itemAfter g attributes

end CallReach.Source.Grammar
