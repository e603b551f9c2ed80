import CallReach.Pattern.Basic

/-!
# Reading patterns

The text of a pattern: alternatives, repetition, groups with flags, escapes and bracket expressions.
The flags in force decide how each part is read, so patterns are made while reading.
-/

namespace CallReach.Pattern

/-- The flags of a pattern. -/
structure Flags where
  ignoreCase : Bool := false
  multiLine : Bool := false
  dotMatchesAll : Bool := false
  swapGreed : Bool := false
  unicode : Bool := true
  crlf : Bool := false
  /-- Whether blanks and comments in the pattern are skipped. -/
  spaced : Bool := false

/-- The state of reading: what is left, the flags in force and the names of groups so far. -/
structure ParserState where
  rest : List Char
  flags : Flags := {}
  names : List String := []

/-- A reader of a part of a pattern; it fails on what is no pattern. -/
abbrev Parser := StateT ParserState Option

namespace Parser

/-- The next character. -/
def peek : Parser (Option Char) := do
  return (← get).rest.head?

/-- The character after the next one. -/
def peekSecond : Parser (Option Char) := do
  return (← get).rest.tail.head?

/-- Moves past the next character. -/
def bump : Parser Unit :=
  modify fun s => { s with rest := s.rest.tail }

/-- The next character, which must exist. -/
def need : Parser Char := do
  match ← peek with
  | some c => return c
  | none => failure

/-- Takes the given characters if they come next. -/
def take? (cs : List Char) : Parser Bool := do
  if cs.isPrefixOf (← get).rest then
    modify fun s => { s with rest := s.rest.drop cs.length }
    return true
  else return false

/-- Takes a character that must come next. -/
def expect (c : Char) : Parser Unit := do
  if (← need) = c then bump else failure

/-- Drops blanks, and comments from `#` to the end of the line. -/
def dropSpace (inComment : Bool) : List Char → List Char
  | [] => []
  | c :: cs =>
    if inComment then dropSpace (c ≠ '\n') cs
    else if Text.isBlank c then dropSpace false cs
    else if c = '#' then dropSpace true cs
    else c :: cs

/-- Skips blanks and comments where the flags say so. -/
def space : Parser Unit := do
  if (← get).flags.spaced then modify fun s => { s with rest := dropSpace false s.rest }

/-- Moves past the next character and skips blanks and comments. -/
def bumpSpace : Parser Unit := do
  bump
  space

/-- The character after the next one, blanks skipped. -/
def peekSecondSpaced : Parser (Option Char) := do
  let s ← get
  if s.flags.spaced then
    match s.rest.tail.dropWhile Text.isBlank with
    | '#' :: cs => return (cs.dropWhile Text.isBlank).head?
    | cs => return cs.head?
  else return s.rest.tail.head?

end Parser

open CallReach.Pattern.Parser

/-! ### Escapes -/

/-- What is read as one unit: a character, a class or a condition on a place. -/
inductive Primitive where
  | literal (c : Char)
  /-- A character given by two hexadecimal digits. -/
  | byte (c : Char)
  | chars (a : CharClass)
  | dot
  | place (a : Assertion)

/-- The characters that have a meaning of their own in patterns. -/
def isMeta (c : Char) : Bool :=
  "\\.+*?()|[]\x7b\x7d^$#&-~".toList.contains c

/-- Hexadecimal digits in a row, exactly `n` of them. -/
def hexDigits : Nat → Nat → Parser Nat
  | 0, value => return value
  | n + 1, value => do
    match Text.hexDigit? (← need) with
    | none => failure
    | some d =>
      bumpSpace
      hexDigits n (value * 16 + d)

/-- Hexadecimal digits up to a closing brace, at most `fuel` of them. -/
def hexUntilBrace : Nat → Option Nat → Parser Nat
  | 0, _ => failure
  | fuel + 1, value => do
    let c ← need
    if c = '\x7d' then
      match value with
      | none => failure
      | some n =>
        bumpSpace
        return n
    else
      match Text.hexDigit? c with
      | none => failure
      | some d =>
        bumpSpace
        hexUntilBrace fuel (some (value.getD 0 * 16 + d))

/-- A character given by its code point, after the letter that tells the number of digits. -/
def codePoint (letter : Char) : Parser Primitive := do
  bumpSpace
  if (← need) = '\x7b' then
    bumpSpace
    let n ← hexUntilBrace ((← get).rest.length + 1) none
    match Text.scalar? n with
    | some c => return .literal c
    | none => failure
  else
    let n ← hexDigits (if letter = 'x' then 2 else if letter = 'u' then 4 else 8) 0
    match Text.scalar? n with
    | some c => return if letter = 'x' then .byte c else .literal c
    | none => failure

/-- The characters up to a closing brace, blanks skipped where the flags say so; at most `fuel`. -/
def untilBrace : Nat → Parser (List Char)
  | 0 => failure
  | fuel + 1 => do
    let c ← need
    if c = '\x7d' then
      bump
      return []
    else
      bumpSpace
      return c :: (← untilBrace fuel)

/-- The class with a property in braces. -/
def propertyClass? (cs : List Char) : Option CharClass :=
  let name := String.ofList cs
  match name.splitOn "!=" with
  | first :: rest@(_ :: _) => (CharClass.valued? first ("!=".intercalate rest)).map .complement
  | _ =>
    let sep := if cs.contains ':' then some ':' else if cs.contains '=' then some '=' else none
    match sep with
    | some sep =>
      CharClass.valued? (String.ofList (cs.takeWhile (· ≠ sep)))
        (String.ofList ((cs.dropWhile (· ≠ sep)).drop 1))
    | none => CharClass.named? name

/-- The class up to case, if case is ignored. -/
def Flags.fold (flags : Flags) (a : CharClass) : CharClass :=
  if !flags.ignoreCase then a else if flags.unicode then .anyCase a else .anyAsciiCase a

/-- The class up to case, and its complement if it is negated. Without Unicode every class must be
within ASCII. -/
def finishClass (flags : Flags) (negated : Bool) (a : CharClass) : Option CharClass :=
  let a := flags.fold a
  let a := if negated then .complement a else a
  if flags.unicode || a.isAscii then some a else none

/-- A class with a property, after the letter that introduces it. -/
def propertyEscape (negated : Bool) : Parser Primitive := do
  bumpSpace
  let c ← need
  let found ← if c = '\x7b' then do
      bumpSpace
      pure (propertyClass? (← untilBrace ((← get).rest.length + 1)))
    else if c = '\\' then failure
    else do
      bumpSpace
      pure (CharClass.named? (String.ofList [c]))
  let flags := (← get).flags
  match found with
  | none => failure
  | some a =>
    if flags.unicode then
      match finishClass flags negated a with
      | some a => return .chars a
      | none => failure
    else failure

/-- The kind of boundary in braces after the letter of a word boundary, if there is one. -/
def boundaryKind? : Parser (Option (Bool → Assertion)) := do
  if (← peek) = some '\x7b' then
    let start ← get
    let isPart (c : Char) : Bool := c.isAlpha || c = '-'
    bumpSpace
    if isPart (← need) then
      let name ← untilBrace ((← get).rest.length + 1)
      match String.ofList name with
      | "start" => return some .wordStart
      | "end" => return some .wordEnd
      | "start-half" => return some .noWordBefore
      | "end-half" => return some .noWordAfter
      | _ => failure
    else
      set start
      return none
  else return none

/-- An escape, from its backslash on. -/
def escape : Parser Primitive := do
  bump
  let c ← need
  let unicode := (← get).flags.unicode
  let class' (negated : Bool) (a : CharClass) : Parser Primitive := do
    bump
    match finishClass { unicode } negated a with
    | some a => return .chars a
    | none => failure
  if c.isDigit then failure
  else if c = 'x' || c = 'u' || c = 'U' then codePoint c
  else if c = 'p' || c = 'P' then propertyEscape (c = 'P')
  else if c = 'd' || c = 'D' then class' (c = 'D') (.digit unicode)
  else if c = 's' || c = 'S' then class' (c = 'S') (.blank unicode)
  else if c = 'w' || c = 'W' then class' (c = 'W') (.word unicode)
  else
    bump
    if isMeta c then return .literal c
    match c with
    | 'a' => return .literal '\x07'
    | 'f' => return .literal '\x0c'
    | 't' => return .literal '\t'
    | 'n' => return .literal '\n'
    | 'r' => return .literal '\r'
    | 'v' => return .literal '\x0b'
    | 'A' => return .place .textStart
    | 'z' => return .place .textEnd
    | 'b' => return .place (((← boundaryKind?).getD .wordBoundary) unicode)
    | 'B' => return .place (.noWordBoundary unicode)
    | '<' => return .place (.wordStart unicode)
    | '>' => return .place (.wordEnd unicode)
    | _ => if c.toNat < 0x80 && !c.isAlphanum then return .literal c else failure

/-! ### Bracket expressions -/

/-- A bracket expression as far as it is read: its class, how deep it is nested and whether it has
more than one item. -/
structure ClassTree where
  chars : CharClass := .nothing
  depth : Nat := 0
  items : Nat := 0

namespace ClassTree

/-- Adds an item. -/
def add (t : ClassTree) (a : CharClass) (depth : Nat) : ClassTree :=
  { chars := .union t.chars a, depth := max t.depth depth, items := t.items + 1 }

/-- The depth of the items together. -/
def height (t : ClassTree) : Nat :=
  if t.items > 1 then t.depth + 1 else t.depth

end ClassTree

/-- The set operations of bracket expressions. -/
inductive SetOperation where
  | meet
  | minus
  | differ

/-- What an operation makes of two classes. -/
def SetOperation.apply (flags : Flags) (op : SetOperation) (a b : CharClass) : CharClass :=
  let a := flags.fold a
  let b := flags.fold b
  match op with
  | meet => .meet a b
  | minus => .minus a b
  | differ => .differ a b

/-- The left side of an operation that waits for its right side. -/
abbrev Pending := Option (SetOperation × CharClass × Nat)

/-- The class and the depth of a waiting left side with its right side. -/
def joinSides (flags : Flags) (left : Pending) (right : ClassTree) : CharClass × Nat :=
  match left with
  | none => (right.chars, right.height)
  | some (op, a, depth) => (op.apply flags a right.chars, max depth right.height + 1)

/-- A named class of ASCII characters, if one comes next. -/
def asciiClass? : Parser (Option CharClass) := do
  let s ← get
  match s.rest with
  | '[' :: ':' :: cs =>
    let (negated, cs) := match cs with
      | '^' :: cs => (true, cs)
      | _ => (false, cs)
    match cs.dropWhile (· ≠ ':') with
    | ':' :: ']' :: rest =>
      let name := String.ofList (cs.takeWhile (· ≠ ':'))
      match CharClass.asciiNamed.lookup name with
      -- An unknown name is no error: the bracket then opens a nested expression.
      | none => return none
      | some a =>
        match finishClass s.flags negated a with
        | none => failure
        | some a =>
          set { s with rest }
          return some a
    | _ => return none
  | _ => return none

/-- A unit of a bracket expression. -/
def classUnit : Parser Primitive := do
  let c ← need
  if c = '\\' then escape
  else
    bump
    return .literal c

/-- The character of a unit; without Unicode it must be within ASCII. -/
def unitChar : Primitive → Parser Char
  | .literal c | .byte c => do
    if (← get).flags.unicode || c.toNat < 0x80 then return c else failure
  | _ => failure

/-- A unit or a range of a bracket expression. -/
def classRange : Parser CharClass := do
  let first ← classUnit
  space
  let _ ← need
  let second ← peekSecondSpaced
  -- A hyphen before the closing bracket or before another hyphen stands for itself.
  if (← peek) = some '-' && second ≠ some ']' && second ≠ some '-' then
    bumpSpace
    let _ ← need
    let last ← classUnit
    let lo ← unitChar first
    let hi ← unitChar last
    if lo ≤ hi then return .range lo hi else failure
  else
    match first with
    | .chars a => return a
    | unit => return .single (← unitChar unit)

/-- Hyphens at the start of a bracket expression, which stand for themselves; at most `fuel`. -/
def leadingHyphens : Nat → ClassTree → Parser ClassTree
  | 0, t => return t
  | fuel + 1, t => do
    if (← need) = '-' then
      bumpSpace
      leadingHyphens fuel (t.add (.single '-') 0)
    else return t

/-- The start of a bracket expression: whether it is negated, and the characters that stand for
themselves there. -/
def classOpen : Parser (Bool × ClassTree) := do
  bumpSpace
  let negated := (← need) = '^'
  if negated then bumpSpace
  let t ← leadingHyphens ((← get).rest.length + 1) {}
  -- A closing bracket right at the start stands for itself.
  if t.items = 0 && (← need) = ']' then
    bumpSpace
    let _ ← need
    return (negated, t.add (.single ']') 0)
  else return (negated, t)

/-- The rest of a bracket expression after its start, with its depth; `fuel` bounds its items and
nesting. -/
def classRest : Nat → Bool → Pending → ClassTree → Parser (CharClass × Nat)
  | 0, _, _, _ => failure
  | fuel + 1, negated, left, t => do
    space
    let c ← need
    let next ← peekSecond
    let flags := (← get).flags
    let operation (op : SetOperation) : Parser (CharClass × Nat) := do
      bump
      bump
      let (a, depth) := joinSides flags left t
      classRest fuel negated (some (op, a, depth)) {}
    if c = '[' then
      match ← asciiClass? with
      | some a => classRest fuel negated left (t.add a 0)
      | none =>
        let (inner, start) ← classOpen
        let (a, depth) ← classRest fuel inner none start
        classRest fuel negated left (t.add a depth)
    else if c = ']' then
      bump
      let (a, depth) := joinSides flags left t
      match finishClass flags negated a with
      | some a => return (a, depth + 1)
      | none => failure
    else if c = '&' && next = some '&' then operation .meet
    else if c = '-' && next = some '-' then operation .minus
    else if c = '~' && next = some '~' then operation .differ
    else
      let a ← classRange
      classRest fuel negated left (t.add a 0)

/-- A bracket expression, with its depth. -/
def bracketClass : Parser (CharClass × Nat) := do
  let fuel := 2 * (← get).rest.length + 2
  let (negated, t) ← classOpen
  classRest fuel negated none t

/-! ### Repetition -/

/-- A part of a pattern, with its depth. Flags that are set on the way are parts that cannot be
repeated. -/
structure Part where
  pattern : Pattern
  depth : Nat := 0
  repeatable : Bool := true

/-- A decimal number below 2³², blanks around it skipped. -/
def decimal? : Parser (Option Nat) := do
  modify fun s => { s with rest := s.rest.dropWhile Text.isBlank }
  let digits ← digitsUpTo ((← get).rest.length + 1)
  blanksUpTo ((← get).rest.length + 1)
  if digits.isEmpty then return none
  match (String.ofList digits).toNat? with
  | some n => if n < Nat.pow 2 32 then return some n else failure
  | none => failure
where
  /-- At most `fuel` digits. -/
  digitsUpTo : Nat → Parser (List Char)
    | 0 => return []
    | fuel + 1 => do
      match ← peek with
      | some c =>
        if c.isDigit then
          bumpSpace
          return c :: (← digitsUpTo fuel)
        else return []
      | none => return []
  /-- At most `fuel` blanks. -/
  blanksUpTo : Nat → Parser Unit
    | 0 => return ()
    | fuel + 1 => do
      match ← peek with
      | some c =>
        if Text.isBlank c then
          bumpSpace
          blanksUpTo fuel
      | none => return ()

/-- The bounds of a counted repetition, from its brace on. -/
def counts : Parser (Nat × Option Nat) := do
  bumpSpace
  let _ ← need
  let least ← decimal?
  match least, ← need with
  | some least, ',' =>
    bumpSpace
    if (← need) = '\x7d' then
      bumpSpace
      return (least, none)
    else
      match ← decimal? with
      | none => failure
      | some most =>
        expect '\x7d'
        space
        if least ≤ most then return (least, some most) else failure
  | some least, '\x7d' =>
    bumpSpace
    return (least, some least)
  | _, _ => failure

/-- Repeats the last part. A question mark may follow. -/
def repeatLast (parts : List Part) (least : Nat) (most : Option Nat) : Parser (List Part) := do
  let _ ← take? ['?']
  match parts with
  | p :: rest =>
    if p.repeatable then
      return { pattern := .repeated p.pattern least most, depth := p.depth + 1 } :: rest
    else failure
  | [] => failure

/-! ### Groups and alternatives -/

/-- The flag with a given letter set to a value. -/
def Flags.set? (f : Flags) (value : Bool) : Char → Option Flags
  | 'i' => some { f with ignoreCase := value }
  | 'm' => some { f with multiLine := value }
  | 's' => some { f with dotMatchesAll := value }
  | 'U' => some { f with swapGreed := value }
  | 'u' => some { f with unicode := value }
  | 'R' => some { f with crlf := value }
  | 'x' => some { f with spaced := value }
  | _ => none

/-- The letters of flags up to `:` or `)`, with what they set; no letter and no hyphen may be
repeated. -/
def flagsUpTo : Nat → List Char → Flags → Parser (List Char × Flags)
  | 0, _, _ => failure
  | fuel + 1, seen, flags => do
    let c ← need
    if c = ':' || c = ')' then
      -- A hyphen must be followed by a flag.
      if seen.head? = some '-' then failure else return (seen, flags)
    else if seen.contains c then failure
    else
      bump
      if c = '-' then flagsUpTo fuel (c :: seen) flags
      else
        match flags.set? (!seen.contains '-') c with
        | some flags => flagsUpTo fuel (c :: seen) flags
        | none => failure

/-- Whether a character may stand in the name of a group. -/
def isNamePart (first : Bool) (c : Char) : Bool :=
  let alphabetic := Text.Property.alphabetic.contains c
  c = '_' || alphabetic || !first &&
    (c = '.' || c = '[' || c = ']' || Text.Category.decimalNumber.contains c ||
      Text.Category.letterNumber.contains c || Text.Category.otherNumber.contains c)

/-- The name of a group up to its closing angle bracket; names must differ. -/
def groupName : Parser Unit := do
  let s ← get
  let name := s.rest.takeWhile (· ≠ '>')
  match name, s.rest.drop name.length with
  | c :: cs, '>' :: rest =>
    let text := String.ofList name
    if isNamePart true c && cs.all (isNamePart false) && !s.names.contains text then
      set { s with rest, names := text :: s.names }
    else failure
  | _, _ => failure

/-- The start of a group, after its bracket: the flags to set for the rest of the group around it if
it is no group. -/
def groupOpen : Parser Bool := do
  let s ← get
  let looksAround := [['?', '='], ['?', '!'], ['?', '<', '='], ['?', '<', '!']]
  -- Patterns that look around are not regular.
  if looksAround.any (·.isPrefixOf s.rest) then failure
  if ← take? ['?', 'P', '<'] then
    groupName
    return true
  else if ← take? ['?', '<'] then
    groupName
    return true
  else if ← take? ['?'] then
    let (seen, flags) ← flagsUpTo (s.rest.length + 1) [] s.flags
    let close ← need
    bump
    if close = ')' && seen.isEmpty then failure
    modify fun s => { s with flags }
    return close = ':'
  else return true

/-- The pattern of a unit. -/
def unitPattern (flags : Flags) : Primitive → Option Pattern
  | .literal c => some (.char (flags.fold (.single c)))
  | .byte c =>
    if flags.unicode || c.toNat < 0x80 then
      some (.char (flags.fold (.single c)))
    else none
  | .chars a => some (.char a)
  | .place a => some (.place a)
  | .dot =>
    if flags.unicode then
      let newline :=
        if flags.crlf then CharClass.union (.single '\n') (.single '\r') else .single '\n'
      some (.char (.complement (if flags.dotMatchesAll then .nothing else newline)))
    else none

/-- A unit outside of bracket expressions. -/
def unit : Parser Pattern := do
  let c ← need
  let flags := (← get).flags
  let primitive ← match c with
    | '\\' => escape
    | '.' => do
      bump
      pure .dot
    | '^' => do
      bump
      pure (.place (if flags.multiLine then .lineStart flags.crlf else .textStart))
    | '$' => do
      bump
      pure (.place (if flags.multiLine then .lineEnd flags.crlf else .textEnd))
    | _ => do
      bump
      pure (.literal c)
  match unitPattern flags primitive with
  | some p => return p
  | none => failure

/-- The parts of a sequence, which stand in reverse, as one part. -/
def joinParts (parts : List Part) : Part :=
  match parts with
  | [] => { pattern := .empty }
  | [p] => p
  | p :: ps =>
    { pattern := ps.foldl (fun q p => .seq p.pattern q) p.pattern
      depth := (p :: ps).foldl (fun d p => max d p.depth) 0 + 1 }

mutual

/-- Alternatives, and the number of them. -/
def alternatives : Nat → Parser (Part × Nat)
  | 0 => failure
  | fuel + 1 => do
    let first ← sequence fuel []
    if (← peek) = some '|' then
      bump
      let (rest, n) ← alternatives fuel
      let part : Part :=
        { pattern := .either first.pattern rest.pattern, depth := max first.depth rest.depth }
      return (part, n + 1)
    else return (first, 1)

/-- A sequence of parts; those that are read stand in reverse. -/
def sequence : Nat → List Part → Parser Part
  | 0, _ => failure
  | fuel + 1, parts => do
    space
    match ← peek with
    | none | some ')' | some '|' => return joinParts parts
    | some '(' =>
      bumpSpace
      let outer := (← get).flags
      if ← groupOpen then
        let (inner, n) ← alternatives fuel
        expect ')'
        -- Flags that are set in a group end with it.
        modify fun s => { s with flags := outer }
        let depth := inner.depth + (if n > 1 then 2 else 1)
        sequence fuel ({ pattern := inner.pattern, depth } :: parts)
      else sequence fuel ({ pattern := .empty, repeatable := false } :: parts)
    | some '[' =>
      let (a, depth) ← bracketClass
      sequence fuel ({ pattern := .char a, depth } :: parts)
    | some '?' =>
      bump
      sequence fuel (← repeatLast parts 0 (some 1))
    | some '*' =>
      bump
      sequence fuel (← repeatLast parts 0 none)
    | some '+' =>
      bump
      sequence fuel (← repeatLast parts 1 none)
    | some '\x7b' =>
      let (least, most) ← counts
      sequence fuel (← repeatLast parts least most)
    | some _ =>
      let pattern ← unit
      sequence fuel ({ pattern } :: parts)

end

/-- How deep a pattern may be nested. -/
def depthLimit : Nat := 250

/-- How much memory a matcher may need for a pattern. -/
def weightLimit : Nat := 10 * Nat.pow 2 20

/-- Reads a pattern. -/
def parse? (text : String) : Option Pattern := do
  let ((part, n), s) ← (alternatives (2 * text.length + 2)).run { rest := text.toList }
  let depth := part.depth + (if n > 1 then 1 else 0)
  if s.rest.isEmpty && depth ≤ depthLimit && part.pattern.weight ≤ weightLimit then
    some part.pattern
  else none

end CallReach.Pattern
