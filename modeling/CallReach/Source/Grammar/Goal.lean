import CallReach.Source.Reader

/-!
# What the grammar reads

The results of reading expressions, types, patterns and paths: each is the forest of its outlines
with the few facts about its form on which reading goes on. The forms that nest in one another are
the goals of a `Grammar`; the readers of each form take the grammar of the nested forms as a
parameter, and the recursion is closed in one place.
-/

namespace CallReach.Source

/-- A list of attributes: the row of the first one, if any, and the outlines of their values. -/
structure Attributes where
  row : Option Nat := none
  parts : Forest := []

/-- Attributes followed by further ones. -/
def Attributes.append (a b : Attributes) : Attributes :=
  { row := a.row.orElse fun _ => b.row, parts := a.parts ++ b.parts }

/-- The outlines of a declaration with attributes in front. One that is dropped leaves none. -/
def Attributes.on (a : Attributes) (parts : Option Forest) : Forest :=
  match parts with
  | some parts => a.parts ++ parts
  | none => []

/-- The arguments of a path segment. -/
inductive Arguments where
  | absent
  | angle (empty : Bool)
  | round
  deriving DecidableEq

/-- Whether the segment has no argument. -/
def Arguments.isEmpty : Arguments → Bool
  | absent => true
  | angle empty => empty
  | round => false

/-- A segment of a path, with the outlines of its arguments. -/
structure Segment where
  name : Name
  arguments : Arguments := .absent
  parts : Forest := []

/-- A path. It is qualified when it starts with a type in angle brackets, whose outlines then come
first. -/
structure PathTree where
  segments : List Segment
  absolute : Bool := false
  qualified : Bool := false
  typeParts : Forest := []

namespace PathTree

/-- The names of the segments. -/
def names (p : PathTree) : List Name := p.segments.map (·.name)

/-- The outlines of all arguments. -/
def parts (p : PathTree) : Forest := p.typeParts ++ p.segments.flatMap (·.parts)

/-- Whether no segment has a list of arguments. -/
def isBare (p : PathTree) : Bool := p.segments.all (·.arguments = .absent)

/-- The arguments of the last segment. -/
def lastArguments (p : PathTree) : Arguments :=
  (p.segments.getLast?.map (·.arguments)).getD .absent

/-- The path with the arguments of its last segment replaced. -/
def withArguments (p : PathTree) (a : Arguments) (parts : Forest) : PathTree :=
  match p.segments.getLast? with
  | none => p
  | some s => { p with segments := p.segments.dropLast ++ [{ s with arguments := a, parts }] }

end PathTree

/-- The forms of types that reading tells apart: paths, of which some may name a generic argument,
and bounds that stand for a type, of which a single one may be extended. -/
inductive TypeShape where
  | path (simple : Bool)
  | bounds (single : Bool)
  | other
  deriving DecidableEq

/-- A type, with the last segment of the path that it is or refers to. -/
structure TypeTree where
  shape : TypeShape := .other
  name : Option Name := none
  parts : Forest := []

/-- The forms of patterns that reading tells apart. A dropped form leaves no outline, and as the
parameter of a closure not even one of its attributes. -/
inductive PatternShape where
  | rest
  | halfRange (dots : Position)
  | dropped
  | other

/-- A pattern. -/
structure PatternTree where
  shape : PatternShape := .other
  parts : Forest := []

/-- The kinds of bounds on a type. -/
inductive BoundKind where
  | lifetime
  | capture
  | trait
  deriving DecidableEq

/-- The forms of expressions that reading tells apart. A block form ends a statement by itself; a
dropped form leaves no outline, not even of its attributes. -/
inductive Form where
  | range
  | comparison
  | operation
  | closure
  | block
  | invocation (brace : Bool)
  | dropped
  | other
  deriving DecidableEq

/-- An expression. `lead` is the form of the operand at its left end, to which attributes of a
statement belong. -/
structure Expression where
  form : Form := .other
  lead : Form := form
  parts : Forest := []

/-- The expression with attributes in front. Those of a closure belong to it, and it then starts on
the row of the first one. -/
def Expression.withAttributes (e : Expression) (a : Attributes) : Expression :=
  match a.row, e.lead, e.parts with
  | none, _, _ => e
  | some _, .dropped, _ => e
  | some row, .closure, .closure _ inside :: parts =>
    { e with parts := .closure row (a.parts ++ inside) :: parts }
  | some _, _, parts => { e with parts := a.parts ++ parts }

/-- How tightly an operator binds: a larger number binds tighter. -/
abbrev Precedence := Nat

namespace Precedence

def least : Precedence := 0
def assign : Precedence := 1
def range : Precedence := 2
def or : Precedence := 3
def and : Precedence := 4
def compare : Precedence := 6
def bitOr : Precedence := 7
def bitXor : Precedence := 8
def bitAnd : Precedence := 9
def shift : Precedence := 10
def sum : Precedence := 11
def product : Precedence := 12
def cast : Precedence := 13

end Precedence

/-- An item: its outlines, and its tree if it is a `use`. -/
structure ItemTree where
  parts : Forest := []
  tree : Option UseTree := none

/-- The forms that nest in one another, each with the type of its result. `structs` tells whether a
path followed by a brace is a structure expression, `plus` whether `+` may join bounds, `capture`
and `const` whether a bound may be `use<…>` or hold `const`. A leading expression stands where a
statement starts. -/
inductive Goal : Type → Type where
  | expression (structs : Bool) : Goal Expression
  | operand (structs : Bool) : Goal Expression
  | operation (left : Expression) (structs : Bool) (base : Precedence) : Goal Expression
  | leading : Goal Expression
  | statements : Goal Forest
  | type (plus : Bool) : Goal TypeTree
  | bound (capture const : Bool) : Goal (BoundKind × Forest)
  | pattern : Goal PatternTree
  | item : Goal ItemTree
  | useTree (root : Bool) : Goal (Option UseTree)

/-- The readers of the nested forms. -/
structure Grammar where
  read : {α : Type} → Goal α → Reader α

namespace Grammar

/-- An expression that starts where a structure expression may start. -/
def expression (g : Grammar) : Reader Expression := g.read (.expression true)

/-- A type, in which `+` may join bounds. -/
def type (g : Grammar) : Reader TypeTree := g.read (.type true)

/-- Statements up to the end of the tokens. -/
def statements (g : Grammar) : Reader Forest := g.read .statements

/-- The outlines of the arguments of an invocation, if its tokens are comma-separated
expressions. -/
def arguments? (g : Grammar) (close : Position) (inside : List Token) : Option Forest :=
  match Reader.commaSeparated g.expression { tokens := inside, stop := close } with
  | .ok (arguments, rest) =>
    if rest.tokens.isEmpty && rest.stray.isNone then some (arguments.flatMap (·.parts)) else none
  | .error _ => none

/-- The brackets of an invocation: their kind and the outline of the invocation. -/
def invocation (g : Grammar) : Reader (Bracket × Forest) := do
  let (b, close, inside) ← Reader.anyGroup
  return (b, [.invocation (g.arguments? close inside)])

end Grammar

end CallReach.Source
