import CallReach.Source.Grammar.Statement
import CallReach.Source.Lexer

/-!
# Source files

The readers of the nested forms are tied into one grammar here, and `SourceFile.parse` reads a whole
text: its outlines, and the trees of its `use` items at the top.
-/

namespace CallReach.Source

namespace Grammar

/-- Reads a nested form. Each form that is entered costs a unit of fuel. -/
def readUpTo : Nat → {α : Type} → Goal α → Reader α
  | 0, _, _ => Reader.refuse
  | fuel + 1, _, goal =>
    let g : Grammar := ⟨readUpTo fuel⟩
    match goal with
    | .expression structs => expressionForm g structs
    | .operand structs => operandForm g structs
    | .operation left structs base => operationForm g left structs base
    | .leading => leadingForm g
    | .statements => statementsForm g
    | .type plus => typeForm g plus
    | .bound capture const => Grammar.bound g capture const
    | .pattern => patternForm g
    | .item => itemForm g
    | .useTree root => useTreeForm g root

/-- The grammar for texts of at most `n` tokens. No more than eight forms are entered before a token
is taken. -/
def forTokens (n : Nat) : Grammar := ⟨readUpTo (8 * n + 32)⟩

/-- The attributes and items of a file. -/
def file (g : Grammar) : Reader (Forest × List UseTree) := do
  let attributes ← innerAttributes g
  let items ← Reader.manyUntil .none (g.read .item)
  return (attributes.parts ++ items.flatMap (·.parts), items.filterMap (·.tree))

end Grammar

/-- A source file as read: its outlines, and the trees of its `use` items at the top. -/
structure SourceFile where
  outline : Forest
  uses : List UseTree

/-- Reads a source text, or finds the place of its first error. -/
def SourceFile.parse (text : String) : Except Position SourceFile := do
  let ts ← tokens text
  let g := Grammar.forTokens (Token.countAll ts)
  let ((outline, uses), rest) ← g.file.run { tokens := ts, stop := .first }
  match rest.stray with
  | some p => throw p
  | none => return { outline, uses }

end CallReach.Source
