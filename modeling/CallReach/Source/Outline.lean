import CallReach.Source.Token

/-!
# Outlines

The outline of a source file is its syntax tree as far as the walk over it looks at nodes:
declarations of functions, the closures, the modules and implementation blocks that hold them,
invocations of macros, and the paths and methods that expressions mention. Everything stands in
reading order, except that the `where` clause of a declaration is read with its generic parameters.
All other syntax leaves no trace but the outlines of its parts.
-/

namespace CallReach.Source

/-- One node of an outline. -/
inductive Outline where
  /-- A path that stands as a value or as a pattern, by its segments. -/
  | mention (path : List Name)
  /-- The name of a method that is called on a receiver. -/
  | method (name : Name)
  /-- A closure, with the row of its first token. -/
  | closure (row : Nat) (inside : List Outline)
  /-- A function with a body, with the row of its name. It is associated when it is declared
  directly in an `impl` or `trait` block. -/
  | function (name : Name) (row : Nat) (associated : Bool) (inside : List Outline)
  /-- A function that a `trait` block asks for without giving a body, with the row of its name. -/
  | requirement (name : Name) (row : Nat) (inside : List Outline)
  /-- An `impl` block by the name of its type, or a `trait` block by its name. -/
  | owner (type : Name) (inside : List Outline)
  /-- A module with its items in the same file. -/
  | module (name : Name) (inside : List Outline)
  /-- A module with its items in a file of its own, so that only its attributes are inside. -/
  | moduleFile (name : Name) (inside : List Outline)
  /-- The invocation of a macro, with its arguments if its tokens are comma-separated
  expressions. -/
  | invocation (arguments : Option (List Outline))

/-- The outlines of a stretch of source text. -/
abbrev Forest := List Outline

/-- The tree of a `use` item. -/
inductive UseTree where
  | name (leaf : Name)
  | rename (leaf newName : Name)
  | glob
  | path (first : Name) (rest : UseTree)
  | group (trees : List UseTree)

end CallReach.Source
