import CallReach.Source.Outline
import CallReach.Source.Scope

/-!
# Imports

The names that the `use` items of a file bring into scope, each with the path that it stands for.
Imports of everything in a module bind no name.
-/

namespace CallReach.Source

/-- The imported names, the one bound last first. -/
structure Imports where
  entries : List (String × List String) := []

namespace Imports

/-- Binds a name, in place of what it was bound to before. -/
def bind (i : Imports) (name : String) (path : List String) : Imports :=
  ⟨(name, path) :: i.entries.filter (·.1 ≠ name)⟩

/-- The path that a name is bound to. -/
def find? (i : Imports) (name : String) : Option (List String) :=
  i.entries.lookup name

/-- Whether a name is bound. -/
def contains (i : Imports) (name : String) : Bool :=
  (i.find? name).isSome

/-- The number of names that are bound. -/
def size (i : Imports) : Nat := i.entries.length

mutual

/-- Binds the names of a tree below the path `stem`, for a file that is the module `m`. A leaf
`self` stands for the path above it. -/
def addTree (m : ModulePath) (stem : List String) (i : Imports) : UseTree → Imports
  | .path first rest => addTree m (stem ++ [first.text]) i rest
  | .name leaf =>
    if leaf.text = "self" then
      match stem.getLast? with
      | some last => i.bind last (m.anchor stem)
      | none => i
    else i.bind leaf.text (m.anchor (stem ++ [leaf.text]))
  | .rename leaf newName => i.bind newName.text (m.anchor (stem ++ [leaf.text]))
  | .group trees => addTrees m stem i trees
  | .glob => i

/-- Binds the names of several trees, in order. -/
def addTrees (m : ModulePath) (stem : List String) (i : Imports) : List UseTree → Imports
  | [] => i
  | tree :: trees => addTrees m stem (addTree m stem i tree) trees

end

/-- The names that the given trees bring into scope. -/
def ofTrees (m : ModulePath) (trees : List UseTree) : Imports :=
  addTrees m [] {} trees

/-- The path that a called path stands for in the module `m`: an imported first segment is replaced
by its path, `crate`, `self` and `super` are resolved, and a single name is a name of the module.
Any other path stays as written. -/
def resolvePath (i : Imports) (m : ModulePath) (call : String) : List String :=
  match Text.segments call with
  | [] => []
  | first :: rest =>
    match i.find? first with
    | some path => path ++ rest
    | none =>
      match m.anchor? (first :: rest) with
      | some path => path
      -- A lone name is declared next to the call; other paths are left to the index.
      | none => if rest.isEmpty then m ++ [call] else first :: rest

end Imports

end CallReach.Source
