import CallReach.Path

/-!
# Module paths

A source file stands for a module of its package, and the place of the file below the source
directory gives the path of that module. Paths in the source text that start with `crate`, `self` or
`super` are made relative to the package here.
-/

namespace CallReach.Source

/-- The path of a module from the root of its package. -/
abbrev ModulePath := List String

namespace ModulePath

/-- The segment that the name of a source file stands for; the root files of a module stand for the
directory that they are in. -/
def ofFileName (name : String) : ModulePath :=
  if name = "mod.rs" || name = "lib.rs" || name = "main.rs" then []
  else
    let back := name.toList.reverse
    if ['s', 'r', '.'].isPrefixOf back then [String.ofList (back.drop 3).reverse] else [name]

/-- The module of a file, given by its path below the source directory. -/
def ofFile (relative : String) : ModulePath :=
  let names := (Path.components relative).filterMap fun
    | .name s => some s
    | _ => none
  match names.getLast? with
  | none => []
  | some file => names.dropLast ++ ofFileName file

/-- The module `n` levels up; there is nothing above the root. -/
def ancestor (m : ModulePath) (n : Nat) : ModulePath :=
  m.take (m.length - n)

/-- A name declared in a module, or in a type or module inside it. -/
def qualify (m : ModulePath) (name : String) : String :=
  Text.joinSegments (m ++ [name])

/-- A path that starts with `crate`, `self` or `super`, from the root of the package. Other paths
are not anchored. -/
def anchor? (m : ModulePath) : List String → Option (List String)
  | [] => none
  | first :: rest =>
    if first = "crate" then some rest
    else if first = "self" then some (m ++ rest)
    else if first = "super" then
      let above := rest.takeWhile (· = "super")
      some (m.ancestor (above.length + 1) ++ rest.drop above.length)
    else none

/-- A path from the root of the package if it is anchored, as written if not. -/
def anchor (m : ModulePath) (path : List String) : List String :=
  (m.anchor? path).getD path

end ModulePath

/-- The name of a function in the whole program, from its package and its name there. -/
def packageQualified (package «local» : String) : String :=
  package ++ "::" ++ «local»

end CallReach.Source
