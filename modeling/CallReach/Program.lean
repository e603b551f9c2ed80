/-!
# Programs

The functions of a program with the places where they are declared, and the calls between them. A
closure is named after the function that holds it: the name, a dollar sign and an ordinal, which is
how closures and the functions around them are found again.
-/

namespace CallReach

/-- The character between the name of a function and the ordinal of a closure in it. -/
def closureMark : Char := '$'

/-- The name of the closure with a given ordinal directly inside a function or closure. -/
def closureName (parent : String) (ordinal : Nat) : String :=
  parent ++ "$" ++ toString ordinal

/-- What follows the last occurrence of `sep`, if it occurs. -/
def afterLast? (sep : List Char) : List Char → Option (List Char)
  | [] => none
  | c :: cs =>
    match afterLast? sep cs with
    | some rest => some rest
    | none => if sep.isPrefixOf (c :: cs) then some ((c :: cs).drop sep.length) else none

/-- What follows the last occurrence of `sep`, or everything if it does not occur. -/
def afterLast (sep cs : List Char) : List Char :=
  (afterLast? sep cs).getD cs

/-- A function with its qualified name and the place of its declaration. The file is empty and the
line is zero if they are not known. -/
structure Function where
  name : String
  file : String := ""
  line : Nat := 0
  deriving DecidableEq, Repr

namespace Function

/-- Whether the place of declaration is known. -/
def hasPosition (f : Function) : Bool :=
  f.file ≠ "" && f.line > 0

/-- Whether a name is that of a closure. -/
def isClosureName (name : String) : Bool :=
  name.toList.contains closureMark

/-- The name of the function around a closure, however deep the closure is nested. -/
def enclosingOf (name : String) : String :=
  String.ofList (name.toList.takeWhile (· ≠ closureMark))

/-- The last segment of a qualified name. -/
def shortOf (name : String) : String :=
  String.ofList (afterLast ['.'] (afterLast ['/'] (afterLast [':', ':'] name.toList)))

/-- Whether the function is a closure. -/
def isClosure (f : Function) : Bool := isClosureName f.name

/-- The name of the outermost function around this one, its own name if it is no closure. -/
def enclosingName (f : Function) : String := enclosingOf f.name

/-- The last segment of the qualified name. -/
def shortName (f : Function) : String := shortOf f.name

/-- File and line of the declaration. -/
def location (f : Function) : String :=
  f.file ++ ":" ++ toString f.line

end Function

/-- One function may call another, both given by name. -/
structure Call where
  caller : String
  callee : String
  deriving DecidableEq, Repr

/-- A whole program. Calls may be repeated and may name functions that are not listed. -/
structure Program where
  functions : List Function := []
  calls : List Call := []
  deriving DecidableEq, Repr

end CallReach
