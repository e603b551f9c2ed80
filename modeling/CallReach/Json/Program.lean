import CallReach.Failure
import CallReach.Json.Parser
import CallReach.Path
import CallReach.Program

/-!
# Programs as JSON documents

A program is an object with its functions and calls. Each record may also be an array of its fields
in order, in which trailing fields with a default may be missing. Members that the format does not
know are skipped.
-/

namespace CallReach.Json

/-- The text of a string value. -/
def text? : Json → Option String
  | string s => s
  | _ => none

/-- A natural number below 2⁶⁴, written without sign, fraction and exponent. -/
def size? : Json → Option Nat
  | number t =>
    let digits := t.toList
    if !digits.isEmpty && digits.all Char.isDigit then
      let n := Nat.ofDigitChars 10 digits 0
      if n < Nat.pow 2 64 then some n else none
    else none
  | _ => none

/-- The items of an array, each read by `item`. -/
def list? {α : Type} (item : Json → Option α) : Json → Option (List α)
  | array items => items.mapM item
  | _ => none

/-- The values of the given fields of a record. Keys must be texts, and no field may be given
twice. -/
def fields? (keys : List String) : Json → Option (List (Option Json))
  | object members =>
    if members.all (·.1.isSome) && keys.all fun k => (members.filter (·.1 = some k)).length ≤ 1 then
      some (keys.map fun k => members.lookup (some k))
    else none
  | array items =>
    if items.length ≤ keys.length then some ((List.range keys.length).map fun i => items[i]?)
    else none
  | _ => none

/-- A field that must be given. -/
def required {α : Type} (read : Json → Option α) (v : Option Json) : Option α := v.bind read

/-- A field that may be missing. -/
def optional {α : Type} (read : Json → Option α) (default : α) : Option Json → Option α
  | none => some default
  | some v => read v

/-- Reads a function. -/
def function? (v : Json) : Option Function := do
  match ← fields? ["name", "file", "line"] v with
  | [name, file, line] =>
    return { name := ← required text? name, file := ← optional text? "" file,
             line := ← optional size? 0 line }
  | _ => none

/-- Reads a call. -/
def call? (v : Json) : Option Call := do
  match ← fields? ["caller", "callee"] v with
  | [caller, callee] =>
    return { caller := ← required text? caller, callee := ← required text? callee }
  | _ => none

/-- Reads a program. -/
def program? (v : Json) : Option Program := do
  match ← fields? ["functions", "edges"] v with
  | [functions, calls] =>
    return { functions := ← optional (list? function?) [] functions,
             calls := ← optional (list? call?) [] calls }
  | _ => none

/-- The document of a function. -/
def ofFunction (f : Function) : Json :=
  record [("name", text f.name), ("file", text f.file), ("line", nat f.line)]

/-- The document of a call. -/
def ofCall (c : Call) : Json :=
  record [("caller", text c.caller), ("callee", text c.callee)]

/-- The document of a program. -/
def ofProgram (p : Program) : Json :=
  record [("functions", array (p.functions.map ofFunction)), ("edges", array (p.calls.map ofCall))]

end CallReach.Json

namespace CallReach

/-- A file name as it is seen from the root directory: relative names are joined to it. -/
def Function.rooted (root : String) (f : Function) : Function :=
  if f.file ≠ "" && !Path.isAbsolute f.file then
    { f with file := Path.normalize (Path.join root f.file) }
  else f

/-- Reads the document of a program. `origin` names it in failures, and relative files are taken
from `root`. -/
def Program.parse (content origin root : String) : Except Failure Program :=
  match (Json.parse? content).bind Json.program? with
  | some p => .ok { p with functions := p.functions.map (·.rooted root) }
  | none => .error (.modelLoad origin "invalid program model" (some "not a program document"))

end CallReach
