import CallReach.Toml.Scanner

/-!
# Reading TOML

Values, and documents made of key-value lines and table headers. Later parts of a document may add
to a table only in certain ways: a header may not name a table twice, dotted keys may not reach into
a table that has a header, and nothing may reach into a value.
-/

namespace CallReach.Toml

open Scanner

/-! ### Adding to tables -/

/-- A table that is only mentioned on the way to another one. -/
def passing (dotted : Bool) : Table Toml := { implicit := true, dotted }

/-- Changes the table at the end of a path of headers or dotted keys, making the tables on the way.
The last one of several tables stands for all of them. -/
def Table.descend? (dotted : Bool) (change : Table Toml → Option (Table Toml)) :
    List String → Table Toml → Option (Table Toml)
  | [], t => change t
  | k :: path, t =>
    match t.find? k with
    | none => (descend? dotted change path (passing dotted)).map fun c => t.set k (.table c)
    | some (.table c) =>
      -- A table with a header is closed to dotted keys.
      if dotted && !c.implicit then none
      else (descend? dotted change path c).map fun c => t.set k (.table c)
    | some (.tables ts) =>
      match ts.getLast? with
      | some c =>
        (descend? dotted change path c).map fun c => t.set k (.tables (ts.dropLast ++ [c]))
      | none => none
    | some _ => none

/-- Changes the table at the end of a path of dotted keys inside an inline table. -/
def Table.descendInline? (change : Table Toml → Option (Table Toml)) :
    List String → Table Toml → Option (Table Toml)
  | [], t => change t
  | k :: path, t =>
    match t.find? k with
    | none => (descendInline? change path (passing true)).map fun c => t.set k (.inlineTable c)
    | some (.inlineTable c) =>
      if c.implicit then
        (descendInline? change path c).map fun c => t.set k (.inlineTable c)
      else none
    | some _ => none

/-- Adds an entry to a table that was reached by a path of dotted keys, which may be empty. -/
def Table.add? (viaDots : Bool) (key : String) (value : Toml) (t : Table Toml) :
    Option (Table Toml) :=
  -- A table made by dotted keys takes entries only through dotted keys.
  if t.dotted = !viaDots then none
  else if (t.find? key).isSome then none
  else some (t.set key value)

/-- Adds a key-value pair to a table; `descend` follows the dots of the key. -/
def addPair?
    (descend : (Table Toml → Option (Table Toml)) → List String → Table Toml → Option (Table Toml))
    (key : List String) (value : Toml) (t : Table Toml) : Option (Table Toml) :=
  match key.getLast? with
  | none => none
  | some last => descend (Table.add? (key.length > 1) last value) key.dropLast t

/-! ### Values -/

/-- Items separated by commas up to a closing bracket; a comma may follow the last one where
`trailing` says so. -/
def separated {α : Type} (space : Scanner Unit) (close : Char) (trailing : Bool)
    (item : Scanner α) : Scanner (List α) := do
  space
  if ← take? [close] then return []
  repeating do
    let a ← item
    space
    if ← take? [','] then
      space
      -- A comma may stand before the bracket that closes an array, but not a table.
      if trailing && (← take? [close]) then return some (a, false) else return some (a, true)
    else
      expect close
      return some (a, false)

/-- A value without brackets. -/
def scalar : Scanner Toml := do
  match ← peek with
  | some '"' | some '\'' => return .string (← Scanner.string)
  | some 't' => if ← take? "true".toList then return .boolean true else failure
  | some 'f' => if ← take? "false".toList then return .boolean false else failure
  | _ => numeric

/-- A value with at most `depth` brackets around its parts. -/
def valueUpTo : Nat → Scanner Toml
  | 0 => scalar
  | depth + 1 => do
    if ← take? ['['] then
      return .array (← separated blankLines ']' true (valueUpTo depth))
    else if ← take? ['\x7b'] then
      let pairs ← separated spaces '\x7d' false do
        let k ← key
        expect '='
        spaces
        return (k, ← valueUpTo depth)
      match pairs.foldlM (fun t (k, v) => addPair? Table.descendInline? k v t) {} with
      | some t => return .inlineTable t
      | none => failure
    else scalar

/-- A value. -/
def value : Scanner Toml := valueUpTo (depthLimit - 1)

/-! ### Documents -/

/-- A line of a document. -/
inductive Line where
  | pair (key : List String) (value : Toml)
  | header (path : List String)
  | arrayHeader (path : List String)

/-- A line that is not blank. -/
def line : Scanner Line := do
  if ← take? ['[', '['] then
    let path ← key
    expect ']'
    expect ']'
    return .arrayHeader path
  else if ← take? ['['] then
    let path ← key
    expect ']'
    return .header path
  else
    let k ← key
    expect '='
    spaces
    return .pair k (← value)

/-- The lines of a document that are not blank. -/
def lines : Scanner (List Line) := do
  repeating do
    blankLines
    if (← get).isEmpty then return none
    let l ← line
    lineEnd
    return some (l, true)

/-- A document as far as it is read: the finished tables, and the table that lines are added to,
with its path and whether it is one of several tables. -/
structure Draft where
  root : Table Toml := {}
  current : Table Toml := {}
  path : List String := []
  several : Bool := false

namespace Draft

/-- Puts the current table into the finished ones. -/
def finish? (d : Draft) : Option (Table Toml) :=
  match d.path.getLast? with
  | none => some d.current
  | some last =>
    let put (parent : Table Toml) : Option (Table Toml) :=
      match d.several, parent.find? last with
      | true, none => some (parent.set last (.tables [d.current]))
      | true, some (.tables ts) => some (parent.set last (.tables (ts ++ [d.current])))
      | true, some _ => none
      | false, none => some (parent.set last (.table d.current))
      -- The entries made before the header are in the current table by now.
      | false, some (.table t) =>
        if t.implicit then some (parent.set last (.table d.current)) else none
      | false, some _ => none
    Table.descend? false put d.path.dropLast d.root

/-- Starts a table by a header. A table that was only mentioned before keeps its entries. -/
def startTable? (root : Table Toml) (path : List String) : Option Draft := do
  let last ← path.getLast?
  let existing ← find? path.dropLast last root
  let current : Table Toml ← match existing with
    | none => some {}
    | some (.table t) => if t.implicit && !t.dotted then some { entries := t.entries } else none
    | some _ => none
  -- The table is taken out while lines are added to it, and `finish?` puts it back.
  let root ← Table.descend? false (fun parent => some (parent.erase last)) path.dropLast root
  return { root, current, path }
where
  /-- The value at the end of a path, if every table on the way can be entered or made. -/
  find? (path : List String) (last : String) (t : Table Toml) : Option (Option Toml) :=
    match path with
    | [] => some (t.find? last)
    | k :: path =>
      match t.find? k with
      | none => some none
      | some (.table c) => find? path last c
      | some (.tables ts) =>
        match ts.getLast? with
        | some c => find? path last c
        | none => none
      | some _ => none

/-- Starts one of several tables by a header. -/
def startTables? (root : Table Toml) (path : List String) : Option Draft := do
  let last ← path.getLast?
  let check (parent : Table Toml) : Option (Table Toml) :=
    match parent.find? last with
    | none | some (.tables _) => some parent
    | some _ => none
  let root ← Table.descend? false check path.dropLast root
  return { root, path, several := true }

/-- Adds a line. -/
def add? (d : Draft) : Line → Option Draft
  | .pair key value => do
    let current ← addPair? (Table.descend? true) key value d.current
    return { d with current }
  | .header path => do startTable? (← d.finish?) path
  | .arrayHeader path => do startTables? (← d.finish?) path

end Draft

/-- Reads a document. A byte order mark may come first. -/
def parse? (text : String) : Option (Table Toml) := do
  let chars := match text.toList with
    | '\ufeff' :: rest => rest
    | cs => cs
  let (ls, _) ← lines.run chars
  let d ← ls.foldlM Draft.add? {}
  d.finish?

end CallReach.Toml
