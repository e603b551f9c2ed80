/-!
# TOML documents

Values of the TOML format. A table remembers how it came about, because that decides which later
parts of a document may add to it.
-/

namespace CallReach

namespace Toml

/-- A table: its entries in order, whether it was only mentioned on the way to another one, and
whether it was made by a dotted key. -/
structure Table (α : Type) where
  implicit : Bool := false
  dotted : Bool := false
  entries : List (String × α) := []

namespace Table

variable {α : Type}

/-- The value of a key. -/
def find? (t : Table α) (key : String) : Option α := t.entries.lookup key

/-- Sets the value of a key, at its old place if it has one. -/
def set (t : Table α) (key : String) (value : α) : Table α :=
  if t.entries.any (·.1 = key) then
    { t with entries := t.entries.map fun e => if e.1 = key then (key, value) else e }
  else { t with entries := t.entries ++ [(key, value)] }

/-- Removes a key. -/
def erase (t : Table α) (key : String) : Table α :=
  { t with entries := t.entries.filter (·.1 ≠ key) }

end Table

end Toml

/-- A TOML value. The value of a number or date plays no part anywhere, so only its kind is kept. -/
inductive Toml where
  | string (text : String)
  | integer
  | float
  | boolean (b : Bool)
  | dateTime
  | array (items : List Toml)
  | inlineTable (table : Toml.Table Toml)
  | table (table : Toml.Table Toml)
  | tables (items : List (Toml.Table Toml))

end CallReach
