import CallReach.Json.Basic
import CallReach.Text.Blank

/-!
# Log entries

What a run notes about itself: entries with a level, the part of the program that speaks, and
fields.
-/

namespace CallReach.Log

/-- How much an entry matters; the first level matters most. -/
inductive Level where
  | error
  | warn
  | info
  | debug
  | trace
  deriving DecidableEq, Repr

/-- The name of a level. -/
def Level.text : Level → String
  | error => "ERROR"
  | warn => "WARN"
  | info => "INFO"
  | debug => "DEBUG"
  | trace => "TRACE"

/-- The place of a level among all of them. -/
def Level.rank : Level → Nat
  | error => 1
  | warn => 2
  | info => 3
  | debug => 4
  | trace => 5

/-- An entry. -/
structure Entry where
  level : Level
  target : String
  fields : List (String × Json)

/-- The part of the program that notes whatever it is told. -/
def general : String := "impactmap_core::logging"

/-- An entry with a message and fields. -/
def entry (level : Level) (target message : String) (fields : List (String × Json)) : Entry :=
  { level, target, fields := ("message", .text message) :: fields }

/-- An entry that holds only a detail. -/
def note (level : Level) (detail : String) : Entry :=
  { level, target := general, fields := [("detail", .text detail)] }

/-- The level of a named event, which its name tells regardless of case. The letters that are looked
for have case forms in ASCII only. -/
def eventLevel (event : String) : Level :=
  let name := Text.asciiLower event
  if Text.contains name "error" then .error
  else if Text.contains name "warn" then .warn
  else .info

/-- An entry about a named event. -/
def event (name detail : String) : Entry :=
  { level := eventLevel name, target := general,
    fields := [("event", .text name), ("detail", .text detail)] }

/-- The lowest rank that is shown, by the name of a level. Without a name, warnings and errors
are. -/
def threshold (name : Option String) : Nat :=
  match name.map Text.asciiLower with
  | some "off" => 0
  | some "error" => 1
  | some "info" => 3
  | some "debug" => 4
  | some "trace" => 5
  | _ => 2

/-- The entries that are shown. -/
def shown (name : Option String) (entries : List Entry) : List Entry :=
  entries.filter (·.level.rank ≤ threshold name)

end CallReach.Log
