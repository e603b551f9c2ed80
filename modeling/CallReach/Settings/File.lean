import CallReach.Settings.Basic
import CallReach.Toml.Parser

/-!
# Settings files

A repository may hold a TOML file with defaults for the settings. Keys that are not known are
skipped.
-/

namespace CallReach

/-- How to print the report. -/
structure OutputSettings where
  format : Option String := none
  deriving DecidableEq, Repr

/-- What a settings file says. -/
structure FileSettings where
  modulePrefix : Option String := none
  generated : Option (List String) := none
  linkClosures : Option Bool := none
  granularity : Option Granularity := none
  output : Option OutputSettings := none
  deriving DecidableEq, Repr

namespace FileSettings

/-- The name of the settings file of a repository. -/
def fileName : String := "impactmap.toml"

/-- A string. -/
def text? : Toml → Option String
  | .string t => some t
  | _ => none

/-- A truth value. -/
def switch? : Toml → Option Bool
  | .boolean b => some b
  | _ => none

/-- A list of strings. -/
def texts? : Toml → Option (List String)
  | .array items => items.mapM text?
  | _ => none

/-- Whether a value has no parts. -/
def isEmpty : Toml → Bool
  | .array items => items.isEmpty
  | .inlineTable t | .table t => t.entries.isEmpty
  | .tables ts => ts.isEmpty
  | _ => false

/-- A granularity by its exact name, as a string or as the only key of a table with nothing in
it. -/
def granularity? (v : Toml) : Option Granularity :=
  match v with
  | .string t => named? t
  | .inlineTable t | .table t =>
    match t.entries with
    | [(k, v)] => if isEmpty v then named? k else none
    | _ => none
  | _ => none
where
  /-- The granularity with a name. -/
  named? (name : String) : Option Granularity :=
    [Granularity.file, .function].find? (·.text = name)

/-- Reads the key `k` of a table, if it is there; fails if its value cannot be read. -/
def entry? {α : Type} (t : Toml.Table Toml) (k : String) (read : Toml → Option α) :
    Option (Option α) :=
  match t.find? k with
  | none => some none
  | some v => (read v).map some

/-- How to print the report, as a table or as an array of its fields in order. A date counts as a
table that holds nothing known. -/
def output? : Toml → Option OutputSettings
  | .inlineTable t | .table t => do return { format := ← entry? t "format" text? }
  | .array (format :: _) => do return { format := some (← text? format) }
  | .dateTime => some {}
  | _ => none

/-- Reads the settings of a document. -/
def ofTable? (t : Toml.Table Toml) : Option FileSettings := do
  return { modulePrefix := ← entry? t "module_prefix" text?
           generated := ← entry? t "generated" texts?
           linkClosures := ← entry? t "link_closures" switch?
           granularity := ← entry? t "granularity" granularity?
           output := ← entry? t "output" output? }

/-- Reads a settings file, which is named by its path in a failure. -/
def parse (path content : String) : Except Failure FileSettings :=
  match (Toml.parse? content).bind ofTable? with
  | some settings => .ok settings
  | none => .error (.config s!"invalid {path}" (some "not a settings document"))

end FileSettings

/-- Takes over what a settings file says. -/
def Settings.Draft.apply (d : Settings.Draft) (file : FileSettings) : Settings.Draft :=
  { d with
    markers := file.generated.getD d.markers
    linkClosures := file.linkClosures.getD d.linkClosures
    granularity := file.granularity.getD d.granularity }

end CallReach
