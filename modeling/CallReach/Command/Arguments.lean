import CallReach.Granularity

/-!
# Command-line arguments

Options are long names with two dashes. A value stands behind an equals sign or in the next
argument, where it may not look like an option. No option may be given twice, except for markers of
generated code.
-/

namespace CallReach

/-- What the command line asks for. -/
structure Flags where
  repo : Option String := none
  sources : Option String := none
  sinks : Option String := none
  test : Bool := false
  modulePrefix : Option String := none
  model : Option String := none
  generated : List String := []
  noClosures : Bool := false
  granularity : Option Granularity := none
  json : Bool := false
  config : Option String := none
  dot : Bool := false
  dotFile : Option String := none
  deriving DecidableEq, Repr

namespace Flags

/-- What the arguments come to. -/
inductive Parsed where
  | flags (f : Flags)
  | version
  | help
  | usageError
  deriving DecidableEq, Repr

/-- How an option takes a value. -/
inductive Arity where
  | none
  | optional
  | required
  deriving DecidableEq, Repr

/-- The options and how they take values. -/
def options : List (String × Arity) :=
  [("repo", .required), ("sources", .required), ("sinks", .required), ("test", .optional),
   ("module-prefix", .required), ("model", .required), ("generated", .required),
   ("no-closures", .none), ("granularity", .required), ("json", .none), ("config", .required),
   ("dot", .none), ("dot-file", .required)]

/-- A truth value. -/
def truth? (value : String) : Option Bool :=
  if value = "true" then some true else if value = "false" then some false else none

/-- A path, which may not be empty. -/
def path? (value : String) : Option String := if value = "" then none else some value

/-- Sets an option. `value` is empty for options without one; values that cannot be read are
refused. -/
def set? (f : Flags) (name value : String) : Option Flags :=
  match name with
  | "repo" => some { f with repo := some value }
  | "sources" => some { f with sources := some value }
  | "sinks" => some { f with sinks := some value }
  | "test" => do return { f with test := ← truth? value }
  | "module-prefix" => some { f with modulePrefix := some value }
  | "model" => do return { f with model := some (← path? value) }
  | "generated" => some { f with generated := f.generated ++ [value] }
  | "no-closures" => some { f with noClosures := true }
  | "granularity" => do return { f with granularity := some (← (Granularity.parse value).toOption) }
  | "json" => some { f with json := true }
  | "config" => do return { f with config := some (← path? value) }
  | "dot" => some { f with dot := true }
  | "dot-file" => some { f with dotFile := some value }
  | _ => none

/-- Whether an argument looks like an option. A lone dash does not. -/
def looksLikeOption (arg : String) : Bool :=
  match arg.toList with
  | ['-'] => false
  | '-' :: _ => true
  | _ => false

/-- An argument of an option, split into the name and the value behind an equals sign. -/
def split (body : List Char) : String × Option String :=
  let name := String.ofList (body.takeWhile (· ≠ '='))
  match body.dropWhile (· ≠ '=') with
  | [] => (name, none)
  | _ :: value => (name, some (String.ofList value))

/-- The arguments read so far: the flags, and the options that were given. -/
structure Reading where
  flags : Flags := {}
  given : List String := []

/-- Takes an option with its value. -/
def Reading.take? (r : Reading) (name value : String) : Option Reading := do
  if name ≠ "generated" && r.given.contains name then none
  else return { flags := ← r.flags.set? name value, given := name :: r.given }

/-- What stands at the front of the arguments. -/
inductive Front where
  | done (result : Parsed)
  | option (name value : String) (rest : List String)

/-- Looks at an argument and those after it. -/
def front (arg : String) (rest : List String) : Front :=
  match arg.toList with
  | ['-', '-'] => .done .usageError
  | '-' :: '-' :: body =>
    let (name, value?) := split body
    match options.lookup name, value?, rest with
    | some .none, none, rest => .option name "" rest
    -- What looks like an option is none of its values.
    | some .optional, none, next :: rest' =>
      if looksLikeOption next then .option name "true" rest else .option name next rest'
    | some .optional, none, [] => .option name "true" []
    | some .required, none, next :: rest' =>
      if looksLikeOption next then .done .usageError else .option name next rest'
    | some .optional, some value, rest | some .required, some value, rest => .option name value rest
    | none, none, _ =>
      .done (if name = "version" then .version else if name = "help" then .help else .usageError)
    | _, _, _ => .done .usageError
  | '-' :: 'V' :: _ => .done .version
  | '-' :: 'h' :: _ => .done .help
  | _ => .done .usageError

/-- The arguments that are left are fewer. -/
theorem front_rest_length {arg name value : String} {rest left : List String}
    (h : front arg rest = .option name value left) : left.length ≤ rest.length := by
  unfold front at h
  repeat' split at h
  all_goals first
    | cases h; simp
    | cases h

/-- Reads arguments. Two dashes end the options, and nothing may follow them. -/
def parseFrom (r : Reading) : List String → Parsed
  | [] => .flags r.flags
  | ["--"] => .flags r.flags
  | arg :: rest =>
    match _h : front arg rest with
    | .done result => result
    | .option name value left =>
      match r.take? name value with
      | some r => parseFrom r left
      | none => .usageError
termination_by args => args.length
decreasing_by
  have := front_rest_length _h
  simp only [List.length_cons]
  omega

/-- Reads the command line. -/
def parse (args : List String) : Parsed := parseFrom {} args

end Flags

end CallReach
