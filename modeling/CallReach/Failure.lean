/-!
# Failures

Why a run stops. Every failure has a text; the part of it that repeats the complaint of a reader of
some data format is kept apart, as its detail.
-/

namespace CallReach

/-- Why a run stops. -/
inductive Failure where
  /-- A file cannot be read or written. -/
  | io (path message : String)
  /-- A source file is not well formed. -/
  | parse (path message : String) (line column : Nat)
  /-- The settings are incomplete or wrong. -/
  | config (message : String) (detail : Option String := none)
  /-- A value given to an operation is wrong. -/
  | invalidArgument (message : String)
  /-- The program cannot be obtained. -/
  | modelLoad (path message : String) (detail : Option String := none)
  deriving DecidableEq, Repr

namespace Failure

/-- A message with its detail. -/
def withDetail (message : String) : Option String → String
  | none => message
  | some detail => message ++ ": " ++ detail

/-- The whole text of a failure. -/
def text : Failure → String
  | io path message => s!"I/O error at {path}: {message}"
  | parse path message _ _ => s!"Parse error in {path}: {message}"
  | config message detail => "Config error: " ++ withDetail message detail
  | invalidArgument message => s!"Invalid argument: {message}"
  | modelLoad path message detail =>
    s!"Program model error at {path}: " ++ withDetail message detail

/-- The text of a failure without the complaint of a reader of some data format. -/
def headline : Failure → String
  | parse path _ _ _ => s!"Parse error in {path}"
  | config message _ => s!"Config error: {message}"
  | modelLoad path message _ => s!"Program model error at {path}: {message}"
  | failure => failure.text

/-- Whether the run stopped before any analysis. -/
def isConfiguration : Failure → Bool
  | config .. | invalidArgument .. => true
  | _ => false

/-- The path that the failure is about, if there is one. -/
def path? : Failure → Option String
  | io path _ | parse path .. | modelLoad path .. => some path
  | _ => none

/-- The failure of the operating system behind this one, if there is one. -/
def cause? : Failure → Option String
  | io _ message => some message
  | _ => none

end Failure

end CallReach
