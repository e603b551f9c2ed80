import CallReach.Failure
import CallReach.Text.Blank

/-!
# Granularity

What counts as reaching a sink: any function of its file, or only the function itself.
-/

namespace CallReach

/-- What counts as reaching a sink. -/
inductive Granularity where
  | file
  | function
  deriving DecidableEq, Repr

namespace Granularity

/-- The name of a granularity. -/
def text : Granularity → String
  | file => "file"
  | function => "function"

/-- Reads a granularity, regardless of blanks around it and of ASCII case. -/
def parse (s : String) : Except Failure Granularity :=
  let word := Text.asciiLower (Text.trim s)
  if word = "file" then .ok file
  else if word = "function" || word = "func" then .ok function
  else .error (.invalidArgument s!"unknown granularity '{word}' (expected 'file' or 'function')")

end Granularity

end CallReach
