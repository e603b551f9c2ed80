import CallReach.Failure
import CallReach.Text.Blank

/-!
# Error messages

What a failing run prints: what it was doing, and under that what went wrong.
-/

namespace CallReach

/-- Why a run failed. -/
inductive Trouble where
  /-- A failure of the analysis. -/
  | failure (f : Failure)
  /-- A complaint of the command line. -/
  | plain (message : String)
  /-- What the run was doing when it met a trouble. -/
  | during (doing : String) (cause : Trouble)
  /-- The run was broken off on the spot, with a message. The place in the code is left out of
  it. -/
  | panic (message : String)

namespace Trouble

/-- The messages of a trouble, the outermost first; `text` gives the text of a failure. -/
def messages (text : Failure → String) : Trouble → List String
  | failure f => text f :: f.cause?.toList
  | plain message | panic message => [message]
  | .during doing cause => doing :: cause.messages text

/-- A cause in the list of causes. The first line starts with `first`, and the others with
`next`. -/
def indented (first next message : String) : String :=
  first ++ ("\n" ++ next).intercalate ((Text.cutAt '\n' message.toList).map String.ofList)

/-- The list of causes. A single one has no number. -/
def causes : List String → String
  | [] => ""
  | [cause] => "\n\nCaused by:\n" ++ indented "    " "    " cause
  | cs => "\n\nCaused by:" ++ String.join (cs.mapIdx fun i c =>
      "\n" ++ indented
        (String.ofList (List.replicate (5 - (toString i).length) ' ') ++ toString i ++ ": ")
        "       " c)

/-- The printed form of messages. -/
def printed : List String → String
  | [] => "Error: "
  | m :: cs => "Error: " ++ m ++ causes cs

/-- The printed form of a trouble; `text` gives the text of a failure. -/
def printedWith (text : Failure → String) : Trouble → String
  | panic message =>
    "[PANIC] impactmap internal error: " ++ message ++
      "\n[PANIC] The process will exit with code 2."
  | t => printed (t.messages text)

/-- The whole text of a trouble. -/
def text (t : Trouble) : String := t.printedWith Failure.text

/-- The text of a trouble without the complaints of readers of data formats. -/
def headline (t : Trouble) : String := t.printedWith Failure.headline

/-- The exit code of a run that ends with a trouble. -/
def exit : Trouble → Nat
  | panic _ => 2
  | _ => 1

end Trouble

end CallReach
