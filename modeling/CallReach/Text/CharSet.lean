import CallReach.Text.Blank

/-!
# Sets of characters

A set of code points is kept as the ascending list of points at which membership changes, so that a
code point belongs to the set iff an odd number of these points are at most it. The properties of a
character standard are written down as text, one range or single code point in hexadecimal per word,
and read by `CharSet.ofText`.
-/

namespace CallReach.Text

/-- A set of code points, given by the ascending points at which membership changes. -/
structure CharSet where
  edges : Array Nat

namespace CharSet

/-- The number of entries of the ascending array `a` between `lo` and `hi` that are at most `x`,
plus `lo`. -/
def rank (a : Array Nat) (x lo hi : Nat) : Nat :=
  if lo < hi then
    let mid := (lo + hi) / 2
    if a.getD mid 0 ≤ x then rank a x (mid + 1) hi else rank a x lo mid
  else lo
termination_by hi - lo

/-- Whether the character belongs to the set. -/
def contains (s : CharSet) (c : Char) : Bool :=
  rank s.edges c.toNat 0 s.edges.size % 2 == 1

/-- State of the reader of range texts: the edges so far, the start of an open range and the number
being read, if there is one. -/
structure TextState where
  edges : Array Nat := #[]
  start : Option Nat := none
  number : Option Nat := none

/-- Closes the current range, or the current single code point, if there is one. -/
def TextState.close (s : TextState) : TextState :=
  match s.number with
  | none => s
  | some n => { edges := (s.edges.push (s.start.getD n)).push (n + 1) }

/-- Reads one character of a range text. -/
def TextState.step (s : TextState) (c : Char) : TextState :=
  if c = '-' then { s with start := s.number, number := none }
  else match hexDigit? c with
    | some d => { s with number := some (s.number.getD 0 * 16 + d) }
    | none => s.close

/-- Reads a text of ascending ranges such as `30-39 5F 61-7A`, which may stand on several lines. -/
def ofText (s : String) : CharSet :=
  { edges := (s.foldl TextState.step {}).close.edges }

end CharSet

end CallReach.Text
