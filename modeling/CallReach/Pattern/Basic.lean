import CallReach.Pattern.CharClass

/-!
# Patterns

Regular patterns and where they occur in a text. A pattern acts on the places of a text: from a set
of places where it may start it leads to the set of places where it may end. As there is one place
more than there are characters, repetition comes to rest after that many rounds.
-/

namespace CallReach

/-- A condition on a place in a text. `unicode` tells which characters are parts of words. -/
inductive Assertion where
  | textStart
  | textEnd
  /-- The start of a line; with `crlf`, a carriage return ends a line as well. -/
  | lineStart (crlf : Bool)
  | lineEnd (crlf : Bool)
  | wordBoundary (unicode : Bool)
  | noWordBoundary (unicode : Bool)
  | wordStart (unicode : Bool)
  | wordEnd (unicode : Bool)
  | noWordBefore (unicode : Bool)
  | noWordAfter (unicode : Bool)

/-- Whether a condition holds between the characters `before` and `after`, which are missing at the
ends of the text. -/
def Assertion.holds (before after : Option Char) : Assertion → Bool
  | .textStart => before.isNone
  | .textEnd => after.isNone
  | .lineStart crlf =>
    before.isNone || before = some '\n' || crlf && before = some '\r' && after ≠ some '\n'
  | .lineEnd crlf =>
    after.isNone ||
      if crlf then after = some '\r' || after = some '\n' && before ≠ some '\r'
      else after = some '\n'
  | .wordBoundary unicode => isPart unicode before != isPart unicode after
  | .noWordBoundary unicode => isPart unicode before == isPart unicode after
  | .wordStart unicode => !isPart unicode before && isPart unicode after
  | .wordEnd unicode => isPart unicode before && !isPart unicode after
  | .noWordBefore unicode => !isPart unicode before
  | .noWordAfter unicode => !isPart unicode after
where
  /-- Whether there is a character and it is part of a word. -/
  isPart (unicode : Bool) (c : Option Char) : Bool :=
    c.any ((Pattern.CharClass.word unicode).contains ·)

/-- A pattern. -/
inductive Pattern where
  | empty
  | char (chars : Pattern.CharClass)
  | place (assertion : Assertion)
  | seq (p q : Pattern)
  | either (p q : Pattern)
  | repeated (p : Pattern) (least : Nat) (most : Option Nat)

namespace Pattern

/-- For each place of a text whether it is marked. -/
abbrev Marks := Array Bool

/-- The marks moved over one character of the class. -/
def Marks.over (text : Array Char) (m : Marks) (chars : CharClass) : Marks :=
  Array.ofFn fun i : Fin (text.size + 1) =>
    match i.val with
    | 0 => false
    | k + 1 => m.getD k false && text[k]?.any chars.contains

/-- The marks at places where the condition holds. -/
def Marks.satisfying (text : Array Char) (m : Marks) (a : Assertion) : Marks :=
  Array.ofFn fun i : Fin (text.size + 1) =>
    m.getD i.val false &&
      Assertion.holds (if i.val = 0 then none else text[i.val - 1]?) text[i.val]? a

/-- The places marked in either set. -/
def Marks.or (a b : Marks) : Marks := Array.zipWith (· || ·) a b

/-- Applies a step a number of times, or until it changes nothing. -/
def Marks.times (step : Marks → Marks) : Nat → Marks → Marks
  | 0, m => m
  | k + 1, m =>
    let next := step m
    -- The step depends on the marks alone, so that it stays at rest.
    if next == m then m else times step k next

/-- Applies a step at most a number of times, keeping the marks on the way. -/
def Marks.upTo (step : Marks → Marks) (k : Nat) (m : Marks) : Marks :=
  Marks.times (fun m => m.or (step m)) k m

/-- The places where the pattern may end when it starts at a marked place. -/
def advance (text : Array Char) : Pattern → Marks → Marks
  | empty, m => m
  | char chars, m => m.over text chars
  | place a, m => Marks.satisfying text m a
  | seq p q, m => advance text q (advance text p m)
  | either p q, m => (advance text p m).or (advance text q m)
  | repeated p least most, m =>
    -- The copies that have to be there come first, then those that may be there.
    let first := Marks.times (advance text p) least m
    Marks.upTo (advance text p) ((most.map (· - least)).getD (text.size + 1)) first

/-- Whether the pattern occurs in the text. -/
def occursIn (p : Pattern) (text : String) : Bool :=
  let chars := text.toList.toArray
  (advance chars p (Array.replicate (chars.size + 1) true)).any id

/-- Whether the pattern matches nothing but the empty text. -/
def onlyEmpty : Pattern → Bool
  | empty | place _ => true
  | char _ => false
  | seq p q | either p q => p.onlyEmpty && q.onlyEmpty
  | repeated p _ most => p.onlyEmpty || most = some 0

/-- An estimate of the memory that a matcher needs for the pattern. To repeat the empty text takes
no more than to match it once. -/
def weight : Pattern → Nat
  | empty | place _ => 40
  | char chars => chars.weight
  | seq p q => p.weight + q.weight
  | either p q => p.weight + q.weight + 40
  | repeated p least most =>
    if p.onlyEmpty then p.weight + 40
    else match most with
    | none => (least + 1) * p.weight + 40
    | some most => least * p.weight + (most - least) * (p.weight + 40)

end Pattern

end CallReach
