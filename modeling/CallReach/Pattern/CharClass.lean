import CallReach.Text.Case
import CallReach.Text.Category
import CallReach.Text.Property
import CallReach.Text.Script

/-!
# Classes of characters

What a single character of a text is compared with: ranges, named properties, and what set
operations make of them.
-/

namespace CallReach.Pattern

open CallReach.Text

/-- A class of characters. -/
inductive CharClass where
  | nothing
  | range (lo hi : Char)
  | satisfying (test : Char → Bool)
  | union (a b : CharClass)
  | meet (a b : CharClass)
  | minus (a b : CharClass)
  | differ (a b : CharClass)
  | complement (a : CharClass)
  /-- The characters that are in the class up to case. -/
  | anyCase (a : CharClass)
  /-- The characters that are in the class up to the case of ASCII letters. -/
  | anyAsciiCase (a : CharClass)

namespace CharClass

/-- Whether a character is in the class. -/
def contains : CharClass → Char → Bool
  | nothing, _ => false
  | range lo hi, c => lo ≤ c && c ≤ hi
  | satisfying test, c => test c
  | union a b, c => a.contains c || b.contains c
  | meet a b, c => a.contains c && b.contains c
  | minus a b, c => a.contains c && !b.contains c
  | differ a b, c => a.contains c != b.contains c
  | complement a, c => !a.contains c
  | anyCase a, c => (caseVariants c.toNat).any fun n => a.contains (Char.ofNat n)
  | anyAsciiCase a, c => a.contains c || a.contains c.toLower || a.contains c.toUpper

/-- The class of one character. -/
def single (c : Char) : CharClass := range c c

/-- The class of the characters of a set. -/
def ofSet (s : CharSet) : CharClass := satisfying s.contains

/-- The union of several classes. -/
def unions (cs : List CharClass) : CharClass := cs.foldl union nothing

/-- Whether the class has no character between the end of ASCII and the end of the first 256 code
points. -/
def isAscii (a : CharClass) : Bool :=
  (List.range 128).all fun i => !a.contains (Char.ofNat (128 + i))

/-- An estimate of the memory that a matcher needs for the class. -/
def weight : CharClass → Nat
  | nothing => 40
  | range lo hi => 40 * (if hi.toNat < 0x80 then 1 else if lo = hi then hi.utf8Size else 8)
  | satisfying _ => 15000
  | union a b | meet a b | minus a b | differ a b => a.weight + b.weight
  | complement a => a.weight + 400
  | anyCase a | anyAsciiCase a => 2 * a.weight

/-- A class with a given test, or the ASCII part of it. -/
def part (unicode : Bool) (ascii test : Char → Bool) : CharClass :=
  satisfying (if unicode then test else ascii)

/-- Whether a character is part of a word: letters, marks, digits, connectors and joiners. -/
def isWord (c : Char) : Bool :=
  if c.toNat < 0x80 then c.isAlphanum || c = '_'
  else Property.alphabetic.contains c || Category.nonspacingMark.contains c ||
    Category.spacingMark.contains c || Category.enclosingMark.contains c ||
    Category.decimalNumber.contains c || Category.connectorPunctuation.contains c ||
    Property.joinControl.contains c

/-- Whether a character is an ASCII letter, an ASCII digit or an underscore. -/
def isAsciiWord (c : Char) : Bool := c.isAlphanum || c = '_'

/-- Whether a character is an ASCII blank. -/
def isAsciiBlank (c : Char) : Bool := c = ' ' || (9 ≤ c.toNat && c.toNat ≤ 13)

/-- The class of digits. -/
def digit (unicode : Bool) : CharClass := part unicode Char.isDigit Category.decimalNumber.contains

/-- The class of blanks. -/
def blank (unicode : Bool) : CharClass := part unicode isAsciiBlank isBlank

/-- The class of characters that are parts of words. -/
def word (unicode : Bool) : CharClass := part unicode isAsciiWord isWord

/-- The classes of ASCII characters that have a name in bracket expressions. -/
def asciiNamed : List (String × CharClass) :=
  [("alnum", satisfying Char.isAlphanum), ("alpha", satisfying Char.isAlpha),
   ("ascii", range '\x00' '\x7f'), ("blank", union (single '\t') (single ' ')),
   ("cntrl", union (range '\x00' '\x1f') (single '\x7f')), ("digit", range '0' '9'),
   ("graph", range '!' '~'), ("lower", range 'a' 'z'), ("print", range ' ' '~'),
   ("punct", unions [range '!' '/', range ':' '@', range '[' '\x60', range '\x7b' '~']),
   ("space", satisfying isAsciiBlank), ("upper", range 'A' 'Z'), ("word", satisfying isAsciiWord),
   ("xdigit", unions [range '0' '9', range 'A' 'F', range 'a' 'f'])]

/-- The general categories and their groups, by name. -/
def categories : List (List String × List CharSet) :=
  let upper := Category.upperLetter
  let lower := Category.lowerLetter
  let title := Category.titleLetter
  let marks := [Category.nonspacingMark, Category.spacingMark, Category.enclosingMark]
  let numbers := [Category.decimalNumber, Category.letterNumber, Category.otherNumber]
  let punctuation :=
    [Category.connectorPunctuation, Category.dashPunctuation, Category.openPunctuation,
      Category.closePunctuation, Category.initialPunctuation, Category.finalPunctuation,
    Category.otherPunctuation]
  let symbols := [Category.mathSymbol, Category.currencySymbol, Category.modifierSymbol,
    Category.otherSymbol]
  let separators := [Category.spaceSeparator, Category.lineSeparator, Category.paragraphSeparator]
  [(["l", "letter"], [upper, lower, title, Category.modifierLetter, Category.otherLetter]),
   (["lc", "casedletter"], [upper, lower, title]),
   (["lu", "uppercaseletter"], [upper]), (["ll", "lowercaseletter"], [lower]),
   (["lt", "titlecaseletter"], [title]), (["lm", "modifierletter"], [Category.modifierLetter]),
   (["lo", "otherletter"], [Category.otherLetter]),
   (["m", "mark", "combiningmark"], marks), (["mn", "nonspacingmark"], [Category.nonspacingMark]),
   (["mc", "spacingmark"], [Category.spacingMark]),
   (["me", "enclosingmark"], [Category.enclosingMark]),
   (["n", "number"], numbers), (["nd", "decimalnumber", "digit"], [Category.decimalNumber]),
   (["nl", "letternumber"], [Category.letterNumber]),
   (["no", "othernumber"], [Category.otherNumber]),
   (["p", "punctuation", "punct"], punctuation),
   (["pc", "connectorpunctuation"], [Category.connectorPunctuation]),
   (["pd", "dashpunctuation"], [Category.dashPunctuation]),
   (["ps", "openpunctuation"], [Category.openPunctuation]),
   (["pe", "closepunctuation"], [Category.closePunctuation]),
   (["pi", "initialpunctuation"], [Category.initialPunctuation]),
   (["pf", "finalpunctuation"], [Category.finalPunctuation]),
   (["po", "otherpunctuation"], [Category.otherPunctuation]),
   (["s", "symbol"], symbols), (["sm", "mathsymbol"], [Category.mathSymbol]),
   (["sc", "currencysymbol"], [Category.currencySymbol]),
   (["sk", "modifiersymbol"], [Category.modifierSymbol]),
   (["so", "othersymbol"], [Category.otherSymbol]),
   (["z", "separator"], separators), (["zs", "spaceseparator"], [Category.spaceSeparator]),
   (["zl", "lineseparator"], [Category.lineSeparator]),
   (["zp", "paragraphseparator"], [Category.paragraphSeparator]),
   (["cc", "control", "cntrl"], [Category.control]), (["cf", "format"], [Category.format]),
   (["co", "privateuse"], [Category.privateUse]), (["cs", "surrogate"], [])]

/-- The assigned characters. -/
def assigned : CharClass :=
  unions ((categories.filter fun (names, _) =>
    names.any ["l", "m", "n", "p", "s", "z", "cc", "cf", "co"].contains).flatMap fun (_, sets) =>
      sets.map ofSet)

/-- The general category with a given name. -/
def category? (name : String) : Option CharClass :=
  match name with
  | "any" => some (complement nothing)
  | "ascii" => some (range '\x00' '\x7f')
  | "assigned" => some assigned
  | "cn" | "unassigned" => some (complement assigned)
  | "c" | "other" =>
    some (union (complement assigned)
      (unions ([Category.control, Category.format, Category.privateUse].map ofSet)))
  | _ => (categories.find? (·.1.contains name)).map fun (_, sets) => unions (sets.map ofSet)

/-- The script with a given name. -/
def script? (name : String) : Option CharClass :=
  (Script.byName.find? (·.1.contains name)).map fun (_, set) => ofSet set

/-- The binary property with a given name. -/
def property? (name : String) : Option CharClass :=
  (Property.byName.find? (·.1.contains name)).map fun (_, test) => satisfying test

/-- Drops what does not count in the name of a property: case, blanks, hyphens, underscores,
characters beyond ASCII and a leading `is`. -/
def plainName (name : String) : String :=
  let cs := name.toList
  let marked := (cs.take 2).map Char.toLower = ['i', 's']
  let kept := ((if marked then cs.drop 2 else cs).filter fun c =>
    c.toNat < 0x80 && !(c = ' ' || c = '_' || c = '-')).map Char.toLower
  if marked && kept = ['c'] then "isc" else String.ofList kept

/-- The class that a name in braces stands for. The short names that are both properties and
categories stand for the categories. -/
def named? (name : String) : Option CharClass :=
  let plain := plainName name
  let property := if ["cf", "sc", "lc"].contains plain then none else property? plain
  property.orElse fun _ => (category? plain).orElse fun _ => script? plain

/-- The class of the characters with a given value of a property. -/
def valued? (name value : String) : Option CharClass :=
  match plainName name with
  | "gc" | "generalcategory" => category? (plainName value)
  | "sc" | "script" | "scx" | "scriptextensions" => script? (plainName value)
  | _ => none

end CharClass

end CallReach.Pattern
