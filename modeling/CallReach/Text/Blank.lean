/-!
# Blank characters, trimming and cutting

The characters with the Unicode property White_Space, trimming a text by them, and cutting a text at
each occurrence of a separator. All three work on lists of characters; the functions on `String` are
their images.
-/

namespace CallReach.Text

/-- The characters with the Unicode property White_Space. -/
def isBlank (c : Char) : Bool :=
  let n := c.toNat
  (9 ≤ n && n ≤ 13) || n == 0x20 || n == 0x85 || n == 0xA0 || n == 0x1680 ||
    (0x2000 ≤ n && n ≤ 0x200A) || n == 0x2028 || n == 0x2029 || n == 0x202F || n == 0x205F ||
    n == 0x3000

/-- Drops the blanks at both ends. -/
def trimChars (cs : List Char) : List Char :=
  ((cs.dropWhile isBlank).reverse.dropWhile isBlank).reverse

/-- The text without the blanks at its ends. -/
def trim (s : String) : String :=
  String.ofList (trimChars s.toList)

/-- Cuts a list at every occurrence of `sep`; there is always one piece more than there are
separators. -/
def cutAt (sep : Char) : List Char → List (List Char)
  | [] => [[]]
  | c :: cs =>
    if c = sep then [] :: cutAt sep cs
    else match cutAt sep cs with
      | [] => [[c]]
      | piece :: pieces => (c :: piece) :: pieces

/-- The entries of a comma-separated list: trimmed, and the empty ones dropped. -/
def commaList (s : String) : List String :=
  (((cutAt ',' s.toList).map trimChars).filter (! ·.isEmpty)).map String.ofList

/-- Cuts a list at every double colon, reading from the left. -/
def cutAtColons : List Char → List (List Char)
  | [] => [[]]
  | ':' :: ':' :: cs => [] :: cutAtColons cs
  | c :: cs =>
    match cutAtColons cs with
    | [] => [[c]]
    | piece :: pieces => (c :: piece) :: pieces

/-- The segments of a path that is written with double colons. -/
def segments (s : String) : List String :=
  (cutAtColons s.toList).map String.ofList

/-- Writes a path with double colons. -/
def joinSegments (ss : List String) : String :=
  "::".intercalate ss

/-- Whether `needle` occurs in `text` as a run of consecutive characters. -/
def occursIn (needle : List Char) : List Char → Bool
  | [] => needle.isEmpty
  | c :: cs => needle.isPrefixOf (c :: cs) || occursIn needle cs

/-- Whether `text` contains `needle`. -/
def contains (text needle : String) : Bool :=
  occursIn needle.toList text.toList

/-- Maps the capital letters `A` to `Z` to small ones and leaves every other character. -/
def asciiLower (s : String) : String :=
  String.ofList (s.toList.map Char.toLower)

/-- Replaces every `old` by `new`. -/
def replaceChar (old new : Char) (s : String) : String :=
  String.ofList (s.toList.map fun c => if c = old then new else c)

/-- Value of a hexadecimal digit. -/
def hexDigit? (c : Char) : Option Nat :=
  if '0' ≤ c ∧ c ≤ '9' then some (c.toNat - 48)
  else if 'a' ≤ c ∧ c ≤ 'f' then some (c.toNat - 87)
  else if 'A' ≤ c ∧ c ≤ 'F' then some (c.toNat - 55)
  else none

/-- The character with the given code point, if there is one: surrogates and numbers past the last
plane name no character. -/
def scalar? (n : Nat) : Option Char :=
  if n < 0xD800 ∨ (0xDFFF < n ∧ n < 0x110000) then some (Char.ofNat n) else none

end CallReach.Text
