import Mathlib.Data.List.Basic
import Mathlib.Data.List.Forall2
import CallReach.Json.Parser

/-!
# Reading what has been written

A value that is written down, in one line or with one member per line, is read back as it was. The
proof goes by way of the tokens of a value. A text is cut into tokens from the left, and where a
token ends depends on what follows only for numbers. The machine then takes the tokens of a value,
from wherever a value may stand, to the state in which that value is complete.

## Key results

- `tokensUpTo_of_cut`: the bound on the number of tokens is not met by a text that is cut into fewer
- `cutsInto_compact` / `cutsInto_prettyAt`: the text of a value is cut into its tokens
- `foldlM_tokens`: the tokens of a value are put together to it
- `parse?_compact` / `parse?_pretty`: the text of a value is read back
-/

namespace CallReach.Json

/-! ### Numbers -/

/-- One digit or more. -/
def IsDigits (ds : List Char) : Prop := ds ≠ [] ∧ ∀ d ∈ ds, d.isDigit = true

/-- The whole part of a number: a lone zero, or digits that do not start with one. -/
def IsWhole (cs : List Char) : Prop := cs = ['0'] ∨ IsDigits cs ∧ cs.head? ≠ some '0'

/-- The fraction of a number, which may be missing. -/
def IsFraction (cs : List Char) : Prop := cs = [] ∨ ∃ ds, IsDigits ds ∧ cs = '.' :: ds

/-- The exponent of a number, which may be missing. -/
def IsExponent (cs : List Char) : Prop :=
  cs = [] ∨ ∃ e sign ds, (e = 'e' ∨ e = 'E') ∧ (sign = [] ∨ sign = ['+'] ∨ sign = ['-']) ∧
    IsDigits ds ∧ cs = e :: (sign ++ ds)

/-- The text of a number. -/
def IsNumber (text : String) : Prop :=
  ∃ sign whole fraction exponent, (sign = [] ∨ sign = ['-']) ∧ IsWhole whole ∧ IsFraction fraction ∧
    IsExponent exponent ∧ text.toList = sign ++ (whole ++ (fraction ++ exponent))

/-- A text that does not continue a number which stands before it. -/
def Ends (rest : List Char) : Prop :=
  ∀ c ∈ rest.head?, c.isDigit = false ∧ c ≠ '.' ∧ c ≠ 'e' ∧ c ≠ 'E'

/-- `digits?` takes digits up to the first character that is none. -/
private theorem digits?_append {ds rest : List Char} (hds : IsDigits ds)
    (hrest : ∀ c ∈ rest.head?, c.isDigit = false) : digits? (ds ++ rest) = some (ds, rest) := by
  have htake : (ds ++ rest).takeWhile Char.isDigit = ds := by
    rw [List.takeWhile_append_of_pos hds.2]
    cases rest with
    | nil => simp
    | cons c rest => simp [hrest c rfl]
  simp [digits?, htake, hds.1]

/-- `fraction?` takes a fraction up to a character that does not continue it. -/
private theorem fraction?_append {cs rest : List Char} (hcs : IsFraction cs)
    (hrest : ∀ c ∈ rest.head?, c.isDigit = false ∧ c ≠ '.') :
    fraction? (cs ++ rest) = some (cs, rest) := by
  obtain rfl | ⟨ds, hds, rfl⟩ := hcs
  · cases rest with
    | nil => rfl
    | cons c rest => simp [fraction?, (hrest c rfl).2]
  · simp [fraction?, digits?_append hds fun c hc => (hrest c hc).1]

private theorem ne_of_isDigit {c d : Char} (hc : c.isDigit = true) (hd : d.isDigit = false) :
    c ≠ d := by
  rintro rfl
  exact absurd hc (by simp [hd])

/-- `exponent?` takes an exponent up to a character that does not continue it. -/
private theorem exponent?_append {cs rest : List Char} (hcs : IsExponent cs) (hrest : Ends rest) :
    exponent? (cs ++ rest) = some (cs, rest) := by
  have hdigit : ∀ c ∈ rest.head?, c.isDigit = false := fun c hc => (hrest c hc).1
  obtain rfl | ⟨e, sign, ds, he, hsign, hds, rfl⟩ := hcs
  · cases rest with
    | nil => rfl
    | cons c rest => simp [exponent?, (hrest c rfl).2]
  · obtain rfl | rfl | rfl := hsign
    -- Without a sign, the digits are not mistaken for one.
    · obtain ⟨d, ds, rfl⟩ := List.exists_cons_of_ne_nil hds.1
      have hd := hds.2 d (List.mem_cons_self ..)
      have hplus : d ≠ '+' := ne_of_isDigit hd (by decide)
      have hminus : d ≠ '-' := ne_of_isDigit hd (by decide)
      have htaken := digits?_append hds hdigit
      simp only [List.cons_append] at htaken
      simp [exponent?, he, hplus, hminus, htaken]
    · simp [exponent?, he, digits?_append hds hdigit]
    · simp [exponent?, he, digits?_append hds hdigit]

/-- What stands after the fraction of a number is neither digit nor point. -/
theorem IsExponent.head_append {cs rest : List Char} (hcs : IsExponent cs) (hrest : Ends rest) :
    ∀ c ∈ (cs ++ rest).head?, c.isDigit = false ∧ c ≠ '.' := by
  intro c hc
  obtain rfl | ⟨e, sign, ds, he, -, -, rfl⟩ := hcs
  · exact ⟨(hrest c hc).1, (hrest c hc).2.1⟩
  · obtain rfl : e = c := by simpa using hc
    obtain rfl | rfl := he <;> decide

/-- What stands after the whole part of a number is no digit. -/
theorem IsFraction.head_append {cs rest : List Char} (hcs : IsFraction cs)
    (hrest : ∀ c ∈ rest.head?, c.isDigit = false ∧ c ≠ '.') :
    ∀ c ∈ (cs ++ rest).head?, c.isDigit = false := by
  intro c hc
  obtain rfl | ⟨ds, -, rfl⟩ := hcs
  · exact (hrest c hc).1
  · obtain rfl : '.' = c := by simpa using hc
    decide

theorem IsWhole.exists_cons {cs : List Char} (h : IsWhole cs) :
    ∃ d ds, cs = d :: ds ∧ d.isDigit = true := by
  obtain rfl | ⟨⟨hne, hdigits⟩, -⟩ := h
  · exact ⟨'0', [], rfl, rfl⟩
  · obtain ⟨d, ds, rfl⟩ := List.exists_cons_of_ne_nil hne
    exact ⟨d, ds, rfl, hdigits d (List.mem_cons_self ..)⟩

/-- A number starts with a minus sign or a digit. -/
theorem IsNumber.exists_cons {text : String} (h : IsNumber text) :
    ∃ c cs, text.toList = c :: cs ∧ (c = '-' ∨ c.isDigit = true) := by
  obtain ⟨sign, whole, fraction, exponent, hsign, hwhole, -, -, htext⟩ := h
  obtain ⟨d, ds, rfl, hd⟩ := hwhole.exists_cons
  obtain rfl | rfl := hsign
  · exact ⟨d, _, htext, .inr hd⟩
  · exact ⟨'-', _, htext, .inl rfl⟩

private theorem ne_of_starts {c : Char} {others : List Char} (hc : c = '-' ∨ c.isDigit = true)
    (hothers : (others.all fun d => !d.isDigit && d != '-') = true) : ∀ d ∈ others, c ≠ d := by
  rintro d hd rfl
  have hother := List.all_eq_true.mp hothers c hd
  simp only [Bool.and_eq_true, Bool.not_eq_true', bne_iff_ne, ne_eq] at hother
  obtain rfl | hdigit := hc
  · exact hother.2 rfl
  · exact absurd hdigit (by simp [hother.1])

/-- `number?` takes a number up to a character that does not continue it. -/
private theorem number?_append {text : String} {rest : List Char} (htext : IsNumber text)
    (hrest : Ends rest) :
    number? (text.toList ++ rest) = some (text, rest) := by
  obtain ⟨sign, whole, fraction, exponent, hsign, hwhole, hfraction, hexponent, htext⟩ := htext
  have hlast := hexponent.head_append hrest
  have hmiddle := hfraction.head_append hlast
  -- The parts are taken from the left, each up to what the next one starts with.
  have htaken : number? (sign ++ (whole ++ (fraction ++ (exponent ++ rest)))) =
      some (String.ofList (sign ++ (whole ++ (fraction ++ exponent))), rest) := by
    obtain ⟨d, ds, hcons, hd⟩ := hwhole.exists_cons
    have hminus : d ≠ '-' := ne_of_isDigit hd (by decide)
    obtain rfl | ⟨hdigits, hzero⟩ := hwhole
    -- A lone zero is taken without a look at what follows.
    · obtain rfl | rfl := hsign <;>
        simp [number?, fraction?_append hfraction hlast, exponent?_append hexponent hrest]
    · have hwhole := digits?_append hdigits hmiddle
      have hzero : d ≠ '0' := by simpa [hcons] using hzero
      rw [hcons, List.cons_append] at hwhole ⊢
      obtain rfl | rfl := hsign <;>
        simp [number?, hminus, hzero, hwhole, fraction?_append hfraction hlast,
          exponent?_append hexponent hrest, String.append_assoc]
  have hparts : String.ofList (sign ++ (whole ++ (fraction ++ exponent))) = text := by
    rw [← htext, String.ofList_toList]
  rw [hparts] at htaken
  simpa [htext] using htaken

/-! ### Strings -/

/-- `hex4?` reads the escape of a control character back. -/
private theorem hex4?_control :
    ∀ n < 0x20, hex4? '0' '0' (hexDigit (n / 16)) (hexDigit (n % 16)) = some n := by
  decide

/-- `units?` reads back what `escapeChar` has written, by one of its cases after the other. -/
private theorem units?_escapeChar {cs rest : List Char} {units : List Nat} (c : Char)
    (h : units? cs = some (units, rest)) :
    units? (escapeChar c ++ cs) = some (c.toNat :: units, rest) := by
  unfold escapeChar
  split
  case h_8 _ hquote hbackslash _ _ _ _ _ =>
    split
    case isTrue hcontrol => simp [units?, hex4?_control _ hcontrol, h]
    case isFalse hplain =>
      rw [List.singleton_append, units?, if_neg hplain, h]
      · rfl
      · exact hquote
      · exact fun _ _ _ _ _ heq _ => hbackslash heq
      · exact fun _ _ heq _ => hbackslash heq
  all_goals simp [units?, escaped?, h]

/-- `units?` reads the characters of a text back up to the closing quote. -/
private theorem units?_escaped (cs rest : List Char) :
    units? (cs.flatMap escapeChar ++ '"' :: rest) = some (cs.map Char.toNat, rest) := by
  induction cs with
  | nil => rfl
  | cons c cs ih =>
    rw [List.flatMap_cons, List.append_assoc]
    exact units?_escapeChar c ih

/-- `chars?` gives characters back: none of them is half of a pair. -/
private theorem chars?_toNat (cs : List Char) : chars? (cs.map Char.toNat) = some cs := by
  induction cs with
  | nil => rfl
  | cons c cs ih =>
    -- Halves of pairs are no characters.
    have hvalid : c.toNat < 0xD800 ∨ 0xE000 ≤ c.toNat := by
      have hval : c.val.toNat = c.toNat := rfl
      have := c.valid
      simp only [UInt32.isValidChar, Nat.isValidChar] at this
      omega
    have hleading : ¬ (0xD800 ≤ c.toNat ∧ c.toNat < 0xDC00) := by omega
    have htrailing : ¬ (0xDC00 ≤ c.toNat ∧ c.toNat < 0xE000) := by omega
    rw [List.map_cons, chars?.eq_def]
    simp [hleading, htrailing, ih]

/-! ### Tokens -/

private theorem token?_number {text : String} {rest : List Char} (htext : IsNumber text)
    (hrest : Ends rest) :
    token? (text.toList ++ rest) = some (.number text, rest) := by
  have htaken := number?_append htext hrest
  obtain ⟨c, cs, hcons, hc⟩ := htext.exists_cons
  rw [hcons, List.cons_append] at htaken ⊢
  have hother : ∀ d ∈ ['\x7b', '\x7d', '[', ']', ':', ',', 'n', 't', 'f', '"'], c ≠ d :=
    ne_of_starts hc (by decide)
  simp only [List.forall_mem_cons] at hother
  simp [token?, hother, htaken]

private theorem token?_quoted {cs rest : List Char} {units : List Nat}
    (h : units? cs = some (units, rest)) :
    token? ('"' :: cs) = some (.string ((chars? units).map String.ofList), rest) := by
  rw [token?, h]
  rfl

/-- `token?` reads a string back, whether it names a text or not. -/
private theorem token?_quoteOption (s : Option String) (rest : List Char) :
    token? ((quoteOption s).toList ++ rest) = some (.string s, rest) := by
  cases s with
  | none =>
    -- A string that names no text is written as half of a pair.
    have hhex : hex4? 'd' '8' '0' '0' = some 0xD800 := by decide
    have hunits : units? ('\\' :: 'u' :: 'd' :: '8' :: '0' :: '0' :: '"' :: rest) =
        some ([0xD800], rest) := by
      simp [units?, hhex]
    have hchars : chars? [0xD800] = none := by decide
    exact (token?_quoted hunits).trans (by rw [hchars]; rfl)
  | some s =>
    have hquote : (quote s).toList ++ rest =
        '"' :: (s.toList.flatMap escapeChar ++ '"' :: rest) := by
      simp [quote]
    rw [quoteOption, hquote, token?_quoted (units?_escaped s.toList rest), chars?_toNat,
      Option.map_some, String.ofList_toList]

/-- A text that is cut into tokens from the left. -/
inductive Cut : List Char → List Token → Prop
  | blank {cs : List Char} : cs.dropWhile isSpace = [] → Cut cs []
  | token {cs rest : List Char} {t : Token} {ts : List Token} :
    token? (cs.dropWhile isSpace) = some (t, rest) → Cut rest ts → Cut cs (t :: ts)

/-- `Cut` drops blanks before a token. -/
theorem Cut.after_blanks {blanks rest : List Char} {ts : List Token}
    (hblanks : ∀ c ∈ blanks, isSpace c = true) (h : Cut rest ts) : Cut (blanks ++ rest) ts := by
  have hdrop : (blanks ++ rest).dropWhile isSpace = rest.dropWhile isSpace :=
    List.dropWhile_append_of_pos hblanks
  cases h with
  | blank hrest => exact .blank (hdrop ▸ hrest)
  | token ht hrest => exact .token (hdrop ▸ ht) hrest

/-- `Cut` for a text that starts with a token and not with a blank. -/
theorem Cut.cons {c : Char} {cs rest : List Char} {t : Token} {ts : List Token}
    (hc : isSpace c = false) (ht : token? (c :: cs) = some (t, rest)) (h : Cut rest ts) :
    Cut (c :: cs) (t :: ts) := by
  refine .token ?_ h
  rw [List.dropWhile_cons_of_neg (by simp [hc]), ht]

/-- `tokensUpTo` with as many steps as there are tokens, and one more, comes to the end. -/
theorem tokensUpTo_of_cut {cs : List Char} {ts : List Token} {fuel : Nat} (h : Cut cs ts)
    (hfuel : ts.length < fuel) : tokensUpTo fuel cs = some ts := by
  induction h generalizing fuel with
  | blank hcs =>
    obtain ⟨fuel, rfl⟩ := Nat.exists_eq_succ_of_ne_zero (Nat.ne_zero_of_lt hfuel)
    simp [tokensUpTo, hcs]
  | @token cs rest t ts ht hrest ih =>
    obtain ⟨fuel, rfl⟩ := Nat.exists_eq_succ_of_ne_zero (Nat.ne_zero_of_lt hfuel)
    have hothers : tokensUpTo fuel rest = some ts := ih (by simpa using hfuel)
    -- There is a token, so something is left behind the blanks.
    obtain ⟨c, cs', hcs⟩ : ∃ c cs', cs.dropWhile isSpace = c :: cs' := by
      refine List.exists_cons_of_ne_nil ?_
      intro hnil
      have hnone : token? [] = none := by decide
      simp [hnil, hnone] at ht
    rw [hcs] at ht
    simp [tokensUpTo, hcs, ht, hothers]

/-- The text `cs` is cut into the tokens `ts`, none of them empty, if nothing that follows continues
it. -/
structure CutsInto (cs : List Char) (ts : List Token) : Prop where
  length_le : ts.length ≤ cs.length
  cut : ∀ {rest us}, Ends rest → Cut rest us → Cut (cs ++ rest) (ts ++ us)

theorem CutsInto.nil : CutsInto [] [] := ⟨Nat.le_refl 0, fun _ h => h⟩

/-- `Ends` looks at the first character only. -/
theorem Ends.cons {c : Char} (h : c.isDigit = false ∧ c ≠ '.' ∧ c ≠ 'e' ∧ c ≠ 'E')
    (rest : List Char) : Ends (c :: rest) := by
  intro d hd
  obtain rfl : c = d := by simpa using hd
  exact h

/-- Blanks end a number, and so does what `Ends` one behind no blanks. -/
theorem Ends.after_blanks {blanks rest : List Char} (hblanks : ∀ c ∈ blanks, isSpace c = true)
    (h : Ends rest) : Ends (blanks ++ rest) := by
  cases blanks with
  | nil => exact h
  | cons c blanks =>
    have hc := hblanks c (List.mem_cons_self ..)
    refine Ends.cons ?_ _
    simp only [isSpace, Bool.or_eq_true, decide_eq_true_eq] at hc
    obtain ((rfl | rfl) | rfl) | rfl := hc <;> decide

theorem CutsInto.after_blanks {blanks cs : List Char} {ts : List Token}
    (hblanks : ∀ c ∈ blanks, isSpace c = true) (h : CutsInto cs ts) :
    CutsInto (blanks ++ cs) ts := by
  refine ⟨?_, ?_⟩
  · have := h.length_le
    rw [List.length_append]
    omega
  · intro rest us hrest hus
    rw [List.append_assoc]
    exact (h.cut hrest hus).after_blanks hblanks

/-- `CutsInto` for texts with a comma between them, and blanks after each comma. -/
theorem CutsInto.intercalate {blanks : List Char} {parts : List (List Char)}
    {tss : List (List Token)} (hblanks : ∀ c ∈ blanks, isSpace c = true)
    (h : List.Forall₂ CutsInto parts tss) :
    CutsInto ((',' :: blanks).intercalate parts) ([Token.comma].intercalate tss) := by
  induction h with
  | nil => exact .nil
  | @cons part ts parts tss hpart hparts ih =>
    cases hparts with
    | nil => simpa using hpart
    | cons hnext hothers =>
      rw [List.intercalate_cons_cons, List.intercalate_cons_cons]
      refine ⟨?_, ?_⟩
      · have := hpart.length_le
        have := ih.length_le
        simp only [List.length_append, List.length_cons, List.length_nil]
        omega
      · intro rest us hrest hus
        rw [List.append_assoc, List.append_assoc, List.append_assoc, List.append_assoc]
        -- The comma ends a number that stands before it.
        refine hpart.cut (Ends.cons (by decide) _) ?_
        exact Cut.cons (by decide) rfl ((ih.cut hrest hus).after_blanks hblanks)

/-- A pair of brackets and the tokens that they are. -/
structure Brackets (left right : Char) (opening closing : Token) : Prop where
  left_ne_space : isSpace left = false
  right_ne_space : isSpace right = false
  token_left : ∀ rest, token? (left :: rest) = some (opening, rest)
  token_right : ∀ rest, token? (right :: rest) = some (closing, rest)
  ends : ∀ rest, Ends (right :: rest)

private theorem brackets_array : Brackets '[' ']' .openBracket .closeBracket :=
  ⟨by decide, by decide, fun _ => rfl, fun _ => rfl, Ends.cons (by decide)⟩

private theorem brackets_object : Brackets '\x7b' '\x7d' .openBrace .closeBrace :=
  ⟨by decide, by decide, fun _ => rfl, fun _ => rfl, Ends.cons (by decide)⟩

section Enclosed

variable {left right : Char} {opening closing : Token}

/-- `CutsInto` for a text in brackets, with blanks inside of them. -/
private theorem CutsInto.enclose {before after cs : List Char} {ts : List Token}
    (hb : Brackets left right opening closing) (hbefore : ∀ c ∈ before, isSpace c = true)
    (hafter : ∀ c ∈ after, isSpace c = true) (h : CutsInto cs ts) :
    CutsInto (left :: (before ++ (cs ++ (after ++ [right])))) (opening :: (ts ++ [closing])) := by
  refine ⟨?_, ?_⟩
  · have := h.length_le
    simp only [List.length_append, List.length_cons, List.length_nil]
    omega
  · intro rest us _ hus
    simp only [List.cons_append, List.append_assoc, List.nil_append]
    have hclosed : Cut (right :: rest) (closing :: us) :=
      .cons hb.right_ne_space (hb.token_right rest) hus
    have hinside := h.cut ((hb.ends rest).after_blanks hafter) (hclosed.after_blanks hafter)
    exact .cons hb.left_ne_space (hb.token_left _) (hinside.after_blanks hbefore)

variable {open' close : String} {parts : List String} {tss : List (List Token)}

/-- `CutsInto` for texts in brackets with a comma between them and no blanks. -/
private theorem CutsInto.compactList (hb : Brackets left right opening closing)
    (hopen : open'.toList = [left]) (hclose : close.toList = [right])
    (h : List.Forall₂ (fun part ts => CutsInto part.toList ts) parts tss) :
    CutsInto (open' ++ ",".intercalate parts ++ close).toList
      (opening :: ([Token.comma].intercalate tss ++ [closing])) := by
  have hnone : ∀ c ∈ ([] : List Char), isSpace c = true := by simp
  have hparts : List.Forall₂ CutsInto (parts.map String.toList) tss :=
    List.forall₂_map_left_iff.mpr h
  simpa [hopen, hclose] using (CutsInto.intercalate hnone hparts).enclose hb hnone hnone

/-- `CutsInto` for texts in brackets with a line for each of them, as `Json.bracketLines` writes
them. -/
theorem CutsInto.bracketLines (hb : Brackets left right opening closing)
    (hopen : open'.toList = [left]) (hclose : close.toList = [right]) (depth : Nat)
    (h : List.Forall₂ (fun part ts => CutsInto part.toList ts) parts tss) :
    CutsInto (Json.bracketLines open' close depth parts).toList
      (opening :: ([Token.comma].intercalate tss ++ [closing])) := by
  unfold Json.bracketLines
  split
  case isTrue hempty =>
    obtain rfl := List.isEmpty_iff.mp hempty
    simpa using CutsInto.compactList hb hopen hclose h
  case isFalse =>
    -- Indentation and ends of lines are blanks between the tokens.
    have hpad : ∀ n, ∀ c ∈ List.replicate (2 * n) ' ', isSpace c = true := by
      intro n c hc
      rw [List.eq_of_mem_replicate hc]
      rfl
    have hline : ∀ n, ∀ c ∈ '\n' :: List.replicate (2 * n) ' ', isSpace c = true := by
      intro n
      exact List.forall_mem_cons.mpr ⟨rfl, hpad n⟩
    have hparts : List.Forall₂ CutsInto
        (parts.map fun part => List.replicate (2 * (depth + 1)) ' ' ++ part.toList) tss :=
      List.forall₂_map_left_iff.mpr (h.imp fun _ _ hpart => hpart.after_blanks (hpad _))
    have htext := (CutsInto.intercalate (hline 0) hparts).enclose hb (hline 0) (hline depth)
    simpa [hopen, hclose, Function.comp_def] using htext

end Enclosed

/-! ### Tokens of a value -/

/-- A value whose numbers are the texts of numbers. -/
inductive WellFormed : Json → Prop
  | null : WellFormed null
  | bool (b : Bool) : WellFormed (bool b)
  | number {text : String} : IsNumber text → WellFormed (number text)
  | string (text : Option String) : WellFormed (string text)
  | array {items : List Json} : (∀ v ∈ items, WellFormed v) → WellFormed (array items)
  | object {members : List (Option String × Json)} : (∀ m ∈ members, WellFormed m.2) →
    WellFormed (object members)

mutual

/-- The tokens of a value. -/
def tokens : Json → List Token
  | .null => [.null]
  | .bool b => [.bool b]
  | .number t => [.number t]
  | .string s => [.string s]
  | .array items =>
    .openBracket :: ([Token.comma].intercalate (itemTokens items) ++ [.closeBracket])
  | .object members =>
    .openBrace :: ([Token.comma].intercalate (memberTokens members) ++ [.closeBrace])

/-- The tokens of several values. -/
def itemTokens : List Json → List (List Token)
  | [] => []
  | v :: vs => tokens v :: itemTokens vs

/-- The tokens of several members. -/
def memberTokens : List (Option String × Json) → List (List Token)
  | [] => []
  | (k, v) :: ms => (.string k :: .colon :: tokens v) :: memberTokens ms

end

@[simp] theorem itemTokens_eq_map (items : List Json) : itemTokens items = items.map tokens := by
  induction items with
  | nil => rfl
  | cons v vs ih => rw [itemTokens, ih, List.map_cons]

@[simp] theorem memberTokens_eq_map (members : List (Option String × Json)) :
    memberTokens members = members.map fun m => .string m.1 :: .colon :: tokens m.2 := by
  induction members with
  | nil => rfl
  | cons m ms ih => rw [memberTokens, ih, List.map_cons]

@[simp] theorem compactItems_eq_map (items : List Json) :
    compactItems items = items.map compact := by
  induction items with
  | nil => rfl
  | cons v vs ih => rw [compactItems, ih, List.map_cons]

@[simp] theorem compactMembers_eq_map (members : List (Option String × Json)) :
    compactMembers members = members.map fun m => quoteOption m.1 ++ ":" ++ compact m.2 := by
  induction members with
  | nil => rfl
  | cons m ms ih => rw [compactMembers, ih, List.map_cons]

@[simp] theorem prettyItems_eq_map (depth : Nat) (items : List Json) :
    prettyItems depth items = items.map (prettyAt depth) := by
  induction items with
  | nil => rfl
  | cons v vs ih => rw [prettyItems, ih, List.map_cons]

@[simp] theorem prettyMembers_eq_map (depth : Nat) (members : List (Option String × Json)) :
    prettyMembers depth members = members.map fun m =>
      quoteOption m.1 ++ ": " ++ prettyAt depth m.2 := by
  induction members with
  | nil => rfl
  | cons m ms ih => rw [prettyMembers, ih, List.map_cons]

/-- `quoteOption` writes one token, a string. -/
theorem CutsInto.string (s : Option String) : CutsInto (quoteOption s).toList [.string s] := by
  obtain ⟨cs, hcs⟩ : ∃ cs, (quoteOption s).toList = '"' :: cs := by
    cases s with
    | none => exact ⟨_, rfl⟩
    | some s => exact ⟨_, by simp [quoteOption, quote]; rfl⟩
  refine ⟨by simp [hcs], ?_⟩
  intro rest us _ hus
  have htoken := token?_quoteOption s rest
  rw [hcs, List.cons_append] at htoken ⊢
  exact .cons (by decide) htoken hus

/-- The text of a number is one token where a character follows that does not continue it. -/
theorem CutsInto.number {text : String} (h : IsNumber text) :
    CutsInto text.toList [.number text] := by
  obtain ⟨c, cs, hcs, hc⟩ := h.exists_cons
  refine ⟨by simp [hcs], ?_⟩
  intro rest us hrest hus
  have htoken := token?_number h hrest
  have hspace : isSpace c = false := by
    have hblank : ∀ d ∈ [' ', '\t', '\n', '\r'], c ≠ d := ne_of_starts hc (by decide)
    simp only [List.forall_mem_cons] at hblank
    simp [isSpace, hblank]
  rw [hcs, List.cons_append] at htoken ⊢
  exact .cons hspace htoken hus

theorem CutsInto.word {c : Char} {cs : List Char} {t : Token} (hc : isSpace c = false)
    (ht : ∀ rest, token? (c :: (cs ++ rest)) = some (t, rest)) : CutsInto (c :: cs) [t] :=
  ⟨by simp, fun _ hus => .cons hc (ht _) hus⟩

/-- `CutsInto` for a member: its key, a colon and its value. -/
theorem CutsInto.member (k : Option String) {gap cs : List Char} {ts : List Token}
    (hgap : ∀ c ∈ gap, isSpace c = true) (h : CutsInto cs ts) :
    CutsInto ((quoteOption k).toList ++ ':' :: (gap ++ cs)) (.string k :: .colon :: ts) := by
  have hkey := CutsInto.string k
  refine ⟨?_, ?_⟩
  · have := h.length_le
    have := hkey.length_le
    simp only [List.length_append, List.length_cons, List.length_nil] at *
    omega
  · intro rest us hrest hus
    have hcolon : Cut (':' :: (gap ++ (cs ++ rest))) (.colon :: (ts ++ us)) :=
      .cons (by decide) rfl ((h.cut hrest hus).after_blanks hgap)
    simpa using hkey.cut (Ends.cons (by decide) _) hcolon

/-- `compact` writes a text that is cut into the tokens of the value. -/
theorem cutsInto_compact {v : Json} (h : v.WellFormed) : CutsInto v.compact.toList v.tokens := by
  induction h with
  | null => exact .word (by decide) fun _ => rfl
  | bool b =>
    cases b
    · exact .word (by decide) fun _ => rfl
    · exact .word (by decide) fun _ => rfl
  | number h => exact .number h
  | string s => exact .string s
  | @array items _ ih =>
    rw [compact, tokens, compactItems_eq_map, itemTokens_eq_map]
    refine .compactList brackets_array rfl rfl ?_
    simpa using ih
  | @object members _ ih =>
    rw [compact, tokens, compactMembers_eq_map, memberTokens_eq_map]
    refine .compactList brackets_object rfl rfl ?_
    have hmember : ∀ m ∈ members,
        CutsInto (quoteOption m.1 ++ ":" ++ m.2.compact).toList
          (.string m.1 :: .colon :: m.2.tokens) := by
      intro m hm
      simpa using CutsInto.member m.1 (List.forall_mem_nil _) (ih m hm)
    simpa using hmember

/-- `prettyAt` writes a text that is cut into the same tokens. -/
theorem cutsInto_prettyAt {v : Json} (h : v.WellFormed) (depth : Nat) :
    CutsInto (v.prettyAt depth).toList v.tokens := by
  induction h generalizing depth with
  | @array items _ ih =>
    rw [prettyAt, tokens, prettyItems_eq_map, itemTokens_eq_map]
    refine .bracketLines brackets_array rfl rfl depth ?_
    simpa using fun v hv => ih v hv (depth + 1)
  | @object members _ ih =>
    rw [prettyAt, tokens, prettyMembers_eq_map, memberTokens_eq_map]
    refine .bracketLines brackets_object rfl rfl depth ?_
    have hmember : ∀ m ∈ members,
        CutsInto (quoteOption m.1 ++ ": " ++ m.2.prettyAt (depth + 1)).toList
          (.string m.1 :: .colon :: m.2.tokens) := by
      intro m hm
      have hgap : ∀ c ∈ [' '], isSpace c = true := by simp [isSpace]
      simpa using CutsInto.member m.1 hgap (ih m hm (depth + 1))
    simpa using hmember
  | null => exact cutsInto_compact .null
  | bool b => exact cutsInto_compact (.bool b)
  | number h => exact cutsInto_compact (.number h)
  | string s => exact cutsInto_compact (.string s)

/-! ### Putting tokens together -/

namespace Machine

/-- `complete` does not depend on what the machine expected. -/
private theorem complete_expected (m : Machine) (e : Expected) (v : Json) :
    complete { m with expected := e } v = m.complete v := by
  obtain ⟨stack, _, result⟩ := m
  cases stack with
  | nil => rfl
  | cons frame stack => cases frame <;> rfl

/-- The machine expects a value. -/
def Awaits (m : Machine) : Prop := m.expected = .value ∨ m.expected = .firstItem

/-- `step?` starts a value where the machine `Awaits` one, unless the token is a closing bracket. -/
private theorem step?_of_awaits {m : Machine} {t : Token} (hm : m.Awaits) (ht : t ≠ .closeBracket) :
    m.step? t = m.start? t := by
  obtain h | h := hm
  · simp [step?, h]
  · cases t <;> simp_all [step?]

/-- `step?` along parts with commas between them. The machine is in a state of `Open` before each
part, and in one of `Read` after it, where `Open` and `Read` also tell the parts so far, the last
one first. -/
private theorem foldlM_intercalate {β : Type} {ts : β → List Token}
    (Open Read : List β → Machine → Prop)
    (hcomma : ∀ before m, Read before m → ∃ m', m.step? .comma = some m' ∧ Open before m')
    {xs : List β} {x : β} (hpart : ∀ y ∈ x :: xs, ∀ before m, Open before m →
      ∃ m', (ts y).foldlM step? m = some m' ∧ Read (y :: before) m')
    {before : List β} {m : Machine} (hm : Open before m) :
    ∃ m', ([Token.comma].intercalate ((x :: xs).map ts)).foldlM step? m = some m' ∧
      Read ((x :: xs).reverse ++ before) m' := by
  induction xs generalizing x before m with
  | nil => simpa using hpart x (List.mem_cons_self ..) before m hm
  | cons y ys ih =>
    obtain ⟨m₁, hx, hread⟩ := hpart x (List.mem_cons_self ..) before m hm
    obtain ⟨m₂, hseparated, hopen⟩ := hcomma _ _ hread
    obtain ⟨m', hys, hdone⟩ := ih (fun z hz => hpart z (List.mem_cons_of_mem _ hz)) hopen
    refine ⟨m', ?_, by simpa using hdone⟩
    rw [List.map_cons, List.map_cons, List.intercalate_cons_cons, ← List.map_cons]
    simp only [List.foldlM_append, List.foldlM_cons, List.foldlM_nil, hx, hseparated, hys,
      Option.bind_eq_bind, Option.bind_some, Option.pure_def]

section Brackets

variable (stack : List Frame) (result : Json)

/-- The machine stands before an item of an array. -/
def BeforeItem (items : List Json) (m : Machine) : Prop :=
  m.stack = .array items :: stack ∧ m.result = result ∧ m.Awaits

/-- The machine stands after an item of an array. -/
def AfterItem (items : List Json) (m : Machine) : Prop := m = ⟨.array items :: stack, .next, result⟩

/-- The machine stands before a member of an object. -/
def BeforeMember (members : List (Option String × Json)) (m : Machine) : Prop :=
  (∃ key, m.stack = .object members key :: stack) ∧ m.result = result ∧
    (m.expected = .key ∨ m.expected = .firstKey)

/-- The machine stands after a member of an object. -/
def AfterMember (members : List (Option String × Json)) (m : Machine) : Prop :=
  ∃ key, m = ⟨.object members key :: stack, .next, result⟩

variable {stack result}

/-- `step?` with a comma leads from behind an item to before the next one. -/
theorem AfterItem.step?_comma {items : List Json} {m : Machine}
    (h : AfterItem stack result items m) :
    ∃ m', m.step? .comma = some m' ∧ BeforeItem stack result items m' := by
  obtain rfl := h
  exact ⟨_, rfl, rfl, rfl, .inl rfl⟩

/-- `step?` with a comma leads from behind a member to before the next one. -/
theorem AfterMember.step?_comma {members : List (Option String × Json)} {m : Machine}
    (h : AfterMember stack result members m) :
    ∃ m', m.step? .comma = some m' ∧ BeforeMember stack result members m' := by
  obtain ⟨key, rfl⟩ := h
  exact ⟨_, rfl, ⟨key, rfl⟩, rfl, .inl rfl⟩

/-- `complete` puts an item into the frame of its array. -/
theorem BeforeItem.complete {items : List Json} {m : Machine} (h : BeforeItem stack result items m)
    (v : Json) :
    AfterItem stack result (v :: items) (m.complete v) := by
  obtain ⟨hstack, hresult, -⟩ := h
  simp [AfterItem, Machine.complete, hstack, hresult]

/-- `step?` along a key and a colon leads to the value of a member, which `complete` then puts into
the frame of its object. -/
private theorem BeforeMember.step?_key {members : List (Option String × Json)} {m : Machine}
    (h : BeforeMember stack result members m) (key : Option String) :
    ∃ m', [Token.string key, .colon].foldlM step? m = some m' ∧ m'.Awaits ∧
      ∀ v, AfterMember stack result ((key, v) :: members) (m'.complete v) := by
  obtain ⟨⟨key', hstack⟩, hresult, hexpected⟩ := h
  refine ⟨⟨.object members key :: stack, .value, result⟩, ?_, .inl rfl, fun v => ⟨key, rfl⟩⟩
  obtain hexpected | hexpected := hexpected <;> simp [step?, key?, hexpected, hstack, hresult]

end Brackets

/-- `step?` with a closing bracket completes the array, whose items have been collected in
reverse. -/
theorem AfterItem.step?_close {items : List Json} {m m' : Machine}
    (h : AfterItem m.stack m.result items m') :
    m'.step? .closeBracket = some (m.complete (.array items.reverse)) := by
  obtain rfl := h
  exact congrArg some (complete_expected m .next _)

/-- `step?` with a closing brace completes the object, whose members have been collected in
reverse. -/
theorem AfterMember.step?_close {members : List (Option String × Json)} {m m' : Machine}
    (h : AfterMember m.stack m.result members m') :
    m'.step? .closeBrace = some (m.complete (.object members.reverse)) := by
  obtain ⟨key, rfl⟩ := h
  exact congrArg some (complete_expected m .next _)

/-- The tokens of a value complete it, wherever the machine expects one. -/
def Completes (v : Json) : Prop :=
  ∀ m : Machine, m.Awaits → v.tokens.foldlM step? m = some (m.complete v)

/-- `step?` along the items between the brackets of an array completes it. -/
private theorem foldlM_items {items : List Json} (h : ∀ v ∈ items, Completes v) (m : Machine) :
    ([Token.comma].intercalate (items.map tokens) ++ [Token.closeBracket]).foldlM step?
      { m with stack := .array [] :: m.stack, expected := .firstItem } =
        some (m.complete (.array items)) := by
  cases items with
  | nil => exact congrArg some (complete_expected m .firstItem (.array []))
  | cons v vs =>
    have hpart : ∀ w ∈ v :: vs, ∀ before m', BeforeItem m.stack m.result before m' →
        ∃ m'', w.tokens.foldlM step? m' = some m'' ∧ AfterItem m.stack m.result (w :: before) m'' :=
      fun w hw _ m' hm' => ⟨_, h w hw m' hm'.2.2, hm'.complete w⟩
    -- The opening bracket has pushed a frame without items.
    have hopened : BeforeItem m.stack m.result []
        { m with stack := .array [] :: m.stack, expected := .firstItem } := ⟨rfl, rfl, .inr rfl⟩
    obtain ⟨m', hitems, hread⟩ :=
      foldlM_intercalate (BeforeItem m.stack m.result) (AfterItem m.stack m.result)
        (fun _ _ => AfterItem.step?_comma) hpart hopened
    rw [List.foldlM_append, hitems]
    simpa using hread.step?_close

/-- `step?` along the members between the brackets of an object completes it. -/
private theorem foldlM_members {members : List (Option String × Json)}
    (h : ∀ p ∈ members, Completes p.2) (m : Machine) :
    ([Token.comma].intercalate (members.map fun p =>
        Token.string p.1 :: Token.colon :: p.2.tokens) ++ [Token.closeBrace]).foldlM step?
      { m with stack := .object [] none :: m.stack, expected := .firstKey } =
        some (m.complete (.object members)) := by
  cases members with
  | nil => exact congrArg some (complete_expected m .firstKey (.object []))
  | cons p ps =>
    have hpart : ∀ q ∈ p :: ps, ∀ before m', BeforeMember m.stack m.result before m' →
        ∃ m'', (Token.string q.1 :: Token.colon :: q.2.tokens).foldlM step? m' = some m'' ∧
          AfterMember m.stack m.result (q :: before) m'' := by
      intro q hq before m' hm'
      obtain ⟨m₁, hkey, hawaits, hafter⟩ := hm'.step?_key q.1
      refine ⟨m₁.complete q.2, ?_, hafter q.2⟩
      -- First the key and the colon, then the value.
      change ([Token.string q.1, .colon] ++ q.2.tokens).foldlM step? m' = _
      rw [List.foldlM_append, hkey]
      exact h q hq m₁ hawaits
    have hopened : BeforeMember m.stack m.result []
        { m with stack := .object [] none :: m.stack, expected := .firstKey } :=
      ⟨⟨none, rfl⟩, rfl, .inr rfl⟩
    obtain ⟨m', hmembers, hread⟩ := foldlM_intercalate (BeforeMember m.stack m.result)
      (AfterMember m.stack m.result) (fun _ _ => AfterMember.step?_comma) hpart hopened
    rw [List.foldlM_append, hmembers]
    simpa using hread.step?_close

/-- `tokens` of a value complete it, from wherever one may stand. -/
theorem foldlM_tokens {v : Json} (h : v.WellFormed) : Completes v := by
  induction h with
  | null => exact fun m hm => by simp [tokens, step?_of_awaits hm, start?]
  | bool b => exact fun m hm => by simp [tokens, step?_of_awaits hm, start?]
  | number h => exact fun m hm => by simp [tokens, step?_of_awaits hm, start?]
  | string s => exact fun m hm => by simp [tokens, step?_of_awaits hm, start?]
  | @array items _ ih =>
    intro m hm
    rw [tokens, itemTokens_eq_map, List.foldlM_cons, step?_of_awaits hm (by simp)]
    exact foldlM_items ih m
  | @object members _ ih =>
    intro m hm
    rw [tokens, memberTokens_eq_map, List.foldlM_cons, step?_of_awaits hm (by simp)]
    exact foldlM_members ih m

end Machine

/-! ### Texts of a value -/

/-- `parse?` reads a text that is cut into the tokens of a value as that value. -/
private theorem parse?_of_cutsInto {v : Json} {text : String} (hv : v.WellFormed)
    (h : CutsInto text.toList v.tokens) : parse? text = some v := by
  have hends : Ends [] := by simp [Ends]
  have hcut : Cut text.toList v.tokens := by
    simpa using h.cut hends (.blank rfl)
  -- No token is empty, so the length of the text bounds their number.
  have hfuel : v.tokens.length < text.length + 1 := by
    have := h.length_le
    rw [String.length_toList] at this
    omega
  have htokens : tokens? text = some v.tokens := tokensUpTo_of_cut hcut hfuel
  have hrun := Machine.foldlM_tokens hv {} (.inl rfl)
  simp [parse?, htokens, hrun, Machine.complete, Machine.result?]

/-- `parse?` reads back what `compact` has written. -/
theorem parse?_compact {v : Json} (h : v.WellFormed) : parse? v.compact = some v :=
  parse?_of_cutsInto h (cutsInto_compact h)

/-- `parse?` reads back what `pretty` has written. -/
theorem parse?_pretty {v : Json} (h : v.WellFormed) : parse? v.pretty = some v :=
  parse?_of_cutsInto h (cutsInto_prettyAt h 0)

end CallReach.Json
