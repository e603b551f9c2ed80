import CallReach.Text.Blank
import Mathlib.Data.String.Basic

/-!
# The order of texts by bytes

Names are ordered by code points in every map and set. This file proves that the order is that of
the UTF-8 encodings, byte by byte: an encoding never is the beginning of another one, and of two
characters the smaller one has the smaller encoding.

## Key results

- `decides_utf8EncodeChar`: of two characters, the smaller one has the smaller encoding, whatever
  follows
- `lt_iff_bytesLt`, `compare_eq_lt_iff`: the order of texts is the order of their bytes
-/

namespace CallReach.Text

/-- The bytes of a text in UTF-8. -/
def bytes (s : String) : List UInt8 := s.toUTF8.data.toList

/-- One text comes before another one by its bytes. -/
def BytesLt (s t : String) : Prop := bytes s < bytes t

/-- `bytes` of a text are the encodings of its characters, one after the other. -/
private theorem bytes_eq_flatMap (s : String) :
    bytes s = s.toList.flatMap String.utf8EncodeChar := by
  rw [bytes, String.toUTF8_eq_toByteArray, ← String.utf8Encode_toList]
  exact List.toList_data_toByteArray

/-! ## Encodings of characters -/

/-- Two lists differ at a place that both of them have, and the first one has the smaller entry
there. -/
def Decides : List UInt8 → List UInt8 → Prop
  | x :: as, y :: bs => x < y ∨ x = y ∧ Decides as bs
  | _, _ => False

/-- `Decides` settles the order of the lists, whatever follows. -/
private theorem Decides.append_lt_append {as bs : List UInt8} (h : Decides as bs)
    (l m : List UInt8) : as ++ l < bs ++ m := by
  induction as generalizing bs with
  | nil => cases bs <;> exact h.elim
  | cons x as ih =>
    cases bs with
    | nil => exact h.elim
    | cons y bs =>
      rw [List.cons_append, List.cons_append, List.cons_lt_cons_iff]
      rcases h with h | ⟨rfl, h⟩
      · exact .inl h
      · exact .inr ⟨rfl, ih h⟩

/-- The last `k` bytes of the encoding of a number, which hold six bits each. -/
def continuation : Nat → Nat → List UInt8
  | 0, _ => []
  | k + 1, v => UInt8.ofNat (v / 64 ^ k % 64 + 0x80) :: continuation k v

/-- An encoding: a first byte that holds what the `k` bytes after it do not hold. -/
def encoding (base k v : Nat) : List UInt8 := UInt8.ofNat (v / 64 ^ k + base) :: continuation k v

/-- How many bytes follow the first one, and where first bytes start, for a number. -/
def EncodingShape (base k v : Nat) : Prop :=
  base = 0 ∧ k = 0 ∧ v < 0x80 ∨
  base = 0xC0 ∧ k = 1 ∧ 0x80 ≤ v ∧ v < 0x800 ∨
  base = 0xE0 ∧ k = 2 ∧ 0x800 ≤ v ∧ v < 0x10000 ∨
  base = 0xF0 ∧ k = 3 ∧ 0x10000 ≤ v ∧ v < 0x110000

/-- `String.utf8EncodeChar` gives an `encoding` of one of the four shapes. -/
private theorem utf8EncodeChar_eq_encoding (c : Char) :
    ∃ base k, EncodingShape base k c.val.toNat ∧
      String.utf8EncodeChar c = encoding base k c.val.toNat := by
  have hmax : c.val.toNat < 0x110000 := by
    rcases c.valid with hc | hc <;> omega
  unfold String.utf8EncodeChar EncodingShape
  dsimp only
  generalize c.val.toNat = v at hmax
  -- One case for each length. The masks of the leading byte change nothing, since what is left of
  -- `v` is small enough.
  split_ifs with h₁ h₂ h₃
  · exact ⟨0, 0, by omega, by simp [encoding, continuation]⟩
  · refine ⟨0xC0, 1, by omega, ?_⟩
    simp [encoding, continuation, Nat.mod_eq_of_lt (show v / 64 < 32 by omega)]
  · refine ⟨0xE0, 2, by omega, ?_⟩
    simp [encoding, continuation, Nat.mod_eq_of_lt (show v / 4096 < 16 by omega)]
  · refine ⟨0xF0, 3, by omega, ?_⟩
    simp [encoding, continuation, Nat.mod_eq_of_lt (show v / 262144 < 8 by omega)]

private theorem ofNat_lt_ofNat {a b : Nat} (hb : b < 256) (h : a < b) :
    UInt8.ofNat a < UInt8.ofNat b := by
  rw [UInt8.lt_iff_toNat_lt, UInt8.toNat_ofNat', UInt8.toNat_ofNat']
  omega

/-- Of two numbers that differ only in the last `k` bytes, the smaller one has the smaller
`continuation`. -/
private theorem decides_continuation {k m n : Nat} (h : m < n) (hq : m / 64 ^ k = n / 64 ^ k) :
    Decides (continuation k m) (continuation k n) := by
  induction k with
  | zero =>
    rw [Nat.pow_zero, Nat.div_one, Nat.div_one] at hq
    omega
  | succ k ih =>
    rw [Nat.pow_succ, ← Nat.div_div_eq_div_mul, ← Nat.div_div_eq_div_mul] at hq
    -- The leading byte of the continuation settles it, or it is the same and the rest does.
    have hle : m / 64 ^ k ≤ n / 64 ^ k := Nat.div_le_div_right h.le
    rcases hle.lt_or_eq with hlt | heq
    · exact .inl (ofNat_lt_ofNat (by omega) (by omega))
    · exact .inr ⟨by rw [heq], ih heq⟩

/-- Of two characters, the smaller one has the smaller encoding, and `Decides` holds: the difference
lies inside both. -/
theorem decides_utf8EncodeChar {c d : Char} (h : c < d) :
    Decides (String.utf8EncodeChar c) (String.utf8EncodeChar d) := by
  have hlt : c.val.toNat < d.val.toNat := h
  obtain ⟨base, k, hshape, hc⟩ := utf8EncodeChar_eq_encoding c
  obtain ⟨base', k', hshape', hd⟩ := utf8EncodeChar_eq_encoding d
  rw [hc, hd]
  generalize c.val.toNat = m at *
  generalize d.val.toNat = n at *
  -- The first bytes differ, or both encodings have one shape and differ behind the first byte.
  have hfirst : n / 64 ^ k' + base' < 256 ∧
      (m / 64 ^ k + base < n / 64 ^ k' + base' ∨
        base = base' ∧ k = k' ∧ m / 64 ^ k = n / 64 ^ k) := by
    rcases hshape with ⟨rfl, rfl, _⟩ | ⟨rfl, rfl, _⟩ | ⟨rfl, rfl, _⟩ | ⟨rfl, rfl, _⟩ <;>
      rcases hshape' with ⟨rfl, rfl, _⟩ | ⟨rfl, rfl, _⟩ | ⟨rfl, rfl, _⟩ | ⟨rfl, rfl, _⟩ <;>
      omega
  obtain ⟨hbyte, hless | ⟨rfl, rfl, hq⟩⟩ := hfirst
  · exact .inl (ofNat_lt_ofNat hbyte hless)
  · exact .inr ⟨by rw [hq], decides_continuation hlt hq⟩

/-! ## Texts -/

/-- The order of lists of characters is that of their encodings, by `decides_utf8EncodeChar` at the
first difference. -/
private theorem flatMap_utf8EncodeChar_lt {cs ds : List Char} (h : cs < ds) :
    cs.flatMap String.utf8EncodeChar < ds.flatMap String.utf8EncodeChar := by
  induction cs generalizing ds with
  | nil =>
    cases ds with
    | nil => exact absurd h (List.not_lt_nil [])
    | cons d ds =>
      rw [List.flatMap_nil, List.flatMap_cons]
      obtain ⟨b, bs, hb⟩ := List.exists_cons_of_ne_nil (String.utf8EncodeChar_ne_nil (c := d))
      rw [hb]
      exact List.nil_lt_cons b _
  | cons c cs ih =>
    cases ds with
    | nil => exact absurd h (List.not_lt_nil _)
    | cons d ds =>
      rw [List.flatMap_cons, List.flatMap_cons]
      -- Different first characters decide, whatever follows their bytes.
      rcases List.cons_lt_cons_iff.mp h with hcd | ⟨rfl, htail⟩
      · exact (decides_utf8EncodeChar hcd).append_lt_append _ _
      · exact List.append_left_lt (ih htail)

/-- The order of texts is `BytesLt`. -/
theorem lt_iff_bytesLt (s t : String) : s < t ↔ BytesLt s t := by
  have forward : ∀ {s t : String}, s < t → BytesLt s t := by
    intro s t h
    rw [BytesLt, bytes_eq_flatMap, bytes_eq_flatMap]
    exact flatMap_utf8EncodeChar_lt h
  refine ⟨forward, fun h => ?_⟩
  -- Both orders are total, so one direction is enough.
  rcases lt_trichotomy s t with hlt | rfl | hgt
  · exact hlt
  · exact absurd h (List.lt_irrefl (bytes s))
  · exact absurd h (List.lt_asymm (forward hgt))

/-- The order of maps and sets of texts is `BytesLt`. -/
theorem compare_eq_lt_iff (s t : String) : compare s t = .lt ↔ BytesLt s t := by
  rw [compare_lt_iff_lt, lt_iff_bytesLt]

end CallReach.Text
