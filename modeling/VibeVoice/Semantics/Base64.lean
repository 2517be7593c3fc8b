import Mathlib.Data.List.Basic
import Mathlib.Tactic.IntervalCases
import Mathlib.Tactic.Common

/-!
# Base64

Four characters are three bytes.  A last group of one or two bytes is padded with `=`,
and then the last character before the padding has bits that belong to no byte.
`encode` sets them to zero.  `decode` is strict in everything else --- characters of the
alphabet only, padding where it must be and nowhere else --- but does not look at these
bits, so `decode` undoes `encode` (`decode_encode`) and is not injective.
-/

namespace Base64

/-- The character of six bits. -/
def digit (n : ℕ) : Char :=
  if n < 26 then Char.ofNat (0x41 + n)
  else if n < 52 then Char.ofNat (0x61 + (n - 26))
  else if n < 62 then Char.ofNat (0x30 + (n - 52))
  else if n = 62 then '+'
  else '/'

/-- The six bits of a character of the alphabet. -/
def value? (c : Char) : Option ℕ :=
  let n := c.toNat
  if 0x41 ≤ n ∧ n ≤ 0x5A then some (n - 0x41)
  else if 0x61 ≤ n ∧ n ≤ 0x7A then some (n - 0x61 + 26)
  else if 0x30 ≤ n ∧ n ≤ 0x39 then some (n - 0x30 + 52)
  else if c = '+' then some 62
  else if c = '/' then some 63
  else none

/-- Three bytes at a time. -/
def encode : List UInt8 → List Char
  | [] => []
  | [a] => [digit (a.toNat / 4), digit (a.toNat % 4 * 16), '=', '=']
  | [a, b] =>
    [digit (a.toNat / 4), digit (a.toNat % 4 * 16 + b.toNat / 16), digit (b.toNat % 16 * 4), '=']
  | a :: b :: c :: rest =>
    digit (a.toNat / 4) :: digit (a.toNat % 4 * 16 + b.toNat / 16) ::
      digit (b.toNat % 16 * 4 + c.toNat / 64) :: digit (c.toNat % 64) :: encode rest

/-- The bytes of a group that is padded, without its last character, which is a `=`. -/
def padded (a b c : Char) : Option (List UInt8) :=
  (value? a).bind fun x =>
  (value? b).bind fun y =>
  if c = '=' then some [(x * 4 + y / 16).toUInt8]
  else
    (value? c).bind fun z => some [(x * 4 + y / 16).toUInt8, (y % 16 * 16 + z / 4).toUInt8]

/-- The bytes of a group that is not. -/
def group (a b c d : Char) : Option (List UInt8) :=
  (value? a).bind fun x =>
  (value? b).bind fun y =>
  (value? c).bind fun z =>
  (value? d).bind fun w =>
  some [(x * 4 + y / 16).toUInt8, (y % 16 * 16 + z / 4).toUInt8, (z % 4 * 64 + w).toUInt8]

/-- **Strict decoding**: the padding is there, and nothing that is not of the alphabet. -/
def decode : List Char → Option (List UInt8)
  | [] => some []
  | a :: b :: c :: d :: rest =>
    if d = '=' ∧ rest = [] then padded a b c
    else (group a b c d).bind fun bytes => (decode rest).bind fun others => some (bytes ++ others)
  | _ => none

/-! ## Characters -/

theorem value?_digit {n : ℕ} (h : n < 64) : value? (digit n) = some n := by
  interval_cases n <;> rfl

theorem digit_ne_pad {n : ℕ} (h : n < 64) : digit n ≠ '=' := by
  interval_cases n <;> decide

theorem toNat_digit_lt (n : ℕ) : (digit n).toNat < 0x7F ∧ 0x2A < (digit n).toNat := by
  unfold digit
  split
  · interval_cases n <;> decide
  · split
    · interval_cases n <;> decide
    · split
      · interval_cases n <;> decide
      · split <;> decide

/-- A text is written in printable ASCII. -/
theorem toNat_of_mem_encode {bytes : List UInt8} {c : Char} (h : c ∈ encode bytes) :
    0x2A < c.toNat ∧ c.toNat < 0x7F := by
  have hdigit (n : ℕ) (hc : c = digit n) : 0x2A < c.toNat ∧ c.toNat < 0x7F :=
    hc ▸ (toNat_digit_lt n).symm
  have hpad (hc : c = '=') : 0x2A < c.toNat ∧ c.toNat < 0x7F := hc ▸ by decide
  induction bytes using encode.induct with
  | case1 => exact absurd h List.not_mem_nil
  | case2 a =>
    simp only [encode, List.mem_cons, List.not_mem_nil, or_false] at h
    rcases h with h | h | h | h
    exacts [hdigit _ h, hdigit _ h, hpad h, hpad h]
  | case3 a b =>
    simp only [encode, List.mem_cons, List.not_mem_nil, or_false] at h
    rcases h with h | h | h | h
    exacts [hdigit _ h, hdigit _ h, hdigit _ h, hpad h]
  | case4 a b d rest ih =>
    simp only [encode, List.mem_cons] at h
    rcases h with h | h | h | h | h
    exacts [hdigit _ h, hdigit _ h, hdigit _ h, hdigit _ h, ih h]

/-! ## The round trip -/

theorem toUInt8_eq {n : ℕ} {a : UInt8} (h : n = a.toNat) : n.toUInt8 = a := by
  rw [h]
  exact UInt8.ofNat_toNat

theorem padded_one (a : UInt8) :
    padded (digit (a.toNat / 4)) (digit (a.toNat % 4 * 16)) '=' = some [a] := by
  have ha := a.toNat_lt
  rw [padded, value?_digit (by omega), value?_digit (by omega)]
  simp only [Option.bind_some, if_pos]
  rw [toUInt8_eq (by omega : a.toNat / 4 * 4 + a.toNat % 4 * 16 / 16 = a.toNat)]

theorem padded_two (a b : UInt8) :
    padded (digit (a.toNat / 4)) (digit (a.toNat % 4 * 16 + b.toNat / 16))
      (digit (b.toNat % 16 * 4)) = some [a, b] := by
  have ha := a.toNat_lt
  have hb := b.toNat_lt
  have hfirst : a.toNat / 4 * 4 + (a.toNat % 4 * 16 + b.toNat / 16) / 16 = a.toNat := by omega
  have hsecond : (a.toNat % 4 * 16 + b.toNat / 16) % 16 * 16 + b.toNat % 16 * 4 / 4 = b.toNat := by
    omega
  rw [padded, value?_digit (by omega), value?_digit (by omega), value?_digit (by omega)]
  simp only [Option.bind_some, if_neg (digit_ne_pad (by omega : b.toNat % 16 * 4 < 64))]
  rw [toUInt8_eq hfirst, toUInt8_eq hsecond]

theorem group_three (a b c : UInt8) :
    group (digit (a.toNat / 4)) (digit (a.toNat % 4 * 16 + b.toNat / 16))
      (digit (b.toNat % 16 * 4 + c.toNat / 64)) (digit (c.toNat % 64)) = some [a, b, c] := by
  have ha := a.toNat_lt
  have hb := b.toNat_lt
  have hc := c.toNat_lt
  have hfirst : a.toNat / 4 * 4 + (a.toNat % 4 * 16 + b.toNat / 16) / 16 = a.toNat := by omega
  have hsecond : (a.toNat % 4 * 16 + b.toNat / 16) % 16 * 16 +
      (b.toNat % 16 * 4 + c.toNat / 64) / 4 = b.toNat := by omega
  have hthird : (b.toNat % 16 * 4 + c.toNat / 64) % 4 * 64 + c.toNat % 64 = c.toNat := by omega
  rw [group, value?_digit (by omega), value?_digit (by omega), value?_digit (by omega),
    value?_digit (by omega)]
  simp only [Option.bind_some]
  rw [toUInt8_eq hfirst, toUInt8_eq hsecond, toUInt8_eq hthird]

/-- **What was encoded is decoded.** -/
theorem decode_encode (bytes : List UInt8) : decode (encode bytes) = some bytes := by
  induction bytes using encode.induct with
  | case1 => rfl
  | case2 a => rw [encode, decode, if_pos ⟨rfl, rfl⟩, padded_one]
  | case3 a b => rw [encode, decode, if_pos ⟨rfl, rfl⟩, padded_two]
  | case4 a b c rest ih =>
    have hlast : c.toNat % 64 < 64 := Nat.mod_lt _ (by decide)
    rw [encode, decode, if_neg fun h => digit_ne_pad hlast h.1, group_three, ih]
    rfl

theorem encode_injective {bytes bytes' : List UInt8} (h : encode bytes = encode bytes') :
    bytes = bytes' :=
  Option.some_inj.mp ((decode_encode bytes).symm.trans (h ▸ decode_encode bytes'))

/-- Two spellings of one byte: the last four bits of the second character are not used. -/
example : decode ['Q', 'Q', '=', '='] = some [0x41] ∧
    decode ['Q', 'R', '=', '='] = some [0x41] := by
  decide

end Base64
