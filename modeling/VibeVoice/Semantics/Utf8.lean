import Mathlib.Tactic.Common

/-!
# UTF-8

`encode` is `str.encode("utf-8")`, of a text without surrogates, and `decode` is
`bytes.decode("utf-8", errors="replace")`: the longest beginning of a character
that cannot be completed is replaced by one U+FFFD.

The decoder is a machine that takes a byte at a time.  Between two characters it
owes nothing; inside one it knows how many bytes are still owed and what the next
of them can be, which is where the overlong forms, the surrogates and what is
beyond U+10FFFF are excluded.
-/

namespace Utf8

/-! ## Encoding -/

/-- The bytes of a character, as numbers. -/
def units (n : ℕ) : List ℕ :=
  if n < 0x80 then [n]
  else if n < 0x800 then [0xC0 + n / 64, 0x80 + n % 64]
  else if n < 0x10000 then [0xE0 + n / 4096, 0x80 + n / 64 % 64, 0x80 + n % 64]
  else [0xF0 + n / 262144, 0x80 + n / 4096 % 64, 0x80 + n / 64 % 64, 0x80 + n % 64]

/-- The bytes of a text. -/
def encode (cs : List Char) : List UInt8 :=
  cs.flatMap fun c => (units c.toNat).map Nat.toUInt8

@[simp] theorem encode_nil : encode [] = [] := rfl

theorem encode_append (cs ds : List Char) : encode (cs ++ ds) = encode cs ++ encode ds :=
  List.flatMap_append

theorem encode_cons (c : Char) (cs : List Char) :
    encode (c :: cs) = (units c.toNat).map Nat.toUInt8 ++ encode cs := rfl

/-! ## Decoding -/

/-- Where the decoder is. -/
inductive State where
  /-- Between two characters. -/
  | start
  /-- Inside a character: `owed + 1` bytes are still to come, the next of them
  between `low` and `high`. -/
  | inside (owed low high value : ℕ)

/-- U+FFFD -/
def replacement : Char := Char.ofNat 0xFFFD

/-- The first byte of a character. -/
def first (b : ℕ) : List Char × State :=
  if b < 0x80 then ([Char.ofNat b], .start)
  else if 0xC2 ≤ b ∧ b ≤ 0xDF then ([], .inside 0 0x80 0xBF (b - 0xC0))
  else if b = 0xE0 then ([], .inside 1 0xA0 0xBF 0)
  else if b = 0xED then ([], .inside 1 0x80 0x9F 0x0D)
  else if 0xE1 ≤ b ∧ b ≤ 0xEF then ([], .inside 1 0x80 0xBF (b - 0xE0))
  else if b = 0xF0 then ([], .inside 2 0x90 0xBF 0)
  else if 0xF1 ≤ b ∧ b ≤ 0xF3 then ([], .inside 2 0x80 0xBF (b - 0xF0))
  else if b = 0xF4 then ([], .inside 2 0x80 0x8F 4)
  else ([replacement], .start)

/-- One byte: the characters that are complete, and where the decoder is then. -/
def next : State → ℕ → List Char × State
  | .start, b => first b
  | .inside owed low high value, b =>
    if low ≤ b ∧ b ≤ high then
      match owed with
      | 0 => ([Char.ofNat (value * 64 + (b - 0x80))], .start)
      | owed + 1 => ([], .inside owed 0x80 0xBF (value * 64 + (b - 0x80)))
    -- the bytes so far are replaced, and this one is looked at again
    else (replacement :: (first b).1, (first b).2)

/-- The characters of the bytes that are left. -/
def decodeFrom : State → List UInt8 → List Char
  | .start, [] => []
  | .inside _ _ _ _, [] => [replacement]
  | s, b :: bytes => (next s b.toNat).1 ++ decodeFrom (next s b.toNat).2 bytes

/-- The text of some bytes. -/
def decode (bytes : List UInt8) : List Char := decodeFrom .start bytes

/-! ## Decoding what was encoded -/

theorem toNat_toUInt8 {n : ℕ} (h : n < 256) : n.toUInt8.toNat = n := by
  rw [Nat.toUInt8, UInt8.toNat_ofNat', Nat.mod_eq_of_lt h]

/-- A byte that is taken as a whole. -/
theorem decodeFrom_cons {s : State} {n : ℕ} (h : n < 256) (bytes : List UInt8) :
    decodeFrom s (n.toUInt8 :: bytes) = (next s n).1 ++ decodeFrom (next s n).2 bytes := by
  cases s <;> rw [decodeFrom, toNat_toUInt8 h]

/-- The last byte of a character. -/
theorem decodeFrom_last {low high value n : ℕ} (hlow : low ≤ n) (hhigh : n ≤ high) (h : n < 256)
    (bytes : List UInt8) : decodeFrom (.inside 0 low high value) (n.toUInt8 :: bytes) =
      Char.ofNat (value * 64 + (n - 0x80)) :: decodeFrom .start bytes := by
  rw [decodeFrom_cons h, next, if_pos ⟨hlow, hhigh⟩]
  rfl

/-- A byte inside a character. -/
theorem decodeFrom_inside {owed low high value n : ℕ} (hlow : low ≤ n) (hhigh : n ≤ high)
    (h : n < 256) (bytes : List UInt8) :
    decodeFrom (.inside (owed + 1) low high value) (n.toUInt8 :: bytes) =
      decodeFrom (.inside owed 0x80 0xBF (value * 64 + (n - 0x80))) bytes := by
  rw [decodeFrom_cons h, next, if_pos ⟨hlow, hhigh⟩]
  rfl

/-- The first byte of a character of several. -/
theorem decodeFrom_first {n : ℕ} {s : State} (hs : first n = ([], s)) (h : n < 256)
    (bytes : List UInt8) : decodeFrom .start (n.toUInt8 :: bytes) = decodeFrom s bytes := by
  rw [decodeFrom_cons h, next, hs]
  rfl

/-- The first byte of a character of three. -/
theorem first_three {n : ℕ} (hlow : 0x800 ≤ n) (hhigh : n < 0x10000)
    (hsurrogate : n < 0xD800 ∨ 0xDFFF < n) : ∃ low high,
      first (0xE0 + n / 4096) = ([], .inside 1 low high (n / 4096)) ∧
        low ≤ 0x80 + n / 64 % 64 ∧ 0x80 + n / 64 % 64 ≤ high := by
  unfold first
  rw [if_neg (by omega), if_neg (by omega)]
  split
  · exact ⟨_, _, by rw [show n / 4096 = 0 by omega], by omega, by omega⟩
  split
  · exact ⟨_, _, by rw [show n / 4096 = 0x0D by omega], by omega, by omega⟩
  · rw [if_pos (by omega), Nat.add_sub_cancel_left]
    exact ⟨_, _, rfl, by omega, by omega⟩

/-- The first byte of a character of four. -/
theorem first_four {n : ℕ} (hlow : 0x10000 ≤ n) (hhigh : n < 0x110000) : ∃ low high,
    first (0xF0 + n / 262144) = ([], .inside 2 low high (n / 262144)) ∧
      low ≤ 0x80 + n / 4096 % 64 ∧ 0x80 + n / 4096 % 64 ≤ high := by
  unfold first
  rw [if_neg (by omega), if_neg (by omega), if_neg (by omega), if_neg (by omega),
    if_neg (by omega)]
  split
  · exact ⟨_, _, by rw [show n / 262144 = 0 by omega], by omega, by omega⟩
  split
  · rw [Nat.add_sub_cancel_left]
    exact ⟨_, _, rfl, by omega, by omega⟩
  · rw [if_pos (by omega)]
    exact ⟨_, _, by rw [show n / 262144 = 4 by omega], by omega, by omega⟩

/-- **A character is read back**, whatever follows it. -/
theorem decodeFrom_units (c : Char) (bytes : List UInt8) :
    decodeFrom .start ((units c.toNat).map Nat.toUInt8 ++ bytes) =
      c :: decodeFrom .start bytes := by
  have hvalid : c.toNat < 0xD800 ∨ 0xDFFF < c.toNat ∧ c.toNat < 0x110000 := c.valid
  have hc : Char.ofNat c.toNat = c := Char.ofNat_toNat c
  generalize c.toNat = n at hvalid hc
  unfold units
  split
  · rename_i h
    rw [List.map_singleton, List.singleton_append, decodeFrom_cons (by omega), next, first,
      if_pos h, hc]
    rfl
  split
  · have hfirst : first (0xC0 + n / 64) = ([], .inside 0 0x80 0xBF (n / 64)) := by
      rw [first, if_neg (by omega), if_pos (by omega), Nat.add_sub_cancel_left]
    simp only [List.map_cons, List.map_nil, List.cons_append, List.nil_append]
    rw [decodeFrom_first hfirst (by omega), decodeFrom_last (by omega) (by omega) (by omega),
      show n / 64 * 64 + (0x80 + n % 64 - 0x80) = n by omega, hc]
  split
  · obtain ⟨low, high, hfirst, hlow, hhigh⟩ := first_three (n := n) (by omega) (by omega) (by omega)
    simp only [List.map_cons, List.map_nil, List.cons_append, List.nil_append]
    rw [decodeFrom_first hfirst (by omega), decodeFrom_inside hlow hhigh (by omega),
      decodeFrom_last (by omega) (by omega) (by omega),
      show (n / 4096 * 64 + (0x80 + n / 64 % 64 - 0x80)) * 64 + (0x80 + n % 64 - 0x80) = n by
        omega, hc]
  · obtain ⟨low, high, hfirst, hlow, hhigh⟩ := first_four (n := n) (by omega) (by omega)
    simp only [List.map_cons, List.map_nil, List.cons_append, List.nil_append]
    rw [decodeFrom_first hfirst (by omega), decodeFrom_inside hlow hhigh (by omega),
      decodeFrom_inside (by omega) (by omega) (by omega),
      decodeFrom_last (by omega) (by omega) (by omega),
      show ((n / 262144 * 64 + (0x80 + n / 4096 % 64 - 0x80)) * 64 +
        (0x80 + n / 64 % 64 - 0x80)) * 64 + (0x80 + n % 64 - 0x80) = n by omega, hc]

/-- **What was encoded is decoded**, whatever follows it. -/
theorem decode_encode_append (cs : List Char) (bytes : List UInt8) :
    decode (encode cs ++ bytes) = cs ++ decode bytes := by
  induction cs with
  | nil => rfl
  | cons c cs ih =>
    rw [encode_cons, List.append_assoc, decode, decodeFrom_units, ← decode, ih, List.cons_append]

theorem decode_encode (cs : List Char) : decode (encode cs) = cs := by
  have h := decode_encode_append cs []
  rwa [List.append_nil, show decode [] = [] from rfl, List.append_nil] at h

/-- No character is the beginning of another: what is encoded as a beginning is one. -/
theorem prefix_of_encode_prefix {cs ds : List Char} (h : encode cs <+: encode ds) :
    cs <+: ds := by
  obtain ⟨bytes, hbytes⟩ := h
  have hds := decode_encode_append cs bytes
  rw [hbytes, decode_encode] at hds
  exact ⟨decode bytes, hds.symm⟩

/-- The bytes of a character are bytes. -/
theorem lt_of_mem_units {c : Char} {n : ℕ} (h : n ∈ units c.toNat) : n < 256 := by
  have hvalid : c.toNat < 0xD800 ∨ 0xDFFF < c.toNat ∧ c.toNat < 0x110000 := c.valid
  unfold units at h
  split at h
  · rw [List.mem_singleton] at h
    omega
  split at h
  · simp only [List.mem_cons, List.not_mem_nil, or_false] at h
    omega
  split at h
  · simp only [List.mem_cons, List.not_mem_nil, or_false] at h
    omega
  · simp only [List.mem_cons, List.not_mem_nil, or_false] at h
    omega

/-- The bytes of a character beyond ASCII are beyond ASCII. -/
theorem mem_units {c : Char} {n : ℕ} (hn : n < 0x80) : n ∈ units c.toNat ↔ c.toNat = n := by
  unfold units
  split
  · rw [List.mem_singleton]
    exact eq_comm
  split
  · simp only [List.mem_cons, List.not_mem_nil, or_false]
    omega
  split
  · simp only [List.mem_cons, List.not_mem_nil, or_false]
    omega
  · simp only [List.mem_cons, List.not_mem_nil, or_false]
    omega

/-- **A byte below `0x80` is a character**, never a part of one. -/
theorem mem_encode {cs : List Char} {c : Char} (hc : c.toNat < 0x80) :
    c.toNat.toUInt8 ∈ encode cs ↔ c ∈ cs := by
  constructor
  · intro hmem
    obtain ⟨d, hd, hbyte⟩ := List.mem_flatMap.mp hmem
    obtain ⟨n, hn, heq⟩ := List.mem_map.mp hbyte
    have hn' : n = c.toNat := by
      have h := congrArg UInt8.toNat heq
      rwa [toNat_toUInt8 (lt_of_mem_units hn), toNat_toUInt8 (by omega)] at h
    rw [hn', mem_units hc] at hn
    rwa [← Char.toNat_inj.mp hn]
  · intro hmem
    exact List.mem_flatMap.mpr ⟨c, hmem, List.mem_map.mpr ⟨c.toNat, (mem_units hc).mpr rfl, rfl⟩⟩

/-! ## Decoding what was cut off -/

/-- **A character that was cut off** is replaced, if anything of it is there at all. -/
theorem decode_of_prefix_units {c : Char} {bytes : List UInt8}
    (h : bytes <+: (units c.toNat).map Nat.toUInt8) :
    bytes = [] ∨ bytes = (units c.toNat).map Nat.toUInt8 ∨
      0x80 ≤ c.toNat ∧ decode bytes = [replacement] := by
  have hvalid : c.toNat < 0xD800 ∨ 0xDFFF < c.toNat ∧ c.toNat < 0x110000 := c.valid
  generalize c.toNat = n at hvalid h
  unfold units at h ⊢
  split at h
  · rename_i hn
    rw [if_pos hn]
    rcases List.prefix_cons_iff.mp h with rfl | ⟨t, rfl, ht⟩
    · exact Or.inl rfl
    · exact Or.inr (Or.inl (by rw [List.prefix_nil.mp ht, List.map_cons, List.map_nil]))
  rename_i hn
  rw [if_neg hn]
  split at h
  · rename_i hn'
    rw [if_pos hn']
    have hfirst : first (0xC0 + n / 64) = ([], .inside 0 0x80 0xBF (n / 64)) := by
      rw [first, if_neg (by omega), if_pos (by omega), Nat.add_sub_cancel_left]
    simp only [List.map_cons, List.map_nil, List.prefix_cons_iff, List.prefix_nil] at h ⊢
    rcases h with rfl | ⟨t, rfl, rfl | ⟨t, rfl, rfl⟩⟩
    · exact Or.inl rfl
    · refine Or.inr (Or.inr ⟨by omega, ?_⟩)
      rw [decode, decodeFrom_first hfirst (by omega)]
      rfl
    · exact Or.inr (Or.inl rfl)
  rename_i hn'
  rw [if_neg hn']
  split at h
  · rename_i hn''
    rw [if_pos hn'']
    obtain ⟨low, high, hfirst, hlow, hhigh⟩ := first_three (n := n) (by omega) (by omega) (by omega)
    simp only [List.map_cons, List.map_nil, List.prefix_cons_iff, List.prefix_nil] at h ⊢
    rcases h with rfl | ⟨t, rfl, rfl | ⟨t, rfl, rfl | ⟨t, rfl, rfl⟩⟩⟩
    · exact Or.inl rfl
    · refine Or.inr (Or.inr ⟨by omega, ?_⟩)
      rw [decode, decodeFrom_first hfirst (by omega)]
      rfl
    · refine Or.inr (Or.inr ⟨by omega, ?_⟩)
      rw [decode, decodeFrom_first hfirst (by omega), decodeFrom_inside hlow hhigh (by omega)]
      rfl
    · exact Or.inr (Or.inl rfl)
  · rename_i hn''
    rw [if_neg hn'']
    obtain ⟨low, high, hfirst, hlow, hhigh⟩ := first_four (n := n) (by omega) (by omega)
    simp only [List.map_cons, List.map_nil, List.prefix_cons_iff, List.prefix_nil] at h ⊢
    rcases h with rfl | ⟨t, rfl, rfl | ⟨t, rfl, rfl | ⟨t, rfl, rfl | ⟨t, rfl, rfl⟩⟩⟩⟩
    · exact Or.inl rfl
    · refine Or.inr (Or.inr ⟨by omega, ?_⟩)
      rw [decode, decodeFrom_first hfirst (by omega)]
      rfl
    · refine Or.inr (Or.inr ⟨by omega, ?_⟩)
      rw [decode, decodeFrom_first hfirst (by omega), decodeFrom_inside hlow hhigh (by omega)]
      rfl
    · refine Or.inr (Or.inr ⟨by omega, ?_⟩)
      rw [decode, decodeFrom_first hfirst (by omega), decodeFrom_inside hlow hhigh (by omega),
        decodeFrom_inside (by omega) (by omega) (by omega)]
      rfl
    · exact Or.inr (Or.inl rfl)

/-- **A text that was cut off**: its beginning, and a character that was cut in two,
which is one beyond ASCII, is replaced. -/
theorem decode_of_prefix {cs : List Char} {bytes : List UInt8} (h : bytes <+: encode cs) :
    ∃ before rest, cs = before ++ rest ∧ (decode bytes = before ∨
      decode bytes = before ++ [replacement] ∧ ∃ c rest', rest = c :: rest' ∧ 0x80 ≤ c.toNat) := by
  induction cs generalizing bytes with
  | nil =>
    rw [encode_nil, List.prefix_nil] at h
    exact ⟨[], [], rfl, Or.inl (by rw [h]; rfl)⟩
  | cons c cs ih =>
    rw [encode_cons] at h
    rcases List.prefix_or_prefix_of_prefix h (List.prefix_append _ _) with hshort | hlong
    · rcases decode_of_prefix_units hshort with rfl | rfl | ⟨hc, hcut⟩
      · exact ⟨[], c :: cs, rfl, Or.inl rfl⟩
      · refine ⟨[c], cs, rfl, Or.inl ?_⟩
        have hone := decodeFrom_units c []
        rwa [List.append_nil] at hone
      · exact ⟨[], c :: cs, rfl, Or.inr ⟨hcut, c, cs, rfl, hc⟩⟩
    · obtain ⟨t, rfl⟩ := hlong
      rw [List.prefix_append_right_inj] at h
      obtain ⟨before, rest, rfl, hdecode⟩ := ih h
      refine ⟨c :: before, rest, rfl, ?_⟩
      rw [decode, decodeFrom_units, ← decode]
      rcases hdecode with hdecode | ⟨hdecode, hrest⟩
      · exact Or.inl (by rw [hdecode])
      · exact Or.inr ⟨by rw [hdecode, List.cons_append], hrest⟩

end Utf8
