import Mathlib.Data.Nat.Digits.Defs

/-!
# Packed records

The `struct` module, for the little-endian formats without padding: a record is a list
of fields, each of a fixed number of bytes, one after the other.

A value of a field is what the field can hold: a string of its length (`"4s"`), or a
number below `256 ^ n` (`"H"`, `"I"`).  With that in the types, packing loses nothing
and unpacking invents nothing: bytes are unpacked to some values precisely if they are
what those values are packed to (`unpack_eq_some_iff`).  So to compare every field with
a constant is to compare the bytes with a constant.
-/

namespace PyStruct

/-! ## Numbers -/

/-- The number of some bytes, the least significant first. -/
def fromLittleEndian (bytes : List UInt8) : ℕ := Nat.ofDigits 256 (bytes.map UInt8.toNat)

/-- The lowest `n` bytes of a number. -/
def toLittleEndian : ℕ → ℕ → List UInt8
  | 0, _ => []
  | n + 1, v => v.toUInt8 :: toLittleEndian n (v / 256)

theorem fromLittleEndian_cons (b : UInt8) (bytes : List UInt8) :
    fromLittleEndian (b :: bytes) = b.toNat + 256 * fromLittleEndian bytes := rfl

@[simp] theorem length_toLittleEndian (n v : ℕ) : (toLittleEndian n v).length = n := by
  induction n generalizing v with
  | zero => rfl
  | succ n ih => rw [toLittleEndian, List.length_cons, ih]

theorem fromLittleEndian_lt (bytes : List UInt8) : fromLittleEndian bytes < 256 ^ bytes.length := by
  have hdigits : ∀ d ∈ bytes.map UInt8.toNat, d < 256 := by
    intro d hd
    obtain ⟨b, -, rfl⟩ := List.mem_map.mp hd
    exact b.toNat_lt
  have hlt := Nat.ofDigits_lt_base_pow_length (by omega) hdigits
  rwa [List.length_map] at hlt

theorem fromLittleEndian_toLittleEndian {n v : ℕ} (h : v < 256 ^ n) :
    fromLittleEndian (toLittleEndian n v) = v := by
  induction n generalizing v with
  | zero => exact (Nat.lt_one_iff.mp h).symm
  | succ n ih =>
    have hrest : v / 256 < 256 ^ n := Nat.div_lt_of_lt_mul (by rwa [pow_succ, mul_comm] at h)
    have hlow : v.toUInt8.toNat = v % 256 := UInt8.toNat_ofNat'
    rw [toLittleEndian, fromLittleEndian_cons, ih hrest, hlow]
    exact Nat.mod_add_div v 256

theorem toLittleEndian_fromLittleEndian (bytes : List UInt8) :
    toLittleEndian bytes.length (fromLittleEndian bytes) = bytes := by
  induction bytes with
  | nil => rfl
  | cons b bytes ih =>
    have hb : b.toNat < 256 := b.toNat_lt
    have hlow : (b.toNat + 256 * fromLittleEndian bytes).toUInt8 = b := by
      rw [← UInt8.toNat_inj, Nat.toUInt8, UInt8.toNat_ofNat']
      omega
    have hhigh : (b.toNat + 256 * fromLittleEndian bytes) / 256 = fromLittleEndian bytes := by
      omega
    rw [List.length_cons, fromLittleEndian_cons, toLittleEndian, hlow, hhigh, ih]

/-! ## Fields -/

/-- A field: `n` bytes as they are, or as an unsigned number. -/
inductive Field where
  | bytes (n : ℕ) : Field
  | unsigned (n : ℕ) : Field

namespace Field

/-- How many bytes a field takes. -/
def size : Field → ℕ
  | bytes n => n
  | unsigned n => n

/-- What a field can hold. -/
def Value : Field → Type
  | bytes n => Vector UInt8 n
  | unsigned n => Fin (256 ^ n)

/-- The bytes of a value. -/
def pack : (f : Field) → f.Value → List UInt8
  | bytes _, v => Vector.toList v
  | unsigned n, v => toLittleEndian n (Fin.val v)

/-- The value of some bytes. -/
def unpack : (f : Field) → (raw : List UInt8) → raw.length = f.size → f.Value
  | bytes _, raw, h => (⟨raw.toArray, h⟩ : Vector UInt8 _)
  | unsigned n, raw, h =>
    (⟨fromLittleEndian raw, (show raw.length = n from h) ▸ fromLittleEndian_lt raw⟩ : Fin _)

@[simp] theorem length_pack (f : Field) (v : f.Value) : (f.pack v).length = f.size := by
  cases f with
  | bytes n => exact Vector.length_toList
  | unsigned n => exact length_toLittleEndian n _

@[simp] theorem pack_unpack (f : Field) (raw : List UInt8) (h : raw.length = f.size) :
    f.pack (f.unpack raw h) = raw := by
  cases f with
  | bytes n => rfl
  | unsigned n =>
    obtain rfl : raw.length = n := h
    exact toLittleEndian_fromLittleEndian raw

@[simp] theorem unpack_pack (f : Field) (v : f.Value) (h : (f.pack v).length = f.size) :
    f.unpack (f.pack v) h = v := by
  cases f with
  | bytes n => exact Vector.toList_inj.mp rfl
  | unsigned n => exact Fin.ext (fromLittleEndian_toLittleEndian v.isLt)

end Field

/-! ## Records -/

/-- A format. -/
abbrev Format := List Field

/-- The values of the fields of a format. -/
def Values : Format → Type
  | [] => Unit
  | f :: fmt => f.Value × Values fmt

/-- `struct.calcsize` -/
def calcsize (fmt : Format) : ℕ := (fmt.map Field.size).sum

/-- `struct.pack` -/
def pack : (fmt : Format) → Values fmt → List UInt8
  | [], _ => []
  | f :: fmt, (v, vs) => f.pack v ++ pack fmt vs

/-- `struct.unpack`, or `none` where it raises `struct.error`. -/
def unpack : (fmt : Format) → List UInt8 → Option (Values fmt)
  | [], raw => if raw = [] then some () else none
  | f :: fmt, raw =>
    if h : (raw.take f.size).length = f.size then
      (unpack fmt (raw.drop f.size)).map fun vs => (f.unpack (raw.take f.size) h, vs)
    else none

theorem length_pack (fmt : Format) (vs : Values fmt) : (pack fmt vs).length = calcsize fmt := by
  induction fmt with
  | nil => rfl
  | cons f fmt ih =>
    obtain ⟨v, vs⟩ := vs
    rw [pack, List.length_append, f.length_pack, ih]
    rfl

theorem unpack_pack (fmt : Format) (vs : Values fmt) : unpack fmt (pack fmt vs) = some vs := by
  induction fmt with
  | nil => rfl
  | cons f fmt ih =>
    obtain ⟨v, vs⟩ := vs
    have htake : (f.pack v ++ pack fmt vs).take f.size = f.pack v :=
      List.take_left' (f.length_pack v)
    have hdrop : (f.pack v ++ pack fmt vs).drop f.size = pack fmt vs :=
      List.drop_left' (f.length_pack v)
    simp only [unpack, pack, htake, hdrop, ih, f.length_pack, f.unpack_pack, dite_true]
    rfl

/-- **Unpacking is the inverse of packing.** -/
theorem unpack_eq_some_iff {fmt : Format} {raw : List UInt8} {vs : Values fmt} :
    unpack fmt raw = some vs ↔ raw = pack fmt vs := by
  refine ⟨fun h => ?_, fun h => h ▸ unpack_pack fmt vs⟩
  induction fmt generalizing raw with
  | nil =>
    unfold unpack at h
    split at h
    · assumption
    · exact absurd h (by simp)
  | cons f fmt ih =>
    unfold unpack at h
    split at h
    · obtain ⟨ws, hws, rfl⟩ := Option.map_eq_some_iff.mp h
      rw [pack, Field.pack_unpack, ← ih hws, List.take_append_drop]
    · exact absurd h (by simp)

/-- What is not unpacked has the wrong length. -/
theorem exists_unpack {fmt : Format} {raw : List UInt8} (h : raw.length = calcsize fmt) :
    ∃ vs, unpack fmt raw = some vs := by
  induction fmt generalizing raw with
  | nil => exact ⟨(), if_pos (List.length_eq_zero_iff.mp h)⟩
  | cons f fmt ih =>
    have hsize : raw.length = f.size + calcsize fmt := h
    have htake : (raw.take f.size).length = f.size := by
      rw [List.length_take]
      omega
    have hdrop : (raw.drop f.size).length = calcsize fmt := by
      rw [List.length_drop]
      omega
    obtain ⟨vs, hvs⟩ := ih hdrop
    exact ⟨(f.unpack (raw.take f.size) htake, vs), by rw [unpack, dif_pos htake, hvs]; rfl⟩

end PyStruct
