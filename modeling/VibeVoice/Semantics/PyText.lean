import Mathlib.Algebra.Order.Field.Rat
import Mathlib.Tactic.Common

/-!
# Text and JSON as Python has them

The values `json.loads` can return, the name `type(value).__name__` gives them,
and `str.strip` with the whitespace of `str.isspace`.

How a value is written out --- `json.dumps`, `repr`, `format` --- and how a text
is read is left to a parameter, `PythonText`: what is proved with it holds
whatever the two do.

A Python string is a sequence of code points, and a code point need not be a character:
an argument of the command line with bytes in it that are no UTF-8 has lone surrogates in
their place.  Most texts cannot be such and are given by their characters.  Where one
can, it is a list of `CodePoint`, and what does not care which it is works on both
(`Letter`).
-/

/-- A value of the `json` module.  A `float` is given by the text it is written
as. -/
inductive PyJson where
  | none : PyJson
  | bool (b : Bool) : PyJson
  | int (n : ℤ) : PyJson
  | float (text : String) : PyJson
  | str (s : String) : PyJson
  | list (items : List PyJson) : PyJson
  | dict (items : List (String × PyJson)) : PyJson

namespace PyJson

/-- `type(value).__name__` -/
def typeName : PyJson → String
  | none => "NoneType"
  | bool _ => "bool"
  | int _ => "int"
  | float _ => "float"
  | str _ => "str"
  | list _ => "list"
  | dict _ => "dict"

end PyJson

/-- What `json.loads` raises. -/
inductive LoadsError where
  /-- `JSONDecodeError`, with its text: this is no JSON. -/
  | decode (text : String) : LoadsError
  /-- An exception of another type: a `RecursionError` where arrays or objects are nested
  too deep, a `ValueError` where an integer has more digits than the interpreter converts. -/
  | other (typeName text : String) : LoadsError

/-- The parts of the standard library that turn values into text and back. -/
structure PythonText where
  /-- `json.loads` -/
  loads : String → Except LoadsError PyJson
  /-- `json.dumps` -/
  dumps : PyJson → String
  /-- `repr` of a string -/
  repr : String → String
  /-- `repr` of a float -/
  floatRepr : ℚ → String
  /-- `format(x, ".2f")` -/
  fixed2 : ℚ → String

namespace PythonText

/-- `repr` of a list of strings. -/
def reprList (py : PythonText) (items : List String) : String :=
  "[" ++ ", ".intercalate (items.map py.repr) ++ "]"

end PythonText

/-- `str.isspace` of one character. -/
def isPySpace (c : Char) : Bool :=
  let n := c.toNat
  (0x09 ≤ n && n ≤ 0x0D) || (0x1C ≤ n && n ≤ 0x20) || n == 0x85 || n == 0xA0 || n == 0x1680 ||
    (0x2000 ≤ n && n ≤ 0x200A) || n == 0x2028 || n == 0x2029 || n == 0x202F || n == 0x205F ||
    n == 0x3000

/-- The characters that `str.strip` leaves. -/
def pyStripChars (cs : List Char) : List Char :=
  ((cs.dropWhile isPySpace).reverse.dropWhile isPySpace).reverse

/-- `str.strip()` -/
def pyStrip (s : String) : String := String.ofList (pyStripChars s.toList)

/-- `s[:n]` -/
def pyPrefix (s : String) (n : ℕ) : String := String.ofList (s.toList.take n)

/-! ## Code points -/

/-- A code point of a Python string. -/
inductive CodePoint where
  | char (c : Char) : CodePoint
  /-- One of U+D800 to U+DFFF. -/
  | surrogate (n : Fin 0x800) : CodePoint
  deriving DecidableEq

/-- **What a text can be made of**: the characters, and perhaps others. -/
class Letter (α : Type) where
  ofChar : Char → α
  ofChar_inj : ∀ {c d : Char}, ofChar c = ofChar d ↔ c = d

instance : Letter Char := ⟨id, Iff.rfl⟩

instance : Letter CodePoint := ⟨.char, by simp⟩

namespace CodePoint

/-- A string of characters. -/
def points (s : String) : List CodePoint := s.toList.map .char

/-- The characters of a string. -/
def chars (s : List CodePoint) : List Char :=
  s.filterMap fun point => match point with | char c => some c | surrogate _ => none

/-- There is no lone surrogate in a string. -/
def isScalar (s : List CodePoint) : Bool :=
  s.all fun point => match point with | char _ => true | surrogate _ => false

@[simp] theorem isScalar_append (s t : List CodePoint) :
    isScalar (s ++ t) = (isScalar s && isScalar t) := List.all_append

@[simp] theorem isScalar_map_char (cs : List Char) : isScalar (cs.map char) = true := by
  simp [isScalar]

@[simp] theorem isScalar_points (s : String) : isScalar (points s) = true := isScalar_map_char _

@[simp] theorem chars_append (s t : List CodePoint) : chars (s ++ t) = chars s ++ chars t :=
  List.filterMap_append

@[simp] theorem chars_map_char (cs : List Char) : chars (cs.map char) = cs := by
  induction cs with
  | nil => rfl
  | cons c cs ih => exact congrArg (c :: ·) ih

@[simp] theorem chars_points (s : String) : chars (points s) = s.toList := chars_map_char _

/-- **A string without lone surrogates** is its characters. -/
theorem map_char_chars {s : List CodePoint} (h : isScalar s = true) : (chars s).map char = s := by
  induction s with
  | nil => rfl
  | cons point s ih =>
    rw [isScalar, List.all_cons, Bool.and_eq_true] at h
    cases point with
    | char c => exact congrArg (char c :: ·) (ih h.2)
    | surrogate n => exact absurd h.1 Bool.false_ne_true

/-- Each of its characters is in it. -/
theorem mem_chars {s : List CodePoint} {c : Char} : c ∈ chars s ↔ char c ∈ s := by
  rw [chars, List.mem_filterMap]
  constructor
  · rintro ⟨point, hpoint, hc⟩
    cases point with
    | char d => exact Option.some.inj hc ▸ hpoint
    | surrogate n => cases hc
  · exact fun h => ⟨char c, h, rfl⟩

theorem points_eq_nil {s : String} : points s = [] ↔ s = "" := by
  rw [points, List.map_eq_nil_iff, String.toList_eq_nil_iff]

end CodePoint

/-! ## Replacing characters -/

section Replace

variable {α : Type*} [DecidableEq α]

/-- `s.replace(old, new)`, of single letters. -/
def replaceChar (old new : α) (s : List α) : List α :=
  s.map fun c => if c = old then new else c

/-- A letter that is replaced is not there any more. -/
theorem notMem_replaceChar {old new : α} (hne : old ≠ new) (s : List α) :
    old ∉ replaceChar old new s := by
  intro hmem
  obtain ⟨c, -, hc⟩ := List.mem_map.mp hmem
  split at hc
  · exact hne hc.symm
  · rename_i hother
    exact hother hc

/-- What was not there before is not there, but for the new letter. -/
theorem notMem_replaceChar_of_notMem {old new c : α} (hne : c ≠ new) {s : List α}
    (h : c ∉ s) : c ∉ replaceChar old new s := by
  intro hmem
  obtain ⟨d, hd, hc⟩ := List.mem_map.mp hmem
  split at hc
  · exact hne hc.symm
  · exact h (hc ▸ hd)

/-- Nothing is replaced where nothing is to be replaced. -/
theorem replaceChar_of_notMem {old new : α} {s : List α} (h : old ∉ s) :
    replaceChar old new s = s := by
  have hid : ∀ c ∈ s, (if c = old then new else c) = id c := by
    intro c hc
    have hne : c ≠ old := fun heq => h (heq ▸ hc)
    exact if_neg hne
  rw [replaceChar, List.map_congr_left hid, List.map_id]

end Replace

/-! ## Latin-1 -/

/-- `s.encode("latin-1")`, of a text that has one. -/
def latin1Encode (s : String) : List UInt8 := s.toList.map fun c => c.toNat.toUInt8

/-- `b.decode("latin-1")` -/
def latin1Decode (bytes : List UInt8) : String :=
  String.ofList (bytes.map fun b => Char.ofNat b.toNat)

/-- A text with a Latin-1 encoding is read back. -/
theorem latin1Decode_encode {s : String} (h : ∀ c ∈ s.toList, c.toNat < 256) :
    latin1Decode (latin1Encode s) = s := by
  have hchars : (s.toList.map fun c => Char.ofNat c.toNat.toUInt8.toNat) = s.toList := by
    conv_rhs => rw [← List.map_id s.toList]
    refine List.map_congr_left fun c hc => ?_
    rw [Nat.toUInt8, UInt8.toNat_ofNat', Nat.mod_eq_of_lt (h c hc), Char.ofNat_toNat]
    rfl
  rw [latin1Decode, latin1Encode, List.map_map]
  exact (congrArg String.ofList hchars).trans String.ofList_toList
