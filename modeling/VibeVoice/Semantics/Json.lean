import Mathlib.Data.List.TakeWhile
import VibeVoice.Semantics.PyText

/-!
# JSON texts

Which texts are JSON, and what value each of them is a text of.

`Text v t` says that `t`, without whitespace around it, is a text of `v`, and
`Document v t` allows whitespace around it.  The grammar is that of RFC 8259 with
the three literals `NaN`, `Infinity` and `-Infinity` of the `json` module.  It is
given by derivations and not by a reader: whoever says that a reader accepts the
JSON texts says that what it accepts has one.

## Lists of parts

A list and an object are given by the list of their parts, each with the
whitespace around it, and the text is what the parts make, joined by commas.  So
a derivation of a list has a derivation for *each* part, as a function of the
part, and an induction on derivations has one hypothesis for all of them.

## Strings

The body of a string stands for a list of code points.  One of them can be half
of a surrogate pair when it was written as `\uXXXX`; `decode` joins the halves.
A half without the other, which a `str` can hold and a `String` cannot, is read
as U+FFFD.
-/

namespace Json

/-! ## Whitespace -/

/-- Whitespace between tokens. -/
def isWs (c : Char) : Bool := c == ' ' || c == '\t' || c == '\n' || c == '\r'

/-- A text of whitespace. -/
def Blank (w : List Char) : Prop := ∀ c ∈ w, isWs c = true

theorem blank_nil : Blank [] := fun _ h => absurd h List.not_mem_nil

/-- What is whitespace between tokens is whitespace to `str.isspace`. -/
theorem isPySpace_of_isWs {c : Char} (h : isWs c = true) : isPySpace c = true := by
  simp only [isWs, Bool.or_eq_true, beq_iff_eq] at h
  rcases h with ((rfl | rfl) | rfl) | rfl <;> rfl

/-! ## Strings -/

/-- A character that stands for itself in a string. -/
def isPlain (c : Char) : Bool := decide (0x20 ≤ c.toNat) && c != '"' && c != '\\'

/-- The code point a backslash and one character stand for. -/
def shortEscape (c : Char) : Option ℕ :=
  [('"', 0x22), ('\\', 0x5C), ('/', 0x2F), ('b', 0x08), ('f', 0x0C), ('n', 0x0A), ('r', 0x0D),
    ('t', 0x09)].lookup c

/-- The value of a hexadecimal digit. -/
def hexDigit (c : Char) : Option ℕ :=
  if 0x30 ≤ c.toNat ∧ c.toNat ≤ 0x39 then some (c.toNat - 0x30)
  else if 0x41 ≤ c.toNat ∧ c.toNat ≤ 0x46 then some (c.toNat - 0x41 + 10)
  else if 0x61 ≤ c.toNat ∧ c.toNat ≤ 0x66 then some (c.toNat - 0x61 + 10)
  else none

/-- The value of four hexadecimal digits. -/
def hexQuad (a b c d : Char) : Option ℕ :=
  (hexDigit a).bind fun x => (hexDigit b).bind fun y => (hexDigit c).bind fun z =>
    (hexDigit d).map fun w => ((x * 16 + y) * 16 + z) * 16 + w

/-- The body of a string, and the code points it stands for. -/
inductive Body : List ℕ → List Char → Prop where
  | nil : Body [] []
  | plain {units : List ℕ} {body : List Char} (c : Char) (hc : isPlain c = true)
      (h : Body units body) : Body (c.toNat :: units) (c :: body)
  | short {units : List ℕ} {body : List Char} (c : Char) (u : ℕ) (hc : shortEscape c = some u)
      (h : Body units body) : Body (u :: units) ('\\' :: c :: body)
  | unicode {units : List ℕ} {body : List Char} (a b c d : Char) (u : ℕ)
      (hu : hexQuad a b c d = some u) (h : Body units body) :
      Body (u :: units) ('\\' :: 'u' :: a :: b :: c :: d :: body)

/-- The character of a code point; U+FFFD for half of a surrogate pair. -/
def scalar (u : ℕ) : Char := if u.isValidChar then Char.ofNat u else Char.ofNat 0xFFFD

/-- The characters of a list of code points, surrogate pairs joined. -/
def decodeChars : List ℕ → List Char
  | [] => []
  | [u] => [scalar u]
  | high :: low :: units =>
    if (0xD800 ≤ high ∧ high ≤ 0xDBFF) ∧ 0xDC00 ≤ low ∧ low ≤ 0xDFFF then
      scalar (0x10000 + (high - 0xD800) * 0x400 + (low - 0xDC00)) :: decodeChars units
    else scalar high :: decodeChars (low :: units)

/-- The `str` of a list of code points. -/
def decode (units : List ℕ) : String := String.ofList (decodeChars units)

/-- A character is the one of its code point. -/
@[simp] theorem scalar_toNat (c : Char) : scalar c.toNat = c := by
  have hvalid : c.toNat.isValidChar := c.valid
  rw [scalar, if_pos hvalid, Char.ofNat_toNat]

/-- Code points of characters are not joined. -/
theorem decodeChars_map_toNat (cs : List Char) : decodeChars (cs.map Char.toNat) = cs := by
  induction cs with
  | nil => rfl
  | cons c cs ih =>
    cases cs with
    | nil => simp [decodeChars]
    | cons d ds =>
      have hc : ¬ (0xD800 ≤ c.toNat ∧ c.toNat ≤ 0xDBFF) := by
        have hvalid : c.toNat < 0xD800 ∨ 0xDFFF < c.toNat ∧ c.toNat < 0x110000 := c.valid
        omega
      rw [List.map_cons] at ih
      rw [List.map_cons, List.map_cons, decodeChars, if_neg fun h => hc h.1, scalar_toNat, ih]

theorem decode_map_toNat (s : String) : decode (s.toList.map Char.toNat) = s := by
  rw [decode, decodeChars_map_toNat, String.ofList_toList]

/-- Without a backslash a body stands for its own characters. -/
theorem Body.eq_map_toNat {units : List ℕ} {body : List Char} (h : Body units body)
    (hbody : '\\' ∉ body) : units = body.map Char.toNat := by
  induction h with
  | nil => rfl
  | plain c hc h ih =>
    rw [List.map_cons, ih fun hmem => hbody (List.mem_cons_of_mem _ hmem)]
  | short | unicode => exact absurd List.mem_cons_self hbody

/-! ## Numbers -/

/-- Where in a number the reading of it is. -/
inductive NumberState where
  | start | minus | zero | int | point | frac | e | sign | exp
  deriving DecidableEq, Repr

/-- A decimal digit. -/
def isDigit (c : Char) : Bool := decide (0x30 ≤ c.toNat) && decide (c.toNat ≤ 0x39)

/-- One more character of a number: `-?(0|[1-9][0-9]*)(\.[0-9]+)?([eE][-+]?[0-9]+)?`. -/
def NumberState.next : NumberState → Char → Option NumberState
  | start, c =>
    if c = '-' then some minus else if c = '0' then some zero
    else if isDigit c then some int else none
  | minus, c => if c = '0' then some zero else if isDigit c then some int else none
  | zero, c => if c = '.' then some point else if c = 'e' ∨ c = 'E' then some e else none
  | int, c =>
    if isDigit c then some int else if c = '.' then some point
    else if c = 'e' ∨ c = 'E' then some e else none
  | point, c => if isDigit c then some frac else none
  | frac, c =>
    if isDigit c then some frac else if c = 'e' ∨ c = 'E' then some e else none
  | e, c =>
    if c = '+' ∨ c = '-' then some sign else if isDigit c then some exp else none
  | sign, c => if isDigit c then some exp else none
  | exp, c => if isDigit c then some exp else none

/-- The value of a run of digits. -/
def natValue (ds : List Char) : ℕ := ds.foldl (fun n d => 10 * n + (d.toNat - 0x30)) 0

/-- The value of an integer. -/
def intValue : List Char → ℤ
  | [] => 0
  | c :: cs => if c = '-' then -(natValue cs : ℤ) else natValue (c :: cs)

/-- The value of a number, of a text that is one: an `int`, or a `float` when it
has a fraction or an exponent. -/
def numberValue (t : List Char) : Option PyJson :=
  (t.foldlM NumberState.next .start).bind fun state =>
    match state with
    | .zero | .int => some (.int (intValue t))
    | .frac | .exp => some (.float (String.ofList t))
    | .start | .minus | .point | .e | .sign => none

/-- A character that can be in a number. -/
def isNumberChar (c : Char) : Bool :=
  isDigit c || c == '-' || c == '+' || c == '.' || c == 'e' || c == 'E'

theorem NumberState.isNumberChar_of_next {s s' : NumberState} {c : Char}
    (h : s.next c = some s') : isNumberChar c = true := by
  have key : isDigit c = true ∨ c = '-' ∨ c = '+' ∨ c = '.' ∨ c = 'e' ∨ c = 'E' := by
    by_contra hnot
    simp only [not_or, Bool.not_eq_true] at hnot
    obtain ⟨hdigit, hminus, hplus, hpoint, he, hE⟩ := hnot
    have hzero : c ≠ '0' := fun hc => absurd hdigit (by rw [hc]; decide)
    cases s <;> simp [NumberState.next, hdigit, hminus, hplus, hpoint, he, hE, hzero] at h
  rcases key with hdigit | rfl | rfl | rfl | rfl | rfl
  · rw [isNumberChar, hdigit]
    rfl
  all_goals rfl

theorem isNumberChar_of_foldlM {t : List Char} {s s' : NumberState}
    (h : t.foldlM NumberState.next s = some s') : ∀ c ∈ t, isNumberChar c = true := by
  induction t generalizing s with
  | nil => exact fun c hc => absurd hc List.not_mem_nil
  | cons d t ih =>
    rw [List.foldlM_cons] at h
    obtain ⟨s₁, hd, ht⟩ := Option.bind_eq_some_iff.mp h
    intro c hc
    rcases List.mem_cons.mp hc with rfl | hc
    · exact NumberState.isNumberChar_of_next hd
    · exact ih ht c hc

/-- A number has number characters only. -/
theorem isNumberChar_of_numberValue {t : List Char} {v : PyJson} (h : numberValue t = some v) :
    ∀ c ∈ t, isNumberChar c = true := by
  obtain ⟨s, hs, -⟩ := Option.bind_eq_some_iff.mp h
  exact isNumberChar_of_foldlM hs

theorem numberValue_ne_nil {t : List Char} {v : PyJson} (h : numberValue t = some v) : t ≠ [] := by
  rintro rfl
  cases h

/-! ## Literals -/

/-- The literals, and their values. -/
def literals : List (List Char × PyJson) :=
  [(['n', 'u', 'l', 'l'], .none), (['t', 'r', 'u', 'e'], .bool true),
    (['f', 'a', 'l', 's', 'e'], .bool false), (['N', 'a', 'N'], .float "NaN"),
    (['I', 'n', 'f', 'i', 'n', 'i', 't', 'y'], .float "Infinity"),
    (['-', 'I', 'n', 'f', 'i', 'n', 'i', 't', 'y'], .float "-Infinity")]

/-! ## Objects -/

/-- `d[key] = value` -/
def setKey (d : List (String × PyJson)) (field : String × PyJson) : List (String × PyJson) :=
  if d.any (fun f => f.1 = field.1) then d.map fun f => if f.1 = field.1 then field else f
  else d ++ [field]

/-- `dict(pairs)`: the last value of a key counts, and its first place. -/
def pyDict (fields : List (String × PyJson)) : List (String × PyJson) := fields.foldl setKey []

theorem keys_setKey (d : List (String × PyJson)) (field : String × PyJson) (key : String) :
    key ∈ (setKey d field).map Prod.fst ↔ key ∈ d.map Prod.fst ∨ key = field.1 := by
  rw [setKey]
  split
  · rename_i hany
    obtain ⟨f, hf, hkey⟩ := List.any_eq_true.mp hany
    have hsame : (d.map fun f => if f.1 = field.1 then field else f).map Prod.fst =
        d.map Prod.fst := by
      rw [List.map_map]
      refine List.map_congr_left fun g _ => ?_
      by_cases hg : g.1 = field.1 <;> simp [hg]
    rw [hsame]
    refine ⟨Or.inl, fun h => h.elim (fun h => h) fun h => ?_⟩
    rw [h, ← of_decide_eq_true hkey]
    exact List.mem_map_of_mem hf
  · simp [eq_comm]

/-- An object has the keys that were written. -/
theorem keys_pyDict (fields : List (String × PyJson)) (key : String) :
    key ∈ (pyDict fields).map Prod.fst ↔ key ∈ fields.map Prod.fst := by
  have h (d : List (String × PyJson)) : key ∈ (fields.foldl setKey d).map Prod.fst ↔
      key ∈ d.map Prod.fst ∨ key ∈ fields.map Prod.fst := by
    induction fields generalizing d with
    | nil => simp
    | cons field fields ih =>
      rw [List.foldl_cons, ih, keys_setKey, List.map_cons, List.mem_cons, or_assoc]
  rw [pyDict, h]
  simp

/-- Distinct keys: what was written is what is read. -/
theorem pyDict_of_nodup {fields : List (String × PyJson)} (h : (fields.map Prod.fst).Nodup) :
    pyDict fields = fields := by
  have key (d : List (String × PyJson)) (hd : ((d ++ fields).map Prod.fst).Nodup) :
      fields.foldl setKey d = d ++ fields := by
    induction fields generalizing d with
    | nil => simp
    | cons field fields ih =>
      have hfresh : d.any (fun f => f.1 = field.1) = false := by
        refine Bool.eq_false_iff.mpr fun hany => ?_
        obtain ⟨f, hf, hkey⟩ := List.any_eq_true.mp hany
        rw [List.map_append, List.nodup_append] at hd
        exact hd.2.2 _ (List.mem_map_of_mem hf) _ (by simp) (of_decide_eq_true hkey)
      have hset : setKey d field = d ++ [field] := by simp [setKey, hfresh]
      rw [List.foldl_cons, hset, ih (List.nodup_cons.mp h).2 _ (by simpa using hd)]
      simp
  exact key [] (by simpa using h)

/-! ## The grammar -/

/-- A part of a list: a value and its text, with the whitespace around it. -/
structure Item where
  before : List Char
  value : PyJson
  text : List Char
  after : List Char

/-- The text of a part, with its whitespace. -/
def Item.full (i : Item) : List Char := i.before ++ (i.text ++ i.after)

/-- There is only whitespace around the part. -/
def Item.Spaced (i : Item) : Prop := Blank i.before ∧ Blank i.after

/-- A part of an object: a key and a value, with the whitespace around them. -/
structure Member where
  before : List Char
  units : List ℕ
  body : List Char
  after : List Char
  item : Item

/-- The text of a part of an object, with its whitespace. -/
def Member.full (m : Member) : List Char :=
  m.before ++ '"' :: (m.body ++ '"' :: (m.after ++ ':' :: m.item.full))

/-- The key and the value. -/
def Member.field (m : Member) : String × PyJson := (decode m.units, m.item.value)

/-- There is only whitespace around the key and the value, and the key is a string. -/
def Member.Spaced (m : Member) : Prop :=
  Blank m.before ∧ Body m.units m.body ∧ Blank m.after ∧ m.item.Spaced

/-- Parts joined by commas. -/
def commas : List (List Char) → List Char
  | [] => []
  | [t] => t
  | t :: t' :: ts => t ++ ',' :: commas (t' :: ts)

/-- **The texts of a value**, without whitespace around them. -/
inductive Text : PyJson → List Char → Prop where
  | literal {t : List Char} {v : PyJson} (h : (t, v) ∈ literals) : Text v t
  | number {t : List Char} {v : PyJson} (h : numberValue t = some v) : Text v t
  | string {units : List ℕ} {body : List Char} (h : Body units body) :
      Text (.str (decode units)) ('"' :: (body ++ ['"']))
  | emptyList {w : List Char} (hw : Blank w) : Text (.list []) ('[' :: (w ++ [']']))
  | list (items : List Item) (hne : items ≠ []) (hspaced : ∀ i ∈ items, i.Spaced)
      (htext : ∀ i ∈ items, Text i.value i.text) :
      Text (.list (items.map Item.value)) ('[' :: (commas (items.map Item.full) ++ [']']))
  | emptyDict {w : List Char} (hw : Blank w) : Text (.dict []) ('{' :: (w ++ ['}']))
  | dict (members : List Member) (hne : members ≠ []) (hspaced : ∀ m ∈ members, m.Spaced)
      (htext : ∀ m ∈ members, Text m.item.value m.item.text) :
      Text (.dict (pyDict (members.map Member.field)))
        ('{' :: (commas (members.map Member.full) ++ ['}']))

/-- **The JSON texts of a value.** -/
def Document (v : PyJson) (t : List Char) : Prop :=
  ∃ w core w' : List Char, Blank w ∧ Blank w' ∧ t = w ++ (core ++ w') ∧ Text v core

theorem Text.document {v : PyJson} {t : List Char} (h : Text v t) : Document v t :=
  ⟨[], t, [], blank_nil, blank_nil, by simp, h⟩

/-- A text starts with a character that is neither whitespace nor closes a list. -/
theorem Text.head {v : PyJson} {t : List Char} (h : Text v t) :
    ∃ c cs, t = c :: cs ∧ isWs c = false ∧ c ≠ ']' := by
  cases h with
  | literal h =>
    simp only [literals, List.mem_cons, Prod.mk.injEq, List.not_mem_nil, or_false] at h
    rcases h with ⟨rfl, -⟩ | ⟨rfl, -⟩ | ⟨rfl, -⟩ | ⟨rfl, -⟩ | ⟨rfl, -⟩ | ⟨rfl, -⟩ <;>
      exact ⟨_, _, rfl, rfl, by decide⟩
  | number h =>
    obtain ⟨c, cs, rfl⟩ := List.exists_cons_of_ne_nil (numberValue_ne_nil h)
    have hc := isNumberChar_of_numberValue h c List.mem_cons_self
    refine ⟨c, cs, rfl, Bool.eq_false_iff.mpr fun hws => ?_, fun hclose => ?_⟩
    · simp only [isWs, Bool.or_eq_true, beq_iff_eq] at hws
      rcases hws with ((rfl | rfl) | rfl) | rfl <;> exact absurd hc (by decide)
    · rw [hclose] at hc
      exact absurd hc (by decide)
  | string | emptyList | list | emptyDict | dict => exact ⟨_, _, rfl, rfl, by decide⟩

theorem Text.ne_nil {v : PyJson} {t : List Char} (h : Text v t) : t ≠ [] := by
  obtain ⟨c, cs, rfl, -⟩ := h.head
  exact List.cons_ne_nil c cs

/-- A text of a list is in brackets. -/
theorem Text.list_brackets {vs : List PyJson} {t : List Char} (h : Text (.list vs) t) :
    ∃ cs, t = '[' :: (cs ++ [']']) := by
  generalize hv : PyJson.list vs = v at h
  cases h with
  | literal h =>
    simp only [literals, List.mem_cons, Prod.mk.injEq, List.not_mem_nil, or_false] at h
    rcases h with ⟨-, rfl⟩ | ⟨-, rfl⟩ | ⟨-, rfl⟩ | ⟨-, rfl⟩ | ⟨-, rfl⟩ | ⟨-, rfl⟩ <;> cases hv
  | number h =>
    obtain ⟨s, -, hs⟩ := Option.bind_eq_some_iff.mp h
    cases s <;> cases hs <;> cases hv
  | string | emptyDict | dict => cases hv
  | emptyList | list => exact ⟨_, rfl⟩

/-- A text of an object starts with a brace. -/
theorem Text.dict_brace {fields : List (String × PyJson)} {t : List Char}
    (h : Text (.dict fields) t) : ∃ cs, t = '{' :: cs := by
  generalize hv : PyJson.dict fields = v at h
  cases h with
  | literal h =>
    simp only [literals, List.mem_cons, Prod.mk.injEq, List.not_mem_nil, or_false] at h
    rcases h with ⟨-, rfl⟩ | ⟨-, rfl⟩ | ⟨-, rfl⟩ | ⟨-, rfl⟩ | ⟨-, rfl⟩ | ⟨-, rfl⟩ <;> cases hv
  | number h =>
    obtain ⟨s, -, hs⟩ := Option.bind_eq_some_iff.mp h
    cases s <;> cases hs <;> cases hv
  | string | emptyList | list => cases hv
  | emptyDict | dict => exact ⟨_, rfl⟩

/-! ## Stripping a document -/

/-- What `strip` takes away on either side is known by what it stops at. -/
theorem pyStripChars_append {w core w' : List Char} (hw : ∀ c ∈ w, isPySpace c = true)
    (hw' : ∀ c ∈ w', isPySpace c = true) {o c : Char} (ho : isPySpace o = false)
    (hc : isPySpace c = false) {cs : List Char} (hcore : core = o :: (cs ++ [c])) :
    pyStripChars (w ++ (core ++ w')) = core := by
  have hstart : (w ++ (core ++ w')).dropWhile isPySpace = core ++ w' := by
    rw [List.dropWhile_append_of_pos hw, hcore, List.cons_append,
      List.dropWhile_cons_of_neg (by simp [ho])]
  have hend : (core ++ w').reverse.dropWhile isPySpace = core.reverse := by
    rw [List.reverse_append,
      List.dropWhile_append_of_pos fun c hc => hw' c (List.mem_reverse.mp hc), hcore,
      List.reverse_cons, List.reverse_append]
    exact List.dropWhile_cons_of_neg (by simp [hc])
  rw [pyStripChars, hstart, hend, List.reverse_reverse]

/-- What `strip` takes away, and what it leaves. -/
theorem exists_pyStripChars (t : List Char) : ∃ a b : List Char, t = a ++ (pyStripChars t ++ b) ∧
    (∀ c ∈ a, isPySpace c = true) ∧ ∀ c ∈ b, isPySpace c = true := by
  have hstart := List.takeWhile_append_dropWhile (p := isPySpace) (l := t)
  have hend := List.takeWhile_append_dropWhile (p := isPySpace)
    (l := (t.dropWhile isPySpace).reverse)
  refine ⟨t.takeWhile isPySpace, ((t.dropWhile isPySpace).reverse.takeWhile isPySpace).reverse,
    ?_, fun c hc => List.mem_takeWhile_imp hc,
    fun c hc => List.mem_takeWhile_imp (List.mem_reverse.mp hc)⟩
  rw [pyStripChars, ← List.reverse_append, hend, List.reverse_reverse, hstart]

/-- Where the text of a list is, in what is stripped. -/
theorem Document.list_core {vs : List PyJson} {t : List Char}
    (h : Document (.list vs) (pyStripChars t)) : ∃ a core b : List Char, t = a ++ (core ++ b) ∧
      (∀ c ∈ a, isPySpace c = true) ∧ (∀ c ∈ b, isPySpace c = true) ∧
      Text (.list vs) core := by
  obtain ⟨a, b, ht, ha, hb⟩ := exists_pyStripChars t
  obtain ⟨w, core, w', hw, hw', hstrip, htext⟩ := h
  refine ⟨a ++ w, core, w' ++ b, ?_, fun c hc => ?_, fun c hc => ?_, htext⟩
  · rw [ht, hstrip]
    simp
  · exact (List.mem_append.mp hc).elim (ha c) fun hc => isPySpace_of_isWs (hw c hc)
  · exact (List.mem_append.mp hc).elim (fun hc => isPySpace_of_isWs (hw' c hc)) (hb c)

/-- A document of a list, stripped, is its text. -/
theorem Document.strip_list {vs : List PyJson} {t : List Char} (h : Document (.list vs) t) :
    Text (.list vs) (pyStripChars t) := by
  obtain ⟨w, core, w', hw, hw', rfl, htext⟩ := h
  obtain ⟨cs, hcs⟩ := htext.list_brackets
  rwa [pyStripChars_append (fun c hc => isPySpace_of_isWs (hw c hc))
    (fun c hc => isPySpace_of_isWs (hw' c hc)) (by decide) (by decide) hcs]

end Json
