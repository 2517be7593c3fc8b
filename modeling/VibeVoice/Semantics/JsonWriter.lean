import Mathlib.Tactic.IntervalCases
import VibeVoice.Semantics.JsonReader

/-!
# A writer of JSON texts

`write` is `json.dumps` with the two separators for parameters, except that it
leaves a character beyond ASCII as it is.  Control characters are written with a
backslash, so nothing below U+0020 is in what it writes.

What is written is a text of what was written, for the values a `dict` can be made of:
distinct keys, and floats that `repr` wrote (`Printable.text`).
-/

namespace Json

/-! ## Strings -/

/-- Four hexadecimal digits. -/
def hexDigits (u : ℕ) : List Char :=
  [Nat.digitChar (u / 4096 % 16), Nat.digitChar (u / 256 % 16), Nat.digitChar (u / 16 % 16),
    Nat.digitChar (u % 16)]

/-- A character of a string. -/
def writeChar (c : Char) : List Char :=
  if c = '"' then ['\\', '"']
  else if c = '\\' then ['\\', '\\']
  else if c = '\n' then ['\\', 'n']
  else if c = '\r' then ['\\', 'r']
  else if c = '\t' then ['\\', 't']
  else if c.toNat = 0x08 then ['\\', 'b']
  else if c.toNat = 0x0C then ['\\', 'f']
  else if c.toNat < 0x20 then '\\' :: 'u' :: hexDigits c.toNat
  else [c]

/-- A string. -/
def writeString (s : String) : List Char := '"' :: (s.toList.flatMap writeChar ++ ['"'])

theorem Body.append {us us' : List ℕ} {b b' : List Char} (h : Body us b) (h' : Body us' b') :
    Body (us ++ us') (b ++ b') := by
  induction h with
  | nil => exact h'
  | plain c hc h ih => exact .plain c hc ih
  | short c u hc h ih => exact .short c u hc ih
  | unicode a b c d u hu h ih => exact .unicode a b c d u hu ih

theorem hexDigit_digitChar {d : ℕ} (hd : d < 16) : hexDigit (Nat.digitChar d) = some d := by
  interval_cases d <;> rfl

/-- The digits of a code point are read back. -/
theorem hexQuad_hexDigits {u : ℕ} (hu : u < 0x10000) :
    hexQuad (Nat.digitChar (u / 4096 % 16)) (Nat.digitChar (u / 256 % 16))
      (Nat.digitChar (u / 16 % 16)) (Nat.digitChar (u % 16)) = some u := by
  simp only [hexQuad, hexDigit_digitChar (Nat.mod_lt _ (by decide : 0 < 16)), Option.bind_some,
    Option.map_some, Option.some.injEq]
  omega

theorem body_writeChar (c : Char) : Body [c.toNat] (writeChar c) := by
  unfold writeChar
  split
  · rename_i hc
    rw [hc]
    exact .short '"' 0x22 rfl .nil
  split
  · rename_i hc
    rw [hc]
    exact .short '\\' 0x5C rfl .nil
  split
  · rename_i hc
    exact hc ▸ .short 'n' 0x0A rfl .nil
  split
  · rename_i hc
    exact hc ▸ .short 'r' 0x0D rfl .nil
  split
  · rename_i hc
    exact hc ▸ .short 't' 0x09 rfl .nil
  split
  · rename_i hc
    exact hc ▸ .short 'b' 0x08 rfl .nil
  split
  · rename_i hc
    exact hc ▸ .short 'f' 0x0C rfl .nil
  split
  · rename_i hc
    exact .unicode _ _ _ _ _ (hexQuad_hexDigits (by omega)) .nil
  · rename_i hquote hslash _ _ _ _ _ hc
    exact .plain c (by simp [isPlain, hquote, hslash]; omega) .nil

/-- What is written of a string stands for its characters. -/
theorem body_writeString (cs : List Char) : Body (cs.map Char.toNat) (cs.flatMap writeChar) := by
  induction cs with
  | nil => exact .nil
  | cons c cs ih =>
    rw [List.flatMap_cons]
    exact (body_writeChar c).append ih

theorem text_writeString (s : String) : Text (.str s) (writeString s) := by
  have h := Text.string (body_writeString s.toList)
  rwa [decode_map_toNat] at h

/-! ## Numbers -/

/-- An integer. -/
def writeInt (n : ℤ) : List Char :=
  if n < 0 then '-' :: Nat.toDigits 10 n.natAbs else Nat.toDigits 10 n.natAbs

theorem isDigit_digitChar {d : ℕ} (hd : d < 10) : isDigit (Nat.digitChar d) = true := by
  interval_cases d <;> rfl

theorem natValue_toDigits (n : ℕ) : natValue (Nat.toDigits 10 n) = n := by
  induction n using Nat.strong_induction_on with
  | _ n ih =>
    have hdigit (d : ℕ) (hd : d < 10) : (Nat.digitChar d).toNat - 0x30 = d := by
      interval_cases d <;> rfl
    by_cases hn : n < 10
    · rw [Nat.toDigits_of_lt_base hn, natValue, List.foldl_cons, List.foldl_nil, hdigit n hn,
        Nat.mul_zero, Nat.zero_add]
    · rw [Nat.toDigits_of_base_le (by decide) (by omega), natValue, List.foldl_append]
      rw [show (Nat.toDigits 10 (n / 10)).foldl (fun n d => 10 * n + (d.toNat - 0x30)) 0 = n / 10
        from ih (n / 10) (by omega), List.foldl_cons, List.foldl_nil,
        hdigit _ (Nat.mod_lt _ (by decide))]
      omega

/-- Digits are a number, without a sign before them or with one. -/
theorem foldlM_toDigits {s : NumberState} (hs : s = .start ∨ s = .minus) (n : ℕ) :
    (Nat.toDigits 10 n).foldlM NumberState.next s =
      some (if n = 0 then .zero else .int) := by
  induction n using Nat.strong_induction_on with
  | _ n ih =>
    by_cases hn : n < 10
    · rw [Nat.toDigits_of_lt_base hn]
      interval_cases n <;> rcases hs with rfl | rfl <;> rfl
    · have hdigit := isDigit_digitChar (Nat.mod_lt n (by decide : 0 < 10))
      rw [Nat.toDigits_of_base_le (by decide) (by omega), List.foldlM_append,
        ih (n / 10) (by omega), if_neg (by omega), if_neg (by omega)]
      simp [NumberState.next, hdigit]

theorem toDigits_head (n : ℕ) : ∃ c cs, Nat.toDigits 10 n = c :: cs ∧ c ≠ '-' := by
  obtain ⟨c, cs, hc⟩ := List.exists_cons_of_ne_nil (Nat.toDigits_ne_nil (b := 10) (n := n))
  refine ⟨c, cs, hc, ?_⟩
  rintro rfl
  have hfold := foldlM_toDigits (Or.inr rfl) n
  rw [hc] at hfold
  exact absurd hfold (by rw [List.foldlM_cons]; simp [NumberState.next, isDigit])

/-- An integer has been read as one when it ends. -/
theorem foldlM_writeInt (n : ℤ) :
    (writeInt n).foldlM NumberState.next .start = some .zero ∨
      (writeInt n).foldlM NumberState.next .start = some .int := by
  have hstate {s : NumberState} (hs : s = .start ∨ s = .minus) :
      (Nat.toDigits 10 n.natAbs).foldlM NumberState.next s = some .zero ∨
        (Nat.toDigits 10 n.natAbs).foldlM NumberState.next s = some .int := by
    rw [foldlM_toDigits hs]
    split
    · exact Or.inl rfl
    · exact Or.inr rfl
  unfold writeInt
  split
  · rw [List.foldlM_cons, show NumberState.start.next '-' = some .minus from rfl]
    exact hstate (Or.inr rfl)
  · exact hstate (Or.inl rfl)

theorem numberValue_writeInt (n : ℤ) : numberValue (writeInt n) = some (.int n) := by
  unfold writeInt
  split
  · rename_i hn
    have hint : intValue ('-' :: Nat.toDigits 10 n.natAbs) = n := by
      rw [intValue, if_pos rfl, natValue_toDigits]
      omega
    rw [numberValue, List.foldlM_cons,
      show NumberState.start.next '-' = some .minus from rfl, hint]
    simp only [Option.bind_eq_bind, Option.bind_some, foldlM_toDigits (Or.inr rfl)]
    rw [if_neg (by omega)]
  · rename_i hn
    obtain ⟨c, cs, hc, hne⟩ := toDigits_head n.natAbs
    have hint : intValue (Nat.toDigits 10 n.natAbs) = n := by
      rw [hc, intValue, if_neg hne, ← hc, natValue_toDigits]
      omega
    rw [numberValue, foldlM_toDigits (Or.inl rfl), hint]
    by_cases h0 : n.natAbs = 0
    · rw [if_pos h0]
      rfl
    · rw [if_neg h0]
      rfl

/-! ## Values -/

/-- Parts after the first have whitespace before them. -/
def spaced (w : List Char) : List (List Char) → List (List Char)
  | [] => []
  | t :: ts => t :: ts.map (w ++ ·)

mutual

/-- `json.dumps`, with `w` after a comma and `w'` after a colon. -/
def write (w w' : List Char) : PyJson → List Char
  | .none => ['n', 'u', 'l', 'l']
  | .bool true => ['t', 'r', 'u', 'e']
  | .bool false => ['f', 'a', 'l', 's', 'e']
  | .int n => writeInt n
  | .float text => text.toList
  | .str s => writeString s
  | .list items => '[' :: (commas (spaced w (writeItems w w' items)) ++ [']'])
  | .dict fields => '{' :: (commas (spaced w (writeMembers w w' fields)) ++ ['}'])

/-- The parts of a list. -/
def writeItems (w w' : List Char) : List PyJson → List (List Char)
  | [] => []
  | v :: vs => write w w' v :: writeItems w w' vs

/-- The parts of an object. -/
def writeMembers (w w' : List Char) : List (String × PyJson) → List (List Char)
  | [] => []
  | (key, v) :: fields =>
    (writeString key ++ ':' :: (w' ++ write w w' v)) :: writeMembers w w' fields

end

/-- The values `json.dumps` can be handed: the keys of an object are distinct, and a
float is written as a number that has a fraction or an exponent, or as one of the
three literals. -/
inductive Printable : PyJson → Prop where
  | none : Printable .none
  | bool (b : Bool) : Printable (.bool b)
  | int (n : ℤ) : Printable (.int n)
  | float {text : String} (h : Text (.float text) text.toList) : Printable (.float text)
  | str (s : String) : Printable (.str s)
  | list {items : List PyJson} (h : ∀ v ∈ items, Printable v) : Printable (.list items)
  | dict {fields : List (String × PyJson)} (hkeys : (fields.map Prod.fst).Nodup)
      (h : ∀ f ∈ fields, Printable f.2) : Printable (.dict fields)

/-- The part of a list that is written for a value, with `w` before it. -/
def itemOf (w : List Char) (v : PyJson) (text : List Char) : Item := ⟨w, v, text, []⟩

section Text

variable {w w' : List Char}

theorem exists_items (hw : Blank w) {items : List PyJson}
    (h : ∀ v ∈ items, Text v (write w w' v)) :
    ∃ parts : List Item, parts.map Item.value = items ∧
      parts.map Item.full = spaced w (writeItems w w' items) ∧
      (∀ i ∈ parts, i.Spaced) ∧ ∀ i ∈ parts, Text i.value i.text := by
  have key (vs : List PyJson) : (vs.map fun v => itemOf w v (write w w' v)).map Item.full =
      (writeItems w w' vs).map (w ++ ·) := by
    induction vs with
    | nil => rfl
    | cons v vs ih =>
      rw [List.map_cons, List.map_cons, ih, writeItems, List.map_cons]
      simp [itemOf, Item.full]
  cases items with
  | nil => exact ⟨[], rfl, rfl, fun _ h => absurd h List.not_mem_nil,
      fun _ h => absurd h List.not_mem_nil⟩
  | cons v vs =>
    have hvs := fun v' hv' => h v' (List.mem_cons_of_mem v hv')
    refine ⟨itemOf [] v (write w w' v) :: vs.map fun v => itemOf w v (write w w' v), ?_, ?_, ?_, ?_⟩
    · simp [itemOf, Function.comp_def]
    · rw [List.map_cons, key vs, writeItems, spaced]
      simp [itemOf, Item.full]
    · intro i hi
      rcases List.mem_cons.mp hi with rfl | hi
      · exact ⟨blank_nil, blank_nil⟩
      · obtain ⟨v', hv', rfl⟩ := List.mem_map.mp hi
        exact ⟨hw, blank_nil⟩
    · intro i hi
      rcases List.mem_cons.mp hi with rfl | hi
      · exact h v List.mem_cons_self
      · obtain ⟨v', hv', rfl⟩ := List.mem_map.mp hi
        exact hvs v' hv'

/-- The part of an object that is written for a key and a value. -/
def memberOf (before w' : List Char) (key : String) (v : PyJson) (text : List Char) : Member :=
  ⟨before, key.toList.map Char.toNat, key.toList.flatMap writeChar, [], itemOf w' v text⟩

theorem memberOf_field (before : List Char) (key : String) (v : PyJson) (text : List Char) :
    (memberOf before w' key v text).field = (key, v) := by
  simp [memberOf, Member.field, decode_map_toNat, itemOf]

theorem memberOf_full (before : List Char) (key : String) (v : PyJson) (text : List Char) :
    (memberOf before w' key v text).full =
      before ++ (writeString key ++ ':' :: (w' ++ text)) := by
  simp [memberOf, Member.full, writeString, Item.full, itemOf]

theorem memberOf_spaced {before : List Char} (hbefore : Blank before) (hw' : Blank w')
    (key : String) (v : PyJson) (text : List Char) : (memberOf before w' key v text).Spaced :=
  ⟨hbefore, body_writeString _, blank_nil, hw', blank_nil⟩

theorem exists_members (hw : Blank w) (hw' : Blank w') {fields : List (String × PyJson)}
    (h : ∀ f ∈ fields, Text f.2 (write w w' f.2)) :
    ∃ parts : List Member, parts.map Member.field = fields ∧
      parts.map Member.full = spaced w (writeMembers w w' fields) ∧
      (∀ m ∈ parts, m.Spaced) ∧ ∀ m ∈ parts, Text m.item.value m.item.text := by
  have key (fs : List (String × PyJson)) :
      (fs.map fun f => memberOf w w' f.1 f.2 (write w w' f.2)).map Member.full =
        (writeMembers w w' fs).map (w ++ ·) := by
    induction fs with
    | nil => rfl
    | cons f fs ih => rw [List.map_cons, List.map_cons, ih, writeMembers, List.map_cons,
        memberOf_full]
  cases fields with
  | nil => exact ⟨[], rfl, rfl, fun _ h => absurd h List.not_mem_nil,
      fun _ h => absurd h List.not_mem_nil⟩
  | cons f fs =>
    have hfs := fun f' hf' => h f' (List.mem_cons_of_mem f hf')
    refine ⟨memberOf [] w' f.1 f.2 (write w w' f.2) ::
      fs.map fun f => memberOf w w' f.1 f.2 (write w w' f.2), ?_, ?_, ?_, ?_⟩
    · simp [memberOf_field, Function.comp_def]
    · rw [List.map_cons, key fs, writeMembers, spaced, memberOf_full, List.nil_append]
    · intro m hm
      rcases List.mem_cons.mp hm with rfl | hm
      · exact memberOf_spaced blank_nil hw' _ _ _
      · obtain ⟨f', hf', rfl⟩ := List.mem_map.mp hm
        exact memberOf_spaced hw hw' _ _ _
    · intro m hm
      rcases List.mem_cons.mp hm with rfl | hm
      · exact h f List.mem_cons_self
      · obtain ⟨f', hf', rfl⟩ := List.mem_map.mp hm
        exact hfs f' hf'

/-- **What is written is a text of what was written.** -/
theorem Printable.text {v : PyJson} (h : Printable v) (hw : Blank w) (hw' : Blank w') :
    Text v (write w w' v) := by
  induction h with
  | none => exact .literal (by simp [literals, write])
  | bool b => cases b <;> exact .literal (by simp [literals, write])
  | int n => exact .number (numberValue_writeInt n)
  | float h => exact h
  | str s => exact text_writeString s
  | @list items h ih =>
    rw [write]
    cases items with
    | nil => exact .emptyList blank_nil
    | cons v vs =>
      obtain ⟨parts, hvalue, hfull, hspaced, htext⟩ := exists_items hw ih
      have hne : parts ≠ [] := by
        rintro rfl
        cases hvalue
      rw [← hfull, ← hvalue]
      exact .list parts hne hspaced htext
  | @dict fields hkeys h ih =>
    rw [write]
    cases fields with
    | nil => exact .emptyDict blank_nil
    | cons f fs =>
      obtain ⟨parts, hfield, hfull, hspaced, htext⟩ := exists_members hw hw' ih
      have hne : parts ≠ [] := by
        rintro rfl
        cases hfield
      have hdict := Text.dict parts hne hspaced htext
      rwa [hfull, hfield, pyDict_of_nodup hkeys] at hdict

/-! ### No control characters -/

/-- There is no control character in a text. -/
def Printing (t : List Char) : Prop := ∀ c ∈ t, 0x20 ≤ c.toNat

theorem Printing.append {t t' : List Char} (h : Printing t) (h' : Printing t') :
    Printing (t ++ t') :=
  fun c hc => (List.mem_append.mp hc).elim (h c) (h' c)

theorem Printing.cons {c : Char} {t : List Char} (hc : 0x20 ≤ c.toNat) (h : Printing t) :
    Printing (c :: t) := by
  intro d hd
  rcases List.mem_cons.mp hd with rfl | hd
  · exact hc
  · exact h d hd

theorem printing_nil : Printing [] := fun _ h => absurd h List.not_mem_nil

theorem printing_commas {ts : List (List Char)} (h : ∀ t ∈ ts, Printing t) :
    Printing (commas ts) := by
  induction ts with
  | nil => exact printing_nil
  | cons t ts ih =>
    have ih := ih fun t' ht' => h t' (List.mem_cons_of_mem _ ht')
    cases ts with
    | nil => exact h t List.mem_cons_self
    | cons t' ts => exact (h t List.mem_cons_self).append (.cons (by decide) ih)

theorem printing_spaced (hw : Printing w) {ts : List (List Char)} (h : ∀ t ∈ ts, Printing t) :
    ∀ t ∈ spaced w ts, Printing t := by
  cases ts with
  | nil => exact h
  | cons t ts =>
    intro t' ht'
    rcases List.mem_cons.mp ht' with rfl | ht'
    · exact h t' List.mem_cons_self
    · obtain ⟨t'', ht'', rfl⟩ := List.mem_map.mp ht'
      exact hw.append (h t'' (List.mem_cons_of_mem _ ht''))

theorem printing_digitChar {d : ℕ} (hd : d < 16) : 0x20 ≤ (Nat.digitChar d).toNat := by
  interval_cases d <;> decide

theorem printing_number {t : List Char} {v : PyJson} (h : numberValue t = some v) :
    Printing t := by
  intro c hc
  have hnumber := isNumberChar_of_numberValue h c hc
  simp only [isNumberChar, isDigit, Bool.or_eq_true, Bool.and_eq_true, decide_eq_true_eq,
    beq_iff_eq, ← Char.toNat_inj, Char.reduceToNat] at hnumber
  omega

theorem printing_writeChar (c : Char) : Printing (writeChar c) := by
  have hdigit (n : ℕ) : 0x20 ≤ (Nat.digitChar (n % 16)).toNat :=
    printing_digitChar (Nat.mod_lt n (by decide))
  have htwo (e : Char) (he : 0x20 ≤ e.toNat) : Printing ['\\', e] :=
    .cons (by decide) (.cons he printing_nil)
  unfold writeChar
  iterate 7
    split
    · exact htwo _ (by decide)
  split
  · exact .cons (by decide) (.cons (by decide) (.cons (hdigit _) (.cons (hdigit _)
      (.cons (hdigit _) (.cons (hdigit _) printing_nil)))))
  · exact .cons (by omega) printing_nil

theorem printing_writeString (s : String) : Printing (writeString s) := by
  refine .cons (by decide) (.append (fun c hc => ?_) (.cons (by decide) printing_nil))
  obtain ⟨d, -, hd⟩ := List.mem_flatMap.mp hc
  exact printing_writeChar d c hd

theorem printing_literal {t : List Char} {v : PyJson} (h : (t, v) ∈ literals) : Printing t := by
  have hall : ∀ l ∈ literals, ∀ c ∈ l.1, 0x20 ≤ c.toNat := by
    simp [literals]
  exact hall _ h

theorem printing_float {text : String} {t : List Char} (h : Text (.float text) t) :
    Printing t := by
  generalize hv : PyJson.float text = v at h
  cases h with
  | literal h => exact printing_literal h
  | number h => exact printing_number h
  | string | emptyList | list | emptyDict | dict => cases hv

theorem printing_writeItems {vs : List PyJson} (h : ∀ v ∈ vs, Printing (write w w' v)) :
    ∀ t ∈ writeItems w w' vs, Printing t := by
  induction vs with
  | nil => exact fun _ ht => absurd ht List.not_mem_nil
  | cons v vs ih =>
    rw [writeItems]
    intro t ht
    rcases List.mem_cons.mp ht with rfl | ht
    · exact h v List.mem_cons_self
    · exact ih (fun v' hv' => h v' (List.mem_cons_of_mem _ hv')) t ht

theorem printing_writeMembers (hw' : Printing w') {fs : List (String × PyJson)}
    (h : ∀ f ∈ fs, Printing (write w w' f.2)) : ∀ t ∈ writeMembers w w' fs, Printing t := by
  induction fs with
  | nil => exact fun _ ht => absurd ht List.not_mem_nil
  | cons f fs ih =>
    rw [writeMembers]
    intro t ht
    rcases List.mem_cons.mp ht with rfl | ht
    · exact (printing_writeString _).append (.cons (by decide)
        (hw'.append (h f List.mem_cons_self)))
    · exact ih (fun f' hf' => h f' (List.mem_cons_of_mem _ hf')) t ht

/-- **No control character is written.** -/
theorem Printable.printing {v : PyJson} (h : Printable v) (hw : Printing w) (hw' : Printing w') :
    Printing (write w w' v) := by
  induction h with
  | none => exact printing_literal (v := .none) (by simp [literals, write])
  | bool b =>
    cases b with
    | true => exact printing_literal (v := .bool true) (by simp [literals, write])
    | false => exact printing_literal (v := .bool false) (by simp [literals, write])
  | int n => exact printing_number (numberValue_writeInt n)
  | float h => exact printing_float h
  | str s => exact printing_writeString s
  | list h ih =>
    rw [write]
    exact .cons (by decide) (.append (printing_commas (printing_spaced hw (printing_writeItems ih)))
      (.cons (by decide) printing_nil))
  | dict hkeys h ih =>
    rw [write]
    exact .cons (by decide) (.append
      (printing_commas (printing_spaced hw (printing_writeMembers hw' ih)))
      (.cons (by decide) printing_nil))

end Text

end Json

namespace PythonText

/-- `json.dumps` writes a JSON text of what it is given, and `repr` of a float is a
number that has a fraction or an exponent. -/
structure DumpsJson (py : PythonText) : Prop where
  dumps : ∀ v, Json.Printable v → Json.Document v (py.dumps v).toList
  floatRepr : ∀ x, Json.Text (.float (py.floatRepr x)) (py.floatRepr x).toList

/-- A float that is a whole number of tenths, and not negative, as `repr` writes it. -/
def tenths (x : ℚ) : List Char :=
  Json.writeInt x.floor ++ ['.', Nat.digitChar (((x - x.floor) * 10).floor.toNat % 10)]

/-- `json.loads` and `json.dumps`. -/
def jsonModule : PythonText where
  loads t :=
    match Json.loads t.toList with
    | some v => .ok v
    | none => .error (.decode "Expecting value: line 1 column 1 (char 0)")
  dumps v := String.ofList (Json.write [' '] [' '] v)
  repr s := "'" ++ s ++ "'"
  floatRepr x := String.ofList (tenths x)
  fixed2 x := String.ofList (tenths x ++ ['0'])

theorem loads_jsonModule (t : String) (v : PyJson) :
    jsonModule.loads t = .ok v ↔ Json.Document v t.toList := by
  rw [← Json.loads_eq_some_iff]
  simp only [jsonModule]
  cases Json.loads t.toList <;> simp

theorem loadsJson_jsonModule : jsonModule.LoadsJson where
  only t v := (loads_jsonModule t v).mp
  modest t v _ := (loads_jsonModule t v).mpr

theorem numberValue_tenths (x : ℚ) :
    Json.numberValue (tenths x) = some (.float (String.ofList (tenths x))) := by
  have hdigit := Json.isDigit_digitChar
    (Nat.mod_lt ((x - x.floor) * 10).floor.toNat (by decide : 0 < 10))
  have hpoint : Json.isDigit '.' = false := by decide
  have htail : (tenths x).foldlM Json.NumberState.next .start = some .frac := by
    rw [tenths, List.foldlM_append]
    rcases Json.foldlM_writeInt x.floor with hint | hint <;> rw [hint] <;>
      simp [Json.NumberState.next, hdigit, hpoint]
  rw [Json.numberValue, htail]
  rfl

theorem dumpsJson_jsonModule : jsonModule.DumpsJson where
  dumps v hv := by
    have hblank : Json.Blank [' '] := by
      intro c hc
      rw [List.mem_singleton.mp hc]
      rfl
    have h := (hv.text hblank hblank).document
    rwa [← String.toList_ofList (l := Json.write [' '] [' '] v)] at h
  floatRepr x := by
    show Json.Text (.float (String.ofList (tenths x))) (String.ofList (tenths x)).toList
    rw [String.toList_ofList]
    exact .number (numberValue_tenths x)

end PythonText
