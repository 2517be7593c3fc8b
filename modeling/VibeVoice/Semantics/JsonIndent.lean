import VibeVoice.Semantics.JsonWriter

/-!
# A writer of JSON texts in ASCII, with indentation

`indented` is `json.dumps` with `indent` and with `ensure_ascii`.  Every part of a list or
an object has a line of its own, and a character beyond ASCII is written as the one or two
code units it has in UTF-16.

So much whitespace is around the parts, also behind the last one, that `Json.write` with
another separator would not do.  The rest is as there: what is written is a text of what
was written (`Printable.text_indented`), and it is in ASCII (`Printable.ascii_indented`).
-/

namespace Json

/-! ## Strings -/

/-- The code units of a character in UTF-16. -/
def utf16 (c : Char) : List ℕ :=
  if c.toNat < 0x10000 then [c.toNat]
  else [0xD800 + (c.toNat - 0x10000) / 0x400, 0xDC00 + (c.toNat - 0x10000) % 0x400]

/-- A character of a string. -/
def asciiChar (c : Char) : List Char :=
  if c.toNat < 0x7F then writeChar c
  else (utf16 c).flatMap fun u => '\\' :: 'u' :: hexDigits u

/-- A string. -/
def asciiString (s : String) : List Char := '"' :: (s.toList.flatMap asciiChar ++ ['"'])

theorem toNat_lt_unicode (c : Char) : c.toNat < 0x110000 := by
  have hvalid : c.toNat < 0xD800 ∨ 0xDFFF < c.toNat ∧ c.toNat < 0x110000 := c.valid
  omega

/-- **A character is read from its code units**, whatever comes behind them. -/
theorem decodeChars_utf16 (c : Char) (units : List ℕ)
    (hunits : ∀ u ∈ units.head?, ¬ (0xDC00 ≤ u ∧ u ≤ 0xDFFF)) :
    decodeChars (utf16 c ++ units) = c :: decodeChars units := by
  have hlt := toNat_lt_unicode c
  unfold utf16
  split
  · cases units with
    | nil => simp [decodeChars]
    | cons u units =>
      rw [List.singleton_append, decodeChars, if_neg fun h => hunits u rfl h.2, scalar_toNat]
  · rename_i hlarge
    have hpair : 0x10000 + (0xD800 + (c.toNat - 0x10000) / 0x400 - 0xD800) * 0x400 +
        (0xDC00 + (c.toNat - 0x10000) % 0x400 - 0xDC00) = c.toNat := by
      omega
    rw [List.cons_append, List.singleton_append, decodeChars, if_pos (by omega), hpair,
      scalar_toNat]

/-- No character begins with the second half of a pair. -/
theorem head?_utf16 (c : Char) : ∀ u ∈ (utf16 c).head?, ¬ (0xDC00 ≤ u ∧ u ≤ 0xDFFF) := by
  intro u hu
  have hvalid : c.toNat < 0xD800 ∨ 0xDFFF < c.toNat ∧ c.toNat < 0x110000 := c.valid
  unfold utf16 at hu
  split at hu
  · obtain rfl := Option.some_inj.mp hu
    omega
  · obtain rfl := Option.some_inj.mp hu
    omega

theorem utf16_ne_nil (c : Char) : utf16 c ≠ [] := by
  unfold utf16
  split
  · exact List.cons_ne_nil _ _
  · exact List.cons_ne_nil _ _

/-- The characters of a string are read back. -/
theorem decodeChars_flatMap_utf16 (cs : List Char) : decodeChars (cs.flatMap utf16) = cs := by
  induction cs with
  | nil => rfl
  | cons c cs ih =>
    rw [List.flatMap_cons, decodeChars_utf16, ih]
    cases cs with
    | nil => exact nofun
    | cons d ds =>
      rw [List.flatMap_cons, List.head?_append_of_ne_nil _ (utf16_ne_nil d)]
      exact head?_utf16 d

theorem utf16_lt {c : Char} {u : ℕ} (hu : u ∈ utf16 c) : u < 0x10000 := by
  have hlt := toNat_lt_unicode c
  unfold utf16 at hu
  split at hu
  · rw [List.mem_singleton.mp hu]
    assumption
  · rcases List.mem_pair.mp hu with hu | hu
    · omega
    · omega

/-- Code units behind a backslash each. -/
theorem body_flatMap_hexDigits {units : List ℕ} (h : ∀ u ∈ units, u < 0x10000) :
    Body units (units.flatMap fun u => '\\' :: 'u' :: hexDigits u) := by
  induction units with
  | nil => exact .nil
  | cons u units ih =>
    obtain ⟨hu, hunits⟩ := List.forall_mem_cons.mp h
    have hbody := Body.unicode _ _ _ _ u (hexQuad_hexDigits hu) (ih hunits)
    rw [List.flatMap_cons, hexDigits]
    exact hbody

theorem body_asciiChar (c : Char) : Body (utf16 c) (asciiChar c) := by
  unfold asciiChar
  split
  · rename_i hc
    rw [utf16, if_pos (by omega)]
    exact body_writeChar c
  · exact body_flatMap_hexDigits fun u hu => utf16_lt hu

theorem body_flatMap_asciiChar (cs : List Char) :
    Body (cs.flatMap utf16) (cs.flatMap asciiChar) := by
  induction cs with
  | nil => exact .nil
  | cons c cs ih =>
    rw [List.flatMap_cons, List.flatMap_cons]
    exact (body_asciiChar c).append ih

/-- **A string is written so that it is read back.** -/
theorem text_asciiString (s : String) : Text (.str s) (asciiString s) := by
  have htext := Text.string (body_flatMap_asciiChar s.toList)
  rwa [decode, decodeChars_flatMap_utf16, String.ofList_toList] at htext

/-! ## Values -/

/-- A line break, and the indentation of the next line. -/
def newline (n : ℕ) : List Char := '\n' :: List.replicate n ' '

/-- Parts between brackets, each on a line of its own. -/
def bracketed (opening closing : Char) (inner outer : ℕ) : List (List Char) → List Char
  | [] => [opening, closing]
  | parts => opening :: (commas (parts.map (newline inner ++ ·)) ++ (newline outer ++ [closing]))

mutual

/-- `json.dumps`, with `step` for `indent`, from the column `col` on. -/
def indented (step col : ℕ) : PyJson → List Char
  | .none => ['n', 'u', 'l', 'l']
  | .bool true => ['t', 'r', 'u', 'e']
  | .bool false => ['f', 'a', 'l', 's', 'e']
  | .int n => writeInt n
  | .float text => text.toList
  | .str s => asciiString s
  | .list items => bracketed '[' ']' (col + step) col (indentedItems step (col + step) items)
  | .dict fields => bracketed '{' '}' (col + step) col (indentedMembers step (col + step) fields)

/-- The parts of a list. -/
def indentedItems (step col : ℕ) : List PyJson → List (List Char)
  | [] => []
  | v :: vs => indented step col v :: indentedItems step col vs

/-- The parts of an object. -/
def indentedMembers (step col : ℕ) : List (String × PyJson) → List (List Char)
  | [] => []
  | (key, v) :: fields =>
    (asciiString key ++ ':' :: ' ' :: indented step col v) :: indentedMembers step col fields

end

section Text

variable {step col : ℕ}

theorem blank_newline (n : ℕ) : Blank (newline n) := by
  intro c hc
  rcases List.mem_cons.mp hc with rfl | hc
  · rfl
  · rw [List.eq_of_mem_replicate hc]
    rfl

theorem indentedItems_eq (vs : List PyJson) :
    indentedItems step col vs = vs.map (indented step col) := by
  induction vs with
  | nil => rfl
  | cons v vs ih => rw [indentedItems, ih, List.map_cons]

theorem indentedMembers_eq (fields : List (String × PyJson)) :
    indentedMembers step col fields =
      fields.map fun f => asciiString f.1 ++ ':' :: ' ' :: indented step col f.2 := by
  induction fields with
  | nil => rfl
  | cons f fields ih => rw [indentedMembers, ih, List.map_cons]

/-- What is behind the last part is behind all of them. -/
theorem commas_concat (ts : List (List Char)) (t w : List Char) :
    commas (ts ++ [t ++ w]) = commas (ts ++ [t]) ++ w := by
  induction ts with
  | nil => rfl
  | cons t' ts ih =>
    cases ts with
    | nil => simp [commas]
    | cons t'' ts =>
      rw [List.cons_append, List.cons_append] at ih ⊢
      rw [List.cons_append, commas, ih]
      simp [commas]

/-- The part that is written for a value, with whitespace around it. -/
def itemAt (before after : List Char) (v : PyJson) (text : List Char) : Item :=
  ⟨before, v, text, after⟩

theorem itemAt_full (before after : List Char) (v : PyJson) (text : List Char) :
    (itemAt before after v text).full = before ++ text ++ after := by
  simp [itemAt, Item.full]

/-- The part that is written for a key and a value. -/
def memberAt (before after : List Char) (key : String) (v : PyJson) (text : List Char) : Member :=
  ⟨before, key.toList.flatMap utf16, key.toList.flatMap asciiChar, [], itemAt [' '] after v text⟩

theorem memberAt_full (before after : List Char) (key : String) (v : PyJson) (text : List Char) :
    (memberAt before after key v text).full =
      before ++ (asciiString key ++ ':' :: ' ' :: text) ++ after := by
  simp [memberAt, Member.full, asciiString, Item.full, itemAt]

theorem memberAt_spaced {before after : List Char} (hbefore : Blank before) (hafter : Blank after)
    (key : String) (v : PyJson) (text : List Char) : (memberAt before after key v text).Spaced :=
  ⟨hbefore, body_flatMap_asciiChar _, blank_nil, List.forall_mem_singleton.mpr rfl, hafter⟩

theorem memberAt_field (before after : List Char) (key : String) (v : PyJson)
    (text : List Char) : (memberAt before after key v text).field = (key, v) := by
  simp [memberAt, Member.field, decode, decodeChars_flatMap_utf16, itemAt]

/-- **Parts on lines of their own** are parts with whitespace around them: before each of
them, and behind the last. -/
theorem exists_parts {α P β : Type} {part : List Char → α → P} {full : P → List Char}
    {text : α → List Char} {value : P → β} {f : α → β} {before outer : List Char}
    (hfull : ∀ after a, full (part after a) = before ++ text a ++ after)
    (hvalue : ∀ after a, value (part after a) = f a) (houter : Blank outer) {xs : List α}
    (hne : xs ≠ []) :
    ∃ parts : List P, parts ≠ [] ∧ parts.map value = xs.map f ∧
      commas (parts.map full) = commas (xs.map fun a => before ++ text a) ++ outer ∧
      ∀ p ∈ parts, ∃ after a, Blank after ∧ a ∈ xs ∧ p = part after a := by
  obtain ⟨init, last, rfl⟩ := (List.eq_nil_or_concat' xs).resolve_left hne
  refine ⟨init.map (part []) ++ [part outer last], by simp, ?_, ?_, fun p hp => ?_⟩
  · simp [hvalue, Function.comp_def]
  · simp [hfull, Function.comp_def, ← commas_concat]
  · rcases List.mem_append.mp hp with hp | hp
    · obtain ⟨a, ha, rfl⟩ := List.mem_map.mp hp
      exact ⟨[], a, blank_nil, List.mem_append_left _ ha, rfl⟩
    · rw [List.mem_singleton.mp hp]
      exact ⟨outer, last, houter, List.mem_append_right _ List.mem_cons_self, rfl⟩

theorem bracketed_of_ne_nil {opening closing : Char} {inner outer : ℕ} {parts : List (List Char)}
    (h : parts ≠ []) : bracketed opening closing inner outer parts =
      opening :: (commas (parts.map (newline inner ++ ·)) ++ (newline outer ++ [closing])) := by
  cases parts with
  | nil => exact absurd rfl h
  | cons t ts => rfl

/-- **What is written is a text of what was written.** -/
theorem Printable.text_indented {v : PyJson} (h : Printable v) (step col : ℕ) :
    Text v (indented step col v) := by
  induction h generalizing col with
  | none => exact .literal (by simp [literals, indented])
  | bool b => cases b <;> exact .literal (by simp [literals, indented])
  | int n => exact .number (numberValue_writeInt n)
  | float h => exact h
  | str s => exact text_asciiString s
  | @list items h ih =>
    rw [indented, indentedItems_eq]
    by_cases hne : items = []
    · rw [hne]
      exact .emptyList blank_nil
    · obtain ⟨parts, hparts, hvalue, hfull, hpart⟩ := @exists_parts _ _ _
        (fun after v => itemAt (newline (col + step)) after v (indented step (col + step) v))
        Item.full (indented step (col + step)) Item.value id (newline (col + step)) (newline col)
        (fun _ _ => itemAt_full ..) (fun _ _ => rfl) (blank_newline col) _ hne
      have htext := Text.list parts hparts
        (fun i hi => by
          obtain ⟨after, v, hafter, -, rfl⟩ := hpart i hi
          exact ⟨blank_newline _, hafter⟩)
        (fun i hi => by
          obtain ⟨after, v, -, hv, rfl⟩ := hpart i hi
          exact ih v hv (col + step))
      rw [hvalue, List.map_id, hfull, List.append_assoc] at htext
      rw [bracketed_of_ne_nil (by simpa using hne), List.map_map]
      exact htext
  | @dict fields hkeys h ih =>
    rw [indented, indentedMembers_eq]
    by_cases hne : fields = []
    · rw [hne]
      exact .emptyDict blank_nil
    · obtain ⟨parts, hparts, hfield, hfull, hpart⟩ := @exists_parts _ _ _
        (fun after f => memberAt (newline (col + step)) after f.1 f.2
          (indented step (col + step) f.2))
        Member.full _ Member.field id _ (newline col) (fun _ _ => memberAt_full ..)
        (fun _ _ => memberAt_field ..) (blank_newline col) _ hne
      have htext := Text.dict parts hparts
        (fun m hm => by
          obtain ⟨after, f, hafter, -, rfl⟩ := hpart m hm
          exact memberAt_spaced (blank_newline _) hafter ..)
        (fun m hm => by
          obtain ⟨after, f, -, hf, rfl⟩ := hpart m hm
          exact ih f hf (col + step))
      rw [hfield, List.map_id, hfull, List.append_assoc, pyDict_of_nodup hkeys] at htext
      rw [bracketed_of_ne_nil (by simpa using hne), List.map_map]
      exact htext

/-! ### In ASCII -/

/-- A character of ASCII that is printed, or a line break. -/
def IsAscii (c : Char) : Prop := c = '\n' ∨ (0x20 ≤ c.toNat ∧ c.toNat < 0x7F)

instance (c : Char) : Decidable (IsAscii c) := inferInstanceAs (Decidable (_ ∨ _))

/-- There are no other characters in a text. -/
def Ascii (t : List Char) : Prop := ∀ c ∈ t, IsAscii c

theorem Ascii.append {t t' : List Char} (h : Ascii t) (h' : Ascii t') : Ascii (t ++ t') :=
  fun c hc => (List.mem_append.mp hc).elim (h c) (h' c)

theorem Ascii.cons {c : Char} {t : List Char} (hc : IsAscii c) (h : Ascii t) :
    Ascii (c :: t) := List.forall_mem_cons.mpr ⟨hc, h⟩

theorem ascii_nil : Ascii [] := List.forall_mem_nil _

theorem Ascii.commas {ts : List (List Char)} (h : ∀ t ∈ ts, Ascii t) : Ascii (Json.commas ts) := by
  induction ts with
  | nil => exact ascii_nil
  | cons t ts ih =>
    have ih := ih fun t' ht' => h t' (List.mem_cons_of_mem _ ht')
    cases ts with
    | nil => exact h t List.mem_cons_self
    | cons t' ts => exact (h t List.mem_cons_self).append (.cons (by decide) ih)

theorem ascii_hexDigits (u : ℕ) : Ascii (hexDigits u) := by
  have hdigit (n : ℕ) : IsAscii (Nat.digitChar (n % 16)) := by
    have hn := Nat.mod_lt n (by decide : 0 < 16)
    interval_cases n % 16 <;> decide
  exact .cons (hdigit _) (.cons (hdigit _) (.cons (hdigit _) (.cons (hdigit _) ascii_nil)))

theorem ascii_writeChar {c : Char} (hc : c.toNat < 0x7F) : Ascii (writeChar c) := by
  have htwo (e : Char) (he : IsAscii e) : Ascii ['\\', e] :=
    .cons (by decide) (.cons he ascii_nil)
  unfold writeChar
  iterate 7
    split
    · exact htwo _ (by decide)
  split
  · exact .cons (by decide) (.cons (by decide) (ascii_hexDigits _))
  · exact .cons (Or.inr ⟨by omega, hc⟩) ascii_nil

theorem ascii_asciiString (s : String) : Ascii (asciiString s) := by
  refine .cons (by decide) (.append (fun d hd => ?_) (.cons (by decide) ascii_nil))
  obtain ⟨c, -, hd⟩ := List.mem_flatMap.mp hd
  unfold asciiChar at hd
  split at hd
  · rename_i hc
    exact ascii_writeChar hc d hd
  · obtain ⟨u, -, hd⟩ := List.mem_flatMap.mp hd
    exact Ascii.cons (by decide) (.cons (by decide) (ascii_hexDigits u)) d hd

theorem ascii_number {t : List Char} {v : PyJson} (h : numberValue t = some v) : Ascii t := by
  intro c hc
  have hnumber := isNumberChar_of_numberValue h c hc
  simp only [isNumberChar, isDigit, Bool.or_eq_true, Bool.and_eq_true, decide_eq_true_eq,
    beq_iff_eq, ← Char.toNat_inj, Char.reduceToNat] at hnumber
  exact Or.inr (by omega)

theorem ascii_literal {t : List Char} {v : PyJson} (h : (t, v) ∈ literals) : Ascii t := by
  have hall : ∀ l ∈ literals, ∀ c ∈ l.1, IsAscii c := by
    simp [literals, IsAscii]
  exact hall _ h

theorem ascii_float {text : String} {t : List Char} (h : Text (.float text) t) : Ascii t := by
  generalize hv : PyJson.float text = v at h
  cases h with
  | literal h => exact ascii_literal h
  | number h => exact ascii_number h
  | string | emptyList | list | emptyDict | dict => cases hv

theorem ascii_newline (n : ℕ) : Ascii (newline n) := by
  refine .cons (by decide) fun c hc => ?_
  rw [List.eq_of_mem_replicate hc]
  decide

theorem ascii_bracketed {opening closing : Char} (ho : IsAscii opening)
    (hc : IsAscii closing) {inner outer : ℕ} {parts : List (List Char)}
    (h : ∀ t ∈ parts, Ascii t) : Ascii (bracketed opening closing inner outer parts) := by
  by_cases hne : parts = []
  · rw [hne]
    exact .cons ho (.cons hc ascii_nil)
  · rw [bracketed_of_ne_nil hne]
    refine .cons ho (.append (.commas fun t ht => ?_)
      (.append (ascii_newline _) (.cons hc ascii_nil)))
    obtain ⟨t', ht', rfl⟩ := List.mem_map.mp ht
    exact (ascii_newline _).append (h t' ht')

/-- **Only ASCII is written**, and no control character but line breaks. -/
theorem Printable.ascii_indented {v : PyJson} (h : Printable v) (step col : ℕ) :
    Ascii (indented step col v) := by
  induction h generalizing col with
  | none => exact ascii_literal (v := .none) (by simp [literals, indented])
  | bool b =>
    cases b with
    | true => exact ascii_literal (v := .bool true) (by simp [literals, indented])
    | false => exact ascii_literal (v := .bool false) (by simp [literals, indented])
  | int n => exact ascii_number (numberValue_writeInt n)
  | float h => exact ascii_float h
  | str s => exact ascii_asciiString s
  | list h ih =>
    rw [indented, indentedItems_eq]
    refine ascii_bracketed (by decide) (by decide) fun t ht => ?_
    obtain ⟨v, hv, rfl⟩ := List.mem_map.mp ht
    exact ih v hv _
  | dict hkeys h ih =>
    rw [indented, indentedMembers_eq]
    refine ascii_bracketed (by decide) (by decide) fun t ht => ?_
    obtain ⟨f, hf, rfl⟩ := List.mem_map.mp ht
    exact (ascii_asciiString _).append (.cons (by decide) (.cons (by decide) (ih f hf _)))

end Text

end Json
