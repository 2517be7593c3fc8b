import Mathlib.Data.List.Infix
import Mathlib.Data.List.TakeWhile
import VibeVoice.Semantics.Json

/-!
# A reader of JSON texts

`loads` reads a text from left to right and `loads_eq_some_iff` says that it
reads exactly the documents.  Each reader hands back the rest of the text it did
not need, and what is proved of each is a pair: what it read has a derivation
(`_sound`), and what has a derivation is read, whatever follows (`_complete`).

## The readers

They are as many as the grammar has kinds of text.

* `skipWs` and `readBody`: whitespace, and a string from behind its opening quote
  to its closing one.  Neither needs to look further.
* `readAtom`: a number or a literal is the longest stretch of number characters or
  letters.  *Whatever follows* is the point here.  A number is the one text that can
  go on --- a `1` before a `2` is part of another number --- so only of a number it is
  asked that no number character comes next (`Delimited`).
* `readSeparated` and `readBracketed`: parts with commas between them, up to a closing
  character, for any reader of the parts.  Arrays and objects are two instances.
* `readValue`: one of these by its first character.  It has a number for its fuel,
  which bounds the depth and the lengths of lists at once, and the length of the text
  is enough for both (`length_le_commas`).

## The two directions

`readValue_sound` is an induction on the fuel, and `Text.readValue` one on the
derivation.  The second needs to know that a part can be told from the closing
bracket, by its first character (`Opens`), and that what comes after a part, a comma
or the bracket, ends a number (`skipWs_and_delimited`).

## What follows of it

A reader is a function, so a text is a text of one value (`Document.unique`).  And
since it does not look at what follows, no text is the beginning of another one, with
numbers aside (`Text.append_inj`).  In particular a document that begins another
document of a list or an object is all of it but whitespace (`Document.space_of_append`):
an array that was cut anywhere is not an array.

`LoadsOnlyJson` and `LoadsJson` say how `json.loads` and the documents go together.
The one is that it accepts nothing else.  The other, that it accepts them, is asked of
`Modest` values only: what is nested too deep raises a `RecursionError`, and an integer
with too many digits a `ValueError`.
-/

namespace Json

/-! ## Whitespace and strings -/

/-- Skip whitespace. -/
def skipWs (t : List Char) : List Char := t.dropWhile isWs

theorem skipWs_blank_append {w t : List Char} (hw : Blank w) : skipWs (w ++ t) = skipWs t := by
  rw [skipWs, List.dropWhile_append_of_pos hw, skipWs]

theorem skipWs_cons {c : Char} (hc : isWs c = false) (t : List Char) :
    skipWs (c :: t) = c :: t := by
  rw [skipWs, List.dropWhile_cons_of_neg (by simp [hc])]

/-- What was skipped. -/
theorem exists_blank_append (t : List Char) : ∃ w, Blank w ∧ t = w ++ skipWs t :=
  ⟨t.takeWhile isWs, fun _ => List.mem_takeWhile_imp, List.takeWhile_append_dropWhile.symm⟩

/-- One more code point. -/
def prependUnit (u : ℕ) (p : List ℕ × List Char) : List ℕ × List Char := (u :: p.1, p.2)

/-- The body of a string and the closing quote. -/
def readBody : List Char → Option (List ℕ × List Char)
  | [] => none
  | c :: t =>
    if c = '"' then some ([], t)
    else if c = '\\' then
      match t with
      | [] => none
      | e :: t =>
        if e = 'u' then
          match t with
          | a :: b :: c :: d :: t =>
            (hexQuad a b c d).bind fun u => (readBody t).map (prependUnit u)
          | _ => none
        else (shortEscape e).bind fun u => (readBody t).map (prependUnit u)
    else if isPlain c then (readBody t).map (prependUnit c.toNat)
    else none

theorem isPlain_ne {c : Char} (hc : isPlain c = true) : c ≠ '"' ∧ c ≠ '\\' := by
  simp only [isPlain, Bool.and_eq_true, bne_iff_ne] at hc
  exact ⟨hc.1.2, hc.2⟩

theorem shortEscape_ne {c : Char} {u : ℕ} (hc : shortEscape c = some u) : c ≠ 'u' := by
  rintro rfl
  cases hc

theorem readBody_complete {units : List ℕ} {body : List Char} (h : Body units body)
    (rest : List Char) : readBody (body ++ '"' :: rest) = some (units, rest) := by
  induction h with
  | nil =>
    rw [List.nil_append, readBody.eq_def]
    rfl
  | plain c hc h ih =>
    obtain ⟨hquote, hslash⟩ := isPlain_ne hc
    rw [List.cons_append, readBody.eq_def]
    simp only [if_neg hquote, if_neg hslash, if_pos hc, ih]
    rfl
  | short c u hc h ih =>
    rw [List.cons_append, List.cons_append, readBody.eq_def]
    simp only [if_neg (show '\\' ≠ '"' by decide), if_true, if_neg (shortEscape_ne hc), hc,
      Option.bind_some, ih]
    rfl
  | unicode a b c d u hu h ih =>
    simp only [List.cons_append]
    rw [readBody.eq_def]
    simp only [if_neg (show '\\' ≠ '"' by decide), if_true, hu, Option.bind_some, ih]
    rfl

theorem readBody_sound {t : List Char} {units : List ℕ} {rest : List Char}
    (h : readBody t = some (units, rest)) : ∃ body, t = body ++ '"' :: rest ∧ Body units body := by
  fun_induction readBody t generalizing units with
  | case1 => cases h
  | case2 t =>
    cases h
    exact ⟨[], rfl, .nil⟩
  | case3 => cases h
  | case4 a b c d hquote t ih =>
    obtain ⟨u, hu, h⟩ := Option.bind_eq_some_iff.mp h
    obtain ⟨⟨units', rest'⟩, hread, hp⟩ := Option.map_eq_some_iff.mp h
    cases hp
    obtain ⟨body, rfl, hbody⟩ := ih hread
    exact ⟨_, rfl, .unicode a b c d u hu hbody⟩
  | case5 => cases h
  | case6 e t he hquote ih =>
    obtain ⟨u, hu, h⟩ := Option.bind_eq_some_iff.mp h
    obtain ⟨⟨units', rest'⟩, hread, hp⟩ := Option.map_eq_some_iff.mp h
    cases hp
    obtain ⟨body, rfl, hbody⟩ := ih hread
    exact ⟨_, rfl, .short e u hu hbody⟩
  | case7 c t hquote hslash hc ih =>
    obtain ⟨⟨units', rest'⟩, hread, hp⟩ := Option.map_eq_some_iff.mp h
    cases hp
    obtain ⟨body, rfl, hbody⟩ := ih hread
    exact ⟨_, rfl, .plain c hc hbody⟩
  | case8 => cases h

/-! ## Numbers and literals -/

/-- A number or a literal. -/
def readAtom (t : List Char) : Option (PyJson × List Char) :=
  match numberValue (t.takeWhile isNumberChar) with
  | some v => some (v, t.dropWhile isNumberChar)
  | none => (literals.find? fun l => l.1.isPrefixOf t).map fun l => (l.2, t.drop l.1.length)

/-- No number goes on here. -/
def Delimited (rest : List Char) : Prop := ∀ c ∈ rest.head?, isNumberChar c = false

theorem delimited_nil : Delimited [] := fun _ h => absurd h (by simp)

theorem delimited_cons {c : Char} (hc : isNumberChar c = false) (rest : List Char) :
    Delimited (c :: rest) := by
  rintro d hd
  cases hd
  exact hc

theorem delimited_blank_append {w rest : List Char} (hw : Blank w) (h : Delimited rest) :
    Delimited (w ++ rest) := by
  cases w with
  | nil => exact h
  | cons c w =>
    refine delimited_cons (Bool.eq_false_iff.mpr fun hnumber => ?_) _
    have hc := hw c List.mem_cons_self
    simp only [isWs, Bool.or_eq_true, beq_iff_eq] at hc
    rcases hc with ((rfl | rfl) | rfl) | rfl <;> exact absurd hnumber (by decide)

theorem readAtom_number {t : List Char} {v : PyJson} (h : numberValue t = some v)
    {rest : List Char} (hrest : Delimited rest) : readAtom (t ++ rest) = some (v, rest) := by
  have ht := isNumberChar_of_numberValue h
  have htake : rest.takeWhile isNumberChar = [] := by
    cases rest with
    | nil => rfl
    | cons c rest => rw [List.takeWhile_cons_of_neg (by simp [hrest c rfl])]
  have hdrop : rest.dropWhile isNumberChar = rest := by
    cases rest with
    | nil => rfl
    | cons c rest => rw [List.dropWhile_cons_of_neg (by simp [hrest c rfl])]
  rw [readAtom, List.takeWhile_append_of_pos ht, htake, List.append_nil, h,
    List.dropWhile_append_of_pos ht, hdrop]

theorem readAtom_literal {t : List Char} {v : PyJson} (h : (t, v) ∈ literals) (rest : List Char) :
    readAtom (t ++ rest) = some (v, rest) := by
  simp only [literals, List.mem_cons, Prod.mk.injEq, List.not_mem_nil, or_false] at h
  rcases h with ⟨rfl, rfl⟩ | ⟨rfl, rfl⟩ | ⟨rfl, rfl⟩ | ⟨rfl, rfl⟩ | ⟨rfl, rfl⟩ | ⟨rfl, rfl⟩ <;> rfl

theorem readAtom_sound {t : List Char} {v : PyJson} {rest : List Char}
    (h : readAtom t = some (v, rest)) : ∃ core, t = core ++ rest ∧ Text v core := by
  rw [readAtom] at h
  split at h
  · rename_i w hw
    cases h
    exact ⟨_, List.takeWhile_append_dropWhile.symm, .number hw⟩
  · obtain ⟨l, hl, hp⟩ := Option.map_eq_some_iff.mp h
    cases hp
    have hprefix : l.1 <+: t := by simpa using List.find?_some hl
    exact ⟨l.1, (List.prefix_append_drop hprefix), .literal (List.mem_of_find?_eq_some hl)⟩

/-! ## Parts separated by commas -/

section Separated

variable {α : Type} {close : Char} {element : List Char → Option (α × List Char)}

/-- One or more parts separated by commas, and the closing character. -/
def readSeparated (close : Char) (element : List Char → Option (α × List Char)) :
    ℕ → List Char → Option (List α × List Char)
  | 0, _ => none
  | n + 1, t =>
    (element t).bind fun p =>
      match p.2 with
      | [] => none
      | c :: rest =>
        if c = close then some ([p.1], rest)
        else if c = ',' then
          (readSeparated close element n rest).map fun q => (p.1 :: q.1, q.2)
        else none

/-- What is between two brackets. -/
def readBracketed (close : Char) (element : List Char → Option (α × List Char)) (n : ℕ)
    (t : List Char) : Option (List α × List Char) :=
  if (skipWs t).head? = some close then some ([], (skipWs t).tail)
  else readSeparated close element n t

theorem readSeparated_complete {parts : List (α × List Char)} (hne : parts ≠ [])
    (hcomma : close ≠ ',')
    (h : ∀ p ∈ parts, ∀ c rest, c = close ∨ c = ',' →
      element (p.2 ++ c :: rest) = some (p.1, c :: rest))
    {n : ℕ} (hn : parts.length ≤ n) (rest : List Char) :
    readSeparated close element n (commas (parts.map Prod.snd) ++ close :: rest) =
      some (parts.map Prod.fst, rest) := by
  induction parts generalizing n with
  | nil => exact absurd rfl hne
  | cons p parts ih =>
    obtain ⟨m, rfl⟩ : ∃ m, n = m + 1 :=
      ⟨n - 1, by rw [List.length_cons] at hn; omega⟩
    have hp := h p List.mem_cons_self
    cases parts with
    | nil =>
      rw [List.map_cons, List.map_nil, commas, readSeparated, hp close rest (Or.inl rfl)]
      simp
    | cons q parts =>
      have ih := ih (by simp) (fun r hr => h r (List.mem_cons_of_mem _ hr))
        (n := m) (by simpa using hn)
      rw [List.map_cons, List.map_cons, commas, ← List.map_cons, List.append_assoc,
        List.cons_append, readSeparated, hp ',' _ (Or.inr rfl)]
      simp only [Option.bind_some, if_neg (Ne.symm hcomma), if_true, ih]
      rfl

theorem readSeparated_sound {n : ℕ} {t : List Char} {values : List α} {rest : List Char}
    (h : readSeparated close element n t = some (values, rest))
    {E : α → List Char → Prop}
    (helement : ∀ t a rest, element t = some (a, rest) → ∃ core, t = core ++ rest ∧ E a core) :
    ∃ parts : List (α × List Char), parts ≠ [] ∧ values = parts.map Prod.fst ∧
      t = commas (parts.map Prod.snd) ++ close :: rest ∧ ∀ p ∈ parts, E p.1 p.2 := by
  induction n generalizing t values with
  | zero => cases h
  | succ n ih =>
    obtain ⟨⟨a, after⟩, ha, hafter⟩ := Option.bind_eq_some_iff.mp h
    obtain ⟨core, ht, hcore⟩ := helement _ _ _ ha
    subst ht
    cases after with
    | nil => cases hafter
    | cons c after =>
      dsimp only at hafter
      split at hafter
      · rename_i hclose
        cases hafter
        exact ⟨[(a, core)], by simp, rfl, by simp [commas, hclose], by simpa using hcore⟩
      · split at hafter
        · rename_i hcomma
          obtain ⟨⟨values', rest'⟩, hread, hp⟩ := Option.map_eq_some_iff.mp hafter
          cases hp
          obtain ⟨parts, hne, rfl, rfl, hparts⟩ := ih hread
          obtain ⟨q, parts, rfl⟩ := List.exists_cons_of_ne_nil hne
          refine ⟨(a, core) :: q :: parts, by simp, rfl, by simp [commas, hcomma], ?_⟩
          rintro p hp
          rcases List.mem_cons.mp hp with rfl | hp
          · exact hcore
          · exact hparts p hp
        · cases hafter

/-- Parts, none of which is empty, are no longer than their text. -/
theorem length_le_commas (ts : List (List Char)) (h : ∀ t ∈ ts, t ≠ []) :
    ts.length ≤ (commas ts).length := by
  induction ts with
  | nil => exact Nat.zero_le _
  | cons t ts ih =>
    have ht := List.length_pos_iff.mpr (h t List.mem_cons_self)
    have ih := ih fun t' ht' => h t' (List.mem_cons_of_mem _ ht')
    cases ts with
    | nil => exact ht
    | cons t' ts =>
      rw [commas, List.length_append, List.length_cons (a := t), List.length_cons (a := ',')]
      omega

/-- A part is no longer than the text. -/
theorem length_le_commas_of_mem {ts : List (List Char)} {t : List Char} (h : t ∈ ts) :
    t.length ≤ (commas ts).length := by
  induction ts with
  | nil => exact absurd h List.not_mem_nil
  | cons t₀ ts ih =>
    cases ts with
    | nil => rw [List.mem_singleton.mp h, commas]
    | cons t' ts =>
      rw [commas, List.length_append, List.length_cons]
      rcases List.mem_cons.mp h with rfl | h
      · omega
      · have ih := ih h
        omega

end Separated

/-! ## Values -/

/-- A part of a list: a value with whitespace around it. -/
def readItem (value : List Char → Option (PyJson × List Char)) (t : List Char) :
    Option (PyJson × List Char) :=
  (value (skipWs t)).map fun p => (p.1, skipWs p.2)

/-- A part of an object: a key, a colon, a value. -/
def readMember (value : List Char → Option (PyJson × List Char)) (t : List Char) :
    Option ((String × PyJson) × List Char) :=
  match skipWs t with
  | [] => none
  | q :: t =>
    if q = '"' then
      (readBody t).bind fun key =>
        match skipWs key.2 with
        | [] => none
        | c :: t =>
          if c = ':' then (readItem value t).map fun p => ((decode key.1, p.1), p.2) else none
    else none

/-- A value, with `n` for the depth and the length of its lists. -/
def readValue : ℕ → List Char → Option (PyJson × List Char)
  | 0, _ => none
  | _ + 1, [] => none
  | n + 1, c :: t =>
    if c = '"' then (readBody t).map fun p => (.str (decode p.1), p.2)
    else if c = '[' then
      (readBracketed ']' (readItem (readValue n)) n t).map fun p => (.list p.1, p.2)
    else if c = '{' then
      (readBracketed '}' (readMember (readValue n)) n t).map fun p =>
        (.dict (pyDict p.1), p.2)
    else readAtom (c :: t)

/-- **The value of a text**, if it is a JSON text. -/
def loads (t : List Char) : Option PyJson :=
  match readItem (readValue t.length) t with
  | some (v, []) => some v
  | _ => none

/-! ### What is read is a text -/

section Sound

variable {value : List Char → Option (PyJson × List Char)}

theorem exists_map_eq {α β : Type} {f : α → β} {P : α → Prop} {bs : List β}
    (h : ∀ b ∈ bs, ∃ a, f a = b ∧ P a) : ∃ as : List α, as.map f = bs ∧ ∀ a ∈ as, P a := by
  induction bs with
  | nil => exact ⟨[], rfl, fun _ h => absurd h List.not_mem_nil⟩
  | cons b bs ih =>
    obtain ⟨a, ha, hP⟩ := h b List.mem_cons_self
    obtain ⟨as, has, hall⟩ := ih fun b hb => h b (List.mem_cons_of_mem _ hb)
    refine ⟨a :: as, by rw [List.map_cons, ha, has], fun a' ha' => ?_⟩
    rcases List.mem_cons.mp ha' with rfl | ha'
    · exact hP
    · exact hall a' ha'

/-- What a reader of values reads is a text of the value. -/
def Reads (value : List Char → Option (PyJson × List Char)) : Prop :=
  ∀ t v rest, value t = some (v, rest) → ∃ core, t = core ++ rest ∧ Text v core

theorem readItem_sound (hvalue : Reads value) {t : List Char} {v : PyJson} {rest : List Char}
    (h : readItem value t = some (v, rest)) :
    ∃ i : Item, t = i.full ++ rest ∧ i.value = v ∧ i.Spaced ∧ Text i.value i.text := by
  obtain ⟨⟨v', rest'⟩, hread, hp⟩ := Option.map_eq_some_iff.mp h
  cases hp
  obtain ⟨core, hcore, htext⟩ := hvalue _ _ _ hread
  obtain ⟨w, hw, ht⟩ := exists_blank_append t
  obtain ⟨w', hw', hrest⟩ := exists_blank_append rest'
  refine ⟨⟨w, v', core, w'⟩, ?_, rfl, ⟨hw, hw'⟩, htext⟩
  dsimp only [Item.full]
  rw [ht, hcore, List.append_assoc, List.append_assoc, ← hrest]

theorem readMember_sound (hvalue : Reads value) {t : List Char} {field : String × PyJson}
    {rest : List Char} (h : readMember value t = some (field, rest)) :
    ∃ m : Member, t = m.full ++ rest ∧ m.field = field ∧ m.Spaced ∧
      Text m.item.value m.item.text := by
  rw [readMember] at h
  split at h
  · cases h
  · rename_i q t' hq
    split at h
    · rename_i hquote
      obtain ⟨⟨units, after⟩, hbody, h'⟩ := Option.bind_eq_some_iff.mp h
      dsimp only at h'
      split at h'
      · cases h'
      · rename_i c t'' hc
        split at h'
        · rename_i hcolon
          obtain ⟨⟨v, rest'⟩, hitem, hp⟩ := Option.map_eq_some_iff.mp h'
          cases hp
          obtain ⟨i, rfl, rfl, hspaced, htext⟩ := readItem_sound hvalue hitem
          obtain ⟨body, rfl, hb⟩ := readBody_sound hbody
          obtain ⟨w, hw, ht⟩ := exists_blank_append t
          obtain ⟨w', hw', hafter⟩ := exists_blank_append after
          refine ⟨⟨w, units, body, w', i⟩, ?_, rfl, ⟨hw, hb, hw', hspaced⟩, htext⟩
          dsimp only [Member.full]
          rw [ht, hq, hafter, hc, hquote, hcolon]
          simp
        · cases h'
    · cases h

theorem readBracketed_sound {α : Type} {close : Char}
    {element : List Char → Option (α × List Char)} {n : ℕ} {t : List Char} {values : List α}
    {rest : List Char} (h : readBracketed close element n t = some (values, rest)) :
    (∃ w, Blank w ∧ t = w ++ close :: rest ∧ values = []) ∨
      readSeparated close element n t = some (values, rest) := by
  rw [readBracketed] at h
  split at h
  · rename_i hhead
    obtain ⟨w, hw, ht⟩ := exists_blank_append t
    obtain ⟨t', ht'⟩ := List.head?_eq_some_iff.mp hhead
    cases h
    refine Or.inl ⟨w, hw, ?_, rfl⟩
    rw [ht', List.tail_cons, ← ht', ← ht]
  · exact Or.inr h

theorem readItems_sound (hvalue : Reads value) {n : ℕ} {t : List Char} {vs : List PyJson}
    {rest : List Char} (h : readBracketed ']' (readItem value) n t = some (vs, rest)) :
    ∃ core, '[' :: t = core ++ rest ∧ Text (.list vs) core := by
  rcases readBracketed_sound h with ⟨w, hw, rfl, rfl⟩ | h
  · exact ⟨_, by simp, .emptyList hw⟩
  · obtain ⟨parts, hne, rfl, rfl, hparts⟩ := readSeparated_sound h
      (E := fun v core => ∃ i : Item, (i.value, i.full) = (v, core) ∧ i.Spaced ∧
        Text i.value i.text) fun t v rest h => by
        obtain ⟨i, rfl, rfl, hi⟩ := readItem_sound hvalue h
        exact ⟨_, rfl, i, rfl, hi⟩
    obtain ⟨items, rfl, hitems⟩ := exists_map_eq hparts
    have htext := Text.list items (by simpa using hne) (fun i hi => (hitems i hi).1)
      fun i hi => (hitems i hi).2
    rw [List.map_map, List.map_map]
    exact ⟨_, by simp [Function.comp_def], htext⟩

theorem readMembers_sound (hvalue : Reads value) {n : ℕ} {t : List Char}
    {fields : List (String × PyJson)} {rest : List Char}
    (h : readBracketed '}' (readMember value) n t = some (fields, rest)) :
    ∃ core, '{' :: t = core ++ rest ∧ Text (.dict (pyDict fields)) core := by
  rcases readBracketed_sound h with ⟨w, hw, rfl, rfl⟩ | h
  · exact ⟨_, by simp, .emptyDict hw⟩
  · obtain ⟨parts, hne, rfl, rfl, hparts⟩ := readSeparated_sound h
      (E := fun f core => ∃ m : Member, (m.field, m.full) = (f, core) ∧ m.Spaced ∧
        Text m.item.value m.item.text) fun t v rest h => by
        obtain ⟨m, rfl, rfl, hm⟩ := readMember_sound hvalue h
        exact ⟨_, rfl, m, rfl, hm⟩
    obtain ⟨members, rfl, hmembers⟩ := exists_map_eq hparts
    have htext := Text.dict members (by simpa using hne) (fun m hm => (hmembers m hm).1)
      fun m hm => (hmembers m hm).2
    rw [List.map_map, List.map_map]
    exact ⟨_, by simp [Function.comp_def], htext⟩

/-- **What is read is a text of the value.** -/
theorem readValue_sound (n : ℕ) : Reads (readValue n) := by
  induction n with
  | zero =>
    intro t v rest h
    cases h
  | succ n ih =>
    intro t v rest h
    cases t with
    | nil => cases h
    | cons c t =>
      rw [readValue] at h
      split at h
      · rename_i hquote
        obtain ⟨⟨units, rest'⟩, hread, hp⟩ := Option.map_eq_some_iff.mp h
        obtain ⟨body, rfl, hbody⟩ := readBody_sound hread
        cases hp
        exact ⟨'"' :: (body ++ ['"']), by rw [hquote]; simp, .string hbody⟩
      split at h
      · rename_i hopen
        obtain ⟨⟨vs, rest'⟩, hread, hp⟩ := Option.map_eq_some_iff.mp h
        cases hp
        exact hopen ▸ readItems_sound ih hread
      split at h
      · rename_i hopen
        obtain ⟨⟨fields, rest'⟩, hread, hp⟩ := Option.map_eq_some_iff.mp h
        cases hp
        exact hopen ▸ readMembers_sound ih hread
      · exact readAtom_sound h

end Sound

/-! ### What is a text is read -/

section Complete

variable {value : List Char → Option (PyJson × List Char)}

/-- The text of the first part, and what follows. -/
theorem commas_cons (t : List Char) (ts : List (List Char)) : ∃ r, commas (t :: ts) = t ++ r := by
  cases ts with
  | nil => exact ⟨[], by simp [commas]⟩
  | cons t' ts => exact ⟨',' :: commas (t' :: ts), rfl⟩

/-- The text of a part starts, after whitespace, with a character that does not
close the brackets. -/
def Opens (close : Char) (t : List Char) : Prop :=
  ∃ (w : List Char) (c : Char) (core : List Char), Blank w ∧ isWs c = false ∧ c ≠ close ∧
    t = w ++ c :: core

theorem Opens.ne_nil {close : Char} {t : List Char} (h : Opens close t) : t ≠ [] := by
  obtain ⟨w, c, core, -, -, -, rfl⟩ := h
  simp

/-- Parts between brackets are read, when each of them is. -/
theorem readBracketed_complete {α : Type} {close : Char}
    (element : List Char → Option (α × List Char)) (parts : List (α × List Char))
    (hne : parts ≠ []) (hcomma : close ≠ ',') (hopens : ∀ p ∈ parts, Opens close p.2)
    (h : ∀ p ∈ parts, ∀ c rest, c = close ∨ c = ',' →
      element (p.2 ++ c :: rest) = some (p.1, c :: rest))
    {n : ℕ} (hn : (commas (parts.map Prod.snd)).length ≤ n) (rest : List Char) :
    readBracketed close element n (commas (parts.map Prod.snd) ++ close :: rest) =
      some (parts.map Prod.fst, rest) := by
  have hlen : parts.length ≤ n := by
    have hcommas := length_le_commas (parts.map Prod.snd) fun t ht => by
      obtain ⟨p, hp, rfl⟩ := List.mem_map.mp ht
      exact (hopens p hp).ne_nil
    rw [List.length_map] at hcommas
    omega
  have hskip : (skipWs (commas (parts.map Prod.snd) ++ close :: rest)).head? ≠ some close := by
    obtain ⟨p, parts, rfl⟩ := List.exists_cons_of_ne_nil hne
    obtain ⟨w, c, core, hw, hc, hclose, hp⟩ := hopens p List.mem_cons_self
    obtain ⟨r, hr⟩ := commas_cons p.2 (parts.map Prod.snd)
    rw [List.map_cons, hr, hp, List.append_assoc, List.append_assoc, skipWs_blank_append hw,
      List.cons_append, skipWs_cons hc, List.head?_cons]
    exact fun h => hclose (Option.some.inj h)
  rw [readBracketed, if_neg hskip]
  exact readSeparated_complete hne hcomma h hlen rest

/-- A text that can be followed by `rest`. -/
def Ends (t rest : List Char) : Prop := (numberValue t).isSome = true → Delimited rest

theorem readItem_complete {i : Item} (hspaced : i.Spaced) (htext : Text i.value i.text)
    {rest : List Char} (hskip : skipWs rest = rest) (hdelim : Delimited rest)
    (hvalue : ∀ rest, Ends i.text rest → value (i.text ++ rest) = some (i.value, rest)) :
    readItem value (i.full ++ rest) = some (i.value, rest) := by
  obtain ⟨c, cs, hc, hws, -⟩ := htext.head
  have hskip' : skipWs (i.full ++ rest) = i.text ++ (i.after ++ rest) := by
    rw [Item.full, List.append_assoc, skipWs_blank_append hspaced.1, List.append_assoc, hc,
      List.cons_append, skipWs_cons hws]
  rw [readItem, hskip', hvalue _ fun _ => delimited_blank_append hspaced.2 hdelim,
    Option.map_some, skipWs_blank_append hspaced.2, hskip]

theorem readMember_complete {m : Member} (hspaced : m.Spaced)
    (htext : Text m.item.value m.item.text) {rest : List Char} (hskip : skipWs rest = rest)
    (hdelim : Delimited rest)
    (hvalue : ∀ rest, Ends m.item.text rest →
      value (m.item.text ++ rest) = some (m.item.value, rest)) :
    readMember value (m.full ++ rest) = some (m.field, rest) := by
  obtain ⟨hbefore, hbody, hafter, hitem⟩ := hspaced
  have hquote : skipWs (m.full ++ rest) =
      '"' :: (m.body ++ '"' :: (m.after ++ ':' :: (m.item.full ++ rest))) := by
    rw [Member.full, List.append_assoc, skipWs_blank_append hbefore, List.cons_append,
      skipWs_cons (by decide)]
    simp
  have hcolon : skipWs (m.after ++ ':' :: (m.item.full ++ rest)) =
      ':' :: (m.item.full ++ rest) := by
    rw [skipWs_blank_append hafter, skipWs_cons (by decide)]
  rw [readMember, hquote]
  simp only [if_true, readBody_complete hbody, Option.bind_some, hcolon,
    readItem_complete hitem htext hskip hdelim hvalue]
  rfl

/-- What can come after a part. -/
theorem skipWs_and_delimited {c close : Char} (hclose : close = ']' ∨ close = '}')
    (hc : c = close ∨ c = ',') (rest : List Char) :
    skipWs (c :: rest) = c :: rest ∧ Delimited (c :: rest) := by
  rcases hclose with rfl | rfl <;> rcases hc with rfl | rfl <;>
    exact ⟨skipWs_cons (by decide) rest, delimited_cons (by decide) rest⟩

/-- Where neither a string nor a list nor an object starts, an atom is read. -/
theorem readValue_atom {c : Char} (hquote : c ≠ '"') (hlist : c ≠ '[') (hdict : c ≠ '{') (n : ℕ)
    (t : List Char) : readValue (n + 1) (c :: t) = readAtom (c :: t) := by
  rw [readValue, if_neg hquote, if_neg hlist, if_neg hdict]

/-- **What is a text of the value is read**, whatever follows it. -/
theorem Text.readValue {v : PyJson} {t : List Char} (h : Text v t) {n : ℕ} (hn : t.length ≤ n)
    {rest : List Char} (hrest : Ends t rest) : Json.readValue n (t ++ rest) = some (v, rest) := by
  induction h generalizing n rest with
  | @literal t v h =>
    obtain ⟨c, cs, hc, -⟩ := (Text.literal h).head
    have hstart : c ≠ '"' ∧ c ≠ '[' ∧ c ≠ '{' := by
      simp only [literals, List.mem_cons, Prod.mk.injEq, List.not_mem_nil, or_false, hc,
        List.cons.injEq] at h
      rcases h with ⟨h, -⟩ | ⟨h, -⟩ | ⟨h, -⟩ | ⟨h, -⟩ | ⟨h, -⟩ | ⟨h, -⟩ <;> rw [h.1] <;> decide
    obtain ⟨m, rfl⟩ : ∃ m, n = m + 1 := ⟨n - 1, by rw [hc, List.length_cons] at hn; omega⟩
    rw [← readAtom_literal h, hc, List.cons_append,
      readValue_atom hstart.1 hstart.2.1 hstart.2.2]
  | @number t v h =>
    obtain ⟨c, cs, rfl⟩ := List.exists_cons_of_ne_nil (numberValue_ne_nil h)
    have hc := isNumberChar_of_numberValue h c List.mem_cons_self
    have hne (d : Char) (hd : isNumberChar d = false) : c ≠ d := by
      rintro rfl
      exact Bool.false_ne_true (hd.symm.trans hc)
    obtain ⟨m, rfl⟩ : ∃ m, n = m + 1 := ⟨n - 1, by rw [List.length_cons] at hn; omega⟩
    rw [← readAtom_number h (hrest (by rw [h]; rfl)), List.cons_append,
      readValue_atom (hne _ (by decide)) (hne _ (by decide)) (hne _ (by decide))]
  | string h =>
    obtain ⟨m, rfl⟩ : ∃ m, n = m + 1 := ⟨n - 1, by rw [List.length_cons] at hn; omega⟩
    rw [List.cons_append, List.append_assoc, List.cons_append, List.nil_append, Json.readValue,
      if_pos rfl, readBody_complete h]
    rfl
  | emptyList hw =>
    obtain ⟨m, rfl⟩ : ∃ m, n = m + 1 := ⟨n - 1, by rw [List.length_cons] at hn; omega⟩
    have hskip := skipWs_blank_append hw (t := ']' :: rest)
    rw [skipWs_cons (by decide)] at hskip
    rw [List.cons_append, List.append_assoc, List.cons_append, List.nil_append, Json.readValue,
      if_neg (by decide), if_pos rfl, readBracketed, hskip]
    rfl
  | emptyDict hw =>
    obtain ⟨m, rfl⟩ : ∃ m, n = m + 1 := ⟨n - 1, by rw [List.length_cons] at hn; omega⟩
    have hskip := skipWs_blank_append hw (t := '}' :: rest)
    rw [skipWs_cons (by decide)] at hskip
    rw [List.cons_append, List.append_assoc, List.cons_append, List.nil_append, Json.readValue,
      if_neg (by decide), if_neg (by decide), if_pos rfl, readBracketed, hskip]
    rfl
  | list items hne hspaced htext ih =>
    obtain ⟨m, rfl⟩ : ∃ m, n = m + 1 := ⟨n - 1, by rw [List.length_cons] at hn; omega⟩
    have hlen : (commas (items.map Item.full)).length ≤ m := by
      simp only [List.length_cons, List.length_append] at hn
      omega
    have hread := @readBracketed_complete _ ']' (readItem (Json.readValue m))
      (items.map fun i => (i.value, i.full)) (by simpa using hne) (by decide) ?_ ?_ m ?_ rest
    · simp only [List.map_map, Function.comp_def] at hread
      rw [List.cons_append, List.append_assoc, List.cons_append, List.nil_append, Json.readValue,
        if_neg (by decide), if_pos rfl, hread]
      rfl
    · intro p hp
      obtain ⟨i, hi, rfl⟩ := List.mem_map.mp hp
      obtain ⟨c, cs, hc, hws, hclose⟩ := (htext i hi).head
      exact ⟨i.before, c, cs ++ i.after, (hspaced i hi).1, hws, hclose, by rw [Item.full, hc]; rfl⟩
    · intro p hp c rest' hc
      obtain ⟨i, hi, rfl⟩ := List.mem_map.mp hp
      have hafter := skipWs_and_delimited (Or.inl rfl) hc rest'
      refine readItem_complete (hspaced i hi) (htext i hi) hafter.1 hafter.2 fun rest hrest =>
        ih i hi ?_ hrest
      have hle := length_le_commas_of_mem (List.mem_map_of_mem (f := Item.full) hi)
      simp only [Item.full, List.length_append] at hle
      omega
    · simpa [Function.comp_def] using hlen
  | dict members hne hspaced htext ih =>
    obtain ⟨m, rfl⟩ : ∃ m, n = m + 1 := ⟨n - 1, by rw [List.length_cons] at hn; omega⟩
    have hlen : (commas (members.map Member.full)).length ≤ m := by
      simp only [List.length_cons, List.length_append] at hn
      omega
    have hread := @readBracketed_complete _ '}' (readMember (Json.readValue m))
      (members.map fun i => (i.field, i.full)) (by simpa using hne) (by decide) ?_ ?_ m ?_ rest
    · simp only [List.map_map, Function.comp_def] at hread
      rw [List.cons_append, List.append_assoc, List.cons_append, List.nil_append, Json.readValue,
        if_neg (by decide), if_neg (by decide), if_pos rfl, hread]
      rfl
    · intro p hp
      obtain ⟨i, hi, rfl⟩ := List.mem_map.mp hp
      exact ⟨i.before, '"', _, (hspaced i hi).1, by decide, by decide, rfl⟩
    · intro p hp c rest' hc
      obtain ⟨i, hi, rfl⟩ := List.mem_map.mp hp
      have hafter := skipWs_and_delimited (Or.inr rfl) hc rest'
      refine readMember_complete (hspaced i hi) (htext i hi) hafter.1 hafter.2 fun rest hrest =>
        ih i hi ?_ hrest
      have hle := length_le_commas_of_mem (List.mem_map_of_mem (f := Member.full) hi)
      simp only [Member.full, Item.full, List.length_append, List.length_cons] at hle
      omega
    · simpa [Function.comp_def] using hlen

end Complete

/-! ## Documents -/

/-- **`loads` reads the documents**, and nothing else. -/
theorem loads_eq_some_iff {t : List Char} {v : PyJson} : loads t = some v ↔ Document v t := by
  constructor
  · intro h
    rw [loads] at h
    split at h
    · rename_i w hread
      cases h
      obtain ⟨i, ht, rfl, hspaced, htext⟩ := readItem_sound (readValue_sound _) hread
      exact ⟨i.before, i.text, i.after, hspaced.1, hspaced.2, by rw [ht, List.append_nil]; rfl,
        htext⟩
    · cases h
  · rintro ⟨w, core, w', hw, hw', rfl, htext⟩
    have hlen : core.length ≤ (w ++ (core ++ w')).length := by
      simp only [List.length_append]
      omega
    have hread : readItem (readValue (w ++ (core ++ w')).length) (w ++ (core ++ w')) =
        some (v, []) := by
      have h : readItem (readValue (w ++ (core ++ w')).length)
          (Item.full ⟨w, v, core, w'⟩ ++ []) = some (v, []) :=
        readItem_complete ⟨hw, hw'⟩ htext rfl delimited_nil
          fun rest hrest => htext.readValue hlen hrest
      rwa [List.append_nil] at h
    rw [loads, hread]

/-- A text is a text of one value. -/
theorem Document.unique {v v' : PyJson} {t : List Char} (h : Document v t) (h' : Document v' t) :
    v = v' :=
  Option.some.inj ((loads_eq_some_iff.mpr h).symm.trans (loads_eq_some_iff.mpr h'))

/-- **No text is the beginning of another one**, with numbers aside: where two
texts start at the same place, they end at the same place. -/
theorem Text.append_inj {v v' : PyJson} {t t' rest rest' : List Char} (h : Text v t)
    (h' : Text v' t') (hrest : Ends t rest) (hrest' : Ends t' rest')
    (heq : t ++ rest = t' ++ rest') : rest = rest' := by
  have hread := h.readValue (n := max t.length t'.length) (Nat.le_max_left _ _) hrest
  have hread' := h'.readValue (n := max t.length t'.length) (Nat.le_max_right _ _) hrest'
  rw [heq, hread'] at hread
  exact (Prod.mk.inj (Option.some.inj hread)).2.symm

/-- What starts with a bracket is no number, so anything can follow it. -/
theorem ends_of_head {c : Char} (hc : isNumberChar c = false) (t rest : List Char) :
    Ends (c :: t) rest := by
  intro h
  obtain ⟨v, hv⟩ := Option.isSome_iff_exists.mp h
  exact absurd (hc.symm.trans (isNumberChar_of_numberValue hv c List.mem_cons_self)) (by decide)

/-- Of two documents that start at the same place, the texts do, too. -/
theorem Document.cores {v v' : PyJson} {t r : List Char} (h : Document v t)
    (h' : Document v' (t ++ r)) : ∃ core core' w w' : List Char, Text v core ∧
      Text v' core' ∧ Blank w' ∧ core ++ (w ++ r) = core' ++ w' := by
  obtain ⟨a, core, w, ha, -, rfl, htext⟩ := h
  obtain ⟨a', core', w', ha', hw', heq, htext'⟩ := h'
  refine ⟨core, core', w, w', htext, htext', hw', ?_⟩
  have hskip := congrArg skipWs heq
  obtain ⟨c, cs, rfl, hc, -⟩ := htext.head
  obtain ⟨c', cs', rfl, hc', -⟩ := htext'.head
  rwa [List.append_assoc, List.append_assoc, skipWs_blank_append ha,
    skipWs_blank_append ha', List.cons_append, List.cons_append, skipWs_cons hc,
    skipWs_cons hc'] at hskip

/-- **A document that begins an object is that object.** -/
theorem Document.eq_of_append {v : PyJson} {fields : List (String × PyJson)} {t r : List Char}
    (h : Document v t) (h' : Document (.dict fields) (t ++ r)) : v = .dict fields := by
  obtain ⟨core, core', w, w', htext, htext', -, heq⟩ := h.cores h'
  obtain ⟨cs', rfl⟩ := htext'.dict_brace
  obtain ⟨c, cs, rfl, -⟩ := htext.head
  obtain rfl : c = '{' := (List.cons.inj heq).1
  have hrest : w ++ r = w' :=
    htext.append_inj htext' (ends_of_head rfl _ _) (ends_of_head rfl _ _) heq
  rw [hrest] at heq
  have hcore := List.append_cancel_right heq
  exact Document.unique htext.document (hcore ▸ htext'.document)

/-- **No list is the beginning of another one**: of two documents of lists, stripped,
what the longer one adds is whitespace. -/
theorem Document.space_of_append {vs vs' : List PyJson} {p q : List Char}
    (h : Document (.list vs) (pyStripChars p)) (h' : Document (.list vs') (pyStripChars (p ++ q))) :
    ∀ c ∈ q, isPySpace c = true := by
  obtain ⟨a, core, b, rfl, ha, -, htext⟩ := h.list_core
  obtain ⟨a', core', b', heq, ha', hb', htext'⟩ := h'.list_core
  obtain ⟨cs, rfl⟩ := htext.list_brackets
  obtain ⟨cs', rfl⟩ := htext'.list_brackets
  have hdrop := congrArg (List.dropWhile isPySpace) heq
  rw [List.append_assoc, List.append_assoc, List.dropWhile_append_of_pos ha,
    List.dropWhile_append_of_pos ha', List.cons_append, List.cons_append,
    List.dropWhile_cons_of_neg (by decide), List.dropWhile_cons_of_neg (by decide)] at hdrop
  have hrest : b ++ q = b' :=
    htext.append_inj htext' (ends_of_head rfl _ _) (ends_of_head rfl _ _) hdrop
  exact fun c hc => hb' c (hrest ▸ List.mem_append_right b hc)

/-- A value that needs nothing of its reader: there is no number in it, and no more than `n`
lists and objects are inside each other. -/
inductive Modest : ℕ → PyJson → Prop where
  | none (n : ℕ) : Modest n .none
  | bool (n : ℕ) (b : Bool) : Modest n (.bool b)
  | str (n : ℕ) (s : String) : Modest n (.str s)
  | list {n : ℕ} {vs : List PyJson} (h : ∀ v ∈ vs, Modest n v) : Modest (n + 1) (.list vs)
  | dict {n : ℕ} {fields : List (String × PyJson)} (h : ∀ f ∈ fields, Modest n f.2) :
      Modest (n + 1) (.dict fields)

end Json

namespace PythonText

/-- `json.loads` accepts nothing but JSON texts, and reads their value. -/
def LoadsOnlyJson (py : PythonText) : Prop :=
  ∀ t v, py.loads t = .ok v → Json.Document v t.toList

/-- And it accepts the JSON texts, where neither the depth of a value nor the digits of a number
can be too much for it. -/
structure LoadsJson (py : PythonText) : Prop where
  only : py.LoadsOnlyJson
  modest : ∀ t v, Json.Modest 100 v → Json.Document v t.toList → py.loads t = .ok v

end PythonText
