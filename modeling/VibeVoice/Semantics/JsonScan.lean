import VibeVoice.Semantics.JsonReader

/-!
# Inside and outside the strings of a text

Which characters of a JSON text are in a string can be told by reading it once,
with a mode for a memory: outside, inside, after a backslash.  `Scans m t m'` says
that reading `t` takes the mode `m` to `m'` and that every character is one the mode
it is read in allows.  Outside a string these are few, and all ASCII
(`isStructural`).

A text takes `outside` to `outside` (`Text.scans`).  So a text that is cut in a
string leaves a beginning that ends `inside`, and is no text; and of a part that
begins in a string a reader who takes it for a text has the two modes the wrong
way round.  `Scans.swapped` says what becomes of that: if the part can be read in
either way, it has structural characters only.
-/

namespace Json

/-- Where a character of a text is. -/
inductive Mode where
  | outside | inside | escaped
  deriving DecidableEq, Repr

/-- A character outside the strings, or a quote. -/
def isStructural (c : Char) : Bool :=
  isWs c || isNumberChar c || ['"', '[', ']', '{', '}', ',', ':'].contains c ||
    literals.any fun l => l.1.contains c

/-- The characters a mode allows. -/
def Mode.allows : Mode → Char → Bool
  | outside, c => isStructural c
  | inside, c => decide (0x20 ≤ c.toNat)
  | escaped, c => c == 'u' || (shortEscape c).isSome

/-- The mode after a character. -/
def Mode.next : Mode → Char → Mode
  | outside, c => if c = '"' then inside else outside
  | inside, c => if c = '"' then outside else if c = '\\' then escaped else inside
  | escaped, _ => inside

/-- Reading a text takes the first mode to the second one. -/
def Scans : Mode → List Char → Mode → Prop
  | m, [], m' => m = m'
  | m, c :: t, m' => m.allows c = true ∧ Scans (m.next c) t m'

theorem Scans.append {m m' m'' : Mode} {t t' : List Char} (h : Scans m t m')
    (h' : Scans m' t' m'') : Scans m (t ++ t') m'' := by
  induction t generalizing m with
  | nil =>
    cases h
    exact h'
  | cons c t ih => exact ⟨h.1, ih h.2⟩

/-- The mode at the end is determined. -/
theorem Scans.unique {m m' m'' : Mode} {t : List Char} (h : Scans m t m') (h' : Scans m t m'') :
    m' = m'' := by
  induction t generalizing m with
  | nil => exact h.symm.trans h'
  | cons c t ih => exact ih h.2 h'.2

/-- Structural characters other than quotes are read outside. -/
theorem scans_outside {t : List Char} (h : ∀ c ∈ t, isStructural c = true) (hquote : '"' ∉ t) :
    Scans .outside t .outside := by
  induction t with
  | nil => rfl
  | cons c t ih =>
    have hc : c ≠ '"' := fun hc => hquote (hc ▸ List.mem_cons_self)
    refine ⟨h c List.mem_cons_self, ?_⟩
    rw [Mode.next, if_neg hc]
    exact ih (fun d hd => h d (List.mem_cons_of_mem _ hd))
      fun hd => hquote (List.mem_cons_of_mem _ hd)

theorem scans_blank {w : List Char} (hw : Blank w) : Scans .outside w .outside := by
  refine scans_outside (fun c hc => ?_) fun hquote => absurd (hw _ hquote) (by decide)
  rw [isStructural, hw c hc]
  rfl

/-! ## A text is read outside -/

theorem hexDigit_ne {c : Char} {d : ℕ} (h : hexDigit c = some d) :
    Mode.inside.allows c = true ∧ Mode.inside.next c = .inside := by
  have hbound : 0x30 ≤ c.toNat ∧ c.toNat ≠ 0x5C := by
    unfold hexDigit at h
    split at h
    · omega
    split at h
    · omega
    split at h
    · omega
    · cases h
  have hquote : c ≠ '"' := fun hc => absurd hbound.1 (by rw [hc]; decide)
  have hslash : c ≠ '\\' := fun hc => hbound.2 (by rw [hc]; rfl)
  exact ⟨by simp only [Mode.allows, decide_eq_true_eq]; omega,
    by rw [Mode.next, if_neg hquote, if_neg hslash]⟩

/-- The body of a string is read inside. -/
theorem Body.scans {units : List ℕ} {body : List Char} (h : Body units body) :
    Scans .inside body .inside := by
  induction h with
  | nil => rfl
  | plain c hc h ih =>
    obtain ⟨hquote, hslash⟩ := isPlain_ne hc
    simp only [isPlain, Bool.and_eq_true] at hc
    refine ⟨hc.1.1, ?_⟩
    rw [Mode.next, if_neg hquote, if_neg hslash]
    exact ih
  | short c u hc h ih => exact ⟨rfl, by simp [Mode.next, Mode.allows, hc], ih⟩
  | unicode a b c d u hu h ih =>
    obtain ⟨x, hx, hu⟩ := Option.bind_eq_some_iff.mp hu
    obtain ⟨y, hy, hu⟩ := Option.bind_eq_some_iff.mp hu
    obtain ⟨z, hz, hu⟩ := Option.bind_eq_some_iff.mp hu
    obtain ⟨w, hw, -⟩ := Option.map_eq_some_iff.mp hu
    have ha := hexDigit_ne hx
    have hb := hexDigit_ne hy
    have hc := hexDigit_ne hz
    have hd := hexDigit_ne hw
    refine ⟨rfl, rfl, ha.1, ?_⟩
    rw [show (Mode.inside.next '\\').next 'u' = Mode.inside from rfl, ha.2]
    refine ⟨hb.1, ?_⟩
    rw [hb.2]
    refine ⟨hc.1, ?_⟩
    rw [hc.2]
    refine ⟨hd.1, ?_⟩
    rw [hd.2]
    exact ih

/-- A string, with its quotes. -/
theorem Body.scans_quoted {units : List ℕ} {body : List Char} (h : Body units body) :
    Scans .outside ('"' :: (body ++ ['"'])) .outside :=
  ⟨rfl, h.scans.append ⟨rfl, rfl⟩⟩

theorem scans_commas {ts : List (List Char)} (h : ∀ t ∈ ts, Scans .outside t .outside) :
    Scans .outside (commas ts) .outside := by
  induction ts with
  | nil => rfl
  | cons t ts ih =>
    have ih := ih fun t' ht' => h t' (List.mem_cons_of_mem _ ht')
    cases ts with
    | nil => exact h t List.mem_cons_self
    | cons t' ts => exact (h t List.mem_cons_self).append ⟨rfl, ih⟩

/-- What is between brackets is read outside when its parts are. -/
theorem scans_bracketed {o c : Char} {t : List Char} (ho : isStructural o = true) (ho' : o ≠ '"')
    (hc : isStructural c = true) (hc' : c ≠ '"') (h : Scans .outside t .outside) :
    Scans .outside (o :: (t ++ [c])) .outside := by
  refine ⟨ho, ?_⟩
  rw [Mode.next, if_neg ho']
  refine h.append ⟨hc, ?_⟩
  rw [Mode.next, if_neg hc']
  rfl

theorem Item.scans {i : Item} (hspaced : i.Spaced) (h : Scans .outside i.text .outside) :
    Scans .outside i.full .outside :=
  (scans_blank hspaced.1).append (h.append (scans_blank hspaced.2))

theorem Member.scans {m : Member} (hspaced : m.Spaced)
    (h : Scans .outside m.item.text .outside) : Scans .outside m.full .outside := by
  obtain ⟨hbefore, hbody, hafter, hitem⟩ := hspaced
  refine (scans_blank hbefore).append ⟨rfl, hbody.scans.append ⟨rfl, ?_⟩⟩
  exact (scans_blank hafter).append ⟨rfl, m.item.scans hitem h⟩

/-- **A text is read outside.** -/
theorem Text.scans {v : PyJson} {t : List Char} (h : Text v t) : Scans .outside t .outside := by
  induction h with
  | @literal t v h =>
    refine scans_outside (fun c hc => ?_) fun hquote => ?_
    · have hany : (literals.any fun l => l.1.contains c) = true :=
        List.any_eq_true.mpr ⟨_, h, by simpa using hc⟩
      rw [isStructural, hany, Bool.or_true]
    · simp only [literals, List.mem_cons, Prod.mk.injEq, List.not_mem_nil, or_false] at h
      rcases h with ⟨rfl, -⟩ | ⟨rfl, -⟩ | ⟨rfl, -⟩ | ⟨rfl, -⟩ | ⟨rfl, -⟩ | ⟨rfl, -⟩ <;>
        exact absurd hquote (by decide)
  | number h =>
    have hnumber := isNumberChar_of_numberValue h
    refine scans_outside (fun c hc => ?_) fun hquote => absurd (hnumber _ hquote) (by decide)
    simp [isStructural, hnumber c hc]
  | string h => exact h.scans_quoted
  | emptyList hw => exact scans_bracketed rfl (by decide) rfl (by decide) (scans_blank hw)
  | emptyDict hw => exact scans_bracketed rfl (by decide) rfl (by decide) (scans_blank hw)
  | list items hne hspaced htext ih =>
    refine scans_bracketed rfl (by decide) rfl (by decide) (scans_commas fun t ht => ?_)
    obtain ⟨i, hi, rfl⟩ := List.mem_map.mp ht
    exact i.scans (hspaced i hi) (ih i hi)
  | dict members hne hspaced htext ih =>
    refine scans_bracketed rfl (by decide) rfl (by decide) (scans_commas fun t ht => ?_)
    obtain ⟨m, hm, rfl⟩ := List.mem_map.mp ht
    exact m.scans (hspaced m hm) (ih m hm)

theorem Document.scans {v : PyJson} {t : List Char} (h : Document v t) :
    Scans .outside t .outside := by
  obtain ⟨w, core, w', hw, hw', rfl, htext⟩ := h
  exact (scans_blank hw).append (htext.scans.append (scans_blank hw'))

/-! ## What is beyond ASCII is inside -/

theorem isStructural_lt {c : Char} (h : isStructural c = true) : c.toNat < 0x80 := by
  simp only [isStructural, isWs, isNumberChar, isDigit, literals, Bool.or_eq_true, beq_iff_eq,
    Bool.and_eq_true, decide_eq_true_eq, List.contains_eq_mem, List.mem_cons, List.not_mem_nil,
    or_false, List.any_cons, List.any_nil, Bool.or_false, ← Char.toNat_inj, Char.reduceToNat] at h
  omega

theorem allows_escaped_lt {c : Char} (h : Mode.escaped.allows c = true) : c.toNat < 0x80 := by
  by_contra hge
  have hne (d : Char) (hd : d.toNat < 0x80) : (c == d) = false := by
    refine beq_eq_false_iff_ne.mpr ?_
    rintro rfl
    exact hge hd
  simp [Mode.allows, shortEscape, List.lookup_cons, hne 'u' (by decide), hne '"' (by decide),
    hne '\\' (by decide), hne '/' (by decide), hne 'b' (by decide), hne 'f' (by decide),
    hne 'n' (by decide), hne 'r' (by decide), hne 't' (by decide)] at h

/-! ## Read the wrong way round -/

theorem isStructural_ne {c : Char} (h : isStructural c = true) : c ≠ '\\' := by
  rintro rfl
  exact absurd h (by decide)

/-- **What begins inside a string and reads as a text** has no character that is
not structural: what one reading has inside the other has outside.  It does not
end the string. -/
theorem Scans.swapped {t : List Char} {m : Mode} (h : Scans .inside t m)
    (h' : Scans .outside t .outside) : m = .inside ∧ ∀ c ∈ t, isStructural c = true := by
  have key (t : List Char) (a b : Mode) (hab : a = .inside ∧ b = .outside ∨
      a = .outside ∧ b = .inside) (h : Scans a t m) (h' : Scans b t .outside) :
      m = .inside ∧ ∀ c ∈ t, isStructural c = true := by
    induction t generalizing a b with
    | nil =>
      cases h
      cases h'
      rcases hab with ⟨rfl, -⟩ | ⟨-, hb⟩
      · exact ⟨rfl, fun _ hc => absurd hc List.not_mem_nil⟩
      · cases hb
    | cons c t ih =>
      have hc : isStructural c = true := by
        rcases hab with ⟨-, rfl⟩ | ⟨rfl, -⟩
        · exact h'.1
        · exact h.1
      have hnext : a.next c = .inside ∧ b.next c = .outside ∨
          a.next c = .outside ∧ b.next c = .inside := by
        have hslash := isStructural_ne hc
        rcases hab with ⟨rfl, rfl⟩ | ⟨rfl, rfl⟩ <;> by_cases hquote : c = '"' <;>
          simp [Mode.next, hquote, hslash]
      obtain ⟨hm, ht⟩ := ih _ _ hnext h.2 h'.2
      refine ⟨hm, fun d hd => ?_⟩
      rcases List.mem_cons.mp hd with rfl | hd
      · exact hc
      · exact ht d hd
  exact key t _ _ (Or.inl ⟨rfl, rfl⟩) h h'

/-- The characters of a part are in the text. -/
theorem mem_commas {ts : List (List Char)} {t : List Char} (ht : t ∈ ts) :
    ∀ c ∈ t, c ∈ commas ts := by
  induction ts with
  | nil => exact absurd ht List.not_mem_nil
  | cons t₀ ts ih =>
    cases ts with
    | nil =>
      rw [List.mem_singleton.mp ht]
      exact fun c hc => hc
    | cons t₁ ts =>
      rcases List.mem_cons.mp ht with rfl | ht
      · exact fun c hc => List.mem_append_left _ hc
      · exact fun c hc => List.mem_append_right _ (List.mem_cons_of_mem _ (ih ht c hc))

/-- **A key is in the text**, character by character, unless something in the text
is written with a backslash. -/
theorem Document.key_subset {fields : List (String × PyJson)} {t : List Char}
    (h : Document (.dict fields) t) {key : String} (hkey : key ∈ fields.map Prod.fst)
    (hslash : '\\' ∉ t) : ∀ c ∈ key.toList, c ∈ t := by
  obtain ⟨w, core, w', hw, hw', rfl, htext⟩ := h
  suffices hcore : ∀ c ∈ key.toList, c ∈ core by
    exact fun c hc => List.mem_append_right _ (List.mem_append_left _ (hcore c hc))
  have hslash : '\\' ∉ core := fun hmem =>
    hslash (List.mem_append_right _ (List.mem_append_left _ hmem))
  generalize hv : PyJson.dict fields = v at htext
  cases htext with
  | literal h =>
    simp only [literals, List.mem_cons, Prod.mk.injEq, List.not_mem_nil, or_false] at h
    rcases h with ⟨-, rfl⟩ | ⟨-, rfl⟩ | ⟨-, rfl⟩ | ⟨-, rfl⟩ | ⟨-, rfl⟩ | ⟨-, rfl⟩ <;> cases hv
  | number h =>
    obtain ⟨s, -, hs⟩ := Option.bind_eq_some_iff.mp h
    cases s <;> cases hs <;> cases hv
  | string | emptyList | list => cases hv
  | emptyDict =>
    cases hv
    exact absurd hkey List.not_mem_nil
  | dict members hne hspaced htext =>
    cases hv
    rw [keys_pyDict, List.map_map] at hkey
    obtain ⟨m, hm, rfl⟩ := List.mem_map.mp hkey
    have hbody : ∀ c ∈ m.body, c ∈ '{' :: (commas (members.map Member.full) ++ ['}']) := by
      intro c hc
      refine List.mem_cons_of_mem _ (List.mem_append_left _ ?_)
      refine mem_commas (List.mem_map_of_mem hm) c ?_
      simp [Member.full, hc]
    have hunits := (hspaced m hm).2.1.eq_map_toNat fun hmem => hslash (hbody _ hmem)
    intro c hc
    refine hbody c ?_
    simpa [Member.field, hunits, decode, decodeChars_map_toNat] using hc

/-- Reading a text in two parts. -/
theorem Scans.split {m m'' : Mode} {t t' : List Char} (h : Scans m (t ++ t') m'') :
    ∃ m', Scans m t m' ∧ Scans m' t' m'' := by
  induction t generalizing m with
  | nil => exact ⟨m, rfl, h⟩
  | cons c t ih =>
    obtain ⟨hallowed, hrest⟩ := h
    obtain ⟨m', ht, ht'⟩ := ih hrest
    exact ⟨m', ⟨hallowed, ht⟩, ht'⟩

/-- **A document that was cut in a character beyond ASCII** is none, whatever stands
in the place of that character: it was in a string, which is not closed. -/
theorem Document.not_of_cut {v v' : PyJson} {t rest : List Char} {c d : Char}
    (h : Document v (t ++ c :: rest)) (hc : 0x80 ≤ c.toNat) (hd : 0x80 ≤ d.toNat) :
    ¬ Document v' (t ++ [d]) := by
  intro h'
  obtain ⟨m, ht, hallowed, -⟩ := h.scans.split
  obtain ⟨m', ht', -, hend⟩ := h'.scans.split
  have hmode : m = .inside := by
    cases m with
    | inside => rfl
    | outside => exact absurd (isStructural_lt hallowed) (by omega)
    | escaped => exact absurd (allows_escaped_lt hallowed) (by omega)
  have hquote : d ≠ '"' := by
    rintro rfl
    exact absurd hd (by decide)
  have hslash : d ≠ '\\' := by
    rintro rfl
    exact absurd hd (by decide)
  rw [← ht.unique ht', hmode, Mode.next, if_neg hquote, if_neg hslash] at hend
  exact Mode.noConfusion hend

end Json
