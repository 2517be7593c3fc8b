import VibeVoice.Semantics.Pattern
import VibeVoice.Server.Upload

/-!
# The form of a request

`_extract_transcribe_form` of `routes/transcribe.py` walks over the items of the
parsed form and stops at the first it does not like.  What it accepts can be said
without the walk (`FormGrammar`): one file under `audio`, at most one text under
`hotwords`, which has no control token in it, and nothing under another name.
`extractTranscribeForm_spec` compares the two.

The walk keeps two slots, and for each a flag that it has been seen.  The same is
true of both: what a slot has in the end, it had in the beginning or found, once,
under its name (`Filled`).  That no order is left in this is what makes the walk
independent of it.

What a file is is not looked at, so it is a parameter.
-/

namespace VibeVoice

/-! ## Control tokens -/

/-- `_CONTROL_TOKEN_RE`, which is `<\|[^>\r\n]{1,128}\|>`. -/
def controlTokenRe : List (Pattern.Piece Char) :=
  [.one (· == '<'), .one (· == '|'), ⟨fun c => !(c == '>' || c == '\r' || c == '\n'), 1, 128⟩,
    .one (· == '|'), .one (· == '>')]

/-- A text that begins with `<|` and ends with `|>`, with 1 to 128 characters between them
and no `>` and no line break among these. -/
def IsControlToken (w : List Char) : Prop :=
  ∃ m, w = '<' :: '|' :: (m ++ ['|', '>']) ∧ (1 ≤ m.length ∧ m.length ≤ 128) ∧
    ∀ c ∈ m, c ≠ '>' ∧ c ≠ '\r' ∧ c ≠ '\n'

theorem matches_controlTokenRe {w : List Char} :
    Pattern.Matches controlTokenRe w ↔ IsControlToken w := by
  have hclass (c : Char) : (!(c == '>' || c == '\r' || c == '\n')) = true ↔
      c ≠ '>' ∧ c ≠ '\r' ∧ c ≠ '\n' := by
    simp [and_assoc]
  have hclose (v : List Char) :
      Pattern.Matches [.one (· == '|'), .one (· == '>')] v ↔ v = ['|', '>'] := by
    simp only [Pattern.matches_one_cons, beq_iff_eq]
    simp [Pattern.Matches]
  simp only [controlTokenRe, Pattern.matches_one_cons, beq_iff_eq]
  constructor
  · rintro ⟨_, v, rfl, rfl, _, v, rfl, rfl, m, v, rfl, ⟨hlen, hm⟩, hv⟩
    exact ⟨m, (hclose v).mp hv ▸ rfl, hlen, fun c hc => (hclass c).mp (hm c hc)⟩
  · rintro ⟨m, rfl, hlen, hm⟩
    exact ⟨'<', _, rfl, rfl, '|', _, rfl, rfl, m, _, rfl,
      ⟨hlen, fun c hc => (hclass c).mpr (hm c hc)⟩, (hclose _).mpr rfl⟩

/-- There is a control token somewhere in the text. -/
def HasControlToken (s : String) : Prop := ∃ w, w <:+: s.toList ∧ IsControlToken w

/-- `_CONTROL_TOKEN_RE.search(value)` -/
theorem search_controlTokenRe {s : String} :
    Pattern.search controlTokenRe s.toList = true ↔ HasControlToken s := by
  rw [Pattern.search_eq_true_iff]
  exact exists_congr fun w => and_congr_right fun _ => matches_controlTokenRe

/-! ## The source -/

variable {F : Type}

/-- The value of an item of a form. -/
inductive FormValue (F : Type) where
  | text (s : String) : FormValue F
  /-- An `UploadFile` -/
  | file (upload : F) : FormValue F

/-- `_validate_hotwords_value` -/
def validateHotwordsValue : Option (FormValue F) → Reply (Option String)
  | none => .ok none
  | some (.file _) => .error (.http 400 "hotwords must be a text field")
  | some (.text s) =>
    if Pattern.search controlTokenRe s.toList then
      .error (.http 400 "hotwords contain reserved control tokens")
    else .ok (some s)

/-- The variables of `_extract_transcribe_form`. -/
structure FormFields (F : Type) where
  audio : Option F := none
  hotwords : Option String := none
  seenAudio : Bool := false
  seenHotwords : Bool := false

/-- The body of its loop. -/
def FormFields.read (fields : FormFields F) (item : String × FormValue F) :
    Reply (FormFields F) :=
  if item.1 = "audio" then
    if fields.seenAudio then .error (.http 400 "Duplicate audio field")
    else
      match item.2 with
      | .text _ => .error (.http 400 "audio must be a file field")
      | .file upload => .ok { fields with seenAudio := true, audio := some upload }
  else if item.1 = "hotwords" then
    if fields.seenHotwords then .error (.http 400 "Duplicate hotwords field")
    else
      match validateHotwordsValue (some item.2) with
      | .error e => .error e
      | .ok hotwords => .ok { fields with seenHotwords := true, hotwords := hotwords }
  else .error (.http 400 ("Unexpected form field: " ++ item.1))

/-- `_extract_transcribe_form` -/
def extractTranscribeForm (items : List (String × FormValue F)) : Reply (F × Option String) :=
  match items.foldlM FormFields.read {} with
  | .error e => .error e
  | .ok fields =>
    match fields.audio with
    | none => .error (.http 400 "Audio file is required")
    | some audio => .ok (audio, fields.hotwords)

/-! ## What it accepts -/

/-- The values under a name. -/
def valuesOf (name : String) (items : List (String × FormValue F)) : List (FormValue F) :=
  (items.filter fun item => item.1 = name).map Prod.snd

/-- **The grammar of the form.** -/
structure FormGrammar (items : List (String × FormValue F)) (audio : F)
    (hotwords : Option String) : Prop where
  oneAudio : valuesOf "audio" items = [.file audio]
  oneHotwords : valuesOf "hotwords" items = (hotwords.map .text).toList
  safe : ∀ s ∈ hotwords, ¬ HasControlToken s
  names : ∀ item ∈ items, item.1 = "audio" ∨ item.1 = "hotwords"

theorem valuesOf_cons_self (name : String) (value : FormValue F)
    (items : List (String × FormValue F)) :
    valuesOf name ((name, value) :: items) = value :: valuesOf name items := by
  simp [valuesOf]

theorem valuesOf_cons_of_ne {name other : String} (h : other ≠ name) (value : FormValue F)
    (items : List (String × FormValue F)) :
    valuesOf name ((other, value) :: items) = valuesOf name items := by
  simp [valuesOf, h]

/-- A grammar does not know the order of the items. -/
theorem FormGrammar.perm {items items' : List (String × FormValue F)} {audio : F}
    {hotwords : Option String} (h : FormGrammar items audio hotwords)
    (hperm : items.Perm items') : FormGrammar items' audio hotwords where
  oneAudio := by
    have hvalues : (valuesOf "audio" items').Perm [.file audio] :=
      h.oneAudio ▸ ((hperm.filter _).map _).symm
    exact List.perm_singleton.mp hvalues
  oneHotwords := by
    have hvalues : (valuesOf "hotwords" items').Perm (hotwords.map .text).toList :=
      h.oneHotwords ▸ ((hperm.filter _).map _).symm
    cases hotwords with
    | none => exact List.perm_nil.mp hvalues
    | some s => exact List.perm_singleton.mp hvalues
  safe := h.safe
  names item hitem := h.names item (hperm.mem_iff.mpr hitem)

/-! ## A slot -/

/-- **What a slot has in the end**: `seen` and `before` are what it had, `found` is what
comes under its name, and `take` is what is made of a value, if it is a good one. -/
inductive Filled {α β : Type} (take : α → Option β) (seen : Bool) (before : Option β) :
    List α → Option β → Prop where
  | kept : Filled take seen before [] before
  | taken {value : α} {b : β} (hseen : seen = false) (h : take value = some b) :
      Filled take seen before [value] (some b)

/-- What is under the name comes first, or it is the only one. -/
theorem Filled.cons_iff {α β : Type} {take : α → Option β} {seen : Bool} {before : Option β}
    {value : α} {found : List α} {after : Option β} :
    Filled take seen before (value :: found) after ↔
      seen = false ∧ ∃ b, take value = some b ∧ Filled take true (some b) found after := by
  constructor
  · intro h
    cases h with
    | taken hseen h => exact ⟨hseen, _, h, .kept⟩
  · rintro ⟨hseen, b, hb, h⟩
    cases h with
    | kept => exact .taken hseen hb
    | taken hseen => cases hseen

/-- The file under `audio`. -/
def takeAudio : FormValue F → Option F
  | .text _ => none
  | .file upload => some upload

/-- The text under `hotwords`. -/
def takeHotwords : FormValue F → Option String
  | .text s => if Pattern.search controlTokenRe s.toList then none else some s
  | .file _ => none

/-- What the slots have in the end of the items, and that these have no other name. -/
structure FormFields.Ends (fields : FormFields F) (items : List (String × FormValue F))
    (audio : Option F) (hotwords : Option String) : Prop where
  audioSlot : Filled takeAudio fields.seenAudio fields.audio (valuesOf "audio" items) audio
  hotwordsSlot : Filled takeHotwords fields.seenHotwords fields.hotwords
    (valuesOf "hotwords" items) hotwords
  names : ∀ item ∈ items, item.1 = "audio" ∨ item.1 = "hotwords"

theorem FormFields.read_audio {fields fields' : FormFields F} {value : FormValue F} :
    fields.read ("audio", value) = .ok fields' ↔ fields.seenAudio = false ∧
      ∃ upload, takeAudio value = some upload ∧
        fields' = { fields with seenAudio := true, audio := some upload } := by
  cases hseen : fields.seenAudio <;> cases value <;>
    simp [FormFields.read, takeAudio, hseen, eq_comm]

theorem FormFields.read_hotwords {fields fields' : FormFields F} {value : FormValue F} :
    fields.read ("hotwords", value) = .ok fields' ↔ fields.seenHotwords = false ∧
      ∃ s, takeHotwords value = some s ∧
        fields' = { fields with seenHotwords := true, hotwords := some s } := by
  cases hseen : fields.seenHotwords with
  | true => simp [FormFields.read, hseen]
  | false =>
    cases value with
    | file upload => simp [FormFields.read, validateHotwordsValue, takeHotwords, hseen]
    | text s =>
      cases htoken : Pattern.search controlTokenRe s.toList <;>
        simp [FormFields.read, validateHotwordsValue, takeHotwords, hseen, htoken, eq_comm]

/-- **One item**: it is read, and the others follow. -/
theorem FormFields.ends_cons_iff {fields : FormFields F} {item : String × FormValue F}
    {items : List (String × FormValue F)} {audio : Option F} {hotwords : Option String} :
    fields.Ends (item :: items) audio hotwords ↔
      ∃ fields', fields.read item = .ok fields' ∧ fields'.Ends items audio hotwords := by
  obtain ⟨name, value⟩ := item
  have hnames : (∀ item ∈ (name, value) :: items, item.1 = "audio" ∨ item.1 = "hotwords") ↔
      (name = "audio" ∨ name = "hotwords") ∧
        ∀ item ∈ items, item.1 = "audio" ∨ item.1 = "hotwords" := List.forall_mem_cons
  by_cases haudio : name = "audio"
  · subst haudio
    have hne : "audio" ≠ "hotwords" := by decide
    constructor
    · rintro ⟨haudio, hhotwords, hall⟩
      rw [valuesOf_cons_self, Filled.cons_iff] at haudio
      rw [valuesOf_cons_of_ne hne] at hhotwords
      obtain ⟨hseen, upload, htake, hrest⟩ := haudio
      exact ⟨_, read_audio.mpr ⟨hseen, upload, htake, rfl⟩, hrest, hhotwords, (hnames.mp hall).2⟩
    · rintro ⟨fields', hread, haudio, hhotwords, hall⟩
      obtain ⟨hseen, upload, htake, rfl⟩ := read_audio.mp hread
      refine ⟨?_, ?_, hnames.mpr ⟨Or.inl rfl, hall⟩⟩
      · rw [valuesOf_cons_self, Filled.cons_iff]
        exact ⟨hseen, upload, htake, haudio⟩
      · rw [valuesOf_cons_of_ne hne]
        exact hhotwords
  · by_cases hhotwords : name = "hotwords"
    · subst hhotwords
      have hne : "hotwords" ≠ "audio" := by decide
      constructor
      · rintro ⟨haudio, hhotwords, hall⟩
        rw [valuesOf_cons_self, Filled.cons_iff] at hhotwords
        rw [valuesOf_cons_of_ne hne] at haudio
        obtain ⟨hseen, s, htake, hrest⟩ := hhotwords
        exact ⟨_, read_hotwords.mpr ⟨hseen, s, htake, rfl⟩, haudio, hrest, (hnames.mp hall).2⟩
      · rintro ⟨fields', hread, haudio, hhotwords, hall⟩
        obtain ⟨hseen, s, htake, rfl⟩ := read_hotwords.mp hread
        refine ⟨?_, ?_, hnames.mpr ⟨Or.inr rfl, hall⟩⟩
        · rw [valuesOf_cons_of_ne hne]
          exact haudio
        · rw [valuesOf_cons_self, Filled.cons_iff]
          exact ⟨hseen, s, htake, hhotwords⟩
    · refine iff_of_false (fun h => ?_) fun ⟨fields', hread, _⟩ => ?_
      · exact (h.names _ List.mem_cons_self).elim haudio hhotwords
      · simp [FormFields.read, haudio, hhotwords] at hread

/-- **The walk**: the slots have in the end what they can have. -/
theorem FormFields.foldlM_read_iff {items : List (String × FormValue F)} {audio : Option F}
    {hotwords : Option String} {fields : FormFields F} :
    fields.Ends items audio hotwords ↔
      ∃ fields', items.foldlM FormFields.read fields = .ok fields' ∧ fields'.audio = audio ∧
        fields'.hotwords = hotwords := by
  induction items generalizing fields with
  | nil =>
    constructor
    · rintro ⟨haudio, hhotwords, -⟩
      cases haudio
      cases hhotwords
      exact ⟨fields, rfl, rfl, rfl⟩
    · rintro ⟨fields', hfold, rfl, rfl⟩
      cases hfold
      exact ⟨.kept, .kept, by simp⟩
  | cons item items ih =>
    rw [ends_cons_iff, List.foldlM_cons]
    constructor
    · rintro ⟨fields', hread, hends⟩
      rw [hread]
      exact ih.mp hends
    · rintro ⟨fields', hfold, hslots⟩
      cases hread : fields.read item with
      | error e =>
        rw [hread] at hfold
        cases hfold
      | ok next =>
        rw [hread] at hfold
        exact ⟨next, rfl, ih.mpr ⟨fields', hfold, hslots⟩⟩

theorem takeAudio_eq_some {value : FormValue F} {upload : F} :
    takeAudio value = some upload ↔ value = .file upload := by
  cases value <;> simp [takeAudio]

theorem takeHotwords_eq_some {value : FormValue F} {s : String} :
    takeHotwords value = some s ↔ value = .text s ∧ ¬ HasControlToken s := by
  cases value with
  | file upload => simp [takeHotwords]
  | text t =>
    rw [takeHotwords, ← search_controlTokenRe]
    by_cases htoken : Pattern.search controlTokenRe t.toList = true
    · rw [if_pos htoken]
      refine iff_of_false (by simp) fun ⟨hvalue, hnot⟩ => ?_
      cases hvalue
      exact hnot htoken
    · rw [if_neg htoken, Option.some.injEq, FormValue.text.injEq]
      exact ⟨fun h => ⟨h, h ▸ htoken⟩, fun h => h.1⟩

/-- What the slots have in the end of the walk, when it begins with none. -/
theorem FormFields.ends_empty_iff {items : List (String × FormValue F)} {audio : F}
    {hotwords : Option String} :
    ({} : FormFields F).Ends items (some audio) hotwords ↔ FormGrammar items audio hotwords := by
  constructor
  · rintro ⟨haudio, hhotwords, hnames⟩
    have honeAudio : valuesOf "audio" items = [.file audio] := by
      generalize valuesOf "audio" items = values at haudio
      cases haudio with
      | taken _ h => rw [takeAudio_eq_some.mp h]
    generalize hvalues : valuesOf "hotwords" items = values at hhotwords
    cases hhotwords with
    | kept => exact ⟨honeAudio, hvalues, by simp, hnames⟩
    | taken _ h =>
      obtain ⟨rfl, hsafe⟩ := takeHotwords_eq_some.mp h
      exact ⟨honeAudio, hvalues, by simpa using hsafe, hnames⟩
  · rintro ⟨haudio, hhotwords, hsafe, hnames⟩
    refine ⟨haudio ▸ .taken rfl rfl, ?_, hnames⟩
    cases hotwords with
    | none => exact hhotwords ▸ .kept
    | some s => exact hhotwords ▸ .taken rfl (takeHotwords_eq_some.mpr ⟨rfl, hsafe s rfl⟩)

/-- What is accepted. -/
theorem extractTranscribeForm_eq_ok_iff {items : List (String × FormValue F)} {audio : F}
    {hotwords : Option String} : extractTranscribeForm items = .ok (audio, hotwords) ↔
      FormGrammar items audio hotwords := by
  rw [← FormFields.ends_empty_iff, FormFields.foldlM_read_iff, extractTranscribeForm]
  cases items.foldlM FormFields.read {} with
  | error e => simp
  | ok fields =>
    cases haudio : fields.audio with
    | none => simp [haudio]
    | some upload => simp [haudio]

theorem validateHotwordsValue_error {value : Option (FormValue F)} {e : RequestError}
    (h : validateHotwordsValue value = .error e) : ∃ detail, e = .http 400 detail := by
  unfold validateHotwordsValue at h
  split at h
  · cases h
  · cases h
    exact ⟨_, rfl⟩
  · split at h
    · cases h
      exact ⟨_, rfl⟩
    · cases h

/-- An item that is not read is refused with a 400. -/
theorem FormFields.read_error {fields : FormFields F} {item : String × FormValue F}
    {e : RequestError} (h : fields.read item = .error e) : ∃ detail, e = .http 400 detail := by
  unfold FormFields.read at h
  split at h
  · split at h
    · cases h
      exact ⟨_, rfl⟩
    · split at h
      · cases h
        exact ⟨_, rfl⟩
      · cases h
  · split at h
    · split at h
      · cases h
        exact ⟨_, rfl⟩
      · split at h
        · rename_i hvalue
          cases h
          exact validateHotwordsValue_error hvalue
        · cases h
    · cases h
      exact ⟨_, rfl⟩

theorem FormFields.foldlM_read_error {items : List (String × FormValue F)}
    {fields : FormFields F} {e : RequestError}
    (h : items.foldlM FormFields.read fields = .error e) : ∃ detail, e = .http 400 detail := by
  induction items generalizing fields with
  | nil => cases h
  | cons item items ih =>
    rw [List.foldlM_cons] at h
    cases hread : fields.read item with
    | error e' =>
      rw [hread] at h
      cases h
      exact read_error hread
    | ok fields' =>
      rw [hread] at h
      exact ih h

/-- **Every other form is refused with a 400.** -/
theorem extractTranscribeForm_error {items : List (String × FormValue F)} {e : RequestError}
    (h : extractTranscribeForm items = .error e) : ∃ detail, e = .http 400 detail := by
  unfold extractTranscribeForm at h
  split at h
  · rename_i hfold
    cases h
    exact FormFields.foldlM_read_error hfold
  · split at h
    · cases h
      exact ⟨_, rfl⟩
    · cases h

/-- **What a form is taken for**: what the grammar says, in whatever order its items are, and
a 400 when it says nothing. -/
theorem extractTranscribeForm_spec (items : List (String × FormValue F)) :
    (∀ audio hotwords, extractTranscribeForm items = .ok (audio, hotwords) ↔
        FormGrammar items audio hotwords) ∧
      ((¬ ∃ audio hotwords, FormGrammar items audio hotwords) →
        ∃ detail, extractTranscribeForm items = .error (.http 400 detail)) ∧
      ∀ items', items.Perm items' → ∀ audio hotwords,
        extractTranscribeForm items = .ok (audio, hotwords) ↔
          extractTranscribeForm items' = .ok (audio, hotwords) := by
  refine ⟨fun _ _ => extractTranscribeForm_eq_ok_iff, fun hnot => ?_,
    fun items' hperm audio hotwords => ?_⟩
  · cases hresult : extractTranscribeForm items with
    | ok result => exact absurd ⟨_, _, extractTranscribeForm_eq_ok_iff.mp hresult⟩ hnot
    | error e =>
      obtain ⟨detail, rfl⟩ := extractTranscribeForm_error hresult
      exact ⟨detail, rfl⟩
  · rw [extractTranscribeForm_eq_ok_iff, extractTranscribeForm_eq_ok_iff]
    exact ⟨fun h => h.perm hperm, fun h => h.perm hperm.symm⟩

/-- A form that has its text first, and the same form with its text last. -/
theorem extractTranscribeForm_swapped :
    extractTranscribeForm [("hotwords", .text "Yuval"), ("audio", .file 7)] =
        .ok (7, some "Yuval") ∧
      extractTranscribeForm [("audio", .file 7), ("hotwords", .text "Yuval")] =
        .ok (7, some "Yuval") := by
  have hspec := extractTranscribeForm_spec [("hotwords", .text "Yuval"), ("audio", .file 7)]
  have hsafe : ¬ HasControlToken "Yuval" := fun htoken =>
    absurd (search_controlTokenRe.mpr htoken) (by decide +kernel)
  have hfirst : FormGrammar [("hotwords", .text "Yuval"), ("audio", .file 7)] 7 (some "Yuval") :=
    ⟨rfl, rfl, by simpa using hsafe, by simp⟩
  have hok := (hspec.1 7 (some "Yuval")).mpr hfirst
  exact ⟨hok, (hspec.2.2 _ (List.Perm.swap _ _ _) 7 (some "Yuval")).mp hok⟩

end VibeVoice
