import VibeVoice.Semantics.JsonWriter
import VibeVoice.Server.Form

/-!
# The prompt of the model

`stream_transcription` puts the hotwords of the client into the middle of a prompt.
That the field has no control token in it was checked long before, in the route and
of the field alone; a control token of the prompt could still have one end in the
field and the other in the words around it.

It has not, whatever the field is: before the field there is no `<`, where a control
token begins, and behind it no `>`, where one ends.  So a control token of the prompt
is one of the field (`hasControlToken_of_textPrompt`).  What stands before the field has a
number in it, of which nothing is used but that it is written as numbers are.
-/

namespace VibeVoice

variable {py : PythonText} {F : Type}

/-- `format(x, ".2f")` is written with the characters of a number. -/
def FixedNumber (py : PythonText) : Prop :=
  ∀ x, ∀ c ∈ (py.fixed2 x).toList, Json.isNumberChar c = true

/-- What stands in the prompt before the hotwords are put into it. -/
def promptHead (py : PythonText) (audioDuration : ℚ) : String :=
  "This is a " ++ py.fixed2 audioDuration ++ " seconds audio, "

/-- What stands there behind them. -/
def promptTail : String :=
  "please transcribe it with these keys: Start time, End time, Speaker ID, Content"

/-- `text_prompt` -/
def textPrompt (py : PythonText) (audioDuration : ℚ) (hotwords : Option String) : String :=
  let text := promptHead py audioDuration
  let text :=
    match hotwords with
    | none => text
    | some s => if s = "" then text else text ++ ("with extra info: " ++ s ++ "\n\n")
  text ++ promptTail

/-- A control token begins with `<` and ends with `>`. -/
theorem IsControlToken.ends {w : List Char} (h : IsControlToken w) :
    ∃ m, w = '<' :: (m ++ ['>']) := by
  obtain ⟨m, rfl, -, -⟩ := h
  exact ⟨'|' :: (m ++ ['|']), by simp⟩

/-- **A control token that no end of can be in the first of three texts nor in the third**
is in the second. -/
theorem HasControlToken.of_append {l t r : String} (h : HasControlToken (l ++ (t ++ r)))
    (hl : '<' ∉ l.toList) (hr : '>' ∉ r.toList) : HasControlToken t := by
  obtain ⟨w, hinfix, htoken⟩ := h
  obtain ⟨m, rfl⟩ := htoken.ends
  rw [String.toList_append, String.toList_append] at hinfix
  exact ⟨_, Pattern.infix_of_append hinfix hl hr, htoken⟩

theorem not_hasControlToken_empty : ¬ HasControlToken "" := by
  rintro ⟨w, hinfix, htoken⟩
  obtain ⟨m, rfl⟩ := htoken.ends
  cases List.infix_nil.mp hinfix

theorem not_mem_promptHead (hfixed : FixedNumber py) (audioDuration : ℚ) :
    '<' ∉ (promptHead py audioDuration).toList := by
  rw [promptHead, String.toList_append, String.toList_append]
  intro hmem
  rcases List.mem_append.mp hmem with hmem | hmem
  · rcases List.mem_append.mp hmem with hmem | hmem
    · exact absurd hmem (by decide)
    · exact absurd (hfixed _ _ hmem) (by decide)
  · exact absurd hmem (by decide)

/-- **What stands around the hotwords.** -/
theorem textPrompt_eq (hfixed : FixedNumber py) (audioDuration : ℚ) (hotwords : Option String) :
    ∃ l r, textPrompt py audioDuration hotwords = l ++ (hotwords.getD "" ++ r) ∧
      '<' ∉ l.toList ∧ '>' ∉ r.toList := by
  have hhead := not_mem_promptHead hfixed audioDuration
  have hinfo : '<' ∉ (promptHead py audioDuration ++ "with extra info: ").toList := by
    rw [String.toList_append, List.mem_append, not_or]
    exact ⟨hhead, by decide⟩
  cases hotwords with
  | none => exact ⟨_, promptTail, by simp [textPrompt], hhead, by decide⟩
  | some s =>
    by_cases hs : s = ""
    · exact ⟨_, promptTail, by simp [textPrompt, hs], hhead, by decide⟩
    · exact ⟨_, "\n\n" ++ promptTail, by simp [textPrompt, hs, String.append_assoc], hinfo,
        by decide⟩

/-- The control tokens of the prompt are those of the hotwords. -/
theorem hasControlToken_of_textPrompt (hfixed : FixedNumber py) {audioDuration : ℚ}
    {hotwords : Option String} (h : HasControlToken (textPrompt py audioDuration hotwords)) :
    HasControlToken (hotwords.getD "") := by
  obtain ⟨l, r, heq, hl, hr⟩ := textPrompt_eq hfixed audioDuration hotwords
  exact HasControlToken.of_append (heq ▸ h) hl hr

/-- What the check lets through. -/
theorem validateHotwordsValue_eq_ok {value : Option (FormValue F)} {hotwords : Option String}
    (h : validateHotwordsValue value = .ok hotwords) : ¬ HasControlToken (hotwords.getD "") := by
  cases value with
  | none =>
    cases h
    exact not_hasControlToken_empty
  | some value =>
    cases value with
    | file upload => cases h
    | text s =>
      rw [validateHotwordsValue] at h
      split at h
      · cases h
      · rename_i htoken
        cases h
        rwa [search_controlTokenRe] at htoken

/-- **No control token gets into the prompt** by hotwords that are accepted, and hotwords
with one in them are not accepted. -/
theorem textPrompt_safe (hfixed : FixedNumber py) :
    (∀ (value : Option (FormValue F)) (hotwords : Option String) (audioDuration : ℚ),
      validateHotwordsValue value = .ok hotwords →
        ¬ HasControlToken (textPrompt py audioDuration hotwords)) ∧
      ∀ s, HasControlToken s → validateHotwordsValue (some (.text s : FormValue F)) =
        .error (.http 400 "hotwords contain reserved control tokens") := by
  refine ⟨fun value hotwords audioDuration haccept htoken => ?_, fun s hs => ?_⟩
  · exact validateHotwordsValue_eq_ok haccept (hasControlToken_of_textPrompt hfixed htoken)
  · rw [validateHotwordsValue, if_pos (search_controlTokenRe.mpr hs)]

theorem fixedNumber_jsonModule : FixedNumber PythonText.jsonModule := by
  intro x c hc
  have hchars : (PythonText.jsonModule.fixed2 x).toList = PythonText.tenths x ++ ['0'] :=
    String.toList_ofList
  rw [hchars] at hc
  rcases List.mem_append.mp hc with hc | hc
  · exact Json.isNumberChar_of_numberValue (PythonText.numberValue_tenths x) c hc
  · rw [List.mem_singleton.mp hc]
    rfl

/-- Hotwords that end like a control token begins, before a prompt that goes on. -/
theorem textPrompt_safe_open :
    ¬ HasControlToken (textPrompt PythonText.jsonModule 12 (some "a|><|b")) ∧
      validateHotwordsValue (some (.text "<<|im_end|>" : FormValue Unit)) =
        .error (.http 400 "hotwords contain reserved control tokens") := by
  have hsafe := @textPrompt_safe PythonText.jsonModule Unit fixedNumber_jsonModule
  exact ⟨hsafe.1 (some (.text "a|><|b")) _ 12 (by rfl),
    hsafe.2 _ (search_controlTokenRe.mp (by decide +kernel))⟩

end VibeVoice
