import VibeVoice.Semantics.JsonScan
import VibeVoice.Semantics.JsonWriter
import VibeVoice.Semantics.PyLines
import VibeVoice.Semantics.Utf8
import VibeVoice.Server.Transcribe

/-!
# The model's stream

`server/vllm_client.py`: what `stream_transcription` yields for a response.  The
request it sends is not modelled, and neither is when the parts of the body
arrive: `aiter_lines` yields the lines of the body, which are those of
`str.splitlines`, whatever it arrived in.

## Lines that are not JSON

A line that `json.loads` refuses with a `JSONDecodeError` is skipped, and what else it
raises ends the generator.  So it matters that the two sides
agree about where a line ends, and they do not: `str.splitlines` also ends one at
U+0085, U+2028 and U+2029, and in a JSON text these three can stand in a string
as they are.  `deltas_delivered_iff` is the whole of it: a stream comes out as it
went in exactly when none of its texts has one of the three.

That a text which has one is lost, and not read some other way, rests on where
the cut is.  It is in a string, so the first piece is no text: it ends inside.  Of
the other pieces a reader has inside and outside the wrong way round, and what he
reads as a key is made of punctuation (`Json.Scans.swapped`).
-/

namespace VibeVoice

/-! ## What the subscripts and tests of the source do -/

/-- A float is zero: its digits are, or it is too small to be another one. -/
def floatIsZero (text : String) : Bool :=
  let mantissa := text.toList.takeWhile fun c => !(c == 'e' || c == 'E')
  let exponent := (text.toList.dropWhile fun c => !(c == 'e' || c == 'E')).drop 1
  let digits := mantissa.filter Json.isDigit
  let fraction := ((mantissa.dropWhile (· != '.')).filter Json.isDigit).length
  let power : ℤ := Json.intValue (exponent.filter (· != '+')) - fraction
  !digits.isEmpty && decide ((Json.natValue digits : ℚ) * 10 ^ power * 2 ^ 1075 ≤ 1)

/-- `bool(value)` -/
def pyTruth : PyJson → Bool
  | .none => false
  | .bool b => b
  | .int n => n != 0
  | .float text => !floatIsZero text
  | .str s => s != ""
  | .list items => !items.isEmpty
  | .dict fields => !fields.isEmpty

/-- `key in value` -/
def pyContains (key : String) : PyJson → Except PyException Bool
  | .dict fields => .ok (fields.any fun field => field.1 = key)
  | .list items =>
    .ok (items.any fun item => match item with | .str s => s = key | _ => false)
  | .str s => .ok (s.toList.tails.any fun t => key.toList.isPrefixOf t)
  | value => .error ⟨"TypeError", "argument of type '" ++ value.typeName ++ "' is not iterable"⟩

/-- `value[key]` -/
def pyGetItem (key : String) : PyJson → Except PyException PyJson
  | .dict fields =>
    match fields.lookup key with
    | some value => .ok value
    | none => .error ⟨"KeyError", "'" ++ key ++ "'"⟩
  | .list _ => .error ⟨"TypeError", "list indices must be integers or slices, not str"⟩
  | .str _ => .error ⟨"TypeError", "string indices must be integers, not 'str'"⟩
  | value => .error ⟨"TypeError", "'" ++ value.typeName ++ "' object is not subscriptable"⟩

/-- `value[0]` -/
def pyGetFirst : PyJson → Except PyException PyJson
  | .list (item :: _) => .ok item
  | .list [] => .error ⟨"IndexError", "list index out of range"⟩
  | .str s =>
    match s.toList with
    | c :: _ => .ok (.str (String.ofList [c]))
    | [] => .error ⟨"IndexError", "string index out of range"⟩
  | .dict _ => .error ⟨"KeyError", "0"⟩
  | value => .error ⟨"TypeError", "'" ++ value.typeName ++ "' object is not subscriptable"⟩

/-! ## `stream_transcription` -/

/-- From `if "choices" not in data …` to `if text`: what is yielded, if anything. -/
def chunkText (data : PyJson) : Except PyException (Option PyJson) :=
  (pyContains "choices" data).bind fun hasChoices =>
  if !hasChoices then .ok none
  else
    (pyGetItem "choices" data).bind fun choices =>
    if !pyTruth choices then .ok none
    else
      (pyGetFirst choices).bind fun choice =>
      (pyContains "delta" choice).bind fun hasDelta =>
      if !hasDelta then .ok none
      else
        (pyGetItem "delta" choice).bind fun delta =>
        (pyContains "content" delta).bind fun hasContent =>
        if !hasContent then .ok none
        else
          (pyGetItem "content" delta).bind fun text =>
          .ok (if pyTruth text then some text else none)

/-- What the loop does with a line. -/
inductive LineEffect where
  /-- `continue`, or nothing to yield -/
  | skip : LineEffect
  | yields (text : PyJson) : LineEffect
  /-- `return` -/
  | done : LineEffect
  | raises (exc : PyException) : LineEffect

/-- `"data: "` -/
def dataPrefix : List Char := ['d', 'a', 't', 'a', ':', ' ']

/-- `"[DONE]"` -/
def doneText : List Char := ['[', 'D', 'O', 'N', 'E', ']']

/-- The body of `async for line in response.aiter_lines()`. -/
def readLine (py : PythonText) (line : List Char) : LineEffect :=
  if !dataPrefix.isPrefixOf line then .skip
  else if pyStripChars (line.drop dataPrefix.length) = doneText then .done
  else
    match py.loads (String.ofList (line.drop dataPrefix.length)) with
    | .error (.decode _) => .skip
    | .error (.other typeName text) => .raises ⟨typeName, text⟩
    | .ok data =>
      match chunkText data with
      | .error exc => .raises exc
      | .ok none => .skip
      | .ok (some text) => .yields text

/-- The loop: what it yields, and the exception that ends it, if one does. -/
def streamLines (py : PythonText) : List (List Char) → List PyJson × Option PyException
  | [] => ([], none)
  | line :: lines =>
    match readLine py line with
    | .skip => streamLines py lines
    | .yields text => (text :: (streamLines py lines).1, (streamLines py lines).2)
    | .done => ([], none)
    | .raises exc => ([], some exc)

/-- `stream_transcription`, from the response on. -/
def streamTranscription (py : PythonText) (statusCode : ℕ) (body : List UInt8) :
    List PyJson × Option PyException :=
  if statusCode ≠ 200 then
    ([], some (runtimeError ("vLLM error " ++ toString statusCode ++ ": " ++
      String.ofList (Utf8.decode body))))
  else streamLines py (splitlines (Utf8.decode body))

/-- What `process_vibevoice_job` is resumed with for a string that is yielded. -/
def chunkEvent : PyJson → Option StreamEvent
  | .str text => some (.chunk text)
  | _ => none

/-- What `process_vibevoice_job` is resumed with for the end of the generator. -/
def endEvent : Option PyException → StreamEvent
  | none => .finished
  | some exc => .raised exc

/-- What `process_vibevoice_job` is resumed with, one after the other, when what is
yielded are strings. -/
def streamEvents (result : List PyJson × Option PyException) : Option (List StreamEvent) :=
  (result.1.mapM chunkEvent).map (· ++ [endEvent result.2])

/-- `process_vibevoice_job`, resumed with one event after the other: the job, and
where the coroutine is. -/
def resumeAll (py : PythonText) : VibevoiceFrame → TranscriptionJob → List StreamEvent →
    TranscriptionJob × Progress VibevoiceFrame PyException
  | frame, job, [] => (job, .await frame)
  | frame, job, event :: events =>
    let result := vibevoiceResume py frame (.value event) job
    match result.2 with
    | .await frame => resumeAll py frame (job.applyEffects result.1) events
    | .ended outcome => (job.applyEffects result.1, .ended outcome)

/-! ## Lines that yield nothing -/

section Mute

variable {py : PythonText}

/-- A line of which nothing is yielded. -/
def Mute (py : PythonText) (line : List Char) : Prop := ∀ text, readLine py line ≠ .yields text

/-- What a line is of which something is yielded. -/
theorem readLine_eq_yields {line : List Char} {text : PyJson}
    (h : readLine py line = .yields text) : ∃ t data, line = dataPrefix ++ t ∧
      py.loads (String.ofList t) = .ok data ∧ chunkText data = .ok (some text) := by
  unfold readLine at h
  split at h
  · cases h
  rename_i hprefix
  split at h
  · cases h
  split at h
  · cases h
  · cases h
  rename_i data hdata
  split at h
  · cases h
  · cases h
  · rename_i text' htext
    cases h
    have hline : dataPrefix <+: line := by simpa using hprefix
    exact ⟨_, data, (List.prefix_append_drop hline).symm ▸ rfl, hdata, htext⟩

/-- What is yielded is the content of an object with choices. -/
theorem chunkText_eq_some {data text : PyJson} (h : chunkText data = .ok (some text)) :
    ∃ fields, data = .dict fields ∧ "choices" ∈ fields.map Prod.fst := by
  cases data with
  | dict fields =>
    refine ⟨fields, rfl, ?_⟩
    simp only [chunkText, pyContains, Except.bind] at h
    split at h
    · cases h
    · rename_i hany
      rw [Bool.not_eq_true', Bool.not_eq_false] at hany
      obtain ⟨field, hfield, hkey⟩ := List.any_eq_true.mp hany
      exact of_decide_eq_true hkey ▸ List.mem_map_of_mem hfield
  | list | str =>
    simp only [chunkText, pyContains, pyGetItem, Except.bind] at h
    split at h <;> cases h
  | none | bool | int | float => cases h

theorem mute_nil : Mute py [] := fun text h => by
  obtain ⟨t, data, hline, -⟩ := readLine_eq_yields h
  cases hline

/-- **A beginning that ends in a string** yields nothing. -/
theorem mute_begun (hloads : py.LoadsOnlyJson) {t : List Char}
    (h : Json.Scans .outside t .inside) : Mute py (dataPrefix ++ t) := by
  intro text hread
  obtain ⟨t', data, hline, hdata, -⟩ := readLine_eq_yields hread
  obtain rfl := List.append_cancel_left hline
  have hdoc := hloads _ _ hdata
  rw [String.toList_ofList] at hdoc
  cases h.unique hdoc.scans

/-- **A piece that begins in a string** yields nothing. -/
theorem mute_inside (hloads : py.LoadsOnlyJson) {line : List Char} {m : Json.Mode}
    (h : Json.Scans .inside line m) : Mute py line := by
  intro text hread
  obtain ⟨t, data, rfl, hdata, htext⟩ := readLine_eq_yields hread
  obtain ⟨fields, rfl, hkey⟩ := chunkText_eq_some htext
  have hdoc := hloads _ _ hdata
  rw [String.toList_ofList] at hdoc
  have hscan : Json.Scans .inside t m := h.2.2.2.2.2.2
  have hstructural := (hscan.swapped hdoc.scans).2
  have hslash : '\\' ∉ t := fun hmem => Json.isStructural_ne (hstructural _ hmem) rfl
  have hc : 'c' ∈ t := hdoc.key_subset hkey hslash 'c' (by decide)
  exact absurd (hstructural _ hc) (by decide)

/-- A character that ends a line, and is none of the control characters, is in a string. -/
theorem inside_of_isLineEnd {m : Json.Mode} {c : Char} (hend : isLineEnd c = true)
    (hc : 0x20 ≤ c.toNat) (hallows : m.allows c = true) :
    m = .inside ∧ m.next c = .inside := by
  have hn : 0x80 ≤ c.toNat := by
    simp only [isLineEnd, Bool.or_eq_true, Bool.and_eq_true, decide_eq_true_eq, beq_iff_eq] at hend
    omega
  have hne (d : Char) (hd : d.toNat < 0x80) : c ≠ d := by
    rintro rfl
    omega
  cases m with
  | outside => exact absurd (Json.isStructural_lt hallows) (by omega)
  | escaped => exact absurd (Json.allows_escaped_lt hallows) (by omega)
  | inside =>
    refine ⟨rfl, ?_⟩
    rw [Json.Mode.next, if_neg (hne _ (by decide)), if_neg (hne _ (by decide))]

/-- The lines of what is left of a text, when the line that has begun begins in a string. -/
theorem mute_pieces_inside (hloads : py.LoadsOnlyJson) {t : List Char}
    (hc : ∀ c ∈ t, 0x20 ≤ c.toNat) {line : List Char} {m m' : Json.Mode}
    (hline : Json.Scans .inside line m) (ht : Json.Scans m t m') :
    ∀ l ∈ pieces line t, Mute py l := by
  induction t generalizing line m with
  | nil =>
    intro l hl
    rw [List.mem_singleton.mp hl]
    exact mute_inside hloads hline
  | cons c t ih =>
    have hc' := fun d hd => hc d (List.mem_cons_of_mem c hd)
    rw [pieces]
    split
    · rename_i hend
      obtain ⟨rfl, hnext⟩ := inside_of_isLineEnd hend (hc c List.mem_cons_self) ht.1
      have hempty : Json.Scans .inside [] .inside := rfl
      intro l hl
      rcases List.mem_cons.mp hl with rfl | hl
      · exact mute_inside hloads hline
      · exact ih hc' hempty (hnext ▸ ht.2) l hl
    · exact ih hc' (hline.append ⟨ht.1, rfl⟩) ht.2

/-- **The lines of a text with a line end in it** yield nothing. -/
theorem mute_pieces (hloads : py.LoadsOnlyJson) {t : List Char} (hc : ∀ c ∈ t, 0x20 ≤ c.toNat)
    (hend : ∃ c ∈ t, isLineEnd c = true) {start : List Char} {m m' : Json.Mode}
    (hstart : Json.Scans .outside start m) (ht : Json.Scans m t m') :
    ∀ l ∈ pieces (dataPrefix ++ start) t, Mute py l := by
  induction t generalizing start m with
  | nil =>
    obtain ⟨c, hmem, -⟩ := hend
    exact absurd hmem List.not_mem_nil
  | cons c t ih =>
    have hc' := fun d hd => hc d (List.mem_cons_of_mem c hd)
    rw [pieces]
    split
    · rename_i hc₀
      obtain ⟨rfl, hnext⟩ := inside_of_isLineEnd hc₀ (hc c List.mem_cons_self) ht.1
      have hempty : Json.Scans .inside [] .inside := rfl
      intro l hl
      rcases List.mem_cons.mp hl with rfl | hl
      · exact mute_begun hloads hstart
      · exact mute_pieces_inside hloads hc' hempty (hnext ▸ ht.2) l hl
    · rename_i hc₀
      have hend' : ∃ d ∈ t, isLineEnd d = true := by
        obtain ⟨d, hd, hdend⟩ := hend
        rcases List.mem_cons.mp hd with rfl | hd
        · exact absurd hdend hc₀
        · exact ⟨d, hd, hdend⟩
      rw [List.append_assoc]
      exact ih hc' hend' (hstart.append ⟨ht.1, rfl⟩) ht.2

/-- A line yields one thing at most. -/
theorem length_streamLines_cons (line : List Char) (lines : List (List Char)) :
    (streamLines py (line :: lines)).1.length ≤ (streamLines py lines).1.length + 1 := by
  rw [streamLines]
  split <;> simp

/-- Lines that yield nothing. -/
theorem length_streamLines_of_mute (ls : List (List Char)) (h : ∀ l ∈ ls, Mute py l)
    (lines : List (List Char)) :
    (streamLines py (ls ++ lines)).1.length ≤ (streamLines py lines).1.length := by
  induction ls with
  | nil => exact Nat.le_refl _
  | cons l ls ih =>
    have ih := ih fun l' hl' => h l' (List.mem_cons_of_mem _ hl')
    rw [List.cons_append, streamLines]
    split
    · exact ih
    · rename_i text htext
      exact absurd htext (h l List.mem_cons_self text)
    · simp
    · simp

end Mute

/-! ## A stream of deltas -/

/-- The object a delta is sent in. -/
def deltaObject (delta : String) : PyJson :=
  .dict [("choices", .list [.dict [("delta", .dict [("content", .str delta)])]])]

/-- The event a text is sent in. -/
def dataEvent (text : List Char) : List Char := dataPrefix ++ (text ++ ['\n', '\n'])

/-- The body of the response: an event for each text, and the last one. -/
def sseBody (texts : List (List Char)) : List Char :=
  texts.flatMap dataEvent ++ dataEvent doneText

/-- What is yielded of the object of a delta is the delta. -/
theorem chunkText_deltaObject {delta : String} (h : delta ≠ "") :
    chunkText (deltaObject delta) = .ok (some (.str delta)) := by
  have htruth : pyTruth (.str delta) = true := by simpa [pyTruth] using h
  simp [chunkText, deltaObject, pyContains, pyGetItem, pyGetFirst, Except.bind, htruth,
    show pyTruth (.list [.dict [("delta", .dict [("content", .str delta)])]]) = true from rfl]

theorem modest_deltaObject (delta : String) : Json.Modest 100 (deltaObject delta) := by
  have hdelta : Json.Modest 97 (.dict [("content", .str delta)]) :=
    .dict (by simpa using .str 96 delta)
  have hchoice : Json.Modest 98 (.dict [("delta", .dict [("content", .str delta)])]) :=
    .dict (by simpa using hdelta)
  exact .dict (by simpa using .list (by simpa using hchoice))

/-- What `strip` leaves of a text and what it takes away. -/
theorem mem_of_pyStripChars {t : List Char} {c : Char} (hc : c ∈ t) :
    isPySpace c = true ∨ c ∈ pyStripChars t := by
  obtain ⟨a, b, ht, ha, hb⟩ := Json.exists_pyStripChars t
  rw [ht] at hc
  rcases List.mem_append.mp hc with hc | hc
  · exact Or.inl (ha c hc)
  · exact (List.mem_append.mp hc).symm.imp_left (hb c)

section Body

variable {py : PythonText} {t : List Char}

theorem isLineEnd_dataPrefix : ∀ c ∈ dataPrefix, isLineEnd c = false := by
  simp [dataPrefix, isLineEnd]

theorem isLineEnd_doneText : ∀ c ∈ doneText, isLineEnd c = false := by
  simp [doneText, isLineEnd]

/-- The lines of an event, and the lines after it. -/
theorem splitlines_dataEvent (hcr : '\r' ∉ t) (rest : List Char) :
    splitlines (dataEvent t ++ rest) = pieces dataPrefix t ++ [] :: splitlines rest := by
  have hcr' : '\r' ∉ dataPrefix ++ t := fun h => (List.mem_append.mp h).elim (by decide) hcr
  have hbody : dataEvent t ++ rest = (dataPrefix ++ t) ++ '\n' :: ('\n' :: rest) := by
    simp [dataEvent]
  rw [hbody, splitlines, splitlinesFrom_append hcr', pieces_append isLineEnd_dataPrefix]
  rfl

/-- The line of a text that is whole. -/
theorem readLine_deltaObject (hloads : py.LoadsJson) {delta : String} (h : delta ≠ "")
    (ht : Json.Document (deltaObject delta) t) :
    readLine py (dataPrefix ++ t) = .yields (.str delta) := by
  have hdone : pyStripChars t ≠ doneText := by
    intro hstrip
    by_cases hslash : '\\' ∈ t
    · rcases mem_of_pyStripChars hslash with hspace | hmem
      · exact absurd hspace (by decide)
      · exact absurd (hstrip ▸ hmem) (by decide)
    · have hc := ht.key_subset (show "choices" ∈ _ by simp) hslash 'c' (by decide)
      rcases mem_of_pyStripChars hc with hspace | hmem
      · exact absurd hspace (by decide)
      · exact absurd (hstrip ▸ hmem) (by decide)
  have hread : py.loads (String.ofList t) = .ok (deltaObject delta) :=
    hloads.modest _ _ (modest_deltaObject delta) (by rwa [String.toList_ofList])
  have hprefix : dataPrefix.isPrefixOf (dataPrefix ++ t) = true := by simp
  rw [readLine, hprefix, List.drop_left, if_neg (by simp), if_neg hdone, hread]
  simp only [chunkText_deltaObject h]

/-- The line that ends the stream. -/
theorem readLine_done : readLine py (dataPrefix ++ doneText) = .done := by
  rw [readLine, if_neg (by decide), List.drop_left, if_pos (by decide)]

theorem not_mem_of_forall (hc : ∀ c ∈ t, 0x20 ≤ c.toNat) : '\r' ∉ t := fun hmem =>
  absurd (hc _ hmem) (by decide)

/-- A line end in a text is one of the three. -/
theorem isLineEnd_eq_false_iff {c : Char} (hc : 0x20 ≤ c.toNat) :
    isLineEnd c = false ↔ c.toNat ≠ 0x85 ∧ c.toNat ≠ 0x2028 ∧ c.toNat ≠ 0x2029 := by
  simp only [isLineEnd, Bool.or_eq_false_iff, Bool.and_eq_false_iff, decide_eq_false_iff_not,
    beq_eq_false_iff_ne]
  omega

/-- The delta of a text that is whole is yielded. -/
theorem streamLines_whole (hloads : py.LoadsJson) {delta : String} (h : delta ≠ "")
    (ht : Json.Document (deltaObject delta) t) (hc : ∀ c ∈ t, 0x20 ≤ c.toNat)
    (hend : ∀ c ∈ t, isLineEnd c = false) (rest : List Char) :
    streamLines py (splitlines (dataEvent t ++ rest)) =
      (.str delta :: (streamLines py (splitlines rest)).1,
        (streamLines py (splitlines rest)).2) := by
  rw [splitlines_dataEvent (not_mem_of_forall hc), pieces_of_forall hend, List.singleton_append,
    streamLines, readLine_deltaObject hloads h ht]
  rfl

/-- Nothing is yielded of a text that is cut. -/
theorem streamLines_cut (hloads : py.LoadsOnlyJson) {v : PyJson} (ht : Json.Document v t)
    (hc : ∀ c ∈ t, 0x20 ≤ c.toNat) (hend : ∃ c ∈ t, isLineEnd c = true) (rest : List Char) :
    (streamLines py (splitlines (dataEvent t ++ rest))).1.length ≤
      (streamLines py (splitlines rest)).1.length := by
  have hempty : Json.Scans .outside [] .outside := rfl
  have hmute := mute_pieces hloads hc hend hempty ht.scans
  rw [List.append_nil] at hmute
  rw [splitlines_dataEvent (not_mem_of_forall hc)]
  refine (length_streamLines_of_mute _ hmute _).trans ?_
  exact length_streamLines_of_mute [[]] (by simpa using mute_nil) _

/-- Of any other text at most one thing is yielded, when it is whole. -/
theorem streamLines_le (hc : ∀ c ∈ t, 0x20 ≤ c.toNat) (hend : ∀ c ∈ t, isLineEnd c = false)
    (rest : List Char) : (streamLines py (splitlines (dataEvent t ++ rest))).1.length ≤
      (streamLines py (splitlines rest)).1.length + 1 := by
  rw [splitlines_dataEvent (not_mem_of_forall hc), pieces_of_forall hend, List.singleton_append]
  refine (length_streamLines_cons _ _).trans (Nat.add_le_add_right ?_ 1)
  exact length_streamLines_of_mute [[]] (by simpa using mute_nil) _

/-- Nothing is yielded after the last event. -/
theorem streamLines_done : streamLines py (splitlines (dataEvent doneText)) = ([], none) := by
  have hlines := splitlines_dataEvent (t := doneText) (by decide) []
  rw [List.append_nil, pieces_of_forall isLineEnd_doneText] at hlines
  rw [hlines, List.singleton_append, streamLines, readLine_done]

end Body

/-! ## The stream and the job -/

section Stream

variable {py : PythonText}

/-- A delta and the text it is sent in. -/
structure Sent where
  delta : String
  text : List Char

/-- **What may be sent**: a JSON text of the object of a delta, the delta not empty,
with no control character in the text. -/
structure Sent.Valid (f : Sent) : Prop where
  delta : f.delta ≠ ""
  text : Json.Document (deltaObject f.delta) f.text
  printable : ∀ c ∈ f.text, 0x20 ≤ c.toNat

/-- The text has no character in it that ends a line. -/
def Sent.Whole (f : Sent) : Prop :=
  ∀ c ∈ f.text, c.toNat ≠ 0x85 ∧ c.toNat ≠ 0x2028 ∧ c.toNat ≠ 0x2029

instance (f : Sent) : Decidable f.Whole :=
  List.decidableBAll (fun c : Char => c.toNat ≠ 0x85 ∧ c.toNat ≠ 0x2028 ∧ c.toNat ≠ 0x2029) f.text

theorem Sent.Valid.whole_iff {f : Sent} (h : f.Valid) :
    f.Whole ↔ ∀ c ∈ f.text, isLineEnd c = false :=
  forall₂_congr fun _ hc => (isLineEnd_eq_false_iff (h.printable _ hc)).symm

theorem Sent.Valid.cut_of_not_whole {f : Sent} (h : f.Valid) (hnot : ¬ f.Whole) :
    ∃ c ∈ f.text, isLineEnd c = true := by
  rw [h.whole_iff] at hnot
  simpa using hnot

/-- The bytes of the body. -/
def bodyOf (sent : List Sent) : List UInt8 := Utf8.encode (sseBody (sent.map Sent.text))

theorem streamTranscription_bodyOf (sent : List Sent) :
    streamTranscription py 200 (bodyOf sent) =
      streamLines py (splitlines (sseBody (sent.map Sent.text))) := by
  rw [streamTranscription, if_neg (by simp), bodyOf, Utf8.decode_encode]

theorem sseBody_cons (t : List Char) (ts : List (List Char)) :
    sseBody (t :: ts) = dataEvent t ++ sseBody ts := by
  rw [sseBody, List.flatMap_cons, List.append_assoc, ← sseBody]

/-- Texts that are whole come out as they went in. -/
theorem stream_of_whole (hloads : py.LoadsJson) {sent : List Sent} (h : ∀ f ∈ sent, f.Valid)
    (hwhole : ∀ f ∈ sent, f.Whole) :
    streamLines py (splitlines (sseBody (sent.map Sent.text))) =
      (sent.map fun f => .str f.delta, none) := by
  induction sent with
  | nil => exact streamLines_done
  | cons f sent ih =>
    have hf := h f List.mem_cons_self
    have ih := ih (fun g hg => h g (List.mem_cons_of_mem _ hg))
      fun g hg => hwhole g (List.mem_cons_of_mem _ hg)
    rw [List.map_cons, sseBody_cons, streamLines_whole hloads hf.delta hf.text hf.printable
      (hf.whole_iff.mp (hwhole f List.mem_cons_self)), ih]
    rfl

/-- No more is yielded than there are texts that are whole. -/
theorem length_stream_le (hloads : py.LoadsOnlyJson) {sent : List Sent}
    (h : ∀ f ∈ sent, f.Valid) :
    (streamLines py (splitlines (sseBody (sent.map Sent.text)))).1.length ≤
      sent.countP fun f => f.Whole := by
  induction sent with
  | nil =>
    rw [show sseBody (List.map Sent.text []) = dataEvent doneText from rfl, streamLines_done]
    exact Nat.le_refl _
  | cons f sent ih =>
    have hf := h f List.mem_cons_self
    have ih := ih fun g hg => h g (List.mem_cons_of_mem _ hg)
    rw [List.map_cons, sseBody_cons]
    by_cases hwhole : f.Whole
    · rw [List.countP_cons_of_pos (by simpa using hwhole)]
      exact (streamLines_le hf.printable (hf.whole_iff.mp hwhole) _).trans
        (Nat.add_le_add_right ih 1)
    · rw [List.countP_cons_of_neg (by simpa using hwhole)]
      exact (streamLines_cut hloads hf.text hf.printable (hf.cut_of_not_whole hwhole) _).trans ih

/-! ### What the job gets -/

/-- What is said of the output looks at the output, and at two fields of the job. -/
theorem validateVibevoiceOutput_congr {job j : TranscriptionJob}
    (hduration : job.audioDurationSeconds = j.audioDurationSeconds)
    (hmime : job.audioMime = j.audioMime) (raw : String) :
    validateVibevoiceOutput py raw job = validateVibevoiceOutput py raw j := by
  simp only [validateVibevoiceOutput, hduration, hmime]

/-- Chunks that come one after the other are put one after the other, and what is
validated in the end is all of them. -/
theorem resumeAll_chunks (first : Bool) (accumulated deltas : List String)
    (job : TranscriptionJob) :
    let result := resumeAll py (.streaming first accumulated) job
      (deltas.map .chunk ++ [.finished])
    result.1.puts = job.puts ++ deltas.map some ∧
      result.2 = .ended
        (match validateVibevoiceOutput py (String.join (accumulated ++ deltas)) job with
          | none => .returned
          | some refusal => .raised refusal.exception) := by
  induction deltas generalizing first accumulated job with
  | nil =>
    rw [List.map_nil, List.map_nil, List.nil_append, List.append_nil, List.append_nil]
    dsimp only [resumeAll, vibevoiceResume]
    cases validateVibevoiceOutput py (String.join accumulated) job with
    | none => exact ⟨rfl, rfl⟩
    | some refusal => cases refusal <;> exact ⟨rfl, rfl⟩
  | cons delta deltas ih =>
    obtain ⟨hputs, hend⟩ := ih false (accumulated ++ [delta])
      (job.applyEffects ((if first then [.streaming] else []) ++ [.put delta]))
    rw [List.append_assoc, List.singleton_append] at hend
    refine ⟨hputs.trans ?_, hend.trans ?_⟩
    · cases first <;> simp [TranscriptionJob.applyEffects, ProcessEffect.apply,
        TranscriptionJob.put]
    · rw [validateVibevoiceOutput_congr (j := job)] <;> cases first <;> rfl

/-- **What went in is what comes out**: of `stream_transcription`, on `chunk_queue`,
and of what `process_vibevoice_job` validates. -/
def Delivered (py : PythonText) (sent : List Sent) : Prop :=
  streamTranscription py 200 (bodyOf sent) = (sent.map fun f => .str f.delta, none) ∧
    ∃ events, streamEvents (streamTranscription py 200 (bodyOf sent)) = some events ∧
      ∀ job : TranscriptionJob,
        let result := resumeAll py (.streaming true []) job events
        result.1.puts = job.puts ++ sent.map (fun f => some f.delta) ∧
          result.2 = .ended
            (match validateVibevoiceOutput py (String.join (sent.map Sent.delta)) job with
              | none => .returned
              | some refusal => .raised refusal.exception)

/-- **No text is lost exactly when none of the texts has U+0085, U+2028 or U+2029 in
it**, as a character and not as an escape. -/
theorem deltas_delivered_iff (hloads : py.LoadsJson) {sent : List Sent}
    (h : ∀ f ∈ sent, f.Valid) : Delivered py sent ↔ ∀ f ∈ sent, f.Whole := by
  constructor
  · intro hdelivered
    have hlen := length_stream_le hloads.only h
    rw [← streamTranscription_bodyOf, hdelivered.1, List.length_map] at hlen
    have hall := List.countP_eq_length.mp (Nat.le_antisymm List.countP_le_length hlen)
    exact fun f hf => by simpa using hall f hf
  · intro hwhole
    have hstream := (@streamTranscription_bodyOf py sent).trans
      (stream_of_whole hloads h hwhole)
    refine ⟨hstream, (sent.map Sent.delta).map .chunk ++ [.finished], ?_, fun job => ?_⟩
    · rw [hstream, streamEvents, List.map_map]
      have hchunks : (sent.map fun f => PyJson.str f.delta).mapM chunkEvent =
          some (sent.map fun f => StreamEvent.chunk f.delta) := by
        rw [List.mapM_map]
        exact List.mapM_pure
      rw [hchunks]
      rfl
    · have hrun := @resumeAll_chunks py true [] (sent.map Sent.delta) job
      have hputs : (sent.map Sent.delta).map some = sent.map fun f => some f.delta := List.map_map
      rw [hputs, List.nil_append] at hrun
      exact hrun

end Stream

/-- A delta, sent as `json.dumps` writes it. -/
def sentAs (delta : String) : Sent := ⟨delta, Json.write [] [] (deltaObject delta)⟩

theorem printable_deltaObject (delta : String) : Json.Printable (deltaObject delta) := by
  have hdelta : Json.Printable (.dict [("content", .str delta)]) :=
    .dict (by simp) (by simpa using .str delta)
  have hchoice : Json.Printable (.dict [("delta", .dict [("content", .str delta)])]) :=
    .dict (by simp) (by simpa using hdelta)
  exact .dict (by simp) (by simpa using .list (by simpa using hchoice))

theorem valid_sentAs {delta : String} (h : delta ≠ "") : (sentAs delta).Valid where
  delta := h
  text := ((printable_deltaObject delta).text Json.blank_nil Json.blank_nil).document
  printable := (printable_deltaObject delta).printing Json.printing_nil Json.printing_nil

/-- A stream of two deltas that arrives. -/
theorem deltas_delivered_two :
    Delivered PythonText.jsonModule [sentAs "[\x7b\"Content\": \"h", sentAs "i\"\x7d]"] :=
  (deltas_delivered_iff PythonText.loadsJson_jsonModule (by
    simpa using ⟨valid_sentAs (by decide), valid_sentAs (by decide)⟩)).mpr
    (by decide +kernel)

/-- **A delta is lost**: one with U+2028 in it, which a JSON text can have as it is. -/
theorem delta_lost :
    (sentAs "one\u2028two").Valid ∧
      (streamTranscription PythonText.jsonModule 200
        (bodyOf [sentAs "one\u2028two"])).1.length = 0 ∧
      ¬ Delivered PythonText.jsonModule [sentAs "one\u2028two"] := by
  have hlen : (streamTranscription PythonText.jsonModule 200
      (bodyOf [sentAs "one\u2028two"])).1.length = 0 := by
    decide +kernel
  refine ⟨valid_sentAs (by decide), hlen, fun h => ?_⟩
  rw [h.1] at hlen
  exact absurd hlen (by decide)

end VibeVoice
