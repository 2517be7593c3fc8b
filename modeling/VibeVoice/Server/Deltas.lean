import VibeVoice.Server.VllmClient

/-!
# Deltas, and JSON of any other shape

What `stream_transcription` is for: of the lines of a response, the texts at
`choices[0].delta.content`, up to the line that says `[DONE]`.  This is said here
without the tests of the source (`contentDelta`, `deltasOf`), and compared with what
the loop does (`streamLines`).

The source takes a value apart with `in` and `[]`, and these two do not agree about
what an object is.  `"delta" in choice` is a question one may ask of an object, of an
array, where it looks for an item, and of a string, where it looks for a part; of a
number, a Boolean or `null` it raises.  `choice["delta"]` is answered by an object
only.  So the two together read a key when the value is an object, find nothing when
it is an array or a string without the key in it, and raise everywhere else
(`readKey_eq_ok_iff`).  What is yielded in the end is only known to be truthy.

`WellShaped` lists what is left.  It is exact: a line that has another shape either
ends the generator with an exception or yields something that is not a string, and in
neither case do the later lines make up for it (`streamLines_eq_iff`).

Before a payload has a shape, `json.loads` has to come back with it.  The source expects
one exception of it, and the library raises others too: where a payload is nested deeper
than the interpreter's stack allows, or has an integer of more digits than it converts.
These leave the generator, so a payload of this kind is as bad as one of a wrong shape
(`WellRead`), whether or not it is JSON.
-/

namespace VibeVoice

/-! ## What is to be found -/

/-- The value of a key, of an object that has it. -/
def fieldOf (key : String) : PyJson → Option PyJson
  | .dict fields => fields.lookup key
  | _ => none

/-- The first item of an array. -/
def headOf : PyJson → Option PyJson
  | .list (item :: _) => some item
  | _ => none

/-- A string that is not empty. -/
def textOf : PyJson → Option String
  | .str s => if s = "" then none else some s
  | _ => none

/-- The text at `choices[0].delta.content`. -/
def contentDelta (data : PyJson) : Option String :=
  (fieldOf "choices" data).bind fun choices =>
  (headOf choices).bind fun choice =>
  (fieldOf "delta" choice).bind fun delta =>
  (fieldOf "content" delta).bind textOf

/-- The line says that the stream is over. -/
def isDoneLine (line : List Char) : Bool :=
  dataPrefix.isPrefixOf line && decide (pyStripChars (line.drop dataPrefix.length) = doneText)

/-- The text a line has for the job. -/
def lineDelta (py : PythonText) (line : List Char) : Option String :=
  if !dataPrefix.isPrefixOf line then none
  else
    match py.loads (String.ofList (line.drop dataPrefix.length)) with
    | .error _ => none
    | .ok data => contentDelta data

/-- **The texts of a stream**: of the lines before the one that says it is over. -/
def deltasOf (py : PythonText) (lines : List (List Char)) : List String :=
  (lines.takeWhile fun line => !isDoneLine line).filterMap (lineDelta py)

/-! ## What the source finds -/

/-- `key in value`, and `value[key]` if it is. -/
def readKey (key : String) (value : PyJson) : Except PyException (Option PyJson) :=
  (pyContains key value).bind fun has =>
  if !has then .ok none else (pyGetItem key value).map some

/-- The key can be looked for in this value: an object, or an array or a string that does
not have it. -/
def Tolerates (key : String) : PyJson → Prop
  | .dict _ => True
  | .list items => PyJson.str key ∉ items
  | .str s => ¬ key.toList <:+: s.toList
  | _ => False

/-- `value[0]` can be asked for, if it is: of an array or of a string. -/
def Indexable (value : PyJson) : Prop :=
  pyTruth value = true → (∃ items, value = .list items) ∨ ∃ s, value = .str s

/-- What is yielded, if it is, is a string. -/
def TextLike (value : PyJson) : Prop := pyTruth value = true → ∃ s, value = .str s

/-- **The shapes of JSON that the source reads as they are meant.** -/
def WellShaped (data : PyJson) : Prop :=
  Tolerates "choices" data ∧ ∀ choices ∈ fieldOf "choices" data,
    Indexable choices ∧ ∀ choice ∈ headOf choices,
      Tolerates "delta" choice ∧ ∀ delta ∈ fieldOf "delta" choice,
        Tolerates "content" delta ∧ ∀ text ∈ fieldOf "content" delta, TextLike text

/-- What `json.loads` makes of a payload that the source reads as it is meant: it is no JSON,
and raises nothing else, or it is JSON of such a shape. -/
def WellRead : Except LoadsError PyJson → Prop
  | .ok data => WellShaped data
  | .error (.decode _) => True
  | .error (.other _ _) => False

/-- The payload of the line, if it has one, is read as it is meant. -/
def WellShapedLine (py : PythonText) (line : List Char) : Prop :=
  ∀ t, line = dataPrefix ++ t → WellRead (py.loads (String.ofList t))

theorem any_lookup_isSome (key : String) (fields : List (String × PyJson)) :
    (fields.any fun field => field.1 = key) = (fields.lookup key).isSome := by
  induction fields with
  | nil => rfl
  | cons field fields ih =>
    rw [List.any_cons, ih, List.lookup_cons]
    by_cases h : field.1 = key
    · simp [h]
    · simp [h, beq_eq_false_iff_ne.mpr (Ne.symm h)]

/-- In an array, `in` looks for an item. -/
theorem pyContains_list {key : String} {items : List PyJson} :
    pyContains key (.list items) = .ok true ↔ PyJson.str key ∈ items := by
  rw [pyContains, Except.ok.injEq, List.any_eq_true]
  constructor
  · rintro ⟨item, hitem, hkey⟩
    cases item with
    | str s => exact of_decide_eq_true hkey ▸ hitem
    | _ => cases hkey
  · exact fun h => ⟨_, h, decide_eq_true rfl⟩

/-- In a string, `in` looks for a part. -/
theorem pyContains_str {key s : String} :
    pyContains key (.str s) = .ok true ↔ key.toList <:+: s.toList := by
  rw [pyContains, Except.ok.injEq, List.any_eq_true, List.infix_iff_prefix_suffix]
  refine exists_congr fun t => ?_
  rw [List.mem_tails, List.isPrefixOf_iff_prefix, and_comm]

/-- A key that can be looked for is found in an object that has it. -/
theorem readKey_of_tolerates {key : String} {value : PyJson} (h : Tolerates key value) :
    readKey key value = .ok (fieldOf key value) := by
  cases value with
  | dict fields =>
    rw [readKey, pyContains, any_lookup_isSome]
    cases hlookup : fields.lookup key with
    | none => simp [Except.bind, fieldOf, hlookup]
    | some value => simp [Except.bind, Except.map, pyGetItem, fieldOf, hlookup]
  | list items =>
    cases hhas : pyContains key (.list items) with
    | error exc => cases hhas
    | ok has =>
      cases has with
      | false => rw [readKey, hhas]; rfl
      | true => exact absurd (pyContains_list.mp hhas) h
  | str s =>
    cases hhas : pyContains key (.str s) with
    | error exc => cases hhas
    | ok has =>
      cases has with
      | false => rw [readKey, hhas]; rfl
      | true => exact absurd (pyContains_str.mp hhas) h
  | none | bool | int | float => exact h.elim

/-- Looking for any other raises: `key in value` does, or `value[key]` after it. -/
theorem readKey_of_not_tolerates {key : String} {value : PyJson} (h : ¬ Tolerates key value) :
    ∃ exc, readKey key value = .error exc := by
  cases value with
  | dict fields => exact absurd trivial h
  | list items =>
    rw [readKey, pyContains_list.mpr (Classical.not_not.mp h)]
    exact ⟨_, rfl⟩
  | str s =>
    rw [readKey, pyContains_str.mpr (Classical.not_not.mp h)]
    exact ⟨_, rfl⟩
  | none | bool | int | float => exact ⟨_, rfl⟩

/-- **What a key is read as, and when.** -/
theorem readKey_eq_ok_iff {key : String} {value : PyJson} {found : Option PyJson} :
    readKey key value = .ok found ↔ Tolerates key value ∧ found = fieldOf key value := by
  by_cases h : Tolerates key value
  · rw [readKey_of_tolerates h, Except.ok.injEq]
    exact ⟨fun hfound => ⟨h, hfound.symm⟩, fun hfound => hfound.2.symm⟩
  · obtain ⟨exc, hexc⟩ := readKey_of_not_tolerates h
    rw [hexc]
    exact ⟨fun hok => (nomatch hok), fun hfound => absurd hfound.1 h⟩

/-- The two steps that read a key. -/
theorem bind_readKey (key : String) (value : PyJson)
    (next : PyJson → Except PyException (Option PyJson)) :
    ((pyContains key value).bind fun has =>
      if !has then .ok none else (pyGetItem key value).bind next) =
    (readKey key value).bind fun found => found.elim (.ok none) next := by
  rw [readKey]
  cases pyContains key value with
  | error exc => rfl
  | ok has =>
    cases has with
    | false => rfl
    | true => cases pyGetItem key value <;> rfl

/-! ## Level by level -/

/-- It raises, or has something that is not a string. -/
def Odd (result : Except PyException (Option PyJson)) : Prop :=
  (∃ exc, result = .error exc) ∨ ∃ value, result = .ok (some value) ∧ ∀ s, value ≠ .str s

/-- The result is the text that is to be found when the value has the right shape, and is odd
when it has not. -/
def Agrees (shape : Prop) (result : Except PyException (Option PyJson)) (text : Option String) :
    Prop :=
  (shape ∧ result = .ok (text.map .str)) ∨ (¬ shape ∧ Odd result)

/-- A level that reads a key. -/
theorem agrees_readKey {key : String} {value : PyJson} {shape : PyJson → Prop}
    {next : PyJson → Except PyException (Option PyJson)} {text : PyJson → Option String}
    (h : ∀ v, Agrees (shape v) (next v) (text v)) :
    Agrees (Tolerates key value ∧ ∀ v ∈ fieldOf key value, shape v)
      ((pyContains key value).bind fun has =>
        if !has then .ok none else (pyGetItem key value).bind next)
      ((fieldOf key value).bind text) := by
  rw [bind_readKey]
  by_cases hkey : Tolerates key value
  · rw [readKey_of_tolerates hkey]
    cases hfield : fieldOf key value with
    | none => exact Or.inl ⟨⟨hkey, by simp⟩, rfl⟩
    | some v =>
      simp only [hkey, true_and, Option.mem_def, Option.some.injEq, forall_eq']
      exact h v
  · obtain ⟨exc, hexc⟩ := readKey_of_not_tolerates hkey
    rw [hexc]
    exact Or.inr ⟨fun hshape => hkey hshape.1, Or.inl ⟨exc, rfl⟩⟩

/-- The level that takes the first item.  What it takes of a string has no key in it. -/
theorem agrees_head {value : PyJson} {shape : PyJson → Prop}
    {next : PyJson → Except PyException (Option PyJson)} {text : PyJson → Option String}
    (hchar : ∀ c, next (.str (String.ofList [c])) = .ok none)
    (h : ∀ v, Agrees (shape v) (next v) (text v)) :
    Agrees (Indexable value ∧ ∀ v ∈ headOf value, shape v)
      (if !pyTruth value then .ok none else (pyGetFirst value).bind next)
      ((headOf value).bind text) := by
  cases htruth : pyTruth value with
  | false =>
    have hindexable : Indexable value := fun htrue =>
      absurd (htruth.symm.trans htrue) (by decide)
    have hhead : headOf value = none := by
      cases value with
      | list items =>
        cases items with
        | nil => rfl
        | cons => cases htruth
      | _ => rfl
    rw [hhead]
    exact Or.inl ⟨⟨hindexable, by simp⟩, rfl⟩
  | true =>
    rw [if_neg (by simp)]
    cases value with
    | list items =>
      cases items with
      | nil => cases htruth
      | cons item items =>
        have hindexable : Indexable (.list (item :: items)) := fun _ => Or.inl ⟨_, rfl⟩
        simp only [hindexable, true_and, headOf, Option.mem_def, Option.some.injEq, forall_eq']
        exact h item
    | str s =>
      refine Or.inl ⟨⟨fun _ => Or.inr ⟨s, rfl⟩, by simp [headOf]⟩, ?_⟩
      rw [pyGetFirst]
      cases hs : s.toList with
      | nil =>
        have hempty : s ≠ "" := by simpa [pyTruth] using htruth
        exact absurd (String.toList_inj.mp (hs.trans rfl)) hempty
      | cons c cs => exact hchar c
    | none => cases htruth
    | bool | int | float | dict =>
      refine Or.inr ⟨fun hshape => ?_, Or.inl ⟨_, rfl⟩⟩
      rcases hshape.1 htruth with ⟨items, hvalue⟩ | ⟨s, hvalue⟩ <;> cases hvalue

/-- The level of the text. -/
theorem agrees_text (value : PyJson) :
    Agrees (TextLike value) (.ok (if pyTruth value then some value else none)) (textOf value) := by
  by_cases hstr : ∃ s, value = .str s
  · obtain ⟨s, rfl⟩ := hstr
    refine Or.inl ⟨fun _ => ⟨s, rfl⟩, ?_⟩
    by_cases hs : s = ""
    · simp [pyTruth, textOf, hs]
    · simp [pyTruth, textOf, hs]
  · have htext : textOf value = none := by
      cases value with
      | str s => exact absurd ⟨s, rfl⟩ hstr
      | _ => rfl
    cases htruth : pyTruth value with
    | false =>
      rw [htext]
      exact Or.inl ⟨fun htrue => absurd (htruth.symm.trans htrue) (by decide), rfl⟩
    | true =>
      refine Or.inr ⟨fun hlike => hstr (hlike htruth), Or.inr ⟨value, rfl, ?_⟩⟩
      exact fun s hs => hstr ⟨s, hs⟩

/-- A string of one character has no longer one in it. -/
theorem tolerates_char {key : String} (hkey : 1 < key.toList.length) (c : Char) :
    Tolerates key (.str (String.ofList [c])) := by
  intro hinfix
  have hle := hinfix.length_le
  rw [String.toList_ofList, List.length_singleton] at hle
  omega

/-- **What is made of a payload**: the text that is to be found, exactly when it has the
right shape. -/
theorem agrees_chunkText (data : PyJson) :
    Agrees (WellShaped data) (chunkText data) (contentDelta data) := by
  refine agrees_readKey fun choices => agrees_head (fun c => ?_) fun choice =>
    agrees_readKey fun delta => agrees_readKey fun text => agrees_text text
  rw [bind_readKey, readKey_of_tolerates (tolerates_char (by decide) c)]
  rfl

/-! ## The lines -/

section Lines

variable {py : PythonText}

/-- What the loop should do with a line. -/
def LineEffect.ofDelta : Option String → LineEffect
  | none => .skip
  | some text => .yields (.str text)

/-- It raises, or yields something that is not a string. -/
def LineEffect.Odd : LineEffect → Prop
  | .raises _ => True
  | .yields value => ∀ s, value ≠ .str s
  | _ => False

/-- The payload of a line is what follows `data: `. -/
theorem wellShapedLine_append {t : List Char} :
    WellShapedLine py (dataPrefix ++ t) ↔ WellRead (py.loads (String.ofList t)) := by
  constructor
  · intro h
    exact h t rfl
  · intro h t' hline
    rwa [← List.append_cancel_left hline]

theorem readLine_eq_done_iff {line : List Char} :
    readLine py line = .done ↔ isDoneLine line = true := by
  unfold readLine isDoneLine
  by_cases hbegins : dataPrefix.isPrefixOf line = true
  · by_cases hdone : pyStripChars (line.drop dataPrefix.length) = doneText
    · simp [hbegins, hdone]
    · simp only [hbegins, Bool.not_true, Bool.false_eq_true, if_false, hdone, decide_false,
        Bool.and_false, iff_false]
      split
      · simp
      · simp
      · split <;> simp
  · simp [hbegins]

/-- **A line that does not end the stream**: it has the right shape and its text is yielded,
or it has not and something else is. -/
theorem readLine_of_not_done {line : List Char} (h : isDoneLine line = false) :
    (WellShapedLine py line ∧ readLine py line = .ofDelta (lineDelta py line)) ∨
      (¬ WellShapedLine py line ∧ (readLine py line).Odd) := by
  by_cases hbegins : dataPrefix <+: line
  · obtain ⟨t, rfl⟩ := hbegins
    have hpre : dataPrefix.isPrefixOf (dataPrefix ++ t) = true := by simp
    rw [isDoneLine, hpre, Bool.true_and, List.drop_left, decide_eq_false_iff_not] at h
    simp only [readLine, lineDelta, hpre, Bool.not_true, Bool.false_eq_true, if_false,
      List.drop_left, if_neg h]
    rw [wellShapedLine_append]
    cases hloads : py.loads (String.ofList t) with
    | error e =>
      cases e with
      | decode text => exact Or.inl ⟨trivial, rfl⟩
      | other typeName text => exact Or.inr ⟨id, trivial⟩
    | ok data =>
      show (WellShaped data ∧ _) ∨ (¬ WellShaped data ∧ _)
      dsimp only
      rcases agrees_chunkText data with ⟨hwell, hchunk⟩ | ⟨hnot, hodd⟩
      · refine Or.inl ⟨hwell, ?_⟩
        rw [hchunk]
        cases contentDelta data <;> rfl
      · refine Or.inr ⟨hnot, ?_⟩
        rcases hodd with ⟨exc, hexc⟩ | ⟨value, hvalue, hstr⟩
        · rw [hexc]
          trivial
        · rw [hvalue]
          exact hstr
  · have hpre : dataPrefix.isPrefixOf line = false := by
      rwa [← Bool.not_eq_true, List.isPrefixOf_iff_prefix]
    refine Or.inl ⟨fun t hline => absurd ⟨t, hline.symm⟩ hbegins, ?_⟩
    rw [readLine, lineDelta, hpre, if_pos (by simp), if_pos (by simp)]
    rfl

/-- A stream is read as it is meant when its first line is and the others are. -/
theorem deltasOf_cons {line : List Char} (h : isDoneLine line = false)
    (lines : List (List Char)) :
    deltasOf py (line :: lines) = (lineDelta py line).toList ++ deltasOf py lines := by
  rw [deltasOf, List.takeWhile_cons_of_pos (by simp [h]), List.filterMap_cons]
  cases lineDelta py line <;> rfl

/-- **The stream is the texts it is meant to be exactly when every payload before the line
that says it is over has a shape that the source reads as it is meant.** -/
theorem streamLines_eq_iff (py : PythonText) (lines : List (List Char)) :
    streamLines py lines = ((deltasOf py lines).map .str, none) ↔
      ∀ line ∈ lines.takeWhile fun line => !isDoneLine line, WellShapedLine py line := by
  induction lines with
  | nil => simp [streamLines, deltasOf]
  | cons line lines ih =>
    cases hdone : isDoneLine line with
    | true =>
      have htake : ((line :: lines).takeWhile fun line => !isDoneLine line) = [] :=
        List.takeWhile_cons_of_neg (by simp [hdone])
      rw [streamLines, readLine_eq_done_iff.mpr hdone, deltasOf, htake]
      simp
    | false =>
      have htake : ((line :: lines).takeWhile fun line => !isDoneLine line) =
          line :: lines.takeWhile fun line => !isDoneLine line :=
        List.takeWhile_cons_of_pos (by simp [hdone])
      rw [htake, List.forall_mem_cons, ← ih, deltasOf_cons hdone, streamLines]
      rcases @readLine_of_not_done py line hdone with ⟨hwell, hread⟩ | ⟨hnot, hodd⟩
      · rw [hread]
        cases lineDelta py line with
        | none => simp [LineEffect.ofDelta, hwell]
        | some text => simp [LineEffect.ofDelta, hwell, Prod.ext_iff]
      · refine iff_of_false (fun heq => ?_) fun h => hnot h.1
        cases hread : readLine py line with
        | skip | done =>
          rw [hread] at hodd
          exact hodd
        | raises exc =>
          rw [hread] at heq
          cases congrArg Prod.snd heq
        | yields value =>
          rw [hread] at heq hodd
          have hyielded : value :: (streamLines py lines).1 =
            ((lineDelta py line).toList ++ deltasOf py lines).map PyJson.str :=
              congrArg Prod.fst heq
          have hmem : value ∈ ((lineDelta py line).toList ++ deltasOf py lines).map PyJson.str :=
            hyielded ▸ List.mem_cons_self
          obtain ⟨s, -, hs⟩ := List.mem_map.mp hmem
          exact hodd s hs.symm

end Lines

/-- `data: null` -/
def nullLine : List Char := dataPrefix ++ ['n', 'u', 'l', 'l']

/-- The line of a delta, as `json.dumps` writes it. -/
def deltaLine (delta : String) : List Char := dataPrefix ++ Json.write [] [] (deltaObject delta)

theorem readLine_nullLine : readLine PythonText.jsonModule nullLine =
    .raises ⟨"TypeError", "argument of type 'NoneType' is not iterable"⟩ := by
  have hdoc : Json.Document .none (String.ofList ['n', 'u', 'l', 'l']).toList := by
    rw [String.toList_ofList]
    exact (Json.Text.literal (by simp [Json.literals])).document
  have hread := (PythonText.loads_jsonModule _ _).mpr hdoc
  rw [readLine, nullLine, if_neg (by decide), List.drop_left, if_neg (by decide), hread]
  rfl

/-- **The stream breaks off at a line of another shape**: the text after it is not yielded. -/
theorem streamLines_nullLine :
    deltasOf PythonText.jsonModule [nullLine, deltaLine "hello"] = ["hello"] ∧
      streamLines PythonText.jsonModule [nullLine, deltaLine "hello"] =
        ([], some ⟨"TypeError", "argument of type 'NoneType' is not iterable"⟩) ∧
      ¬ ∀ lines, streamLines PythonText.jsonModule lines =
        ((deltasOf PythonText.jsonModule lines).map .str, none) := by
  have hraises : streamLines PythonText.jsonModule [nullLine, deltaLine "hello"] =
      ([], some ⟨"TypeError", "argument of type 'NoneType' is not iterable"⟩) := by
    rw [streamLines, readLine_nullLine]
  refine ⟨by decide +kernel, hraises, fun h => ?_⟩
  rw [h] at hraises
  cases congrArg Prod.snd hraises

end VibeVoice
