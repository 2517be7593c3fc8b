import VibeVoice.Semantics.JsonWriter
import VibeVoice.Server.Contract
import VibeVoice.Server.EventStream
import VibeVoice.Server.GroqClient
import VibeVoice.Server.Uncancelled

/-!
# The format of a transcription

What a client gets of a job is the chunks of its `data` events, one after the
other.  It takes them for a JSON array of objects, each with a `Content`
(`SegmentArray`), and `transcribe.py` says so in both process functions.  They
come by it in different ways: `process_vibevoice_job` hands on what the model
streams and looks at it when it is all there, `process_groq_job` gets a text and
wraps it.

## Why the invariant is about the queue

A chunk that was put cannot be taken back, so what is validated has to be what was
put.  The two are kept in different places: in a local of the coroutine, and in
the `chunk_queue` of the job, which other parts of the server hold.  `Contract`
keeps them together over a run.

## The reply that is empty

`process_groq_job` puts nothing for a text that is empty, and returns.  The job is
then `COMPLETED` with no chunk at all, and the empty text is not an array.
`Worded` leaves that reply out; in all other runs both functions keep the format
(`segmentArray_of_completed`).
-/

namespace VibeVoice

/-! ## Segments -/

/-- An object with a `Content`. -/
def HasContent : PyJson → Prop
  | .dict fields => "Content" ∈ fields.map Prod.fst
  | _ => False

/-- **A text that a client can read**: stripped, it is a JSON array of objects, each
with a `Content`. -/
def SegmentArray (text : String) : Prop :=
  ∃ segments, Json.Document (.list segments) (pyStripChars text.toList) ∧
    ∀ segment ∈ segments, HasContent segment

/-- **What was cut off is whitespace**, when both the whole and the beginning are
such texts. -/
theorem SegmentArray.space_of_append {p q : String} (h : SegmentArray p)
    (hwhole : SegmentArray (p ++ q)) : ∀ c ∈ q.toList, isPySpace c = true := by
  obtain ⟨segments, hdoc, -⟩ := h
  obtain ⟨segments', hdoc', -⟩ := hwhole
  rw [String.toList_append] at hdoc'
  exact hdoc.space_of_append hdoc'

theorem not_segmentArray_empty : ¬ SegmentArray "" := by
  rintro ⟨segments, ⟨w, core, w', -, -, heq, htext⟩, -⟩
  refine htext.ne_nil ?_
  have hnil : w ++ (core ++ w') = [] := heq.symm
  exact (List.append_eq_nil_iff.mp (List.append_eq_nil_iff.mp hnil).2).1

section Validate

variable {py : PythonText}

/-- The loop over the segments raises unless they all have a `Content`. -/
theorem segmentError_eq_none_iff (trimmed : String) (i : ℕ) (segments : List PyJson) :
    segmentError py trimmed i segments = none ↔ ∀ segment ∈ segments, HasContent segment := by
  induction segments generalizing i with
  | nil => simp [segmentError]
  | cons segment segments ih =>
    rw [List.forall_mem_cons]
    cases segment with
    | dict fields =>
      have hany : fields.any (fun field => field.1 = "Content") = true ↔
          HasContent (.dict fields) := by
        simp [HasContent]
      rw [segmentError]
      split
      · rename_i hcontent
        rw [ih]
        exact ⟨fun h => ⟨hany.mp hcontent, h⟩, fun h => h.2⟩
      · rename_i hcontent
        exact ⟨fun h => absurd h (by simp), fun h => absurd (hany.mpr h.1) hcontent⟩
    | none | bool | int | float | str | list =>
      exact ⟨fun h => absurd h (by simp [segmentError]), fun h => absurd h.1 (by simp [HasContent])⟩

/-- **What `_validate_vibevoice_output` accepts**: nothing of the job matters. -/
theorem validate_eq_none_iff {raw : String} {job : TranscriptionJob} :
    validateVibevoiceOutput py raw job = none ↔
      pyStrip raw ≠ "" ∧ ∃ segments, py.loads (pyStrip raw) = .ok (.list segments) ∧
        ∀ segment ∈ segments, HasContent segment := by
  unfold validateVibevoiceOutput
  by_cases hempty : pyStrip raw = ""
  · simp [hempty]
  · cases hvalue : py.loads (pyStrip raw) with
    | error e => cases e <;> simp [hempty, hvalue]
    | ok value =>
      cases value with
      | list segments => simp [hempty, hvalue, segmentError_eq_none_iff]
      | none | bool | int | float | str | dict => simp [hempty, hvalue]

/-- What is accepted is a text a client can read. -/
theorem segmentArray_of_validate (hloads : py.LoadsOnlyJson) {raw : String}
    {job : TranscriptionJob} (h : validateVibevoiceOutput py raw job = none) :
    SegmentArray raw := by
  obtain ⟨-, segments, hvalue, hcontent⟩ := validate_eq_none_iff.mp h
  refine ⟨segments, ?_, hcontent⟩
  have hdoc := hloads _ _ hvalue
  rwa [pyStrip, String.toList_ofList] at hdoc

end Validate

/-! ## What the process functions promise -/

section Promise

variable {py : PythonText}

/-- **`process_vibevoice_job`**: what was put is what has accumulated, and that is
what is validated. -/
def vibevoiceContract (hloads : py.LoadsOnlyJson) : Contract (processVibevoiceJob py) where
  allowed _ _ := True
  inv
    | .start, texts => texts = []
    | .streaming _ accumulated, texts => texts = accumulated
    | .unwinding, _ => True
  post texts := SegmentArray (String.join texts)
  start := rfl
  await f r job g texts _ hinv hg := by
    change (vibevoiceResume py f r job).2 = .await g at hg
    change VibevoiceFrame at f g
    cases f with
    | start =>
      cases r with
      | cancelled => cases hg
      | value event =>
        obtain rfl : texts = [] := hinv
        cases hpath : requireAudioPath job with
        | error exc => simp [vibevoiceResume, hpath] at hg
        | ok path =>
          cases event with
          | raised exc => simp [vibevoiceResume, hpath] at hg
          | chunk | finished =>
            simp only [vibevoiceResume, hpath, Progress.await.injEq] at hg
            subst hg
            show [] ++ putTexts (vibevoiceResume py .start (.value _) job).1 = []
            simp only [vibevoiceResume, hpath]
            rfl
    | streaming first accumulated =>
      obtain rfl : texts = accumulated := hinv
      cases r with
      | cancelled => cases hg; trivial
      | value event =>
        cases event with
        | raised exc => cases hg
        | finished =>
          simp only [vibevoiceResume] at hg
          split at hg <;> cases hg
        | chunk text =>
          cases hg
          show texts ++ putTexts ((if first then [.streaming] else []) ++ [.put text]) =
            texts ++ [text]
          cases first <;> rfl
    | unwinding =>
      rcases r with (_ | _ | _) | _ <;> cases hg
      trivial
  returned f r job texts _ hinv hend := by
    change (vibevoiceResume py f r job).2 = .ended .returned at hend
    change VibevoiceFrame at f
    cases f with
    | start =>
      cases r with
      | cancelled => cases hend
      | value event =>
        simp only [vibevoiceResume] at hend
        split at hend <;> cases hend
    | streaming first accumulated =>
      obtain rfl : texts = accumulated := hinv
      rcases r with (_ | _ | _) | _ <;> try cases hend
      cases hvalid : validateVibevoiceOutput py (String.join texts) job with
      | some refusal => simp [vibevoiceResume, hvalid] at hend
      | none =>
        show SegmentArray (String.join (texts ++
          putTexts (vibevoiceResume py (.streaming first texts) (.value .finished) job).1))
        have hquiet : (vibevoiceResume py (.streaming first texts) (.value .finished) job).1 =
            [] := by
          simp only [vibevoiceResume, hvalid]
        rw [hquiet, show putTexts [] = [] from rfl, List.append_nil]
        exact segmentArray_of_validate hloads hvalid
    | unwinding => rcases r with (_ | _ | _) | _ <;> cases hend

/-- The text a text is wrapped in. -/
theorem segmentArray_groqSegment (hdumps : py.DumpsJson) (duration : ℚ) (text : String) :
    SegmentArray (py.dumps (groqSegment py duration text)) := by
  have hfields : Json.Printable (.dict [("Start", .int 0), ("End", .float (py.floatRepr duration)),
      ("Content", .str text)]) := by
    refine .dict (by simp) ?_
    intro field hfield
    simp only [List.mem_cons, List.not_mem_nil, or_false] at hfield
    rcases hfield with rfl | rfl | rfl
    · exact .int 0
    · exact .float (hdumps.floatRepr duration)
    · exact .str text
  have hprintable : Json.Printable (groqSegment py duration text) :=
    .list fun v hv => List.mem_singleton.mp hv ▸ hfields
  refine ⟨_, (hdumps.dumps _ hprintable).strip_list.document, fun segment hsegment => ?_⟩
  rw [List.mem_singleton.mp hsegment]
  simp [HasContent]

/-- **`process_groq_job`**: it puts one chunk, unless the reply is empty. -/
def groqContract (hdumps : py.DumpsJson) : Contract (processGroqJob py) where
  allowed
    | .transcribing, .value (.text text) => text ≠ ""
    | _, _ => True
  inv
    | .start, texts => texts = []
    | .transcribing, texts => texts = []
    | .unwinding, _ => True
  post texts := SegmentArray (String.join texts)
  start := rfl
  await f r job g texts _ hinv hg := by
    change (groqResume py f r job).2 = .await g at hg
    change GroqFrame at f g
    cases f with
    | start =>
      obtain rfl : texts = [] := hinv
      cases r with
      | cancelled => cases hg
      | value reply =>
        simp only [groqResume] at hg
        split at hg <;> cases hg
        rename_i hpath
        show [] ++ putTexts (groqResume py .start (.value reply) job).1 = []
        simp [groqResume, hpath, putTexts]
    | transcribing =>
      rcases r with (_ | _) | _ <;> cases hg
      trivial
    | unwinding =>
      rcases r with (_ | _) | _ <;> cases hg
      trivial
  returned f r job texts hallowed hinv hend := by
    change (groqResume py f r job).2 = .ended .returned at hend
    change GroqFrame at f
    cases f with
    | start =>
      cases r with
      | cancelled => cases hend
      | value reply =>
        simp only [groqResume] at hend
        split at hend <;> cases hend
    | transcribing =>
      obtain rfl : texts = [] := hinv
      rcases r with (text | _) | _ <;> try cases hend
      have htext : text ≠ "" := hallowed
      show SegmentArray (String.join ([] ++
        putTexts (groqResume py .transcribing (.value (.text text)) job).1))
      have hput : (groqResume py .transcribing (.value (.text text)) job).1 =
          [.put (py.dumps (groqSegment py job.audioDurationSeconds text))] := by
        simp only [groqResume, if_neg htext]
      rw [hput]
      have hjoin : String.join ([] ++ putTexts [.put (py.dumps (groqSegment py
          job.audioDurationSeconds text))]) =
          py.dumps (groqSegment py job.audioDurationSeconds text) := by
        simp [putTexts, String.join]
      rw [hjoin]
      exact segmentArray_groqSegment hdumps _ _
    | unwinding => rcases r with (_ | _) | _ <;> cases hend

end Promise

/-! ## Runs -/

/-- The contract of the process function of a backend. -/
def segmentContract {py : PythonText} (hloads : py.LoadsOnlyJson) (hdumps : py.DumpsJson) :
    (backend : AsrBackend) → Contract (processFn py backend)
  | .vibevoice => vibevoiceContract hloads
  | .groq => groqContract hdumps

/-- **A reply from which no array can be made**: text of the model that is none, an
exception in place of a reply. -/
def Unusable (py : PythonText) : (backend : AsrBackend) → (processFn py backend).Frame →
    (processFn py backend).Input → Prop
  | .vibevoice, .streaming _ accumulated, .finished => ¬ SegmentArray (String.join accumulated)
  | .vibevoice, .streaming _ _, .raised _ => True
  | .groq, .transcribing, .raised _ => True
  | _, _, _ => False

namespace TranscriptionQueue

open TranscriptionJob

/-- The task awaits the reply of Groq, and has not been asked to stop. -/
def awaitsReply : Option (ProcessTask GroqFrame) → Bool
  | some ⟨_, .suspended .transcribing false⟩ => true
  | _ => false

/-- The reply is not that of Groq, or has a text that is not empty, or has none. -/
def isWorded (py : PythonText) : (backend : AsrBackend) →
    TranscriptionQueue (processFn py backend).Frame → Action (processFn py backend).Input → Bool
  | .groq, s, .process t (.text text) => !(awaitsReply (s.task t) && text == "")
  | _, _, _ => true

/-- **No reply of Groq is an object with an empty text.** -/
def Worded (py : PythonText) (backend : AsrBackend)
    (s : TranscriptionQueue (processFn py backend).Frame)
    (a : Action (processFn py backend).Input) : Prop :=
  isWorded py backend s a = true

instance (py : PythonText) (backend : AsrBackend)
    (s : TranscriptionQueue (processFn py backend).Frame)
    (a : Action (processFn py backend).Input) : Decidable (Worded py backend s a) :=
  inferInstanceAs (Decidable (_ = true))

section Runs

variable {py : PythonText} {backend : AsrBackend} {maxSize : ℕ}
  {s : TranscriptionQueue (processFn py backend).Frame}

/-- What is handed to a task is what the contract allows. -/
theorem heeds_of_worded (hloads : py.LoadsOnlyJson) (hdumps : py.DumpsJson)
    {a : Action (processFn py backend).Input} (h : Worded py backend s a) :
    Heeds (segmentContract hloads hdumps backend) s a := by
  intro t input ha id f c ht
  cases backend with
  | vibevoice => trivial
  | groq =>
    change GroqFrame at f
    cases c with
    | true => cases f <;> trivial
    | false =>
      cases f with
      | start | unwinding => trivial
      | transcribing =>
        cases input with
        | raised exc => trivial
        | text text =>
          show text ≠ ""
          rintro rfl
          subst ha
          simp [Worded, isWorded, ht, awaitsReply] at h

/-- The chunks of a completed job are a text a client can read. -/
theorem segmentArray_of_completed (hloads : py.LoadsOnlyJson) (hdumps : py.DumpsJson)
    (h : (system (processFn py backend) maxSize).ReachableWhen (Worded py backend) s) {id : JobId}
    (hst : (s.job id).status = .completed) : SegmentArray (String.join (s.job id).texts) := by
  have hfulfilled := fulfilled_of_reachable
    (h.mono fun s a ha => heeds_of_worded hloads hdumps ha)
  have hpost := hfulfilled.completed id hst
  cases backend <;> exact hpost

/-- The chunks come first, and then the sentinel. -/
theorem puts_eq {pf : ProcessFn} {P : TranscriptionQueue pf.Frame → Action pf.Input → Prop}
    {s : TranscriptionQueue pf.Frame} (h : (system pf maxSize).ReachableWhen P s) (id : JobId) :
    (s.job id).puts = (s.job id).texts.map some ++
      if (s.job id).terminalNotified then [none] else [] := by
  obtain ⟨chunks, hputs⟩ := ((books_of_reachable h).entry id).puts
  have htexts : (s.job id).texts = chunks := by
    rw [texts, hputs, chunksOf, List.filterMap_append]
    split <;> simp
  rw [htexts]
  exact hputs

/-- What is unusable is raised, with a message. -/
theorem raised_of_unusable (hloads : py.LoadsOnlyJson) {f : (processFn py backend).Frame}
    {input : (processFn py backend).Input} (h : Unusable py backend f input)
    (job : TranscriptionJob) :
    ∃ exc, ((processFn py backend).resume f (.value input) job).2 = .ended (.raised exc) := by
  cases backend with
  | vibevoice =>
    change VibevoiceFrame at f
    change StreamEvent at input
    cases f with
    | start => exact h.elim
    | unwinding => exact h.elim
    | streaming first accumulated =>
      cases input with
      | chunk text => exact h.elim
      | raised exc => exact ⟨exc, rfl⟩
      | finished =>
        show ∃ exc, (vibevoiceResume py (.streaming first accumulated) (.value .finished) job).2 =
          .ended (.raised exc)
        cases hvalid : validateVibevoiceOutput py (String.join accumulated) job with
        | none => exact absurd (segmentArray_of_validate hloads hvalid) h
        | some refusal => exact ⟨refusal.exception, by simp only [vibevoiceResume, hvalid]⟩
  | groq =>
    change GroqFrame at f
    change GroqReply at input
    cases f with
    | start => exact h.elim
    | unwinding => exact h.elim
    | transcribing =>
      cases input with
      | text text => exact h.elim
      | raised exc => exact ⟨exc, rfl⟩

end Runs

/-- A job that failed is reported with an error, and not as done. -/
theorem report_failed {job : TranscriptionJob} (hst : job.status = .failed) (st : EventStream) :
    ∃ message, (st.report job).emitted = st.emitted ++ [.error message] := by
  rw [EventStream.report, if_neg (by simp [hst]), if_pos (Or.inl hst)]
  exact ⟨_, rfl⟩

/-- **Both backends keep one format**, in the runs in which no reply of Groq is an
empty text: the chunks of a completed job are a JSON array of objects with a
`Content`, and a job that is over and has none is `FAILED`, with a message, and is
reported with an error.  A reply from which no array can be made fails the job as
soon as the worker is resumed. -/
theorem segments_contract {py : PythonText} (hloads : py.LoadsOnlyJson) (hdumps : py.DumpsJson)
    (backend : AsrBackend) (maxSize : ℕ) (id : JobId) :
    (∀ s, (system (processFn py backend) maxSize).ReachableWhen (Worded py backend) s →
      ((s.job id).status = .completed →
        (s.job id).puts = (s.job id).texts.map some ++
            (if (s.job id).terminalNotified then [none] else []) ∧
          SegmentArray (String.join (s.job id).texts)) ∧
      ((s.job id).status.isTerminal = true → ¬ SegmentArray (String.join (s.job id).texts) →
        (s.job id).status ≠ .completed ∧ (s.job id).errorMessage.isSome = true)) ∧
    (∀ s, (system (processFn py backend) maxSize).ReachableWhen
        (fun s a => Worded py backend s a ∧ Uncancelled id s a) s →
      (s.job id).status.isTerminal = true → ¬ SegmentArray (String.join (s.job id).texts) →
        (s.job id).status = .failed ∧ (s.job id).errorMessage.isSome = true ∧
          ∀ st : EventStream, ∃ message,
            (st.report (s.job id)).emitted = st.emitted ++ [.error message]) ∧
    (∀ s, (system (processFn py backend) maxSize).ReachableWhen (Uncancelled id) s →
      ∀ t start f c input, s.worker = .awaiting id t start →
        s.task t = some ⟨id, .suspended f c⟩ → Unusable py backend f input →
          ∃ s', (system (processFn py backend) maxSize).step s (.process t input) = some s' ∧
            ∀ now unlink, ∃ s'',
              (system (processFn py backend) maxSize).step s' (.worker now unlink) = some s'' ∧
                (s''.job id).status = .failed ∧ (s''.job id).errorMessage.isSome = true) ∧
    ∀ response : GroqResponse, (∀ text, ¬ response.HasText text) →
      Unusable py .groq .transcribing (transcribeAudioFile py response) := by
  have hall (s) (h : (system (processFn py backend) maxSize).ReachableWhen (Worded py backend) s)
      (hterm : (s.job id).status.isTerminal = true)
      (hnot : ¬ SegmentArray (String.join (s.job id).texts)) :
      (s.job id).status ≠ .completed ∧ (s.job id).errorMessage.isSome = true := by
    have hincomplete : (s.job id).status ≠ .completed :=
      fun hst => hnot (segmentArray_of_completed hloads hdumps h hst)
    exact ⟨hincomplete, (explained_of_reachable h id hterm).resolve_left hincomplete⟩
  refine ⟨fun s h => ⟨fun hst => ⟨puts_eq h id, segmentArray_of_completed hloads hdumps h hst⟩,
    hall s h⟩, fun s h hterm hnot => ?_, fun s h t start f c input hw ht hunusable => ?_,
    fun response hnone => ?_⟩
  · have hC := processFn_cancelledOnlyOnRequest py backend
    have hworded := h.mono fun _ _ ha => ha.1
    have hunharmed := unharmed_of_reachable hC (h.mono fun _ _ ha => ha.2)
    obtain ⟨hincomplete, hmessage⟩ := hall s hworded hterm hnot
    have hfailed := (hunharmed.completed_or_failed hterm).resolve_left hincomplete
    exact ⟨hfailed, hmessage, report_failed hfailed⟩
  · obtain ⟨exc, hend⟩ := raised_of_unusable hloads hunusable (s.job id)
    obtain ⟨s', hstep, hnext⟩ :=
      failed_of_raised (processFn_cancelledOnlyOnRequest py backend) h hw ht hend
    refine ⟨s', hstep, fun now unlink => ?_⟩
    obtain ⟨s'', hresume, hfailed, hmessage⟩ := hnext now unlink
    exact ⟨s'', hresume, hfailed, by rw [hmessage]; rfl⟩
  · obtain ⟨message, hreply⟩ := @transcribeAudioFile_raised py response hnone
    rw [hreply]
    trivial

/-- A response of Groq with a text, and the job it completes. -/
theorem segments_contract_groq :
    ∃ s, (system (processFn PythonText.jsonModule .groq) 1).execWhen
        (Worded PythonText.jsonModule .groq) { maxSize := 1 }
        [.reserve "a" "x", .attach "a" ["vvv-upload-a", "audio.audio"] [] "audio/wav" none 1,
          .submit "a", .worker 0 .removed, .process 0 (.text ""), .process 0 (.text "hi"),
          .worker 1 .removed] = some s ∧
      (s.job "a").status = .completed ∧ SegmentArray (String.join (s.job "a").texts) := by
  have hrun : (system (processFn PythonText.jsonModule .groq) 1).execWhen
      (Worded PythonText.jsonModule .groq) { maxSize := 1 }
      [.reserve "a" "x", .attach "a" ["vvv-upload-a", "audio.audio"] [] "audio/wav" none 1,
        .submit "a", .worker 0 .removed, .process 0 (.text ""), .process 0 (.text "hi"),
        .worker 1 .removed] = some _ := rfl
  have hend := ((segments_contract PythonText.loadsJson_jsonModule.only
    PythonText.dumpsJson_jsonModule .groq 1 "a").1 _
    (TransitionSystem.reachableWhen_of_execWhen _ rfl hrun)).1 rfl
  exact ⟨_, hrun, rfl, hend.2⟩

/-- **The format is broken in some runs**: Groq replies with an empty text, the job is
completed, and there is no chunk. -/
theorem empty_reply_completed :
    PythonText.jsonModule.LoadsJson ∧ PythonText.jsonModule.DumpsJson ∧
      ∃ s, (system (processFn PythonText.jsonModule .groq) 1).exec { maxSize := 1 }
          [.reserve "a" "x", .attach "a" ["vvv-upload-a", "audio.audio"] [] "audio/wav" none 1,
            .submit "a", .worker 0 .removed, .process 0 (.text ""),
            .process 0 (transcribeAudioFile PythonText.jsonModule
              ⟨200, "\x7b\"text\": \"\"\x7d", .ok (.dict [("text", .str "")])⟩),
            .worker 1 .removed] = some s ∧
        (s.job "a").status = .completed ∧ (s.job "a").errorMessage = none ∧
        (s.job "a").puts = [none] ∧ ¬ SegmentArray (String.join (s.job "a").texts) :=
  ⟨PythonText.loadsJson_jsonModule, PythonText.dumpsJson_jsonModule, _, rfl, rfl, rfl, rfl,
    not_segmentArray_empty⟩

end TranscriptionQueue

end VibeVoice
