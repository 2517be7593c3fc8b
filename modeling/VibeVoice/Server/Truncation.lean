import VibeVoice.Server.Segments
import VibeVoice.Server.VllmClient

/-!
# A stream that stops early

`stream_transcription` does not ask for the `[DONE]` that ends a response, and it
skips a line that reports an error.  So a response that breaks off looks to it like
one that is complete, and the deltas it yields are the first ones of those it would
have yielded (`streamLines_append_cut`).  Nothing between it and the client counts
them: what tells the two apart is that the whole text is looked at in the end, by
`_validate_vibevoice_output`.

That this is enough is a property of the format.  A JSON array ends with the
bracket that closes the one it begins with, so no array is the beginning of
another text that is one (`SegmentArray.space_of_append`); if more than whitespace
is missing from a text that is accepted, the rest is not.

A line can break off, too.  Then it is not JSON any more, unless whitespace is all
that is missing, by the same property of objects (`readLine_partial`).  It is skipped,
or `json.loads` raises something else of it, for it converts a number before it finds
that the text ends too early; and an exception of the generator fails the job no less
than a text that is not accepted (`resumeAll_truncated`).
-/

namespace VibeVoice

section Stream

variable {py : PythonText}

/-! ## Where the stream can stop -/

/-- **The lines in which a stream stops without yielding anything more**: none, or a
`[DONE]`, or one that is skipped and then such lines. -/
inductive Cut (py : PythonText) : List (List Char) → Prop where
  | ended : Cut py []
  | done {line : List Char} {lines : List (List Char)} (h : readLine py line = .done) :
      Cut py (line :: lines)
  | skipped {line : List Char} {lines : List (List Char)} (h : readLine py line = .skip)
      (hlines : Cut py lines) : Cut py (line :: lines)

/-- Nothing is yielded of them. -/
theorem Cut.streamLines_eq {lines : List (List Char)} (h : Cut py lines) :
    streamLines py lines = ([], none) := by
  induction h with
  | ended => rfl
  | done h => rw [streamLines, h]
  | skipped h _ ih => rw [streamLines, h, ih]

/-- An object without choices, like one that reports an error, yields nothing. -/
theorem cut_errorObject {t : List Char} {fields : List (String × PyJson)}
    {lines : List (List Char)} (hvalue : py.loads (String.ofList t) = .ok (.dict fields))
    (hnone : "choices" ∉ fields.map Prod.fst) (hlines : Cut py lines) :
    Cut py ((dataPrefix ++ t) :: lines) := by
  have hany : (fields.any fun field => field.1 = "choices") = false := by
    refine Bool.eq_false_iff.mpr fun hany => ?_
    obtain ⟨field, hfield, hkey⟩ := List.any_eq_true.mp hany
    exact hnone (List.mem_map.mpr ⟨field, hfield, of_decide_eq_true hkey⟩)
  have hchunk : chunkText (.dict fields) = .ok none := by
    simp only [chunkText, pyContains, hany, Except.bind, Bool.not_false, if_true]
  have hprefix : dataPrefix.isPrefixOf (dataPrefix ++ t) = true := by simp
  by_cases hdone : pyStripChars t = doneText
  · refine .done ?_
    rw [readLine, hprefix, List.drop_left, if_neg (by simp), if_pos hdone]
  · refine .skipped ?_ hlines
    rw [readLine, hprefix, List.drop_left, if_neg (by simp), if_neg hdone, hvalue]
    simp only [hchunk]

/-- **A stream that goes on otherwise** yields the first deltas all the same, and ends as the
lines it goes on with do, or before it comes to them. -/
theorem streamLines_append_of_nothing {lines rest cut : List (List Char)} {texts : List PyJson}
    (h : streamLines py (lines ++ rest) = (texts, none)) {exc : Option PyException}
    (hcut : streamLines py cut = ([], exc)) : ∃ kept dropped, texts = kept ++ dropped ∧
      (streamLines py (lines ++ cut) = (kept, exc) ∨
        streamLines py (lines ++ cut) = (kept, none)) := by
  induction lines generalizing texts with
  | nil => exact ⟨[], texts, rfl, Or.inl hcut⟩
  | cons line lines ih =>
    rw [List.cons_append, streamLines] at h
    rw [List.cons_append, streamLines]
    cases hline : readLine py line with
    | skip =>
      simp only [hline] at h
      exact ih h
    | yields text =>
      simp only [hline, Prod.mk.injEq] at h
      obtain ⟨htexts, hend⟩ := h
      obtain ⟨kept, dropped, hsplit, hkept⟩ := ih (Prod.ext rfl hend)
      refine ⟨text :: kept, dropped, htexts.symm.trans (congrArg (text :: ·) hsplit), ?_⟩
      exact hkept.imp (fun hkept => by rw [hkept]) fun hkept => by rw [hkept]
    | done =>
      simp only [hline, Prod.mk.injEq] at h
      exact ⟨[], texts, rfl, Or.inr rfl⟩
    | raises exc' =>
      simp only [hline, Prod.mk.injEq] at h
      exact absurd h.2 (by simp)

/-- **A stream that stops early yields the first deltas**, and raises nothing. -/
theorem streamLines_append_cut {lines rest cut : List (List Char)} {texts : List PyJson}
    (h : streamLines py (lines ++ rest) = (texts, none)) (hcut : Cut py cut) :
    ∃ kept dropped, texts = kept ++ dropped ∧ streamLines py (lines ++ cut) = (kept, none) := by
  obtain ⟨kept, dropped, hsplit, hkept⟩ := streamLines_append_of_nothing h hcut.streamLines_eq
  exact ⟨kept, dropped, hsplit, hkept.elim id id⟩

/-! ## A line that breaks off -/

/-- What begins an object is not `[DONE]`. -/
theorem ne_doneText_of_document {fields : List (String × PyJson)} {t r : List Char}
    (h : Json.Document (.dict fields) (t ++ r)) : pyStripChars t ≠ doneText := by
  intro hdone
  obtain ⟨a, b, ht, ha, -⟩ := Json.exists_pyStripChars t
  obtain ⟨w, core, w', hw, -, heq, htext⟩ := h
  obtain ⟨cs, rfl⟩ := htext.dict_brace
  rw [ht, hdone] at heq
  have hdrop := congrArg (List.dropWhile isPySpace) heq
  rw [List.append_assoc, List.dropWhile_append_of_pos ha,
    List.dropWhile_append_of_pos fun c hc => Json.isPySpace_of_isWs (hw c hc)] at hdrop
  exact absurd (List.cons.inj hdrop).1 (by decide)

/-- **A line that breaks off** is skipped, or lacks nothing but whitespace, or `json.loads`
raises something of it that the loop lets out. -/
theorem readLine_partial (hloads : py.LoadsOnlyJson) {p r : List Char} {text : PyJson}
    (h : readLine py (p ++ r) = .yields text) :
    readLine py p = .skip ∨ readLine py p = .yields text ∨
      ∃ exc, LoadsRaises py exc ∧ readLine py p = .raises exc := by
  obtain ⟨t, data, hline, hdata, htext⟩ := readLine_eq_yields h
  obtain ⟨fields, rfl, -⟩ := chunkText_eq_some htext
  have hdoc := hloads _ _ hdata
  rw [String.toList_ofList] at hdoc
  by_cases hprefix : dataPrefix.isPrefixOf p = true
  · obtain ⟨t', rfl⟩ := List.isPrefixOf_iff_prefix.mp hprefix
    rw [List.append_assoc] at hline
    obtain rfl := List.append_cancel_left hline
    rw [readLine, hprefix, List.drop_left, if_neg (by simp),
      if_neg (ne_doneText_of_document hdoc)]
    cases hvalue : py.loads (String.ofList t') with
    | error e =>
      cases e with
      | decode text => exact Or.inl rfl
      | other typeName text => exact Or.inr (Or.inr ⟨⟨typeName, text⟩, ⟨_, hvalue⟩, rfl⟩)
    | ok value =>
      have hdoc' := hloads _ _ hvalue
      rw [String.toList_ofList] at hdoc'
      obtain rfl := hdoc'.eq_of_append hdoc
      exact Or.inr (Or.inl (by simp only [htext]))
  · rw [Bool.not_eq_true] at hprefix
    rw [readLine, hprefix]
    exact Or.inl rfl

/-- Two lines of which the same is made. -/
theorem streamLines_congr_line {p q : List Char} (h : readLine py p = readLine py q)
    (lines rest : List (List Char)) :
    streamLines py (lines ++ p :: rest) = streamLines py (lines ++ q :: rest) := by
  induction lines with
  | nil => simp only [List.nil_append, streamLines, h]
  | cons line lines ih => simp only [List.cons_append, streamLines, ih]

/-- A stream that stops in the middle of a line that would have yielded something. -/
theorem streamLines_append_partial (hloads : py.LoadsOnlyJson) {lines rest : List (List Char)}
    {p r : List Char} {text : PyJson} {texts : List PyJson}
    (h : streamLines py (lines ++ (p ++ r) :: rest) = (texts, none))
    (hline : readLine py (p ++ r) = .yields text) :
    ∃ kept dropped exc, texts = kept ++ dropped ∧ streamLines py (lines ++ [p]) = (kept, exc) ∧
      ∀ e ∈ exc, LoadsRaises py e := by
  rcases readLine_partial hloads hline with hskip | hyields | ⟨e, he, hraises⟩
  · obtain ⟨kept, dropped, hsplit, hkept⟩ := streamLines_append_cut h (.skipped hskip .ended)
    exact ⟨kept, dropped, none, hsplit, hkept, by simp⟩
  · rw [streamLines_congr_line (hyields.trans hline.symm)]
    have hsplit : lines ++ (p ++ r) :: rest = (lines ++ [p ++ r]) ++ rest := by simp
    rw [hsplit] at h
    obtain ⟨kept, dropped, htexts, hkept⟩ := streamLines_append_cut h (.ended)
    rw [List.append_nil] at hkept
    exact ⟨kept, dropped, none, htexts, hkept, by simp⟩
  · have hcut : streamLines py [p] = ([], some e) := by rw [streamLines, hraises]
    obtain ⟨kept, dropped, hsplit, hkept | hkept⟩ := streamLines_append_of_nothing h hcut
    · exact ⟨kept, dropped, some e, hsplit, hkept, fun e' he' => Option.some.inj he' ▸ he⟩
    · exact ⟨kept, dropped, none, hsplit, hkept, by simp⟩

/-! ## The job -/

/-- A text with more than whitespace in it. -/
def Substantial (text : String) : Prop := ∃ c ∈ text.toList, isPySpace c = false

theorem not_segmentArray_of_append {p q : String} (h : SegmentArray (p ++ q))
    (hq : Substantial q) : ¬ SegmentArray p := by
  intro hp
  obtain ⟨c, hc, hspace⟩ := hq
  exact absurd (hspace.symm.trans (hp.space_of_append h c hc)) (by decide)

/-- **What is accepted is not accepted truncated.** -/
theorem validate_truncated (hloads : py.LoadsOnlyJson) {p q : String} {job : TranscriptionJob}
    (h : validateVibevoiceOutput py (p ++ q) job = none) (hq : Substantial q)
    (job' : TranscriptionJob) : ∃ refusal, validateVibevoiceOutput py p job' = some refusal := by
  cases hvalid : validateVibevoiceOutput py p job' with
  | some refusal => exact ⟨refusal, rfl⟩
  | none =>
    exact absurd (segmentArray_of_validate hloads hvalid)
      (not_segmentArray_of_append (segmentArray_of_validate hloads h) hq)

/-- An exception of the generator is the exception of `process_vibevoice_job`. -/
theorem resumeAll_chunks_raised (first : Bool) (accumulated deltas : List String)
    (exc : PyException) (job : TranscriptionJob) :
    (resumeAll py (.streaming first accumulated) job
      (deltas.map .chunk ++ [.raised exc])).2 = .ended (.raised exc) := by
  induction deltas generalizing first accumulated job with
  | nil => rfl
  | cons delta deltas ih => exact ih false (accumulated ++ [delta]) _

/-- **`process_vibevoice_job` raises** when it gets the first deltas of a stream it
would have accepted, and the generator then returns or raises. -/
theorem resumeAll_truncated (hloads : py.LoadsOnlyJson) {kept dropped : List String}
    {job : TranscriptionJob}
    (h : (resumeAll py (.streaming true []) job
      ((kept ++ dropped).map .chunk ++ [.finished])).2 = .ended .returned)
    (hdropped : Substantial (String.join dropped)) (job' : TranscriptionJob)
    (exc : Option PyException) :
    ∃ e, (resumeAll py (.streaming true []) job' (kept.map .chunk ++ [endEvent exc])).2 =
      .ended (.raised e) := by
  cases exc with
  | some exc => exact ⟨exc, resumeAll_chunks_raised true [] kept exc job'⟩
  | none =>
    have hwhole := (@resumeAll_chunks py true [] (kept ++ dropped) job).2
    have hpart := (@resumeAll_chunks py true [] kept job').2
    rw [h, List.nil_append] at hwhole
    rw [List.nil_append] at hpart
    cases hvalid : validateVibevoiceOutput py (String.join (kept ++ dropped)) job with
    | some refusal =>
      rw [hvalid] at hwhole
      exact absurd hwhole (by simp)
    | none =>
      rw [String.join_append] at hvalid
      obtain ⟨refusal, hrefusal⟩ := validate_truncated hloads hvalid hdropped job'
      rw [hrefusal] at hpart
      exact ⟨refusal.exception, hpart⟩

end Stream

/-- What is yielded of a stream that stops early, as strings. -/
theorem exists_kept {deltas : List String} {texts : List PyJson} {kept dropped : List PyJson}
    (htexts : texts = deltas.map .str) (hsplit : texts = kept ++ dropped) :
    ∃ kept' dropped' : List String, deltas = kept' ++ dropped' ∧ kept = kept'.map .str := by
  obtain ⟨kept', dropped', hdeltas, hkept, -⟩ :=
    List.map_eq_append_iff.mp (htexts.symm.trans hsplit)
  exact ⟨kept', dropped', hdeltas, hkept.symm⟩

namespace TranscriptionQueue

open TranscriptionJob

variable {py : PythonText} {maxSize : ℕ} {id : JobId} {s : TranscriptionQueue VibevoiceFrame}

/-- The chunks of the job are the beginning of a text that would have been accepted. -/
def Truncated (py : PythonText) (job : TranscriptionJob) : Prop :=
  ∃ dropped : String, Substantial dropped ∧
    ∃ j, validateVibevoiceOutput py (String.join job.texts ++ dropped) j = none

theorem Truncated.not_segmentArray (hloads : py.LoadsOnlyJson) {job : TranscriptionJob}
    (h : Truncated py job) : ¬ SegmentArray (String.join job.texts) := by
  obtain ⟨dropped, hdropped, j, hvalid⟩ := h
  exact not_segmentArray_of_append (segmentArray_of_validate hloads hvalid) hdropped

/-- It is not completed, whatever happens to it. -/
theorem Truncated.not_completed (hloads : py.LoadsOnlyJson)
    (hs : (system (processVibevoiceJob py) maxSize).Reachable s)
    (h : Truncated py (s.job id)) : (s.job id).status ≠ .completed := fun hst =>
  h.not_segmentArray hloads ((fulfilled_of_reachable (C := vibevoiceContract hloads)
    (hs.mono fun _ _ _ _ _ _ _ _ _ _ => trivial)).completed id hst)

/-- It is over only as `FAILED`, if nobody cancels it. -/
theorem Truncated.failed (hloads : py.LoadsOnlyJson)
    (hs : (system (processVibevoiceJob py) maxSize).ReachableWhen (Uncancelled id) s)
    (h : Truncated py (s.job id)) (hterm : (s.job id).status.isTerminal = true) :
    (s.job id).status = .failed ∧ (s.job id).errorMessage.isSome = true := by
  have hincomplete := h.not_completed hloads hs.reachable
  have hunharmed := unharmed_of_reachable (processVibevoiceJob_cancelledOnlyOnRequest py) hs
  exact ⟨(hunharmed.completed_or_failed hterm).resolve_left hincomplete,
    (explained_of_reachable hs id hterm).resolve_left hincomplete⟩

/-- The end of the stream fails it, as soon as the worker is resumed: the generator returns
or raises. -/
theorem Truncated.failed_next (hloads : py.LoadsOnlyJson)
    (hs : (system (processVibevoiceJob py) maxSize).ReachableWhen (Uncancelled id) s)
    (h : Truncated py (s.job id)) {t : TaskId} {start : ℚ} {first c : Bool}
    {accumulated : List String} (hw : s.worker = .awaiting id t start)
    (ht : s.task t = some ⟨id, .suspended (.streaming first accumulated) c⟩)
    (exc : Option PyException) :
    ∃ s', (system (processVibevoiceJob py) maxSize).step s (.process t (endEvent exc)) =
        some s' ∧
      ∀ now unlink, ∃ s'',
        (system (processVibevoiceJob py) maxSize).step s' (.worker now unlink) = some s'' ∧
          (s''.job id).status = .failed ∧ (s''.job id).errorMessage.isSome = true := by
  have hfulfilled := fulfilled_of_reachable (C := vibevoiceContract hloads)
    (hs.mono fun _ _ _ _ _ _ _ _ _ _ => trivial)
  have htexts : (s.job id).texts = accumulated := hfulfilled.awaited id t start _ hw ht
  have hunusable : Unusable py .vibevoice (.streaming first accumulated) (endEvent exc) := by
    cases exc with
    | none => exact htexts ▸ h.not_segmentArray hloads
    | some exc => trivial
  obtain ⟨exc, hend⟩ := raised_of_unusable hloads hunusable (s.job id)
  obtain ⟨s', hstep, hnext⟩ :=
    failed_of_raised (processVibevoiceJob_cancelledOnlyOnRequest py) hs hw ht hend
  refine ⟨s', hstep, fun now unlink => ?_⟩
  obtain ⟨s'', hresume, hfailed, hmessage⟩ := hnext now unlink
  exact ⟨s'', hresume, hfailed, by rw [hmessage]; rfl⟩

/-- **A truncated stream is never reported as success.**  No text that is accepted
has a beginning that is, if more than whitespace is missing.  A stream that stops
early yields the first deltas, and with them `process_vibevoice_job` raises, whether the
generator then returns or raises; and the worker ends the job as `FAILED` with a message,
unless it was cancelled. -/
theorem truncated_never_completed {py : PythonText} (hloads : py.LoadsOnlyJson) :
    (∀ (p q : String) (job job' : TranscriptionJob),
      validateVibevoiceOutput py (p ++ q) job = none → Substantial q →
        validateVibevoiceOutput py p job' ≠ none) ∧
    (∀ (lines rest cut : List (List Char)) (deltas : List String),
      streamLines py (lines ++ rest) = (deltas.map .str, none) → Cut py cut →
        ∃ kept dropped : List String, deltas = kept ++ dropped ∧
          streamLines py (lines ++ cut) = (kept.map .str, none)) ∧
    (∀ (t : List Char) (fields : List (String × PyJson)) (lines : List (List Char)),
      py.loads (String.ofList t) = .ok (.dict fields) → "choices" ∉ fields.map Prod.fst →
        Cut py lines → Cut py ((dataPrefix ++ t) :: lines)) ∧
    (∀ (lines rest : List (List Char)) (p r : List Char) (deltas : List String) (text : PyJson),
      readLine py (p ++ r) = .yields text →
      streamLines py (lines ++ (p ++ r) :: rest) = (deltas.map .str, none) →
        ∃ (kept dropped : List String) (exc : Option PyException), deltas = kept ++ dropped ∧
          streamLines py (lines ++ [p]) = (kept.map .str, exc) ∧ ∀ e ∈ exc, LoadsRaises py e) ∧
    (∀ (kept dropped : List String) (exc : Option PyException) (job job' : TranscriptionJob),
      (resumeAll py (.streaming true []) job
        ((kept ++ dropped).map .chunk ++ [.finished])).2 = .ended .returned →
      Substantial (String.join dropped) → ∃ e,
        (resumeAll py (.streaming true []) job' (kept.map .chunk ++ [endEvent exc])).2 =
          .ended (.raised e)) ∧
    ∀ (maxSize : ℕ) (id : JobId) (s : TranscriptionQueue VibevoiceFrame),
      Truncated py (s.job id) →
        ((system (processVibevoiceJob py) maxSize).Reachable s →
          (s.job id).status ≠ .completed) ∧
        ((system (processVibevoiceJob py) maxSize).ReachableWhen (Uncancelled id) s →
          ((s.job id).status.isTerminal = true →
            (s.job id).status = .failed ∧ (s.job id).errorMessage.isSome = true) ∧
          ∀ t start first accumulated c, s.worker = .awaiting id t start →
            s.task t = some ⟨id, .suspended (.streaming first accumulated) c⟩ →
              ∀ exc, ∃ s',
                (system (processVibevoiceJob py) maxSize).step s (.process t (endEvent exc)) =
                  some s' ∧
                ∀ now unlink, ∃ s'',
                  (system (processVibevoiceJob py) maxSize).step s' (.worker now unlink) =
                      some s'' ∧
                    (s''.job id).status = .failed ∧
                      (s''.job id).errorMessage.isSome = true) := by
  refine ⟨fun p q job job' h hq => ?_, fun lines rest cut deltas h hcut => ?_,
    fun t fields lines => cut_errorObject, fun lines rest p r deltas text hline h => ?_,
    fun kept dropped exc job job' h hdropped => resumeAll_truncated hloads h hdropped job' exc,
    fun maxSize id s h => ⟨fun hs => h.not_completed hloads hs,
      fun hs => ⟨fun hterm => h.failed hloads hs hterm,
        fun t start first accumulated c hw ht => h.failed_next hloads hs hw ht⟩⟩⟩
  · obtain ⟨refusal, hrefusal⟩ := validate_truncated hloads h hq job'
    rw [hrefusal]
    exact Option.some_ne_none refusal
  · obtain ⟨kept, dropped, hsplit, hkept⟩ := streamLines_append_cut h hcut
    obtain ⟨kept', dropped', hdeltas, rfl⟩ := exists_kept rfl hsplit
    exact ⟨kept', dropped', hdeltas, hkept⟩
  · obtain ⟨kept, dropped, exc, hsplit, hkept⟩ := streamLines_append_partial hloads h hline
    obtain ⟨kept', dropped', hdeltas, rfl⟩ := exists_kept rfl hsplit
    exact ⟨kept', dropped', exc, hdeltas, hkept⟩

/-- A stream that breaks off after its first delta. -/
theorem truncated_never_completed_first :
    ∃ s, (system (processVibevoiceJob PythonText.jsonModule) 1).execWhen (Uncancelled "a")
        { maxSize := 1 }
        [.reserve "a" "x", .attach "a" ["vvv-upload-a", "audio.audio"] [] "audio/wav" none 1,
          .submit "a", .worker 0 .removed, .process 0 .finished,
          .process 0 (.chunk "[\x7b\"Content\": \"h")] = some s ∧
      ∃ s', (system (processVibevoiceJob PythonText.jsonModule) 1).step s
          (.process 0 .finished) = some s' ∧
        ∀ now unlink, ∃ s'',
          (system (processVibevoiceJob PythonText.jsonModule) 1).step s' (.worker now unlink) =
              some s'' ∧
            (s''.job "a").status = .failed ∧ (s''.job "a").errorMessage.isSome = true := by
  obtain ⟨s, hrun, htexts, hw, ht⟩ : ∃ s,
      (system (processVibevoiceJob PythonText.jsonModule) 1).execWhen (Uncancelled "a")
        { maxSize := 1 }
        [.reserve "a" "x", .attach "a" ["vvv-upload-a", "audio.audio"] [] "audio/wav" none 1,
          .submit "a", .worker 0 .removed, .process 0 .finished,
          .process 0 (.chunk "[\x7b\"Content\": \"h")] = some s ∧
      (s.job "a").texts = ["[\x7b\"Content\": \"h"] ∧ s.worker = .awaiting "a" 0 0 ∧
      s.task 0 = some ⟨"a", .suspended (.streaming false ["[\x7b\"Content\": \"h"]) false⟩ :=
    ⟨_, rfl, rfl, rfl, rfl⟩
  have hvalid : validateVibevoiceOutput PythonText.jsonModule
      (String.join ["[\x7b\"Content\": \"h"] ++ "i\"\x7d]") { jobId := "a" } = none := by
    decide +kernel
  have htruncated : Truncated PythonText.jsonModule (s.job "a") :=
    ⟨"i\"\x7d]", ⟨'i', by decide, by decide⟩, { jobId := "a" }, htexts ▸ hvalid⟩
  have hend := (truncated_never_completed PythonText.loadsJson_jsonModule.only).2.2.2.2.2 1 "a" s
    htruncated
  exact ⟨s, hrun, (hend.2 (TransitionSystem.reachableWhen_of_execWhen _ rfl hrun)).2 0 0 false _
    false hw ht none⟩

end TranscriptionQueue

end VibeVoice
