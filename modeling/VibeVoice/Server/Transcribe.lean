import VibeVoice.Semantics.PyText
import VibeVoice.Server.Job

/-!
# The process functions

`server/transcribe.py`: the two coroutines the queue can run a job with, as
process functions.  What they await is handed in: a chunk of the model's stream,
its end, an exception; the text of the other backend, or an exception.

An await in which a `CancelledError` is raised is not over at once: the `async
with` blocks of the client close the connection, and that awaits too.  The frame
`unwinding` is there for that time.  Nothing in it touches the job, and when it
is over the coroutine ends with the `CancelledError`, or with the exception the
closing raised in its place.
-/

namespace VibeVoice

/-- `RuntimeError(message)` -/
def runtimeError (message : String) : PyException := ⟨"RuntimeError", message⟩

/-- `json.loads` raises this of some text, and it is not a `JSONDecodeError`. -/
def LoadsRaises (py : PythonText) (exc : PyException) : Prop :=
  ∃ text, py.loads text = .error (.other exc.typeName exc.text)

/-- What `job.require_audio_path()` raises. -/
def requireAudioPath (job : TranscriptionJob) : Except PyException PosixPath :=
  match job.audioPath with
  | none => .error (runtimeError "Job has no audio file")
  | some path => .ok path

/-! ## `_validate_vibevoice_output` -/

section Validate

variable (py : PythonText)

/-- The error of the first segment that is not an object with a `Content`. -/
def segmentError (trimmed : String) : ℕ → List PyJson → Option String
  | _, [] => none
  | i, .dict fields :: segments =>
    if fields.any (fun field => field.1 = "Content") then segmentError trimmed (i + 1) segments
    else
      some ("VibeVoice segment[" ++ toString i ++ "] missing 'Content' key. keys=" ++
        py.reprList (fields.map Prod.fst) ++ ", output_preview=" ++
        py.repr (pyPrefix trimmed 500))
  | i, segment :: _ =>
    some ("VibeVoice segment[" ++ toString i ++ "] is " ++ segment.typeName ++
      ", expected object. output_preview=" ++ py.repr (pyPrefix trimmed 500))

/-- How `_validate_vibevoice_output` ends when it does not return. -/
inductive Refusal where
  /-- It sets `error_message` and raises it as a `RuntimeError`. -/
  | message (text : String) : Refusal
  /-- `json.loads` raises something that is not a `JSONDecodeError`. -/
  | raised (exc : PyException) : Refusal

namespace Refusal

/-- What was done to the job. -/
def effects : Refusal → List ProcessEffect
  | message text => [.error text]
  | raised _ => []

/-- What is raised. -/
def exception : Refusal → PyException
  | message text => runtimeError text
  | raised exc => exc

end Refusal

/-- `_validate_vibevoice_output` -/
def validateVibevoiceOutput (raw : String) (job : TranscriptionJob) : Option Refusal :=
  let trimmed := pyStrip raw
  let duration := "audio_duration=" ++ py.fixed2 job.audioDurationSeconds ++ "s, "
  if trimmed = "" then
    some (.message ("VibeVoice model returned empty output. " ++ duration ++ "audio_mime=" ++
      job.audioMime))
  else
    match py.loads trimmed with
    | .error (.decode e) =>
      some (.message ("VibeVoice model output is not valid JSON: " ++ e ++ ". " ++ duration ++
        "output_length=" ++ toString trimmed.length ++ ", output_preview=" ++
        py.repr (pyPrefix trimmed 500)))
    | .error (.other typeName text) => some (.raised ⟨typeName, text⟩)
    | .ok (.list segments) => (segmentError py trimmed 0 segments).map .message
    | .ok parsed =>
      some (.message ("VibeVoice model output is " ++ parsed.typeName ++ ", expected list. " ++
        duration ++ "output_preview=" ++ py.repr (pyPrefix trimmed 500)))

end Validate

/-! ## `process_vibevoice_job` -/

/-- Where `process_vibevoice_job` is. -/
inductive VibevoiceFrame where
  /-- It has not taken a step. -/
  | start : VibevoiceFrame
  /-- It awaits the next chunk. -/
  | streaming (firstChunk : Bool) (accumulated : List String) : VibevoiceFrame
  /-- A `CancelledError` is on its way out. -/
  | unwinding : VibevoiceFrame

/-- What `stream_transcription` --- or, in the first step, the reading of the
audio file --- comes back with. -/
inductive StreamEvent where
  | chunk (text : String) : StreamEvent
  | finished : StreamEvent
  | raised (exc : PyException) : StreamEvent

/-- One step of `process_vibevoice_job`. -/
def vibevoiceResume (py : PythonText) :
    VibevoiceFrame → Resumption StreamEvent → TranscriptionJob →
      List ProcessEffect × Progress VibevoiceFrame PyException
  | .start, .cancelled, _ => ([], .ended .cancelled)
  | .start, .value event, job =>
    match requireAudioPath job, event with
    | .error exc, _ => ([], .ended (.raised exc))
    | .ok _, .raised exc => ([], .ended (.raised exc))
    | .ok _, _ => ([], .await (.streaming true []))
  | .streaming firstChunk accumulated, .value (.chunk text), _ =>
    ((if firstChunk then [.streaming] else []) ++ [.put text],
      .await (.streaming false (accumulated ++ [text])))
  | .streaming _ accumulated, .value .finished, job =>
    match validateVibevoiceOutput py (String.join accumulated) job with
    | none => ([], .ended .returned)
    | some refusal => (refusal.effects, .ended (.raised refusal.exception))
  | .streaming _ _, .value (.raised exc), _ => ([], .ended (.raised exc))
  | .streaming _ _, .cancelled, _ => ([], .await .unwinding)
  | .unwinding, .value (.raised exc), _ => ([], .ended (.raised exc))
  | .unwinding, .value _, _ => ([], .ended .cancelled)
  | .unwinding, .cancelled, _ => ([], .await .unwinding)

/-- `process_vibevoice_job` -/
def processVibevoiceJob (py : PythonText) : ProcessFn where
  Frame := VibevoiceFrame
  Input := StreamEvent
  start := .start
  resume := vibevoiceResume py
  unwinding
    | .unwinding => true
    | .start | .streaming _ _ => false
  unwinding_start := rfl
  quiet_of_cancelled f r e he := by cases f <;> simp [vibevoiceResume] at he
  unwinding_of_cancelled f r g hg := by
    cases f <;> simp only [vibevoiceResume, Progress.await.injEq, reduceCtorEq] at hg <;>
      rw [← hg]
  quiet_of_unwinding f i r hf e he := by
    cases f with
    | start | streaming => exact absurd hf (by simp)
    | unwinding => rcases i with (_ | _ | _) | _ <;> simp [vibevoiceResume] at he
  unwinding_of_unwinding f i r g hf hg := by
    cases f with
    | start | streaming => exact absurd hf (by simp)
    | unwinding =>
      rcases i with (_ | _ | _) | _ <;> simp [vibevoiceResume] at hg
      rw [← hg]

/-! ## `process_groq_job` -/

/-- Where `process_groq_job` is. -/
inductive GroqFrame where
  /-- It has not taken a step. -/
  | start : GroqFrame
  /-- It awaits `transcribe_audio_file`. -/
  | transcribing : GroqFrame
  /-- A `CancelledError` is on its way out. -/
  | unwinding : GroqFrame

/-- What `transcribe_audio_file` comes back with. -/
inductive GroqReply where
  | text (text : String) : GroqReply
  | raised (exc : PyException) : GroqReply

/-- The segment list `process_groq_job` wraps a text in. -/
def groqSegment (py : PythonText) (duration : ℚ) (text : String) : PyJson :=
  .list [.dict [("Start", .int 0), ("End", .float (py.floatRepr duration)),
    ("Content", .str text)]]

/-- One step of `process_groq_job`. -/
def groqResume (py : PythonText) :
    GroqFrame → Resumption GroqReply → TranscriptionJob →
      List ProcessEffect × Progress GroqFrame PyException
  | .start, .cancelled, _ => ([], .ended .cancelled)
  | .start, .value _, job =>
    match requireAudioPath job with
    | .error exc => ([.streaming], .ended (.raised exc))
    | .ok _ => ([.streaming], .await .transcribing)
  | .transcribing, .value (.text text), job =>
    (if text = "" then []
      else [.put (py.dumps (groqSegment py job.audioDurationSeconds text))], .ended .returned)
  | .transcribing, .value (.raised exc), _ => ([], .ended (.raised exc))
  | .transcribing, .cancelled, _ => ([], .await .unwinding)
  | .unwinding, .value (.raised exc), _ => ([], .ended (.raised exc))
  | .unwinding, .value (.text _), _ => ([], .ended .cancelled)
  | .unwinding, .cancelled, _ => ([], .await .unwinding)

/-- `process_groq_job` -/
def processGroqJob (py : PythonText) : ProcessFn where
  Frame := GroqFrame
  Input := GroqReply
  start := .start
  resume := groqResume py
  unwinding
    | .unwinding => true
    | .start | .transcribing => false
  unwinding_start := rfl
  quiet_of_cancelled f r e he := by cases f <;> simp [groqResume] at he
  unwinding_of_cancelled f r g hg := by
    cases f <;> simp only [groqResume, Progress.await.injEq, reduceCtorEq] at hg <;> rw [← hg]
  quiet_of_unwinding f i r hf e he := by
    cases f with
    | start | transcribing => exact absurd hf (by simp)
    | unwinding => rcases i with (_ | _) | _ <;> simp [groqResume] at he
  unwinding_of_unwinding f i r g hf hg := by
    cases f with
    | start | transcribing => exact absurd hf (by simp)
    | unwinding =>
      rcases i with (_ | _) | _ <;> simp [groqResume] at hg
      rw [← hg]

/-! ## `lifespan` -/

/-- `asr_backend` -/
inductive AsrBackend where
  | vibevoice
  | groq
  deriving DecidableEq, Repr

/-- The process function `lifespan` sets. -/
def processFn (py : PythonText) : AsrBackend → ProcessFn
  | .groq => processGroqJob py
  | .vibevoice => processVibevoiceJob py

/-- `process_vibevoice_job` is cancelled by the queue, or not at all. -/
theorem processVibevoiceJob_cancelledOnlyOnRequest (py : PythonText) :
    (processVibevoiceJob py).CancelledOnlyOnRequest where
  await f i r g hf hg := by
    change (vibevoiceResume py f (.value i) r).2 = .await g at hg
    cases f with
    | start =>
      simp only [vibevoiceResume] at hg
      split at hg <;> cases hg
      rfl
    | streaming first acc =>
      cases i with
      | chunk text => cases hg; rfl
      | finished =>
        simp only [vibevoiceResume] at hg
        split at hg <;> cases hg
      | raised exc => cases hg
    | unwinding => cases hf
  ended f i r hf h := by
    change (vibevoiceResume py f (.value i) r).2 = .ended .cancelled at h
    cases f with
    | start =>
      simp only [vibevoiceResume] at h
      split at h <;> cases h
    | streaming first acc =>
      cases i with
      | chunk text => cases h
      | finished =>
        simp only [vibevoiceResume] at h
        split at h <;> cases h
      | raised exc => cases h
    | unwinding => cases hf

/-- `process_groq_job` is cancelled by the queue, or not at all. -/
theorem processGroqJob_cancelledOnlyOnRequest (py : PythonText) :
    (processGroqJob py).CancelledOnlyOnRequest where
  await f i r g hf hg := by
    change (groqResume py f (.value i) r).2 = .await g at hg
    cases f with
    | start =>
      simp only [groqResume] at hg
      split at hg <;> cases hg
      rfl
    | transcribing => cases i <;> cases hg
    | unwinding => cases hf
  ended f i r hf h := by
    change (groqResume py f (.value i) r).2 = .ended .cancelled at h
    cases f with
    | start =>
      simp only [groqResume] at h
      split at h <;> cases h
    | transcribing => cases i <;> cases h
    | unwinding => cases hf

/-- **Neither process function is cancelled but by the queue.** -/
theorem processFn_cancelledOnlyOnRequest (py : PythonText) (backend : AsrBackend) :
    (processFn py backend).CancelledOnlyOnRequest := by
  cases backend with
  | groq => exact processGroqJob_cancelledOnlyOnRequest py
  | vibevoice => exact processVibevoiceJob_cancelledOnlyOnRequest py

/-- A library that reads one text, the empty list; enough to run examples with. -/
def emptyListText : PythonText where
  loads s := if s = "[]" then .ok (.list [])
    else .error (.decode "Expecting value: line 1 column 1 (char 0)")
  dumps _ := "[]"
  repr s := "'" ++ s ++ "'"
  floatRepr _ := "0.0"
  fixed2 _ := "0.00"

end VibeVoice
