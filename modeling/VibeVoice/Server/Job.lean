import Mathlib.Algebra.Order.Field.Rat
import VibeVoice.Semantics.AsyncTask
import VibeVoice.Semantics.Disk
import VibeVoice.Server.Models

/-!
# The job

`TranscriptionJob` of `server/queue.py`, with `discard_audio`, and the interface
of the process function the queue runs a job with.

The record has one field the source does not have: `puts`, everything that was
ever put on `chunk_queue`.  Only `chunk_queue.put` writes it and nothing reads
it; it is what statements about the whole stream of a job are about.  The field
`created_at` of the source, which nothing reads, is left out.

A process function is a coroutine that reads its job and does three things to
it: it sets the status to `STREAMING`, it sets `error_message`, and it puts
chunks.  The last one is a `str`, never the `None` that ends the stream.  Once a
`CancelledError` has been raised in it only the second is left, which is what
`ProcessEffect.Quiet` says and `Coroutine` asks for.
-/

namespace VibeVoice

/-- A job id: `uuid.uuid4().hex`. -/
abbrev JobId := String

/-- A task, by its number in the order of creation. -/
abbrev TaskId := ℕ

/-- `_UPLOAD_DIR_PREFIX` -/
def UPLOAD_DIR_PREFIX : String := "vvv-upload-"

/-- `_UPLOAD_FILE_NAME` -/
def UPLOAD_FILE_NAME : String := "audio.audio"

/-- `TranscriptionJob`, with the defaults of the dataclass. -/
structure TranscriptionJob where
  jobId : JobId
  clientIdentity : String := ""
  audioPath : Option PosixPath := none
  audioMime : String := "application/octet-stream"
  hotwords : Option String := none
  audioDurationSeconds : ℚ := 0
  status : JobStatus := .uploading
  chunkQueue : List (Option String) := []
  errorMessage : Option String := none
  cancelRequested : Bool := false
  processTask : Option TaskId := none
  terminalNotified : Bool := false
  cleanupScheduled : Bool := false
  /-- Everything ever put on `chunk_queue`, in order. -/
  puts : List (Option String) := []

/-- What `os.unlink` does: it removes the file, or the file was not there, or it
raises another `OSError`. -/
inductive UnlinkOutcome where
  | removed : UnlinkOutcome
  | fileNotFound : UnlinkOutcome
  | osError : PyException → UnlinkOutcome
  deriving DecidableEq, Repr

/-- The call raised nothing, or `FileNotFoundError`. -/
def UnlinkOutcome.isClean : UnlinkOutcome → Bool
  | removed | fileNotFound => true
  | osError _ => false

namespace TranscriptionJob

/-- `chunk_queue.put_nowait`. -/
def put (job : TranscriptionJob) (item : Option String) : TranscriptionJob :=
  { job with chunkQueue := job.chunkQueue ++ [item], puts := job.puts ++ [item] }

/-- `_notify_terminal(job)` -/
def notifyTerminal (job : TranscriptionJob) : TranscriptionJob :=
  if job.terminalNotified then job else { job with terminalNotified := true }.put none

/-- The path is one `_spool_upload` makes: `vvv-upload-…/audio.audio`. -/
def isPrivateUpload (path : PosixPath) : Bool :=
  path.name = UPLOAD_FILE_NAME &&
    UPLOAD_DIR_PREFIX.toList.isPrefixOf path.parent.name.toList

/-- What `discard_audio` does to the disk.  The error of `rmdir` is suppressed,
an `OSError` of `unlink` other than `FileNotFoundError` is not: it leaves the
disk as it is and propagates. -/
def discardFiles (disk : Disk) (path : PosixPath) : UnlinkOutcome → Disk
  | .osError _ => disk
  | .removed | .fileNotFound =>
    let disk := disk.unlink path
    if isPrivateUpload path then disk.rmdir path.parent else disk

/-- `discard_audio`: the exception it raises, if any, the job and the disk. -/
def discardAudio (job : TranscriptionJob) (unlink : UnlinkOutcome) (disk : Disk) :
    Except PyException Unit × TranscriptionJob × Disk :=
  match job.audioPath with
  | none => (.ok (), job, disk)
  | some path =>
    (match unlink with
      | .osError e => .error e
      | .removed | .fileNotFound => .ok (),
     { job with audioPath := none }, discardFiles disk path unlink)

/-- Whatever `unlink` does, the job has no audio path afterwards. -/
theorem discardAudio_job (job : TranscriptionJob) (u : UnlinkOutcome) (disk : Disk) :
    (job.discardAudio u disk).2.1 = { job with audioPath := none } := by
  unfold discardAudio
  cases h : job.audioPath with
  | none => cases job; simp_all
  | some path => rfl

/-- `discard_audio` raises exactly when there is a file to delete and `os.unlink`
raises something other than `FileNotFoundError`. -/
theorem discardAudio_ok_iff (job : TranscriptionJob) (u : UnlinkOutcome) (disk : Disk) :
    (job.discardAudio u disk).1 = .ok () ↔ job.audioPath = none ∨ u.isClean = true := by
  unfold discardAudio
  cases job.audioPath <;> cases u <;> simp [UnlinkOutcome.isClean]

/-- The chunks of a list of items: the strings, without the sentinel. -/
def chunksOf (items : List (Option String)) : List String := items.filterMap id

end TranscriptionJob

/-! ## The process function -/

/-- What one step of a process function does to its job. -/
inductive ProcessEffect where
  /-- `job.status = JobStatus.STREAMING` -/
  | streaming : ProcessEffect
  /-- `job.error_message = …` -/
  | error : String → ProcessEffect
  /-- `await job.chunk_queue.put(chunk)`, which does not suspend: the queue is unbounded -/
  | put : String → ProcessEffect
  deriving DecidableEq, Repr

/-- What a process function may still do while a `CancelledError` unwinds it. -/
def ProcessEffect.Quiet : ProcessEffect → Prop
  | .error _ => True
  | .streaming | .put _ => False

/-- One effect. -/
def ProcessEffect.apply (job : TranscriptionJob) : ProcessEffect → TranscriptionJob
  | .streaming => { job with status := .streaming }
  | .error message => { job with errorMessage := some message }
  | .put chunk => job.put (some chunk)

/-- The effects of one step, in order. -/
def TranscriptionJob.applyEffects (job : TranscriptionJob) (effects : List ProcessEffect) :
    TranscriptionJob :=
  effects.foldl ProcessEffect.apply job

/-- A process function: `Callable[[TranscriptionJob], Coroutine]`. -/
abbrev ProcessFn := Coroutine TranscriptionJob ProcessEffect PyException ProcessEffect.Quiet

end VibeVoice
