import Mathlib.Logic.Function.Basic
import VibeVoice.Semantics.TransitionSystem
import VibeVoice.Server.Job

/-!
# `TranscriptionQueue`

`server/queue.py` as a transition system.  One label is one stretch of code
between two awaits, run by one party: a request handler that reserves, attaches
its upload, submits or cancels; the worker; a process task; `stop`; a cleanup
timer; the reader of a `chunk_queue`.  What the label carries is what the code
does not decide itself: the time, what `os.unlink` did, what the operation a
process function awaited came back with.

## Where the worker can be suspended

`_worker` has three awaits, so `Worker` has three suspended states.  An await on
something that is ready does not suspend in `asyncio`; here every await is a
suspension, so more interleavings are possible here than in the event loop and
none is lost.  The worker task has been created with the process function set,
as `lifespan` does; a worker that has not taken its first step is one that is
about to await `_pending.get()`.

## Cancellation

`workerCancel` is the mark of a cancellation still to be delivered to the
worker: `_worker_task.cancel()` leaves it when the worker waits for `_pending`
(the getter is cancelled, or has its result already) and when the process task
it awaits is done; otherwise it marks the process task, as
`AsyncTask.cancelAwaiting` says.

## History

`history` is written and never read: who was reserved, submitted, handed to the
process function, cancelled, and so on, in order.  The statements about runs are
about it.
-/

namespace VibeVoice

/-- The worker task. -/
inductive Worker where
  /-- at `await self._pending.get()` -/
  | getting : Worker
  /-- at `await job.process_task`, in the `try` block -/
  | awaiting (id : JobId) (task : TaskId) (startTime : ℚ) : Worker
  /-- at `await job.process_task`, in the handler of a shutdown -/
  | draining (id : JobId) (task : TaskId) (startTime : ℚ) : Worker
  /-- done -/
  | ended : Outcome PyException → Worker

/-- A process task: the job it was created for, and its state. -/
structure ProcessTask (F : Type) where
  job : JobId
  state : AsyncTask F PyException

/-- What has happened, in order. -/
structure History where
  /-- Successful `reserve` calls. -/
  reserved : List JobId := []
  /-- Uploads attached to a job. -/
  attached : List (JobId × PosixPath) := []
  /-- Successful `submit` calls. -/
  submitted : List JobId := []
  /-- Jobs handed to the process function. -/
  handed : List JobId := []
  /-- Jobs cancelled while `QUEUED`, before the worker dequeued them. -/
  withdrawn : List JobId := []
  /-- `cancel` calls that returned `True`. -/
  cancelled : List JobId := []
  /-- Cleanup tasks created. -/
  scheduled : List JobId := []
  /-- Jobs whose run time was appended to `_processing_times`. -/
  timed : List JobId := []
  /-- `stop` has called `_worker_task.cancel()`. -/
  stopRequested : Bool := false

/-- The state of `TranscriptionQueue`, of its tasks and of its jobs.  `F` is the
type of the frames of the process function. -/
structure TranscriptionQueue (F : Type) where
  /-- `_max_size` -/
  maxSize : ℕ
  /-- `_pending` -/
  pending : List JobId := []
  /-- The keys of `_jobs`, in insertion order. -/
  jobs : List JobId := []
  /-- `_processing_times` -/
  processingTimes : List ℚ := []
  /-- `_worker_task is not None` -/
  workerTask : Bool := true
  /-- Where the worker task is. -/
  worker : Worker := .getting
  /-- A cancellation is to be delivered to the worker task. -/
  workerCancel : Bool := false
  /-- `_cleanup_tasks`: the jobs of the timers that sleep. -/
  cleanupTasks : List JobId := []
  /-- How many calls of `stop` await the worker task. -/
  stopping : ℕ := 0
  /-- The job objects, by their id.  An id nobody has reserved names an object
  nobody has touched. -/
  job : JobId → TranscriptionJob := fun id => { jobId := id }
  /-- The process tasks. -/
  task : TaskId → Option (ProcessTask F) := fun _ => none
  /-- The number of the next task. -/
  nextTask : TaskId := 0
  /-- The disk. -/
  disk : Disk := Disk.empty
  history : History := {}

/-- `_max_history` -/
def MAX_HISTORY : ℕ := 20

namespace TranscriptionQueue

variable {F : Type}

/-- Replace the record of one job. -/
def setJob (s : TranscriptionQueue F) (id : JobId) (job : TranscriptionJob) :
    TranscriptionQueue F :=
  { s with job := Function.update s.job id job }

/-! ## Capacity, `reserve`, `submit` -/

/-- `_active_count` -/
def activeCount (s : TranscriptionQueue F) : ℕ :=
  s.jobs.countP fun id => (s.job id).status.isActive

/-- `asyncio.QueueFull` -/
def queueFull : PyException := ⟨"QueueFull", ""⟩

/-- `reserve`, for the fresh job of a client. -/
def reserve (s : TranscriptionQueue F) (id : JobId) (clientIdentity : String) :
    Except PyException Unit × TranscriptionQueue F :=
  if s.activeCount ≥ s.maxSize then (.error queueFull, s)
  else
    (.ok (),
      { s.setJob id { s.job id with clientIdentity := clientIdentity, status := .uploading } with
        jobs := if id ∈ s.jobs then s.jobs else s.jobs ++ [id]
        history := { s.history with reserved := s.history.reserved ++ [id] } })

/-- `submit` -/
def submit (s : TranscriptionQueue F) (id : JobId) :
    Except PyException Unit × TranscriptionQueue F :=
  if id ∉ s.jobs then (.error ⟨"KeyError", id⟩, s)
  else if (s.job id).status ≠ .uploading then
    (.error ⟨"RuntimeError", "Cannot submit job in state " ++ (s.job id).status.value⟩, s)
  else
    (.ok (),
      { s.setJob id { s.job id with status := .queued } with
        pending := s.pending ++ [id]
        history := { s.history with submitted := s.history.submitted ++ [id] } })

/-- `enqueue` -/
def enqueue (s : TranscriptionQueue F) (id : JobId) (clientIdentity : String) :
    Except PyException Unit × TranscriptionQueue F :=
  match s.reserve id clientIdentity with
  | (.error e, s) => (.error e, s)
  | (.ok (), s) => s.submit id

/-! ## The end of a job -/

/-- `job.discard_audio()` -/
def discardAudio (s : TranscriptionQueue F) (id : JobId) (unlink : UnlinkOutcome) :
    Except PyException Unit × TranscriptionQueue F :=
  let result := (s.job id).discardAudio unlink s.disk
  (result.1, { s.setJob id result.2.1 with disk := result.2.2 })

/-- `_notify_terminal` -/
def notifyTerminal (s : TranscriptionQueue F) (id : JobId) : TranscriptionQueue F :=
  s.setJob id (s.job id).notifyTerminal

/-- `_schedule_cleanup` -/
def scheduleCleanup (s : TranscriptionQueue F) (id : JobId) : TranscriptionQueue F :=
  if id ∉ s.jobs ∨ (s.job id).cleanupScheduled then s
  else
    { s.setJob id { s.job id with cleanupScheduled := true } with
      cleanupTasks := s.cleanupTasks ++ [id]
      history := { s.history with scheduled := s.history.scheduled ++ [id] } }

/-- The last three calls of `cancel` and of the worker's `finally` block:
`discard_audio`, `_notify_terminal`, `_schedule_cleanup`.  If the first raises,
the other two are not made. -/
def closeJob (s : TranscriptionQueue F) (id : JobId) (unlink : UnlinkOutcome) :
    Except PyException Unit × TranscriptionQueue F :=
  match s.discardAudio id unlink with
  | (.error e, s) => (.error e, s)
  | (.ok (), s) => (.ok (), (s.notifyTerminal id).scheduleCleanup id)

/-! ## `cancel` -/

/-- `task.cancel()` for a process task. -/
def cancelTask (s : TranscriptionQueue F) (t : TaskId) : TranscriptionQueue F :=
  match s.task t with
  | none => s
  | some p => { s with task := Function.update s.task t (some { p with state := p.state.cancel }) }

/-- `process_task.done()`, for a task that exists. -/
def taskDone (s : TranscriptionQueue F) (t : TaskId) : Bool :=
  match s.task t with
  | none => true
  | some p => p.state.isDone

/-- `if job.process_task and not job.process_task.done(): job.process_task.cancel()` -/
def cancelProcessTask (s : TranscriptionQueue F) (id : JobId) : TranscriptionQueue F :=
  match (s.job id).processTask with
  | none => s
  | some t => if s.taskDone t then s else s.cancelTask t

/-- `cancel` -/
def cancel (s : TranscriptionQueue F) (id : JobId) (unlink : UnlinkOutcome) :
    Except PyException Bool × TranscriptionQueue F :=
  if id ∉ s.jobs ∨ (s.job id).status.isTerminal then (.ok false, s)
  else
    let withdrawn := if (s.job id).status = .queued then s.history.withdrawn ++ [id]
      else s.history.withdrawn
    let s := { s.setJob id { s.job id with
                  cancelRequested := true
                  status := .cancelled
                  errorMessage := some "Job cancelled" } with
               history := { s.history with withdrawn := withdrawn } }
    match (s.cancelProcessTask id).closeJob id unlink with
    | (.error e, s) => (.error e, s)
    | (.ok (), s) =>
      (.ok true,
        { s with history := { s.history with cancelled := s.history.cancelled ++ [id] } })

/-! ## The worker -/

/-- From `job_id = await self._pending.get()`, with the id dequeued, to the next
await. -/
def workerTake (s : TranscriptionQueue F) (start : F) (id : JobId) (now : ℚ) :
    TranscriptionQueue F :=
  if id ∉ s.jobs ∨ (s.job id).status = .cancelled then s
  else
    { s.setJob id { s.job id with status := .processing, processTask := some s.nextTask } with
      task := Function.update s.task s.nextTask (some ⟨id, .suspended start false⟩)
      nextTask := s.nextTask + 1
      worker := .awaiting id s.nextTask now
      history := { s.history with handed := s.history.handed ++ [id] } }

/-- `self._processing_times.append(elapsed)`, keeping the last `_max_history`. -/
def recordTime (s : TranscriptionQueue F) (id : JobId) (elapsed : ℚ) : TranscriptionQueue F :=
  let times := s.processingTimes ++ [elapsed]
  { s with
    processingTimes := if times.length > MAX_HISTORY then times.tail else times
    history := { s.history with timed := s.history.timed ++ [id] } }

/-- The worker's `finally` block, and what follows it: `next`, unless the block
raises. -/
def workerFinally (s : TranscriptionQueue F) (id : JobId) (elapsed : ℚ) (unlink : UnlinkOutcome)
    (next : Worker) : TranscriptionQueue F :=
  let s := if (s.job id).status = .completed ∨ (s.job id).status = .failed then
      s.recordTime id elapsed else s
  let s := s.setJob id { s.job id with processTask := none }
  match s.closeJob id unlink with
  | (.error e, s) => { s with worker := .ended (.raised e) }
  | (.ok (), s) => { s with worker := next }

/-- The end of the shutdown handler: `CANCELLED`, `Queue stopped`, `raise`. -/
def workerStopped (s : TranscriptionQueue F) (id : JobId) (elapsed : ℚ)
    (unlink : UnlinkOutcome) : TranscriptionQueue F :=
  (s.setJob id { s.job id with
      status := .cancelled, errorMessage := some "Queue stopped" }).workerFinally
    id elapsed unlink (.ended .cancelled)

/-- From `await job.process_task` in the `try` block, resumed with `outcome`, to
the next await. -/
def workerResume (s : TranscriptionQueue F) (id : JobId) (startTime now : ℚ)
    (unlink : UnlinkOutcome) : Outcome PyException → TranscriptionQueue F
  | .returned =>
    let status : JobStatus := if (s.job id).errorMessage.isSome then .failed else .completed
    (s.setJob id { s.job id with status := status }).workerFinally
      id (now - startTime) unlink .getting
  | .cancelled =>
    if (s.job id).cancelRequested then
      (s.setJob id { s.job id with
          status := .cancelled, errorMessage := some "Job cancelled" }).workerFinally
        id (now - startTime) unlink .getting
    else
      match (s.job id).processTask with
      | none => s.workerStopped id (now - startTime) unlink
      | some t =>
        if s.taskDone t then s.workerStopped id (now - startTime) unlink
        else { s.cancelTask t with worker := .draining id t startTime }
  | .raised exc =>
    (s.setJob id { s.job id with
        status := .failed, errorMessage := some exc.describe }).workerFinally
      id (now - startTime) unlink .getting

/-- What the worker, awaiting task `t`, is resumed with. -/
def wakeOf (s : TranscriptionQueue F) (t : TaskId) : Option (Outcome PyException) :=
  (s.task t).bind fun p => p.state.seenBy s.workerCancel

/-- One step of the worker task, if there is something to resume it with. -/
def workerStep (s : TranscriptionQueue F) (start : F) (now : ℚ) (unlink : UnlinkOutcome) :
    Option (TranscriptionQueue F) :=
  match s.worker with
  | .getting =>
    if s.workerCancel then
      some { s with worker := .ended .cancelled, workerCancel := false }
    else
      match s.pending with
      | [] => none
      | id :: rest => some ({ s with pending := rest }.workerTake start id now)
  | .awaiting id t startTime =>
    (s.wakeOf t).map fun outcome =>
      { s with workerCancel := false }.workerResume id startTime now unlink outcome
  | .draining id t startTime =>
    (s.wakeOf t).map fun _ =>
      { s with workerCancel := false }.workerStopped id (now - startTime) unlink
  | .ended _ => none

/-! ## `stop`, the cleanup timers -/

/-- `self._worker_task.cancel()` -/
def cancelWorker (s : TranscriptionQueue F) : TranscriptionQueue F :=
  match s.worker with
  | .getting => { s with workerCancel := true }
  | .awaiting _ t _ | .draining _ t _ =>
    match s.task t with
    | none => { s with workerCancel := true }
    | some p =>
      let result := p.state.cancelAwaiting s.workerCancel
      { s with
        task := Function.update s.task t (some { p with state := result.1 })
        workerCancel := result.2 }
  | .ended _ => s

/-- The end of `stop`: every sleeping cleanup task is cancelled. -/
def cancelCleanups (s : TranscriptionQueue F) : TranscriptionQueue F :=
  { s with cleanupTasks := [] }

/-- `stop`, up to its first await. -/
def stop (s : TranscriptionQueue F) : TranscriptionQueue F :=
  if s.workerTask then
    { s.cancelWorker with
      stopping := s.stopping + 1
      history := { s.history with stopRequested := true } }
  else s.cancelCleanups

/-- `stop`, after `await self._worker_task`.  A `CancelledError` of the worker is
suppressed, any other exception of it propagates out of `stop`. -/
def stopResume (s : TranscriptionQueue F) : Option (TranscriptionQueue F) :=
  match s.stopping, s.worker with
  | 0, _ => none
  | n + 1, .ended (.raised _) => some { s with stopping := n }
  | n + 1, .ended _ => some ({ s with stopping := n, workerTask := false }.cancelCleanups)
  | _ + 1, _ => none

/-- `_cleanup_job`, when its sleep is over. -/
def cleanupJob (s : TranscriptionQueue F) (id : JobId) (unlink : UnlinkOutcome) :
    TranscriptionQueue F :=
  let s := { s with cleanupTasks := s.cleanupTasks.erase id }
  if id ∈ s.jobs then ({ s with jobs := s.jobs.erase id }.discardAudio id unlink).2 else s

/-! ## The transition system -/

/-- Who takes a step, and what it is handed. -/
inductive Action (I : Type) where
  /-- A handler reserves a slot for a fresh job. -/
  | reserve (id : JobId) (clientIdentity : String) : Action I
  /-- The handler of an uploading job attaches the file it has spooled. -/
  | attach (id : JobId) (path : PosixPath) (content : List UInt8) (mime : String)
      (hotwords : Option String) (duration : ℚ) : Action I
  /-- A handler submits. -/
  | submit (id : JobId) : Action I
  /-- Anybody cancels. -/
  | cancel (id : JobId) (unlink : UnlinkOutcome) : Action I
  /-- The worker takes a step. -/
  | worker (now : ℚ) (unlink : UnlinkOutcome) : Action I
  /-- A process task takes a step. -/
  | process (t : TaskId) (input : I) : Action I
  /-- `stop` is called. -/
  | stop : Action I
  /-- A call of `stop` has awaited the worker. -/
  | stopResume : Action I
  /-- A cleanup timer fires. -/
  | cleanup (id : JobId) (unlink : UnlinkOutcome) : Action I
  /-- The reader of a job takes an item off its `chunk_queue`. -/
  | consume (id : JobId) : Action I

variable (pf : ProcessFn)

/-- One step of a process task. -/
def processStep (s : TranscriptionQueue pf.Frame) (t : TaskId) (input : pf.Input) :
    Option (TranscriptionQueue pf.Frame) :=
  match s.task t with
  | some ⟨id, .suspended frame cancelling⟩ =>
    let result := pf.advance frame cancelling input (s.job id)
    some { s.setJob id ((s.job id).applyEffects result.1) with
           task := Function.update s.task t (some ⟨id, result.2⟩) }
  | _ => none

/-- The handler of an uploading job sets `audio_path` and the fields that
describe the audio; the file is one it has just created. -/
def attach (s : TranscriptionQueue F) (id : JobId) (path : PosixPath) (content : List UInt8)
    (mime : String) (hotwords : Option String) (duration : ℚ) : Option (TranscriptionQueue F) :=
  if id ∈ s.history.reserved ∧ (s.job id).status = .uploading ∧ (s.job id).audioPath = none ∧
      ¬ s.disk.HasFile path then
    some { s.setJob id { s.job id with
              audioPath := some path, audioMime := mime, hotwords := hotwords,
              audioDurationSeconds := duration } with
           disk := (s.disk.mkdir path.parent).create path content
           history := { s.history with attached := s.history.attached ++ [(id, path)] } }
  else none

/-- One step.  A call that raises is a step that leaves the state as the call
left it. -/
def step (s : TranscriptionQueue pf.Frame) :
    Action pf.Input → Option (TranscriptionQueue pf.Frame)
  | .reserve id who =>
    if id ∈ s.history.reserved then none else some (s.reserve id who).2
  | .attach id path content mime hotwords duration =>
    s.attach id path content mime hotwords duration
  | .submit id => some (s.submit id).2
  | .cancel id unlink => some (s.cancel id unlink).2
  | .worker now unlink => s.workerStep pf.start now unlink
  | .process t input => s.processStep pf t input
  | .stop => some s.stop
  | .stopResume => s.stopResume
  | .cleanup id unlink =>
    if id ∈ s.cleanupTasks then some (s.cleanupJob id unlink) else none
  | .consume id =>
    match (s.job id).chunkQueue with
    | [] => none
    | _ :: rest => some (s.setJob id { s.job id with chunkQueue := rest })

/-- **The queue**, after `__init__`, `set_process_fn` and `start_worker`. -/
def system (maxSize : ℕ) : TransitionSystem (TranscriptionQueue pf.Frame) (Action pf.Input) where
  init s := s = { maxSize := maxSize }
  step := step pf

end TranscriptionQueue

end VibeVoice
