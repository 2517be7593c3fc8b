import VibeVoice.Server.Queue

/-!
# What each operation of the queue does

One equation for each operation of `TranscriptionQueue`: the state after it is
the state before it with a few fields replaced, and the equation says which and
by what.  The operations are not unfolded anywhere else; what an equation does
not list is unchanged, and that is then a matter of computation.

The two ends of a job, `cancel` and the worker's `finally`, share their last
three calls.  What these do to the record of the job is `afterClose`, and the
only thing that decides between its two branches is `unlinkError`: whether
`os.unlink` raised something `discard_audio` does not suppress.

* `closeJob_eq`, `cancel_eq`, `workerResume_eq`: the equations.
* `TranscriptionJob.settle`: what the worker writes when the process task has
  ended, before it closes the job.
* `applyEffects_spec`: what a process function can do to its job.
-/

namespace VibeVoice

/-! ## Jobs -/

namespace TranscriptionJob

/-- What `discard_audio` raises, if anything. -/
def unlinkError (job : TranscriptionJob) (unlink : UnlinkOutcome) : Option PyException :=
  match job.audioPath, unlink with
  | some _, .osError e => some e
  | _, _ => none

/-- The job after `discard_audio`, `_notify_terminal` and `_schedule_cleanup`,
when the first does not raise; `tracked` says that the job is in `_jobs`. -/
def closed (job : TranscriptionJob) (tracked : Bool) : TranscriptionJob :=
  let job := { job with audioPath := none }.notifyTerminal
  { job with cleanupScheduled := job.cleanupScheduled || tracked }

/-- The job after the three calls, or after the first one raised. -/
def afterClose (job : TranscriptionJob) (unlink : UnlinkOutcome) (tracked : Bool) :
    TranscriptionJob :=
  match job.unlinkError unlink with
  | none => job.closed tracked
  | some _ => { job with audioPath := none }

/-- The cleanup timer the three calls create, if they do. -/
def newTimers (job : TranscriptionJob) (id : JobId) (unlink : UnlinkOutcome) (tracked : Bool) :
    List JobId :=
  if job.unlinkError unlink = none ∧ tracked = true ∧ job.cleanupScheduled = false then [id]
  else []

variable (job : TranscriptionJob) (unlink : UnlinkOutcome) (tracked : Bool)

theorem unlinkError_eq_none_iff :
    job.unlinkError unlink = none ↔ job.audioPath = none ∨ unlink.isClean = true := by
  unfold unlinkError
  cases job.audioPath <;> cases unlink <;> simp [UnlinkOutcome.isClean]

/-- A clean `unlink` raises nothing. -/
theorem unlinkError_of_isClean {unlink : UnlinkOutcome} (h : unlink.isClean = true) :
    job.unlinkError unlink = none :=
  (job.unlinkError_eq_none_iff unlink).mpr (Or.inr h)

/-- What `unlinkError` says is what `discard_audio` raises. -/
theorem discardAudio_error {unlink : UnlinkOutcome} {e : PyException}
    (h : job.unlinkError unlink = some e) (disk : Disk) :
    (job.discardAudio unlink disk).1 = .error e := by
  unfold unlinkError at h
  unfold discardAudio
  split at h
  · rename_i path e' hpath
    rw [hpath, ← Option.some_inj.mp h]
  · exact absurd h (by simp)

theorem afterClose_of_unlinkError (h : job.unlinkError unlink = none) :
    job.afterClose unlink tracked = job.closed tracked := by
  rw [afterClose, h]

/-- `_notify_terminal` touches the stream of chunks and its own flag. -/
theorem notifyTerminal_eq : job.notifyTerminal =
    { job with
      terminalNotified := true
      chunkQueue := if job.terminalNotified then job.chunkQueue else job.chunkQueue ++ [none]
      puts := if job.terminalNotified then job.puts else job.puts ++ [none] } := by
  unfold notifyTerminal
  cases h : job.terminalNotified with
  | true =>
    cases job
    simp_all
  | false => rfl

@[simp] theorem closed_terminalNotified : (job.closed tracked).terminalNotified = true := by
  rw [closed, notifyTerminal_eq]

@[simp] theorem closed_cleanupScheduled :
    (job.closed tracked).cleanupScheduled = (job.cleanupScheduled || tracked) := by
  rw [closed, notifyTerminal_eq]

/-- The sentinel is put unless it was put before. -/
@[simp] theorem closed_puts : (job.closed tracked).puts =
    if job.terminalNotified then job.puts else job.puts ++ [none] := by
  rw [closed, notifyTerminal_eq]

/-- Closing a job leaves alone what it was decided by. -/
theorem afterClose_keeps :
    (job.afterClose unlink tracked).jobId = job.jobId ∧
      (job.afterClose unlink tracked).clientIdentity = job.clientIdentity ∧
      (job.afterClose unlink tracked).status = job.status ∧
      (job.afterClose unlink tracked).errorMessage = job.errorMessage ∧
      (job.afterClose unlink tracked).cancelRequested = job.cancelRequested ∧
      (job.afterClose unlink tracked).processTask = job.processTask ∧
      (job.afterClose unlink tracked).audioPath = none := by
  unfold afterClose
  split
  · rw [closed, notifyTerminal_eq]
    exact ⟨rfl, rfl, rfl, rfl, rfl, rfl, rfl⟩
  · exact ⟨rfl, rfl, rfl, rfl, rfl, rfl, rfl⟩

@[simp] theorem afterClose_jobId : (job.afterClose unlink tracked).jobId = job.jobId :=
  (job.afterClose_keeps unlink tracked).1

@[simp] theorem afterClose_clientIdentity :
    (job.afterClose unlink tracked).clientIdentity = job.clientIdentity :=
  (job.afterClose_keeps unlink tracked).2.1

@[simp] theorem afterClose_status : (job.afterClose unlink tracked).status = job.status :=
  (job.afterClose_keeps unlink tracked).2.2.1

@[simp] theorem afterClose_errorMessage :
    (job.afterClose unlink tracked).errorMessage = job.errorMessage :=
  (job.afterClose_keeps unlink tracked).2.2.2.1

@[simp] theorem afterClose_cancelRequested :
    (job.afterClose unlink tracked).cancelRequested = job.cancelRequested :=
  (job.afterClose_keeps unlink tracked).2.2.2.2.1

@[simp] theorem afterClose_processTask :
    (job.afterClose unlink tracked).processTask = job.processTask :=
  (job.afterClose_keeps unlink tracked).2.2.2.2.2.1

@[simp] theorem afterClose_audioPath : (job.afterClose unlink tracked).audioPath = none :=
  (job.afterClose_keeps unlink tracked).2.2.2.2.2.2

/-- Nobody but the closed job gets a timer. -/
theorem mem_newTimers {job : TranscriptionJob} {id j : JobId} {unlink : UnlinkOutcome}
    {tracked : Bool} (h : j ∈ job.newTimers id unlink tracked) : j = id := by
  unfold newTimers at h
  split at h
  · exact List.mem_singleton.mp h
  · exact absurd h List.not_mem_nil

/-- No timer is created by a call that raised. -/
theorem unlinkError_of_mem_newTimers {job : TranscriptionJob} {id j : JobId}
    {unlink : UnlinkOutcome} {tracked : Bool} (h : j ∈ job.newTimers id unlink tracked) :
    job.unlinkError unlink = none := by
  unfold newTimers at h
  split at h
  · rename_i hc
    exact hc.1
  · exact absurd h List.not_mem_nil

/-- The status `cancel` gives a job, and what goes with it. -/
@[simps] def cancelled (job : TranscriptionJob) : TranscriptionJob :=
  { job with
    cancelRequested := true
    status := .cancelled
    errorMessage := some "Job cancelled" }

/-- The status the worker gives a job whose process task it saw end so. -/
def verdict (job : TranscriptionJob) : Outcome PyException → JobStatus
  | .returned => if job.errorMessage.isSome then .failed else .completed
  | .cancelled => .cancelled
  | .raised _ => .failed

/-- The message that goes with it. -/
def verdictMessage (job : TranscriptionJob) : Outcome PyException → Option String
  | .returned => job.errorMessage
  | .cancelled => some (if job.cancelRequested then "Job cancelled" else "Queue stopped")
  | .raised exc => some exc.describe

/-- What the worker writes before it closes the job. -/
@[simps] def settle (job : TranscriptionJob) (outcome : Outcome PyException) : TranscriptionJob :=
  { job with
    status := job.verdict outcome
    errorMessage := job.verdictMessage outcome
    processTask := none }

/-- Whatever the outcome, the job is over. -/
theorem isTerminal_verdict (outcome : Outcome PyException) :
    (job.verdict outcome).isTerminal = true := by
  cases outcome with
  | returned =>
    simp only [verdict]
    split <;> rfl
  | cancelled | raised => rfl

/-! ### The process function -/

/-- What a process function leaves alone, and what it may do. -/
structure EffectsSpec (job job' : TranscriptionJob) : Prop where
  jobId : job'.jobId = job.jobId
  clientIdentity : job'.clientIdentity = job.clientIdentity
  cancelRequested : job'.cancelRequested = job.cancelRequested
  processTask : job'.processTask = job.processTask
  audioPath : job'.audioPath = job.audioPath
  terminalNotified : job'.terminalNotified = job.terminalNotified
  cleanupScheduled : job'.cleanupScheduled = job.cleanupScheduled
  status : job'.status = job.status ∨ job'.status = .streaming
  /-- `error_message` is set, never cleared. -/
  errorMessage : job.errorMessage.isSome = true → job'.errorMessage.isSome = true
  /-- Chunks are strings, and they are put at the end. -/
  puts : ∃ chunks : List String, job'.puts = job.puts ++ chunks.map some ∧
    job'.chunkQueue = job.chunkQueue ++ chunks.map some

theorem EffectsSpec.refl (job : TranscriptionJob) : EffectsSpec job job :=
  ⟨rfl, rfl, rfl, rfl, rfl, rfl, rfl, Or.inl rfl, fun h => h, [], by simp, by simp⟩

theorem effectsSpec_apply (job : TranscriptionJob) (e : ProcessEffect) :
    EffectsSpec job (e.apply job) := by
  cases e with
  | streaming =>
    exact ⟨rfl, rfl, rfl, rfl, rfl, rfl, rfl, Or.inr rfl, fun h => h, [],
      by simp [ProcessEffect.apply], by simp [ProcessEffect.apply]⟩
  | error m =>
    exact ⟨rfl, rfl, rfl, rfl, rfl, rfl, rfl, Or.inl rfl, fun _ => rfl, [],
      by simp [ProcessEffect.apply], by simp [ProcessEffect.apply]⟩
  | put chunk =>
    exact ⟨rfl, rfl, rfl, rfl, rfl, rfl, rfl, Or.inl rfl, fun h => h, [chunk], rfl, rfl⟩

theorem EffectsSpec.trans {a b c : TranscriptionJob} (h : EffectsSpec a b)
    (h' : EffectsSpec b c) : EffectsSpec a c where
  jobId := h'.jobId.trans h.jobId
  clientIdentity := h'.clientIdentity.trans h.clientIdentity
  cancelRequested := h'.cancelRequested.trans h.cancelRequested
  processTask := h'.processTask.trans h.processTask
  audioPath := h'.audioPath.trans h.audioPath
  terminalNotified := h'.terminalNotified.trans h.terminalNotified
  cleanupScheduled := h'.cleanupScheduled.trans h.cleanupScheduled
  status := by
    rcases h'.status with hs | hs
    · rw [hs]
      exact h.status
    · exact Or.inr hs
  errorMessage := fun hsome => h'.errorMessage (h.errorMessage hsome)
  puts := by
    obtain ⟨x, hx, hx'⟩ := h.puts
    obtain ⟨y, hy, hy'⟩ := h'.puts
    refine ⟨x ++ y, ?_, ?_⟩
    · rw [hy, hx, List.map_append, List.append_assoc]
    · rw [hy', hx', List.map_append, List.append_assoc]

/-- **What a process function can do to its job.** -/
theorem applyEffects_spec (effects : List ProcessEffect) (job : TranscriptionJob) :
    EffectsSpec job (job.applyEffects effects) := by
  induction effects generalizing job with
  | nil => exact EffectsSpec.refl job
  | cons e effects ih => exact (effectsSpec_apply job e).trans (ih (e.apply job))

/-- Quiet effects write nothing but `error_message`. -/
theorem applyEffects_quiet {effects : List ProcessEffect} (job : TranscriptionJob)
    (h : ∀ e ∈ effects, e.Quiet) :
    ∃ message, job.applyEffects effects = { job with errorMessage := message } := by
  induction effects generalizing job with
  | nil => exact ⟨job.errorMessage, rfl⟩
  | cons e effects ih =>
    obtain ⟨message, hm⟩ := ih (e.apply job) fun e' he' => h e' (List.mem_cons_of_mem _ he')
    have he := h e List.mem_cons_self
    cases e with
    | streaming => exact absurd he id
    | put chunk => exact absurd he id
    | error m => exact ⟨message, hm⟩

end TranscriptionJob

/-- `task.cancel()` -/
def ProcessTask.cancel {F : Type} (p : ProcessTask F) : ProcessTask F :=
  { p with state := p.state.cancel }

namespace TranscriptionQueue

open TranscriptionJob

variable {F : Type}

@[simp] theorem job_setJob (s : TranscriptionQueue F) (id : JobId) (job : TranscriptionJob) :
    (s.setJob id job).job = Function.update s.job id job := rfl

/-! ## `reserve`, `submit`, `attach` -/

/-- The state after a job was admitted. -/
def afterReserve (s : TranscriptionQueue F) (id : JobId) (who : String) : TranscriptionQueue F :=
  { s with
    job := Function.update s.job id { s.job id with clientIdentity := who, status := .uploading }
    jobs := if id ∈ s.jobs then s.jobs else s.jobs ++ [id]
    history := { s.history with reserved := s.history.reserved ++ [id] } }

theorem reserve_of_full {s : TranscriptionQueue F} (id : JobId) (who : String)
    (h : s.activeCount ≥ s.maxSize) : s.reserve id who = (.error queueFull, s) := by
  rw [reserve, if_pos h]

theorem reserve_of_room {s : TranscriptionQueue F} (id : JobId) (who : String)
    (h : s.activeCount < s.maxSize) :
    s.reserve id who = (.ok (), s.afterReserve id who) := by
  rw [reserve, if_neg (Nat.not_le_of_lt h)]
  rfl

/-- The state after a job joined the queue. -/
def afterSubmit (s : TranscriptionQueue F) (id : JobId) : TranscriptionQueue F :=
  { s with
    job := Function.update s.job id { s.job id with status := .queued }
    pending := s.pending ++ [id]
    history := { s.history with submitted := s.history.submitted ++ [id] } }

theorem submit_of_uploading {s : TranscriptionQueue F} {id : JobId} (hid : id ∈ s.jobs)
    (hst : (s.job id).status = .uploading) : s.submit id = (.ok (), s.afterSubmit id) := by
  rw [submit, if_neg (not_not_intro hid), if_neg (not_not_intro hst)]
  rfl

/-- A `submit` that raises changes nothing. -/
theorem submit_of_not {s : TranscriptionQueue F} {id : JobId}
    (h : ¬ (id ∈ s.jobs ∧ (s.job id).status = .uploading)) : (s.submit id).2 = s := by
  rw [submit]
  by_cases hid : id ∈ s.jobs
  · rw [if_neg (not_not_intro hid), if_pos fun hst => h ⟨hid, hst⟩]
  · rw [if_pos hid]

/-- `attach`, when the handler may. -/
theorem attach_eq_some {s s' : TranscriptionQueue F} {id : JobId} {path : PosixPath}
    {content : List UInt8} {mime : String} {hotwords : Option String} {duration : ℚ}
    (h : s.attach id path content mime hotwords duration = some s') :
    (id ∈ s.history.reserved ∧ (s.job id).status = .uploading ∧ (s.job id).audioPath = none ∧
        ¬ s.disk.HasFile path) ∧
      s' = { s with
        job := Function.update s.job id { s.job id with
          audioPath := some path, audioMime := mime, hotwords := hotwords,
          audioDurationSeconds := duration }
        disk := (s.disk.mkdir path.parent).create path content
        history := { s.history with attached := s.history.attached ++ [(id, path)] } } := by
  unfold attach at h
  split at h
  · rename_i hc
    exact ⟨hc, (Option.some_inj.mp h).symm⟩
  · exact absurd h (by simp)

/-! ## The common end of `cancel` and of the worker's `finally` -/

/-- The state after the three calls that end job `id`, given its record `job`. -/
def afterClose (s : TranscriptionQueue F) (id : JobId) (job : TranscriptionJob)
    (unlink : UnlinkOutcome) : TranscriptionQueue F :=
  { s with
    job := Function.update s.job id (job.afterClose unlink (id ∈ s.jobs))
    disk := (job.discardAudio unlink s.disk).2.2
    cleanupTasks := s.cleanupTasks ++ job.newTimers id unlink (id ∈ s.jobs)
    history := { s.history with
      scheduled := s.history.scheduled ++ job.newTimers id unlink (id ∈ s.jobs) } }

/-- What a call that raised `error`, if anything, returns. -/
def raising {α : Type} (a : α) : Option PyException → Except PyException α
  | none => .ok a
  | some e => .error e

/-- `_schedule_cleanup`, without a case distinction on the record of the job. -/
theorem scheduleCleanup_eq (s : TranscriptionQueue F) (id : JobId) :
    s.scheduleCleanup id =
      let timers := if id ∈ s.jobs ∧ (s.job id).cleanupScheduled = false then [id] else []
      { s.setJob id { s.job id with
            cleanupScheduled := (s.job id).cleanupScheduled || decide (id ∈ s.jobs) } with
        cleanupTasks := s.cleanupTasks ++ timers
        history := { s.history with scheduled := s.history.scheduled ++ timers } } := by
  have hsame (b : Bool) (h : b = (s.job id).cleanupScheduled) :
      Function.update s.job id { s.job id with cleanupScheduled := b } = s.job := by
    rw [h]
    exact Function.update_eq_self id s.job
  unfold scheduleCleanup
  by_cases hid : id ∈ s.jobs <;> cases hc : (s.job id).cleanupScheduled
  · simp [hid]
  · simp [hid, setJob, hsame true hc.symm]
  · simp [hid, setJob, hsame false hc.symm]
  · simp [hid, setJob, hsame true hc.symm]

/-- **The end of a job.** -/
theorem closeJob_eq (s : TranscriptionQueue F) (id : JobId) (unlink : UnlinkOutcome) :
    s.closeJob id unlink =
      (raising () ((s.job id).unlinkError unlink), s.afterClose id (s.job id) unlink) := by
  have hjob := (s.job id).discardAudio_job unlink s.disk
  have hkeep (job : TranscriptionJob) :
      job.notifyTerminal.cleanupScheduled = job.cleanupScheduled := by
    rw [notifyTerminal_eq]
  cases herr : (s.job id).unlinkError unlink with
  | none =>
    have hres : ((s.job id).discardAudio unlink s.disk).1 = .ok () :=
      ((s.job id).discardAudio_ok_iff unlink s.disk).mpr
        (((s.job id).unlinkError_eq_none_iff unlink).mp herr)
    simp only [closeJob, discardAudio, hres, raising, afterClose, TranscriptionJob.afterClose,
      herr, newTimers, scheduleCleanup_eq, notifyTerminal, setJob, hjob, Function.update_self,
      Function.update_idem, hkeep, true_and, closed, decide_eq_true_eq]
  | some e =>
    have hres := (s.job id).discardAudio_error herr s.disk
    simp only [closeJob, discardAudio, hres, raising, afterClose, TranscriptionJob.afterClose,
      herr, newTimers, setJob, hjob]
    simp

/-! ## `cancel` -/

/-- The process tasks after job `id` asked its own to stop. -/
def cancelledTasks (s : TranscriptionQueue F) (id : JobId) : TaskId → Option (ProcessTask F) :=
  match (s.job id).processTask with
  | none => s.task
  | some t => Function.update s.task t ((s.task t).map ProcessTask.cancel)

theorem cancelProcessTask_eq (s : TranscriptionQueue F) (id : JobId) :
    s.cancelProcessTask id = { s with task := s.cancelledTasks id } := by
  unfold cancelProcessTask cancelledTasks
  cases (s.job id).processTask with
  | none => rfl
  | some t =>
    cases ht : s.task t with
    | none =>
      have hsame : Function.update s.task t none = s.task :=
        Function.update_eq_self_iff.mpr ht.symm
      simp [taskDone, ht, hsame]
    | some p =>
      cases hd : p.state.isDone with
      | false => simp [taskDone, ht, hd, cancelTask, ProcessTask.cancel]
      | true =>
        have hsame : Function.update s.task t (some p) = s.task :=
          Function.update_eq_self_iff.mpr ht.symm
        simp [taskDone, ht, hd, ProcessTask.cancel, AsyncTask.cancel_of_isDone hd, hsame]

/-- Asking for it again changes nothing that is not the job's own task. -/
theorem cancelledTasks_of_ne (s : TranscriptionQueue F) {id : JobId} {t : TaskId}
    (h : (s.job id).processTask ≠ some t) : s.cancelledTasks id t = s.task t := by
  unfold cancelledTasks
  cases hu : (s.job id).processTask with
  | none => rfl
  | some u => exact Function.update_of_ne (fun e => h (by rw [hu, e])) _ _

theorem cancelledTasks_self (s : TranscriptionQueue F) {id : JobId} {t : TaskId}
    (h : (s.job id).processTask = some t) :
    s.cancelledTasks id t = (s.task t).map ProcessTask.cancel := by
  rw [cancelledTasks, h]
  exact Function.update_self ..

/-- A cancelled job, with everything `cancel` does to the queue. -/
def afterCancel (s : TranscriptionQueue F) (id : JobId) (unlink : UnlinkOutcome) :
    TranscriptionQueue F :=
  let closed := s.afterClose id (s.job id).cancelled unlink
  { closed with
    task := s.cancelledTasks id
    history := { closed.history with
      withdrawn := s.history.withdrawn ++ if (s.job id).status = .queued then [id] else []
      cancelled := s.history.cancelled ++
        if (s.job id).unlinkError unlink = none then [id] else [] } }

/-- The job is not one `cancel` acts on. -/
theorem cancel_of_not {s : TranscriptionQueue F} {id : JobId} (unlink : UnlinkOutcome)
    (h : id ∉ s.jobs ∨ (s.job id).status.isTerminal = true) :
    s.cancel id unlink = (.ok false, s) := by
  rw [cancel, if_pos h]

/-- **`cancel` of a job that is not over.** -/
theorem cancel_eq {s : TranscriptionQueue F} {id : JobId} (unlink : UnlinkOutcome)
    (hid : id ∈ s.jobs) (hst : (s.job id).status.isTerminal = false) :
    s.cancel id unlink =
      (raising true ((s.job id).unlinkError unlink), s.afterCancel id unlink) := by
  have hcancelled : { s.job id with
      cancelRequested := true
      status := JobStatus.cancelled
      errorMessage := some "Job cancelled" } = (s.job id).cancelled := rfl
  have hunlink : (s.job id).cancelled.unlinkError unlink = (s.job id).unlinkError unlink := rfl
  have hwithdrawn : (if (s.job id).status = .queued then s.history.withdrawn ++ [id]
      else s.history.withdrawn) =
      s.history.withdrawn ++ if (s.job id).status = .queued then [id] else [] := by
    split <;> simp
  rw [cancel, if_neg (by simp [hid, hst])]
  simp only [cancelProcessTask_eq, closeJob_eq, setJob, Function.update_self, hcancelled,
    hunlink, hwithdrawn]
  cases herr : (s.job id).unlinkError unlink <;>
    simp [raising, afterCancel, afterClose, cancelledTasks, herr]

/-! ## The worker -/

/-- The history after the run time of job `id` was recorded, if its status asks
for it. -/
def timedAfter (s : TranscriptionQueue F) (id : JobId) (status : JobStatus) : List JobId :=
  s.history.timed ++ if status = .completed ∨ status = .failed then [id] else []

/-- `_processing_times` after a job that ended with `status` had run for
`elapsed`. -/
def timesAfter (s : TranscriptionQueue F) (elapsed : ℚ) (status : JobStatus) : List ℚ :=
  if status = .completed ∨ status = .failed then
    if (s.processingTimes ++ [elapsed]).length > MAX_HISTORY then
      (s.processingTimes ++ [elapsed]).tail
    else s.processingTimes ++ [elapsed]
  else s.processingTimes

/-- Where the worker goes after a `finally` block that raised `error`, if
anything, and otherwise goes on to `next`. -/
def workerAfter (next : Worker) : Option PyException → Worker
  | none => next
  | some e => .ended (.raised e)

/-- **The worker's `finally`.** -/
theorem workerFinally_eq (s : TranscriptionQueue F) (id : JobId) (elapsed : ℚ)
    (unlink : UnlinkOutcome) (next : Worker) :
    s.workerFinally id elapsed unlink next =
      let closed := s.afterClose id { s.job id with processTask := none } unlink
      { closed with
        worker := workerAfter next ((s.job id).unlinkError unlink)
        processingTimes := s.timesAfter elapsed (s.job id).status
        history := { closed.history with timed := s.timedAfter id (s.job id).status } } := by
  have hunlink : { s.job id with processTask := none }.unlinkError unlink =
    (s.job id).unlinkError unlink := rfl
  unfold workerFinally
  by_cases hst : (s.job id).status = .completed ∨ (s.job id).status = .failed <;>
    cases herr : (s.job id).unlinkError unlink <;>
    simp [hst, herr, hunlink, closeJob_eq, recordTime, setJob, raising, afterClose, timedAfter,
      timesAfter, workerAfter]

/-- Where the worker goes after `job`, of which it saw `outcome`: only a
cancellation that is not the job's own ends it. -/
def nextWorker (job : TranscriptionJob) (outcome : Outcome PyException) : Worker :=
  if outcome = .cancelled ∧ job.cancelRequested = false then .ended .cancelled else .getting

/-- The state after the worker saw `outcome` of job `id`. -/
def afterResume (s : TranscriptionQueue F) (id : JobId) (elapsed : ℚ) (unlink : UnlinkOutcome)
    (outcome : Outcome PyException) : TranscriptionQueue F :=
  let closed := s.afterClose id ((s.job id).settle outcome) unlink
  { closed with
    worker := workerAfter (nextWorker (s.job id) outcome) ((s.job id).unlinkError unlink)
    processingTimes := s.timesAfter elapsed ((s.job id).verdict outcome)
    history := { closed.history with timed := s.timedAfter id ((s.job id).verdict outcome) } }

/-- The worker's `finally` after it wrote what `settle` says. -/
theorem workerFinally_settle (s : TranscriptionQueue F) {id : JobId} (elapsed : ℚ)
    (unlink : UnlinkOutcome) {outcome : Outcome PyException} {job : TranscriptionJob}
    {next : Worker} (hjob : { job with processTask := none } = (s.job id).settle outcome)
    (hnext : next = nextWorker (s.job id) outcome) :
    (s.setJob id job).workerFinally id elapsed unlink next =
      s.afterResume id elapsed unlink outcome := by
  have hstatus : job.status = (s.job id).verdict outcome :=
    congrArg TranscriptionJob.status hjob
  have haudio : job.audioPath = (s.job id).audioPath :=
    show { job with processTask := none }.audioPath = _ by rw [hjob]; rfl
  have hunlink : job.unlinkError unlink = (s.job id).unlinkError unlink := by
    simp only [unlinkError, haudio]
  rw [workerFinally_eq, hnext]
  simp only [setJob, Function.update_self, hjob, hunlink, afterClose, Function.update_idem]
  rw [hstatus]
  rfl

/-- **The worker, resumed with `outcome`**, when there is no task left to wait
for. -/
theorem workerResume_eq (s : TranscriptionQueue F) {id : JobId} (startTime now : ℚ)
    (unlink : UnlinkOutcome) (outcome : Outcome PyException)
    (hdone : ∀ t, (s.job id).processTask = some t → s.taskDone t = true) :
    s.workerResume id startTime now unlink outcome =
      s.afterResume id (now - startTime) unlink outcome := by
  cases outcome with
  | returned => exact s.workerFinally_settle _ unlink rfl (by simp [nextWorker])
  | raised exc => exact s.workerFinally_settle _ unlink rfl (by simp [nextWorker])
  | cancelled =>
    unfold workerResume
    by_cases hc : (s.job id).cancelRequested = true
    · rw [if_pos hc]
      refine s.workerFinally_settle _ unlink ?_ (by simp [nextWorker, hc])
      simp [settle, verdict, verdictMessage, hc]
    · rw [if_neg hc]
      have hstop : s.workerStopped id (now - startTime) unlink =
          s.afterResume id (now - startTime) unlink .cancelled := by
        refine s.workerFinally_settle _ unlink ?_ (by simp [nextWorker, hc])
        simp [settle, verdict, verdictMessage, hc]
      cases ht : (s.job id).processTask with
      | none => exact hstop
      | some t =>
        simp only [hdone t ht, if_true]
        exact hstop

/-- The step of a worker that waits for a job: it ends if that is what it was
told, and takes the first id otherwise. -/
theorem workerStep_getting {s s' : TranscriptionQueue F} {start : F} {now : ℚ}
    {unlink : UnlinkOutcome} (hw : s.worker = .getting)
    (h : s.workerStep start now unlink = some s') :
    (s.workerCancel = true ∧ s' = { s with worker := .ended .cancelled, workerCancel := false }) ∨
      ∃ id rest, s.workerCancel = false ∧ s.pending = id :: rest ∧
        s' = { s with pending := rest }.workerTake start id now := by
  simp only [workerStep, hw] at h
  split at h
  · rename_i hc
    exact Or.inl ⟨hc, (Option.some_inj.mp h).symm⟩
  · rename_i hc
    split at h
    · exact absurd h (by simp)
    · rename_i id rest hq
      rw [← hw] at h
      exact Or.inr ⟨id, rest, by simpa using hc, hq, (Option.some_inj.mp h).symm⟩

/-- A worker that has ended takes no step. -/
theorem workerStep_ended {s : TranscriptionQueue F} {o : Outcome PyException}
    (hw : s.worker = .ended o) (start : F) (now : ℚ) (unlink : UnlinkOutcome) :
    s.workerStep start now unlink = none := by
  simp only [workerStep, hw]

/-! ## `stop` -/

/-- The process tasks after `_worker_task.cancel()`. -/
def stoppedTasks (s : TranscriptionQueue F) : TaskId → Option (ProcessTask F) :=
  match s.worker with
  | .awaiting _ t _ | .draining _ t _ =>
    Function.update s.task t ((s.task t).map ProcessTask.cancel)
  | .getting | .ended _ => s.task

/-- The mark of the worker task after `_worker_task.cancel()`. -/
def stoppedMark (s : TranscriptionQueue F) : Bool :=
  match s.worker with
  | .getting => true
  | .awaiting _ t _ | .draining _ t _ => s.taskDone t || s.workerCancel
  | .ended _ => s.workerCancel

/-- **`_worker_task.cancel()`** marks the task the worker awaits, or the worker. -/
theorem cancelWorker_eq (s : TranscriptionQueue F) :
    s.cancelWorker = { s with task := s.stoppedTasks, workerCancel := s.stoppedMark } := by
  have hnone {t : TaskId} (ht : s.task t = none) :
      Function.update s.task t ((s.task t).map ProcessTask.cancel) = s.task ∧
        (s.taskDone t || s.workerCancel) = true := by
    have hsame : Function.update s.task t none = s.task :=
      Function.update_eq_self_iff.mpr ht.symm
    exact ⟨by rw [ht]; exact hsame, by simp [taskDone, ht]⟩
  unfold cancelWorker stoppedTasks stoppedMark
  cases hw : s.worker with
  | getting => rfl
  | ended o => exact congrArg (fun w => { s with worker := w }) hw
  | awaiting id t start | draining id t start =>
    cases ht : s.task t with
    | none =>
      obtain ⟨htask, hmark⟩ := hnone ht
      rw [ht] at htask
      simp only [ht, htask, hmark]
    | some p =>
      simp only [taskDone, ht, Option.map_some, ProcessTask.cancel,
        AsyncTask.cancelAwaiting_fst, AsyncTask.cancelAwaiting_snd]

/-! ## The cleanup timers -/

/-- A timer that finds its job forgets it. -/
theorem cleanupJob_of_mem {s : TranscriptionQueue F} {id : JobId} (unlink : UnlinkOutcome)
    (hid : id ∈ s.jobs) : s.cleanupJob id unlink =
      { s with
        cleanupTasks := s.cleanupTasks.erase id
        jobs := s.jobs.erase id
        job := Function.update s.job id { s.job id with audioPath := none }
        disk := ((s.job id).discardAudio unlink s.disk).2.2 } := by
  simp only [cleanupJob, if_pos hid, discardAudio, setJob, discardAudio_job]

/-- A timer that finds nothing is over. -/
theorem cleanupJob_of_not_mem {s : TranscriptionQueue F} {id : JobId} (unlink : UnlinkOutcome)
    (hid : id ∉ s.jobs) :
    s.cleanupJob id unlink = { s with cleanupTasks := s.cleanupTasks.erase id } := by
  simp only [cleanupJob, if_neg hid]

end TranscriptionQueue

end VibeVoice
