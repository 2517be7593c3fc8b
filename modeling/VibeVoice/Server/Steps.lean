import VibeVoice.Server.Refinement

/-!
# What a step can be

`step` once more, as a list of the things that can happen, each with what is
known when it does: which branch was taken, and what the guard of the branch
says.  The invariants that the abstract state does not see --- who was notified,
what is on the disk, where the worker is --- are proved by cases on `Transition`,
and unfold nothing.

The list is shorter than the code.  In a state whose links are intact the worker
never waits in its shutdown handler, and a task that takes a step is the one the
worker awaits.

What the invariant says of that one job is put in the words of the code at the
end.
-/

namespace VibeVoice

namespace TranscriptionQueue

open TranscriptionJob

variable {F : Type}

/-- The state after the worker handed job `id` over. -/
def afterStart (s : TranscriptionQueue F) (start : F) (id : JobId) (rest : List JobId) (now : ℚ) :
    TranscriptionQueue F :=
  { s with
    job := Function.update s.job id
      { s.job id with status := .processing, processTask := some s.nextTask }
    pending := rest
    task := Function.update s.task s.nextTask (some ⟨id, .suspended start false⟩)
    nextTask := s.nextTask + 1
    worker := .awaiting id s.nextTask now
    history := { s.history with handed := s.history.handed ++ [id] } }

/-- The state after a handler attached its upload. -/
def afterAttach (s : TranscriptionQueue F) (id : JobId) (path : PosixPath) (content : List UInt8)
    (mime : String) (hotwords : Option String) (duration : ℚ) : TranscriptionQueue F :=
  { s with
    job := Function.update s.job id { s.job id with
      audioPath := some path, audioMime := mime, hotwords := hotwords,
      audioDurationSeconds := duration }
    disk := (s.disk.mkdir path.parent).create path content
    history := { s.history with attached := s.history.attached ++ [(id, path)] } }

/-- The state after a cleanup timer forgot its job. -/
def afterForget (s : TranscriptionQueue F) (id : JobId) (unlink : UnlinkOutcome) :
    TranscriptionQueue F :=
  { s with
    cleanupTasks := s.cleanupTasks.erase id
    jobs := s.jobs.erase id
    job := Function.update s.job id { s.job id with audioPath := none }
    disk := ((s.job id).discardAudio unlink s.disk).2.2 }

/-- The state after `stop` was called and awaits the worker. -/
def afterStop (s : TranscriptionQueue F) : TranscriptionQueue F :=
  { s with
    task := s.stoppedTasks
    workerCancel := s.stoppedMark
    stopping := s.stopping + 1
    history := { s.history with stopRequested := true } }

/-- The state after a step of the process task of job `id`. -/
def afterProcess (pf : ProcessFn) (s : TranscriptionQueue pf.Frame) (t : TaskId) (id : JobId)
    (frame : pf.Frame) (cancelling : Bool) (input : pf.Input) : TranscriptionQueue pf.Frame :=
  { s with
    job := Function.update s.job id
      ((s.job id).applyEffects (pf.advance frame cancelling input (s.job id)).1)
    task := Function.update s.task t
      (some ⟨id, (pf.advance frame cancelling input (s.job id)).2⟩) }

/-- The step is a call of a handler, which may be refused. -/
def Action.isCall {I : Type} : Action I → Bool
  | .reserve _ _ | .submit _ | .cancel _ _ => true
  | _ => false

/-- The step is one of the worker's. -/
def Action.isWorker {I : Type} : Action I → Bool
  | .worker _ _ => true
  | _ => false

/-- **What a step can be.** -/
inductive Transition (pf : ProcessFn) (s : TranscriptionQueue pf.Frame) :
    Action pf.Input → TranscriptionQueue pf.Frame → Prop where
  /-- A call that raised, or found nothing to do. -/
  | refused (a : Action pf.Input) (ha : a.isCall = true) : Transition pf s a s
  | reserve (id : JobId) (who : String) (hid : id ∉ s.history.reserved)
      (hroom : s.activeCount < s.maxSize) :
      Transition pf s (.reserve id who) (s.afterReserve id who)
  | attach (id : JobId) (path : PosixPath) (content : List UInt8) (mime : String)
      (hotwords : Option String) (duration : ℚ) (hid : id ∈ s.history.reserved)
      (hst : (s.job id).status = .uploading) (haudio : (s.job id).audioPath = none)
      (hpath : ¬ s.disk.HasFile path) :
      Transition pf s (.attach id path content mime hotwords duration)
        (s.afterAttach id path content mime hotwords duration)
  | submit (id : JobId) (hid : id ∈ s.jobs) (hst : (s.job id).status = .uploading) :
      Transition pf s (.submit id) (s.afterSubmit id)
  | cancel (id : JobId) (unlink : UnlinkOutcome) (hid : id ∈ s.jobs)
      (hst : (s.job id).status.isTerminal = false) :
      Transition pf s (.cancel id unlink) (s.afterCancel id unlink)
  /-- The worker, told to stop while it waits for a job. -/
  | retire (now : ℚ) (unlink : UnlinkOutcome) (hw : s.worker = .getting)
      (hmark : s.workerCancel = true) :
      Transition pf s (.worker now unlink)
        { s with worker := .ended .cancelled, workerCancel := false }
  | skip (now : ℚ) (unlink : UnlinkOutcome) (id : JobId) (rest : List JobId)
      (hw : s.worker = .getting) (hmark : s.workerCancel = false) (hq : s.pending = id :: rest)
      (hid : id ∉ s.jobs ∨ (s.job id).status = .cancelled) :
      Transition pf s (.worker now unlink) { s with pending := rest }
  | start (now : ℚ) (unlink : UnlinkOutcome) (id : JobId) (rest : List JobId)
      (hw : s.worker = .getting) (hmark : s.workerCancel = false) (hq : s.pending = id :: rest)
      (hid : id ∈ s.jobs) (hst : (s.job id).status ≠ .cancelled) :
      Transition pf s (.worker now unlink) (s.afterStart pf.start id rest now)
  /-- The worker, resumed from the await of a process task. -/
  | resume (now : ℚ) (unlink : UnlinkOutcome) (id : JobId) (t : TaskId) (start : ℚ)
      (o outcome : Outcome PyException) (hw : s.worker = .awaiting id t start)
      (ht : s.task t = some ⟨id, .done o⟩)
      (ho : outcome = if s.workerCancel then .cancelled else o) :
      Transition pf s (.worker now unlink)
        ({ s with workerCancel := false }.afterResume id (now - start) unlink outcome)
  | process (t : TaskId) (input : pf.Input) (id : JobId) (start : ℚ) (frame : pf.Frame)
      (cancelling : Bool) (hw : s.worker = .awaiting id t start)
      (ht : s.task t = some ⟨id, .suspended frame cancelling⟩) :
      Transition pf s (.process t input) (afterProcess pf s t id frame cancelling input)
  | stop (htask : s.workerTask = true) : Transition pf s .stop s.afterStop
  /-- `stop` with no worker task left. -/
  | disarm (htask : s.workerTask = false) : Transition pf s .stop { s with cleanupTasks := [] }
  /-- A call of `stop` that the worker's exception comes out of. -/
  | stopRaised (n : ℕ) (e : PyException) (hn : s.stopping = n + 1)
      (hw : s.worker = .ended (.raised e)) :
      Transition pf s .stopResume { s with stopping := n }
  | stopped (n : ℕ) (o : Outcome PyException) (hn : s.stopping = n + 1)
      (hw : s.worker = .ended o) :
      Transition pf s .stopResume { s with stopping := n, workerTask := false, cleanupTasks := [] }
  | forget (id : JobId) (unlink : UnlinkOutcome) (htimer : id ∈ s.cleanupTasks)
      (hid : id ∈ s.jobs) :
      Transition pf s (.cleanup id unlink) (s.afterForget id unlink)
  /-- A cleanup timer whose job is gone. -/
  | expire (id : JobId) (unlink : UnlinkOutcome) (htimer : id ∈ s.cleanupTasks)
      (hid : id ∉ s.jobs) :
      Transition pf s (.cleanup id unlink) { s with cleanupTasks := s.cleanupTasks.erase id }
  | consume (id : JobId) (item : Option String) (rest : List (Option String))
      (hq : (s.job id).chunkQueue = item :: rest) :
      Transition pf s (.consume id)
        { s with job := Function.update s.job id { s.job id with chunkQueue := rest } }

variable {pf : ProcessFn} {s s' : TranscriptionQueue pf.Frame}

/-- The worker's steps. -/
theorem transition_worker (hl : Linked s) {now : ℚ} {unlink : UnlinkOutcome}
    (h : s.workerStep pf.start now unlink = some s') : Transition pf s (.worker now unlink) s' := by
  cases hw : s.worker with
  | getting =>
    rcases workerStep_getting hw h with ⟨hmark, rfl⟩ | ⟨id, rest, hmark, hq, rfl⟩
    · exact .retire now unlink hw hmark
    · by_cases hid : id ∉ s.jobs ∨ (s.job id).status = .cancelled
      · rw [workerTake, if_pos hid]
        exact .skip now unlink id rest hw hmark hq hid
      · rw [workerTake, if_neg hid]
        simp only [not_or, not_not] at hid
        exact .start now unlink id rest hw hmark hq hid.1 hid.2
  | awaiting id t start =>
    obtain ⟨o, outcome, ht, ho, rfl⟩ := workerStep_awaiting hl hw h
    exact .resume now unlink id t start o outcome hw ht ho
  | draining id t start => exact absurd hw (hl.not_draining id t start)
  | ended o => simp [workerStep_ended hw] at h

/-- The calls of `stop`. -/
theorem transition_stop (s : TranscriptionQueue pf.Frame) : Transition pf s .stop s.stop := by
  unfold stop
  split
  · rename_i htask
    rw [cancelWorker_eq]
    exact .stop htask
  · rename_i htask
    exact .disarm (by simpa using htask)

theorem transition_stopResume (h : s.stopResume = some s') : Transition pf s .stopResume s' := by
  unfold stopResume at h
  split at h
  · exact absurd h (by simp)
  · rename_i n e hn hw
    exact Option.some_inj.mp h ▸ .stopRaised n e hn hw
  · rename_i n o hne hn hw
    exact Option.some_inj.mp h ▸ .stopped n o hn hw
  · exact absurd h (by simp)

/-- **Every step is one of them.** -/
theorem transition_of_step (hl : Linked s) {a : Action pf.Input} (h : step pf s a = some s') :
    Transition pf s a s' := by
  cases a with
  | reserve id who =>
    simp only [step] at h
    split at h
    · exact absurd h (by simp)
    · rename_i hid
      rw [← Option.some_inj.mp h]
      by_cases hroom : s.activeCount < s.maxSize
      · rw [reserve_of_room id who hroom]
        exact .reserve id who hid hroom
      · rw [reserve_of_full id who (Nat.le_of_not_lt hroom)]
        exact .refused _ rfl
  | attach id path content mime hotwords duration =>
    obtain ⟨⟨hid, hst, haudio, hpath⟩, rfl⟩ := attach_eq_some h
    exact .attach id path content mime hotwords duration hid hst haudio hpath
  | submit id =>
    rw [← Option.some_inj.mp h]
    by_cases hid : id ∈ s.jobs ∧ (s.job id).status = .uploading
    · rw [submit_of_uploading hid.1 hid.2]
      exact .submit id hid.1 hid.2
    · rw [submit_of_not hid]
      exact .refused _ rfl
  | cancel id unlink =>
    rw [← Option.some_inj.mp h]
    by_cases hid : id ∉ s.jobs ∨ (s.job id).status.isTerminal = true
    · rw [cancel_of_not unlink hid]
      exact .refused _ rfl
    · simp only [not_or, not_not, Bool.not_eq_true] at hid
      rw [cancel_eq unlink hid.1 hid.2]
      exact .cancel id unlink hid.1 hid.2
  | worker now unlink => exact transition_worker hl h
  | process t input =>
    obtain ⟨id, frame, cancelling, ht, rfl⟩ := processStep_eq_some h
    obtain ⟨start, hw⟩ := hl.undone_awaited t _ ht rfl
    exact .process t input id start frame cancelling hw ht
  | stop => exact Option.some_inj.mp h ▸ transition_stop s
  | stopResume => exact transition_stopResume h
  | cleanup id unlink =>
    simp only [step] at h
    split at h
    · rename_i htimer
      rw [← Option.some_inj.mp h]
      by_cases hid : id ∈ s.jobs
      · rw [cleanupJob_of_mem unlink hid]
        exact .forget id unlink htimer hid
      · rw [cleanupJob_of_not_mem unlink hid]
        exact .expire id unlink htimer hid
    · exact absurd h (by simp)
  | consume id =>
    simp only [step] at h
    split at h
    · exact absurd h (by simp)
    · rename_i item rest hq
      exact Option.some_inj.mp h ▸ .consume id item rest hq

/-! ## The job the worker is busy with -/

/-- The worker's job has been reserved, and is running or was cancelled. -/
theorem Coherent.awaited (hc : Coherent s) {id : JobId} {t : TaskId} {start : ℚ}
    (hw : s.worker = .awaiting id t start) :
    id ∈ s.history.reserved ∧
      ((s.job id).status.isRunning = true ∨ (s.job id).status = .cancelled) := by
  obtain ⟨state, ht⟩ := hc.linked.awaited_task id t start hw
  have hcur : (lifecycle pf s).current = some (id, phaseOf pf state) := by
    simp only [lifecycle, hw, current_awaiting pf ht]
  exact ⟨hc.sound.current_reserved hcur, hc.sound.current_status id _ hcur⟩

/-- The worker hands over what is waiting. -/
theorem Coherent.queued_of_front (hc : Coherent s) {id : JobId} {rest : List JobId}
    (hq : s.pending = id :: rest) (hst : (s.job id).status ≠ .cancelled) :
    (s.job id).status = .queued := by
  have hmem : id ∈ (lifecycle pf s).pending := by
    show id ∈ s.pending
    rw [hq]
    exact List.mem_cons_self
  exact hc.sound.queued_of_mem_pending hmem hst

/-- What a process task whose job is over still does: it writes `error_message`. -/
theorem Coherent.quiet_of_isTerminal (hc : Coherent s) {id : JobId} {t : TaskId} {start : ℚ}
    {frame : pf.Frame} {cancelling : Bool} (hw : s.worker = .awaiting id t start)
    (ht : s.task t = some ⟨id, .suspended frame cancelling⟩)
    (hst : (s.job id).status.isRunning = false) (input : pf.Input) :
    ∃ message, (s.job id).applyEffects (pf.advance frame cancelling input (s.job id)).1 =
      { s.job id with errorMessage := message } := by
  have hsil : pf.Silenced (.suspended frame cancelling) := by
    by_contra hlive
    have hcur : (lifecycle pf s).current = some (id, .live) := by
      simp only [lifecycle, hw, current_awaiting pf ht]
      rw [(phaseOf_eq_live_iff pf).mpr hlive]
    have hrun := hc.sound.live_running id hcur
    rw [show ((lifecycle pf s).status id) = (s.job id).status from rfl, hst] at hrun
    exact absurd hrun (by decide)
  exact applyEffects_quiet _ (pf.quiet_of_silenced hsil input (s.job id))

/-- The current job of the abstract state is the one the worker awaits. -/
theorem Coherent.awaiting_of_current (hc : Coherent s) {id : JobId} {p : Phase}
    (h : (lifecycle pf s).current = some (id, p)) : ∃ t start, s.worker = .awaiting id t start := by
  cases hw : s.worker with
  | getting | ended => exact absurd h (by simp [lifecycle, current, hw])
  | draining j t start => exact absurd hw (hc.linked.not_draining j t start)
  | awaiting j t start =>
    simp only [lifecycle, hw, current, Option.some.injEq, Prod.mk.injEq] at h
    exact ⟨t, start, by rw [h.1]⟩

/-- A job that runs is the one the worker awaits. -/
theorem Coherent.awaiting_of_isRunning (hc : Coherent s) {id : JobId}
    (h : (s.job id).status.isRunning = true) : ∃ t start, s.worker = .awaiting id t start := by
  obtain ⟨p, hp⟩ := hc.sound.running_current id h
  exact hc.awaiting_of_current hp

/-- A job that waits is tracked. -/
theorem Coherent.tracked_of_queued (hc : Coherent s) {id : JobId}
    (hid : (s.job id).status = .queued) : id ∈ s.jobs := by
  have hpending : id ∈ (lifecycle pf s).pending := hc.sound.queued_pending id hid
  have hsubmitted := hc.sound.pending_submitted id hpending
  refine hc.sound.tracked id (hc.sound.submitted_reserved id hsubmitted) ?_
  rw [show (lifecycle pf s).status id = .queued from hid]
  rfl

/-- A job that has been submitted, is not over and is not awaited, waits. -/
theorem Coherent.queued_of_submitted (hc : Coherent s) {id : JobId}
    (hid : id ∈ s.history.submitted) (hst : (s.job id).status.isTerminal = false)
    (hnot : ∀ t start, s.worker ≠ .awaiting id t start) : (s.job id).status = .queued := by
  have hup : (s.job id).status ≠ .uploading := hc.sound.submitted_status id hid
  have hrun : (s.job id).status.isRunning = false := by
    rw [← Bool.not_eq_true]
    intro hrun
    obtain ⟨t, start, hw⟩ := hc.awaiting_of_isRunning hrun
    exact hnot t start hw
  cases h : (s.job id).status with
  | queued => rfl
  | uploading => exact absurd h hup
  | processing | streaming => exact absurd (h ▸ hrun) (by decide)
  | completed | failed | cancelled => exact absurd (h ▸ hst) (by decide)

/-! ## A call of `cancel` -/

/-- `cancel` is a step of the queue. -/
theorem step_cancel (s : TranscriptionQueue pf.Frame) (id : JobId) (unlink : UnlinkOutcome) :
    TranscriptionQueue.step pf s (.cancel id unlink) = some (s.cancel id unlink).2 := rfl

/-- `cancel`, called by a handler. -/
theorem run_cancel {maxSize : ℕ} (s : TranscriptionQueue pf.Frame) (id : JobId)
    (unlink : UnlinkOutcome) :
    (system pf maxSize).Run s (s.cancel id unlink).2 :=
  Relation.ReflTransGen.single ⟨.cancel id unlink, trivial, rfl⟩

/-- After a call of `cancel` the job is over, whatever `cancel` found. -/
theorem isTerminal_cancel (hc : Coherent s) {id : JobId} (hid : id ∈ s.history.reserved)
    (unlink : UnlinkOutcome) : ((s.cancel id unlink).2.job id).status.isTerminal = true := by
  by_cases h : id ∉ s.jobs ∨ (s.job id).status.isTerminal = true
  · rw [cancel_of_not unlink h]
    by_contra hst
    rcases h with h | h
    · exact h (hc.sound.tracked id hid (Bool.eq_false_iff.mpr hst))
    · exact hst h
  · simp only [not_or, not_not, Bool.not_eq_true] at h
    rw [cancel_eq unlink h.1 h.2]
    simp [afterCancel, afterClose, JobStatus.isTerminal]

end TranscriptionQueue

end VibeVoice
