import VibeVoice.Server.Ledger

/-!
# Who has the last word on a status

`cancel` writes `CANCELLED` at once, also for the job the worker is busy with.
The worker writes the status of that job once more when it is resumed, from what
it was resumed with.  The two agree when it is a `CancelledError`: the handler
looks at `cancel_requested`.  They do not when the process task had already
ended, or ended with an exception of its own after it was told to stop: nothing
in those branches looks at `cancel_requested`, `error_message` is `Job
cancelled` by then, and the worker writes `FAILED` over `CANCELLED` and counts
the run time.

`CancelHeeded` is the condition that this does not happen.  In the runs in which
it holds at every step a status that is terminal is never written again
(`terminal_absorbing`); a step that violates it makes a cancelled job a failed
one (`Verdicts.overwritten`).
-/

namespace VibeVoice

namespace TranscriptionQueue

open TranscriptionJob

variable {pf : ProcessFn} {maxSize : ℕ} {s s' : TranscriptionQueue pf.Frame}

/-! ## The condition -/

/-- If the worker awaits a job that has been cancelled, it is going to be resumed
with a `CancelledError`. -/
def cancelHeeded {F : Type} (s : TranscriptionQueue F) : Bool :=
  match s.worker with
  | .awaiting id t _ => !(s.job id).cancelRequested || s.wakeOf t == some .cancelled
  | .getting | .draining _ _ _ | .ended _ => true

/-- Each time the worker is resumed from awaiting the process task of a cancelled
job, it is with a `CancelledError`. -/
def CancelHeeded (s : TranscriptionQueue pf.Frame) (a : Action pf.Input) : Prop :=
  a.isWorker = true → s.cancelHeeded = true

instance (s : TranscriptionQueue pf.Frame) (a : Action pf.Input) : Decidable (CancelHeeded s a) :=
  inferInstanceAs (Decidable (_ → _))

/-- What the condition says of the step it is about. -/
theorem outcome_of_cancelHeeded {id : JobId} {t : TaskId} {start : ℚ}
    {o outcome : Outcome PyException} (hw : s.worker = .awaiting id t start)
    (ht : s.task t = some ⟨id, .done o⟩)
    (ho : outcome = if s.workerCancel then .cancelled else o) :
    s.cancelHeeded = true ↔ ((s.job id).cancelRequested = true → outcome = .cancelled) := by
  have hwake : s.wakeOf t = some outcome := by
    rw [wakeOf, ht, Option.bind_some, AsyncTask.seenBy, ho]
  simp only [cancelHeeded, hw, hwake, Bool.or_eq_true, Bool.not_eq_true', beq_iff_eq,
    Option.some.injEq]
  cases (s.job id).cancelRequested <;> simp

/-! ## The invariant -/

/-- What a cancelled job, and a job whose run time was counted, look like. -/
structure Verdicts (s : TranscriptionQueue pf.Frame) : Prop where
  requested_of_cancelled : ∀ id ∈ s.history.cancelled, (s.job id).cancelRequested = true
  status_of_requested : ∀ id, (s.job id).cancelRequested = true → (s.job id).status = .cancelled
  message_of_requested : ∀ id, (s.job id).cancelRequested = true →
    (s.job id).errorMessage.isSome = true
  /-- While its process task runs, only `cancel` makes a job `CANCELLED`. -/
  requested_of_awaited : ∀ id t start, s.worker = .awaiting id t start →
    (s.job id).status = .cancelled → (s.job id).cancelRequested = true
  status_of_timed : ∀ id ∈ s.history.timed,
    (s.job id).status = .completed ∨ (s.job id).status = .failed

/-- The worker's job is running, or was cancelled by `cancel`. -/
theorem Verdicts.awaited (hv : Verdicts s) (hc : Coherent s) {id : JobId} {t : TaskId} {start : ℚ}
    (hw : s.worker = .awaiting id t start) :
    (s.job id).status.isRunning = true ∨ (s.job id).cancelRequested = true :=
  (hc.awaited hw).2.imp_right (hv.requested_of_awaited id t start hw)

/-- **A terminal status is not written again**, by a step that meets the
condition. -/
theorem Verdicts.status_of_step (hv : Verdicts s) (hc : Coherent s) {a : Action pf.Input}
    (hheeded : CancelHeeded s a) (ht : Transition pf s a s') {id : JobId}
    (hst : (s.job id).status.isTerminal = true) : (s'.job id).status = (s.job id).status := by
  have key (j : JobId) (job : TranscriptionJob) (hj : j = id → job.status = (s.job id).status) :
      (Function.update s.job j job id).status = (s.job id).status := by
    by_cases hji : j = id
    · rw [← hji, Function.update_self, hj hji, hji]
    · rw [Function.update_of_ne (Ne.symm hji)]
  cases ht with
  | refused | retire | skip | stop | disarm | stopRaised | stopped | expire => rfl
  | reserve j who hid hroom =>
    refine key j _ fun hj => ?_
    exact (show (s.job id).status = .uploading from hj ▸ hc.sound.untouched j hid).symm
  | attach j path content mime hotwords duration hid hup haudio hpath =>
    exact key j _ fun hj => congrArg (fun j => (s.job j).status) hj
  | submit j hid hup =>
    refine key j _ fun hj => ?_
    rw [← hj, hup] at hst
    exact absurd hst (by decide)
  | cancel j unlink hid hlive =>
    refine key j _ fun hj => ?_
    rw [hj, hst] at hlive
    exact absurd hlive (by decide)
  | start now unlink j rest hw hmark hq hid hne =>
    refine key j _ fun hj => ?_
    rw [← hj, hc.queued_of_front hq hne] at hst
    exact absurd hst (by decide)
  | resume now unlink j t start o outcome hw ht ho =>
    refine key j _ fun hj => ?_
    subst hj
    rcases hv.awaited hc hw with hrun | hreq
    · rw [JobStatus.isTerminal_of_isRunning hrun] at hst
      exact absurd hst (by decide)
    · have houtcome := (outcome_of_cancelHeeded hw ht ho).mp (hheeded rfl) hreq
      rw [afterClose_status, settle_status, houtcome]
      exact (hv.status_of_requested j hreq).symm
  | process t input j start frame cancelling hw ht =>
    refine key j _ fun hj => ?_
    subst hj
    cases hrun : (s.job j).status.isRunning with
    | true =>
      rw [JobStatus.isTerminal_of_isRunning hrun] at hst
      exact absurd hst (by decide)
    | false =>
      obtain ⟨message, hm⟩ := hc.quiet_of_isTerminal hw ht hrun input
      rw [hm]
  | forget j unlink htimer hid => exact key j _ fun hj => congrArg (fun j => (s.job j).status) hj
  | consume j item rest hq => exact key j _ fun hj => congrArg (fun j => (s.job j).status) hj

/-- A step that writes no record. -/
theorem Verdicts.frame (hv : Verdicts s) (hjob : s'.job = s.job)
    (hcancelled : s'.history.cancelled = s.history.cancelled)
    (htimed : s'.history.timed = s.history.timed)
    (hworker : ∀ id t start, s'.worker = .awaiting id t start →
      s.worker = .awaiting id t start) : Verdicts s' := by
  refine ⟨?_, ?_, ?_, ?_, ?_⟩ <;> rw [hjob]
  · exact hcancelled ▸ hv.requested_of_cancelled
  · exact hv.status_of_requested
  · exact hv.message_of_requested
  · exact fun id t start hw => hv.requested_of_awaited id t start (hworker id t start hw)
  · exact htimed ▸ hv.status_of_timed

/-- A step that writes one record. -/
theorem Verdicts.update (hv : Verdicts s) {id : JobId} {job : TranscriptionJob}
    (hjob : s'.job = Function.update s.job id job)
    (hcancelled : ∀ j ∈ s'.history.cancelled,
      j ∈ s.history.cancelled ∨ j = id ∧ job.cancelRequested = true)
    (htimed : ∀ j ∈ s'.history.timed, j ∈ s.history.timed ∨
      j = id ∧ (job.status = .completed ∨ job.status = .failed))
    (hrequested : (s.job id).cancelRequested = true → job.cancelRequested = true)
    (hstatus : job.cancelRequested = true → job.status = .cancelled)
    (hmessage : job.cancelRequested = true → job.errorMessage.isSome = true)
    (hworker : ∀ j t start, s'.worker = .awaiting j t start → j ≠ id →
      s.worker = .awaiting j t start)
    (hawaited : ∀ t start, s'.worker = .awaiting id t start → job.status = .cancelled →
      job.cancelRequested = true)
    (hkeep : (s.job id).status.isTerminal = true → job.status = (s.job id).status) :
    Verdicts s' := by
  have hself : s'.job id = job := by rw [hjob, Function.update_self]
  have hother (j : JobId) (hj : j ≠ id) : s'.job j = s.job j := by
    rw [hjob, Function.update_of_ne hj]
  refine ⟨?_, ?_, ?_, ?_, ?_⟩
  · intro j hj
    rcases hcancelled j hj with hj | ⟨rfl, hreq⟩
    · by_cases hji : j = id
      · rw [hji, hself]
        exact hrequested (hv.requested_of_cancelled id (hji ▸ hj))
      · rw [hother j hji]
        exact hv.requested_of_cancelled j hj
    · rw [hself]
      exact hreq
  · intro j
    by_cases hji : j = id
    · rw [hji, hself]
      exact hstatus
    · rw [hother j hji]
      exact hv.status_of_requested j
  · intro j
    by_cases hji : j = id
    · rw [hji, hself]
      exact hmessage
    · rw [hother j hji]
      exact hv.message_of_requested j
  · intro j t start hw
    by_cases hji : j = id
    · subst hji
      rw [hself]
      exact hawaited t start hw
    · rw [hother j hji]
      exact hv.requested_of_awaited j t start (hworker j t start hw hji)
  · intro j hj
    rcases htimed j hj with hj | ⟨rfl, hst⟩
    · have hold := hv.status_of_timed j hj
      by_cases hji : j = id
      · subst hji
        rw [hself, hkeep (by rcases hold with hold | hold <;> rw [hold] <;> rfl)]
        exact hold
      · rw [hother j hji]
        exact hold
    · rw [hself]
      exact hst

/-- A job that is not over was not cancelled. -/
theorem Verdicts.not_requested (hv : Verdicts s) {id : JobId}
    (hst : (s.job id).status.isTerminal = false) : (s.job id).cancelRequested = false := by
  cases hreq : (s.job id).cancelRequested with
  | false => rfl
  | true =>
    rw [hv.status_of_requested id hreq] at hst
    exact absurd hst (by decide)

/-- A step that takes a job that is not over to another status of that kind. -/
theorem Verdicts.progress (hv : Verdicts s) {id : JobId} {job : TranscriptionJob}
    (hjob : s'.job = Function.update s.job id job)
    (hcancelled : s'.history.cancelled = s.history.cancelled)
    (htimed : s'.history.timed = s.history.timed)
    (hworker : ∀ j t start, s'.worker = .awaiting j t start → j ≠ id →
      s.worker = .awaiting j t start)
    (hrequested : job.cancelRequested = (s.job id).cancelRequested)
    (hst : (s.job id).status.isTerminal = false) (hst' : job.status.isTerminal = false) :
    Verdicts s' := by
  have hnot : job.cancelRequested = false := hrequested.trans (hv.not_requested hst)
  refine hv.update hjob (fun j hj => Or.inl (hcancelled ▸ hj)) (fun j hj => Or.inl (htimed ▸ hj))
    (fun h => hrequested.trans h) ?_ ?_ hworker ?_ ?_
  · exact fun h => absurd (hnot.symm.trans h) Bool.false_ne_true
  · exact fun h => absurd (hnot.symm.trans h) Bool.false_ne_true
  · intro t start _ h
    rw [h] at hst'
    exact absurd hst' (by decide)
  · exact fun h => absurd (hst.symm.trans h) Bool.false_ne_true

/-- A step that writes nothing of a record that the invariant looks at. -/
theorem Verdicts.same (hv : Verdicts s) {id : JobId} {job : TranscriptionJob}
    (hjob : s'.job = Function.update s.job id job)
    (hcancelled : s'.history.cancelled = s.history.cancelled)
    (htimed : s'.history.timed = s.history.timed) (hworker : s'.worker = s.worker)
    (hrequested : job.cancelRequested = (s.job id).cancelRequested)
    (hstatus : job.status = (s.job id).status)
    (hmessage : (s.job id).errorMessage.isSome = true → job.errorMessage.isSome = true) :
    Verdicts s' := by
  refine hv.update hjob (fun j hj => Or.inl (hcancelled ▸ hj)) (fun j hj => Or.inl (htimed ▸ hj))
    (fun h => hrequested.trans h) ?_ ?_ (fun j t start hw _ => hworker ▸ hw) ?_ fun _ => hstatus
  · rw [hrequested, hstatus]
    exact hv.status_of_requested id
  · rw [hrequested]
    exact fun h => hmessage (hv.message_of_requested id h)
  · intro t start hw
    rw [hrequested, hstatus]
    exact hv.requested_of_awaited id t start (hworker ▸ hw)

/-- `cancel` keeps the invariant: it writes all there is to say of a cancelled job. -/
theorem Verdicts.cancel (hv : Verdicts s) {id : JobId} (unlink : UnlinkOutcome)
    (hst : (s.job id).status.isTerminal = false) : Verdicts (s.afterCancel id unlink) := by
  refine hv.update rfl ?_ (fun j hj => Or.inl hj) (fun _ => by simp) (fun _ => by simp)
    (fun _ => by simp) (fun _ _ _ h _ => h) (fun _ _ _ _ => by simp) ?_
  · intro j hj
    refine (List.mem_append.mp hj).imp_right fun hj => ?_
    split at hj
    · exact ⟨List.mem_singleton.mp hj, by simp⟩
    · exact absurd hj List.not_mem_nil
  · exact fun h => absurd (hst.symm.trans h) Bool.false_ne_true

/-- The end of a job keeps the invariant, when a cancelled job ends cancelled. -/
theorem Verdicts.resume (hv : Verdicts s) (hc : Coherent s) {id : JobId} {t : TaskId} {start : ℚ}
    (hw : s.worker = .awaiting id t start) (elapsed : ℚ) (unlink : UnlinkOutcome)
    {outcome : Outcome PyException}
    (hheeded : (s.job id).cancelRequested = true → outcome = .cancelled) :
    Verdicts ({ s with workerCancel := false }.afterResume id elapsed unlink outcome) := by
  have hidle := workerAfter_idle (s.job id) outcome ((s.job id).unlinkError unlink)
  have hnot (j : JobId) (t : TaskId) (start : ℚ) :
      ({ s with workerCancel := false }.afterResume id elapsed unlink outcome).worker ≠
        .awaiting j t start := by
    intro h
    rcases hidle with hidle | ⟨o, hidle⟩ <;> exact absurd (hidle.symm.trans h) (by simp)
  refine hv.update rfl (fun j hj => Or.inl hj) ?_ (fun h => by simpa using h) ?_ ?_
    (fun j t start h _ => absurd h (hnot j t start))
    (fun t start h => absurd h (hnot id t start)) ?_
  · intro j hj
    refine (List.mem_append.mp hj).imp_right fun hj => ?_
    split at hj
    · rename_i hverdict
      exact ⟨List.mem_singleton.mp hj, by simpa using hverdict⟩
    · exact absurd hj List.not_mem_nil
  · intro h
    rw [afterClose_cancelRequested, settle_cancelRequested] at h
    rw [afterClose_status, settle_status, hheeded h]
    rfl
  · intro h
    rw [afterClose_cancelRequested, settle_cancelRequested] at h
    rw [afterClose_errorMessage, settle_errorMessage, hheeded h]
    rfl
  · intro hst
    rcases hv.awaited hc hw with hrun | hreq
    · rw [JobStatus.isTerminal_of_isRunning hrun] at hst
      exact absurd hst Bool.false_ne_true
    · rw [afterClose_status, settle_status, hheeded hreq, hv.status_of_requested id hreq]
      rfl

/-- A step of a process task keeps the invariant: it writes a status only while
its job runs. -/
theorem Verdicts.process (hv : Verdicts s) (hc : Coherent s) {id : JobId} {t : TaskId} {start : ℚ}
    {frame : pf.Frame} {cancelling : Bool} (hw : s.worker = .awaiting id t start)
    (ht : s.task t = some ⟨id, .suspended frame cancelling⟩) (input : pf.Input) :
    Verdicts (afterProcess pf s t id frame cancelling input) := by
  have hspec := applyEffects_spec (pf.advance frame cancelling input (s.job id)).1 (s.job id)
  cases hrun : (s.job id).status.isRunning with
  | true =>
    have hlive := JobStatus.isTerminal_of_isRunning hrun
    refine hv.progress rfl rfl rfl (fun _ _ _ h _ => h) hspec.cancelRequested hlive ?_
    rcases hspec.status with hst | hst <;> rw [hst]
    · exact hlive
    · rfl
  | false =>
    obtain ⟨message, hm⟩ := hc.quiet_of_isTerminal hw ht hrun input
    exact hv.same rfl rfl rfl rfl hspec.cancelRequested (by rw [hm]) hspec.errorMessage

/-- **Every step that meets the condition keeps the invariant.** -/
theorem Verdicts.step (hv : Verdicts s) (hc : Coherent s) {a : Action pf.Input}
    (hheeded : CancelHeeded s a) (ht : Transition pf s a s') : Verdicts s' := by
  cases ht with
  | refused => exact hv
  | skip | stop | disarm | stopRaised | stopped | expire =>
    exact hv.frame rfl rfl rfl fun _ _ _ h => h
  | retire => exact hv.frame rfl rfl rfl fun _ _ _ h => absurd h (by simp)
  | reserve id who hid hroom =>
    have hup : (s.job id).status = .uploading := hc.sound.untouched id hid
    exact hv.same rfl rfl rfl rfl rfl hup.symm fun h => h
  | attach | forget | consume => exact hv.same rfl rfl rfl rfl rfl rfl fun h => h
  | submit id hid hst =>
    exact hv.progress rfl rfl rfl (fun _ _ _ h _ => h) rfl (by rw [hst]; rfl) rfl
  | cancel id unlink hid hst => exact hv.cancel unlink hst
  | start now unlink id rest hw hmark hq hid hne =>
    have hqueued := hc.queued_of_front hq hne
    refine hv.progress rfl rfl rfl ?_ rfl (by rw [hqueued]; rfl) rfl
    intro j t start h hj
    simp only [afterStart, Worker.awaiting.injEq] at h
    exact absurd h.1.symm hj
  | resume now unlink id t start o outcome hw ht ho =>
    exact hv.resume hc hw _ unlink ((outcome_of_cancelHeeded hw ht ho).mp (hheeded rfl))
  | process t input id start frame cancelling hw ht => exact hv.process hc hw ht input

/-! ## Runs -/

theorem verdicts_of_reachable (h : (system pf maxSize).ReachableWhen CancelHeeded s) :
    Verdicts s := by
  refine h.induction Verdicts ?_ fun s a s' hs hv hheeded hst =>
    hv.step (coherent_of_reachable hs) hheeded
      (transition_of_step (coherent_of_reachable hs).linked hst)
  rintro s rfl
  exact ⟨by simp, by simp, by simp, by simp, by simp⟩

/-- A step that does not meet the condition makes a cancelled job a failed one. -/
theorem Verdicts.overwritten (hv : Verdicts s) {id : JobId} {t : TaskId} {start now : ℚ}
    {unlink : UnlinkOutcome} (hl : Linked s) (hw : s.worker = .awaiting id t start)
    (hheeded : s.cancelHeeded = false)
    (hst : TranscriptionQueue.step pf s (.worker now unlink) = some s') :
    (s.job id).status = .cancelled ∧ (s'.job id).status = .failed ∧ id ∈ s'.history.timed := by
  obtain ⟨o, outcome, ht, ho, rfl⟩ := workerStep_awaiting hl hw hst
  have hnot := mt (outcome_of_cancelHeeded hw ht ho).mpr (by simp [hheeded])
  rw [Classical.not_imp] at hnot
  obtain ⟨hreq, hne⟩ := hnot
  have hverdict : (s.job id).verdict outcome = .failed := by
    cases outcome with
    | returned => simp [verdict, hv.message_of_requested id hreq]
    | raised exc => rfl
    | cancelled => exact absurd rfl hne
  refine ⟨hv.status_of_requested id hreq, ?_, ?_⟩
  · simp [afterResume, afterClose, hverdict]
  · simp [afterResume, timedAfter, hverdict]

/-- **Terminal statuses are absorbing**, in the runs in which the worker is never
resumed from a cancelled job but with a `CancelledError`; and only in these. -/
theorem terminal_absorbing (h : (system pf maxSize).ReachableWhen CancelHeeded s) :
    (∀ s', (system pf maxSize).RunWhen CancelHeeded s s' → ∀ id,
        (s.job id).status.isTerminal = true → (s'.job id).status = (s.job id).status) ∧
      (∀ id ∈ s.history.cancelled, (s.job id).status = .cancelled ∧ id ∉ s.history.timed) ∧
      ∀ a s', (system pf maxSize).step s a = some s' → ¬ CancelHeeded s a →
        ∃ id, (s.job id).status = .cancelled ∧ (s'.job id).status = .failed ∧
          id ∈ s'.history.timed := by
  have hv := verdicts_of_reachable h
  refine ⟨fun s' hrun id => ?_, fun id hid => ?_, fun a s' hst hnot => ?_⟩
  · refine TransitionSystem.RunWhen.relates (fun s s' => (s.job id).status.isTerminal = true →
      (s'.job id).status = (s.job id).status) (fun _ _ => rfl) ?_ ?_ h hrun
    · intro s t u hst htu hterm
      rw [htu (by rw [hst hterm]; exact hterm), hst hterm]
    · intro s a t hs hheeded hst hterm
      have hc := coherent_of_reachable hs
      exact (verdicts_of_reachable hs).status_of_step hc hheeded
        (transition_of_step hc.linked hst) hterm
  · have hst := hv.status_of_requested id (hv.requested_of_cancelled id hid)
    refine ⟨hst, fun htimed => ?_⟩
    have htimed := hv.status_of_timed id htimed
    rw [hst] at htimed
    exact absurd htimed (by decide)
  · have hl := (coherent_of_reachable h).linked
    rw [CancelHeeded, Classical.not_imp, Bool.not_eq_true] at hnot
    obtain ⟨hworker, hheeded⟩ := hnot
    cases a with
    | worker now unlink =>
      cases hw : s.worker with
      | awaiting id t start => exact ⟨id, hv.overwritten hl hw hheeded hst⟩
      | getting | ended => exact absurd hheeded (by simp [cancelHeeded, hw])
      | draining id t start => exact absurd hw (hl.not_draining id t start)
    | reserve | attach | submit | cancel | process | stop | stopResume | cleanup | consume =>
      exact absurd hworker Bool.false_ne_true

/-- A run up to a process task that has just ended, with the worker not yet
resumed. -/
def endedUnnoticed : List (Action (processFn emptyListText .groq).Input) :=
  [.reserve "a" "x", .attach "a" ["vvv-upload-a", "audio.audio"] [] "audio/wav" none 1,
    .submit "a", .worker 0 .removed, .process 0 (.text ""), .process 0 (.text "")]

/-- **They are not absorbing in every run**: cancelled after its process task has
ended, and before the worker has noticed, a job goes from `CANCELLED` to
`FAILED`, and its run time is counted. -/
theorem terminal_not_absorbing :
    ∃ s s', (system (processFn emptyListText .groq) 1).exec { maxSize := 1 }
        (endedUnnoticed ++ [.cancel "a" .removed]) = some s ∧
      (system (processFn emptyListText .groq) 1).step s (.worker 5 .removed) = some s' ∧
      s.history.cancelled = ["a"] ∧ (s.job "a").status = .cancelled ∧
      (s'.job "a").status = .failed ∧ s'.history.timed = ["a"] :=
  ⟨_, _, rfl, rfl, rfl, rfl, rfl, rfl⟩

/-- Cancelled while its process task runs, a job stays `CANCELLED`. -/
theorem terminal_absorbing_cancelled :
    ∃ s s', (system (processFn emptyListText .groq) 1).execWhen CancelHeeded { maxSize := 1 }
        [.reserve "a" "x", .attach "a" ["vvv-upload-a", "audio.audio"] [] "audio/wav" none 1,
          .submit "a", .worker 0 .removed, .process 0 (.text ""), .cancel "a" .removed] = some s ∧
      (system (processFn emptyListText .groq) 1).execWhen CancelHeeded s
        [.process 0 (.text ""), .process 0 (.text ""), .worker 1 .removed] = some s' ∧
      (s.job "a").status = .cancelled ∧ (s'.job "a").status = (s.job "a").status := by
  have hrun : (system (processFn emptyListText .groq) 1).execWhen CancelHeeded { maxSize := 1 }
      [.reserve "a" "x", .attach "a" ["vvv-upload-a", "audio.audio"] [] "audio/wav" none 1,
        .submit "a", .worker 0 .removed, .process 0 (.text ""), .cancel "a" .removed] =
      some _ := rfl
  exact ⟨_, _, hrun, rfl, rfl,
    (terminal_absorbing (TransitionSystem.reachableWhen_of_execWhen _ rfl hrun)).1 _
      (TransitionSystem.runWhen_of_execWhen
        [.process 0 (.text ""), .process 0 (.text ""), .worker 1 .removed] rfl) "a" rfl⟩

end TranscriptionQueue

end VibeVoice
