import VibeVoice.Server.Survival

/-!
# A job that nobody cancels

A job can be cancelled in two ways: by a `cancel` of it, and by a `stop` of the
queue while the worker is busy with it.  `Uncancelled` is the condition that
neither happens.  Other jobs may be cancelled, and `os.unlink` may fail.

In the runs that meet it the process task of the job runs to its own end and the
worker sees what that end was (`Unharmed`).  So the job is over only as
`COMPLETED` or `FAILED`, and a task that raises makes it `FAILED` with the text of
the exception, in the next step of the worker (`failed_of_raised`).

`Survival` asks for more than that, since an `OSError` ends the worker.  But the
status is written before the `finally` block, so for the status of one job it
does not matter.
-/

namespace VibeVoice

namespace TranscriptionQueue

open TranscriptionJob

variable {pf : ProcessFn} {maxSize : ℕ} {s s' : TranscriptionQueue pf.Frame} {id : JobId}

/-- The step is a call of `cancel` for the job. -/
def Action.isCancelOf {I : Type} (id : JobId) : Action I → Bool
  | .cancel j _ => j = id
  | _ => false

/-- Nobody cancels the job, and nobody calls `stop`. -/
def Uncancelled (id : JobId) (_ : TranscriptionQueue pf.Frame) (a : Action pf.Input) : Prop :=
  a.isStop = false ∧ a.isCancelOf id = false

instance (id : JobId) (s : TranscriptionQueue pf.Frame) (a : Action pf.Input) :
    Decidable (Uncancelled id s a) :=
  inferInstanceAs (Decidable (_ ∧ _))

/-- The job was not cancelled, and neither was its task. -/
structure Unharmed (id : JobId) (s : TranscriptionQueue pf.Frame) : Prop where
  unmarked : s.workerCancel = false
  status : (s.job id).status ≠ .cancelled
  awaited : ∀ t start state, s.worker = .awaiting id t start → s.task t = some ⟨id, state⟩ →
    Unasked pf state

/-- A step that leaves the task to itself. -/
theorem Unharmed.frame (h : Unharmed id s) (hmark : s'.workerCancel = s.workerCancel)
    (hstatus : (s'.job id).status = .cancelled → (s.job id).status = .cancelled)
    (hworker : ∀ t start, s'.worker = .awaiting id t start → s.worker = .awaiting id t start)
    (htask : ∀ t state, s'.task t = some ⟨id, state⟩ → s.task t = some ⟨id, state⟩) :
    Unharmed id s' where
  unmarked := hmark.trans h.unmarked
  status hst := h.status (hstatus hst)
  awaited t start state hw ht := h.awaited t start state (hworker t start hw) (htask t state ht)

/-- A step that writes one record, and leaves the task to itself. -/
theorem Unharmed.update (h : Unharmed id s) {j : JobId} {job : TranscriptionJob}
    (hjob : s'.job = Function.update s.job j job) (hmark : s'.workerCancel = s.workerCancel)
    (hstatus : job.status = .cancelled → j ≠ id ∨ (s.job j).status = .cancelled)
    (hworker : ∀ t start, s'.worker = .awaiting id t start → s.worker = .awaiting id t start)
    (htask : ∀ t state, s'.task t = some ⟨id, state⟩ → s.task t = some ⟨id, state⟩) :
    Unharmed id s' := by
  refine h.frame hmark (fun hst => ?_) hworker htask
  rw [hjob] at hst
  by_cases hj : id = j
  · subst hj
    rw [Function.update_self] at hst
    exact (hstatus hst).resolve_left fun hne => hne rfl
  · rwa [Function.update_of_ne hj] at hst

/-- The cancellation of another job. -/
theorem Unharmed.cancel (h : Unharmed id s) (hc : Coherent s) {j : JobId} (hj : j ≠ id)
    (unlink : UnlinkOutcome) : Unharmed id (s.afterCancel j unlink) where
  unmarked := h.unmarked
  status := by
    simp only [afterCancel, afterClose, Function.update_of_ne (Ne.symm hj)]
    exact h.status
  awaited t start state hw ht := by
    have hother : (s.job j).processTask ≠ some t := by
      intro hmine
      obtain ⟨start', hw'⟩ := hc.linked.processTask_awaited j t hmine
      rw [show s.worker = .awaiting id t start from hw, Worker.awaiting.injEq] at hw'
      exact hj hw'.1.symm
    exact h.awaited t start state hw ((s.cancelledTasks_of_ne hother).symm.trans ht)

/-- What the worker sees of the job is not a cancellation. -/
theorem Unharmed.outcome (h : Unharmed id s) {t : TaskId} {start : ℚ}
    {o outcome : Outcome PyException} (hw : s.worker = .awaiting id t start)
    (ht : s.task t = some ⟨id, .done o⟩)
    (ho : outcome = if s.workerCancel then .cancelled else o) :
    outcome = o ∧ outcome ≠ .cancelled := by
  rw [h.unmarked, if_neg Bool.false_ne_true] at ho
  refine ⟨ho, ?_⟩
  rintro rfl
  exact (h.awaited t start _ hw ht).1 (congrArg AsyncTask.done ho.symm)

/-- The worker is resumed. -/
theorem Unharmed.resume (h : Unharmed id s) {j : JobId} {t : TaskId} {start : ℚ}
    {o outcome : Outcome PyException} (hw : s.worker = .awaiting j t start)
    (ht : s.task t = some ⟨j, .done o⟩)
    (ho : outcome = if s.workerCancel then .cancelled else o) (elapsed : ℚ)
    (unlink : UnlinkOutcome) :
    Unharmed id ({ s with workerCancel := false }.afterResume j elapsed unlink outcome) := by
  have hidle := workerAfter_idle (s.job j) outcome ((s.job j).unlinkError unlink)
  refine h.update rfl h.unmarked.symm (fun hst => ?_) (fun t' start' hw' => ?_) fun _ _ ht' => ht'
  · by_cases hj : j = id
    · subst hj
      have hoc := (h.outcome hw ht ho).2
      rw [afterClose_status, settle_status] at hst
      cases outcome with
      | cancelled => exact absurd rfl hoc
      | raised e => exact absurd hst (by simp [verdict])
      | returned =>
        simp only [verdict] at hst
        split at hst <;> exact absurd hst (by simp)
    · exact Or.inl hj
  · rcases hidle with hidle | ⟨o', hidle⟩ <;> exact absurd (hidle.symm.trans hw') (by simp)

/-- The worker hands a job over. -/
theorem Unharmed.start (h : Unharmed id s) (j : JobId) (rest : List JobId) (now : ℚ) :
    Unharmed id (s.afterStart pf.start j rest now) where
  unmarked := h.unmarked
  status hst := by
    by_cases hj : id = j
    · subst hj
      simp [afterStart] at hst
    · simp only [afterStart, Function.update_of_ne hj] at hst
      exact h.status hst
  awaited t start state hw ht := by
    simp only [afterStart, Worker.awaiting.injEq] at hw ht
    obtain ⟨rfl, rfl, rfl⟩ := hw
    rw [Function.update_self, Option.some_inj, ProcessTask.mk.injEq] at ht
    rw [← ht.2]
    exact unasked_start

/-- A step of a process task. -/
theorem Unharmed.process (h : Unharmed id s) (hC : pf.CancelledOnlyOnRequest) {j : JobId}
    {t : TaskId} {start : ℚ} {frame : pf.Frame} {cancelling : Bool}
    (hw : s.worker = .awaiting j t start)
    (ht : s.task t = some ⟨j, .suspended frame cancelling⟩) (input : pf.Input) :
    Unharmed id (afterProcess pf s t j frame cancelling input) where
  unmarked := h.unmarked
  status hst := by
    have hspec := applyEffects_spec (pf.advance frame cancelling input (s.job j)).1 (s.job j)
    by_cases hj : id = j
    · subst hj
      simp only [afterProcess, Function.update_self] at hst
      rcases hspec.status with hsame | hsame <;> rw [hsame] at hst
      · exact h.status hst
      · exact absurd hst (by simp)
    · simp only [afterProcess, Function.update_of_ne hj] at hst
      exact h.status hst
  awaited t' start' state hw' ht' := by
    have hjt := hw.symm.trans hw'
    rw [Worker.awaiting.injEq] at hjt
    obtain ⟨rfl, rfl, rfl⟩ := hjt
    simp only [afterProcess, Function.update_self, Option.some_inj, ProcessTask.mk.injEq] at ht'
    rw [← ht'.2]
    exact (h.awaited t start _ hw ht).advance hC input (s.job j)

/-- **Every step that meets the condition keeps the job unharmed.** -/
theorem Unharmed.step (h : Unharmed id s) (hc : Coherent s) (hC : pf.CancelledOnlyOnRequest)
    {a : Action pf.Input} (ha : Uncancelled id s a) (ht : Transition pf s a s') :
    Unharmed id s' := by
  cases ht with
  | refused => exact h
  | skip | stopRaised | stopped | expire =>
    exact h.frame rfl (fun hst => hst) (fun _ _ hw => hw) fun _ _ ht => ht
  | stop | disarm => exact absurd ha.1.symm Bool.false_ne_true
  | retire now unlink hw hmark =>
    exact absurd (h.unmarked.symm.trans hmark) Bool.false_ne_true
  | reserve | submit =>
    exact h.update rfl rfl (fun hst => absurd hst (by simp)) (fun _ _ hw => hw) fun _ _ ht => ht
  | attach | forget | consume =>
    exact h.update rfl rfl Or.inr (fun _ _ hw => hw) fun _ _ ht => ht
  | cancel j unlink =>
    exact h.cancel hc (fun hj => absurd ha.2 (by simp [Action.isCancelOf, hj])) unlink
  | start now unlink j rest => exact h.start j rest now
  | resume now unlink j t start o outcome hw ht ho => exact h.resume hw ht ho _ unlink
  | process t input j start frame cancelling hw ht => exact h.process hC hw ht input

theorem unharmed_of_reachable (hC : pf.CancelledOnlyOnRequest)
    (h : (system pf maxSize).ReachableWhen (Uncancelled id) s) : Unharmed id s := by
  refine h.induction (Unharmed id) ?_ fun s a s' hs ih ha hst =>
    ih.step (coherent_of_reachable hs) hC ha
      (transition_of_step (coherent_of_reachable hs).linked hst)
  rintro s rfl
  exact ⟨rfl, by simp, by simp⟩

/-- **It is over only as `COMPLETED` or `FAILED`.** -/
theorem Unharmed.completed_or_failed (h : Unharmed id s)
    (hst : (s.job id).status.isTerminal = true) :
    (s.job id).status = .completed ∨ (s.job id).status = .failed := by
  have hnot := h.status
  cases hstatus : (s.job id).status with
  | completed => exact Or.inl rfl
  | failed => exact Or.inr rfl
  | cancelled => exact absurd hstatus hnot
  | uploading | queued | processing | streaming =>
    rw [hstatus] at hst
    exact absurd hst (by decide)

/-- **What the process task raises fails the job**, as soon as the worker is resumed. -/
theorem failed_of_raised (hC : pf.CancelledOnlyOnRequest)
    (h : (system pf maxSize).ReachableWhen (Uncancelled id) s) {t : TaskId} {start : ℚ}
    {f : pf.Frame} {c : Bool} (hw : s.worker = .awaiting id t start)
    (ht : s.task t = some ⟨id, .suspended f c⟩) {input : pf.Input} {exc : PyException}
    (hend : (pf.resume f (.value input) (s.job id)).2 = .ended (.raised exc)) :
    ∃ s', (system pf maxSize).step s (.process t input) = some s' ∧
      ∀ now unlink, ∃ s'', (system pf maxSize).step s' (.worker now unlink) = some s'' ∧
        (s''.job id).status = .failed ∧ (s''.job id).errorMessage = some exc.describe := by
  have hu := unharmed_of_reachable hC h
  have hsilent := (hu.awaited t start _ hw ht).2 f c rfl
  obtain rfl : c = false := by
    cases c with
    | false => rfl
    | true => exact absurd (Or.inl rfl) hsilent
  have hadvance : (pf.advance f false input (s.job id)).2 = .done (.raised exc) := by
    simp only [Coroutine.advance, Bool.false_eq_true, if_false, hend, Coroutine.toTask]
  have hstep : (system pf maxSize).step s (.process t input) =
      some (afterProcess pf s t id f false input) := by
    simp only [system, TranscriptionQueue.step, processStep, ht]
    rfl
  have hreach := h.tail (a := .process t input) ⟨rfl, rfl⟩ hstep
  have hu' := unharmed_of_reachable hC hreach
  have hw' : (afterProcess pf s t id f false input).worker = .awaiting id t start := hw
  have ht' : (afterProcess pf s t id f false input).task t = some ⟨id, .done (.raised exc)⟩ := by
    simp only [afterProcess, Function.update_self, hadvance]
  refine ⟨_, hstep, fun now unlink => ?_⟩
  have hwake : (afterProcess pf s t id f false input).wakeOf t = some (.raised exc) := by
    simp only [wakeOf, ht', Option.bind_some, AsyncTask.seenBy, hu'.unmarked]
    rfl
  have hresume : (system pf maxSize).step (afterProcess pf s t id f false input)
      (.worker now unlink) = some ({ afterProcess pf s t id f false input with
        workerCancel := false }.workerResume id start now unlink (.raised exc)) := by
    simp only [system, TranscriptionQueue.step, workerStep, hw', hwake, Option.map_some]
  have hl := (coherent_of_reachable hreach).linked
  obtain ⟨o, outcome, ho, hseen, heq⟩ := workerStep_awaiting hl hw' hresume
  obtain ⟨rfl, -⟩ := hu'.outcome hw' ho hseen
  rw [ht', Option.some_inj, ProcessTask.mk.injEq, AsyncTask.done.injEq] at ho
  obtain ⟨-, rfl⟩ := ho
  refine ⟨_, hresume, ?_, ?_⟩ <;> rw [heq] <;>
    simp [afterResume, afterClose, verdict, verdictMessage]

end TranscriptionQueue

end VibeVoice
