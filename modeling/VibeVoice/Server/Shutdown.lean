import VibeVoice.Server.Verdict

/-!
# What `stop` can rely on

`stop` cancels the worker task and awaits it.  A worker that waits for a job, or
whose process task has just ended, is cancelled itself.  A worker that awaits a
process task passes the request on to it, and learns of it only through the
outcome of that task.

That is where a shutdown can be lost.  The `CancelledError` that comes back looks
the same whether `stop` or `cancel` asked for it, and the worker decides by
`cancel_requested`: if the job had been cancelled as well it goes on to its next
job.  The same happens when the process task, told to stop, ends with something
else than a `CancelledError`.

`StopHeeded` is the condition that neither happens.  Where it holds at every
step, the worker takes no job after `stop`, and ends at its next step
(`shutdown_not_lost`).
-/

namespace VibeVoice

namespace TranscriptionQueue

open TranscriptionJob

variable {pf : ProcessFn} {maxSize : ℕ} {s s' : TranscriptionQueue pf.Frame}

/-- If the worker awaits a process task, it is going to be resumed with a
`CancelledError`, and its job has not been cancelled. -/
def stopHeeded {F : Type} (s : TranscriptionQueue F) : Bool :=
  match s.worker with
  | .awaiting id t _ => !(s.job id).cancelRequested && s.wakeOf t == some .cancelled
  | .getting | .draining _ _ _ | .ended _ => true

/-- Once `stop` has cancelled the worker, the worker is resumed from awaiting a
process task only with a `CancelledError`, and only for a job that was not
cancelled itself. -/
def StopHeeded (s : TranscriptionQueue pf.Frame) (a : Action pf.Input) : Prop :=
  s.history.stopRequested = true → a.isWorker = true → s.stopHeeded = true

instance (s : TranscriptionQueue pf.Frame) (a : Action pf.Input) : Decidable (StopHeeded s a) :=
  inferInstanceAs (Decidable (_ → _ → _))

/-- What the condition says of the step it is about: the worker ends. -/
theorem nextWorker_of_stopHeeded {id : JobId} {t : TaskId} {start : ℚ}
    {o outcome : Outcome PyException} (hw : s.worker = .awaiting id t start)
    (ht : s.task t = some ⟨id, .done o⟩) (ho : outcome = if s.workerCancel then .cancelled else o) :
    nextWorker (s.job id) outcome = if s.stopHeeded then .ended .cancelled else .getting := by
  have hwake : s.wakeOf t = some outcome := by
    rw [wakeOf, ht, Option.bind_some, AsyncTask.seenBy, ho]
  simp only [stopHeeded, hw, hwake, nextWorker]
  cases (s.job id).cancelRequested <;> cases outcome <;> simp

/-- A worker that was told to stop and still waits for a job is going to end. -/
def Stopping (s : TranscriptionQueue pf.Frame) : Prop :=
  s.history.stopRequested = true → s.worker = .getting → s.workerCancel = true

/-- What a step after `stop` leaves as it was. -/
structure Drained (s s' : TranscriptionQueue pf.Frame) : Prop where
  stopRequested : s'.history.stopRequested = true
  handed : s'.history.handed = s.history.handed
  pending : s.pending <+: s'.pending
  worker : s'.worker = .getting → s.worker = .getting

theorem Drained.refl (h : s.history.stopRequested = true) : Drained s s :=
  ⟨h, rfl, List.prefix_rfl, id⟩

theorem Drained.trans {s'' : TranscriptionQueue pf.Frame} (h : Drained s s')
    (h' : Drained s' s'') : Drained s s'' :=
  ⟨h'.stopRequested, h'.handed.trans h.handed, h.pending.trans h'.pending,
    fun hw => h.worker (h'.worker hw)⟩

/-- Where the worker is after it was resumed, if nothing escapes its `finally`. -/
theorem ended_of_stopHeeded {id : JobId} {t : TaskId} {start : ℚ} {o outcome : Outcome PyException}
    (hw : s.worker = .awaiting id t start) (ht : s.task t = some ⟨id, .done o⟩)
    (ho : outcome = if s.workerCancel then .cancelled else o) (hheeded : s.stopHeeded = true)
    (elapsed : ℚ) (unlink : UnlinkOutcome) :
    ∃ o', ({ s with workerCancel := false }.afterResume id elapsed unlink outcome).worker =
      .ended o' := by
  have hnext := nextWorker_of_stopHeeded hw ht ho
  rw [hheeded, if_pos rfl] at hnext
  show ∃ o', workerAfter (nextWorker (s.job id) outcome) ((s.job id).unlinkError unlink) = .ended o'
  rw [hnext]
  cases (s.job id).unlinkError unlink with
  | none => exact ⟨_, rfl⟩
  | some e => exact ⟨_, rfl⟩

/-- **The worker ends at its next step**, if the step meets the condition. -/
theorem Stopping.ended_of_step (hs : Stopping s) (hstop : s.history.stopRequested = true)
    {a : Action pf.Input} (ha : a.isWorker = true) (hheeded : StopHeeded s a)
    (ht : Transition pf s a s') :
    (∃ o, s'.worker = .ended o) ∧ s'.pending = s.pending ∧
      s'.history.handed = s.history.handed := by
  cases ht with
  | retire => exact ⟨⟨_, rfl⟩, rfl, rfl⟩
  | resume now unlink id t start o outcome hw ht ho =>
    exact ⟨ended_of_stopHeeded hw ht ho (hheeded hstop rfl) _ unlink, rfl, rfl⟩
  | skip now unlink id rest hw hmark | start now unlink id rest hw hmark =>
    exact absurd (hmark.symm.trans (hs hstop hw)) Bool.false_ne_true
  | refused hcall => cases a <;> exact absurd ha (by simp_all [Action.isWorker, Action.isCall])
  | reserve | attach | submit | cancel | process | stop | disarm | stopRaised | stopped | forget
  | expire | consume => exact absurd ha Bool.false_ne_true

/-- **A step after `stop` hands over nothing and takes nothing.** -/
theorem Stopping.drained (hs : Stopping s) (hstop : s.history.stopRequested = true)
    {a : Action pf.Input} (hheeded : StopHeeded s a) (ht : Transition pf s a s') :
    Drained s s' := by
  cases ha : a.isWorker with
  | true =>
    obtain ⟨⟨o, hw⟩, hpending, hhanded⟩ := hs.ended_of_step hstop ha hheeded ht
    refine ⟨?_, hhanded, hpending ▸ List.prefix_rfl, fun h => absurd (hw.symm.trans h) (by simp)⟩
    cases ht with
    | retire | skip | start | resume => exact hstop
    | refused => exact hstop
    | reserve | attach | submit | cancel | process | stop | disarm | stopRaised | stopped | forget
    | expire | consume => exact absurd ha Bool.false_ne_true
  | false =>
    cases ht with
    | refused => exact Drained.refl hstop
    | submit => exact ⟨hstop, rfl, List.prefix_append _ _, id⟩
    | stop => exact ⟨rfl, rfl, List.prefix_rfl, id⟩
    | reserve | attach | cancel | process | disarm | stopRaised | stopped | forget | expire
    | consume => exact ⟨hstop, rfl, List.prefix_rfl, id⟩
    | retire | skip | start | resume => exact absurd ha.symm Bool.false_ne_true

/-- **Every step that meets the condition keeps the invariant.** -/
theorem Stopping.step (hs : Stopping s) {a : Action pf.Input} (hheeded : StopHeeded s a)
    (ht : Transition pf s a s') : Stopping s' := by
  intro hstop hw'
  cases ht with
  | refused | reserve | attach | submit | cancel | process | disarm | stopRaised | stopped | forget
  | expire | consume => exact hs hstop hw'
  | stop =>
    show s.stoppedMark = true
    rw [stoppedMark, show s.worker = .getting from hw']
  | retire => exact absurd hw' (by simp)
  | start now unlink id rest hw hmark => exact absurd hw' (by simp [afterStart])
  | skip now unlink id rest hw hmark => exact hs hstop hw
  | resume now unlink id t start o outcome hw ht ho =>
    obtain ⟨o', ho'⟩ := ended_of_stopHeeded hw ht ho (hheeded hstop rfl) (now - start) unlink
    exact absurd (ho'.symm.trans hw') (by simp)

theorem stopping_of_reachable (h : (system pf maxSize).ReachableWhen StopHeeded s) :
    Stopping s := by
  refine h.induction Stopping ?_ fun s a s' hs ih hheeded hst =>
    ih.step hheeded (transition_of_step (coherent_of_reachable hs).linked hst)
  rintro s rfl
  exact fun h => absurd h Bool.false_ne_true

/-- **A shutdown is not lost**, in the runs that meet the condition; and is lost
where the condition fails. -/
theorem shutdown_not_lost (h : (system pf maxSize).ReachableWhen StopHeeded s)
    (hstop : s.history.stopRequested = true) :
    (∀ s', (system pf maxSize).RunWhen StopHeeded s s' →
        s'.history.handed = s.history.handed ∧ s.pending <+: s'.pending ∧
          (s'.worker = .getting → s.worker = .getting)) ∧
      (∀ now unlink s', (system pf maxSize).step s (.worker now unlink) = some s' →
        StopHeeded s (.worker now unlink) → ∃ o, s'.worker = .ended o) ∧
      ∀ now unlink s', (system pf maxSize).step s (.worker now unlink) = some s' →
        unlink.isClean = true → ¬ StopHeeded s (.worker now unlink) →
          s'.worker = .getting ∧ s'.workerCancel = false := by
  have hl := (coherent_of_reachable h).linked
  have hs := stopping_of_reachable h
  refine ⟨fun s' hrun => ?_, fun now unlink s' hst hheeded => ?_,
    fun now unlink s' hst hclean hnot => ?_⟩
  · have hdrained : Drained s s' := by
      refine TransitionSystem.RunWhen.relates
        (fun s s' => s.history.stopRequested = true → Drained s s') (fun _ => Drained.refl)
        ?_ ?_ h hrun hstop
      · intro s t u hst htu hstop
        exact (hst hstop).trans (htu (hst hstop).stopRequested)
      · intro s a t hs hheeded hst hstop
        exact (stopping_of_reachable hs).drained hstop hheeded
          (transition_of_step (coherent_of_reachable hs).linked hst)
    exact ⟨hdrained.handed, hdrained.pending, hdrained.worker⟩
  · exact (hs.ended_of_step hstop rfl hheeded (transition_of_step hl hst)).1
  · simp only [StopHeeded, hstop, Action.isWorker, forall_const, Bool.not_eq_true] at hnot
    cases hw : s.worker with
    | getting | ended => exact absurd hnot (by simp [stopHeeded, hw])
    | draining id t start => exact absurd hw (hl.not_draining id t start)
    | awaiting id t start =>
      obtain ⟨o, outcome, ht, ho, rfl⟩ := workerStep_awaiting hl hw hst
      have hnext := nextWorker_of_stopHeeded hw ht ho
      rw [hnot, if_neg Bool.false_ne_true] at hnext
      refine ⟨?_, rfl⟩
      show workerAfter (nextWorker (s.job id) outcome) ((s.job id).unlinkError unlink) = .getting
      rw [hnext, (s.job id).unlinkError_of_isClean hclean]
      rfl

/-- **It is lost in some runs**: the running job is cancelled, `stop` is called
before its process task has unwound, and the worker goes on to the next job.  The call
of `stop` still awaits it. -/
theorem shutdown_lost :
    ∃ s, (system (processFn emptyListText .groq) 2).exec { maxSize := 2 }
        [.reserve "a" "x", .attach "a" ["vvv-upload-a", "audio.audio"] [] "audio/wav" none 1,
          .submit "a", .reserve "b" "y", .submit "b", .worker 0 .removed, .process 0 (.text ""),
          .cancel "a" .removed, .stop, .process 0 (.text ""), .process 0 (.text ""),
          .worker 1 .removed, .worker 1 .removed] = some s ∧
      s.history.stopRequested = true ∧ s.stopping = 1 ∧ s.history.handed = ["a", "b"] ∧
      s.worker = .awaiting "b" 1 1 :=
  ⟨_, rfl, rfl, rfl, rfl, rfl⟩

/-- Stopped while a job runs that nobody cancelled, the worker ends. -/
theorem shutdown_not_lost_running :
    ∃ s s', (system (processFn emptyListText .groq) 1).execWhen StopHeeded { maxSize := 1 }
        [.reserve "a" "x", .attach "a" ["vvv-upload-a", "audio.audio"] [] "audio/wav" none 1,
          .submit "a", .worker 0 .removed, .process 0 (.text ""), .stop, .process 0 (.text ""),
          .process 0 (.text "")] = some s ∧
      (system (processFn emptyListText .groq) 1).step s (.worker 1 .removed) = some s' ∧
      ∃ o, s'.worker = .ended o := by
  have hrun : (system (processFn emptyListText .groq) 1).execWhen StopHeeded { maxSize := 1 }
      [.reserve "a" "x", .attach "a" ["vvv-upload-a", "audio.audio"] [] "audio/wav" none 1,
        .submit "a", .worker 0 .removed, .process 0 (.text ""), .stop, .process 0 (.text ""),
        .process 0 (.text "")] = some _ := rfl
  exact ⟨_, _, hrun, rfl,
    (shutdown_not_lost (TransitionSystem.reachableWhen_of_execWhen _ rfl hrun) rfl).2.1
      1 .removed _ rfl fun _ _ => rfl⟩

end TranscriptionQueue

end VibeVoice
