import VibeVoice.Server.Ledger

/-!
# What the worker survives

The worker catches what its process task raises.  It does not catch what its own
`finally` block raises, and the first call of that block is `discard_audio`,
which lets every `OSError` of `os.unlink` through but `FileNotFoundError`.  Then
the worker task is over, the job it was busy with has no sentinel, and nobody
serves the jobs that `reserve` and `submit` go on accepting (`worker_lost`).

`cancel` has the same call in the same place.  If it raises for a job that
waits, the exception goes to the caller, the status is `CANCELLED` already, and
the worker, when it comes to the job, finds nothing left to do.  For a job that
runs the worker's `finally` makes up for it, and for one that uploads nobody
reads the stream.

`Undisturbed` is the condition that neither happens.  In the runs that meet it
the worker never ends, and what it dequeued is closed before it takes the next
job (`worker_survives`).
-/

namespace VibeVoice

namespace TranscriptionQueue

open TranscriptionJob

variable {pf : ProcessFn} {maxSize : ℕ} {s s' : TranscriptionQueue pf.Frame}

/-! ## The condition -/

/-- The step is a call of `stop`. -/
def Action.isStop {I : Type} : Action I → Bool
  | .stop => true
  | _ => false

/-- `os.unlink`, called by the worker's `finally` or by a `cancel` of a job that
waits, raises nothing that `discard_audio` lets through. -/
def unlinkHeeded {F I : Type} (s : TranscriptionQueue F) : Action I → Bool
  | .worker _ unlink =>
    match s.worker with
    | .awaiting id _ _ => ((s.job id).unlinkError unlink).isNone
    | .getting | .draining _ _ _ | .ended _ => true
  | .cancel id unlink =>
    (s.job id).status != .queued || ((s.job id).unlinkError unlink).isNone
  | _ => true

/-- Nobody calls `stop`, and no `OSError` escapes where it does harm. -/
def Undisturbed (s : TranscriptionQueue pf.Frame) (a : Action pf.Input) : Prop :=
  a.isStop = false ∧ s.unlinkHeeded a = true

instance (s : TranscriptionQueue pf.Frame) (a : Action pf.Input) : Decidable (Undisturbed s a) :=
  inferInstanceAs (Decidable (_ ∧ _))

/-! ## The invariant -/

/-- A process task that has not been asked to stop, and has not ended as if it
had been. -/
def Unasked (pf : ProcessFn) (state : AsyncTask pf.Frame PyException) : Prop :=
  state ≠ .done .cancelled ∧ ∀ f c, state = .suspended f c → ¬ pf.Silenced (.suspended f c)

/-- A task that has not taken its first step. -/
theorem unasked_start : Unasked pf (.suspended pf.start false) := by
  refine ⟨by simp, fun f c h => ?_⟩
  rw [AsyncTask.suspended.injEq] at h
  obtain ⟨rfl, rfl⟩ := h
  simp [Coroutine.Silenced, pf.unwinding_start]

/-- A step of a process function that is cancelled by the queue or not at all. -/
theorem Unasked.advance (hC : pf.CancelledOnlyOnRequest) {frame : pf.Frame} {cancelling : Bool}
    (h : Unasked pf (.suspended frame cancelling)) (input : pf.Input) (job : TranscriptionJob) :
    Unasked pf (pf.advance frame cancelling input job).2 := by
  obtain ⟨hended, hlive⟩ := hC.not_silenced_advance _ (h.2 frame cancelling rfl) input job
  exact ⟨hended, hlive⟩

/-- The worker lives, and what it has dequeued and is done with was notified. -/
structure Alive (s : TranscriptionQueue pf.Frame) : Prop where
  unmarked : s.workerCancel = false
  running : ∀ o, s.worker ≠ .ended o
  /-- The process task of a job that was not cancelled was not, either. -/
  awaited : ∀ id t start state, s.worker = .awaiting id t start → s.task t = some ⟨id, state⟩ →
    (s.job id).cancelRequested = false → Unasked pf state
  settled : ∀ id ∈ s.history.submitted, (s.job id).status.isTerminal = true →
    (∀ t start, s.worker ≠ .awaiting id t start) → (s.job id).terminalNotified = true

/-- A step that moves neither the worker nor the tasks, and ends no job. -/
theorem Alive.frame (ha : Alive s) (hmark : s'.workerCancel = s.workerCancel)
    (hworker : s'.worker = s.worker) (htask : s'.task = s.task)
    (hsubmitted : ∀ id ∈ s'.history.submitted,
      id ∈ s.history.submitted ∨ (s'.job id).status.isTerminal = false)
    (hjob : ∀ id, (s'.job id).cancelRequested = (s.job id).cancelRequested ∧
      (s'.job id).terminalNotified = (s.job id).terminalNotified ∧
      ((s'.job id).status.isTerminal = true → (s.job id).status.isTerminal = true)) :
    Alive s' where
  unmarked := hmark.trans ha.unmarked
  running := hworker ▸ ha.running
  awaited := by
    intro id t start state hw ht hreq
    rw [hworker] at hw
    rw [htask] at ht
    exact ha.awaited id t start state hw ht ((hjob id).1 ▸ hreq)
  settled := by
    intro id hid hst hnot
    rcases hsubmitted id hid with hid | hlive
    · rw [(hjob id).2.1]
      rw [hworker] at hnot
      exact ha.settled id hid ((hjob id).2.2 hst) hnot
    · exact absurd (hlive.symm.trans hst) Bool.false_ne_true

/-- A step that writes one record, and ends no job. -/
theorem Alive.update (ha : Alive s) {id : JobId} {job : TranscriptionJob}
    (hjob : s'.job = Function.update s.job id job) (hmark : s'.workerCancel = s.workerCancel)
    (hworker : s'.worker = s.worker) (htask : s'.task = s.task)
    (hsubmitted : ∀ j ∈ s'.history.submitted,
      j ∈ s.history.submitted ∨ j = id ∧ job.status.isTerminal = false)
    (hrequested : job.cancelRequested = (s.job id).cancelRequested)
    (hnotified : job.terminalNotified = (s.job id).terminalNotified)
    (hstatus : job.status.isTerminal = true → (s.job id).status.isTerminal = true) :
    Alive s' := by
  refine ha.frame hmark hworker htask (fun j hj => ?_) fun j => ?_
  · refine (hsubmitted j hj).imp_right ?_
    rintro ⟨rfl, hlive⟩
    rw [hjob, Function.update_self, hlive]
  · rw [hjob]
    by_cases hji : j = id
    · rw [hji, Function.update_self]
      exact ⟨hrequested, hnotified, hstatus⟩
    · rw [Function.update_of_ne hji]
      exact ⟨rfl, rfl, fun h => h⟩

/-- `cancel` keeps the worker alive: the job it cancels is notified at once, or
is one the worker is busy with, or has not been submitted. -/
theorem Alive.cancel (ha : Alive s) (hc : Coherent s) {id : JobId} {unlink : UnlinkOutcome}
    (hst : (s.job id).status.isTerminal = false)
    (hheeded : (s.job id).status = .queued → (s.job id).unlinkError unlink = none) :
    Alive (s.afterCancel id unlink) where
  unmarked := ha.unmarked
  running := ha.running
  awaited := by
    intro j t start state hw ht hreq
    have hji : j ≠ id := by
      rintro rfl
      simp [afterCancel, afterClose] at hreq
    have hother : (s.job id).processTask ≠ some t := by
      intro hid
      obtain ⟨start', hw'⟩ := hc.linked.processTask_awaited id t hid
      rw [show s.worker = .awaiting j t start from hw, Worker.awaiting.injEq] at hw'
      exact hji hw'.1
    have ht' : s.task t = some ⟨j, state⟩ := (s.cancelledTasks_of_ne hother).symm.trans ht
    refine ha.awaited j t start state hw ht' ?_
    simpa [afterCancel, afterClose, Function.update_of_ne hji] using hreq
  settled := by
    intro j hj hterm hnot
    by_cases hji : j = id
    · subst hji
      have herr := hheeded (hc.queued_of_submitted hj hst hnot)
      simp only [afterCancel, afterClose, Function.update_self]
      exact terminalNotified_afterClose _ herr
    · simp only [afterCancel, afterClose, Function.update_of_ne hji] at hterm ⊢
      exact ha.settled j hj hterm hnot

/-- Where the worker goes next: back to `_pending`. -/
theorem Alive.nextWorker_eq (ha : Alive s) {id : JobId} {t : TaskId} {start : ℚ}
    {o outcome : Outcome PyException} (hw : s.worker = .awaiting id t start)
    (ht : s.task t = some ⟨id, .done o⟩)
    (ho : outcome = if s.workerCancel then .cancelled else o) :
    nextWorker (s.job id) outcome = .getting := by
  rw [ha.unmarked, if_neg Bool.false_ne_true] at ho
  subst ho
  rw [nextWorker, if_neg]
  rintro ⟨rfl, hreq⟩
  exact (ha.awaited id t start _ hw ht hreq).1 rfl

/-- **The worker, resumed**, closes its job and goes back to `_pending`. -/
theorem Alive.resume (ha : Alive s) {id : JobId} {t : TaskId} {start : ℚ}
    {o outcome : Outcome PyException} (hw : s.worker = .awaiting id t start)
    (ht : s.task t = some ⟨id, .done o⟩)
    (ho : outcome = if s.workerCancel then .cancelled else o) (elapsed : ℚ)
    {unlink : UnlinkOutcome} (herr : (s.job id).unlinkError unlink = none) :
    Alive ({ s with workerCancel := false }.afterResume id elapsed unlink outcome) ∧
      ({ s with workerCancel := false }.afterResume id elapsed unlink outcome).worker = .getting ∧
      (({ s with workerCancel := false }.afterResume id elapsed unlink outcome).job
        id).terminalNotified = true := by
  have hworker : ({ s with workerCancel := false }.afterResume id elapsed unlink outcome).worker =
      .getting := by
    show workerAfter (nextWorker (s.job id) outcome) ((s.job id).unlinkError unlink) = .getting
    rw [ha.nextWorker_eq hw ht ho, herr]
    rfl
  have hself : (({ s with workerCancel := false }.afterResume id elapsed unlink outcome).job
      id).terminalNotified = true := by
    simp only [afterResume, afterClose, Function.update_self]
    exact terminalNotified_afterClose _ herr
  refine ⟨⟨rfl, fun o' h => ?_, fun j t' start' state h => ?_, fun j hj hterm _ => ?_⟩, hworker,
    hself⟩
  · exact absurd (hworker.symm.trans h) (by simp)
  · exact absurd (hworker.symm.trans h) (by simp)
  · by_cases hji : j = id
    · rw [hji]
      exact hself
    · simp only [afterResume, afterClose, Function.update_of_ne hji] at hterm ⊢
      refine ha.settled j hj hterm fun t' start' hw' => hji ?_
      rw [hw, Worker.awaiting.injEq] at hw'
      exact hw'.1.symm

/-- The worker hands a job over. -/
theorem Alive.start (ha : Alive s) (hw : s.worker = .getting) (id : JobId) (rest : List JobId)
    (now : ℚ) : Alive (s.afterStart pf.start id rest now) where
  unmarked := ha.unmarked
  running := by simp [afterStart]
  awaited := by
    intro j t start state hw' ht _
    simp only [afterStart, Worker.awaiting.injEq] at hw' ht
    obtain ⟨rfl, rfl, rfl⟩ := hw'
    rw [Function.update_self, Option.some_inj, ProcessTask.mk.injEq] at ht
    rw [← ht.2]
    exact unasked_start
  settled := by
    intro j hj hterm hnot
    have hji : j ≠ id := by
      rintro rfl
      exact hnot s.nextTask now rfl
    simp only [afterStart, Function.update_of_ne hji] at hterm ⊢
    refine ha.settled j hj hterm fun t start hw' => ?_
    rw [hw] at hw'
    exact absurd hw' (by simp)

/-- A step of the process task. -/
theorem Alive.process (ha : Alive s) (hC : pf.CancelledOnlyOnRequest)
    {id : JobId} {t : TaskId} {start : ℚ} {frame : pf.Frame} {cancelling : Bool}
    (hw : s.worker = .awaiting id t start)
    (ht : s.task t = some ⟨id, .suspended frame cancelling⟩) (input : pf.Input) :
    Alive (afterProcess pf s t id frame cancelling input) where
  unmarked := ha.unmarked
  running := ha.running
  awaited := by
    intro j t' start' state hw' ht' hreq
    have hjt := hw.symm.trans hw'
    rw [Worker.awaiting.injEq] at hjt
    obtain ⟨rfl, rfl, rfl⟩ := hjt
    have hspec := applyEffects_spec (pf.advance frame cancelling input (s.job id)).1 (s.job id)
    simp only [afterProcess, Function.update_self, Option.some_inj, ProcessTask.mk.injEq,
      hspec.cancelRequested] at ht' hreq
    rw [← ht'.2]
    exact (ha.awaited id t start _ hw ht hreq).advance hC input (s.job id)
  settled := by
    intro j hj hterm hnot
    have hji : j ≠ id := by
      rintro rfl
      exact hnot t start hw
    simp only [afterProcess, Function.update_of_ne hji] at hterm ⊢
    exact ha.settled j hj hterm hnot

/-- **Every step that meets the condition keeps the worker alive.** -/
theorem Alive.step (ha : Alive s) (hc : Coherent s) (hC : pf.CancelledOnlyOnRequest)
    {a : Action pf.Input} (hquiet : Undisturbed s a) (ht : Transition pf s a s') : Alive s' := by
  have same (s' : TranscriptionQueue pf.Frame) (hjob : s'.job = s.job)
      (hmark : s'.workerCancel = s.workerCancel) (hworker : s'.worker = s.worker)
      (htask : s'.task = s.task) (hsubmitted : s'.history.submitted = s.history.submitted) :
      Alive s' :=
    ha.frame hmark hworker htask (fun j hj => Or.inl (hsubmitted ▸ hj)) fun j => by
      rw [hjob]
      exact ⟨rfl, rfl, fun h => h⟩
  cases ht with
  | refused => exact ha
  | skip | expire => exact same _ rfl rfl rfl rfl rfl
  | reserve =>
    exact ha.update rfl rfl rfl rfl (fun _ hj => Or.inl hj) rfl rfl fun h =>
      absurd h Bool.false_ne_true
  | attach | forget | consume =>
    exact ha.update rfl rfl rfl rfl (fun _ hj => Or.inl hj) rfl rfl fun h => h
  | submit id hid hst =>
    refine ha.update rfl rfl rfl rfl (fun j hj => ?_) rfl rfl fun h => absurd h Bool.false_ne_true
    refine (List.mem_append.mp hj).imp_right fun hj => ?_
    exact ⟨List.mem_singleton.mp hj, rfl⟩
  | cancel id unlink hid hst =>
    refine ha.cancel hc hst fun hqueued => ?_
    have h := hquiet.2
    simpa [unlinkHeeded, hqueued] using h
  | start now unlink id rest hw => exact ha.start hw id rest now
  | resume now unlink id t start o outcome hw ht ho =>
    have h := hquiet.2
    simp only [unlinkHeeded, hw, Option.isNone_iff_eq_none] at h
    exact (ha.resume hw ht ho _ h).1
  | process t input id start frame cancelling hw ht => exact ha.process hC hw ht input
  | retire now unlink hw hmark =>
    exact absurd (ha.unmarked.symm.trans hmark) Bool.false_ne_true
  | stop | disarm => exact absurd hquiet.1.symm Bool.false_ne_true
  | stopRaised n e hn hw => exact absurd hw (ha.running _)
  | stopped n o hn hw => exact absurd hw (ha.running _)

theorem alive_of_reachable (hC : pf.CancelledOnlyOnRequest)
    (h : (system pf maxSize).ReachableWhen Undisturbed s) : Alive s := by
  refine h.induction Alive ?_ fun s a s' hs ha hquiet hst =>
    ha.step (coherent_of_reachable hs) hC hquiet
      (transition_of_step (coherent_of_reachable hs).linked hst)
  rintro s rfl
  exact ⟨rfl, by simp, by simp, by simp⟩

/-! ## Where the condition fails -/

/-- A job that is over, was not notified, and is not the worker's. -/
structure Abandoned (id : JobId) (s : TranscriptionQueue pf.Frame) : Prop where
  reserved : id ∈ s.history.reserved
  cancelled : (s.job id).status = .cancelled
  unnotified : (s.job id).terminalNotified = false
  idle : ∀ t start, s.worker ≠ .awaiting id t start

/-- A step that does nothing for the job. -/
theorem Abandoned.frame {id : JobId} (h : Abandoned id s)
    (hreserved : s.history.reserved ⊆ s'.history.reserved)
    (hstatus : (s'.job id).status = (s.job id).status)
    (hnotified : (s'.job id).terminalNotified = (s.job id).terminalNotified)
    (hworker : ∀ t start, s'.worker = .awaiting id t start → s.worker = .awaiting id t start) :
    Abandoned id s' :=
  ⟨hreserved h.reserved, hstatus.trans h.cancelled, hnotified.trans h.unnotified,
    fun t start hw => h.idle t start (hworker t start hw)⟩

/-- A step that writes one record, and does nothing for the job. -/
theorem Abandoned.update {id j : JobId} {job : TranscriptionJob} (h : Abandoned id s)
    (hjob : s'.job = Function.update s.job j job)
    (hreserved : s.history.reserved ⊆ s'.history.reserved)
    (hworker : ∀ t start, s'.worker = .awaiting id t start → s.worker = .awaiting id t start)
    (hkeep : j = id → job.status = (s.job j).status ∧
      job.terminalNotified = (s.job j).terminalNotified) : Abandoned id s' := by
  by_cases hj : j = id
  · have hself : s'.job id = job := by rw [hjob, hj, Function.update_self]
    subst hj
    exact h.frame hreserved (by rw [hself, (hkeep rfl).1]) (by rw [hself, (hkeep rfl).2]) hworker
  · have hother : s'.job id = s.job id := by rw [hjob, Function.update_of_ne (Ne.symm hj)]
    exact h.frame hreserved (by rw [hother]) (by rw [hother]) hworker

/-- **Nobody makes up for it**: `cancel` finds the job over, and so does the worker
when it comes to it. -/
theorem Abandoned.step {id : JobId} (h : Abandoned id s) {a : Action pf.Input}
    (ht : Transition pf s a s') : Abandoned id s' := by
  have hlive {j : JobId} (hst : (s.job j).status ≠ .cancelled) : j ≠ id := by
    rintro rfl
    exact hst h.cancelled
  have hbusy {j : JobId} {t : TaskId} {start : ℚ} (hw : s.worker = .awaiting j t start) :
      j ≠ id := by
    rintro rfl
    exact h.idle t start hw
  cases ht with
  | refused => exact h
  | skip | stop | disarm | stopRaised | stopped | expire =>
    exact h.frame (List.Subset.refl _) rfl rfl fun _ _ hw => hw
  | retire => exact h.frame (List.Subset.refl _) rfl rfl fun _ _ hw => absurd hw (by simp)
  | reserve j who hid =>
    refine h.update rfl (List.subset_append_left _ _) (fun _ _ hw => hw) ?_
    rintro rfl
    exact absurd h.reserved hid
  | attach j path content mime hotwords duration hid hst | submit j hid hst =>
    exact h.update rfl (List.Subset.refl _) (fun _ _ hw => hw) fun hj =>
      absurd hj (hlive (by rw [hst]; decide))
  | cancel j unlink hid hst =>
    refine h.update rfl (List.Subset.refl _) (fun _ _ hw => hw) ?_
    rintro rfl
    rw [h.cancelled] at hst
    exact absurd hst (by decide)
  | start now unlink j rest hw hmark hq hid hst =>
    have hj := hlive hst
    refine h.update rfl (List.Subset.refl _) (fun t start hw' => ?_) fun hj' => absurd hj' hj
    simp only [afterStart, Worker.awaiting.injEq] at hw'
    exact absurd hw'.1 hj
  | resume now unlink j t start o outcome hw ht ho =>
    have hidle := workerAfter_idle (s.job j) outcome ((s.job j).unlinkError unlink)
    refine h.update rfl (List.Subset.refl _) (fun t' start' hw' => ?_) fun hj =>
      absurd hj (hbusy hw)
    rcases hidle with hidle | ⟨o', hidle⟩ <;> exact absurd (hidle.symm.trans hw') (by simp)
  | process t input j start frame cancelling hw ht =>
    exact h.update rfl (List.Subset.refl _) (fun _ _ hw => hw) fun hj => absurd hj (hbusy hw)
  | forget | consume =>
    exact h.update rfl (List.Subset.refl _) (fun _ _ hw => hw) fun _ => ⟨rfl, rfl⟩

/-- **The reader of an abandoned job waits for ever.** -/
theorem Abandoned.no_sentinel {P : TranscriptionQueue pf.Frame → Action pf.Input → Prop}
    {id : JobId} (h : Abandoned id s) (hs : (system pf maxSize).ReachableWhen P s)
    (hrun : (system pf maxSize).RunWhen TransitionSystem.Always s s') :
    none ∉ (s'.job id).puts := by
  have hend : Abandoned id s' :=
    hrun.stable (Abandoned id) (fun s a s' hs h _ hst =>
      h.step (transition_of_step (coherent_of_reachable hs).linked hst)) hs.reachable h
  have hledger := (books_of_reachable (hs.reachable.run hrun)).entry id
  rw [hledger.none_mem_puts_iff, hend.unnotified]
  exact Bool.false_ne_true

/-- A `cancel` that raised, of a job that waits. -/
theorem abandoned_afterCancel (hc : Coherent s) (hb : Books s) {id : JobId}
    {unlink : UnlinkOutcome} (hst : (s.job id).status = .queued)
    (herr : (s.job id).unlinkError unlink ≠ none) : Abandoned id (s.afterCancel id unlink) := by
  have hpending : id ∈ (lifecycle pf s).pending := hc.sound.queued_pending id hst
  have hsubmitted := hc.sound.pending_submitted id hpending
  refine ⟨hc.sound.submitted_reserved id hsubmitted, ?_, ?_, fun t start hw => ?_⟩
  · simp [afterCancel, afterClose]
  · obtain ⟨e, he⟩ := Option.ne_none_iff_exists'.mp herr
    have he' : (s.job id).cancelled.unlinkError unlink = some e := he
    simp only [afterCancel, afterClose, Function.update_self, TranscriptionJob.afterClose, he']
    exact (hb.entry id).not_notified (by rw [hst]; rfl)
  · have hrun := (hc.awaited hw).2
    rw [hst] at hrun
    exact absurd hrun (by decide)

/-! ## Runs -/

/-- **The worker survives every job**, in the runs in which nobody calls `stop` and
no `OSError` escapes from its `finally`, or from a `cancel` of a job that waits.
It never ends; what it has dequeued and is done with has its sentinel and its
cleanup timer; it is resumed as soon as the process task is done, and goes back
to `_pending`, where it takes what is next.  A step that does not meet the
condition ends the worker, or leaves a job that waits without a sentinel for
ever. -/
theorem worker_survives (hC : pf.CancelledOnlyOnRequest)
    (h : (system pf maxSize).ReachableWhen Undisturbed s) :
    (∀ o, s.worker ≠ .ended o) ∧
      (∀ id ∈ s.history.submitted, id ∉ s.pending → (∀ t start, s.worker ≠ .awaiting id t start) →
        (s.job id).status.isTerminal = true ∧ (s.job id).puts.count none = 1 ∧
          s.history.scheduled.count id = 1) ∧
      (∀ id t start o now unlink, s.worker = .awaiting id t start →
        s.task t = some ⟨id, .done o⟩ → (s.job id).unlinkError unlink = none →
          ∃ s', (system pf maxSize).step s (.worker now unlink) = some s' ∧
            s'.worker = .getting ∧ (s'.job id).puts.count none = 1 ∧
            s'.history.scheduled.count id = 1) ∧
      (∀ id rest now unlink, s.worker = .getting → s.pending = id :: rest →
        ∃ s', (system pf maxSize).step s (.worker now unlink) = some s' ∧ s'.pending = rest ∧
          (s'.worker = .getting ∨ ∃ t, s'.worker = .awaiting id t now)) ∧
      ∀ a s', (system pf maxSize).step s a = some s' → s.unlinkHeeded a = false →
        (∃ e, s'.worker = .ended (.raised e)) ∨
          ∃ id ∈ s'.pending, ∀ s'', (system pf maxSize).Run s' s'' →
            none ∉ (s''.job id).puts := by
  have ha := alive_of_reachable hC h
  have hc := coherent_of_reachable h
  have hb := books_of_reachable h
  refine ⟨ha.running, fun id hid hpending hnot => ?_,
    fun id t start o now unlink hw ht herr => ?_, fun id rest now unlink hw hq => ?_,
    fun a s' hst hnot => ?_⟩
  · have hterm : (s.job id).status.isTerminal = true := by
      by_contra hlive
      have hqueued := hc.queued_of_submitted hid (by simpa using hlive) hnot
      exact hpending (hc.sound.queued_pending id hqueued)
    have hn := ha.settled id hid hterm hnot
    have hledger := hb.entry id
    exact ⟨hterm, by rw [hledger.count_none, if_pos hn], by rw [hledger.scheduled, if_pos hn]⟩
  · have hstep : (system pf maxSize).step s (.worker now unlink) =
        some ({ s with workerCancel := false }.workerResume id start now unlink
          (if s.workerCancel then .cancelled else o)) := by
      simp only [system, step, workerStep, hw, wakeOf, ht, Option.bind_some, AsyncTask.seenBy,
        Option.map_some]
    obtain ⟨o', outcome, ht', ho, hend⟩ := workerStep_awaiting hc.linked hw hstep
    obtain ⟨-, hworker, hn⟩ := ha.resume hw ht' ho (now - start) herr
    have hledger := (books_of_reachable (h.reachable.tail trivial hstep)).entry id
    rw [hend] at hledger hstep
    exact ⟨_, hstep, hworker, by rw [hledger.count_none, if_pos hn],
      by rw [hledger.scheduled, if_pos hn]⟩
  · have hstep : (system pf maxSize).step s (.worker now unlink) =
        some ({ s with pending := rest }.workerTake pf.start id now) := by
      simp only [system, step, workerStep, hw, ha.unmarked, hq, Bool.false_eq_true, if_false]
    refine ⟨_, hstep, ?_⟩
    unfold workerTake
    split
    · exact ⟨rfl, Or.inl hw⟩
    · exact ⟨rfl, Or.inr ⟨_, rfl⟩⟩
  · cases a with
    | worker now unlink =>
      cases hw : s.worker with
      | getting | ended => exact absurd hnot (by simp [unlinkHeeded, hw])
      | draining id t start => exact absurd hw (hc.linked.not_draining id t start)
      | awaiting id t start =>
        obtain ⟨o, outcome, ht, ho, rfl⟩ := workerStep_awaiting hc.linked hw hst
        simp only [unlinkHeeded, hw, Option.isNone_eq_false_iff, Option.isSome_iff_exists] at hnot
        obtain ⟨e, he⟩ := hnot
        refine Or.inl ⟨e, ?_⟩
        show workerAfter (nextWorker (s.job id) outcome) ((s.job id).unlinkError unlink) = _
        rw [he]
        rfl
    | cancel id unlink =>
      simp only [unlinkHeeded, Bool.or_eq_false_iff, bne_eq_false_iff_eq,
        Option.isNone_eq_false_iff, Option.isSome_iff_ne_none] at hnot
      obtain ⟨hqueued, herr⟩ := hnot
      have hpending : id ∈ s.pending := hc.sound.queued_pending id hqueued
      have hjobs := hc.tracked_of_queued hqueued
      have hreach := h.reachable.tail trivial hst
      have heq := cancel_eq unlink hjobs (by rw [hqueued]; rfl)
      have hs' : s' = s.afterCancel id unlink := by
        rw [← Option.some_inj.mp hst, heq]
      subst hs'
      exact Or.inr ⟨id, hpending, fun s'' hrun =>
        (abandoned_afterCancel hc hb hqueued herr).no_sentinel hreach hrun⟩
    | reserve | attach | submit | process | stop | stopResume | cleanup | consume =>
      exact absurd hnot (by simp [unlinkHeeded])

/-- **The worker is lost in some runs**: `os.unlink` raises in its `finally`.  The
job it was busy with has no sentinel, and the one submitted afterwards is never
started. -/
theorem worker_lost :
    ∃ s, (system (processFn emptyListText .groq) 2).exec { maxSize := 2 }
        [.reserve "a" "x", .attach "a" ["vvv-upload-a", "audio.audio"] [] "audio/wav" none 1,
          .submit "a", .worker 0 .removed, .process 0 (.text ""), .process 0 (.text ""),
          .worker 1 (.osError ⟨"PermissionError", "[Errno 13] Permission denied"⟩),
          .reserve "b" "y", .submit "b"] = some s ∧
      s.worker = .ended (.raised ⟨"PermissionError", "[Errno 13] Permission denied"⟩) ∧
      (s.job "a").status = .completed ∧ (s.job "a").puts = [] ∧ s.history.scheduled = [] ∧
      (s.job "b").status = .queued ∧ s.history.submitted = ["a", "b"] ∧
      ∀ now unlink, (system (processFn emptyListText .groq) 2).step s (.worker now unlink) = none :=
  ⟨_, rfl, rfl, rfl, rfl, rfl, rfl, rfl, fun _ _ => rfl⟩

/-- A job that failed, and the worker after it. -/
theorem worker_survives_failure :
    ∃ s, (system (processFn emptyListText .groq) 1).execWhen Undisturbed { maxSize := 1 }
        [.reserve "a" "x", .attach "a" ["vvv-upload-a", "audio.audio"] [] "audio/wav" none 1,
          .submit "a", .worker 0 .removed, .process 0 (.text ""),
          .process 0 (.raised ⟨"RuntimeError", "no answer"⟩), .worker 1 .fileNotFound] = some s ∧
      (s.job "a").status = .failed ∧ (s.job "a").puts.count none = 1 ∧
      s.history.scheduled.count "a" = 1 := by
  have hrun : (system (processFn emptyListText .groq) 1).execWhen Undisturbed { maxSize := 1 }
      [.reserve "a" "x", .attach "a" ["vvv-upload-a", "audio.audio"] [] "audio/wav" none 1,
        .submit "a", .worker 0 .removed, .process 0 (.text ""),
        .process 0 (.raised ⟨"RuntimeError", "no answer"⟩), .worker 1 .fileNotFound] =
      some _ := rfl
  have hend := (worker_survives (processFn_cancelledOnlyOnRequest emptyListText .groq)
    (TransitionSystem.reachableWhen_of_execWhen _ rfl hrun)).2.1 "a" (by decide) (by decide)
    fun t start hw => absurd (show Worker.getting = .awaiting "a" t start from hw) (by simp)
  exact ⟨_, hrun, rfl, hend.2⟩

end TranscriptionQueue

end VibeVoice
