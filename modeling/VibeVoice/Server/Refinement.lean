import VibeVoice.Server.Lifecycle
import VibeVoice.Server.QueueSpec

/-!
# The queue refines the life of its jobs

`lifecycle` forgets the worker, the tasks and the contents of the jobs, and
keeps the statuses, the lists and the history.  Every step of the queue is then
a few moves of the abstract state, or the admission of a fresh job
(`step_refines`), and what the abstract invariant says holds of every reachable
state of the queue (`coherent_of_reachable`).

Two facts about the concrete state carry the refinement, and `Linked` is what
they come to.  A process task that is not done is the one the worker awaits; so
when the worker has been resumed there is nobody left who could write.  And the
worker awaits task `t` of a job exactly as long as `process_task` of that job is
`t`; so `cancel` reaches the task the worker awaits, and only it.

The step of a process task is the one that takes more than one move: it may set
`STREAMING` and end, in one go.  While the task may act its job is running, so
that is a move; once it has been asked to stop its effects are quiet, and the
status is not written at all.
-/

namespace VibeVoice

namespace TranscriptionQueue

open TranscriptionJob

/-! ## The links between the worker, the tasks and the jobs -/

/-- How the worker, the process tasks and the jobs point at each other. -/
structure Linked {F : Type} (s : TranscriptionQueue F) : Prop where
  /-- The worker never waits in its shutdown handler: when it gets there, the
  process task is done. -/
  not_draining : ∀ id t start, s.worker ≠ .draining id t start
  /-- The task the worker awaits is one of the job it is busy with. -/
  awaited_task : ∀ id t start, s.worker = .awaiting id t start →
    ∃ state, s.task t = some ⟨id, state⟩
  awaited_processTask : ∀ id t start, s.worker = .awaiting id t start →
    (s.job id).processTask = some t
  processTask_awaited : ∀ id t, (s.job id).processTask = some t →
    ∃ start, s.worker = .awaiting id t start
  /-- A task that is not done is the one the worker awaits. -/
  undone_awaited : ∀ t p, s.task t = some p → p.state.isDone = false →
    ∃ start, s.worker = .awaiting p.job t start
  /-- Tasks are numbered in the order of creation. -/
  fresh : ∀ t, s.nextTask ≤ t → s.task t = none

variable {F : Type} {s s' : TranscriptionQueue F}

/-- A step that moves neither the worker nor the tasks keeps the links. -/
theorem Linked.frame (h : Linked s) (hworker : s'.worker = s.worker) (htask : s'.task = s.task)
    (hnext : s'.nextTask = s.nextTask)
    (hprocess : ∀ id, (s'.job id).processTask = (s.job id).processTask) : Linked s' where
  not_draining := by
    rw [hworker]
    exact h.not_draining
  awaited_task := by
    rw [hworker, htask]
    exact h.awaited_task
  awaited_processTask := by
    intro id t start hw
    rw [hprocess]
    exact h.awaited_processTask id t start (hworker ▸ hw)
  processTask_awaited := by
    intro id t ht
    rw [hworker]
    exact h.processTask_awaited id t (hprocess id ▸ ht)
  undone_awaited := by
    rw [hworker, htask]
    exact h.undone_awaited
  fresh := by
    rw [hnext, htask]
    exact h.fresh

/-- A worker that waits for a job may end. -/
theorem Linked.retire (h : Linked s) (hw : s.worker = .getting) {o : Outcome PyException}
    (hworker : s'.worker = .ended o) (htask : s'.task = s.task)
    (hnext : s'.nextTask = s.nextTask)
    (hprocess : ∀ id, (s'.job id).processTask = (s.job id).processTask) : Linked s' where
  not_draining := by simp [hworker]
  awaited_task := by simp [hworker]
  awaited_processTask := by simp [hworker]
  processTask_awaited := by
    intro id t ht
    obtain ⟨start, hw'⟩ := h.processTask_awaited id t (hprocess id ▸ ht)
    exact absurd (hw.symm.trans hw') (by simp)
  undone_awaited := by
    intro t p hp hundone
    obtain ⟨start, hw'⟩ := h.undone_awaited t p (htask ▸ hp) hundone
    exact absurd (hw.symm.trans hw') (by simp)
  fresh := by
    rw [hnext, htask]
    exact h.fresh

/-- A step of one task keeps the links, unless it makes a task that was done run
again. -/
theorem Linked.updateTask (h : Linked s) {t : TaskId} {id : JobId}
    {state state' : AsyncTask F PyException} (ht : s.task t = some ⟨id, state⟩)
    (hdone : state'.isDone = false → state.isDone = false) (hworker : s'.worker = s.worker)
    (htask : s'.task = Function.update s.task t (some ⟨id, state'⟩))
    (hnext : s'.nextTask = s.nextTask)
    (hprocess : ∀ id, (s'.job id).processTask = (s.job id).processTask) : Linked s' where
  not_draining := by
    rw [hworker]
    exact h.not_draining
  awaited_task := by
    intro id' t' start hw
    obtain ⟨state₀, h₀⟩ := h.awaited_task id' t' start (hworker ▸ hw)
    rw [htask]
    by_cases htt : t' = t
    · subst htt
      rw [ht, Option.some_inj, ProcessTask.mk.injEq] at h₀
      exact ⟨state', by rw [Function.update_self, h₀.1]⟩
    · exact ⟨state₀, by rw [Function.update_of_ne htt, h₀]⟩
  awaited_processTask := by
    intro id t start hw
    rw [hprocess]
    exact h.awaited_processTask id t start (hworker ▸ hw)
  processTask_awaited := by
    intro id t ht
    rw [hworker]
    exact h.processTask_awaited id t (hprocess id ▸ ht)
  undone_awaited := by
    intro t' p hp hundone
    rw [hworker]
    rw [htask] at hp
    by_cases htt : t' = t
    · subst htt
      rw [Function.update_self, Option.some_inj] at hp
      subst hp
      exact h.undone_awaited t' ⟨id, state⟩ ht (hdone hundone)
    · rw [Function.update_of_ne htt] at hp
      exact h.undone_awaited t' p hp hundone
  fresh := by
    intro t' hle
    rw [hnext] at hle
    have hne : t' ≠ t := by
      rintro rfl
      rw [h.fresh t' hle] at ht
      exact absurd ht (by simp)
    rw [htask, Function.update_of_ne hne]
    exact h.fresh t' hle

/-- When the worker waits for no task, no task is left. -/
theorem Linked.isDone_of_idle (h : Linked s) (hw : ∀ id t start, s.worker ≠ .awaiting id t start)
    {t : TaskId} {p : ProcessTask F} (ht : s.task t = some p) : p.state.isDone = true := by
  cases hd : p.state.isDone with
  | true => rfl
  | false =>
    obtain ⟨start, hw'⟩ := h.undone_awaited t p ht hd
    exact absurd hw' (hw _ _ _)

/-- What `linked` says of a worker that is resumed: the job it is busy with, the
outcome of its task, and the cancellation that hides it, if there is one. -/
theorem Linked.of_wake (h : Linked s) {id : JobId} {t : TaskId} {start : ℚ}
    {outcome : Outcome PyException} (hw : s.worker = .awaiting id t start)
    (hwake : s.wakeOf t = some outcome) :
    ∃ o, s.task t = some ⟨id, .done o⟩ ∧ outcome = if s.workerCancel then .cancelled else o := by
  obtain ⟨state, ht⟩ := h.awaited_task id t start hw
  rw [wakeOf, ht, Option.bind_some, AsyncTask.seenBy_eq_some_iff] at hwake
  obtain ⟨o, hstate, ho⟩ := hwake
  exact ⟨o, by rw [ht, show state = .done o from hstate], ho⟩

/-- The links before anything happened. -/
theorem linked_initial (maxSize : ℕ) : Linked ({ maxSize := maxSize } : TranscriptionQueue F) where
  not_draining := by simp
  awaited_task := by simp
  awaited_processTask := by simp
  processTask_awaited := by simp
  undone_awaited := by simp
  fresh := by simp

/-! ## The abstract state -/

variable (pf : ProcessFn)

/-- How far a process task is. -/
def phaseOf : AsyncTask pf.Frame PyException → Phase
  | .suspended frame cancelling =>
    if cancelling = true ∨ pf.unwinding frame = true then .silenced else .live
  | .done _ => .landed

/-- A task may act exactly as long as it has not been asked to stop. -/
theorem phaseOf_eq_live_iff {state : AsyncTask pf.Frame PyException} :
    phaseOf pf state = .live ↔ ¬ pf.Silenced state := by
  cases state with
  | suspended frame cancelling =>
    simp only [phaseOf, Coroutine.Silenced]
    split <;> simp_all
  | done o => simp [phaseOf]

/-- `cancel` takes a task that may act to one that may not, and leaves the others
where they are. -/
theorem phaseOf_cancel (state : AsyncTask pf.Frame PyException) :
    phaseOf pf state.cancel = if phaseOf pf state = .live then .silenced else phaseOf pf state := by
  cases state with
  | suspended frame cancelling =>
    have hsil := pf.silenced_cancel (.suspended frame cancelling)
    simp only [AsyncTask.cancel, Coroutine.Silenced] at hsil
    simp only [AsyncTask.cancel, phaseOf, if_pos hsil]
    split <;> rfl
  | done o => simp [AsyncTask.cancel, phaseOf]

/-- No step of a task gives it back the right to act. -/
theorem phaseOf_advance {frame : pf.Frame} {cancelling : Bool} (input : pf.Input)
    (job : TranscriptionJob)
    (h : phaseOf pf (pf.advance frame cancelling input job).2 = .live) :
    phaseOf pf (.suspended frame cancelling) = .live := by
  rw [phaseOf_eq_live_iff] at h ⊢
  exact fun hs => h (pf.silenced_advance hs input job)

/-- The phase of a task that may not exist. -/
def taskPhase : Option (ProcessTask pf.Frame) → Phase
  | some p => phaseOf pf p.state
  | none => .landed

/-- The job the worker is busy with, and how far its task is. -/
def current (worker : Worker) (task : TaskId → Option (ProcessTask pf.Frame)) :
    Option (JobId × Phase) :=
  match worker with
  | .awaiting id t _ | .draining id t _ => some (id, taskPhase pf (task t))
  | .getting | .ended _ => none

/-- **The abstraction.** -/
def lifecycle (s : TranscriptionQueue pf.Frame) : Lifecycle JobId where
  capacity := s.maxSize
  status id := (s.job id).status
  reserved := s.history.reserved
  jobs := s.jobs
  pending := s.pending
  timers := s.cleanupTasks
  current := current pf s.worker s.task
  submitted := s.history.submitted
  handed := s.history.handed
  withdrawn := s.history.withdrawn

/-- Writing the record of one job writes one status. -/
theorem status_update (jobs : JobId → TranscriptionJob) (id : JobId) (job : TranscriptionJob) :
    (fun j => (Function.update jobs id job j).status) =
      Function.update (fun j => (jobs j).status) id job.status :=
  Function.comp_update (fun job : TranscriptionJob => job.status) jobs id job

/-- Writing the status that is there writes nothing. -/
@[simp] theorem status_update_self (jobs : JobId → TranscriptionJob) (id : JobId) :
    Function.update (fun j => (jobs j).status) id (jobs id).status = fun j => (jobs j).status :=
  Function.update_eq_self id fun j => (jobs j).status

/-- A field that is not written is the same for every job. -/
theorem update_field {α : Type*} (field : TranscriptionJob → α) (jobs : JobId → TranscriptionJob)
    {id : JobId} {job : TranscriptionJob} (h : field job = field (jobs id)) (j : JobId) :
    field (Function.update jobs id job j) = field (jobs j) := by
  by_cases hj : j = id
  · rw [hj, Function.update_self, h]
  · rw [Function.update_of_ne hj]

theorem current_getting (task : TaskId → Option (ProcessTask pf.Frame)) :
    current pf .getting task = none := rfl

theorem current_ended (o : Outcome PyException) (task : TaskId → Option (ProcessTask pf.Frame)) :
    current pf (.ended o) task = none := rfl

theorem current_awaiting {task : TaskId → Option (ProcessTask pf.Frame)} {t : TaskId}
    {p : ProcessTask pf.Frame} (ht : task t = some p) (id : JobId) (start : ℚ) :
    current pf (.awaiting id t start) task = some (id, phaseOf pf p.state) := by
  rw [current, ht]
  rfl

/-! ## The steps -/

/-- The links are kept, and the abstract state makes a few moves. -/
structure Refines (s s' : TranscriptionQueue pf.Frame) : Prop where
  linked : Linked s'
  moves : (lifecycle pf s).Moves (lifecycle pf s')

variable {pf} {s s' : TranscriptionQueue pf.Frame}

/-- A step nothing of which is visible in the abstract state. -/
theorem Refines.stutter (hl : Linked s') (h : lifecycle pf s' = lifecycle pf s) :
    Refines pf s s' :=
  ⟨hl, h ▸ Relation.ReflTransGen.refl⟩

theorem Refines.move (hl : Linked s') (h : (lifecycle pf s).Move (lifecycle pf s')) :
    Refines pf s s' :=
  ⟨hl, Relation.ReflTransGen.single h⟩

/-- `reserve`: refused, or an admission. -/
theorem reserve_refines (hl : Linked s) (hs : (lifecycle pf s).Sound) {id : JobId} (who : String)
    (hid : id ∉ s.history.reserved) :
    Linked (s.reserve id who).2 ∧ (lifecycle pf (s.reserve id who).2 = lifecycle pf s ∨
      (lifecycle pf s).Admit (lifecycle pf (s.reserve id who).2)) := by
  by_cases hcap : s.activeCount < s.maxSize
  · rw [reserve_of_room id who hcap]
    refine ⟨hl.frame rfl rfl rfl (update_field (·.processTask) s.job rfl), Or.inr ?_⟩
    have hadmitted := Lifecycle.Admit.reserve (lifecycle pf s) id hid hcap
    have hjobs : id ∉ s.jobs := fun h => hid (hs.jobs_reserved id h)
    simpa only [lifecycle, afterReserve, status_update, if_neg hjobs] using hadmitted
  · rw [reserve_of_full id who (Nat.le_of_not_lt hcap)]
    exact ⟨hl, Or.inl rfl⟩

/-- `submit` -/
theorem submit_refines (hl : Linked s) (id : JobId) : Refines pf s (s.submit id).2 := by
  by_cases h : id ∈ s.jobs ∧ (s.job id).status = .uploading
  · rw [submit_of_uploading h.1 h.2]
    refine .move (hl.frame rfl rfl rfl (update_field (·.processTask) s.job rfl)) ?_
    have hmove := Lifecycle.Move.submit (lifecycle pf s) id h.1 h.2
    simpa only [lifecycle, afterSubmit, status_update] using hmove
  · rw [submit_of_not h]
    exact .stutter hl rfl

/-- `attach` -/
theorem attach_refines (hl : Linked s) {id : JobId} {path : PosixPath} {content : List UInt8}
    {mime : String} {hotwords : Option String} {duration : ℚ}
    (h : s.attach id path content mime hotwords duration = some s') : Refines pf s s' := by
  obtain ⟨-, rfl⟩ := attach_eq_some h
  refine .stutter (hl.frame rfl rfl rfl (update_field (·.processTask) s.job rfl)) ?_
  simp only [lifecycle, status_update, status_update_self]

/-- Job `id` telling its task to stop is `silence`. -/
theorem current_cancelledTasks (hl : Linked s) (id : JobId) :
    current pf s.worker (s.cancelledTasks id) =
      Lifecycle.silence id (current pf s.worker s.task) := by
  cases hw : s.worker with
  | getting => rfl
  | ended o => rfl
  | draining j t start => exact absurd hw (hl.not_draining j t start)
  | awaiting j t start =>
    obtain ⟨state, ht⟩ := hl.awaited_task j t start hw
    have hprocess := hl.awaited_processTask j t start hw
    rw [current_awaiting pf ht]
    by_cases hj : id = j
    · subst hj
      have ht' : s.cancelledTasks id t = some ⟨id, state.cancel⟩ := by
        rw [s.cancelledTasks_self hprocess, ht]
        rfl
      rw [current_awaiting pf ht', phaseOf_cancel]
      cases phaseOf pf state <;> simp [Lifecycle.silence]
    · have ht' : s.cancelledTasks id t = some ⟨j, state⟩ := by
        rw [s.cancelledTasks_of_ne, ht]
        intro h
        obtain ⟨start', hw'⟩ := hl.processTask_awaited id t h
        rw [hw, Worker.awaiting.injEq] at hw'
        exact hj hw'.1.symm
      rw [current_awaiting pf ht']
      cases phaseOf pf state <;> simp [Lifecycle.silence, Ne.symm hj]

/-- A state that differs in the tasks `cancel` marked is as linked as before. -/
theorem Linked.cancelledTasks (hl : Linked s) (id : JobId) (hworker : s'.worker = s.worker)
    (htask : s'.task = s.cancelledTasks id) (hnext : s'.nextTask = s.nextTask)
    (hprocess : ∀ id, (s'.job id).processTask = (s.job id).processTask) : Linked s' := by
  cases hp : (s.job id).processTask with
  | none =>
    rw [TranscriptionQueue.cancelledTasks, hp] at htask
    exact hl.frame hworker htask hnext hprocess
  | some t =>
    obtain ⟨start, hw⟩ := hl.processTask_awaited id t hp
    obtain ⟨state, ht⟩ := hl.awaited_task id t start hw
    rw [TranscriptionQueue.cancelledTasks, hp] at htask
    simp only [ht, Option.map_some, ProcessTask.cancel] at htask
    exact hl.updateTask ht (by simp) hworker htask hnext hprocess

/-- `cancel` -/
theorem cancel_refines (hl : Linked s) (id : JobId) (unlink : UnlinkOutcome) :
    Refines pf s (s.cancel id unlink).2 := by
  by_cases h : id ∉ s.jobs ∨ (s.job id).status.isTerminal = true
  · rw [cancel_of_not unlink h]
    exact .stutter hl rfl
  · simp only [not_or, not_not, Bool.not_eq_true] at h
    rw [cancel_eq unlink h.1 h.2]
    refine .move (hl.cancelledTasks id rfl rfl rfl
      (update_field (·.processTask) s.job (by simp))) ?_
    have hmove := Lifecycle.Move.cancel (lifecycle pf s) id
      (s.cleanupTasks ++ (s.job id).cancelled.newTimers id unlink (id ∈ s.jobs)) h.1 h.2
      fun j hj => (List.mem_append.mp hj).imp_right mem_newTimers
    by_cases hq : (s.job id).status = .queued <;>
      simpa [lifecycle, afterCancel, afterClose, status_update, current_cancelledTasks hl, hq]
        using hmove

/-- The state of a worker that has handed over job `id`. -/
theorem Linked.start (hl : Linked s) (hw : s.worker = .getting) {id : JobId} (frame : pf.Frame)
    (now : ℚ) (hworker : s'.worker = .awaiting id s.nextTask now)
    (htask : s'.task = Function.update s.task s.nextTask (some ⟨id, .suspended frame false⟩))
    (hnext : s'.nextTask = s.nextTask + 1)
    (hprocess : (s'.job id).processTask = some s.nextTask)
    (hothers : ∀ j, j ≠ id → (s'.job j).processTask = (s.job j).processTask) : Linked s' := by
  have hidle : ∀ j t start, s.worker ≠ .awaiting j t start := by simp [hw]
  have hnone (j : JobId) : (s.job j).processTask = none := by
    cases hp : (s.job j).processTask with
    | none => rfl
    | some t =>
      obtain ⟨start, hw'⟩ := hl.processTask_awaited j t hp
      exact absurd hw' (hidle j t start)
  refine ⟨by simp [hworker], ?_, ?_, ?_, ?_, ?_⟩
  · intro j t start hw'
    rw [hworker, Worker.awaiting.injEq] at hw'
    obtain ⟨rfl, rfl, -⟩ := hw'
    exact ⟨_, by rw [htask, Function.update_self]⟩
  · intro j t start hw'
    rw [hworker, Worker.awaiting.injEq] at hw'
    obtain ⟨rfl, rfl, -⟩ := hw'
    exact hprocess
  · intro j t ht
    by_cases hj : j = id
    · subst hj
      rw [hprocess, Option.some_inj] at ht
      exact ⟨now, by rw [hworker, ht]⟩
    · rw [hothers j hj, hnone j] at ht
      exact absurd ht (by simp)
  · intro t p hp hundone
    rw [htask] at hp
    by_cases ht : t = s.nextTask
    · subst ht
      rw [Function.update_self, Option.some_inj] at hp
      exact ⟨now, by rw [hworker, ← hp]⟩
    · rw [Function.update_of_ne ht] at hp
      rw [hl.isDone_of_idle hidle hp] at hundone
      exact absurd hundone (by simp)
  · intro t hle
    rw [hnext] at hle
    rw [htask, Function.update_of_ne (Nat.ne_of_gt hle)]
    exact hl.fresh t (Nat.le_of_succ_le hle)

/-- The worker, between two jobs. -/
theorem workerTake_refines (hl : Linked s) (hw : s.worker = .getting)
    {id : JobId} {rest : List JobId} (hq : s.pending = id :: rest) (now : ℚ) :
    Refines pf s ({ s with pending := rest }.workerTake pf.start id now) := by
  by_cases h : id ∉ s.jobs ∨ (s.job id).status = .cancelled
  · rw [workerTake, if_pos h]
    exact .move (hl.frame rfl rfl rfl fun _ => rfl)
      (Lifecycle.Move.skip (lifecycle pf s) id rest hq h)
  · rw [workerTake, if_neg h]
    simp only [not_or, not_not] at h
    have hcur : (lifecycle pf s).current = none := by simp only [lifecycle, hw, current_getting]
    have hmove := Lifecycle.Move.start (lifecycle pf s) id rest hq h.1 h.2 hcur
    refine .move (hl.start hw pf.start now rfl rfl rfl ?_ fun j hj => ?_) ?_
    · simp [setJob]
    · simp [setJob, Function.update_of_ne hj]
    · have hphase : phaseOf pf (.suspended pf.start false) = .live := by
        simp [phaseOf, pf.unwinding_start]
      simpa [lifecycle, setJob, status_update, current_awaiting pf (Function.update_self ..),
        hphase] using hmove

/-- What `settle` and `afterClose` do to the links: the worker is not busy any
more. -/
theorem Linked.finish (hl : Linked s) {id : JobId} {t : TaskId} {start : ℚ}
    {o : Outcome PyException} (hw : s.worker = .awaiting id t start)
    (ht : s.task t = some ⟨id, .done o⟩)
    (hworker : s'.worker = .getting ∨ ∃ o, s'.worker = .ended o)
    (htask : s'.task = s.task) (hnext : s'.nextTask = s.nextTask)
    (hprocess : (s'.job id).processTask = none)
    (hothers : ∀ j, j ≠ id → (s'.job j).processTask = (s.job j).processTask) : Linked s' := by
  have hidle : ∀ j t start, s'.worker ≠ .awaiting j t start := by
    intro j t start h
    rcases hworker with hw' | ⟨o, hw'⟩ <;> rw [hw'] at h <;> exact absurd h (by simp)
  have hdone (u : TaskId) (p : ProcessTask pf.Frame) (hu : s.task u = some p) :
      p.state.isDone = true := by
    cases hd : p.state.isDone with
    | true => rfl
    | false =>
      obtain ⟨start', hw'⟩ := hl.undone_awaited u p hu hd
      rw [hw, Worker.awaiting.injEq] at hw'
      rw [← hw'.2.1, ht, Option.some_inj] at hu
      rw [← hu] at hd
      exact absurd hd (by simp)
  refine ⟨?_, ?_, ?_, ?_, ?_, ?_⟩
  · intro j t start h
    rcases hworker with hw' | ⟨o, hw'⟩ <;> rw [hw'] at h <;> exact absurd h (by simp)
  · exact fun j t start h => absurd h (hidle j t start)
  · exact fun j t start h => absurd h (hidle j t start)
  · intro j u hu
    by_cases hj : j = id
    · rw [hj, hprocess] at hu
      exact absurd hu (by simp)
    · rw [hothers j hj] at hu
      obtain ⟨start', hw'⟩ := hl.processTask_awaited j u hu
      rw [hw, Worker.awaiting.injEq] at hw'
      exact absurd hw'.1.symm hj
  · intro u p hu hundone
    rw [htask] at hu
    rw [hdone u p hu] at hundone
    exact absurd hundone (by simp)
  · rw [hnext, htask]
    exact hl.fresh

/-- What the worker goes on to when a job is over. -/
theorem workerAfter_idle (job : TranscriptionJob) (outcome : Outcome PyException)
    (error : Option PyException) :
    workerAfter (nextWorker job outcome) error = .getting ∨
      ∃ o, workerAfter (nextWorker job outcome) error = .ended o := by
  cases error with
  | some e => exact Or.inr ⟨_, rfl⟩
  | none =>
    simp only [workerAfter, nextWorker]
    split
    · exact Or.inr ⟨_, rfl⟩
    · exact Or.inl rfl

theorem current_idle {worker : Worker} (h : worker = .getting ∨ ∃ o, worker = .ended o)
    (task : TaskId → Option (ProcessTask pf.Frame)) : current pf worker task = none := by
  rcases h with rfl | ⟨o, rfl⟩ <;> rfl

/-- What the worker, resumed in its `try` block, leaves behind. -/
theorem workerStep_awaiting (hl : Linked s) {id : JobId} {t : TaskId} {start : ℚ}
    (hw : s.worker = .awaiting id t start) {now : ℚ} {unlink : UnlinkOutcome}
    (h : s.workerStep pf.start now unlink = some s') :
    ∃ o outcome, s.task t = some ⟨id, .done o⟩ ∧
      outcome = (if s.workerCancel then .cancelled else o) ∧
      s' = { s with workerCancel := false }.afterResume id (now - start) unlink outcome := by
  simp only [workerStep, hw, Option.map_eq_some_iff] at h
  obtain ⟨outcome, hwake, rfl⟩ := h
  obtain ⟨o, ht, ho⟩ := hl.of_wake hw hwake
  refine ⟨o, outcome, ht, ho, workerResume_eq _ start now unlink outcome ?_⟩
  intro u hu
  obtain ⟨start', hw'⟩ := hl.processTask_awaited id u hu
  rw [hw, Worker.awaiting.injEq] at hw'
  simp [taskDone, ← hw'.2.1, ht]

/-- The worker, resumed with the outcome of the task it awaited. -/
theorem workerResume_refines (hl : Linked s) {id : JobId} {t : TaskId} {start : ℚ}
    {o : Outcome PyException} (hw : s.worker = .awaiting id t start)
    (ht : s.task t = some ⟨id, .done o⟩) (elapsed : ℚ) (unlink : UnlinkOutcome)
    (outcome : Outcome PyException) :
    Refines pf s ({ s with workerCancel := false }.afterResume id elapsed unlink outcome) := by
  have hidle := workerAfter_idle (s.job id) outcome ((s.job id).unlinkError unlink)
  refine .move (hl.finish hw ht hidle rfl rfl ?_ fun j hj => ?_) ?_
  · simp [afterResume, afterClose]
  · simp [afterResume, afterClose, Function.update_of_ne hj]
  · have hcur : (lifecycle pf s).current = some (id, .landed) := by
      simp only [lifecycle, hw, current_awaiting pf ht, phaseOf]
    have hmove := Lifecycle.Move.finish (lifecycle pf s) id ((s.job id).verdict outcome)
      (s.cleanupTasks ++ ((s.job id).settle outcome).newTimers id unlink (id ∈ s.jobs)) hcur
      ((s.job id).isTerminal_verdict outcome)
      fun j hj => (List.mem_append.mp hj).imp_right mem_newTimers
    simpa [lifecycle, afterResume, afterClose, status_update, current_idle hidle] using hmove

/-- A step of the worker. -/
theorem workerStep_refines (hl : Linked s) {now : ℚ} {unlink : UnlinkOutcome}
    (h : s.workerStep pf.start now unlink = some s') : Refines pf s s' := by
  cases hw : s.worker with
  | getting =>
    rcases workerStep_getting hw h with ⟨-, rfl⟩ | ⟨id, rest, -, hq, rfl⟩
    · refine .stutter (hl.retire hw rfl rfl rfl fun _ => rfl) ?_
      simp only [lifecycle, hw, current_getting, current_ended]
    · exact workerTake_refines hl hw hq now
  | awaiting id t start =>
    obtain ⟨o, outcome, ht, -, rfl⟩ := workerStep_awaiting hl hw h
    exact workerResume_refines hl hw ht _ unlink outcome
  | draining id t start => exact absurd hw (hl.not_draining id t start)
  | ended o => simp [workerStep_ended hw] at h

/-- What one step of a process task does, and to whom. -/
theorem processStep_eq_some {t : TaskId} {input : pf.Input}
    (h : s.processStep pf t input = some s') :
    ∃ id frame cancelling, s.task t = some ⟨id, .suspended frame cancelling⟩ ∧
      s' = { s with
        job := Function.update s.job id
          ((s.job id).applyEffects (pf.advance frame cancelling input (s.job id)).1)
        task := Function.update s.task t
          (some ⟨id, (pf.advance frame cancelling input (s.job id)).2⟩) } := by
  unfold processStep at h
  split at h
  · rename_i id frame cancelling ht
    exact ⟨id, frame, cancelling, ht, (Option.some_inj.mp h).symm⟩
  · exact absurd h (by simp)

/-- A process task writes the status of its job only while it may act. -/
theorem status_applyEffects (frame : pf.Frame) (cancelling : Bool) (input : pf.Input)
    (job : TranscriptionJob) :
    (job.applyEffects (pf.advance frame cancelling input job).1).status = job.status ∨
      (phaseOf pf (.suspended frame cancelling) = .live ∧
        (job.applyEffects (pf.advance frame cancelling input job).1).status = .streaming) := by
  by_cases hsil : pf.Silenced (.suspended frame cancelling)
  · obtain ⟨message, hm⟩ := applyEffects_quiet job (pf.quiet_of_silenced hsil input job)
    exact Or.inl (by rw [hm])
  · rw [phaseOf_eq_live_iff]
    exact (applyEffects_spec _ job).status.imp_right fun h => ⟨hsil, h⟩

/-- A step of a process task: it may set `STREAMING` if it may act at all, and it
may get further. -/
theorem processStep_refines (hl : Linked s) {t : TaskId} {input : pf.Input}
    (h : s.processStep pf t input = some s') : Refines pf s s' := by
  obtain ⟨id, frame, cancelling, ht, rfl⟩ := processStep_eq_some h
  obtain ⟨start, hw⟩ := hl.undone_awaited t _ ht rfl
  have hspec := applyEffects_spec (pf.advance frame cancelling input (s.job id)).1 (s.job id)
  have hcur : (lifecycle pf s).current = some (id, phaseOf pf (.suspended frame cancelling)) := by
    simp only [lifecycle, hw, current_awaiting pf ht]
  refine ⟨hl.updateTask ht (fun _ => rfl) rfl rfl rfl
    (update_field (·.processTask) s.job hspec.processTask), ?_⟩
  have hadvance (c : Lifecycle JobId) (hc : c.current = (lifecycle pf s).current) :=
    Lifecycle.Move.advance c id _
      (phaseOf pf (pf.advance frame cancelling input (s.job id)).2) (hc.trans hcur)
      (phaseOf_advance pf input (s.job id))
  rcases status_applyEffects frame cancelling input (s.job id) with hst | ⟨hlive, hst⟩
  · refine Relation.ReflTransGen.single ?_
    simpa [lifecycle, status_update, hst, hw, current_awaiting pf (Function.update_self ..)]
      using hadvance (lifecycle pf s) rfl
  · have hstream := Lifecycle.Move.stream (lifecycle pf s) id (by rw [hcur, hlive])
    refine (Relation.ReflTransGen.single hstream).tail ?_
    simpa [lifecycle, status_update, hst, hw, current_awaiting pf (Function.update_self ..)]
      using hadvance { lifecycle pf s with
        status := Function.update (lifecycle pf s).status id .streaming } rfl

/-- `self._worker_task.cancel()` -/
theorem cancelWorker_refines (hl : Linked s) : Refines pf s s.cancelWorker := by
  rw [cancelWorker_eq]
  cases hw : s.worker with
  | getting =>
    have htask : s.stoppedTasks = s.task := by rw [stoppedTasks, hw]
    exact .stutter (hl.frame hw.symm htask rfl fun _ => rfl) (by simp only [lifecycle, hw, htask])
  | ended o =>
    have htask : s.stoppedTasks = s.task := by rw [stoppedTasks, hw]
    exact .stutter (hl.frame hw.symm htask rfl fun _ => rfl) (by simp only [lifecycle, hw, htask])
  | draining id t start => exact absurd hw (hl.not_draining id t start)
  | awaiting id t start =>
    obtain ⟨state, ht⟩ := hl.awaited_task id t start hw
    have htask : s.stoppedTasks = Function.update s.task t (some ⟨id, state.cancel⟩) := by
      simp only [stoppedTasks, hw, ht, Option.map_some, ProcessTask.cancel]
    refine .move (hl.updateTask ht (by simp) hw.symm htask rfl fun _ => rfl) ?_
    have hcur : (lifecycle pf s).current = some (id, phaseOf pf state) := by
      simp only [lifecycle, hw, current_awaiting pf ht]
    have hmove := Lifecycle.Move.advance (lifecycle pf s) id _ (phaseOf pf state.cancel) hcur
      (by rw [phaseOf_cancel]; split <;> simp_all)
    simpa [lifecycle, hw, htask, current_awaiting pf (Function.update_self ..)] using hmove

/-- The timers are cancelled. -/
theorem cancelCleanups_refines (hl : Linked s) : Refines pf s s.cancelCleanups :=
  .move (hl.frame rfl rfl rfl fun _ => rfl) (Lifecycle.Move.disarm (lifecycle pf s))

/-- `stop` -/
theorem stop_refines (hl : Linked s) : Refines pf s s.stop := by
  unfold stop
  split
  · have hrefines : Refines pf s s.cancelWorker := cancelWorker_refines hl
    refine ⟨hrefines.linked.frame rfl rfl rfl fun _ => rfl, ?_⟩
    simpa only [lifecycle, cancelWorker_eq] using hrefines.moves
  · exact cancelCleanups_refines hl

/-- A call of `stop`, resumed. -/
theorem stopResume_refines (hl : Linked s) (h : s.stopResume = some s') : Refines pf s s' := by
  unfold stopResume at h
  split at h
  · exact absurd h (by simp)
  · rw [← Option.some_inj.mp h]
    exact .stutter (hl.frame rfl rfl rfl fun _ => rfl) rfl
  · rw [← Option.some_inj.mp h]
    exact .move (hl.frame rfl rfl rfl fun _ => rfl) (Lifecycle.Move.disarm (lifecycle pf s))
  · exact absurd h (by simp)

/-- A cleanup timer. -/
theorem cleanupJob_refines (hl : Linked s) {id : JobId} (hid : id ∈ s.cleanupTasks)
    (unlink : UnlinkOutcome) : Refines pf s (s.cleanupJob id unlink) := by
  have hmove := Lifecycle.Move.forget (lifecycle pf s) id hid
  by_cases h : id ∈ s.jobs
  · rw [cleanupJob_of_mem unlink h]
    refine .move (hl.frame rfl rfl rfl (update_field (·.processTask) s.job rfl)) ?_
    simpa only [lifecycle, status_update, status_update_self] using hmove
  · rw [cleanupJob_of_not_mem unlink h]
    refine .move (hl.frame rfl rfl rfl fun _ => rfl) ?_
    simpa only [lifecycle, List.erase_of_not_mem h] using hmove

/-- **Every step that is not an admission is a few moves.** -/
theorem step_refines (hl : Linked s) {a : Action pf.Input} (ha : ∀ id who, a ≠ .reserve id who)
    (h : step pf s a = some s') : Refines pf s s' := by
  cases a with
  | reserve id who => exact absurd rfl (ha id who)
  | attach id path content mime hotwords duration => exact attach_refines hl h
  | submit id => exact Option.some_inj.mp h ▸ submit_refines hl id
  | cancel id unlink => exact Option.some_inj.mp h ▸ cancel_refines hl id unlink
  | worker now unlink => exact workerStep_refines hl h
  | process t input => exact processStep_refines hl h
  | stop => exact Option.some_inj.mp h ▸ stop_refines hl
  | stopResume => exact stopResume_refines hl h
  | cleanup id unlink =>
    simp only [step] at h
    split at h
    · rename_i hid
      exact Option.some_inj.mp h ▸ cleanupJob_refines hl hid unlink
    · exact absurd h (by simp)
  | consume id =>
    simp only [step] at h
    split at h
    · exact absurd h (by simp)
    · rw [← Option.some_inj.mp h]
      refine .stutter (hl.frame rfl rfl rfl (update_field (·.processTask) s.job rfl)) ?_
      simp only [lifecycle, setJob, status_update, status_update_self]

/-- The other one is refused, or admits a fresh job. -/
theorem step_reserve (hl : Linked s) (hs : (lifecycle pf s).Sound) {id : JobId} {who : String}
    (h : step pf s (.reserve id who) = some s') :
    Linked s' ∧ (lifecycle pf s' = lifecycle pf s ∨
      (lifecycle pf s).Admit (lifecycle pf s')) := by
  simp only [step] at h
  split at h
  · exact absurd h (by simp)
  · rename_i hid
    exact Option.some_inj.mp h ▸ reserve_refines hl hs who hid

/-- **The invariant of the queue.** -/
structure Coherent (s : TranscriptionQueue pf.Frame) : Prop where
  linked : Linked s
  sound : (lifecycle pf s).Sound

theorem Coherent.step (hc : Coherent s) {a : Action pf.Input} (h : step pf s a = some s') :
    Coherent s' := by
  by_cases ha : ∃ id who, a = .reserve id who
  · obtain ⟨id, who, rfl⟩ := ha
    obtain ⟨hl, heq | hadmitted⟩ := step_reserve hc.linked hc.sound h
    · exact ⟨hl, heq ▸ hc.sound⟩
    · exact ⟨hl, hadmitted.sound hc.sound⟩
  · have hrefines := step_refines hc.linked (fun id who e => ha ⟨id, who, e⟩) h
    exact ⟨hrefines.linked, hrefines.moves.sound hc.sound⟩

/-- `_max_size` is written once. -/
theorem Coherent.maxSize_eq (hc : Coherent s) {a : Action pf.Input}
    (h : TranscriptionQueue.step pf s a = some s') : s'.maxSize = s.maxSize := by
  by_cases ha : ∃ id who, a = .reserve id who
  · obtain ⟨id, who, rfl⟩ := ha
    obtain ⟨-, heq | hadmitted⟩ := step_reserve hc.linked hc.sound h
    · exact congrArg Lifecycle.capacity heq
    · exact hadmitted.capacity_eq
  · exact (step_refines hc.linked (fun id who e => ha ⟨id, who, e⟩) h).moves.capacity_eq

/-- **It holds in every state reached.** -/
theorem coherent_of_reachable {P : TranscriptionQueue pf.Frame → Action pf.Input → Prop}
    {maxSize : ℕ} (h : (system pf maxSize).ReachableWhen P s) : Coherent s := by
  refine h.induction Coherent ?_ fun s a s' _ hc _ hst => hc.step hst
  rintro s rfl
  exact ⟨linked_initial maxSize, Lifecycle.sound_initial maxSize⟩

theorem maxSize_of_reachable {P : TranscriptionQueue pf.Frame → Action pf.Input → Prop}
    {maxSize : ℕ} (h : (system pf maxSize).ReachableWhen P s) : s.maxSize = maxSize := by
  refine h.induction (fun s => s.maxSize = maxSize) ?_ fun s a s' hs ih _ hst =>
    ((coherent_of_reachable hs).maxSize_eq hst).trans ih
  rintro s rfl
  rfl

end TranscriptionQueue

end VibeVoice
