import VibeVoice.Server.Verdict

/-!
# What a process function promises about its chunks

The queue runs a process function in steps, between which anything can happen to
the job; what a client gets is the chunks that were put by the time the job is
`COMPLETED`.  A `Contract` is what has to be checked of a process function, one
step at a time and without the queue, so that those chunks satisfy a
postcondition: an invariant between its frames and the chunks put so far, and
that it implies the postcondition where the function returns.  `allowed` is what
is asked of what the function is resumed with.

`fulfilled_of_reachable` is the rule: in every run in which a process task is resumed
with what is allowed, the chunks of a completed job satisfy the postcondition,
whatever is cancelled, stopped or read in between.  A function that was
cancelled and returns all the same is not excluded, so the contract has to speak
of the frames that unwind, too.

A job that is over and not `COMPLETED` has a message (`explained_of_reachable`).
-/

namespace VibeVoice

/-- The chunks among some effects. -/
def putTexts (effects : List ProcessEffect) : List String :=
  effects.filterMap fun e => match e with | .put text => some text | _ => none

/-- The chunks put for a job. -/
def TranscriptionJob.texts (job : TranscriptionJob) : List String :=
  TranscriptionJob.chunksOf job.puts

/-- **A contract of a process function.** -/
structure Contract (pf : ProcessFn) where
  /-- What it may be resumed with. -/
  allowed : pf.Frame → Resumption pf.Input → Prop
  /-- What has been put when it is suspended. -/
  inv : pf.Frame → List String → Prop
  /-- What has been put when it returns. -/
  post : List String → Prop
  start : inv pf.start []
  await : ∀ f r job g texts, allowed f r → inv f texts → (pf.resume f r job).2 = .await g →
    inv g (texts ++ putTexts (pf.resume f r job).1)
  returned : ∀ f r job texts, allowed f r → inv f texts →
    (pf.resume f r job).2 = .ended .returned → post (texts ++ putTexts (pf.resume f r job).1)

namespace TranscriptionJob

theorem texts_applyEffects (job : TranscriptionJob) (effects : List ProcessEffect) :
    (job.applyEffects effects).texts = job.texts ++ putTexts effects := by
  induction effects generalizing job with
  | nil => simp [applyEffects, putTexts]
  | cons e effects ih =>
    rw [show job.applyEffects (e :: effects) = (e.apply job).applyEffects effects from rfl, ih]
    cases e <;> simp [ProcessEffect.apply, texts, chunksOf, putTexts, put]

/-- Closing a job puts no chunk. -/
theorem texts_afterClose (job : TranscriptionJob) (unlink : UnlinkOutcome) (tracked : Bool) :
    (job.afterClose unlink tracked).texts = job.texts := by
  unfold afterClose
  split
  · rw [texts, closed_puts]
    show chunksOf (if job.terminalNotified then job.puts else job.puts ++ [none]) = _
    split <;> simp [texts, chunksOf]
  · rfl

end TranscriptionJob

namespace TranscriptionQueue

open TranscriptionJob

variable {pf : ProcessFn} {maxSize : ℕ} {s s' : TranscriptionQueue pf.Frame} {C : Contract pf}

/-- A process task that takes a step is resumed with what the contract allows. -/
def Heeds (C : Contract pf) (s : TranscriptionQueue pf.Frame) (a : Action pf.Input) : Prop :=
  ∀ t input, a = .process t input → ∀ id f c, s.task t = some ⟨id, .suspended f c⟩ →
    C.allowed f (if c then .cancelled else .value input)

/-! ## The invariant -/

/-- What the contract says of a process task and the chunks of its job. -/
def Honours (C : Contract pf) : AsyncTask pf.Frame PyException → List String → Prop
  | .suspended f _, texts => C.inv f texts
  | .done .returned, texts => C.post texts
  | .done _, _ => True

/-- Asking a task to stop changes nothing of that. -/
theorem honours_cancel {state : AsyncTask pf.Frame PyException} {texts : List String} :
    Honours C state.cancel texts ↔ Honours C state texts := by
  cases state <;> rfl

/-- A step of the task. -/
theorem Honours.advance {f : pf.Frame} {c : Bool} {input : pf.Input} {job : TranscriptionJob}
    {texts : List String} (h : Honours C (.suspended f c) texts)
    (hallowed : C.allowed f (if c then .cancelled else .value input)) :
    Honours C (pf.advance f c input job).2 (texts ++ putTexts (pf.advance f c input job).1) := by
  simp only [Coroutine.advance]
  cases hp : (pf.resume f (if c then .cancelled else .value input) job).2 with
  | await g => exact C.await f _ job g texts hallowed h hp
  | ended o =>
    cases o with
    | returned => exact C.returned f _ job texts hallowed h hp
    | raised | cancelled => trivial

/-- What the contract says of all jobs. -/
structure Fulfilled (C : Contract pf) (s : TranscriptionQueue pf.Frame) : Prop where
  fresh : ∀ id, (s.job id).status = .uploading ∨ (s.job id).status = .queued →
    (s.job id).texts = []
  awaited : ∀ id t start state, s.worker = .awaiting id t start →
    s.task t = some ⟨id, state⟩ → Honours C state (s.job id).texts
  completed : ∀ id, (s.job id).status = .completed → C.post (s.job id).texts

/-- A step that leaves the worker and its task to themselves, and puts no chunk. -/
theorem Fulfilled.frame (h : Fulfilled C s)
    (hworker : ∀ id t start, s'.worker = .awaiting id t start → s.worker = .awaiting id t start)
    (htask : ∀ id t state, s'.task t = some ⟨id, state⟩ →
      ∃ state', s.task t = some ⟨id, state'⟩ ∧ (state = state' ∨ state = state'.cancel))
    (hjob : ∀ id, (s'.job id).texts = (s.job id).texts ∧
      ((s'.job id).status = .uploading ∨ (s'.job id).status = .queued →
        (s.job id).status = .uploading ∨ (s.job id).status = .queued) ∧
      ((s'.job id).status = .completed → (s.job id).status = .completed)) : Fulfilled C s' where
  fresh id hst := (hjob id).1.trans (h.fresh id ((hjob id).2.1 hst))
  awaited := by
    intro id t start state hw ht
    rw [(hjob id).1]
    obtain ⟨state', ht', hstate⟩ := htask id t state ht
    have hold := h.awaited id t start state' (hworker id t start hw) ht'
    rcases hstate with rfl | rfl
    · exact hold
    · exact honours_cancel.mpr hold
  completed := by
    intro id hst
    rw [(hjob id).1]
    exact h.completed id ((hjob id).2.2 hst)

/-- A step that writes one record, and puts no chunk. -/
theorem Fulfilled.update (h : Fulfilled C s) {j : JobId} {job : TranscriptionJob}
    (hjob : s'.job = Function.update s.job j job)
    (hworker : ∀ id t start, s'.worker = .awaiting id t start → s.worker = .awaiting id t start)
    (htask : ∀ id t state, s'.task t = some ⟨id, state⟩ →
      ∃ state', s.task t = some ⟨id, state'⟩ ∧ (state = state' ∨ state = state'.cancel))
    (htexts : job.texts = (s.job j).texts)
    (hfresh : job.status = .uploading ∨ job.status = .queued →
      (s.job j).status = .uploading ∨ (s.job j).status = .queued)
    (hcompleted : job.status = .completed → (s.job j).status = .completed) : Fulfilled C s' := by
  refine h.frame hworker htask fun id => ?_
  rw [hjob]
  by_cases hid : id = j
  · subst hid
    rw [Function.update_self]
    exact ⟨htexts, hfresh, hcompleted⟩
  · rw [Function.update_of_ne hid]
    exact ⟨rfl, fun h => h, fun h => h⟩

/-- The tasks after a cancellation. -/
theorem exists_of_cancelled {u t : TaskId} {id : JobId} {state : AsyncTask pf.Frame PyException}
    (ht : Function.update s.task u ((s.task u).map ProcessTask.cancel) t = some ⟨id, state⟩) :
    ∃ state', s.task t = some ⟨id, state'⟩ ∧ (state = state' ∨ state = state'.cancel) := by
  by_cases htu : t = u
  · subst htu
    rw [Function.update_self] at ht
    obtain ⟨p, hp, hcancel⟩ := Option.map_eq_some_iff.mp ht
    obtain ⟨j, state'⟩ := p
    cases hcancel
    exact ⟨state', hp, Or.inr rfl⟩
  · rw [Function.update_of_ne htu] at ht
    exact ⟨state, ht, Or.inl rfl⟩

/-- The worker is resumed: a job is completed when its task returned. -/
theorem Fulfilled.resume (h : Fulfilled C s) {id : JobId} {t : TaskId} {start : ℚ}
    {o outcome : Outcome PyException} (hw : s.worker = .awaiting id t start)
    (ht : s.task t = some ⟨id, .done o⟩)
    (ho : outcome = if s.workerCancel then .cancelled else o) (elapsed : ℚ)
    (unlink : UnlinkOutcome) :
    Fulfilled C ({ s with workerCancel := false }.afterResume id elapsed unlink outcome) := by
  have hidle := workerAfter_idle (s.job id) outcome ((s.job id).unlinkError unlink)
  have hpost (hst : (s.job id).verdict outcome = .completed) : C.post (s.job id).texts := by
    cases outcome with
    | cancelled | raised => exact absurd hst (by simp [verdict])
    | returned =>
      have hreturned : o = .returned := by
        cases hmark : s.workerCancel <;> simp [hmark] at ho
        exact ho.symm
      have hold := h.awaited id t start _ hw ht
      rw [hreturned] at hold
      exact hold
  have htexts (tracked : Bool) :
      (((s.job id).settle outcome).afterClose unlink tracked).texts = (s.job id).texts := by
    rw [texts_afterClose]
    rfl
  refine ⟨fun j hst => ?_, fun j t' start' state hw' => ?_, fun j hst => ?_⟩
  · by_cases hj : j = id
    · subst hj
      have hterm := isTerminal_verdict (s.job j) outcome
      simp only [afterResume, afterClose, Function.update_self, afterClose_status,
        settle_status] at hst
      rcases hst with hst | hst <;> rw [hst] at hterm <;> exact absurd hterm (by decide)
    · simp only [afterResume, afterClose, Function.update_of_ne hj] at hst ⊢
      exact h.fresh j hst
  · rcases hidle with hidle | ⟨o', hidle⟩ <;> exact absurd (hidle.symm.trans hw') (by simp)
  · by_cases hj : j = id
    · subst hj
      simp only [afterResume, afterClose, Function.update_self, afterClose_status,
        settle_status] at hst ⊢
      rw [htexts]
      exact hpost hst
    · simp only [afterResume, afterClose, Function.update_of_ne hj] at hst ⊢
      exact h.completed j hst

/-- The worker hands a job over: nothing has been put for it. -/
theorem Fulfilled.start (h : Fulfilled C s) {id : JobId} (hst : (s.job id).status = .queued)
    (rest : List JobId) (now : ℚ) : Fulfilled C (s.afterStart pf.start id rest now) := by
  refine ⟨fun j hj => ?_, fun j t start state hw ht => ?_, fun j hj => ?_⟩
  · by_cases hji : j = id
    · subst hji
      simp [afterStart] at hj
    · simp only [afterStart, Function.update_of_ne hji] at hj ⊢
      exact h.fresh j hj
  · simp only [afterStart, Worker.awaiting.injEq] at hw ht
    obtain ⟨rfl, rfl, rfl⟩ := hw
    rw [Function.update_self, Option.some_inj, ProcessTask.mk.injEq] at ht
    have htexts : ((s.afterStart pf.start id rest now).job id).texts = (s.job id).texts := by
      simp only [afterStart, Function.update_self]
      rfl
    rw [← ht.2, htexts, h.fresh id (Or.inr hst)]
    exact C.start
  · by_cases hji : j = id
    · subst hji
      simp [afterStart] at hj
    · simp only [afterStart, Function.update_of_ne hji] at hj ⊢
      exact h.completed j hj

/-- A step of the process task. -/
theorem Fulfilled.process (h : Fulfilled C s) (hc : Coherent s) {id : JobId} {t : TaskId}
    {start : ℚ} {frame : pf.Frame} {cancelling : Bool} (hw : s.worker = .awaiting id t start)
    (ht : s.task t = some ⟨id, .suspended frame cancelling⟩) (input : pf.Input)
    (hallowed : C.allowed frame (if cancelling then .cancelled else .value input)) :
    Fulfilled C (afterProcess pf s t id frame cancelling input) := by
  have hspec := applyEffects_spec (pf.advance frame cancelling input (s.job id)).1 (s.job id)
  have hbusy := (hc.awaited hw).2
  refine ⟨fun j hj => ?_, fun j t' start' state hw' ht' => ?_, fun j hj => ?_⟩
  · by_cases hji : j = id
    · subst hji
      simp only [afterProcess, Function.update_self] at hj
      rcases hspec.status with hst | hst <;> rw [hst] at hj
      · rcases hj with hj | hj <;> rw [hj] at hbusy <;> exact absurd hbusy (by decide)
      · exact absurd hj (by decide)
    · simp only [afterProcess, Function.update_of_ne hji] at hj ⊢
      exact h.fresh j hj
  · have hjt := hw.symm.trans hw'
    rw [Worker.awaiting.injEq] at hjt
    obtain ⟨rfl, rfl, rfl⟩ := hjt
    simp only [afterProcess, Function.update_self, Option.some_inj, ProcessTask.mk.injEq] at ht' ⊢
    rw [← ht'.2, texts_applyEffects]
    exact (h.awaited id t start _ hw ht).advance hallowed
  · by_cases hji : j = id
    · subst hji
      simp only [afterProcess, Function.update_self] at hj
      rcases hspec.status with hst | hst <;> rw [hst] at hj
      · rw [hj] at hbusy
        exact absurd hbusy (by decide)
      · exact absurd hj (by decide)
    · simp only [afterProcess, Function.update_of_ne hji] at hj ⊢
      exact h.completed j hj

/-- **Every step that resumes a process task with what is allowed keeps it so.** -/
theorem Fulfilled.step (h : Fulfilled C s) (hc : Coherent s) {a : Action pf.Input}
    (ha : Heeds C s a) (ht : Transition pf s a s') : Fulfilled C s' := by
  have htask : ∀ id t (state : AsyncTask pf.Frame PyException), s.task t = some ⟨id, state⟩ →
      ∃ state', s.task t = some ⟨id, state'⟩ ∧ (state = state' ∨ state = state'.cancel) :=
    fun id t state ht => ⟨state, ht, Or.inl rfl⟩
  have hsame : ∀ id, (s.job id).texts = (s.job id).texts ∧
      ((s.job id).status = .uploading ∨ (s.job id).status = .queued →
        (s.job id).status = .uploading ∨ (s.job id).status = .queued) ∧
      ((s.job id).status = .completed → (s.job id).status = .completed) :=
    fun id => ⟨rfl, fun h => h, fun h => h⟩
  cases ht with
  | refused => exact h
  | skip | disarm | stopRaised | stopped | expire => exact h.frame (fun _ _ _ h => h) htask hsame
  | retire => exact h.frame (fun _ _ _ h => absurd h (by simp)) htask hsame
  | stop =>
    refine h.frame (fun _ _ _ h => h) (fun id t state ht => ?_) hsame
    change s.stoppedTasks t = some ⟨id, state⟩ at ht
    cases hw : s.worker with
    | getting | ended =>
      simp only [stoppedTasks, hw] at ht
      exact ⟨state, ht, Or.inl rfl⟩
    | awaiting | draining =>
      simp only [stoppedTasks, hw] at ht
      exact exists_of_cancelled ht
  | reserve id who hid hroom =>
    have hup : (s.job id).status = .uploading := hc.sound.untouched id hid
    exact h.update rfl (fun _ _ _ h => h) htask rfl (fun _ => Or.inl hup)
      fun h => absurd h (by simp)
  | submit id hid hst =>
    exact h.update rfl (fun _ _ _ h => h) htask rfl (fun _ => Or.inl hst)
      fun h => absurd h (by simp)
  | attach | forget | consume =>
    exact h.update rfl (fun _ _ _ h => h) htask rfl (fun h => h) fun h => h
  | cancel id unlink hid hst =>
    refine h.update rfl (fun _ _ _ h => h) (fun j t state ht => ?_) ?_ ?_ ?_
    · change s.cancelledTasks id t = some ⟨j, state⟩ at ht
      cases hp : (s.job id).processTask with
      | none =>
        simp only [cancelledTasks, hp] at ht
        exact ⟨state, ht, Or.inl rfl⟩
      | some u =>
        simp only [cancelledTasks, hp] at ht
        exact exists_of_cancelled ht
    · rw [texts_afterClose]
      rfl
    · rw [afterClose_status]
      exact fun h => absurd h (by simp)
    · rw [afterClose_status]
      exact fun h => absurd h (by simp)
  | start now unlink id rest hw hmark hq hid hne =>
    exact h.start (hc.queued_of_front hq hne) rest now
  | resume now unlink id t start o outcome hw ht ho => exact h.resume hw ht ho _ unlink
  | process t input id start frame cancelling hw ht =>
    exact h.process hc hw ht input (ha t input rfl id frame cancelling ht)

/-- **The rule**: in a run whose process tasks are resumed with what is allowed, the
chunks of a completed job satisfy the postcondition. -/
theorem fulfilled_of_reachable (h : (system pf maxSize).ReachableWhen (Heeds C) s) :
    Fulfilled C s := by
  refine h.induction (Fulfilled C) ?_ fun s a s' hs ih ha hst =>
    ih.step (coherent_of_reachable hs) ha
      (transition_of_step (coherent_of_reachable hs).linked hst)
  rintro s rfl
  exact ⟨fun _ _ => rfl, by simp, by simp⟩

/-! ## A job that failed says why -/

/-- A job that is over is completed, or it has a message. -/
def Explained (job : TranscriptionJob) : Prop :=
  job.status.isTerminal = true → job.status = .completed ∨ job.errorMessage.isSome = true

/-- What the worker writes is explained. -/
theorem explained_settle (job : TranscriptionJob) (outcome : Outcome PyException) :
    Explained (job.settle outcome) := by
  intro _
  cases outcome with
  | returned =>
    cases hmessage : job.errorMessage <;> simp [settle, verdict, verdictMessage, hmessage]
  | cancelled | raised => exact Or.inr rfl

theorem explained_afterClose {job : TranscriptionJob} (h : Explained job)
    (unlink : UnlinkOutcome) (tracked : Bool) : Explained (job.afterClose unlink tracked) := by
  rw [Explained, afterClose_status, afterClose_errorMessage]
  exact h

theorem explained_of_reachable {P : TranscriptionQueue pf.Frame → Action pf.Input → Prop}
    (h : (system pf maxSize).ReachableWhen P s) : ∀ id, Explained (s.job id) := by
  refine h.induction (fun s => ∀ id, Explained (s.job id)) ?_ fun s a s' hs ih _ hst => ?_
  · rintro s rfl id hterm
    exact absurd hterm (by simp [JobStatus.isTerminal])
  · have hc := coherent_of_reachable hs
    have key {s' : TranscriptionQueue pf.Frame} {j : JobId} {job : TranscriptionJob}
        (hjob : s'.job = Function.update s.job j job) (hnew : Explained job) :
        ∀ id, Explained (s'.job id) := by
      intro id
      rw [hjob]
      by_cases hid : id = j
      · rw [hid, Function.update_self]
        exact hnew
      · rw [Function.update_of_ne hid]
        exact ih id
    have hlive {job : TranscriptionJob} (hst : job.status.isTerminal = false) : Explained job :=
      fun hterm => absurd (hst.symm.trans hterm) Bool.false_ne_true
    cases transition_of_step hc.linked hst with
    | refused | skip | retire | stop | disarm | stopRaised | stopped | expire => exact ih
    | reserve | submit | start => exact key rfl (hlive rfl)
    | attach id | forget id | consume id => exact key rfl (ih id)
    | cancel => exact key rfl (explained_afterClose (fun _ => Or.inr rfl) _ _)
    | resume => exact key rfl (explained_afterClose (explained_settle _ _) _ _)
    | process t input id start frame cancelling hw ht =>
      refine key rfl fun hterm => ?_
      have hspec := applyEffects_spec (pf.advance frame cancelling input (s.job id)).1 (s.job id)
      rcases hspec.status with hst | hst
      · rw [hst] at hterm ⊢
        exact (ih id hterm).imp_right hspec.errorMessage
      · rw [hst] at hterm
        exact absurd hterm (by decide)

end TranscriptionQueue

end VibeVoice
