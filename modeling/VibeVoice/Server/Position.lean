import VibeVoice.Server.Steps
import VibeVoice.Server.Transcribe

/-!
# The position a client is told

`get_position_and_eta` and `get_queue_info` of `server/queue.py`.  Both go
through `_get_position`, which counts the waiting jobs in the order of `_jobs`.
The worker takes them in the order of `_pending`.

The first is the order of reservation, the second the order of submission, and a
job is submitted when its upload is over.  An upload that began later and ended
earlier is served earlier; as long as both wait, each is told the position of the
other (`position_not_rank`).

`InOrder` is the condition that this does not happen: no job is submitted while
one that was reserved later waits.  In the runs that meet it at every step the
two orders are one order (`aligned_of_reachable`), and a position is one more than
the number of jobs that will be served before (`position_is_rank`).
-/

namespace VibeVoice

/-- `JobInfo` -/
structure JobInfo where
  jobId : JobId
  status : JobStatus
  position : Option ℕ := none
  estimatedWaitSeconds : Option ℚ := none
  deriving DecidableEq, Repr

/-- `QueueStatusResponse` -/
structure QueueStatusResponse where
  yourJobs : List JobInfo
  totalQueued : ℕ
  deriving DecidableEq, Repr

namespace TranscriptionQueue

open TranscriptionJob

section Report

variable {F : Type} (s : TranscriptionQueue F)

/-- The loop of `_get_position`, with `position` jobs counted so far. -/
def positionFrom (jobId : JobId) : ℕ → List JobId → Option ℕ
  | _, [] => none
  | position, jid :: rest =>
    if (s.job jid).status = .queued then
      if jid = jobId then some (position + 1) else positionFrom jobId (position + 1) rest
    else positionFrom jobId position rest

/-- `_get_position` -/
def getPosition (jobId : JobId) : Option ℕ := s.positionFrom jobId 0 s.jobs

/-- `_estimate_wait` -/
def estimateWait (position : ℕ) : ℚ :=
  if s.processingTimes = [] then position * 30
  else position * (s.processingTimes.sum / s.processingTimes.length)

/-- `get_position_and_eta` -/
def getPositionAndEta (jobId : JobId) : Option ℕ × Option ℚ :=
  (s.getPosition jobId, (s.getPosition jobId).map s.estimateWait)

/-- What `get_queue_info` says of one job. -/
def jobInfo (id : JobId) : JobInfo where
  jobId := (s.job id).jobId
  status := (s.job id).status
  position := (s.getPosition id)
  estimatedWaitSeconds := (s.getPosition id).map s.estimateWait

/-- One turn of the loop of `get_queue_info`. -/
def queueInfoTurn (clientIdentity : String) (r : QueueStatusResponse) (id : JobId) :
    QueueStatusResponse where
  yourJobs :=
    if (s.job id).clientIdentity = clientIdentity then r.yourJobs ++ [s.jobInfo id] else r.yourJobs
  totalQueued := if (s.job id).status = .queued then r.totalQueued + 1 else r.totalQueued

/-- `get_queue_info` -/
def getQueueInfo (clientIdentity : String) : QueueStatusResponse :=
  s.jobs.foldl (s.queueInfoTurn clientIdentity) ⟨[], 0⟩

/-! ## The two orders -/

/-- The waiting jobs, in the order in which they are reported. -/
def reported : List JobId := s.jobs.filter fun id => (s.job id).status = .queued

/-- The waiting jobs, in the order in which they will be served. -/
def waiting : List JobId := s.pending.filter fun id => (s.job id).status = .queued

/-- How many waiting jobs the worker will dequeue before job `id`. -/
def rank (id : JobId) : ℕ :=
  (s.pending.takeWhile fun j => j ≠ id).countP fun j => (s.job j).status = .queued

variable {s} {id : JobId}

theorem rank_eq (hid : (s.job id).status = .queued) : s.rank id = s.waiting.idxOf id :=
  Fifo.countP_takeWhile_ne (by simpa using hid) s.pending

/-- The loop, in one expression. -/
theorem positionFrom_eq (hid : (s.job id).status = .queued) (n : ℕ) {l : List JobId}
    (hl : id ∈ l) : s.positionFrom id n l =
      some (n + 1 + (l.filter fun j => (s.job j).status = .queued).idxOf id) := by
  induction l generalizing n with
  | nil => exact absurd hl List.not_mem_nil
  | cons j l ih =>
    unfold positionFrom
    by_cases hj : j = id
    · subst hj
      simp [hid]
    · have hmem : id ∈ l := (List.mem_cons.mp hl).resolve_left (Ne.symm hj)
      by_cases hq : (s.job j).status = .queued
      · rw [if_pos hq, if_neg hj, ih (n + 1) hmem, List.filter_cons_of_pos (by simpa using hq),
          List.idxOf_cons_ne _ hj]
        exact congrArg some (by omega)
      · rw [if_neg hq, ih n hmem, List.filter_cons_of_neg (by simpa using hq)]

/-- **The position reported for a job that waits.** -/
theorem getPosition_eq (hid : (s.job id).status = .queued) (hmem : id ∈ s.jobs) :
    s.getPosition id = some (1 + s.reported.idxOf id) := by
  rw [getPosition, positionFrom_eq hid 0 hmem, Nat.zero_add]
  rfl

theorem queueInfo_foldl (who : String) (r : QueueStatusResponse) (l : List JobId) :
    l.foldl (s.queueInfoTurn who) r =
      { yourJobs := r.yourJobs ++ (l.filter fun id => (s.job id).clientIdentity = who).map s.jobInfo
        totalQueued := r.totalQueued + l.countP fun id => (s.job id).status = .queued } := by
  induction l generalizing r with
  | nil => simp
  | cons id l ih =>
    rw [List.foldl_cons, ih]
    by_cases hwho : (s.job id).clientIdentity = who <;>
      by_cases hq : (s.job id).status = .queued <;>
        simp [queueInfoTurn, hwho, hq, Nat.add_assoc, Nat.add_comm 1]

/-- **What `get_queue_info` says**: the jobs of the client, in the order of `_jobs`,
and how many jobs wait. -/
theorem getQueueInfo_eq (who : String) : s.getQueueInfo who =
    { yourJobs := (s.jobs.filter fun id => (s.job id).clientIdentity = who).map s.jobInfo
      totalQueued := s.reported.length } := by
  rw [getQueueInfo, queueInfo_foldl, reported, List.countP_eq_length_filter]
  simp

end Report

variable {pf : ProcessFn} {maxSize : ℕ} {s s' : TranscriptionQueue pf.Frame}

/-! ## The condition -/

/-- No job is submitted while one that was reserved after it waits. -/
def inOrder {F I : Type} (s : TranscriptionQueue F) : Action I → Bool
  | .submit id =>
    decide (id ∈ s.jobs → (s.job id).status = .uploading →
      ∀ j ∈ s.jobs, (s.job j).status = .queued → s.jobs.idxOf j < s.jobs.idxOf id)
  | _ => true

/-- The guard of the runs in which jobs are submitted in order. -/
def InOrder (s : TranscriptionQueue pf.Frame) (a : Action pf.Input) : Prop :=
  s.inOrder a = true

instance (s : TranscriptionQueue pf.Frame) (a : Action pf.Input) : Decidable (InOrder s a) :=
  inferInstanceAs (Decidable (_ = _))

/-! ## One order -/

/-- The order of `_jobs` is the order of `_pending`, for the jobs that wait. -/
def Aligned (s : TranscriptionQueue pf.Frame) : Prop := s.reported = s.waiting

/-- A job that does not wait any more is gone from either list. -/
theorem filter_update (jobs : JobId → TranscriptionJob) (id : JobId) {job : TranscriptionJob}
    (hst : job.status ≠ .queued) (l : List JobId) :
    (l.filter fun j => (Function.update jobs id job j).status = .queued) =
      (l.filter fun j => (jobs j).status = .queued).filter fun j => j ≠ id := by
  rw [List.filter_filter]
  refine List.filter_congr fun j _ => ?_
  by_cases hj : j = id
  · subst hj
    simp [hst]
  · simp [hj]

/-- A step that writes no status and leaves both lists alone, as far as waiting
jobs are concerned. -/
theorem Aligned.frame (h : Aligned s) (hstatus : ∀ j, (s'.job j).status = (s.job j).status)
    (hjobs : (s'.jobs.filter fun j => (s.job j).status = .queued) = s.reported)
    (hpending : (s'.pending.filter fun j => (s.job j).status = .queued) = s.waiting) :
    Aligned s' := by
  simp only [Aligned, reported, waiting, hstatus]
  rw [hjobs, hpending]
  exact h

/-- A step after which one job does not wait. -/
theorem Aligned.leave (h : Aligned s) {id : JobId} {job : TranscriptionJob}
    (hjob : s'.job = Function.update s.job id job) (hst : job.status ≠ .queued)
    (hjobs : s'.jobs = s.jobs)
    (hpending : (s'.pending.filter fun j => (s.job j).status = .queued).filter (fun j => j ≠ id) =
      s.waiting.filter fun j => j ≠ id) : Aligned s' := by
  simp only [Aligned, reported, waiting, hjob, hjobs]
  rw [filter_update _ _ hst, filter_update _ _ hst, hpending]
  exact congrArg (List.filter fun j => j ≠ id) h

/-- A job that joins the waiting ones, at its place in `_jobs`. -/
theorem filter_queued_split (jobs : JobId → TranscriptionJob) {id : JobId}
    {job : TranscriptionJob} (hst : job.status = .queued) {l before after : List JobId}
    (hl : l = before ++ id :: after) (hnd : l.Nodup) :
    (l.filter fun j => (Function.update jobs id job j).status = .queued) =
      (before.filter fun j => (jobs j).status = .queued) ++
        id :: after.filter fun j => (jobs j).status = .queued := by
  have hother {k : List JobId} (hk : id ∉ k) :
      (k.filter fun j => (Function.update jobs id job j).status = .queued) =
        k.filter fun j => (jobs j).status = .queued := by
    refine List.filter_congr fun j hj => ?_
    have hne : j ≠ id := fun e => hk (e ▸ hj)
    rw [Function.update_of_ne hne]
  rw [hl, List.nodup_append] at hnd
  obtain ⟨-, hafter, hbefore⟩ := hnd
  have hid : id ∉ before := fun hmem => hbefore id hmem id List.mem_cons_self rfl
  rw [hl, List.filter_append, hother hid, List.filter_cons_of_pos (by simpa using hst),
    hother (List.nodup_cons.mp hafter).1]

/-- The waiting jobs in the order of `_pending`, after a submission. -/
theorem waiting_afterSubmit (hc : Coherent s) {id : JobId} (hst : (s.job id).status = .uploading) :
    (s.afterSubmit id).waiting = s.waiting ++ [id] := by
  have hnot : id ∉ s.pending := hc.sound.not_pending_of_uploading hst
  have hnd : (s.pending ++ [id]).Nodup := by
    refine List.nodup_append.mpr ⟨hc.sound.pending_nodup, List.nodup_singleton id, ?_⟩
    rintro j hj k hk rfl
    exact hnot (List.mem_singleton.mp hk ▸ hj)
  exact filter_queued_split s.job rfl rfl hnd

/-- The waiting jobs in the order of `_jobs`, after a submission; and how many of
them had been reserved after the job. -/
theorem reported_afterSubmit (hc : Coherent s) {id : JobId} (hid : id ∈ s.jobs)
    (hst : (s.job id).status = .uploading) :
    ∃ before after : List JobId, s.reported = before ++ after ∧
      (s.afterSubmit id).reported = before ++ id :: after ∧ id ∉ before ∧
      ∀ j ∈ s.jobs, (s.job j).status = .queued →
        (j ∈ after ↔ ¬ s.jobs.idxOf j < s.jobs.idxOf id) := by
  have hnd : s.jobs.Nodup := hc.sound.jobs_nodup
  obtain ⟨before, after, hl⟩ := List.append_of_mem hid
  have hnd' := hnd
  rw [hl, List.nodup_append] at hnd'
  obtain ⟨-, hafter, hdisjoint⟩ := hnd'
  have hbefore : id ∉ before := fun hmem => hdisjoint id hmem id List.mem_cons_self rfl
  refine ⟨before.filter fun j => (s.job j).status = .queued,
    after.filter fun j => (s.job j).status = .queued, ?_,
    filter_queued_split s.job rfl hl hnd, fun h => hbefore (List.mem_of_mem_filter h), ?_⟩
  · rw [reported, hl, List.filter_append, List.filter_cons_of_neg (by simp [hst])]
  · intro j hj hq
    have hne : j ≠ id := by
      rintro rfl
      rw [hst] at hq
      exact absurd hq (by decide)
    have hself : s.jobs.idxOf id = before.length := by
      rw [hl, List.idxOf_append_of_notMem hbefore, List.idxOf_cons_self, Nat.add_zero]
    rw [List.mem_filter, hself, hl]
    by_cases hmem : j ∈ before
    · have hlt : (before ++ id :: after).idxOf j < before.length := by
        rw [List.idxOf_append_of_mem hmem]
        exact List.idxOf_lt_length_iff.mpr hmem
      have hnot : j ∉ after := fun h => hdisjoint j hmem j (List.mem_cons_of_mem _ h) rfl
      simp [hlt, hnot]
    · have hge : before.length ≤ (before ++ id :: after).idxOf j := by
        rw [List.idxOf_append_of_notMem hmem]
        exact Nat.le_add_right _ _
      have hin : j ∈ after := by
        rw [hl] at hj
        rcases List.mem_append.mp hj with h | h
        · exact absurd h hmem
        · exact (List.mem_cons.mp h).resolve_left hne
      simp only [hin, hq, decide_true, and_self, true_iff]
      omega

/-- The waiting jobs, after a submission in order. -/
theorem Aligned.submit (h : Aligned s) (hc : Coherent s) {id : JobId} (hid : id ∈ s.jobs)
    (hst : (s.job id).status = .uploading) (horder : InOrder s (.submit id)) :
    Aligned (s.afterSubmit id) := by
  have horder := of_decide_eq_true horder hid hst
  obtain ⟨before, after, hold, hnew, -, hafter⟩ := reported_afterSubmit hc hid hst
  have hnil : after = [] := by
    refine List.eq_nil_iff_forall_not_mem.mpr fun j hj => ?_
    have hmem : j ∈ s.reported := by
      rw [hold]
      exact List.mem_append_right _ hj
    obtain ⟨hjobs, hq⟩ := List.mem_filter.mp hmem
    have hq : (s.job j).status = .queued := by simpa using hq
    exact (hafter j hjobs hq).mp hj (horder j hjobs hq)
  rw [Aligned, waiting_afterSubmit hc hst, ← h, hnew, hold, hnil, List.append_nil]

/-- **Every step that meets the condition keeps the order.** -/
theorem Aligned.step (h : Aligned s) (hc : Coherent s) {a : Action pf.Input} (horder : InOrder s a)
    (ht : Transition pf s a s') : Aligned s' := by
  cases ht with
  | refused | retire | stop | disarm | stopRaised | stopped | expire => exact h
  | reserve id who hid hroom =>
    have hup : (s.job id).status = .uploading := hc.sound.untouched id hid
    have hnot : id ∉ s.jobs := fun hmem => hid (hc.sound.jobs_reserved id hmem)
    refine h.frame (update_field (·.status) s.job hup.symm) ?_ rfl
    show (if id ∈ s.jobs then s.jobs else s.jobs ++ [id]).filter _ = _
    rw [if_neg hnot, List.filter_append, List.filter_cons_of_neg (by simp [hup])]
    exact List.append_nil _
  | attach | consume => exact h.frame (update_field (·.status) s.job rfl) rfl rfl
  | submit id hid hst => exact h.submit hc hid hst horder
  | cancel id unlink hid hst => exact h.leave rfl (by simp) rfl rfl
  | skip now unlink id rest hw hmark hq hid =>
    have hmem : id ∈ (lifecycle pf s).pending := by
      show id ∈ s.pending
      rw [hq]
      exact List.mem_cons_self
    have hgone : (s.job id).status = .cancelled := hc.sound.cancelled_of_skip hmem hid
    refine h.frame (fun _ => rfl) rfl ?_
    show rest.filter _ = s.waiting
    rw [waiting, hq, List.filter_cons_of_neg (by simp [hgone])]
  | start now unlink id rest hw hmark hq hid hst =>
    refine h.leave rfl (by simp) rfl ?_
    show (rest.filter _).filter _ = _
    have hqueued := hc.queued_of_front hq hst
    rw [waiting, hq, List.filter_cons_of_pos (by simp [hqueued]), List.filter_cons_of_neg (by simp)]
  | resume now unlink id t start o outcome hw ht ho =>
    refine h.leave rfl (fun hq => ?_) rfl rfl
    rw [afterClose_status, settle_status] at hq
    have hterm := (s.job id).isTerminal_verdict outcome
    rw [hq] at hterm
    exact absurd hterm (by decide)
  | process t input id start frame cancelling hw ht =>
    have hspec := applyEffects_spec (pf.advance frame cancelling input (s.job id)).1 (s.job id)
    refine h.leave rfl (fun hq => ?_) rfl rfl
    have hold := (hc.awaited hw).2
    rcases hspec.status with hst | hst <;> rw [hst] at hq
    · rw [hq] at hold
      exact absurd hold (by decide)
    · exact absurd hq (by decide)
  | forget id unlink htimer hid =>
    have hterm : (s.job id).status.isTerminal = true := hc.sound.timers_terminal id htimer
    refine h.frame (update_field (·.status) s.job rfl) ?_ rfl
    show (s.jobs.erase id).filter _ = _
    have hnd : s.jobs.Nodup := hc.sound.jobs_nodup
    rw [reported, hnd.erase_eq_filter, List.filter_filter]
    refine List.filter_congr fun j _ => ?_
    by_cases hj : j = id
    · subst hj
      cases hst : (s.job j).status <;> simp_all [JobStatus.isTerminal]
    · simp [hj]

theorem aligned_of_reachable (h : (system pf maxSize).ReachableWhen InOrder s) : Aligned s := by
  refine h.induction Aligned ?_ fun s a s' hs ih horder hst =>
    ih.step (coherent_of_reachable hs) horder
      (transition_of_step (coherent_of_reachable hs).linked hst)
  rintro s rfl
  rfl

/-! ## Positions along a run -/

/-- The waiting jobs of the abstract state. -/
theorem rank_eq_lifecycle {id : JobId} (hid : (s.job id).status = .queued) :
    s.rank id = (lifecycle pf s).waiting.idxOf id := by
  rw [rank_eq hid]
  rfl

/-- **A job that waits is never overtaken**, whatever the order of submission. -/
theorem rank_le_of_step (hc : Coherent s) {a : Action pf.Input} (h : step pf s a = some s')
    (id : JobId) :
    (s.job id).status.stage ≤ (s'.job id).status.stage ∧
      ((s.job id).status = .queued → (s'.job id).status = .queued → s'.rank id ≤ s.rank id) := by
  by_cases ha : ∃ j who, a = .reserve j who
  · obtain ⟨j, who, rfl⟩ := ha
    obtain ⟨-, heq | hadmitted⟩ := step_reserve hc.linked hc.sound h
    · have hstatus : (s'.job id).status = (s.job id).status :=
        congrFun (congrArg Lifecycle.status heq) id
      refine ⟨(congrArg JobStatus.stage hstatus).ge, fun hid hid' => ?_⟩
      rw [rank_eq_lifecycle hid, rank_eq_lifecycle hid', heq]
    · have hstatus := hadmitted.status_eq hc.sound
      have hsame : (s'.job id).status = (s.job id).status := congrFun hstatus id
      refine ⟨(congrArg JobStatus.stage hsame).ge, fun hid hid' => ?_⟩
      rw [rank_eq_lifecycle hid, rank_eq_lifecycle hid', hadmitted.waiting_eq hc.sound]
  · have hmoves := (step_refines hc.linked (fun j who e => ha ⟨j, who, e⟩) h).moves
    refine ⟨hmoves.stage_le hc.sound id, fun hid hid' => ?_⟩
    rw [rank_eq_lifecycle hid, rank_eq_lifecycle hid']
    exact hmoves.waiting_idxOf_le hc.sound hid hid'

/-- The same along a run: a job that waits at both ends waits in between. -/
theorem rank_le_of_run {P : TranscriptionQueue pf.Frame → Action pf.Input → Prop}
    (hs : (system pf maxSize).ReachableWhen P s) (h : (system pf maxSize).RunWhen P s s')
    {id : JobId} (hid : (s.job id).status = .queued) (hid' : (s'.job id).status = .queued) :
    s'.rank id ≤ s.rank id := by
  refine (h.relates (fun s s' => (s.job id).status.stage ≤ (s'.job id).status.stage ∧
    ((s.job id).status = .queued → (s'.job id).status = .queued → s'.rank id ≤ s.rank id))
    (fun _ => ⟨Nat.le_refl _, fun _ _ => Nat.le_refl _⟩) ?_ ?_ hs).2 hid hid'
  · rintro s t u ⟨hst, hrank⟩ ⟨htu, hrank'⟩
    refine ⟨Nat.le_trans hst htu, fun hs hu => ?_⟩
    rw [hs, show JobStatus.queued.stage = 1 from rfl] at hst
    rw [hu, show JobStatus.queued.stage = 1 from rfl] at htu
    have ht : (t.job id).status = .queued := JobStatus.stage_eq_one.mp (Nat.le_antisymm htu hst)
    exact Nat.le_trans (hrank' ht hu) (hrank hs ht)
  · exact fun s a t hs _ hst => rank_le_of_step (coherent_of_reachable hs) hst id

/-- In an aligned state a position is one more than a rank. -/
theorem Aligned.getPosition_eq (h : Aligned s) (hc : Coherent s) {id : JobId}
    (hid : (s.job id).status = .queued) : s.getPosition id = some (1 + s.rank id) := by
  rw [TranscriptionQueue.getPosition_eq hid (hc.tracked_of_queued hid), h, rank_eq hid]

/-- Nobody writes the id of a job. -/
theorem jobId_of_step (ht : ∀ id, (s.job id).jobId = id) {a : Action pf.Input}
    (h : Transition pf s a s') (id : JobId) : (s'.job id).jobId = id := by
  have same (s' : TranscriptionQueue pf.Frame) {j : JobId} {job : TranscriptionJob}
      (hjob : s'.job = Function.update s.job j job) (hid : job.jobId = (s.job j).jobId) :
      (s'.job id).jobId = id := by
    rw [hjob]
    exact (update_field (·.jobId) s.job hid id).trans (ht id)
  cases h with
  | refused | retire | skip | stop | disarm | stopRaised | stopped | expire => exact ht id
  | reserve | attach | submit | start | forget | consume => exact same _ rfl rfl
  | cancel | resume => exact same _ rfl (by simp)
  | process t input j start frame cancelling hw ht' =>
    exact same _ rfl (applyEffects_spec _ _).jobId

theorem jobId_of_reachable {P : TranscriptionQueue pf.Frame → Action pf.Input → Prop}
    (h : (system pf maxSize).ReachableWhen P s) (id : JobId) : (s.job id).jobId = id := by
  refine h.induction (fun s => ∀ id, (s.job id).jobId = id) ?_ (fun s a s' hs ih _ hst =>
    jobId_of_step ih (transition_of_step (coherent_of_reachable hs).linked hst)) id
  rintro s rfl id
  rfl

/-- Submitted while a job waits that was reserved later, a job is told to be before
jobs that will be served before it. -/
theorem position_lt_of_not_inOrder (h : Aligned s) (hc : Coherent s) {id : JobId}
    (hid : id ∈ s.jobs) (hst : (s.job id).status = .uploading)
    (hnot : ¬ InOrder s (.submit id)) :
    ∃ p, (s.afterSubmit id).getPosition id = some p ∧ p < 1 + (s.afterSubmit id).rank id := by
  have hself : ((s.afterSubmit id).job id).status = .queued := by simp [afterSubmit]
  simp only [InOrder, inOrder, decide_eq_true_eq, Classical.not_imp, not_forall] at hnot
  obtain ⟨-, -, j, hjobs, hq, hlate⟩ := hnot
  obtain ⟨before, after, hold, hnew, hbefore, hafter⟩ := reported_afterSubmit hc hid hst
  have hj : j ∈ after := (hafter j hjobs hq).mpr hlate
  have hwait : id ∉ s.waiting := fun hmem =>
    hc.sound.not_pending_of_uploading hst (List.mem_of_mem_filter hmem)
  refine ⟨_, TranscriptionQueue.getPosition_eq hself hid, ?_⟩
  rw [rank_eq hself, waiting_afterSubmit hc hst, List.idxOf_append_of_notMem hwait,
    List.idxOf_cons_self, ← h, hold, List.length_append, hnew,
    List.idxOf_append_of_notMem hbefore, List.idxOf_cons_self]
  have hpos : 0 < after.length := List.length_pos_of_mem hj
  omega

/-- **The position a client is told is the order of service**, in the runs in which
no job is submitted while one that was reserved later waits; and a submission
that does not meet the condition is told a position that is too low. -/
theorem position_is_rank (h : (system pf maxSize).ReachableWhen InOrder s) :
    (∀ id, (s.job id).status = .queued →
        (s.getPositionAndEta id).1 = some (1 + s.rank id) ∧
          ∃ info ∈ (s.getQueueInfo (s.job id).clientIdentity).yourJobs,
            info.jobId = id ∧ info.position = some (1 + s.rank id)) ∧
      (∀ who, ∀ info ∈ (s.getQueueInfo who).yourJobs, info.status = .queued →
        info.position = some (1 + s.rank info.jobId)) ∧
      (∀ s', (system pf maxSize).RunWhen InOrder s s' → ∀ id p p',
        (s.job id).status = .queued → (s'.job id).status = .queued →
          s.getPosition id = some p → s'.getPosition id = some p' → p' ≤ p) ∧
      ∀ a s', (system pf maxSize).step s a = some s' → ¬ InOrder s a →
        ∃ id p, a = .submit id ∧ (s'.job id).status = .queued ∧
          (s'.getPositionAndEta id).1 = some p ∧ p ≠ 1 + s'.rank id := by
  have hc := coherent_of_reachable h
  have ha := aligned_of_reachable h
  refine ⟨fun id hid => ?_, fun who info hinfo hq => ?_, fun s' hrun id p p' hid hid' hp hp' => ?_,
    fun a s' hst hnot => ?_⟩
  · have hpos := ha.getPosition_eq hc hid
    refine ⟨hpos, s.jobInfo id, ?_, jobId_of_reachable h id, hpos⟩
    rw [getQueueInfo_eq]
    exact List.mem_map_of_mem (List.mem_filter.mpr ⟨hc.tracked_of_queued hid, by simp⟩)
  · rw [getQueueInfo_eq] at hinfo
    obtain ⟨id, -, rfl⟩ := List.mem_map.mp hinfo
    show s.getPosition id = some (1 + s.rank (s.job id).jobId)
    rw [jobId_of_reachable h id]
    exact ha.getPosition_eq hc hq
  · have hreach := h.run hrun
    rw [ha.getPosition_eq hc hid, Option.some_inj] at hp
    rw [(aligned_of_reachable hreach).getPosition_eq (coherent_of_reachable hreach) hid',
      Option.some_inj] at hp'
    have hle := rank_le_of_run h hrun hid hid'
    omega
  · cases a with
    | submit id =>
      have hguard : id ∈ s.jobs ∧ (s.job id).status = .uploading := by
        by_contra hno
        refine hnot (decide_eq_true fun hid hst => absurd ⟨hid, hst⟩ hno)
      obtain ⟨hid, hup⟩ := hguard
      have hs' : s' = s.afterSubmit id := by
        rw [← Option.some_inj.mp hst, submit_of_uploading hid hup]
      subst hs'
      obtain ⟨p, hp, hlt⟩ := position_lt_of_not_inOrder ha hc hid hup hnot
      exact ⟨id, p, rfl, by simp [afterSubmit], hp, Nat.ne_of_lt hlt⟩
    | reserve | attach | cancel | worker | process | stop | stopResume | cleanup | consume =>
      exact absurd rfl hnot

/-- **In some runs it is not**: of two uploads the one that began later ends first.
It is told to be the second, and will be the first. -/
theorem position_not_rank :
    ∃ s, (system (processFn emptyListText .groq) 2).exec { maxSize := 2 }
        [.reserve "a" "x", .reserve "b" "y", .submit "b", .submit "a"] = some s ∧
      (s.job "b").status = .queued ∧ s.rank "b" = 0 ∧ (s.getPositionAndEta "b").1 = some 2 ∧
      (s.getQueueInfo "y").yourJobs.map (·.position) = [some 2] ∧
      s.rank "a" = 1 ∧ (s.getPositionAndEta "a").1 = some 1 :=
  ⟨_, rfl, rfl, rfl, rfl, rfl, rfl, rfl⟩

/-- Two jobs submitted in order, the first of them cancelled. -/
theorem position_is_rank_cancelled :
    ∃ s, (system (processFn emptyListText .groq) 2).execWhen InOrder { maxSize := 2 }
        [.reserve "a" "x", .reserve "b" "y", .submit "a", .submit "b", .cancel "a" .removed] =
          some s ∧
      s.rank "b" = 0 ∧ (s.getPositionAndEta "b").1 = some (1 + s.rank "b") := by
  have hrun : (system (processFn emptyListText .groq) 2).execWhen InOrder { maxSize := 2 }
      [.reserve "a" "x", .reserve "b" "y", .submit "a", .submit "b", .cancel "a" .removed] =
      some _ := rfl
  exact ⟨_, hrun, rfl,
    ((position_is_rank (TransitionSystem.reachableWhen_of_execWhen _ rfl hrun)).1 "b" rfl).1⟩

end TranscriptionQueue

end VibeVoice
