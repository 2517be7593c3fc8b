import VibeVoice.Server.Position

/-!
# What a client learns from the queue status

`get_queue_info` walks over all jobs and reports those of one client, and `_get_position`
walks over all jobs again for each of them.

What is reported is complete: the jobs of the client, each once, in the order in which
they were reserved.  The positions of all clients together are `1, …, total_queued`
(`positions_eq`): a position is one more than the number of waiting jobs before the job.

And nothing else is reported.  Two states are `Alike` for a client if they have its jobs
at the same places and if at the other places the other jobs wait or do not wait alike.
The ids of the other jobs do not matter, and that is the point of the induction
(`LooksAlike.positionFrom_eq`): an id is compared with the id of a job of the client, and in
either state a job of somebody else has another id.

The order of `_jobs` is the order of a `dict`, so its keys are distinct.  They are in
every state the queue gets into (`Sound.jobs_nodup`).
-/

namespace VibeVoice

namespace TranscriptionQueue

variable {F : Type} {s t : TranscriptionQueue F}

/-! ## The positions of all -/

/-- A job that does not wait has no position. -/
theorem positionFrom_eq_none {id : JobId} (hid : (s.job id).status ≠ .queued) (n : ℕ)
    (l : List JobId) : s.positionFrom id n l = none := by
  induction l generalizing n with
  | nil => rfl
  | cons j l ih =>
    unfold positionFrom
    by_cases hq : (s.job j).status = .queued
    · have hj : j ≠ id := fun h => hid (h ▸ hq)
      rw [if_pos hq, if_neg hj, ih]
    · rw [if_neg hq, ih]

/-- The positions of the jobs of a list, as they are counted in it. -/
theorem filterMap_positionFrom (n : ℕ) {l : List JobId} (hl : l.Nodup) :
    (l.filterMap fun id => s.positionFrom id n l) =
      List.range' (n + 1) (l.countP fun id => (s.job id).status = .queued) := by
  induction l generalizing n with
  | nil => rfl
  | cons j l ih =>
    obtain ⟨hj, hl⟩ := List.nodup_cons.mp hl
    have hne : ∀ id ∈ l, j ≠ id := fun id hid h => hj (h ▸ hid)
    by_cases hq : (s.job j).status = .queued
    · have hhead : s.positionFrom j n (j :: l) = some (n + 1) := by
        rw [positionFrom, if_pos hq, if_pos rfl]
      have htail : (l.filterMap fun id => s.positionFrom id n (j :: l)) =
          l.filterMap fun id => s.positionFrom id (n + 1) l :=
        List.filterMap_congr fun id hid => by rw [positionFrom, if_pos hq, if_neg (hne id hid)]
      have hcons : ((j :: l).filterMap fun id => s.positionFrom id n (j :: l)) =
          (n + 1) :: l.filterMap fun id => s.positionFrom id n (j :: l) :=
        List.filterMap_cons_some hhead
      rw [hcons, htail, ih (n + 1) hl, List.countP_cons_of_pos (by simpa using hq),
        List.range'_succ]
    · have hhead : s.positionFrom j n (j :: l) = none := positionFrom_eq_none hq n _
      have htail : (l.filterMap fun id => s.positionFrom id n (j :: l)) =
          l.filterMap fun id => s.positionFrom id n l :=
        List.filterMap_congr fun id _ => by rw [positionFrom, if_neg hq]
      have hcons : ((j :: l).filterMap fun id => s.positionFrom id n (j :: l)) =
          l.filterMap fun id => s.positionFrom id n (j :: l) := List.filterMap_cons_none hhead
      rw [hcons, htail, ih n hl, List.countP_cons_of_neg (by simpa using hq)]

/-- **The positions are `1, …, total_queued`**, in the order of the jobs. -/
theorem positions_eq (hs : s.jobs.Nodup) :
    s.jobs.filterMap s.getPosition = List.range' 1 s.reported.length := by
  rw [reported, ← List.countP_eq_length_filter]
  exact filterMap_positionFrom 0 hs

/-- A list that is split by the value of a function, and joined again. -/
theorem flatMap_filter_perm {α β : Type*} [DecidableEq β] (f : α → β) {bs : List β}
    (hbs : bs.Nodup) {l : List α} (hl : ∀ a ∈ l, f a ∈ bs) :
    (bs.flatMap fun b => l.filter fun a => f a = b).Perm l := by
  induction bs generalizing l with
  | nil =>
    have hnil : l = [] := List.eq_nil_iff_forall_not_mem.mpr fun a ha => absurd (hl a ha) (by simp)
    rw [hnil, List.flatMap_nil]
  | cons b bs ih =>
    obtain ⟨hb, hbs⟩ := List.nodup_cons.mp hbs
    have hrest : (bs.flatMap fun c => l.filter fun a => f a = c) =
        bs.flatMap fun c => (l.filter fun a => !decide (f a = b)).filter fun a => f a = c := by
      refine List.flatMap_congr fun c hc => ?_
      rw [List.filter_filter]
      refine List.filter_congr fun a _ => ?_
      by_cases hac : f a = c
      · have hne : c ≠ b := fun h => hb (h ▸ hc)
        simp [hac, hne]
      · simp [hac]
    have hmem : ∀ a ∈ l.filter fun a => !decide (f a = b), f a ∈ bs := by
      intro a ha
      obtain ⟨hal, hab⟩ := List.mem_filter.mp ha
      exact (List.mem_cons.mp (hl a hal)).resolve_left (by simpa using hab)
    rw [List.flatMap_cons, hrest]
    exact ((ih hbs hmem).append_left _).trans (List.filter_append_perm _ l)

/-- What is reported to all. -/
theorem reports_perm (hs : s.jobs.Nodup) {whos : List String} (hwhos : whos.Nodup)
    (hall : ∀ id ∈ s.jobs, (s.job id).clientIdentity ∈ whos) :
    (whos.flatMap fun who => (s.getQueueInfo who).yourJobs.filterMap JobInfo.position).Perm
      (List.range' 1 s.reported.length) := by
  have hone (who : String) : (s.getQueueInfo who).yourJobs.filterMap JobInfo.position =
      (s.jobs.filter fun id => (s.job id).clientIdentity = who).filterMap s.getPosition := by
    rw [getQueueInfo_eq, List.filterMap_map]
    rfl
  simp only [hone]
  rw [← List.filterMap_flatMap, ← positions_eq hs]
  exact (flatMap_filter_perm (fun id => (s.job id).clientIdentity) hwhos hall).filterMap _

/-! ## What a client cannot see -/

/-- Two jobs, one of either state, that look alike to a client. -/
inductive LooksAlike (who : String) (s t : TranscriptionQueue F) : JobId → JobId → Prop
  /-- A job of the client is the same job, with the same id and status. -/
  | own {id : JobId} (hs : (s.job id).clientIdentity = who) (ht : (t.job id).clientIdentity = who)
      (hjobId : (s.job id).jobId = (t.job id).jobId)
      (hstatus : (s.job id).status = (t.job id).status) : LooksAlike who s t id id
  /-- A job of somebody else waits or does not wait. -/
  | other {i j : JobId} (hs : (s.job i).clientIdentity ≠ who)
      (ht : (t.job j).clientIdentity ≠ who)
      (hqueued : (s.job i).status = .queued ↔ (t.job j).status = .queued) : LooksAlike who s t i j

/-- Two states that look alike to a client. -/
structure Alike (who : String) (s t : TranscriptionQueue F) : Prop where
  jobs : List.Forall₂ (LooksAlike who s t) s.jobs t.jobs
  processingTimes : s.processingTimes = t.processingTimes

theorem LooksAlike.queued_iff {who : String} {i j : JobId} (h : LooksAlike who s t i j) :
    (s.job i).status = .queued ↔ (t.job j).status = .queued := by
  cases h with
  | own _ _ _ hstatus => rw [hstatus]
  | other _ _ hqueued => exact hqueued

/-- An id of the client is met in one state where it is met in the other. -/
theorem LooksAlike.eq_iff {who : String} {i j id : JobId} (h : LooksAlike who s t i j)
    (hs : (s.job id).clientIdentity = who) (ht : (t.job id).clientIdentity = who) :
    i = id ↔ j = id := by
  cases h with
  | own _ _ _ _ => exact Iff.rfl
  | other hsi htj _ => exact ⟨fun h => absurd (h ▸ hs) hsi, fun h => absurd (h ▸ ht) htj⟩

/-- **The count is the same**, for a job of the client. -/
theorem LooksAlike.positionFrom_eq {who : String} {id : JobId}
    (hs : (s.job id).clientIdentity = who) (ht : (t.job id).clientIdentity = who)
    {l l' : List JobId} (h : List.Forall₂ (LooksAlike who s t) l l') (n : ℕ) :
    s.positionFrom id n l = t.positionFrom id n l' := by
  induction h generalizing n with
  | nil => rfl
  | cons hij _ ih =>
    simp only [positionFrom, hij.queued_iff, hij.eq_iff hs ht, ih]

/-- What is said of a job of the client. -/
theorem Alike.jobInfo_eq {who : String} {id : JobId} (h : Alike who s t)
    (hs : (s.job id).clientIdentity = who) (ht : (t.job id).clientIdentity = who)
    (hjobId : (s.job id).jobId = (t.job id).jobId)
    (hstatus : (s.job id).status = (t.job id).status) : s.jobInfo id = t.jobInfo id := by
  have hposition : s.getPosition id = t.getPosition id :=
    LooksAlike.positionFrom_eq hs ht h.jobs 0
  have hestimate : s.estimateWait = t.estimateWait :=
    funext fun p => by rw [estimateWait, estimateWait, h.processingTimes]
  rw [jobInfo, jobInfo, hjobId, hstatus, hposition, hestimate]

/-- **A client learns nothing else.** -/
theorem Alike.getQueueInfo_eq {who : String} (h : Alike who s t) :
    s.getQueueInfo who = t.getQueueInfo who := by
  have hturns (r : QueueStatusResponse) {l l' : List JobId}
      (hl : List.Forall₂ (LooksAlike who s t) l l') :
      l.foldl (s.queueInfoTurn who) r = l'.foldl (t.queueInfoTurn who) r := by
    induction hl generalizing r with
    | nil => rfl
    | @cons i j l l' hij _ ih =>
      have hturn : s.queueInfoTurn who r i = t.queueInfoTurn who r j := by
        unfold queueInfoTurn
        congr 1
        · cases hij with
          | own hs ht hjobId hstatus =>
            rw [if_pos hs, if_pos ht, h.jobInfo_eq hs ht hjobId hstatus]
          | other hs ht _ => rw [if_neg hs, if_neg ht]
        · simp only [hij.queued_iff]
      rw [List.foldl_cons, List.foldl_cons, hturn, ih]
  exact hturns _ h.jobs

/-! ## The claim for all states -/

/-- **The queue status.**  The client is told its jobs, each once, in the order of
reservation; a job has a position and an estimate if it waits; the positions told to all
clients are `1, …, total_queued`; and in two states that look alike to the client it is
told the same. -/
theorem queue_status_exact (hs : s.jobs.Nodup) (who : String) :
    (∃ ids : List JobId, ids.Sublist s.jobs ∧ ids.Nodup ∧
        (∀ id, id ∈ ids ↔ id ∈ s.jobs ∧ (s.job id).clientIdentity = who) ∧
        (s.getQueueInfo who).yourJobs = ids.map s.jobInfo) ∧
      (s.getQueueInfo who).totalQueued = s.jobs.countP (fun id => (s.job id).status = .queued) ∧
      (∀ info ∈ (s.getQueueInfo who).yourJobs,
        (info.status = .queued ↔ info.position.isSome) ∧
          info.estimatedWaitSeconds = info.position.map s.estimateWait) ∧
      (∀ whos : List String, whos.Nodup → (∀ id ∈ s.jobs, (s.job id).clientIdentity ∈ whos) →
        (whos.flatMap fun who => (s.getQueueInfo who).yourJobs.filterMap JobInfo.position).Perm
          (List.range' 1 (s.getQueueInfo who).totalQueued)) ∧
      ∀ t, Alike who s t → s.getQueueInfo who = t.getQueueInfo who := by
  refine ⟨?_, ?_, fun info hinfo => ?_, fun whos hwhos hall => ?_, fun t h => h.getQueueInfo_eq⟩
  · refine ⟨s.jobs.filter fun id => (s.job id).clientIdentity = who, List.filter_sublist,
      hs.filter _, fun id => ?_, by rw [getQueueInfo_eq]⟩
    rw [List.mem_filter, decide_eq_true_eq]
  · rw [getQueueInfo_eq, List.countP_eq_length_filter]
    rfl
  · rw [getQueueInfo_eq] at hinfo
    obtain ⟨id, hid, rfl⟩ := List.mem_map.mp hinfo
    refine ⟨⟨fun hq => ?_, fun hsome => ?_⟩, rfl⟩
    · have hposition := getPosition_eq hq (List.mem_of_mem_filter hid)
      exact Option.isSome_of_eq_some hposition
    · by_contra hq
      have hnone : s.getPosition id = none := positionFrom_eq_none hq 0 s.jobs
      exact absurd hsome (by simp [jobInfo, hnone])
  · rw [getQueueInfo_eq]
    exact reports_perm hs hwhos hall

/-- A client has two jobs, and the one between them is somebody else's: whose, and under
which id, the client is not told. -/
theorem queue_status_exact_between :
    ∃ s t, (system (processFn emptyListText .groq) 3).exec { maxSize := 3 }
        [.reserve "a" "x", .reserve "b" "y", .reserve "c" "x", .submit "b", .submit "c"] =
          some s ∧
      (system (processFn emptyListText .groq) 3).exec { maxSize := 3 }
        [.reserve "a" "x", .reserve "d" "z", .reserve "c" "x", .submit "c", .submit "d"] =
          some t ∧
      s.getQueueInfo "x" = t.getQueueInfo "x" ∧
      (["x", "y"].flatMap fun who =>
        (s.getQueueInfo who).yourJobs.filterMap JobInfo.position).Perm [1, 2] := by
  refine ⟨_, _, rfl, rfl, ?_, ?_⟩
  · refine (queue_status_exact ?_ "x").2.2.2.2 _ ⟨.cons (.own rfl rfl rfl rfl)
      (.cons (.other ?_ ?_ ?_) (.cons (.own rfl rfl rfl rfl) .nil)), rfl⟩ <;> decide
  · exact (queue_status_exact (by decide) "x").2.2.2.1 ["x", "y"] (by decide) (by decide)

end TranscriptionQueue

end VibeVoice
