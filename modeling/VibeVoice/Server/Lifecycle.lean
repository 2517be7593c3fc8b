import Mathlib.Data.List.Count
import Mathlib.Logic.Function.Basic
import Mathlib.Logic.Relation
import VibeVoice.Semantics.Fifo
import VibeVoice.Server.Models

/-!
# The life of a job, abstractly

What `TranscriptionQueue` is for, with everything that does not bear on it taken
away: a bounded number of jobs, each going through the statuses in one
direction, one of them at a time being run, in the order in which they were
submitted.

The state keeps a status for every job, the three lists the queue keeps
(`_jobs`, `_pending` and the jobs of the cleanup timers), the job that is being
run and how far its process task is, and the history of submissions, withdrawals
and hand-overs.  There is no worker, no task and no exception here: a `Move` is
one effect on the statuses, and `Server.Refinement` proves that every step of
the queue is a move or leaves this state alone.

* `Sound` is the inductive invariant; it ties the three lists, the statuses and
  the current job together.
* `Move.sound`, `Admit.sound`: every move keeps it.
* `Move.fifo` says the queue of waiting jobs is a `Fifo`, so the equation of the
  library is the service discipline of this one.
* `Move.active_le`: only admission makes more jobs active.
-/

namespace VibeVoice

/-- How far the process task of the current job is: it may still act, it has
been asked to stop, or it is done. -/
inductive Phase where
  | live
  | silenced
  | landed
  deriving DecidableEq, Repr

/-- The abstract state.  Jobs are named by `ι`. -/
structure Lifecycle (ι : Type) where
  capacity : ℕ
  status : ι → JobStatus
  reserved : List ι
  jobs : List ι
  pending : List ι
  timers : List ι
  current : Option (ι × Phase)
  submitted : List ι
  handed : List ι
  withdrawn : List ι

namespace Lifecycle

variable {ι : Type} [DecidableEq ι]

/-- The number of tracked jobs that are not over. -/
def active (c : Lifecycle ι) : ℕ := c.jobs.countP fun id => (c.status id).isActive

/-- The jobs that are waiting, in the order in which they will be served. -/
def waiting (c : Lifecycle ι) : List ι := c.pending.filter fun id => c.status id = .queued

/-- The waiting jobs as a single server queue. -/
def fifo (c : Lifecycle ι) : Fifo ι := ⟨c.submitted, c.withdrawn, c.handed, c.waiting⟩

/-- Admission: a fresh job takes a slot. -/
inductive Admit : Lifecycle ι → Lifecycle ι → Prop
  | reserve (c : Lifecycle ι) (id : ι) (hid : id ∉ c.reserved) (hcap : c.active < c.capacity) :
      Admit c { c with
        status := Function.update c.status id .uploading
        reserved := c.reserved ++ [id]
        jobs := c.jobs ++ [id] }

/-- The phase of the current job after `id` was told to stop. -/
def silence (id : ι) : Option (ι × Phase) → Option (ι × Phase)
  | some (j, .live) => if j = id then some (j, .silenced) else some (j, .live)
  | other => other

/-- Everything else that can happen. -/
inductive Move : Lifecycle ι → Lifecycle ι → Prop
  /-- An uploaded job joins the queue. -/
  | submit (c : Lifecycle ι) (id : ι) (hid : id ∈ c.jobs) (hst : c.status id = .uploading) :
      Move c { c with
        status := Function.update c.status id .queued
        pending := c.pending ++ [id]
        submitted := c.submitted ++ [id] }
  /-- A job that is not over is cancelled, wherever it is. -/
  | cancel (c : Lifecycle ι) (id : ι) (timers : List ι) (hid : id ∈ c.jobs)
      (hst : (c.status id).isTerminal = false)
      (htimers : ∀ j ∈ timers, j ∈ c.timers ∨ j = id) :
      Move c { c with
        status := Function.update c.status id .cancelled
        timers := timers
        current := silence id c.current
        withdrawn := if c.status id = .queued then c.withdrawn ++ [id] else c.withdrawn }
  /-- The front of `_pending` is dropped: the job was cancelled, or is gone. -/
  | skip (c : Lifecycle ι) (id : ι) (rest : List ι) (hq : c.pending = id :: rest)
      (hid : id ∉ c.jobs ∨ c.status id = .cancelled) :
      Move c { c with pending := rest }
  /-- The front of `_pending` is handed to the process function. -/
  | start (c : Lifecycle ι) (id : ι) (rest : List ι) (hq : c.pending = id :: rest)
      (hid : id ∈ c.jobs) (hst : c.status id ≠ .cancelled) (hcur : c.current = none) :
      Move c { c with
        status := Function.update c.status id .processing
        pending := rest
        current := some (id, .live)
        handed := c.handed ++ [id] }
  /-- The current job has its first chunk. -/
  | stream (c : Lifecycle ι) (id : ι) (hcur : c.current = some (id, .live)) :
      Move c { c with status := Function.update c.status id .streaming }
  /-- The process task of the current job is told to stop, or ends. -/
  | advance (c : Lifecycle ι) (id : ι) (p q : Phase) (hcur : c.current = some (id, p))
      (hq : q = .live → p = .live) :
      Move c { c with current := some (id, q) }
  /-- The current job is over. -/
  | finish (c : Lifecycle ι) (id : ι) (v : JobStatus) (timers : List ι)
      (hcur : c.current = some (id, .landed)) (hv : v.isTerminal = true)
      (htimers : ∀ j ∈ timers, j ∈ c.timers ∨ j = id) :
      Move c { c with
        status := Function.update c.status id v
        timers := timers
        current := none }
  /-- A cleanup timer forgets its job. -/
  | forget (c : Lifecycle ι) (id : ι) (hid : id ∈ c.timers) :
      Move c { c with jobs := c.jobs.erase id, timers := c.timers.erase id }
  /-- The cleanup timers are cancelled. -/
  | disarm (c : Lifecycle ι) : Move c { c with timers := [] }
  /-- Nothing that matters here. -/
  | stutter (c : Lifecycle ι) : Move c c

/-- **The invariant.** -/
structure Sound (c : Lifecycle ι) : Prop where
  /-- `_jobs` is a dictionary. -/
  jobs_nodup : c.jobs.Nodup
  /-- Only reserved jobs are tracked. -/
  jobs_reserved : ∀ id ∈ c.jobs, id ∈ c.reserved
  /-- A job leaves `_jobs` only when it is over. -/
  tracked : ∀ id ∈ c.reserved, (c.status id).isTerminal = false → id ∈ c.jobs
  /-- A job that was never reserved is untouched. -/
  untouched : ∀ id, id ∉ c.reserved → c.status id = .uploading
  /-- Only reserved jobs were submitted. -/
  submitted_reserved : ∀ id ∈ c.submitted, id ∈ c.reserved
  /-- A submitted job is not uploading any more. -/
  submitted_status : ∀ id ∈ c.submitted, c.status id ≠ .uploading
  /-- `_pending` holds submitted jobs. -/
  pending_submitted : ∀ id ∈ c.pending, id ∈ c.submitted
  /-- `_pending` holds each id once. -/
  pending_nodup : c.pending.Nodup
  /-- What is in `_pending` waits, or was cancelled while it waited. -/
  pending_status : ∀ id ∈ c.pending, c.status id = .queued ∨ c.status id = .cancelled
  /-- What waits is in `_pending`. -/
  queued_pending : ∀ id, c.status id = .queued → id ∈ c.pending
  /-- A running job is the current one. -/
  running_current : ∀ id, (c.status id).isRunning = true → ∃ p, c.current = some (id, p)
  /-- The current job is running, or was cancelled while it ran. -/
  current_status : ∀ id p, c.current = some (id, p) →
    (c.status id).isRunning = true ∨ c.status id = .cancelled
  /-- The current job has left `_pending`. -/
  current_pending : ∀ id p, c.current = some (id, p) → id ∉ c.pending
  /-- As long as its process task may act, the current job runs. -/
  live_running : ∀ id, c.current = some (id, .live) → (c.status id).isRunning = true
  /-- Only jobs that are over have a cleanup timer. -/
  timers_terminal : ∀ id ∈ c.timers, (c.status id).isTerminal = true
  /-- The bound on active jobs. -/
  active_le : c.active ≤ c.capacity
  /-- First come, first served. -/
  orderly : c.fifo.Orderly

variable {c c' : Lifecycle ι}

/-! ## The scale of statuses

Every argument about what a move can undo goes through `Move.stage_le`: no job
ever moves down the scale `uploading`, `queued`, running, over. -/

/-- What is at the front of `_pending` and may be started is waiting. -/
theorem Sound.queued_of_mem_pending (hs : Sound c) {id : ι} (h : id ∈ c.pending)
    (hst : c.status id ≠ .cancelled) : c.status id = .queued :=
  (hs.pending_status id h).resolve_right hst

/-- An uploading job is not in `_pending`. -/
theorem Sound.not_pending_of_uploading (hs : Sound c) {id : ι}
    (hst : c.status id = .uploading) : id ∉ c.pending := fun h =>
  hs.submitted_status id (hs.pending_submitted id h) hst

/-- The current job has been reserved. -/
theorem Sound.current_reserved (hs : Sound c) {id : ι} {p : Phase}
    (h : c.current = some (id, p)) : id ∈ c.reserved := by
  by_contra hid
  have hup := hs.untouched id hid
  rcases hs.current_status id p h with hst | hst <;> rw [hup] at hst <;>
    exact absurd hst (by decide)

/-- A job that is dropped from the front of `_pending` was cancelled. -/
theorem Sound.cancelled_of_skip (hs : Sound c) {id : ι} (hp : id ∈ c.pending)
    (hid : id ∉ c.jobs ∨ c.status id = .cancelled) : c.status id = .cancelled := by
  rcases hid with hid | hid
  · by_contra hne
    have hq := hs.queued_of_mem_pending hp hne
    have hres := hs.submitted_reserved id (hs.pending_submitted id hp)
    exact hid (hs.tracked id hres (by rw [hq]; rfl))
  · exact hid

/-- Telling a job to stop does not change which job is the current one. -/
theorem eq_of_silence {id j : ι} {p : Phase} {cur : Option (ι × Phase)}
    (h : silence id cur = some (j, p)) :
    ∃ q, cur = some (j, q) ∧ (p = .live → q = .live ∧ j ≠ id) := by
  match cur, h with
  | none, h => exact absurd h (by simp [silence])
  | some (k, .live), h =>
    simp only [silence] at h
    split at h
    · rename_i hk
      simp only [Option.some.injEq, Prod.mk.injEq] at h
      exact ⟨.live, by rw [h.1], fun hp => absurd (h.2.trans hp) (by decide)⟩
    · rename_i hk
      simp only [Option.some.injEq, Prod.mk.injEq] at h
      exact ⟨.live, by rw [h.1], fun _ => ⟨rfl, h.1 ▸ hk⟩⟩
  | some (k, .silenced), h =>
    simp only [silence, Option.some.injEq, Prod.mk.injEq] at h
    exact ⟨.silenced, by rw [h.1], fun hp => absurd (h.2.trans hp) (by decide)⟩
  | some (k, .landed), h =>
    simp only [silence, Option.some.injEq, Prod.mk.injEq] at h
    exact ⟨.landed, by rw [h.1], fun hp => absurd (h.2.trans hp) (by decide)⟩

theorem exists_silence {id j : ι} {p : Phase} {cur : Option (ι × Phase)}
    (h : cur = some (j, p)) : ∃ q, silence id cur = some (j, q) := by
  subst h
  cases p with
  | live =>
    by_cases hj : j = id
    · exact ⟨.silenced, by simp [silence, hj]⟩
    · exact ⟨.live, by simp [silence, hj]⟩
  | silenced => exact ⟨.silenced, rfl⟩
  | landed => exact ⟨.landed, rfl⟩

/-- **No move takes a job back.** -/
theorem Move.stage_le (h : Move c c') (hs : Sound c) (j : ι) :
    (c.status j).stage ≤ (c'.status j).stage := by
  have key : ∀ (id : ι) (v : JobStatus), (c.status id).stage ≤ v.stage →
      (c.status j).stage ≤ (Function.update c.status id v j).stage := by
    intro id v hv
    by_cases hj : j = id
    · rw [hj, Function.update_self]
      exact hv
    · exact Nat.le_of_eq (by rw [Function.update_of_ne hj])
  cases h with
  | submit id hid hst => exact key id _ (by rw [hst]; decide)
  | cancel id timers hid hst ht => exact key id _ (JobStatus.stage_le _)
  | start id rest hq hid hst hcur =>
    have hmem : id ∈ c.pending := by rw [hq]; exact List.mem_cons_self
    exact key id _ (by rw [hs.queued_of_mem_pending hmem hst]; decide)
  | stream id hcur =>
    have hrun := JobStatus.stage_eq_two.mpr (hs.live_running id hcur)
    exact key id _ (by rw [hrun]; decide)
  | finish id v timers hcur hv ht =>
    exact key id _ (by rw [JobStatus.stage_eq_three.mpr hv]; exact JobStatus.stage_le _)
  | skip | advance | forget | disarm | stutter => exact Nat.le_refl _

/-- **What is over stays over.** -/
theorem Move.isTerminal (h : Move c c') (hs : Sound c) {j : ι}
    (hj : (c.status j).isTerminal = true) : (c'.status j).isTerminal = true := by
  rw [← JobStatus.stage_eq_three] at hj ⊢
  have h₁ := h.stage_le hs j
  have h₂ := JobStatus.stage_le (c'.status j)
  omega

theorem Move.isTerminal_false (h : Move c c') (hs : Sound c) {j : ι}
    (hj : (c'.status j).isTerminal = false) : (c.status j).isTerminal = false := by
  cases ht : (c.status j).isTerminal with
  | false => rfl
  | true => rw [h.isTerminal hs ht] at hj; exact absurd hj (by decide)

/-- **Only admission makes more jobs active.** -/
theorem Move.active_le (h : Move c c') (hs : Sound c) : c'.active ≤ c.active := by
  have hmono : ∀ l : List ι, l.countP (fun id => (c'.status id).isActive) ≤
      l.countP (fun id => (c.status id).isActive) := by
    intro l
    refine List.countP_mono_left fun j _ hj => ?_
    simp only [JobStatus.isActive_eq, Bool.not_eq_true'] at hj ⊢
    exact h.isTerminal_false hs hj
  have hjobs : c'.jobs.countP (fun id => (c.status id).isActive) ≤ c.active := by
    cases h with
    | forget id hid => exact List.erase_sublist.countP_le
    | submit | cancel | skip | start | stream | advance | finish | disarm | stutter =>
      exact Nat.le_refl _
  exact Nat.le_trans (hmono c'.jobs) hjobs

/-! ## First come, first served -/

/-- The waiting jobs of a list do not change when the status of a job outside it
does. -/
theorem filter_queued_update {status : ι → JobStatus} {id : ι} {v : JobStatus} {l : List ι}
    (h : id ∉ l) : l.filter (fun j => Function.update status id v j = .queued) =
      l.filter (fun j => status j = .queued) := by
  refine List.filter_congr fun j hj => ?_
  have hne : j ≠ id := fun e => h (e ▸ hj)
  rw [Function.update_of_ne hne]

/-- **The waiting jobs are a first come, first served queue**: submitting is
arriving, cancelling a waiting job is withdrawing, starting one is serving, and
nothing else touches the queue. -/
theorem Move.fifo (h : Move c c') (hs : Sound c) :
    c'.fifo = c.fifo ∨ Fifo.Step c.fifo c'.fifo := by
  cases h with
  | submit id hid hst =>
    right
    have hstep := Fifo.Step.arrive c.fifo id fun h => hs.submitted_status id h hst
    simpa [Lifecycle.fifo, waiting, List.filter_append,
      filter_queued_update (hs.not_pending_of_uploading hst)] using hstep
  | cancel id timers hid hst ht =>
    by_cases hq : c.status id = .queued
    · right
      have hmem : id ∈ c.waiting := by simp [waiting, hq, hs.queued_pending id hq]
      have hstep := Fifo.Step.withdraw c.fifo id hmem
      have hwait : c.pending.filter
          (fun j => Function.update c.status id .cancelled j = .queued) =
          c.waiting.filter (fun j => j ≠ id) := by
        rw [waiting, List.filter_filter]
        refine List.filter_congr fun j _ => ?_
        by_cases hj : j = id <;> simp [hj]
      simp only [Lifecycle.fifo, waiting, hq, if_true] at hstep ⊢
      rw [hwait]
      exact hstep
    · left
      have hpend : id ∉ c.pending := by
        intro hp
        rcases hs.pending_status id hp with h | h
        · exact hq h
        · rw [h] at hst; exact absurd hst (by decide)
      simp only [Lifecycle.fifo, waiting, if_neg hq, filter_queued_update hpend]
  | skip id rest hq hid =>
    left
    have hmem : id ∈ c.pending := by rw [hq]; exact List.mem_cons_self
    simp [Lifecycle.fifo, waiting, hq, hs.cancelled_of_skip hmem hid]
  | start id rest hq hid hst hcur =>
    right
    have hmem : id ∈ c.pending := by rw [hq]; exact List.mem_cons_self
    have hnot : id ∉ rest := by
      have hnd := hs.pending_nodup
      rw [hq] at hnd
      exact (List.nodup_cons.mp hnd).1
    have hwait : c.waiting = id :: rest.filter (fun j => c.status j = .queued) := by
      simp [waiting, hq, hs.queued_of_mem_pending hmem hst]
    have hstep := Fifo.Step.serve c.fifo id _ hwait
    simpa only [Lifecycle.fifo, waiting, filter_queued_update hnot] using hstep
  | stream id hcur =>
    left
    simp only [Lifecycle.fifo, waiting, filter_queued_update (hs.current_pending id _ hcur)]
  | finish id v timers hcur hv ht =>
    left
    simp only [Lifecycle.fifo, waiting, filter_queued_update (hs.current_pending id _ hcur)]
  | advance | forget | disarm | stutter => exact Or.inl rfl

/-! ## Every move keeps the invariant -/

theorem Move.jobs_nodup (h : Move c c') (hs : Sound c) : c'.jobs.Nodup := by
  cases h with
  | forget id hid => exact hs.jobs_nodup.erase id
  | submit | cancel | skip | start | stream | advance | finish | disarm | stutter =>
    exact hs.jobs_nodup

theorem Move.jobs_reserved (h : Move c c') (hs : Sound c) :
    ∀ id ∈ c'.jobs, id ∈ c'.reserved := by
  cases h with
  | forget id hid => exact fun j hj => hs.jobs_reserved j (List.mem_of_mem_erase hj)
  | submit | cancel | skip | start | stream | advance | finish | disarm | stutter =>
    exact hs.jobs_reserved

theorem Move.tracked (h : Move c c') (hs : Sound c) :
    ∀ id ∈ c'.reserved, (c'.status id).isTerminal = false → id ∈ c'.jobs := by
  intro j hj hst
  have hold := h.isTerminal_false hs hst
  cases h with
  | forget id hid =>
    have hne : j ≠ id := by
      rintro rfl
      rw [hs.timers_terminal j hid] at hold
      exact absurd hold (by decide)
    exact (List.mem_erase_of_ne hne).mpr (hs.tracked j hj hold)
  | submit | cancel | skip | start | stream | advance | finish | disarm | stutter =>
    exact hs.tracked j hj hold

/-- A status that changes is the status of a reserved job. -/
theorem Move.status_of_not_reserved (h : Move c c') (hs : Sound c) {j : ι}
    (hj : j ∉ c.reserved) : c'.status j = c.status j := by
  have key : ∀ (id : ι) (v : JobStatus), id ∈ c.reserved →
      Function.update c.status id v j = c.status j := by
    intro id v hid
    have hne : j ≠ id := fun e => hj (e ▸ hid)
    rw [Function.update_of_ne hne]
  cases h with
  | submit id hid hst => exact key id _ (hs.jobs_reserved id hid)
  | cancel id timers hid hst ht => exact key id _ (hs.jobs_reserved id hid)
  | start id rest hq hid hst hcur => exact key id _ (hs.jobs_reserved id hid)
  | stream id hcur => exact key id _ (hs.current_reserved hcur)
  | finish id v timers hcur hv ht => exact key id _ (hs.current_reserved hcur)
  | skip | advance | forget | disarm | stutter => rfl

theorem Move.reserved_eq (h : Move c c') : c'.reserved = c.reserved := by
  cases h <;> rfl

theorem Move.untouched (h : Move c c') (hs : Sound c) :
    ∀ id, id ∉ c'.reserved → c'.status id = .uploading := by
  intro j hj
  rw [h.reserved_eq] at hj
  rw [h.status_of_not_reserved hs hj]
  exact hs.untouched j hj

/-- A submission is by a tracked, uploading job; nothing else is recorded as
one. -/
theorem Move.mem_submitted (h : Move c c') {j : ι} (hj : j ∈ c'.submitted) :
    j ∈ c.submitted ∨ (j ∈ c.jobs ∧ c'.status j = .queued) := by
  cases h with
  | submit id hid hst =>
    rcases List.mem_append.mp hj with hj | hj
    · exact Or.inl hj
    · rw [List.mem_singleton.mp hj]
      exact Or.inr ⟨hid, Function.update_self ..⟩
  | cancel | skip | start | stream | advance | finish | forget | disarm | stutter =>
    exact Or.inl hj

theorem Move.submitted_reserved (h : Move c c') (hs : Sound c) :
    ∀ id ∈ c'.submitted, id ∈ c'.reserved := by
  intro j hj
  rw [h.reserved_eq]
  rcases h.mem_submitted hj with hj | hj
  · exact hs.submitted_reserved j hj
  · exact hs.jobs_reserved j hj.1

theorem Move.submitted_status (h : Move c c') (hs : Sound c) :
    ∀ id ∈ c'.submitted, c'.status id ≠ .uploading := by
  intro j hj hst
  rcases h.mem_submitted hj with hj | hj
  · have hle := h.stage_le hs j
    rw [JobStatus.stage_eq_zero.mpr hst, Nat.le_zero, JobStatus.stage_eq_zero] at hle
    exact hs.submitted_status j hj hle
  · rw [hst] at hj
    exact absurd hj.2 (by decide)

/-- What is in `_pending` after a move was there before, with its status
untouched unless it was cancelled, or has just been submitted. -/
theorem Move.mem_pending (h : Move c c') (hs : Sound c) {j : ι} (hj : j ∈ c'.pending) :
    (j ∈ c.pending ∧ (c'.status j = c.status j ∨ c'.status j = .cancelled)) ∨
      (c'.status j = .queued ∧ j ∈ c'.submitted) := by
  cases h with
  | submit id hid hst =>
    rcases List.mem_append.mp hj with hj | hj
    · have hne : j ≠ id := fun e => hs.not_pending_of_uploading hst (e ▸ hj)
      exact Or.inl ⟨hj, Or.inl (Function.update_of_ne hne _ _)⟩
    · rw [List.mem_singleton.mp hj]
      exact Or.inr ⟨Function.update_self .., List.mem_append_right _ (List.mem_singleton_self _)⟩
  | cancel id timers hid hst ht =>
    refine Or.inl ⟨hj, ?_⟩
    by_cases hji : j = id
    · exact Or.inr (by rw [hji]; exact Function.update_self ..)
    · exact Or.inl (Function.update_of_ne hji _ _)
  | skip id rest hq hid =>
    exact Or.inl ⟨by rw [hq]; exact List.mem_cons_of_mem _ hj, Or.inl rfl⟩
  | start id rest hq hid hst hcur =>
    have hnd := hs.pending_nodup
    rw [hq] at hnd
    have hne : j ≠ id := fun e => (List.nodup_cons.mp hnd).1 (e ▸ hj)
    exact Or.inl ⟨by rw [hq]; exact List.mem_cons_of_mem _ hj,
      Or.inl (Function.update_of_ne hne _ _)⟩
  | stream id hcur =>
    have hne : j ≠ id := fun e => hs.current_pending id _ hcur (e ▸ hj)
    exact Or.inl ⟨hj, Or.inl (Function.update_of_ne hne _ _)⟩
  | finish id v timers hcur hv ht =>
    have hne : j ≠ id := fun e => hs.current_pending id _ hcur (e ▸ hj)
    exact Or.inl ⟨hj, Or.inl (Function.update_of_ne hne _ _)⟩
  | advance | forget | disarm | stutter => exact Or.inl ⟨hj, Or.inl rfl⟩

theorem Move.pending_status (h : Move c c') (hs : Sound c) :
    ∀ id ∈ c'.pending, c'.status id = .queued ∨ c'.status id = .cancelled := by
  intro j hj
  rcases h.mem_pending hs hj with ⟨hj, hst | hst⟩ | ⟨hst, -⟩
  · rw [hst]
    exact hs.pending_status j hj
  · exact Or.inr hst
  · exact Or.inl hst

/-- Nothing is ever removed from the record of submissions. -/
theorem Move.submitted_subset (h : Move c c') {j : ι} (hj : j ∈ c.submitted) :
    j ∈ c'.submitted := by
  cases h with
  | submit id hid hst => exact List.mem_append_left _ hj
  | cancel | skip | start | stream | advance | finish | forget | disarm | stutter => exact hj

theorem Move.pending_submitted (h : Move c c') (hs : Sound c) :
    ∀ id ∈ c'.pending, id ∈ c'.submitted := by
  intro j hj
  rcases h.mem_pending hs hj with ⟨hj, -⟩ | ⟨-, hj⟩
  · exact h.submitted_subset (hs.pending_submitted j hj)
  · exact hj

theorem Move.pending_nodup (h : Move c c') (hs : Sound c) : c'.pending.Nodup := by
  cases h with
  | submit id hid hst =>
    refine List.nodup_append.mpr ⟨hs.pending_nodup, List.nodup_singleton id, ?_⟩
    intro j hj k hk hjk
    rw [List.mem_singleton.mp hk] at hjk
    exact hs.not_pending_of_uploading hst (hjk ▸ hj)
  | skip id rest hq hid =>
    have hnd := hs.pending_nodup
    rw [hq] at hnd
    exact (List.nodup_cons.mp hnd).2
  | start id rest hq hid hst hcur =>
    have hnd := hs.pending_nodup
    rw [hq] at hnd
    exact (List.nodup_cons.mp hnd).2
  | cancel | stream | advance | finish | forget | disarm | stutter => exact hs.pending_nodup

theorem Move.queued_pending (h : Move c c') (hs : Sound c) :
    ∀ id, c'.status id = .queued → id ∈ c'.pending := by
  intro j hj
  cases h with
  | submit id hid hst =>
    by_cases hji : j = id
    · rw [hji]
      exact List.mem_append_right _ (List.mem_singleton_self _)
    · simp only [Function.update_of_ne hji] at hj
      exact List.mem_append_left _ (hs.queued_pending j hj)
  | cancel id timers hid hst ht =>
    by_cases hji : j = id
    · simp [hji] at hj
    · simp only [Function.update_of_ne hji] at hj
      exact hs.queued_pending j hj
  | skip id rest hq hid =>
    have hmem := hs.queued_pending j hj
    rw [hq] at hmem
    rcases List.mem_cons.mp hmem with rfl | hmem
    · have hc := hs.cancelled_of_skip (by rw [hq]; exact List.mem_cons_self) hid
      rw [show c.status j = .queued from hj] at hc
      exact absurd hc (by decide)
    · exact hmem
  | start id rest hq hid hst hcur =>
    by_cases hji : j = id
    · simp [hji] at hj
    · simp only [Function.update_of_ne hji] at hj
      have hmem := hs.queued_pending j hj
      rw [hq] at hmem
      exact (List.mem_cons.mp hmem).resolve_left hji
  | stream id hcur =>
    by_cases hji : j = id
    · simp [hji] at hj
    · simp only [Function.update_of_ne hji] at hj
      exact hs.queued_pending j hj
  | finish id v timers hcur hv ht =>
    by_cases hji : j = id
    · simp only [hji, Function.update_self] at hj
      rw [hj] at hv
      exact absurd hv (by decide)
    · simp only [Function.update_of_ne hji] at hj
      exact hs.queued_pending j hj
  | advance | forget | disarm | stutter => exact hs.queued_pending j hj

theorem Move.running_current (h : Move c c') (hs : Sound c) :
    ∀ id, (c'.status id).isRunning = true → ∃ p, c'.current = some (id, p) := by
  intro j hj
  cases h with
  | submit id hid hst =>
    by_cases hji : j = id
    · simp [hji, JobStatus.isRunning] at hj
    · simp only [Function.update_of_ne hji] at hj
      exact hs.running_current j hj
  | cancel id timers hid hst ht =>
    by_cases hji : j = id
    · simp [hji, JobStatus.isRunning] at hj
    · simp only [Function.update_of_ne hji] at hj
      obtain ⟨p, hp⟩ := hs.running_current j hj
      exact exists_silence hp
  | start id rest hq hid hst hcur =>
    by_cases hji : j = id
    · exact ⟨.live, by rw [hji]⟩
    · simp only [Function.update_of_ne hji] at hj
      obtain ⟨p, hp⟩ := hs.running_current j hj
      rw [hcur] at hp
      exact absurd hp (by simp)
  | stream id hcur =>
    by_cases hji : j = id
    · exact ⟨.live, by rw [hji]; exact hcur⟩
    · simp only [Function.update_of_ne hji] at hj
      exact hs.running_current j hj
  | advance id p q hcur hq =>
    obtain ⟨p', hp'⟩ := hs.running_current j hj
    rw [hcur, Option.some.injEq, Prod.mk.injEq] at hp'
    exact ⟨q, by rw [hp'.1]⟩
  | finish id v timers hcur hv ht =>
    by_cases hji : j = id
    · simp only [hji, Function.update_self] at hj
      rw [JobStatus.isTerminal_of_isRunning hj] at hv
      exact absurd hv (by decide)
    · simp only [Function.update_of_ne hji] at hj
      obtain ⟨p, hp⟩ := hs.running_current j hj
      rw [hcur, Option.some.injEq, Prod.mk.injEq] at hp
      exact absurd hp.1.symm hji
  | skip | forget | disarm | stutter => exact hs.running_current j hj

theorem Move.current_status (h : Move c c') (hs : Sound c) :
    ∀ id p, c'.current = some (id, p) →
      (c'.status id).isRunning = true ∨ c'.status id = .cancelled := by
  intro j p hj
  cases h with
  | submit id hid hst =>
    have hold := hs.current_status j p hj
    have hji : j ≠ id := by
      rintro rfl
      rw [hst] at hold
      exact absurd hold (by decide)
    simpa only [Function.update_of_ne hji] using hold
  | cancel id timers hid hst ht =>
    obtain ⟨q, hq, -⟩ := eq_of_silence hj
    by_cases hji : j = id
    · exact Or.inr (by rw [hji]; exact Function.update_self ..)
    · simpa only [Function.update_of_ne hji] using hs.current_status j q hq
  | start id rest hq hid hst hcur =>
    simp only [Option.some.injEq, Prod.mk.injEq] at hj
    rw [← hj.1]
    exact Or.inl (by simp [JobStatus.isRunning])
  | stream id hcur =>
    rw [show c.current = some (j, p) from hj, Option.some.injEq, Prod.mk.injEq] at hcur
    rw [hcur.1]
    exact Or.inl (by simp [JobStatus.isRunning])
  | advance id p q hcur hq =>
    simp only [Option.some.injEq, Prod.mk.injEq] at hj
    rw [← hj.1]
    exact hs.current_status id p hcur
  | finish id v timers hcur hv ht => exact absurd hj (by simp)
  | skip | forget | disarm | stutter => exact hs.current_status j p hj

theorem Move.current_pending (h : Move c c') (hs : Sound c) :
    ∀ id p, c'.current = some (id, p) → id ∉ c'.pending := by
  intro j p hj hmem
  cases h with
  | submit id hid hst =>
    rcases List.mem_append.mp hmem with hmem | hmem
    · exact hs.current_pending j p hj hmem
    · have hold := hs.current_status j p hj
      rw [List.mem_singleton.mp hmem, hst] at hold
      exact absurd hold (by decide)
  | cancel id timers hid hst ht =>
    obtain ⟨q, hq, -⟩ := eq_of_silence hj
    exact hs.current_pending j q hq hmem
  | skip id rest hq hid =>
    exact hs.current_pending j p hj (by rw [hq]; exact List.mem_cons_of_mem _ hmem)
  | start id rest hq hid hst hcur =>
    simp only [Option.some.injEq, Prod.mk.injEq] at hj
    have hnd := hs.pending_nodup
    rw [hq] at hnd
    exact (List.nodup_cons.mp hnd).1 (hj.1 ▸ hmem)
  | advance id p q hcur hq =>
    simp only [Option.some.injEq, Prod.mk.injEq] at hj
    exact hs.current_pending id p hcur (hj.1 ▸ hmem)
  | finish id v timers hcur hv ht => exact absurd hj (by simp)
  | stream | forget | disarm | stutter => exact hs.current_pending j p hj hmem

theorem Move.live_running (h : Move c c') (hs : Sound c) :
    ∀ id, c'.current = some (id, .live) → (c'.status id).isRunning = true := by
  intro j hj
  cases h with
  | submit id hid hst =>
    have hold := hs.live_running j hj
    have hji : j ≠ id := by
      rintro rfl
      rw [hst] at hold
      exact absurd hold (by decide)
    simpa only [Function.update_of_ne hji] using hold
  | cancel id timers hid hst ht =>
    obtain ⟨q, hq, hlive⟩ := eq_of_silence hj
    obtain ⟨rfl, hji⟩ := hlive rfl
    simpa only [Function.update_of_ne hji] using hs.live_running j hq
  | start id rest hq hid hst hcur =>
    simp only [Option.some.injEq, Prod.mk.injEq] at hj
    rw [← hj.1]
    simp [JobStatus.isRunning]
  | stream id hcur =>
    rw [show c.current = some (j, .live) from hj, Option.some.injEq, Prod.mk.injEq] at hcur
    rw [hcur.1]
    simp [JobStatus.isRunning]
  | advance id p q hcur hq =>
    simp only [Option.some.injEq, Prod.mk.injEq] at hj
    rw [← hj.1]
    exact hs.live_running id (by rw [hcur, hq hj.2])
  | finish id v timers hcur hv ht => exact absurd hj (by simp)
  | skip | forget | disarm | stutter => exact hs.live_running j hj

theorem Move.timers_terminal (h : Move c c') (hs : Sound c) :
    ∀ id ∈ c'.timers, (c'.status id).isTerminal = true := by
  intro j hj
  have hkeep : j ∈ c.timers → (c'.status j).isTerminal = true := fun hj =>
    h.isTerminal hs (hs.timers_terminal j hj)
  cases h with
  | cancel id timers hid hst ht =>
    rcases ht j hj with hj | rfl
    · exact hkeep hj
    · simp [JobStatus.isTerminal]
  | finish id v timers hcur hv ht =>
    rcases ht j hj with hj | rfl
    · exact hkeep hj
    · simpa using hv
  | forget id hid => exact hkeep (List.mem_of_mem_erase hj)
  | disarm => exact absurd hj (by simp)
  | submit | skip | start | stream | advance | stutter => exact hkeep hj

/-- The bound is fixed. -/
theorem Move.capacity_eq (h : Move c c') : c'.capacity = c.capacity := by
  cases h <;> rfl

/-- **Every move keeps the invariant.** -/
theorem Move.sound (h : Move c c') (hs : Sound c) : Sound c' where
  jobs_nodup := h.jobs_nodup hs
  jobs_reserved := h.jobs_reserved hs
  tracked := h.tracked hs
  untouched := h.untouched hs
  submitted_reserved := h.submitted_reserved hs
  submitted_status := h.submitted_status hs
  pending_submitted := h.pending_submitted hs
  pending_nodup := h.pending_nodup hs
  pending_status := h.pending_status hs
  queued_pending := h.queued_pending hs
  running_current := h.running_current hs
  current_status := h.current_status hs
  current_pending := h.current_pending hs
  live_running := h.live_running hs
  timers_terminal := h.timers_terminal hs
  active_le := by
    rw [h.capacity_eq]
    exact Nat.le_trans (h.active_le hs) hs.active_le
  orderly := by
    rcases h.fifo hs with heq | hstep
    · rw [heq]
      exact hs.orderly
    · exact hstep.orderly hs.orderly

/-- Several moves. -/
abbrev Moves : Lifecycle ι → Lifecycle ι → Prop := Relation.ReflTransGen Move

theorem Moves.sound (h : Moves c c') (hs : Sound c) : Sound c' := by
  induction h with
  | refl => exact hs
  | tail _ hm ih => exact hm.sound ih

theorem Moves.capacity_eq (h : Moves c c') : c'.capacity = c.capacity := by
  induction h with
  | refl => rfl
  | tail _ hm ih => rw [hm.capacity_eq, ih]

theorem Moves.stage_le (h : Moves c c') (hs : Sound c) (j : ι) :
    (c.status j).stage ≤ (c'.status j).stage := by
  induction h with
  | refl => exact Nat.le_refl _
  | tail h hm ih => exact Nat.le_trans ih (hm.stage_le (Moves.sound h hs) j)

/-- **What is over stays over.** -/
theorem Moves.isTerminal (h : Moves c c') (hs : Sound c) {j : ι}
    (hj : (c.status j).isTerminal = true) : (c'.status j).isTerminal = true := by
  induction h with
  | refl => exact hj
  | tail h hm ih => exact hm.isTerminal (Moves.sound h hs) ih

/-- **Only admission makes more jobs active.** -/
theorem Moves.active_le (h : Moves c c') (hs : Sound c) : c'.active ≤ c.active := by
  induction h with
  | refl => exact Nat.le_refl _
  | tail h hm ih => exact Nat.le_trans (hm.active_le (Moves.sound h hs)) ih

/-- What waits is waiting in `_pending`. -/
theorem Sound.mem_waiting (hs : Sound c) {id : ι} (hid : c.status id = .queued) :
    id ∈ c.waiting := by
  simp [waiting, hs.queued_pending id hid, hid]

/-- **No waiting job moves back.** -/
theorem Move.waiting_idxOf_le (h : Move c c') (hs : Sound c) {id : ι}
    (hid : c.status id = .queued) (hid' : c'.status id = .queued) :
    c'.waiting.idxOf id ≤ c.waiting.idxOf id := by
  rcases h.fifo hs with heq | hstep
  · exact Nat.le_of_eq (by rw [show c'.waiting = c.waiting from congrArg Fifo.waiting heq])
  · exact hstep.idxOf_le hs.orderly (hs.mem_waiting hid) ((h.sound hs).mem_waiting hid')

/-- The same over several moves.  Between two states in which the job waits it
waits, since it never moves down the scale. -/
theorem Moves.waiting_idxOf_le (h : Moves c c') (hs : Sound c) {id : ι}
    (hid : c.status id = .queued) (hid' : c'.status id = .queued) :
    c'.waiting.idxOf id ≤ c.waiting.idxOf id := by
  induction h with
  | refl => exact Nat.le_refl _
  | @tail b d h hm ih =>
    have hsb := Moves.sound h hs
    have hle := Moves.stage_le h hs id
    have hle' := hm.stage_le hsb id
    rw [hid, show JobStatus.queued.stage = 1 from rfl] at hle
    rw [hid', show JobStatus.queued.stage = 1 from rfl] at hle'
    have hb : b.status id = .queued := JobStatus.stage_eq_one.mp (Nat.le_antisymm hle' hle)
    exact Nat.le_trans (hm.waiting_idxOf_le hsb hb hid') (ih hb)

/-! ## Admission -/

/-- Admitting a job changes no status: a fresh job is `UPLOADING` already. -/
theorem Admit.status_eq (h : Admit c c') (hs : Sound c) : c'.status = c.status := by
  cases h with
  | reserve id hid hcap => exact Function.update_eq_self_iff.mpr (hs.untouched id hid).symm

/-- Nor does it change who waits. -/
theorem Admit.waiting_eq (h : Admit c c') (hs : Sound c) : c'.waiting = c.waiting := by
  have hstatus := h.status_eq hs
  cases h with
  | reserve id hid hcap =>
    simp only at hstatus
    simp only [waiting, hstatus]

theorem Admit.capacity_eq (h : Admit c c') : c'.capacity = c.capacity := by
  cases h with
  | reserve id hid hcap => rfl

/-- **Admission keeps the invariant.** -/
theorem Admit.sound (h : Admit c c') (hs : Sound c) : Sound c' := by
  have hstatus := h.status_eq hs
  cases h with
  | reserve id hid hcap =>
    simp only at hstatus
    rw [hstatus]
    have hjobs : id ∉ c.jobs := fun h => hid (hs.jobs_reserved id h)
    refine
      { hs with
        jobs_nodup := ?_
        jobs_reserved := ?_
        tracked := ?_
        untouched := ?_
        submitted_reserved := ?_
        active_le := ?_
        orderly := hs.orderly }
    · refine List.nodup_append.mpr ⟨hs.jobs_nodup, List.nodup_singleton id, ?_⟩
      intro j hj k hk hjk
      rw [List.mem_singleton.mp hk] at hjk
      exact hjobs (hjk ▸ hj)
    · intro j hj
      rcases List.mem_append.mp hj with hj | hj
      · exact List.mem_append_left _ (hs.jobs_reserved j hj)
      · exact List.mem_append_right _ hj
    · intro j hj hst
      rcases List.mem_append.mp hj with hj | hj
      · exact List.mem_append_left _ (hs.tracked j hj hst)
      · exact List.mem_append_right _ hj
    · exact fun j hj => hs.untouched j fun h => hj (List.mem_append_left _ h)
    · exact fun j hj => List.mem_append_left _ (hs.submitted_reserved j hj)
    · show (c.jobs ++ [id]).countP _ ≤ c.capacity
      rw [List.countP_append, List.countP_singleton, hs.untouched id hid]
      exact hcap

/-- The state before anything was reserved. -/
def initial (capacity : ℕ) : Lifecycle ι :=
  ⟨capacity, fun _ => .uploading, [], [], [], [], none, [], [], []⟩

theorem sound_initial (capacity : ℕ) : Sound (initial capacity : Lifecycle ι) where
  jobs_nodup := List.nodup_nil
  jobs_reserved := by simp [initial]
  tracked := by simp [initial]
  untouched := fun _ _ => rfl
  submitted_reserved := by simp [initial]
  submitted_status := by simp [initial]
  pending_submitted := by simp [initial]
  pending_nodup := List.nodup_nil
  pending_status := by simp [initial]
  queued_pending := fun _ h => absurd h (by simp [initial])
  running_current := fun _ h => absurd h (by simp [initial, JobStatus.isRunning])
  current_status := fun _ _ h => absurd h (by simp [initial])
  current_pending := fun _ _ h => absurd h (by simp [initial])
  live_running := fun _ h => absurd h (by simp [initial])
  timers_terminal := by simp [initial]
  active_le := Nat.zero_le _
  orderly := Fifo.orderly_empty

end Lifecycle

end VibeVoice
