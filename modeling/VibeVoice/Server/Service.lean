import VibeVoice.Server.Steps
import VibeVoice.Server.Transcribe

/-!
# Exactly once, in order, one at a time

What the queue promises about service, whatever the interleaving: handlers that
reserve, submit and cancel, the worker, the process task, `stop` and the cleanup
timers may run in any order, `os.unlink` may raise what it likes, and the process
function is any coroutine.

Everything here is read off the invariant of `Server.Refinement`; the service
discipline itself is the equation of the library for a `Fifo` of jobs.
-/

namespace VibeVoice

namespace TranscriptionQueue

variable {pf : ProcessFn} {maxSize : ℕ} {s : TranscriptionQueue pf.Frame}

/-- `enqueue` of a fresh job is a `reserve` followed by a `submit`, with no await
between them. -/
theorem run_enqueue {id : JobId} (who : String) (hid : id ∉ s.history.reserved) :
    (system pf maxSize).Run s (s.enqueue id who).2 := by
  have hreserve : (system pf maxSize).step s (.reserve id who) = some (s.reserve id who).2 :=
    if_neg hid
  by_cases hcap : s.activeCount < s.maxSize
  · rw [enqueue, reserve_of_room id who hcap]
    rw [reserve_of_room id who hcap] at hreserve
    exact (Relation.ReflTransGen.single ⟨_, trivial, hreserve⟩).tail
      ⟨.submit id, trivial, rfl⟩
  · rw [enqueue, reserve_of_full id who (Nat.le_of_not_lt hcap)]
    exact Relation.ReflTransGen.refl

/-- Two tasks that are not done are one. -/
theorem Linked.undone_unique (hl : Linked s) {t t' : TaskId} {p p' : ProcessTask pf.Frame}
    (ht : s.task t = some p) (ht' : s.task t' = some p') (hp : p.state.isDone = false)
    (hp' : p'.state.isDone = false) : t = t' := by
  obtain ⟨start, hw⟩ := hl.undone_awaited t p ht hp
  obtain ⟨start', hw'⟩ := hl.undone_awaited t' p' ht' hp'
  rw [hw, Worker.awaiting.injEq] at hw'
  exact hw'.2.1

/-- **Exactly-once service, first come first served, one job at a time.** -/
theorem exactly_once_fifo (h : (system pf maxSize).Reachable s) :
    s.pending.Nodup ∧
      (∀ id, (s.job id).status = .queued → s.pending.count id = 1) ∧
      (∀ id, (s.job id).status = .processing ∨ (s.job id).status = .streaming →
        ∃ t start, s.worker = .awaiting id t start) ∧
      (∀ t t' p p', s.task t = some p → s.task t' = some p' → p.state.isDone = false →
        p'.state.isDone = false → t = t') ∧
      s.history.handed.Nodup ∧
      s.history.handed ++ s.pending.filter (fun id => (s.job id).status = .queued) =
        s.history.submitted.filter (fun id => id ∉ s.history.withdrawn) := by
  have hc := coherent_of_reachable h
  refine ⟨hc.sound.pending_nodup, fun id hid => ?_, fun id hid => ?_, ?_, ?_, ?_⟩
  · exact List.count_eq_one_of_mem hc.sound.pending_nodup (hc.sound.queued_pending id hid)
  · refine hc.awaiting_of_isRunning ?_
    rcases hid with hid | hid <;> rw [hid] <;> rfl
  · exact fun t t' p p' => hc.linked.undone_unique
  · exact hc.sound.orderly.served_nodup
  · exact hc.sound.orderly.served_append_waiting

/-- Two uploads that end in the other order than they began. -/
theorem exactly_once_fifo_two_uploads :
    ∃ s, (system (processFn emptyListText .groq) 2).exec { maxSize := 2 }
        [.reserve "a" "x", .reserve "b" "y", .submit "b", .submit "a", .worker 0 .removed] =
          some s ∧
      s.history.handed = ["b"] ∧ s.pending = ["a"] ∧
      s.history.handed ++ s.pending.filter (fun id => (s.job id).status = .queued) =
        s.history.submitted.filter (fun id => id ∉ s.history.withdrawn) := by
  have hrun : (system (processFn emptyListText .groq) 2).exec { maxSize := 2 }
      [.reserve "a" "x", .reserve "b" "y", .submit "b", .submit "a", .worker 0 .removed] =
      some _ := rfl
  exact ⟨_, hrun, rfl, rfl,
    (exactly_once_fifo (TransitionSystem.reachable_of_exec _ rfl hrun)).2.2.2.2.2⟩

end TranscriptionQueue

end VibeVoice
