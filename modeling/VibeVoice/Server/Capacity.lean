import VibeVoice.Server.Refinement
import VibeVoice.Server.Transcribe

/-!
# Admission control

`_active_count` is not a counter: it is computed from statuses that handlers, the
worker, `cancel` and the process function write.  The last one is the dangerous
one, since it writes `STREAMING` without looking.

What keeps the bound is that no step but an admission makes more jobs active
(`activeCount_le_of_step`), and that is a matter of the scale of statuses: a
process task writes `STREAMING` only while it may act, and as long as it may act
its job is running.  A job that is over has no task that may act.
-/

namespace VibeVoice

namespace TranscriptionQueue

variable {pf : ProcessFn} {maxSize : ℕ} {s s' : TranscriptionQueue pf.Frame}

/-- A refused reservation says `QueueFull`, and is refused for no other reason. -/
theorem reserve_eq_queueFull_iff {F : Type} (s : TranscriptionQueue F) (id : JobId)
    (who : String) : (s.reserve id who).1 = .error queueFull ↔ s.activeCount ≥ s.maxSize := by
  by_cases h : s.activeCount < s.maxSize
  · rw [reserve_of_room id who h]
    simpa using h
  · rw [reserve_of_full id who (Nat.le_of_not_lt h)]
    simpa using h

/-- **Only a reservation that is accepted makes more jobs active.** -/
theorem activeCount_le_of_step (hc : Coherent s) {a : Action pf.Input}
    (h : step pf s a = some s') :
    s'.activeCount ≤ s.activeCount ∨
      ∃ id who, a = .reserve id who ∧ (s.reserve id who).1 = .ok () := by
  by_cases ha : ∃ id who, a = .reserve id who
  · obtain ⟨id, who, rfl⟩ := ha
    simp only [step] at h
    split at h
    · exact absurd h (by simp)
    · by_cases hcap : s.activeCount < s.maxSize
      · exact Or.inr ⟨id, who, rfl, by rw [reserve_of_room id who hcap]⟩
      · rw [reserve_of_full id who (Nat.le_of_not_lt hcap), Option.some_inj] at h
        exact Or.inl (by rw [← h])
  · have hmoves := (step_refines hc.linked (fun id who e => ha ⟨id, who, e⟩) h).moves
    exact Or.inl (hmoves.active_le hc.sound)

/-- **No step makes a job that is over active again.** -/
theorem isTerminal_of_step (hc : Coherent s) {a : Action pf.Input} (h : step pf s a = some s')
    {id : JobId} (hid : (s.job id).status.isTerminal = true) :
    (s'.job id).status.isTerminal = true := by
  by_cases ha : ∃ id who, a = .reserve id who
  · obtain ⟨j, who, rfl⟩ := ha
    have hsame : (s'.job id).status = (s.job id).status := by
      obtain ⟨-, heq | hadmitted⟩ := step_reserve hc.linked hc.sound h
      · exact congrFun (congrArg Lifecycle.status heq) id
      · exact congrFun (hadmitted.status_eq hc.sound) id
    rw [hsame]
    exact hid
  · exact (step_refines hc.linked (fun j who e => ha ⟨j, who, e⟩) h).moves.isTerminal hc.sound hid

/-- **Capacity is never exceeded and never resurrected**, with either of the two
process functions. -/
theorem capacity_respected (py : PythonText) (backend : AsrBackend)
    {s : TranscriptionQueue (processFn py backend).Frame}
    (h : (system (processFn py backend) maxSize).Reachable s) :
    s.activeCount ≤ maxSize ∧
      (∀ id ∈ s.history.reserved, (s.job id).status.isActive = true → id ∈ s.jobs) ∧
      (∀ id who, (s.reserve id who).1 = .error queueFull ↔ s.activeCount = maxSize) ∧
      (∀ id who, (s.reserve id who).1 = .error queueFull →
        (s.reserve id who).2.jobs = s.jobs ∧ (s.reserve id who).2.pending = s.pending) ∧
      ∀ a s', (system (processFn py backend) maxSize).step s a = some s' →
        (s'.activeCount ≤ s.activeCount ∨
          ∃ id who, a = .reserve id who ∧ (s.reserve id who).1 = .ok ()) ∧
        ∀ id, (s.job id).status.isTerminal = true → (s'.job id).status.isActive = false := by
  have hc := coherent_of_reachable h
  have hmax := maxSize_of_reachable h
  have hle : s.activeCount ≤ maxSize := hmax ▸ hc.sound.active_le
  refine ⟨hle, fun id hid hactive => ?_, fun id who => ?_, fun id who hfull => ?_,
    fun a s' hst => ⟨activeCount_le_of_step hc hst, fun id hid => ?_⟩⟩
  · rw [JobStatus.isActive_eq, Bool.not_eq_true'] at hactive
    exact hc.sound.tracked id hid hactive
  · rw [reserve_eq_queueFull_iff, hmax]
    exact ⟨fun hge => Nat.le_antisymm hle hge, fun heq => heq.ge⟩
  · rw [reserve_of_full id who ((s.reserve_eq_queueFull_iff id who).mp hfull)]
    exact ⟨rfl, rfl⟩
  · rw [JobStatus.isActive_eq, isTerminal_of_step hc hst hid]
    rfl

/-- A queue of one job, with that job being streamed. -/
theorem capacity_respected_streaming :
    ∃ s, (system (processFn emptyListText .groq) 1).exec { maxSize := 1 }
        [.reserve "a" "x", .attach "a" ["vvv-upload-a", "audio.audio"] [] "audio/wav" none 1,
          .submit "a", .worker 0 .removed, .process 0 (.text "")] = some s ∧
      (s.job "a").status = .streaming ∧ s.activeCount ≤ 1 := by
  have hrun : (system (processFn emptyListText .groq) 1).exec { maxSize := 1 }
      [.reserve "a" "x", .attach "a" ["vvv-upload-a", "audio.audio"] [] "audio/wav" none 1,
        .submit "a", .worker 0 .removed, .process 0 (.text "")] = some _ := rfl
  exact ⟨_, hrun, rfl,
    (capacity_respected emptyListText .groq (TransitionSystem.reachable_of_exec _ rfl hrun)).1⟩

end TranscriptionQueue

end VibeVoice
