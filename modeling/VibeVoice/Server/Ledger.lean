import VibeVoice.Server.Steps
import VibeVoice.Server.Transcribe

/-!
# The end of a job

Five things happen when a job ends: its status becomes terminal, the sentinel is
put on its `chunk_queue`, its audio is discarded, its cleanup is scheduled, and in
the end it leaves `_jobs`.  Two paths do them, `cancel` and the worker's
`finally`, and both can run for one job.

`Ledger` is what can be said of one job in every run, whatever `os.unlink` does:
the sentinel and the cleanup go together, each happens once, and when they have
happened the job is over.  Every step either leaves the entry of a job alone or
closes it (`Ledger.close`), whatever it has been before.

That a job that is over has been notified is another matter: `discard_audio`
comes first, and an `OSError` in it skips the rest.  In the runs in which
`os.unlink` fails at most with `FileNotFoundError` it cannot, and there all five
things happen together (`terminal_effects_together`).  `Filed` is about the disk
in these runs: every file belongs to the job whose `audio_path` it is, so when a
job has no audio path any more its file is gone.
-/

namespace VibeVoice

namespace TranscriptionQueue

open TranscriptionJob

/-! ## The entry of a job -/

/-- What has been done for a job that was notified, and not for one that was not. -/
structure Ledger (job : TranscriptionJob) (scheduled : ℕ) : Prop where
  flagged : job.cleanupScheduled = job.terminalNotified
  scheduled : scheduled = if job.terminalNotified then 1 else 0
  /-- Chunks, and the sentinel once, at the end. -/
  puts : ∃ chunks : List String,
    job.puts = chunks.map some ++ if job.terminalNotified then [none] else []
  terminal : job.terminalNotified = true → job.status.isTerminal = true
  audio : job.terminalNotified = true → job.audioPath = none

/-- A job nobody has touched. -/
theorem ledger_fresh (id : JobId) : Ledger { jobId := id } 0 :=
  ⟨rfl, rfl, ⟨[], rfl⟩, fun h => absurd h Bool.false_ne_true, fun h => absurd h Bool.false_ne_true⟩

variable {job job' : TranscriptionJob} {scheduled : ℕ}

/-- A job that is not over was not notified. -/
theorem Ledger.not_notified (h : Ledger job scheduled) (hst : job.status.isTerminal = false) :
    job.terminalNotified = false := by
  cases hn : job.terminalNotified with
  | false => rfl
  | true => exact absurd (hst.symm.trans (h.terminal hn)) Bool.false_ne_true

/-- The sentinel is put once, when the job is notified. -/
theorem Ledger.count_none (h : Ledger job scheduled) :
    job.puts.count none = if job.terminalNotified then 1 else 0 := by
  obtain ⟨chunks, hputs⟩ := h.puts
  have hcount : (chunks.map some).count (none : Option String) = 0 :=
    List.count_eq_zero.mpr (by simp)
  rw [hputs, List.count_append, hcount]
  cases job.terminalNotified <;> rfl

/-- The sentinel on `chunk_queue` and the flag say the same. -/
theorem Ledger.none_mem_puts_iff (h : Ledger job scheduled) :
    none ∈ job.puts ↔ job.terminalNotified = true := by
  rw [← List.count_pos_iff, h.count_none]
  cases job.terminalNotified <;> simp

/-- The entry of a job that is written, but not closed. -/
theorem Ledger.keep (h : Ledger job scheduled)
    (hnotified : job'.terminalNotified = job.terminalNotified)
    (hflagged : job'.cleanupScheduled = job.cleanupScheduled) (hputs : job'.puts = job.puts)
    (hstatus : job.terminalNotified = true → job'.status.isTerminal = true)
    (haudio : job.terminalNotified = true → job'.audioPath = none) : Ledger job' scheduled where
  flagged := by rw [hnotified, hflagged, h.flagged]
  scheduled := by rw [hnotified, h.scheduled]
  puts := by
    rw [hputs, hnotified]
    exact h.puts
  terminal := fun hn => hstatus (hnotified ▸ hn)
  audio := fun hn => haudio (hnotified ▸ hn)

/-- The entry of a job that is not over, and not closed. -/
theorem Ledger.progress (h : Ledger job scheduled) (hst : job.status.isTerminal = false)
    (hnotified : job'.terminalNotified = job.terminalNotified)
    (hflagged : job'.cleanupScheduled = job.cleanupScheduled) (hputs : job'.puts = job.puts) :
    Ledger job' scheduled :=
  have hnot := h.not_notified hst
  h.keep hnotified hflagged hputs (fun hn => absurd (hnot.symm.trans hn) Bool.false_ne_true)
    fun hn => absurd (hnot.symm.trans hn) Bool.false_ne_true

/-- The entry of a job that puts chunks, and so is not over. -/
theorem Ledger.putChunks (h : Ledger job scheduled) (hst : job.status.isTerminal = false)
    (hspec : EffectsSpec job job') : Ledger job' scheduled := by
  have hnot := h.not_notified hst
  have hnot' : job'.terminalNotified = false := hspec.terminalNotified.trans hnot
  refine ⟨?_, ?_, ?_, fun hn => absurd (hnot'.symm.trans hn) Bool.false_ne_true,
    fun hn => absurd (hnot'.symm.trans hn) Bool.false_ne_true⟩
  · rw [hspec.cleanupScheduled, hspec.terminalNotified, h.flagged]
  · rw [hspec.terminalNotified, h.scheduled]
  · obtain ⟨before, hbefore⟩ := h.puts
    obtain ⟨chunks, hputs, -⟩ := hspec.puts
    refine ⟨before ++ chunks, ?_⟩
    rw [hputs, hbefore, hnot, hnot', List.map_append]
    simp

/-- **Closing a job** does what is left to do, once, unless `os.unlink` raises. -/
theorem Ledger.close (h : Ledger job scheduled) {ended : TranscriptionJob}
    (hstatus : ended.status.isTerminal = true)
    (hnotified : ended.terminalNotified = job.terminalNotified)
    (hflagged : ended.cleanupScheduled = job.cleanupScheduled) (hputs : ended.puts = job.puts)
    (id : JobId) (unlink : UnlinkOutcome) {tracked : Bool}
    (htracked : job.terminalNotified = false → tracked = true) :
    Ledger (ended.afterClose unlink tracked)
      (scheduled + (ended.newTimers id unlink tracked).count id) := by
  cases herr : ended.unlinkError unlink with
  | some e =>
    rw [TranscriptionJob.afterClose, newTimers, herr]
    exact h.keep hnotified hflagged hputs (fun _ => hstatus) fun _ => rfl
  | none =>
    have hflag : (job.terminalNotified || tracked) = true := by
      cases hn : job.terminalNotified with
      | true => rfl
      | false => exact htracked hn
    obtain ⟨chunks, hchunks⟩ := h.puts
    have haudio := ended.afterClose_audioPath unlink tracked
    have hterminal := ended.afterClose_status unlink tracked
    rw [ended.afterClose_of_unlinkError unlink tracked herr] at haudio hterminal ⊢
    refine ⟨?_, ?_, ⟨chunks, ?_⟩, fun _ => hterminal ▸ hstatus, fun _ => haudio⟩
    · rw [closed_cleanupScheduled, closed_terminalNotified, hflagged, h.flagged, hflag]
    · rw [closed_terminalNotified, h.scheduled, newTimers, herr, hflagged, h.flagged]
      cases hn : job.terminalNotified with
      | true => simp
      | false => simp [htracked hn]
    · rw [closed_terminalNotified, closed_puts, hnotified, hputs, hchunks]
      cases job.terminalNotified <;> simp

/-- Closing a job that cannot be refused leaves it notified. -/
theorem terminalNotified_afterClose {unlink : UnlinkOutcome} (tracked : Bool)
    (h : job.unlinkError unlink = none) :
    (job.afterClose unlink tracked).terminalNotified = true := by
  rw [job.afterClose_of_unlinkError unlink tracked h, closed_terminalNotified]

/-- Closing a job never takes a notification back. -/
theorem terminalNotified_of_notified {unlink : UnlinkOutcome} {tracked : Bool}
    (h : job.terminalNotified = true) :
    (job.afterClose unlink tracked).terminalNotified = true := by
  unfold TranscriptionJob.afterClose
  split
  · exact job.closed_terminalNotified tracked
  · exact h

/-! ## The books of the queue -/

variable {pf : ProcessFn} {s s' : TranscriptionQueue pf.Frame}

/-- The entries of all jobs, and who is still in `_jobs` and has a timer. -/
structure Books (s : TranscriptionQueue pf.Frame) : Prop where
  entry : ∀ id, Ledger (s.job id) (s.history.scheduled.count id)
  tracked : ∀ id ∈ s.history.reserved, (s.job id).terminalNotified = false → id ∈ s.jobs
  timers : ∀ id ∈ s.cleanupTasks, (s.job id).terminalNotified = true

/-- A step that closes no job. -/
theorem Books.update (h : Books s) {id : JobId} {job : TranscriptionJob}
    (hjob : s'.job = Function.update s.job id job)
    (hledger : Ledger job (s.history.scheduled.count id))
    (hnotified : job.terminalNotified = (s.job id).terminalNotified)
    (hscheduled : s'.history.scheduled = s.history.scheduled)
    (hjobs : ∀ j ∈ s'.history.reserved, (s.job j).terminalNotified = false → j ∈ s'.jobs)
    (htimers : s'.cleanupTasks ⊆ s.cleanupTasks) : Books s' := by
  have hsame (j : JobId) : (s'.job j).terminalNotified = (s.job j).terminalNotified := by
    rw [hjob]
    exact update_field (·.terminalNotified) s.job hnotified j
  refine ⟨fun j => ?_, fun j hj hn => hjobs j hj (hsame j ▸ hn), fun j hj => ?_⟩
  · rw [hjob, hscheduled]
    by_cases hj : j = id
    · rw [hj, Function.update_self]
      exact hledger
    · rw [Function.update_of_ne hj]
      exact h.entry j
  · rw [hsame]
    exact h.timers j (htimers hj)

/-- A step that writes no record. -/
theorem Books.frame (h : Books s) (hjob : s'.job = s.job)
    (hscheduled : s'.history.scheduled = s.history.scheduled)
    (hreserved : s'.history.reserved = s.history.reserved) (hjobs : s'.jobs = s.jobs)
    (htimers : s'.cleanupTasks ⊆ s.cleanupTasks) : Books s' := by
  refine ⟨?_, ?_, ?_⟩ <;> rw [hjob]
  · rw [hscheduled]
    exact h.entry
  · rw [hreserved, hjobs]
    exact h.tracked
  · exact fun j hj => h.timers j (htimers hj)

/-- A step that closes a job. -/
theorem Books.close (h : Books s) {id : JobId} {ended : TranscriptionJob} {unlink : UnlinkOutcome}
    (hid : id ∈ s.history.reserved)
    (hjob : s'.job = Function.update s.job id (ended.afterClose unlink (id ∈ s.jobs)))
    (hscheduled : s'.history.scheduled =
      s.history.scheduled ++ ended.newTimers id unlink (id ∈ s.jobs))
    (htimers : s'.cleanupTasks = s.cleanupTasks ++ ended.newTimers id unlink (id ∈ s.jobs))
    (hreserved : s'.history.reserved = s.history.reserved) (hjobs : s'.jobs = s.jobs)
    (hstatus : ended.status.isTerminal = true)
    (hnotified : ended.terminalNotified = (s.job id).terminalNotified)
    (hflagged : ended.cleanupScheduled = (s.job id).cleanupScheduled)
    (hputs : ended.puts = (s.job id).puts) : Books s' := by
  have hself : s'.job id = ended.afterClose unlink (id ∈ s.jobs) := by
    rw [hjob, Function.update_self]
  have hother (j : JobId) (hj : j ≠ id) : s'.job j = s.job j := by
    rw [hjob, Function.update_of_ne hj]
  have hmono (j : JobId) (hn : (s.job j).terminalNotified = true) :
      (s'.job j).terminalNotified = true := by
    by_cases hj : j = id
    · subst hj
      rw [hself]
      exact terminalNotified_of_notified (hnotified.trans hn)
    · rw [hother j hj, hn]
  refine ⟨fun j => ?_, fun j hj hn => ?_, fun j hj => ?_⟩
  · rw [hscheduled, List.count_append]
    by_cases hj : j = id
    · subst hj
      rw [hself]
      exact (h.entry j).close hstatus hnotified hflagged hputs j unlink fun hn =>
        decide_eq_true (h.tracked j hid hn)
    · have hcount : (ended.newTimers id unlink (id ∈ s.jobs)).count j = 0 :=
        List.count_eq_zero.mpr fun hmem => hj (mem_newTimers hmem)
      rw [hother j hj, hcount]
      exact h.entry j
  · rw [hreserved] at hj
    rw [hjobs]
    refine h.tracked j hj ?_
    cases hold : (s.job j).terminalNotified with
    | false => rfl
    | true => exact absurd (hn.symm.trans (hmono j hold)) Bool.false_ne_true
  · rw [htimers] at hj
    rcases List.mem_append.mp hj with hj | hj
    · exact hmono j (h.timers j hj)
    · rw [mem_newTimers hj, hself]
      exact terminalNotified_afterClose _ (unlinkError_of_mem_newTimers hj)

/-- **Every step keeps the books.** -/
theorem Books.step (h : Books s) (hc : Coherent s) {a : Action pf.Input}
    (ht : Transition pf s a s') : Books s' := by
  cases ht with
  | refused => exact h
  | reserve id who hid hroom =>
    have hup : (s.job id).status = .uploading := hc.sound.untouched id hid
    refine h.update rfl ((h.entry id).progress (by rw [hup]; rfl) rfl rfl rfl) rfl rfl ?_
      (List.Subset.refl _)
    have hfresh : id ∉ s.jobs := fun hjobs => hid (hc.sound.jobs_reserved id hjobs)
    intro j hj hn
    show j ∈ if id ∈ s.jobs then s.jobs else s.jobs ++ [id]
    rw [if_neg hfresh]
    rcases List.mem_append.mp hj with hj | hj
    · exact List.mem_append_left _ (h.tracked j hj hn)
    · exact List.mem_append_right _ hj
  | attach id path content mime hotwords duration hid hst =>
    exact h.update rfl ((h.entry id).progress (by rw [hst]; rfl) rfl rfl rfl) rfl rfl h.tracked
      (List.Subset.refl _)
  | submit id hid hst =>
    exact h.update rfl ((h.entry id).progress (by rw [hst]; rfl) rfl rfl rfl) rfl rfl h.tracked
      (List.Subset.refl _)
  | cancel id unlink hid hst =>
    exact h.close (hc.sound.jobs_reserved id hid) rfl rfl rfl rfl rfl rfl rfl rfl rfl
  | retire | skip | stop | stopRaised => exact h.frame rfl rfl rfl rfl (List.Subset.refl _)
  | disarm | stopped => exact h.frame rfl rfl rfl rfl (List.nil_subset _)
  | expire => exact h.frame rfl rfl rfl rfl List.erase_subset
  | start now unlink id rest hw hmark hq hid hst =>
    have hqueued := hc.queued_of_front hq hst
    exact h.update rfl ((h.entry id).progress (by rw [hqueued]; rfl) rfl rfl rfl) rfl rfl h.tracked
      (List.Subset.refl _)
  | resume now unlink id t start o outcome hw ht ho =>
    exact h.close (hc.awaited hw).1 rfl rfl rfl rfl rfl ((s.job id).isTerminal_verdict outcome)
      rfl rfl rfl
  | process t input id start frame cancelling hw ht =>
    have hspec := applyEffects_spec (pf.advance frame cancelling input (s.job id)).1 (s.job id)
    refine h.update rfl ?_ hspec.terminalNotified rfl h.tracked (List.Subset.refl _)
    cases hrun : (s.job id).status.isRunning with
    | true => exact (h.entry id).putChunks (JobStatus.isTerminal_of_isRunning hrun) hspec
    | false =>
      obtain ⟨message, hm⟩ := hc.quiet_of_isTerminal hw ht hrun input
      rw [hm]
      exact (h.entry id).keep rfl rfl rfl (h.entry id).terminal (h.entry id).audio
  | forget id unlink htimer hid =>
    refine h.update rfl ((h.entry id).keep rfl rfl rfl (h.entry id).terminal fun _ => rfl) rfl rfl
      ?_ List.erase_subset
    intro j hj hn
    refine (List.mem_erase_of_ne ?_).mpr (h.tracked j hj hn)
    rintro rfl
    exact absurd (hn.symm.trans (h.timers j htimer)) Bool.false_ne_true
  | consume id item rest hq =>
    exact h.update rfl ((h.entry id).keep rfl rfl rfl (h.entry id).terminal (h.entry id).audio)
      rfl rfl h.tracked (List.Subset.refl _)

/-- **The books are right in every state reached.** -/
theorem books_of_reachable {P : TranscriptionQueue pf.Frame → Action pf.Input → Prop}
    {maxSize : ℕ} (h : (system pf maxSize).ReachableWhen P s) : Books s := by
  refine h.induction Books ?_ fun s a s' hs ih _ hst =>
    ih.step (coherent_of_reachable hs) (transition_of_step (coherent_of_reachable hs).linked hst)
  rintro s rfl
  exact ⟨fun id => ledger_fresh id, by simp, by simp⟩

/-! ## Runs without an `OSError` -/

/-- What `os.unlink` did in a step, if the step may have called it. -/
def Action.unlink {I : Type} : Action I → Option UnlinkOutcome
  | .cancel _ unlink | .worker _ unlink | .cleanup _ unlink => some unlink
  | _ => none

/-- `os.unlink` fails at most with `FileNotFoundError`. -/
def Clean (_ : TranscriptionQueue pf.Frame) (a : Action pf.Input) : Prop :=
  ∀ unlink ∈ a.unlink, unlink.isClean = true

instance (s : TranscriptionQueue pf.Frame) (a : Action pf.Input) : Decidable (Clean s a) :=
  inferInstanceAs (Decidable (∀ unlink ∈ a.unlink, unlink.isClean = true))

/-- A job that is over has been notified. -/
def Settled (s : TranscriptionQueue pf.Frame) : Prop :=
  ∀ id, (s.job id).status.isTerminal = true → (s.job id).terminalNotified = true

/-- A step that writes one record. -/
theorem Settled.update (h : Settled s) {id : JobId} {job : TranscriptionJob}
    (hjob : s'.job = Function.update s.job id job)
    (hnotified : job.status.isTerminal = true → job.terminalNotified = true) : Settled s' := by
  intro j
  rw [hjob]
  by_cases hj : j = id
  · rw [hj, Function.update_self]
    exact hnotified
  · rw [Function.update_of_ne hj]
    exact h j

/-- **A clean step leaves no job that is over without a notification.** -/
theorem Settled.step (h : Settled s) {a : Action pf.Input} (hclean : Clean s a)
    (ht : Transition pf s a s') : Settled s' := by
  cases ht with
  | refused | retire | skip | stop | disarm | stopRaised | stopped | expire => exact h
  | reserve | submit | start => exact h.update rfl fun hst => absurd hst Bool.false_ne_true
  | attach id | forget id | consume id => exact h.update rfl (h id)
  | cancel id unlink hid hst =>
    exact h.update rfl fun _ => terminalNotified_afterClose _
      ((s.job id).cancelled.unlinkError_of_isClean (hclean unlink rfl))
  | resume now unlink id t start o outcome hw ht ho =>
    exact h.update rfl fun _ => terminalNotified_afterClose _
      (((s.job id).settle outcome).unlinkError_of_isClean (hclean unlink rfl))
  | process t input id start frame cancelling hw ht =>
    have hspec := applyEffects_spec (pf.advance frame cancelling input (s.job id)).1 (s.job id)
    refine h.update rfl fun hst => ?_
    rw [hspec.terminalNotified]
    refine h id ?_
    rcases hspec.status with hs | hs <;> rw [hs] at hst
    · exact hst
    · exact absurd hst Bool.false_ne_true

/-! ## The disk -/

theorem hasFile_discardFiles {unlink : UnlinkOutcome} (hclean : unlink.isClean = true)
    (disk : Disk) (p path : PosixPath) :
    (discardFiles disk p unlink).HasFile path ↔ disk.HasFile path ∧ path ≠ p := by
  cases unlink with
  | osError e => exact absurd hclean Bool.false_ne_true
  | removed | fileNotFound =>
    simp only [discardFiles]
    split
    · rw [Disk.hasFile_rmdir, Disk.hasFile_unlink]
    · rw [Disk.hasFile_unlink]

/-- `discard_audio` removes the file of the job, and no other. -/
theorem hasFile_discardAudio (job : TranscriptionJob) {unlink : UnlinkOutcome}
    (hclean : unlink.isClean = true) (disk : Disk) (path : PosixPath) :
    (job.discardAudio unlink disk).2.2.HasFile path ↔
      disk.HasFile path ∧ job.audioPath ≠ some path := by
  unfold TranscriptionJob.discardAudio
  cases haudio : job.audioPath with
  | none => simp
  | some p => simp only [hasFile_discardFiles hclean, ne_eq, Option.some.injEq, @eq_comm _ p]

/-- Every file on the disk is the audio of one job. -/
structure Filed (s : TranscriptionQueue pf.Frame) : Prop where
  owned : ∀ path, s.disk.HasFile path → ∃ id, (s.job id).audioPath = some path
  present : ∀ id path, (s.job id).audioPath = some path → s.disk.HasFile path
  unique : ∀ id j path, (s.job id).audioPath = some path → (s.job j).audioPath = some path →
    id = j

/-- A step that writes no `audio_path` and leaves the disk alone. -/
theorem Filed.frame (h : Filed s) (hdisk : s'.disk = s.disk)
    (haudio : ∀ id, (s'.job id).audioPath = (s.job id).audioPath) : Filed s' := by
  refine ⟨?_, ?_, ?_⟩
  · intro path hpath
    rw [hdisk] at hpath
    obtain ⟨id, hid⟩ := h.owned path hpath
    exact ⟨id, by rw [haudio, hid]⟩
  · intro id path hid
    rw [hdisk]
    exact h.present id path (haudio id ▸ hid)
  · intro id j path hid hj
    exact h.unique id j path (haudio id ▸ hid) (haudio j ▸ hj)

/-- A step that discards the audio of one job. -/
theorem Filed.discard (h : Filed s) {id : JobId} {unlink : UnlinkOutcome}
    (hclean : unlink.isClean = true) {job : TranscriptionJob}
    (hjob : s'.job = Function.update s.job id job) (haudio : job.audioPath = none)
    (before : TranscriptionJob) (hbefore : before.audioPath = (s.job id).audioPath)
    (hdisk : s'.disk = (before.discardAudio unlink s.disk).2.2) : Filed s' := by
  have hself : (s'.job id).audioPath = none := by rw [hjob, Function.update_self, haudio]
  have hother (j : JobId) (hj : j ≠ id) : (s'.job j).audioPath = (s.job j).audioPath := by
    rw [hjob, Function.update_of_ne hj]
  have hsome (j : JobId) (path : PosixPath) (hj : (s'.job j).audioPath = some path) :
      j ≠ id ∧ (s.job j).audioPath = some path := by
    have hne : j ≠ id := by
      rintro rfl
      rw [hself] at hj
      exact absurd hj (by simp)
    exact ⟨hne, hother j hne ▸ hj⟩
  refine ⟨?_, ?_, ?_⟩
  · intro path hpath
    rw [hdisk, hasFile_discardAudio _ hclean, hbefore] at hpath
    obtain ⟨j, hj⟩ := h.owned path hpath.1
    have hne : j ≠ id := by
      rintro rfl
      exact hpath.2 hj
    exact ⟨j, by rw [hother j hne, hj]⟩
  · intro j path hj
    obtain ⟨hne, hj⟩ := hsome j path hj
    rw [hdisk, hasFile_discardAudio _ hclean, hbefore]
    exact ⟨h.present j path hj, fun hid => hne (h.unique j id path hj hid)⟩
  · intro j k path hj hk
    exact h.unique j k path (hsome j path hj).2 (hsome k path hk).2

/-- **Every step keeps the files in order.** -/
theorem Filed.step (h : Filed s) {a : Action pf.Input} (hclean : Clean s a)
    (ht : Transition pf s a s') : Filed s' := by
  cases ht with
  | refused => exact h
  | reserve | submit | start | consume =>
    exact h.frame rfl (update_field (·.audioPath) s.job rfl)
  | retire | skip | stop | disarm | stopRaised | stopped | expire =>
    exact h.frame rfl fun _ => rfl
  | attach id path content mime hotwords duration hid hst haudio hpath =>
    have hself : ((s.afterAttach id path content mime hotwords duration).job id).audioPath =
        some path := by simp [afterAttach]
    have hother (j : JobId) (hj : j ≠ id) :
        ((s.afterAttach id path content mime hotwords duration).job j).audioPath =
          (s.job j).audioPath := by simp [afterAttach, Function.update_of_ne hj]
    have hdisk (p : PosixPath) :
        (s.afterAttach id path content mime hotwords duration).disk.HasFile p ↔
          s.disk.HasFile p ∨ p = path := by simp [afterAttach]
    have hfree (j : JobId) : (s.job j).audioPath ≠ some path :=
      fun hj => hpath (h.present j path hj)
    refine ⟨?_, ?_, ?_⟩
    · intro p hp
      rcases (hdisk p).mp hp with hp | rfl
      · obtain ⟨j, hj⟩ := h.owned p hp
        have hne : j ≠ id := by
          rintro rfl
          rw [haudio] at hj
          exact absurd hj (by simp)
        exact ⟨j, by rw [hother j hne, hj]⟩
      · exact ⟨id, hself⟩
    · intro j p hj
      rw [hdisk]
      by_cases hji : j = id
      · rw [hji, hself, Option.some_inj] at hj
        exact Or.inr hj.symm
      · exact Or.inl (h.present j p (hother j hji ▸ hj))
    · intro j k p hj hk
      by_cases hji : j = id <;> by_cases hki : k = id
      · rw [hji, hki]
      · rw [hji, hself] at hj
        rw [hother k hki, ← hj] at hk
        exact absurd hk (hfree k)
      · rw [hki, hself] at hk
        rw [hother j hji, ← hk] at hj
        exact absurd hj (hfree j)
      · exact h.unique j k p (hother j hji ▸ hj) (hother k hki ▸ hk)
  | cancel id unlink hid hst =>
    exact h.discard (hclean unlink rfl) rfl (by simp) (s.job id).cancelled rfl rfl
  | resume now unlink id t start o outcome hw ht ho =>
    exact h.discard (hclean unlink rfl) rfl (by simp) ((s.job id).settle outcome) rfl rfl
  | process t input id start frame cancelling hw ht =>
    exact h.frame rfl (update_field (·.audioPath) s.job (applyEffects_spec _ _).audioPath)
  | forget id unlink htimer hid =>
    exact h.discard (hclean unlink rfl) rfl rfl (s.job id) rfl rfl

/-! ## Runs -/

variable {maxSize : ℕ}

/-- **In a clean run every job that is over was notified, and every file has an
owner.** -/
theorem settled_of_reachable (h : (system pf maxSize).ReachableWhen Clean s) :
    Settled s ∧ Filed s := by
  refine h.induction (fun s => Settled s ∧ Filed s) ?_ ?_
  · rintro s rfl
    exact ⟨fun id hst => absurd hst Bool.false_ne_true, by simp [Disk.empty, Disk.HasFile],
      by simp, by simp⟩
  · intro s a s' hs ih hclean hst
    have hc := coherent_of_reachable hs
    have ht := transition_of_step hc.linked hst
    exact ⟨ih.1.step hclean ht, ih.2.step hclean ht⟩

/-- **Terminal effects happen together, and exactly once.** -/
theorem terminal_effects_together (h : (system pf maxSize).ReachableWhen Clean s) (id : JobId)
    (hid : id ∈ s.history.reserved) :
    ((s.job id).status.isTerminal = true ↔ (s.job id).terminalNotified = true) ∧
      ((s.job id).status.isTerminal = true ↔ (s.job id).puts.count none = 1) ∧
      ((s.job id).status.isTerminal = true ↔ s.history.scheduled.count id = 1) ∧
      (none ∈ (s.job id).puts → ∃ chunks : List String,
        (s.job id).puts = chunks.map some ++ [none]) ∧
      ((s.job id).status.isTerminal = true → (s.job id).audioPath = none ∧
        ∀ path, (id, path) ∈ s.history.attached → s.disk.HasFile path →
          ∃ j, j ≠ id ∧ (s.job j).audioPath = some path) ∧
      (id ∉ s.jobs → (s.job id).status.isTerminal = true) := by
  obtain ⟨hsettled, hfiled⟩ := settled_of_reachable h
  have hc := coherent_of_reachable h
  have hledger := (books_of_reachable h).entry id
  have hiff : (s.job id).status.isTerminal = true ↔ (s.job id).terminalNotified = true :=
    ⟨hsettled id, hledger.terminal⟩
  refine ⟨hiff, hiff.trans ?_, hiff.trans ?_, fun hnone => ?_, ?_, ?_⟩
  · rw [hledger.count_none]
    cases (s.job id).terminalNotified <;> simp
  · rw [hledger.scheduled]
    cases (s.job id).terminalNotified <;> simp
  · obtain ⟨chunks, hputs⟩ := hledger.puts
    rw [hledger.none_mem_puts_iff.mp hnone, if_pos rfl] at hputs
    exact ⟨chunks, hputs⟩
  · intro hst
    have haudio := hledger.audio (hiff.mp hst)
    refine ⟨haudio, fun path _ hpath => ?_⟩
    obtain ⟨j, hj⟩ := hfiled.owned path hpath
    refine ⟨j, ?_, hj⟩
    rintro rfl
    rw [haudio] at hj
    exact absurd hj (by simp)
  · intro hgone
    by_contra hst
    exact hgone (hc.sound.tracked id hid (Bool.eq_false_iff.mpr hst))

/-- A job that is cancelled while it runs, and whose process task then unwinds. -/
theorem terminal_effects_together_cancelled :
    ∃ s, (system (processFn emptyListText .groq) 1).execWhen Clean { maxSize := 1 }
        [.reserve "a" "x", .attach "a" ["vvv-upload-a", "audio.audio"] [] "audio/wav" none 1,
          .submit "a", .worker 0 .removed, .process 0 (.text ""), .cancel "a" .removed,
          .process 0 (.text ""), .process 0 (.text ""), .worker 1 .removed] = some s ∧
      (s.job "a").status = .cancelled ∧ (s.job "a").puts.count none = 1 ∧
      s.history.scheduled.count "a" = 1 := by
  have hrun : (system (processFn emptyListText .groq) 1).execWhen Clean { maxSize := 1 }
      [.reserve "a" "x", .attach "a" ["vvv-upload-a", "audio.audio"] [] "audio/wav" none 1,
        .submit "a", .worker 0 .removed, .process 0 (.text ""), .cancel "a" .removed,
        .process 0 (.text ""), .process 0 (.text ""), .worker 1 .removed] = some _ := rfl
  have hend := terminal_effects_together
    (TransitionSystem.reachableWhen_of_execWhen _ rfl hrun) "a" (by decide)
  exact ⟨_, hrun, rfl, hend.2.1.mp rfl, hend.2.2.1.mp rfl⟩

end TranscriptionQueue

end VibeVoice
