import Mathlib.Algebra.Order.BigOperators.Group.List
import VibeVoice.Server.Capacity
import VibeVoice.Server.Ledger

/-!
# What is kept on the disk

Between its upload and its turn the audio of a job lies on the disk, next to that of
the others, and everybody who ends a job deletes a file.  Two things can go wrong with
that.  The file of one job could be deleted with another, or hold the audio of
another; and files could pile up.

The first does not happen, whatever `os.unlink` does: the files have different paths,
and a job that is not over keeps its own (`Held`).  So what the handler attached to a
job is what the worker finds when it gets to it, and so is what was said about it
(`Carries.run`).

The second needs that `os.unlink` works.  Then every file is the audio of a job that
is not over, of which there are at most `max_size`, and no file is larger than an
upload may be (`storage_bounded`).
-/

namespace VibeVoice

namespace TranscriptionQueue

open TranscriptionJob

variable {pf : ProcessFn} {maxSize maxAudioBytes : ℕ} {s s' : TranscriptionQueue pf.Frame}

/-! ## Files that are not the job's -/

/-- Taking away the audio of a job takes away no other file. -/
theorem content_discardAudio_of_ne {job : TranscriptionJob} {path : PosixPath}
    (h : job.audioPath ≠ some path) (unlink : UnlinkOutcome) (disk : Disk) :
    ((job.discardAudio unlink disk).2.2.HasFile path ↔ disk.HasFile path) ∧
      (job.discardAudio unlink disk).2.2.content path = disk.content path := by
  have hunlink {p : PosixPath} (hp : p ≠ path) :
      ((disk.unlink p).HasFile path ↔ disk.HasFile path) ∧
        (disk.unlink p).content path = disk.content path :=
    ⟨by rw [Disk.hasFile_unlink, and_iff_left (Ne.symm hp)], Disk.content_unlink_of_ne hp⟩
  unfold TranscriptionJob.discardAudio
  cases haudio : job.audioPath with
  | none => exact ⟨Iff.rfl, rfl⟩
  | some p =>
    have hp : p ≠ path := by
      rintro rfl
      exact h haudio
    cases unlink with
    | osError e => exact ⟨Iff.rfl, rfl⟩
    | removed | fileNotFound =>
      simp only [discardFiles]
      split
      · rw [Disk.hasFile_rmdir, Disk.content_rmdir]
        exact hunlink hp
      · exact hunlink hp

/-! ## Every job has a file of its own -/

/-- The audio of a job that is not over is on the disk, and is that of no other. -/
structure Held (s : TranscriptionQueue pf.Frame) : Prop where
  present : ∀ id path, (s.job id).audioPath = some path → s.disk.HasFile path
  unique : ∀ id j path, (s.job id).audioPath = some path → (s.job j).audioPath = some path →
    id = j
  live : ∀ id, (s.job id).status.isTerminal = true → (s.job id).audioPath = none
  reserved : ∀ id path, (s.job id).audioPath = some path → id ∈ s.history.reserved

/-- A step that leaves the disk and the paths alone, and ends no job. -/
theorem Held.frame (h : Held s) (hdisk : s'.disk = s.disk)
    (hreserved : s.history.reserved ⊆ s'.history.reserved)
    (haudio : ∀ id, (s'.job id).audioPath = (s.job id).audioPath)
    (hlive : ∀ id, (s'.job id).status.isTerminal = true → (s.job id).status.isTerminal = true) :
    Held s' where
  present id path hid := hdisk ▸ h.present id path (haudio id ▸ hid)
  unique id j path hid hj := h.unique id j path (haudio id ▸ hid) (haudio j ▸ hj)
  live id hst := (haudio id).trans (h.live id (hlive id hst))
  reserved id path hid := hreserved (h.reserved id path (haudio id ▸ hid))

/-- A step that writes the record of one job, with the disk and the path as they were. -/
theorem Held.update (h : Held s) {id : JobId} {job : TranscriptionJob}
    (hdisk : s'.disk = s.disk) (hreserved : s.history.reserved ⊆ s'.history.reserved)
    (hjob : s'.job = Function.update s.job id job) (haudio : job.audioPath = (s.job id).audioPath)
    (hlive : job.status.isTerminal = true → (s.job id).status.isTerminal = true) : Held s' := by
  refine h.frame hdisk hreserved (fun j => ?_) fun j hst => ?_
  · rw [hjob]
    exact update_field (·.audioPath) s.job haudio j
  · rw [hjob] at hst
    by_cases hj : j = id
    · rw [hj, Function.update_self] at hst
      rw [hj]
      exact hlive hst
    · rwa [Function.update_of_ne hj] at hst

/-- A step that discards the audio of one job, whatever `os.unlink` does. -/
theorem Held.discard (h : Held s) {id : JobId} {job : TranscriptionJob}
    (hjob : s'.job = Function.update s.job id job) (haudio : job.audioPath = none)
    (before : TranscriptionJob) (hbefore : before.audioPath = (s.job id).audioPath)
    {unlink : UnlinkOutcome} (hdisk : s'.disk = (before.discardAudio unlink s.disk).2.2)
    (hreserved : s.history.reserved ⊆ s'.history.reserved) : Held s' := by
  have hother {j : JobId} (hj : j ≠ id) : s'.job j = s.job j := by
    rw [hjob, Function.update_of_ne hj]
  have hsome {j : JobId} {path : PosixPath} (hj : (s'.job j).audioPath = some path) :
      j ≠ id ∧ (s.job j).audioPath = some path := by
    have hne : j ≠ id := by
      rintro rfl
      rw [hjob, Function.update_self, haudio] at hj
      exact absurd hj nofun
    exact ⟨hne, hother hne ▸ hj⟩
  refine ⟨fun j path hj => ?_, fun j k path hj hk => ?_, fun j hst => ?_, fun j path hj => ?_⟩
  · obtain ⟨hne, hj⟩ := hsome hj
    rw [hdisk, (content_discardAudio_of_ne ?_ unlink s.disk).1]
    · exact h.present j path hj
    · rw [hbefore]
      exact fun hid => hne (h.unique j id path hj hid)
  · exact h.unique j k path (hsome hj).2 (hsome hk).2
  · by_cases hj : j = id
    · rw [hj, hjob, Function.update_self, haudio]
    · rw [hother hj] at hst ⊢
      exact h.live j hst
  · exact hreserved (h.reserved j path (hsome hj).2)

/-- **Every step keeps every job its own file.** -/
theorem Held.step (h : Held s) {a : Action pf.Input} (ht : Transition pf s a s') : Held s' := by
  have hsame := List.Subset.refl s.history.reserved
  cases ht with
  | refused => exact h
  | reserve id who =>
    exact h.update rfl (List.subset_append_left _ _) rfl rfl fun hst =>
      absurd hst Bool.false_ne_true
  | submit | start => exact h.update rfl hsame rfl rfl fun hst => absurd hst Bool.false_ne_true
  | consume => exact h.update rfl hsame rfl rfl fun hst => hst
  | retire | skip | stop | disarm | stopRaised | stopped | expire =>
    exact h.frame rfl hsame (fun _ => rfl) fun _ hst => hst
  | attach id path content mime hotwords duration hid hst haudio hpath =>
    have hself : ((s.afterAttach id path content mime hotwords duration).job id).audioPath =
        some path := by simp [afterAttach]
    have hother {j : JobId} (hj : j ≠ id) :
        (s.afterAttach id path content mime hotwords duration).job j = s.job j := by
      simp [afterAttach, Function.update_of_ne hj]
    have hfree (j : JobId) : (s.job j).audioPath ≠ some path := fun hj =>
      hpath (h.present j path hj)
    have hpaths {j : JobId} {p : PosixPath}
        (hj : ((s.afterAttach id path content mime hotwords duration).job j).audioPath = some p) :
        j = id ∧ p = path ∨ j ≠ id ∧ p ≠ path ∧ (s.job j).audioPath = some p := by
      by_cases hji : j = id
      · rw [hji, hself, Option.some_inj] at hj
        exact Or.inl ⟨hji, hj.symm⟩
      · rw [hother hji] at hj
        exact Or.inr ⟨hji, fun hp => hfree j (hp ▸ hj), hj⟩
    refine ⟨fun j p hj => ?_, fun j k p hj hk => ?_, fun j hover => ?_, fun j p hj => ?_⟩
    · show ((s.disk.mkdir path.parent).create path content).HasFile p
      rw [Disk.hasFile_create, Disk.hasFile_mkdir]
      rcases hpaths hj with ⟨-, rfl⟩ | ⟨-, -, hj⟩
      · exact Or.inr rfl
      · exact Or.inl (h.present j p hj)
    · rcases hpaths hj with ⟨rfl, rfl⟩ | ⟨-, hp, hj⟩
      · rcases hpaths hk with ⟨rfl, -⟩ | ⟨-, hp, -⟩
        · rfl
        · exact absurd rfl hp
      · rcases hpaths hk with ⟨-, rfl⟩ | ⟨-, -, hk⟩
        · exact absurd rfl hp
        · exact h.unique j k p hj hk
    · by_cases hji : j = id
      · have hup : ((s.afterAttach id path content mime hotwords duration).job id).status =
            .uploading := by simp [afterAttach, hst]
        rw [hji, hup] at hover
        exact absurd hover Bool.false_ne_true
      · rw [hother hji] at hover ⊢
        exact h.live j hover
    · rcases hpaths hj with ⟨rfl, -⟩ | ⟨-, -, hj⟩
      · exact hid
      · exact h.reserved j p hj
  | cancel id unlink => exact h.discard rfl (by simp) (s.job id).cancelled rfl rfl hsame
  | resume now unlink id t start o outcome =>
    exact h.discard rfl (by simp) ((s.job id).settle outcome) rfl rfl hsame
  | process t input id start frame cancelling hw =>
    have hspec := applyEffects_spec (pf.advance frame cancelling input (s.job id)).1 (s.job id)
    refine h.update rfl hsame rfl hspec.audioPath fun hst => ?_
    rcases hspec.status with hs | hs <;> rw [hs] at hst
    · exact hst
    · exact absurd hst Bool.false_ne_true
  | forget id unlink => exact h.discard rfl rfl (s.job id) rfl rfl hsame

theorem held_of_reachable {P : TranscriptionQueue pf.Frame → Action pf.Input → Prop}
    (h : (system pf maxSize).ReachableWhen P s) : Held s := by
  refine h.induction Held ?_ fun s a s' hs ih _ hst =>
    ih.step (transition_of_step (coherent_of_reachable hs).linked hst)
  rintro s rfl
  exact ⟨fun _ _ => nofun, fun _ _ _ => nofun, fun _ _ => rfl, fun _ _ => nofun⟩

/-! ## What was attached -/

/-- What a handler attaches to its job. -/
structure Attachment where
  path : PosixPath
  content : List UInt8
  mime : String
  hotwords : Option String
  duration : ℚ

/-- The job is still what its handler made it. -/
structure Carries (s : TranscriptionQueue pf.Frame) (id : JobId) (u : Attachment) : Prop where
  audioPath : (s.job id).audioPath = some u.path
  audioMime : (s.job id).audioMime = u.mime
  hotwords : (s.job id).hotwords = u.hotwords
  duration : (s.job id).audioDurationSeconds = u.duration
  content : s.disk.content u.path = u.content

variable {id : JobId} {u : Attachment}

/-- The four fields of a job that say what is to be transcribed. -/
def audioOf (job : TranscriptionJob) : Option PosixPath × String × Option String × ℚ :=
  (job.audioPath, job.audioMime, job.hotwords, job.audioDurationSeconds)

theorem audioOf_applyEffects (effects : List ProcessEffect) (job : TranscriptionJob) :
    audioOf (job.applyEffects effects) = audioOf job := by
  induction effects generalizing job with
  | nil => rfl
  | cons e effects ih =>
    have happly : audioOf (e.apply job) = audioOf job := by cases e <;> rfl
    exact (ih (e.apply job)).trans happly

theorem Carries.of_audioOf (h : Carries s id u) (haudio : audioOf (s'.job id) = audioOf (s.job id))
    (hcontent : s'.disk.content u.path = s.disk.content u.path) : Carries s' id u := by
  simp only [audioOf, Prod.mk.injEq] at haudio
  obtain ⟨hpath, hmime, hhotwords, hduration⟩ := haudio
  exact ⟨hpath.trans h.audioPath, hmime.trans h.audioMime, hhotwords.trans h.hotwords,
    hduration.trans h.duration, hcontent.trans h.content⟩

/-- A step that writes the record of one job, and not these fields. -/
theorem Carries.update (h : Carries s id u) {j : JobId} {job : TranscriptionJob}
    (hdisk : s'.disk = s.disk) (hjob : s'.job = Function.update s.job j job)
    (haudio : audioOf job = audioOf (s.job j)) : Carries s' id u := by
  refine h.of_audioOf ?_ (by rw [hdisk])
  rw [hjob]
  exact update_field audioOf s.job haudio id

/-- A step that discards the audio of another job. -/
theorem Carries.discard (h : Carries s id u) (hheld : Held s) {j : JobId} {job : TranscriptionJob}
    (hj : id ≠ j) (hjob : s'.job = Function.update s.job j job) (before : TranscriptionJob)
    (hbefore : before.audioPath = (s.job j).audioPath) {unlink : UnlinkOutcome}
    (hdisk : s'.disk = (before.discardAudio unlink s.disk).2.2) : Carries s' id u := by
  have hother : before.audioPath ≠ some u.path := by
    rw [hbefore]
    exact fun hpath => hj (hheld.unique id j u.path h.audioPath hpath)
  refine h.of_audioOf ?_ ?_
  · rw [hjob, Function.update_of_ne hj]
  · rw [hdisk]
    exact (content_discardAudio_of_ne hother unlink s.disk).2

/-- **A step that does not end the job leaves it as it was made.** -/
theorem Carries.step (h : Carries s id u) (hc : Coherent s) (hheld : Held s) {a : Action pf.Input}
    (ht : Transition pf s a s') (hst : (s'.job id).status.isTerminal = false) :
    Carries s' id u := by
  have hover {j : JobId} {job : TranscriptionJob} (hjob : s'.job = Function.update s.job j job)
      (hterminal : job.status.isTerminal = true) : id ≠ j := by
    rintro rfl
    rw [hjob, Function.update_self, hterminal] at hst
    exact absurd hst nofun
  cases ht with
  | refused => exact h
  | submit | start | consume => exact h.update rfl rfl rfl
  | reserve => exact h.update rfl rfl rfl
  | retire | skip | stop | disarm | stopRaised | stopped | expire =>
    exact h.of_audioOf rfl rfl
  | attach j path content mime hotwords duration hid hup haudio hpath =>
    have hj : id ≠ j := by
      rintro rfl
      exact absurd (haudio.symm.trans h.audioPath) nofun
    have hne : path ≠ u.path := by
      rintro rfl
      exact hpath (hheld.present id u.path h.audioPath)
    refine h.of_audioOf ?_ (Disk.content_create_of_ne hne content)
    simp only [afterAttach, Function.update_of_ne hj]
  | cancel j unlink =>
    exact h.discard hheld (hover rfl (by rw [afterClose_status]; rfl)) rfl (s.job j).cancelled
      rfl rfl
  | resume now unlink j t start o outcome =>
    refine h.discard hheld (hover rfl ?_) rfl ((s.job j).settle outcome) rfl rfl
    rw [afterClose_status]
    exact (s.job j).isTerminal_verdict outcome
  | process t input j start frame cancelling hw =>
    exact h.update rfl rfl (audioOf_applyEffects _ _)
  | forget j unlink htimer =>
    have hj : id ≠ j := by
      rintro rfl
      have hterminal : (s.job id).status.isTerminal = true :=
        hc.sound.timers_terminal id htimer
      exact absurd ((hheld.live id hterminal).symm.trans h.audioPath) nofun
    exact h.discard hheld hj rfl (s.job j) rfl rfl

/-- **What was attached stays**, until the job is over. -/
theorem Carries.run (h : Carries s id u) (hs : (system pf maxSize).Reachable s)
    (hrun : (system pf maxSize).Run s s') (hst : (s'.job id).status.isTerminal = false) :
    Carries s' id u := by
  have key : (s'.job id).status.isTerminal = false → Carries s' id u :=
    hrun.stable (fun s => (s.job id).status.isTerminal = false → Carries s id u)
      (fun s a t hs ih _ hstep hlive => by
        have hc := coherent_of_reachable hs
        have hbefore : (s.job id).status.isTerminal = false := by
          rw [← Bool.not_eq_true]
          intro hterminal
          rw [isTerminal_of_step hc hstep hterminal] at hlive
          exact absurd hlive nofun
        exact (ih hbefore).step hc (held_of_reachable hs) (transition_of_step hc.linked hstep)
          hlive)
      hs fun _ => h
  exact key hst

/-- The job is what its handler attaches to it. -/
theorem carries_of_attach (hattach : step pf s (.attach id u.path u.content u.mime u.hotwords
    u.duration) = some s') : Carries s' id u := by
  obtain ⟨⟨-, -, -, hpath⟩, rfl⟩ := attach_eq_some hattach
  refine ⟨?_, ?_, ?_, ?_, Disk.content_create ?_ u.content⟩
  · simp
  · simp
  · simp
  · simp
  · simpa using hpath

/-- **What the process task of a job finds** is what was attached to the job, until the task
is asked to stop. -/
theorem carries_of_task {s₁ s₂ : TranscriptionQueue pf.Frame}
    (hs : (system pf maxSize).Reachable s)
    (hattach : step pf s (.attach id u.path u.content u.mime u.hotwords u.duration) = some s₁)
    (hrun : (system pf maxSize).Run s₁ s₂) {t : TaskId} {state : AsyncTask pf.Frame PyException}
    (htask : s₂.task t = some ⟨id, state⟩) (hlive : ¬ pf.Silenced state) : Carries s₂ id u := by
  have hs₁ : (system pf maxSize).Reachable s₁ :=
    hs.tail (a := .attach id u.path u.content u.mime u.hotwords u.duration) trivial hattach
  have hc := coherent_of_reachable (hs₁.run hrun)
  have hdone : state.isDone = false := by
    cases state with
    | suspended frame cancelling => rfl
    | done o => exact absurd trivial hlive
  obtain ⟨start, hw⟩ := hc.linked.undone_awaited t _ htask hdone
  have hcurrent : (lifecycle pf s₂).current = some (id, .live) := by
    simp only [lifecycle, hw, current_awaiting pf htask]
    rw [(phaseOf_eq_live_iff pf).mpr hlive]
  have hrunning : (s₂.job id).status.isRunning = true := hc.sound.live_running id hcurrent
  exact (carries_of_attach hattach).run hs₁ hrun (JobStatus.isTerminal_of_isRunning hrunning)

/-! ## How much there is -/

/-- What is attached is no larger than an upload may be, and `os.unlink` fails at most with
`FileNotFoundError`. -/
def Tidy (maxAudioBytes : ℕ) (s : TranscriptionQueue pf.Frame) (a : Action pf.Input) : Prop :=
  Clean s a ∧ match a with
    | .attach _ _ content _ _ _ => content.length ≤ maxAudioBytes
    | _ => True

instance (s : TranscriptionQueue pf.Frame) (a : Action pf.Input) :
    Decidable (Tidy maxAudioBytes s a) := by
  unfold Tidy
  cases a <;> infer_instance

/-- The files are different, and none is too large. -/
structure Stored (maxAudioBytes : ℕ) (s : TranscriptionQueue pf.Frame) : Prop where
  nodup : (s.disk.files.map Prod.fst).Nodup
  small : ∀ f ∈ s.disk.files, f.2.length ≤ maxAudioBytes

/-- A step that makes no file. -/
theorem Stored.sublist (h : Stored maxAudioBytes s) (hfiles : s'.disk.files.Sublist s.disk.files) :
    Stored maxAudioBytes s' :=
  ⟨h.nodup.sublist (hfiles.map _), fun f hf => h.small f (hfiles.subset hf)⟩

theorem files_discardAudio_sublist (job : TranscriptionJob) (unlink : UnlinkOutcome) (disk : Disk) :
    (job.discardAudio unlink disk).2.2.files.Sublist disk.files := by
  unfold TranscriptionJob.discardAudio
  cases job.audioPath with
  | none => exact List.Sublist.refl _
  | some path =>
    cases unlink with
    | osError e => exact List.Sublist.refl _
    | removed | fileNotFound =>
      simp only [discardFiles]
      split
      · rw [Disk.files_rmdir]
        exact List.filter_sublist
      · exact List.filter_sublist

theorem Stored.step (h : Stored maxAudioBytes s) {a : Action pf.Input} (ha : Tidy maxAudioBytes s a)
    (ht : Transition pf s a s') : Stored maxAudioBytes s' := by
  cases ht with
  | refused | reserve | submit | start | retire | skip | process | stop | disarm | stopRaised
  | stopped | expire | consume => exact h.sublist (List.Sublist.refl _)
  | cancel | resume | forget => exact h.sublist (files_discardAudio_sublist _ _ _)
  | attach id path content mime hotwords duration hid hst haudio hpath =>
    have hfiles : (s.afterAttach id path content mime hotwords duration).disk.files =
        s.disk.files ++ [(path, content)] := rfl
    refine ⟨?_, fun f hf => ?_⟩
    · rw [hfiles, List.map_append, List.nodup_append]
      refine ⟨h.nodup, List.nodup_singleton _, fun p hp q hq => ?_⟩
      rw [List.mem_singleton.mp hq]
      rintro rfl
      exact hpath hp
    · rw [hfiles, List.mem_append, List.mem_singleton] at hf
      rcases hf with hf | rfl
      · exact h.small f hf
      · exact ha.2

/-- The jobs that have a file are active. -/
theorem length_files_le (hc : Coherent s) (hheld : Held s) (hfiled : Filed s)
    (hnodup : (s.disk.files.map Prod.fst).Nodup) : s.disk.files.length ≤ s.activeCount := by
  have hsub : s.disk.files.map Prod.fst ⊆
      (s.jobs.filter fun id => (s.job id).status.isActive).filterMap
        fun id => (s.job id).audioPath := by
    intro path hpath
    obtain ⟨id, hid⟩ := hfiled.owned path hpath
    have hlive : (s.job id).status.isTerminal = false := by
      rw [← Bool.not_eq_true]
      intro hst
      exact absurd ((hheld.live id hst).symm.trans hid) nofun
    refine List.mem_filterMap.mpr ⟨id, List.mem_filter.mpr ⟨?_, ?_⟩, hid⟩
    · exact hc.sound.tracked id (hheld.reserved id path hid) hlive
    · rw [JobStatus.isActive_eq, hlive]
      rfl
  calc s.disk.files.length
      = (s.disk.files.map Prod.fst).length := (List.length_map _).symm
    _ ≤ ((s.jobs.filter fun id => (s.job id).status.isActive).filterMap
          fun id => (s.job id).audioPath).length := (List.subperm_of_subset hnodup hsub).length_le
    _ ≤ (s.jobs.filter fun id => (s.job id).status.isActive).length := List.length_filterMap_le _ _
    _ = s.activeCount := (List.countP_eq_length_filter ..).symm

theorem stored_of_reachable (h : (system pf maxSize).ReachableWhen (Tidy maxAudioBytes) s) :
    Stored maxAudioBytes s := by
  refine h.induction (Stored maxAudioBytes) ?_ fun s a s' hs ih ha hst =>
    ih.step ha (transition_of_step (coherent_of_reachable hs).linked hst)
  rintro s rfl
  exact ⟨List.nodup_nil, fun _ => nofun⟩

/-- **What is on the disk is bounded**: every file is the audio of a job that is not over, so
there are at most `max_size` of them, and they have at most `max_size` times the bytes of an
upload. -/
theorem storage_bounded (h : (system pf maxSize).ReachableWhen (Tidy maxAudioBytes) s) :
    (∀ f ∈ s.disk.files, ∃ id ∈ s.jobs,
      (s.job id).audioPath = some f.1 ∧ (s.job id).status.isActive = true) ∧
    s.disk.files.length ≤ s.activeCount ∧ s.activeCount ≤ maxSize ∧
    (s.disk.files.map fun f => f.2.length).sum ≤ maxSize * maxAudioBytes := by
  have hc := coherent_of_reachable h
  have hheld := held_of_reachable h
  have hfiled := (settled_of_reachable (h.mono fun _ _ ha => ha.1)).2
  have hstored := stored_of_reachable h
  have hactive : s.activeCount ≤ maxSize := maxSize_of_reachable h ▸ hc.sound.active_le
  have hfiles := length_files_le hc hheld hfiled hstored.nodup
  refine ⟨fun f hf => ?_, hfiles, hactive, ?_⟩
  · obtain ⟨id, hid⟩ := hfiled.owned f.1 (List.mem_map_of_mem hf)
    have hlive : (s.job id).status.isTerminal = false := by
      rw [← Bool.not_eq_true]
      intro hst
      exact absurd ((hheld.live id hst).symm.trans hid) nofun
    refine ⟨id, hc.sound.tracked id (hheld.reserved id f.1 hid) hlive, hid, ?_⟩
    rw [JobStatus.isActive_eq, hlive]
    rfl
  · have hsmall : ∀ n ∈ s.disk.files.map (fun f => f.2.length), n ≤ maxAudioBytes := by
      intro n hn
      obtain ⟨f, hf, rfl⟩ := List.mem_map.mp hn
      exact hstored.small f hf
    calc (s.disk.files.map fun f => f.2.length).sum
        ≤ (s.disk.files.map fun f => f.2.length).length • maxAudioBytes :=
          List.sum_le_card_nsmul _ _ hsmall
      _ = s.disk.files.length * maxAudioBytes := by
          rw [List.length_map]
          rfl
      _ ≤ maxSize * maxAudioBytes := Nat.mul_le_mul_right _ (hfiles.trans hactive)

/-- Two uploads, the first of which is being processed and the second cancelled. -/
theorem storage_bounded_cancelled :
    ∃ s, (system (processFn emptyListText .groq) 2).execWhen (Tidy 3) { maxSize := 2 }
        [.reserve "a" "x", .attach "a" ["vvv-upload-a", "audio.audio"] [1, 2, 3] "audio/wav" none 1,
          .submit "a", .worker 0 .removed, .reserve "b" "y",
          .attach "b" ["vvv-upload-b", "audio.audio"] [4, 5] "audio/wav" none 1, .submit "b",
          .process 0 (.text ""), .cancel "b" .removed] = some s ∧
      s.disk.files = [(["vvv-upload-a", "audio.audio"], [1, 2, 3])] ∧
      (s.disk.files.map fun f => f.2.length).sum ≤ 2 * 3 := by
  have hrun : (system (processFn emptyListText .groq) 2).execWhen (Tidy 3) { maxSize := 2 }
      [.reserve "a" "x", .attach "a" ["vvv-upload-a", "audio.audio"] [1, 2, 3] "audio/wav" none 1,
        .submit "a", .worker 0 .removed, .reserve "b" "y",
        .attach "b" ["vvv-upload-b", "audio.audio"] [4, 5] "audio/wav" none 1, .submit "b",
        .process 0 (.text ""), .cancel "b" .removed] = some _ := rfl
  have hbounded := storage_bounded (TransitionSystem.reachableWhen_of_execWhen _ rfl hrun)
  exact ⟨_, hrun, rfl, hbounded.2.2.2⟩

end TranscriptionQueue

end VibeVoice
