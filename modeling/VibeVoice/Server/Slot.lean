import VibeVoice.Server.Capacity
import VibeVoice.Server.Upload

/-!
# The slot of an upload

`reserve` takes one of `max_size` slots, and only the end of the job gives it back.
Until the job is submitted nobody but its handler can end it: the worker does not
know it and the response does not exist.  So whatever happens to the handler, the
handler has to call `cancel`.

It does, on all of its paths but one.  The outer `finally` awaits `form.close()`
first; when that raises, or when the handler is cancelled there, the call of
`cancel` is not reached.  After a failed upload the job may still be `UPLOADING`,
and after a good one it is `QUEUED`, for a client that gets no response
(`slot_leaked`).  When `form.close()` raises nothing, or finds the job over,
nothing leaks (`no_slot_leak`).

The argument has two halves.  The status: `cancel` leaves a reserved job over
(`isTerminal_cancel`), so what matters is which exits come after one.  The disk:
the temporary directory is the handler's until the job has its `audio_path`, and
holds one file after that; `discard_audio` removes both (`Kept.step`).
-/

namespace VibeVoice

namespace TranscriptionQueue

open TranscriptionJob

variable {pf : ProcessFn} {maxSize : ℕ} {s s' : TranscriptionQueue pf.Frame}

/-! ## The directory of an upload -/

/-- The directory is gone, or it holds the audio of the job and nothing else. -/
def Kept (disk : Disk) (dir : PosixPath) : Option PosixPath → Prop
  | none => disk.Free dir
  | some path => path = dir.join UPLOAD_FILE_NAME ∧ disk.Holds dir path

variable {disk disk' : Disk} {dir : PosixPath} {audio : Option PosixPath}

theorem Kept.subset (h : Kept disk dir audio) (hfiles : disk'.files ⊆ disk.files)
    (hdirs : disk'.dirs ⊆ disk.dirs) : Kept disk' dir audio := by
  cases audio with
  | none => exact Disk.Free.subset h hfiles hdirs
  | some path => exact ⟨h.1, h.2.subset hfiles hdirs⟩

theorem Kept.create_elsewhere {path : PosixPath} (h : Kept disk dir audio) (hpath : ¬ dir <+: path)
    (content : List UInt8) :
    Kept ((disk.mkdir path.parent).create path content) dir audio := by
  cases audio with
  | none => exact Disk.Free.create_elsewhere h hpath content
  | some p => exact ⟨h.1, h.2.create_elsewhere hpath content⟩

/-- `discard_audio` only takes away. -/
theorem discardAudio_subset (job : TranscriptionJob) (unlink : UnlinkOutcome) (disk : Disk) :
    (job.discardAudio unlink disk).2.2.files ⊆ disk.files ∧
      (job.discardAudio unlink disk).2.2.dirs ⊆ disk.dirs := by
  unfold TranscriptionJob.discardAudio
  cases job.audioPath with
  | none => exact ⟨List.Subset.refl _, List.Subset.refl _⟩
  | some path =>
    cases unlink with
    | osError e => exact ⟨List.Subset.refl _, List.Subset.refl _⟩
    | removed | fileNotFound =>
      simp only [discardFiles]
      split
      · refine ⟨?_, Disk.dirs_rmdir_subset⟩
        rw [Disk.files_rmdir]
        exact Disk.files_unlink_subset
      · exact ⟨Disk.files_unlink_subset, List.Subset.refl _⟩

/-- **`discard_audio`, when `os.unlink` raises nothing, leaves nothing.** -/
theorem Kept.discard {job : TranscriptionJob} {unlink : UnlinkOutcome}
    (h : Kept disk dir job.audioPath)
    (hname : UPLOAD_DIR_PREFIX.toList.isPrefixOf dir.name.toList = true)
    (hunlink : job.unlinkError unlink = none) : (job.discardAudio unlink disk).2.2.Free dir := by
  unfold TranscriptionJob.discardAudio
  cases haudio : job.audioPath with
  | none =>
    rw [haudio] at h
    exact h
  | some path =>
    rw [haudio] at h
    obtain ⟨rfl, hholds⟩ := h
    have hprivate : isPrivateUpload (dir.join UPLOAD_FILE_NAME) = true := by
      simp [isPrivateUpload, hname]
    rcases (job.unlinkError_eq_none_iff unlink).mp hunlink with hnone | hclean
    · exact absurd (haudio.symm.trans hnone) (by simp)
    · cases unlink with
      | osError e => exact absurd hclean Bool.false_ne_true
      | removed | fileNotFound =>
        simp only [discardFiles, hprivate, if_true, PosixPath.parent_join]
        exact hholds.free_rmdir

/-! ## What the others do -/

namespace Action

variable {I : Type}

/-- The step is one of the upload of job `id`. -/
def uploads (id : JobId) : Action I → Bool
  | .reserve j _ | .attach j _ _ _ _ _ | .submit j => j = id
  | _ => false

/-- The step is a cancellation of job `id`. -/
def cancels (id : JobId) : Action I → Bool
  | .cancel j _ => j = id
  | _ => false

/-- The step makes a file below `dir`. -/
def writesBelow (dir : PosixPath) : Action I → Bool
  | .attach _ path _ _ _ _ => dir <+: path
  | _ => false

/-- When the step discards the audio of job `id`, `discard_audio` raises nothing. -/
def discardsCleanly (id : JobId) (s : TranscriptionQueue pf.Frame) : Action pf.Input → Bool
  | .cancel j unlink | .cleanup j unlink =>
    j = id → (s.job id).unlinkError unlink = none
  | .worker _ unlink =>
    match s.worker with
    | .awaiting j _ _ => j = id → (s.job id).unlinkError unlink = none
    | _ => true
  | _ => true

end Action

/-- Only a reservation of a job reserves it. -/
theorem mem_reserved_of_step {id : JobId} {a : Action pf.Input} (ht : Transition pf s a s')
    (ha : a.uploads id = false) : id ∈ s'.history.reserved ↔ id ∈ s.history.reserved := by
  cases ht with
  | reserve j who =>
    have hj : id ≠ j := by
      rintro rfl
      simp [Action.uploads] at ha
    simp [afterReserve, hj]
  | refused | attach | submit | cancel | retire | skip | start | resume | process | stop | disarm
  | stopRaised | stopped | forget | expire | consume => exact Iff.rfl

/-- **The directory is kept in order**, by every step that is not one of the upload. -/
theorem Kept.step {id : JobId} {a : Action pf.Input}
    (h : Kept s.disk dir (s.job id).audioPath)
    (hname : UPLOAD_DIR_PREFIX.toList.isPrefixOf dir.name.toList = true)
    (ht : Transition pf s a s') (ha : a.uploads id = false) (hdir : a.writesBelow dir = false)
    (hclean : a.discardsCleanly id s = true) : Kept s'.disk dir (s'.job id).audioPath := by
  -- A job is closed: this one, or another.
  have close (s' : TranscriptionQueue pf.Frame) (j : JobId) (job : TranscriptionJob)
      (before : TranscriptionJob) (unlink : UnlinkOutcome)
      (hbefore : before.audioPath = (s.job j).audioPath)
      (hunlink : j = id → (s.job id).unlinkError unlink = none)
      (hjob : s'.job = Function.update s.job j job) (haudio : job.audioPath = none)
      (hdisk : s'.disk = (before.discardAudio unlink s.disk).2.2) :
      Kept s'.disk dir (s'.job id).audioPath := by
    rw [hdisk, hjob]
    by_cases hj : j = id
    · subst hj
      rw [Function.update_self, haudio]
      refine Kept.discard (by rw [hbefore]; exact h) hname ?_
      have hsame : before.unlinkError unlink = (s.job j).unlinkError unlink := by
        simp only [unlinkError, hbefore]
      rw [hsame, hunlink rfl]
    · rw [Function.update_of_ne (Ne.symm hj)]
      exact h.subset (discardAudio_subset before unlink s.disk).1
        (discardAudio_subset before unlink s.disk).2
  have same {j : JobId} {job : TranscriptionJob} (haudio : job.audioPath = (s.job j).audioPath) :
      Kept s.disk dir (Function.update s.job j job id).audioPath := by
    rw [update_field (·.audioPath) s.job haudio id]
    exact h
  cases ht with
  | refused | retire | skip | stop | disarm | stopRaised | stopped | expire => exact h
  | reserve | submit | start | consume => exact same rfl
  | process => exact same (applyEffects_spec _ _).audioPath
  | attach j path content =>
    have hj : id ≠ j := by
      rintro rfl
      simp [Action.uploads] at ha
    show Kept _ dir (Function.update s.job j _ id).audioPath
    rw [Function.update_of_ne hj]
    exact h.create_elsewhere (by simpa [Action.writesBelow] using hdir) content
  | cancel j unlink =>
    exact close _ j _ (s.job j).cancelled unlink rfl
      (fun hj => by simpa [Action.discardsCleanly, hj] using hclean) rfl (by simp) rfl
  | resume now unlink j t start o outcome hw =>
    exact close _ j _ ((s.job j).settle outcome) unlink rfl
      (fun hj => by simpa [Action.discardsCleanly, hw, hj] using hclean) rfl (by simp) rfl
  | forget j unlink =>
    exact close _ j _ (s.job j) unlink rfl
      (fun hj => by simpa [Action.discardsCleanly, hj] using hclean) rfl rfl rfl

/-- **A job that is being uploaded is left alone**, as long as nobody cancels it. -/
theorem uploading_of_step (hc : Coherent s) {id : JobId} {a : Action pf.Input}
    (ht : Transition pf s a s') (ha : a.uploads id = false) (hcancel : a.cancels id = false)
    (hup : (s.job id).status = .uploading) :
    (s'.job id).status = .uploading ∧ (s'.job id).audioPath = (s.job id).audioPath := by
  -- The step writes the record of another job, or one that is not being uploaded.
  have called {j : JobId} {job : TranscriptionJob} (hj : id ≠ j) :
      (Function.update s.job j job id).status = .uploading ∧
        (Function.update s.job j job id).audioPath = (s.job id).audioPath := by
    rw [Function.update_of_ne hj]
    exact ⟨hup, rfl⟩
  have other {j : JobId} {job : TranscriptionJob} (hj : (s.job j).status ≠ .uploading) :
      (Function.update s.job j job id).status = .uploading ∧
        (Function.update s.job j job id).audioPath = (s.job id).audioPath := by
    refine called ?_
    rintro rfl
    exact hj hup
  have awaited {j : JobId} {t : TaskId} {start : ℚ} (hw : s.worker = .awaiting j t start) :
      (s.job j).status ≠ .uploading := by
    intro hj
    rcases (hc.awaited hw).2 with hrun | hcancelled
    · rw [hj] at hrun
      exact absurd hrun (by decide)
    · rw [hj] at hcancelled
      exact absurd hcancelled (by decide)
  cases ht with
  | refused | retire | skip | stop | disarm | stopRaised | stopped | expire => exact ⟨hup, rfl⟩
  | reserve j | attach j | submit j =>
    refine called ?_
    rintro rfl
    simp [Action.uploads] at ha
  | cancel j =>
    refine called ?_
    rintro rfl
    simp [Action.cancels] at hcancel
  | start now unlink j rest hw hmark hq hid hst =>
    refine other ?_
    rw [hc.queued_of_front hq hst]
    decide
  | resume now unlink j t start o outcome hw => exact other (awaited hw)
  | process t input j start frame cancelling hw => exact other (awaited hw)
  | forget j unlink htimer =>
    refine other fun hj => ?_
    have hover : (s.job j).status.isTerminal = true := hc.sound.timers_terminal j htimer
    rw [hj] at hover
    exact absurd hover (by decide)
  | consume j =>
    rcases eq_or_ne id j with rfl | hj
    · simp [hup]
    · exact called hj

/-- Only the upload of a job gives it its audio. -/
theorem audioPath_of_step {id : JobId} {a : Action pf.Input} (ht : Transition pf s a s')
    (ha : a.uploads id = false) (haudio : (s.job id).audioPath = none) :
    (s'.job id).audioPath = none := by
  have written {j : JobId} {job : TranscriptionJob}
      (hjob : job.audioPath = (s.job j).audioPath ∨ job.audioPath = none) :
      (Function.update s.job j job id).audioPath = none := by
    rcases eq_or_ne id j with rfl | hj
    · rw [Function.update_self]
      exact hjob.elim (fun hsame => hsame.trans haudio) fun hnone => hnone
    · rw [Function.update_of_ne hj]
      exact haudio
  cases ht with
  | refused | retire | skip | stop | disarm | stopRaised | stopped | expire => exact haudio
  | reserve | submit | start | consume => exact written (Or.inl rfl)
  | process => exact written (Or.inl (applyEffects_spec _ _).audioPath)
  | cancel | resume => exact written (Or.inr (afterClose_audioPath _ _ _))
  | forget => exact written (Or.inr rfl)
  | attach j =>
    have hj : id ≠ j := by
      rintro rfl
      simp [Action.uploads] at ha
    show (Function.update s.job j _ id).audioPath = none
    rw [Function.update_of_ne hj]
    exact haudio

/-! ## A job that is over has no audio -/

/-- Whatever ends a job discards its audio. -/
def Discarded (s : TranscriptionQueue pf.Frame) : Prop :=
  ∀ id, (s.job id).status.isTerminal = true → (s.job id).audioPath = none

/-- A step that writes one record. -/
theorem Discarded.update (h : Discarded s) {id : JobId} {job : TranscriptionJob}
    (hjob : s'.job = Function.update s.job id job)
    (haudio : job.status.isTerminal = true → job.audioPath = none) : Discarded s' := by
  intro j
  rw [hjob]
  by_cases hj : j = id
  · rw [hj, Function.update_self]
    exact haudio
  · rw [Function.update_of_ne hj]
    exact h j

theorem Discarded.step (h : Discarded s) {a : Action pf.Input} (ht : Transition pf s a s') :
    Discarded s' := by
  cases ht with
  | refused | retire | skip | stop | disarm | stopRaised | stopped | expire => exact h
  | reserve | submit | start => exact h.update rfl fun hst => absurd hst Bool.false_ne_true
  | attach id path content mime hotwords duration hid hst =>
    refine h.update rfl fun hover => ?_
    rw [show (s.job id).status.isTerminal = false by rw [hst]; rfl] at hover
    exact absurd hover Bool.false_ne_true
  | cancel | resume => exact h.update rfl fun _ => afterClose_audioPath _ _ _
  | forget => exact h.update rfl fun _ => rfl
  | consume id => exact h.update rfl (h id)
  | process t input id start frame cancelling hw ht =>
    have hspec := applyEffects_spec (pf.advance frame cancelling input (s.job id)).1 (s.job id)
    refine h.update rfl fun hst => ?_
    rw [hspec.audioPath]
    refine h id ?_
    rcases hspec.status with hs | hs <;> rw [hs] at hst
    · exact hst
    · exact absurd hst Bool.false_ne_true

theorem discarded_of_reachable {P : TranscriptionQueue pf.Frame → Action pf.Input → Prop}
    (h : (system pf maxSize).ReachableWhen P s) : Discarded s := by
  refine h.induction Discarded ?_ fun s a s' hs ih _ hst =>
    ih.step (transition_of_step (coherent_of_reachable hs).linked hst)
  rintro s rfl
  exact fun id hst => absurd hst Bool.false_ne_true

end TranscriptionQueue

/-! ## The handler and the others -/

namespace Handler

open TranscriptionQueue

/-- It has returned, or raised. -/
def hasExited (h : Handler) : Bool :=
  match h.point with
  | .exited _ => true
  | _ => false

/-- What the others do next to it: they do not know its job before it has exited, and
never its directory. -/
def allows {I : Type} (h : Handler) (a : Action I) : Bool :=
  !a.uploads h.jobId && (h.hasExited || !a.cancels h.jobId) &&
    h.dir.all fun dir => !a.writesBelow dir

/-- Where the job stands, by where the handler is. -/
def Stands {F : Type} (h : Handler) (s : TranscriptionQueue F) : HandlerPoint → Prop
  | .entered => h.jobId ∉ s.history.reserved ∧ h.dir = none
  | .parsing => h.jobId ∈ s.history.reserved ∧ (s.job h.jobId).status = .uploading ∧ h.dir = none
  | .spooling sp _ _ =>
    h.jobId ∈ s.history.reserved ∧ (s.job h.jobId).status = .uploading ∧
      (s.job h.jobId).audioPath = none ∧ h.dir = some sp.dir
  | .closing _ => h.jobId ∈ s.history.reserved
  | .exited (.ok ()) => True
  | .exited (.error _) =>
    (h.jobId ∉ s.history.reserved ∧ h.dir = none) ∨ (s.job h.jobId).status.isTerminal = true

/-- The temporary directory is on one of the two disks, with one file. -/
structure Tidy {F : Type} (h : Handler) (s : TranscriptionQueue F) : Prop where
  name : ∀ dir, h.dir = some dir → UPLOAD_DIR_PREFIX.toList.isPrefixOf dir.name.toList = true
  kept : ∀ dir, h.dir = some dir → Kept s.disk dir (s.job h.jobId).audioPath
  /-- What has been spooled is handed over, or removed. -/
  scratch : ∀ dir, h.dir = some dir → (∀ sp mime hotwords, h.point ≠ .spooling sp mime hotwords) →
    h.scratch.Free dir
  audio : h.dir = none → (s.job h.jobId).audioPath = none

/-- **The invariant.** -/
structure Upkeep {F : Type} (h : Handler) (s : TranscriptionQueue F) : Prop where
  stands : h.Stands s h.point
  tidy : h.point ≠ .exited (.ok ()) → h.Tidy s

end Handler

namespace TranscriptionQueue

/-- The handler of one request, next to the queue. -/
def handler (pf : ProcessFn) (id : JobId) (who : String) (maxAudioBytes : ℕ) :
    TransitionSystem.Party (TranscriptionQueue pf.Frame) (Action pf.Input) where
  State := Handler
  Label := HandlerInput
  init h := h = { jobId := id, clientIdentity := who, maxAudioBytes := maxAudioBytes }
  allows h a := h.allows a
  step s h i := h.step s i

/-- **The queue, its users and one handler.** -/
def handlerSystem (pf : ProcessFn) (maxSize : ℕ) (id : JobId) (who : String)
    (maxAudioBytes : ℕ) :
    TransitionSystem (TranscriptionQueue pf.Frame × Handler) (Action pf.Input ⊕ HandlerInput) :=
  (system pf maxSize).joined (handler pf id who maxAudioBytes)

/-- **`form.close()` raises nothing, or finds the job over; and `os.unlink` of the
job's file raises nothing but `FileNotFoundError`**, for as long as the handler runs. -/
def Closes {pf : ProcessFn} (c : TranscriptionQueue pf.Frame × Handler) :
    Action pf.Input ⊕ HandlerInput → Prop
  | .inl a => c.2.hasExited = true ∨ a.discardsCleanly c.2.jobId c.1 = true
  | .inr (.read _ _ _ _ unlink) => unlink.isClean = true
  | .inr (.closed (.ok ()) unlink) => (c.1.job c.2.jobId).unlinkError unlink = none
  | .inr (.closed (.error _) _) => (c.1.job c.2.jobId).status.isTerminal = true
  | .inr _ => True

instance {pf : ProcessFn} (c : TranscriptionQueue pf.Frame × Handler) :
    ∀ a : Action pf.Input ⊕ HandlerInput, Decidable (Closes c a)
  | .inl _ => inferInstanceAs (Decidable (_ ∨ _))
  | .inr (.read _ _ _ _ unlink) => inferInstanceAs (Decidable (unlink.isClean = true))
  | .inr (.closed (.ok ()) unlink) =>
    inferInstanceAs (Decidable ((c.1.job c.2.jobId).unlinkError unlink = none))
  | .inr (.closed (.error _) _) =>
    inferInstanceAs (Decidable ((c.1.job c.2.jobId).status.isTerminal = true))
  | .inr .enter | .inr (.parsed ..) => .isTrue trivial

end TranscriptionQueue

namespace Handler

open TranscriptionQueue

variable {pf : ProcessFn} {maxSize : ℕ} {s s' : TranscriptionQueue pf.Frame} {h h' : Handler}

/-! ### The others -/

/-- A job without audio is discarded cleanly. -/
theorem discardsCleanly_of_none {id : JobId} (haudio : (s.job id).audioPath = none)
    (a : Action pf.Input) : a.discardsCleanly id s = true := by
  have hnone (unlink : UnlinkOutcome) : (s.job id).unlinkError unlink = none :=
    ((s.job id).unlinkError_eq_none_iff unlink).mpr (Or.inl haudio)
  unfold Action.discardsCleanly
  split
  · simp [hnone]
  · simp [hnone]
  · split <;> simp [hnone]
  · rfl

/-- After a request that failed there is no audio. -/
theorem Upkeep.audioPath_eq_none (hu : h.Upkeep s) (hd : Discarded s)
    (hexited : h.hasExited = true) (hp : h.point ≠ .exited (.ok ())) :
    (s.job h.jobId).audioPath = none := by
  have hstands := hu.stands
  cases hpoint : h.point with
  | entered | parsing | spooling | closing => simp [hasExited, hpoint] at hexited
  | exited result =>
    cases result with
    | ok _ => exact absurd hpoint hp
    | error e =>
      rw [hpoint] at hstands
      rcases hstands with ⟨-, hdir⟩ | hover
      · exact (hu.tidy hp).audio hdir
      · exact hd _ hover

/-- **The others keep the invariant.** -/
theorem Upkeep.others (hu : h.Upkeep s) (hc : Coherent s) (hd : Discarded s)
    {a : Action pf.Input} (hst : TranscriptionQueue.step pf s a = some s')
    (hallow : h.allows a = true)
    (hG : h.hasExited = true ∨ a.discardsCleanly h.jobId s = true) : h.Upkeep s' := by
  have ht := transition_of_step hc.linked hst
  simp only [allows, Bool.and_eq_true, Bool.or_eq_true, Bool.not_eq_true'] at hallow
  obtain ⟨⟨huploads, hcancels⟩, hbelow⟩ := hallow
  have hreserved := mem_reserved_of_step ht huploads
  have hstands := hu.stands
  refine ⟨?_, fun hp => ?_⟩
  · cases hp : h.point with
    | entered =>
      rw [hp] at hstands
      exact ⟨fun hid => hstands.1 (hreserved.mp hid), hstands.2⟩
    | parsing =>
      rw [hp] at hstands
      have hcancel : a.cancels h.jobId = false := by simpa [hasExited, hp] using hcancels
      obtain ⟨hid, hup, hdir⟩ := hstands
      exact ⟨hreserved.mpr hid, (uploading_of_step hc ht huploads hcancel hup).1, hdir⟩
    | spooling sp mime hotwords =>
      rw [hp] at hstands
      have hcancel : a.cancels h.jobId = false := by simpa [hasExited, hp] using hcancels
      obtain ⟨hid, hup, haudio, hdir⟩ := hstands
      obtain ⟨hup', haudio'⟩ := uploading_of_step hc ht huploads hcancel hup
      exact ⟨hreserved.mpr hid, hup', haudio'.trans haudio, hdir⟩
    | closing result =>
      rw [hp] at hstands
      exact hreserved.mpr hstands
    | exited result =>
      rw [hp] at hstands
      cases result with
      | ok _ => trivial
      | error e =>
        rcases hstands with ⟨hid, hdir⟩ | hover
        · exact Or.inl ⟨fun hid' => hid (hreserved.mp hid'), hdir⟩
        · exact Or.inr (isTerminal_of_step hc hst hover)
  · have htidy := hu.tidy hp
    have hclean : a.discardsCleanly h.jobId s = true := by
      rcases hG with hexited | hclean
      · exact discardsCleanly_of_none (hu.audioPath_eq_none hd hexited hp) a
      · exact hclean
    exact ⟨htidy.name,
      fun dir hdir => (htidy.kept dir hdir).step (htidy.name dir hdir) ht huploads
        (by simpa [hdir] using hbelow) hclean,
      htidy.scratch, fun hdir => audioPath_of_step ht huploads (htidy.audio hdir)⟩

/-! ### The handler -/

/-- A cancellation of the handler leaves its job reserved. -/
theorem Refused.reserved {id : JobId} {unlink : UnlinkOutcome} (hr : Refused id s unlink s')
    (hc : Coherent s) (hid : id ∈ s.history.reserved) : id ∈ s'.history.reserved := by
  cases hr with
  | keep => exact hid
  | cancel =>
    have hstep := transition_of_step hc.linked (step_cancel s id unlink)
    exact (mem_reserved_of_step hstep rfl).mpr hid

theorem Refused.run {id : JobId} {unlink : UnlinkOutcome} (hr : Refused id s unlink s') :
    (system pf maxSize).Run s s' := by
  cases hr with
  | keep => exact Relation.ReflTransGen.refl
  | cancel => exact run_cancel s id unlink

/-- **A cancellation keeps the directory in order.** -/
theorem kept_cancel (hc : Coherent s) {id : JobId} {dir : PosixPath} {unlink : UnlinkOutcome}
    (hname : UPLOAD_DIR_PREFIX.toList.isPrefixOf dir.name.toList = true)
    (hk : Kept s.disk dir (s.job id).audioPath)
    (hunlink : (s.job id).unlinkError unlink = none) :
    Kept (s.cancel id unlink).2.disk dir ((s.cancel id unlink).2.job id).audioPath :=
  hk.step hname (transition_of_step hc.linked (step_cancel s id unlink)) rfl rfl
    (by simpa [Action.discardsCleanly] using hunlink)

theorem Refused.kept {id : JobId} {dir : PosixPath} {unlink : UnlinkOutcome}
    (hr : Refused id s unlink s') (hc : Coherent s)
    (hname : UPLOAD_DIR_PREFIX.toList.isPrefixOf dir.name.toList = true)
    (hk : Kept s.disk dir (s.job id).audioPath)
    (hunlink : (s.job id).unlinkError unlink = none) : Kept s'.disk dir (s'.job id).audioPath := by
  cases hr with
  | keep => exact hk
  | cancel => exact kept_cancel hc hname hk hunlink

/-- The audio of a spooled upload can be attached. -/
theorem Upkeep.step_attach (hu : h.Upkeep s) {sp : Spool} {mime : String}
    {hotwords : Option String} (hp : h.point = .spooling sp mime hotwords) (content : List UInt8)
    (duration : ℚ) :
    TranscriptionQueue.step pf s (.attach h.jobId sp.path content mime hotwords duration) =
      some (s.afterAttach h.jobId sp.path content mime hotwords duration) := by
  have hstands := hu.stands
  rw [hp] at hstands
  obtain ⟨hid, hup, haudio, hdir⟩ := hstands
  have hkept := (hu.tidy (by rw [hp]; simp)).kept sp.dir hdir
  rw [haudio] at hkept
  exact if_pos ⟨hid, hup, haudio, Disk.Free.not_hasFile hkept _⟩

/-- **What the handler does to the queue is a few steps of the queue.** -/
theorem Upkeep.run (hu : h.Upkeep s) (hc : Coherent s) {i : HandlerInput}
    (hm : h.Move s i s' h') : (system pf maxSize).Run s s' := by
  cases hm with
  | full | rejected | opened | reading | ready | lost => exact Relation.ReflTransGen.refl
  | accept hp hid hroom =>
    refine Relation.ReflTransGen.single ⟨.reserve h.jobId h.clientIdentity, trivial, ?_⟩
    show (if _ then _ else _) = _
    rw [if_neg hid, reserve_of_room _ _ hroom]
  | unparsed i unlink | released unlink => exact run_cancel s h.jobId unlink
  | unmade i unlink dir scratch s' hp hdir hfree hs => exact hs.run
  | failed i unlink sp scratch mime hotwords s' hp hfree hs => exact hs.run
  | invalid chunk write close wav unlink sp scratch content mime hotwords duration s' hp hfree hs =>
    exact Relation.ReflTransGen.head
      ⟨.attach _ _ _ _ _ _, trivial, hu.step_attach hp content duration⟩ hs.run
  | submitted i sp scratch content mime hotwords duration hp =>
    refine Relation.ReflTransGen.head
      ⟨.attach _ _ _ _ _ _, trivial, hu.step_attach hp content duration⟩
      (Relation.ReflTransGen.single ⟨.submit h.jobId, trivial, ?_⟩)
    have hstands := hu.stands
    rw [hp] at hstands
    obtain ⟨hid, hup, -, -⟩ := hstands
    have htracked : h.jobId ∈ s.jobs := hc.sound.tracked _ hid (by
      show (s.job h.jobId).status.isTerminal = false
      rw [hup]
      rfl)
    have hsubmit := submit_of_uploading
      (show h.jobId ∈ (s.afterAttach h.jobId sp.path content mime hotwords duration).jobs from
        htracked) (by simpa [afterAttach] using hup)
    show some (submit _ _).2 = _
    rw [hsubmit]

/-- The job has its audio, and the handler's disk is clean. -/
theorem Upkeep.attached (hu : h.Upkeep s) {sp : Spool} {mime : String} {hotwords : Option String}
    (hp : h.point = .spooling sp mime hotwords) (content : List UInt8) (duration : ℚ) :
    Kept (s.afterAttach h.jobId sp.path content mime hotwords duration).disk sp.dir
      ((s.afterAttach h.jobId sp.path content mime hotwords duration).job h.jobId).audioPath := by
  have hstands := hu.stands
  rw [hp] at hstands
  obtain ⟨-, -, haudio, hdir⟩ := hstands
  have hkept := (hu.tidy (by rw [hp]; simp)).kept sp.dir hdir
  rw [haudio] at hkept
  have hself : ((s.afterAttach h.jobId sp.path content mime hotwords duration).job
      h.jobId).audioPath = some sp.path := by simp [afterAttach]
  rw [hself]
  exact ⟨rfl, Disk.Free.create hkept UPLOAD_FILE_NAME content⟩

/-- Before there is a directory. -/
theorem tidy_of_none {F : Type} {h : Handler} {s : TranscriptionQueue F} (hdir : h.dir = none)
    (haudio : (s.job h.jobId).audioPath = none) : h.Tidy s where
  name dir hsome := absurd (hdir.symm.trans hsome) (by simp)
  kept dir hsome := absurd (hdir.symm.trans hsome) (by simp)
  scratch dir hsome := absurd (hdir.symm.trans hsome) (by simp)
  audio _ := haudio

/-- Once there is one. -/
theorem tidy_of_some {F : Type} {h : Handler} {s : TranscriptionQueue F} {dir : PosixPath}
    (hdir : h.dir = some dir)
    (hname : UPLOAD_DIR_PREFIX.toList.isPrefixOf dir.name.toList = true)
    (hkept : Kept s.disk dir (s.job h.jobId).audioPath)
    (hscratch : (∀ sp mime hotwords, h.point ≠ .spooling sp mime hotwords) →
      h.scratch.Free dir) : h.Tidy s where
  name dir' hsome := by
    rw [← Option.some_inj.mp (hdir.symm.trans hsome)]
    exact hname
  kept dir' hsome := by
    rw [← Option.some_inj.mp (hdir.symm.trans hsome)]
    exact hkept
  scratch dir' hsome := by
    rw [← Option.some_inj.mp (hdir.symm.trans hsome)]
    exact hscratch
  audio hnone := absurd (hdir.symm.trans hnone) (by simp)

/-- **Every step of the handler keeps the invariant**, as long as `form.close()` and
`os.unlink` do what they should. -/
theorem Upkeep.move (hu : h.Upkeep s) (hc : Coherent s) (hd' : Discarded s')
    {i : HandlerInput} (hm : h.Move s i s' h') (hG : Closes (s, h) (.inr i)) : h'.Upkeep s' := by
  have hstands := hu.stands
  cases hm with
  | accept hp hid hroom =>
    rw [hp] at hstands
    have haudio := (hu.tidy (by rw [hp]; simp)).audio hstands.2
    refine ⟨⟨List.mem_append_right _ (List.mem_singleton.mpr rfl), ?_, hstands.2⟩,
      fun _ => tidy_of_none hstands.2 ?_⟩
    · simp [afterReserve]
    · simpa [afterReserve] using haudio
  | full hp hid e =>
    rw [hp] at hstands
    have haudio := (hu.tidy (by rw [hp]; simp)).audio hstands.2
    exact ⟨Or.inl hstands, fun _ => tidy_of_none hstands.2 haudio⟩
  | unparsed i unlink hp e =>
    rw [hp] at hstands
    obtain ⟨hid, hup, hdir⟩ := hstands
    have hover := isTerminal_cancel hc hid unlink
    exact ⟨Or.inr hover, fun _ => tidy_of_none hdir (hd' _ hover)⟩
  | rejected i hp e =>
    rw [hp] at hstands
    obtain ⟨hid, hup, hdir⟩ := hstands
    exact ⟨hid, fun _ => tidy_of_none hdir ((hu.tidy (by rw [hp]; simp)).audio hdir)⟩
  | unmade i unlink dir scratch s' hp hdir hfree hs e =>
    rw [hp] at hstands
    obtain ⟨hid, hup, hnone⟩ := hstands
    have haudio := (hu.tidy (by rw [hp]; simp)).audio hnone
    have hkept : Kept s.disk dir (s.job h.jobId).audioPath := by
      rw [haudio]
      exact hdir.1
    refine ⟨hs.reserved hc hid, fun _ => tidy_of_some rfl hdir.2.2 ?_ fun _ => hfree⟩
    exact hs.kept hc hdir.2.2 hkept
      (((s.job h.jobId).unlinkError_eq_none_iff unlink).mpr (Or.inl haudio))
  | opened i dir scratch mime hotwords hp hdir =>
    rw [hp] at hstands
    obtain ⟨hid, hup, hnone⟩ := hstands
    have haudio := (hu.tidy (by rw [hp]; simp)).audio hnone
    refine ⟨⟨hid, hup, haudio, rfl⟩, fun _ => tidy_of_some rfl hdir.2.2 ?_ fun hne => ?_⟩
    · show Kept s.disk dir (s.job h.jobId).audioPath
      rw [haudio]
      exact hdir.1
    · exact absurd rfl (hne _ _ _)
  | reading i sp sp' scratch mime hotwords hp hdir =>
    rw [hp] at hstands
    obtain ⟨hid, hup, haudio, hsome⟩ := hstands
    have htidy := hu.tidy (by rw [hp]; simp)
    refine ⟨⟨hid, hup, haudio, by rw [hdir]; exact hsome⟩, fun _ =>
      tidy_of_some hsome (htidy.name _ hsome) (htidy.kept _ hsome) fun hne => ?_⟩
    exact absurd rfl (hne _ _ _)
  | failed i unlink sp scratch mime hotwords s' hp hfree hs e =>
    rw [hp] at hstands
    obtain ⟨hid, hup, haudio, hsome⟩ := hstands
    have htidy := hu.tidy (by rw [hp]; simp)
    refine ⟨hs.reserved hc hid, fun _ =>
      tidy_of_some hsome (htidy.name _ hsome) ?_ fun _ => hfree⟩
    exact hs.kept hc (htidy.name _ hsome) (htidy.kept _ hsome)
      (((s.job h.jobId).unlinkError_eq_none_iff unlink).mpr (Or.inl haudio))
  | invalid chunk write close wav unlink sp scratch content mime hotwords duration s' hp hfree hs
      e =>
    have hcoherent := hc.step (hu.step_attach hp content duration)
    have hattached := hu.attached hp content duration
    rw [hp] at hstands
    obtain ⟨hid, hup, haudio, hsome⟩ := hstands
    have hname := (hu.tidy (by rw [hp]; simp)).name _ hsome
    refine ⟨hs.reserved hcoherent hid, fun _ => tidy_of_some hsome hname ?_ fun _ => hfree⟩
    exact hs.kept hcoherent hname hattached
      (TranscriptionJob.unlinkError_of_isClean _ hG)
  | submitted i sp scratch content mime hotwords duration hp hfree =>
    have hattached := hu.attached hp content duration
    rw [hp] at hstands
    obtain ⟨hid, hup, haudio, hsome⟩ := hstands
    have hname := (hu.tidy (by rw [hp]; simp)).name _ hsome
    refine ⟨hid, fun _ => tidy_of_some hsome hname ?_ fun _ => hfree⟩
    simpa [afterSubmit] using hattached
  | ready unlink hp => exact ⟨trivial, fun hne => absurd rfl hne⟩
  | released unlink e e' hp =>
    rw [hp] at hstands
    have htidy := hu.tidy (by rw [hp]; simp)
    have hover := isTerminal_cancel hc hstands unlink
    exact ⟨Or.inr hover, fun _ => ⟨htidy.name,
      fun dir hdir => kept_cancel hc (htidy.name dir hdir) (htidy.kept dir hdir) hG,
      fun dir hdir _ => htidy.scratch dir hdir (by simp [hp]), fun _ => hd' _ hover⟩⟩
  | lost unlink e result hp =>
    have htidy := hu.tidy (by rw [hp]; simp)
    exact ⟨Or.inr hG, fun _ => ⟨htidy.name, htidy.kept,
      fun dir hdir _ => htidy.scratch dir hdir (by simp [hp]), htidy.audio⟩⟩

/-- A handler has one job. -/
theorem Move.jobId_eq {F : Type} {s s' : TranscriptionQueue F} {h h' : Handler} {i : HandlerInput}
    (hm : h.Move s i s' h') : h'.jobId = h.jobId := by
  cases hm <;> rfl

end Handler

namespace TranscriptionQueue

/-! ## Runs -/

variable {pf : ProcessFn} {maxSize maxAudioBytes : ℕ} {id : JobId} {who : String}
variable {s : TranscriptionQueue pf.Frame} {h : Handler}

/-- **The invariant holds in every state reached.** -/
theorem upkeep_of_reachable
    (hr : (handlerSystem pf maxSize id who maxAudioBytes).ReachableWhen Closes (s, h)) :
    (system pf maxSize).Reachable s ∧ h.jobId = id ∧ h.Upkeep s := by
  refine hr.induction
    (fun c => (system pf maxSize).Reachable c.1 ∧ c.2.jobId = id ∧ c.2.Upkeep c.1) ?_ ?_
  · rintro ⟨s, h⟩ ⟨rfl, rfl⟩
    exact ⟨TransitionSystem.ReachableWhen.of_init rfl, rfl, ⟨List.not_mem_nil, rfl⟩,
      fun _ => Handler.tidy_of_none rfl rfl⟩
  · rintro ⟨s, h⟩ a c - ⟨hreach, hid, hu⟩ hG hst
    have hc := coherent_of_reachable hreach
    cases a with
    | inl a =>
      obtain ⟨hallow, t, ht, rfl⟩ := TransitionSystem.joined_step_inl hst
      exact ⟨hreach.tail trivial ht, hid,
        hu.others hc (discarded_of_reachable hreach) ht hallow hG⟩
    | inr i =>
      have hm := Handler.move_of_step hst
      have hreach' := hreach.run (hu.run hc hm)
      exact ⟨hreach', hm.jobId_eq.trans hid, hu.move hc (discarded_of_reachable hreach') hm hG⟩

/-- **No upload slot leaks**, in a run in which `form.close()` and `os.unlink` do what
they should.  When the handler has exited, it has returned the response, or its job is
over and nothing of its upload is left. -/
theorem no_slot_leak
    (hr : (handlerSystem pf maxSize id who maxAudioBytes).ReachableWhen Closes (s, h))
    {result : Reply Unit} (hp : h.point = .exited result) (hid : id ∈ s.history.reserved) :
    result = .ok () ∨
      (s.job id).status.isTerminal = true ∧ (s.job id).status.isActive = false ∧
        (s.job id).audioPath = none ∧
        ∀ dir, h.dir = some dir → s.disk.Free dir ∧ h.scratch.Free dir := by
  obtain ⟨hreach, rfl, hu⟩ := upkeep_of_reachable hr
  cases result with
  | ok _ => exact Or.inl rfl
  | error e =>
    have hstands := hu.stands
    rw [hp] at hstands
    have hover : (s.job h.jobId).status.isTerminal = true :=
      hstands.resolve_left fun hfree => hfree.1 hid
    have haudio := discarded_of_reachable hreach _ hover
    have htidy := hu.tidy (by rw [hp]; simp)
    refine Or.inr ⟨hover, ?_, haudio, fun dir hdir => ⟨?_, htidy.scratch dir hdir (by simp [hp])⟩⟩
    · rw [JobStatus.isActive_eq, hover]
      rfl
    · have hkept := htidy.kept dir hdir
      rw [haudio] at hkept
      exact hkept

/-- An upload that is not a WAV file: the handler cancels its job and raises. -/
theorem no_slot_leak_invalid :
    ∃ s h, (handlerSystem (processFn emptyListText .groq) 1 "a" "x" 9).execWhen Closes
        ({ maxSize := 1 }, { jobId := "a", clientIdentity := "x", maxAudioBytes := 9 })
        [.inr .enter, .inr (.parsed (.ok ()) (.ok none) (.ok "audio/wav") ["tmp", "vvv-upload-1"]
            (.ok ()) (.ok ()) .removed),
          .inr (.read (.ok [0]) (.ok ()) (.ok ()) (.ok 0) .removed),
          .inr (.read (.ok []) (.ok ()) (.ok ()) (.error (.valueError ⟨"ValueError", "RIFF"⟩))
            .removed),
          .inr (.closed (.ok ()) .removed)] = some (s, h) ∧
      (s.job "a").status.isActive = false ∧ s.disk.Free ["tmp", "vvv-upload-1"] := by
  have hrun : (handlerSystem (processFn emptyListText .groq) 1 "a" "x" 9).execWhen Closes
      ({ maxSize := 1 }, { jobId := "a", clientIdentity := "x", maxAudioBytes := 9 })
      [.inr .enter, .inr (.parsed (.ok ()) (.ok none) (.ok "audio/wav") ["tmp", "vvv-upload-1"]
          (.ok ()) (.ok ()) .removed),
        .inr (.read (.ok [0]) (.ok ()) (.ok ()) (.ok 0) .removed),
        .inr (.read (.ok []) (.ok ()) (.ok ()) (.error (.valueError ⟨"ValueError", "RIFF"⟩))
          .removed),
        .inr (.closed (.ok ()) .removed)] = some (_, _) := rfl
  have hend := no_slot_leak
    (TransitionSystem.reachableWhen_of_execWhen _ (by exact ⟨rfl, rfl⟩) hrun) rfl (by decide)
  rcases hend with hok | ⟨-, hactive, -, hfree⟩
  · exact absurd hok (by simp)
  · exact ⟨_, _, hrun, hactive, (hfree _ rfl).1⟩

/-- The form is refused, and the handler is cancelled while it closes it: the slot stays
taken. -/
theorem slot_leaked :
    ∃ s h, (handlerSystem (processFn emptyListText .groq) 1 "a" "x" 9).exec
        ({ maxSize := 1 }, { jobId := "a", clientIdentity := "x", maxAudioBytes := 9 })
        [.inr .enter, .inr (.parsed (.ok ()) (.error (.http 400 "Audio file is required"))
            (.ok "audio/wav") ["tmp", "vvv-upload-1"] (.ok ()) (.ok ()) .removed),
          .inr (.closed (.error .cancelled) .removed)] = some (s, h) ∧
      h.point = .exited (.error .cancelled) ∧ "a" ∈ s.history.reserved ∧
      (s.job "a").status = .uploading ∧ (s.reserve "b" "y").1 = .error queueFull :=
  ⟨_, _, rfl, rfl, by decide, rfl, rfl⟩

end TranscriptionQueue

end VibeVoice
