import VibeVoice.Server.Steps

/-!
# `POST /v1/transcribe`

The handler of `routes/transcribe.py`, from `queue.reserve` to its exit, with
`_transcribe_authenticated` and `_spool_upload`.

It is suspended at three kinds of await: the parsing of the form, one read of the
upload after another, and `form.close()`.  What an awaited operation or a check
comes back with is handed in: a value, an exception, or a `CancelledError`.  So
the checks of the form and of the audio file are not computed here; the handler
is the same for whatever they say.

There are two cleanup layers.  The `except Exception` around the spooling cancels
the job, which a `CancelledError` bypasses.  The outer `finally` cancels it unless
the response is ready --- after it has awaited `form.close()`.

## The disk

A temporary directory belongs to the handler until the job has its `audio_path`.
For that time it is kept apart, in `scratch`; `attach` moves it to the disk of the
queue.  `tempfile.mkdtemp` makes a directory that is not there yet, and the other
handlers make theirs, so nobody else writes into it.  `shutil.rmtree` succeeds.
-/

namespace VibeVoice

/-- What an operation comes back with. -/
abbrev Reply (α : Type) := Except RequestError α

namespace RequestError

/-- `isinstance(exc, Exception)` -/
def isException : RequestError → Bool
  | cancelled => false
  | _ => true

/-- An `OSError` of the spooling, as the client sees it. -/
def ofSpool : RequestError → RequestError
  | osError _ => http 507 "Temporary upload storage exhausted"
  | e => e

/-- A `ValueError` of `validate_heliboard_wav_metadata`. -/
def ofMetadata : RequestError → RequestError
  | valueError exc => http 400 exc.text
  | e => e

/-- A `ValueError` of `read_heliboard_wav_info`. -/
def ofWav : RequestError → RequestError
  | valueError exc => http 422 ("Invalid HeliBoard WAV: " ++ exc.text)
  | e => e

end RequestError

/-! ## `_spool_upload` -/

/-- `_spool_upload`, at `await upload.read(…)`. -/
structure Spool where
  /-- `upload_dir` -/
  dir : PosixPath
  total : ℕ := 0

namespace Spool

/-- `path` -/
def path (sp : Spool) : PosixPath := sp.dir.join UPLOAD_FILE_NAME

/-- Up to the first read. -/
def start (scratch : Disk) (dir : PosixPath) (mkdtemp create : Reply Unit) : Reply Spool × Disk :=
  match mkdtemp with
  | .error e => (.error e, scratch)
  | .ok () =>
    let scratch := scratch.mkdir dir
    match create with
    | .error e => (.error e, scratch.rmtree dir)
    | .ok () => (.ok { dir := dir }, scratch.create (dir.join UPLOAD_FILE_NAME) [])

/-- The exception that leaves the `with` block: closing the file may raise another. -/
def leaving (e : RequestError) : Reply Unit → RequestError
  | .error e' => e'
  | .ok () => e

/-- What one read leads to. -/
inductive Outcome where
  | reading (sp : Spool) : Outcome
  | returned : Outcome
  | raised (e : RequestError) : Outcome

/-- From one read to the next: what `upload.read`, `out.write` and the closing of
the file come back with. -/
def turn (sp : Spool) (maxAudioBytes : ℕ) (scratch : Disk) (read : Reply (List UInt8))
    (write close : Reply Unit) : Outcome × Disk :=
  match read with
  | .error e => (.raised (leaving e close), scratch.rmtree sp.dir)
  | .ok [] =>
    match close with
    | .error e => (.raised e, scratch.rmtree sp.dir)
    | .ok () =>
      if sp.total = 0 then (.raised (.http 400 "Empty audio file"), scratch.rmtree sp.dir)
      else (.returned, scratch)
  | .ok chunk =>
    if sp.total + chunk.length > maxAudioBytes then
      (.raised (leaving (.http 413 "Audio file too large") close), scratch.rmtree sp.dir)
    else
      match write with
      | .error e => (.raised (leaving e close), scratch.rmtree sp.dir)
      | .ok () =>
        (.reading { sp with total := sp.total + chunk.length }, scratch.append sp.path chunk)

/-- Whatever the file operations say, a directory that is not handed on is removed. -/
theorem start_spec (scratch : Disk) (dir : PosixPath) (mkdtemp create : Reply Unit)
    (hfree : scratch.Free dir) :
    (∃ e scratch', start scratch dir mkdtemp create = (.error e, scratch') ∧
        scratch'.Free dir) ∨
      ∃ scratch', start scratch dir mkdtemp create = (.ok ⟨dir, 0⟩, scratch') := by
  unfold start
  cases mkdtemp with
  | error e => exact Or.inl ⟨e, scratch, rfl, hfree⟩
  | ok _ =>
    cases create with
    | error e => exact Or.inl ⟨e, _, rfl, Disk.free_rmtree _ _⟩
    | ok _ => exact Or.inr ⟨_, rfl⟩

theorem turn_spec (sp : Spool) (maxAudioBytes : ℕ) (scratch : Disk)
    (read : Reply (List UInt8)) (write close : Reply Unit) :
    (∃ e scratch', sp.turn maxAudioBytes scratch read write close = (.raised e, scratch') ∧
        scratch'.Free sp.dir) ∨
      (∃ sp' scratch', sp.turn maxAudioBytes scratch read write close = (.reading sp', scratch') ∧
        sp'.dir = sp.dir) ∨
      ∃ scratch', sp.turn maxAudioBytes scratch read write close = (.returned, scratch') := by
  have hraised (e : RequestError) : ∃ e' scratch', (Outcome.raised e, scratch.rmtree sp.dir) =
      (Outcome.raised e', scratch') ∧ scratch'.Free sp.dir :=
    ⟨e, _, rfl, Disk.free_rmtree _ _⟩
  unfold turn
  split
  · exact Or.inl (hraised _)
  · split
    · exact Or.inl (hraised _)
    · split
      · exact Or.inl (hraised _)
      · exact Or.inr (Or.inr ⟨_, rfl⟩)
  · split
    · exact Or.inl (hraised _)
    · split
      · exact Or.inl (hraised _)
      · exact Or.inr (Or.inl ⟨_, _, rfl, rfl⟩)

end Spool

/-! ## `transcribe` -/

/-- Where the handler is. -/
inductive HandlerPoint where
  /-- It has not reserved a slot. -/
  | entered
  /-- At `await _parse_transcribe_form(request)`. -/
  | parsing
  /-- At `await upload.read(…)`. -/
  | spooling (sp : Spool) (mime : String) (hotwords : Option String)
  /-- At `await form.close()`, with the response ready or an exception on its way. -/
  | closing (result : Reply Unit)
  /-- It has returned the response, or raised. -/
  | exited (result : Reply Unit)

/-- One call of `transcribe`. -/
structure Handler where
  jobId : JobId
  clientIdentity : String
  /-- `settings.max_audio_bytes` -/
  maxAudioBytes : ℕ
  point : HandlerPoint := .entered
  /-- The name of the temporary directory, once there was one. -/
  dir : Option PosixPath := none
  /-- The temporary directory, while no job owns it. -/
  scratch : Disk := Disk.empty

/-- What resumes the handler, and what the operations of the step come back with. -/
inductive HandlerInput where
  /-- The request is there. -/
  | enter : HandlerInput
  /-- The form is parsed; `extracted` and `mime` are what the checks of the form and of
  the metadata say. -/
  | parsed (form : Reply Unit) (extracted : Reply (Option String)) (mime : Reply String)
      (dir : PosixPath) (mkdtemp create : Reply Unit) (unlink : UnlinkOutcome) : HandlerInput
  /-- A read is over; `wav` is what the check of the audio file says. -/
  | read (chunk : Reply (List UInt8)) (write close : Reply Unit) (wav : Reply ℚ)
      (unlink : UnlinkOutcome) : HandlerInput
  /-- `form.close()` is over. -/
  | closed (reply : Reply Unit) (unlink : UnlinkOutcome) : HandlerInput

namespace Handler

open TranscriptionQueue

variable {F : Type}

/-- `queue.cancel(job.job_id)`, with `e` on its way out. -/
def cancelRaising (h : Handler) (s : TranscriptionQueue F) (e : RequestError)
    (unlink : UnlinkOutcome) : RequestError × TranscriptionQueue F :=
  match s.cancel h.jobId unlink with
  | (.ok _, s) => (e, s)
  | (.error exc, s) => (.osError exc, s)

/-- The `except Exception` of `_transcribe_authenticated`. -/
def refuse (h : Handler) (s : TranscriptionQueue F) (e : RequestError) (unlink : UnlinkOutcome) :
    RequestError × TranscriptionQueue F :=
  if e.isException then h.cancelRaising s e unlink else (e, s)

/-- `_spool_upload` has raised `e`. -/
def unspooled (h : Handler) (s : TranscriptionQueue F) (e : RequestError) (scratch : Disk)
    (unlink : UnlinkOutcome) : TranscriptionQueue F × Handler :=
  let result := h.refuse s e.ofSpool unlink
  (result.2, { h with scratch := scratch, point := .closing (.error result.1) })

/-- `_spool_upload` has returned: the job gets its audio, and is submitted.  The
fields `audio_mime` and `hotwords` are written with it; nobody reads them before. -/
def spooled (h : Handler) (s : TranscriptionQueue F) (sp : Spool) (mime : String)
    (hotwords : Option String) (wav : Reply ℚ) (unlink : UnlinkOutcome) :
    TranscriptionQueue F × Handler :=
  let content := h.scratch.content sp.path
  let h := { h with scratch := h.scratch.rmtree sp.dir }
  match wav with
  | .error e =>
    let result := h.refuse (s.afterAttach h.jobId sp.path content mime hotwords 0) e.ofWav unlink
    (result.2, { h with point := .closing (.error result.1) })
  | .ok duration =>
    match (s.afterAttach h.jobId sp.path content mime hotwords duration).submit h.jobId with
    | (.ok (), s) => (s, { h with point := .closing (.ok ()) })
    | (.error exc, s) =>
      let result := h.refuse s (.other exc) unlink
      (result.2, { h with point := .closing (.error result.1) })

/-- A directory `tempfile.mkdtemp` can make. -/
def CanMake (h : Handler) (s : TranscriptionQueue F) (dir : PosixPath) : Prop :=
  s.disk.Free dir ∧ h.scratch.Free dir ∧
    UPLOAD_DIR_PREFIX.toList.isPrefixOf dir.name.toList = true

instance (h : Handler) (s : TranscriptionQueue F) (dir : PosixPath) : Decidable (h.CanMake s dir) :=
  inferInstanceAs (Decidable (_ ∧ _))

/-- One step of the handler, from a resumption to the next suspension. -/
def step (s : TranscriptionQueue F) (h : Handler) :
    HandlerInput → Option (TranscriptionQueue F × Handler)
  | .enter =>
    match h.point with
    | .entered =>
      if h.jobId ∈ s.history.reserved then none
      else
        match s.reserve h.jobId h.clientIdentity with
        | (.ok (), s) => some (s, { h with point := .parsing })
        | (.error _, s) =>
          some (s, { h with point := .exited (.error (.http 503 "Queue is full")) })
    | _ => none
  | .parsed form extracted mime dir mkdtemp create unlink =>
    match h.point with
    | .parsing =>
      match form with
      | .error e =>
        let result := h.cancelRaising s e unlink
        some (result.2, { h with point := .exited (.error result.1) })
      | .ok () =>
        match extracted with
        | .error e => some (s, { h with point := .closing (.error e) })
        | .ok hotwords =>
          match mime with
          | .error e => some (s, { h with point := .closing (.error e.ofMetadata) })
          | .ok mime =>
            if h.CanMake s dir then
              let h := { h with dir := some dir }
              match Spool.start h.scratch dir mkdtemp create with
              | (.error e, scratch) => some (h.unspooled s e scratch unlink)
              | (.ok sp, scratch) =>
                some (s, { h with scratch := scratch, point := .spooling sp mime hotwords })
            else none
    | _ => none
  | .read chunk write close wav unlink =>
    match h.point with
    | .spooling sp mime hotwords =>
      match sp.turn h.maxAudioBytes h.scratch chunk write close with
      | (.reading sp, scratch) =>
        some (s, { h with scratch := scratch, point := .spooling sp mime hotwords })
      | (.raised e, scratch) => some (h.unspooled s e scratch unlink)
      | (.returned, scratch) =>
        some ({ h with scratch := scratch }.spooled s sp mime hotwords wav unlink)
    | _ => none
  | .closed reply unlink =>
    match h.point with
    | .closing result =>
      match reply with
      | .error e => some (s, { h with point := .exited (.error e) })
      | .ok () =>
        match result with
        | .ok () => some (s, { h with point := .exited (.ok ()) })
        | .error e =>
          let result := h.cancelRaising s e unlink
          some (result.2, { h with point := .exited (.error result.1) })
    | _ => none

/-! ## What a step can be -/

/-- The job is cancelled, or is not. -/
inductive Refused (id : JobId) (s : TranscriptionQueue F) (unlink : UnlinkOutcome) :
    TranscriptionQueue F → Prop where
  | keep : Refused id s unlink s
  | cancel : Refused id s unlink (s.cancel id unlink).2

/-- **What a step can be**: where it was taken, and what it leaves. -/
inductive Move (s : TranscriptionQueue F) (h : Handler) :
    HandlerInput → TranscriptionQueue F → Handler → Prop where
  | accept (hp : h.point = .entered) (hid : h.jobId ∉ s.history.reserved)
      (hroom : s.activeCount < s.maxSize) :
      Move s h .enter (s.afterReserve h.jobId h.clientIdentity) { h with point := .parsing }
  | full (hp : h.point = .entered) (hid : h.jobId ∉ s.history.reserved) (e : RequestError) :
      Move s h .enter s { h with point := .exited (.error e) }
  /-- No form, and so no `form.close()`. -/
  | unparsed (i : HandlerInput) (unlink : UnlinkOutcome) (hp : h.point = .parsing)
      (e : RequestError) :
      Move s h i (s.cancel h.jobId unlink).2 { h with point := .exited (.error e) }
  | rejected (i : HandlerInput) (hp : h.point = .parsing) (e : RequestError) :
      Move s h i s { h with point := .closing (.error e) }
  /-- `mkdtemp`, or the creation of the file, failed. -/
  | unmade (i : HandlerInput) (unlink : UnlinkOutcome) (dir : PosixPath) (scratch : Disk)
      (s' : TranscriptionQueue F) (hp : h.point = .parsing) (hdir : h.CanMake s dir)
      (hfree : scratch.Free dir) (hs : Refused h.jobId s unlink s') (e : RequestError) :
      Move s h i s'
        { h with dir := some dir, scratch := scratch, point := .closing (.error e) }
  | opened (i : HandlerInput) (dir : PosixPath) (scratch : Disk) (mime : String)
      (hotwords : Option String) (hp : h.point = .parsing) (hdir : h.CanMake s dir) :
      Move s h i s
        { h with dir := some dir, scratch := scratch, point := .spooling ⟨dir, 0⟩ mime hotwords }
  | reading (i : HandlerInput) (sp sp' : Spool) (scratch : Disk) (mime : String)
      (hotwords : Option String) (hp : h.point = .spooling sp mime hotwords)
      (hdir : sp'.dir = sp.dir) :
      Move s h i s { h with scratch := scratch, point := .spooling sp' mime hotwords }
  /-- `_spool_upload` failed. -/
  | failed (i : HandlerInput) (unlink : UnlinkOutcome) (sp : Spool) (scratch : Disk)
      (mime : String) (hotwords : Option String) (s' : TranscriptionQueue F)
      (hp : h.point = .spooling sp mime hotwords) (hfree : scratch.Free sp.dir)
      (hs : Refused h.jobId s unlink s') (e : RequestError) :
      Move s h i s' { h with scratch := scratch, point := .closing (.error e) }
  /-- The file, or the submission, was refused. -/
  | invalid (chunk : Reply (List UInt8)) (write close : Reply Unit) (wav : Reply ℚ)
      (unlink : UnlinkOutcome) (sp : Spool) (scratch : Disk) (content : List UInt8)
      (mime : String) (hotwords : Option String) (duration : ℚ) (s' : TranscriptionQueue F)
      (hp : h.point = .spooling sp mime hotwords) (hfree : scratch.Free sp.dir)
      (hs : Refused h.jobId (s.afterAttach h.jobId sp.path content mime hotwords duration)
        unlink s')
      (e : RequestError) :
      Move s h (.read chunk write close wav unlink) s'
        { h with scratch := scratch, point := .closing (.error e) }
  | submitted (i : HandlerInput) (sp : Spool) (scratch : Disk) (content : List UInt8)
      (mime : String) (hotwords : Option String) (duration : ℚ)
      (hp : h.point = .spooling sp mime hotwords) (hfree : scratch.Free sp.dir) :
      Move s h i
        ((s.afterAttach h.jobId sp.path content mime hotwords duration).afterSubmit h.jobId)
        { h with scratch := scratch, point := .closing (.ok ()) }
  | ready (unlink : UnlinkOutcome) (hp : h.point = .closing (.ok ())) :
      Move s h (.closed (.ok ()) unlink) s { h with point := .exited (.ok ()) }
  | released (unlink : UnlinkOutcome) (e e' : RequestError) (hp : h.point = .closing (.error e)) :
      Move s h (.closed (.ok ()) unlink) (s.cancel h.jobId unlink).2
        { h with point := .exited (.error e') }
  /-- `form.close()` failed: nothing else is done. -/
  | lost (unlink : UnlinkOutcome) (e : RequestError) (result : Reply Unit)
      (hp : h.point = .closing result) :
      Move s h (.closed (.error e) unlink) s { h with point := .exited (.error e) }

theorem cancelRaising_snd (h : Handler) (s : TranscriptionQueue F) (e : RequestError)
    (unlink : UnlinkOutcome) : (h.cancelRaising s e unlink).2 = (s.cancel h.jobId unlink).2 := by
  unfold cancelRaising
  split <;> rename_i hc <;> rw [hc]

theorem refuse_snd (h : Handler) (s : TranscriptionQueue F) (e : RequestError)
    (unlink : UnlinkOutcome) : Refused h.jobId s unlink (h.refuse s e unlink).2 := by
  unfold refuse
  split
  · rw [cancelRaising_snd]
    exact .cancel
  · exact .keep

/-- A `submit` that raises. -/
theorem submit_raises {s : TranscriptionQueue F} {id : JobId}
    (h : ¬ (id ∈ s.jobs ∧ (s.job id).status = .uploading)) : ∃ e, s.submit id = (.error e, s) := by
  have hsame := submit_of_not h
  cases hr : s.submit id with
  | mk r s₁ =>
    rw [hr] at hsame
    cases r with
    | error e => exact ⟨e, by rw [← hsame]⟩
    | ok _ =>
      unfold submit at hr
      split at hr
      · simp at hr
      · split at hr
        · simp at hr
        · rename_i hid hst
          exact absurd ⟨not_not.mp hid, not_not.mp hst⟩ h

/-- The parsing of the form is over. -/
theorem move_of_parsed {s s' : TranscriptionQueue F} {h h' : Handler} {form : Reply Unit}
    {extracted : Reply (Option String)} {mime : Reply String} {dir : PosixPath}
    {mkdtemp create : Reply Unit} {unlink : UnlinkOutcome}
    (hst : h.step s (.parsed form extracted mime dir mkdtemp create unlink) = some (s', h')) :
    Move s h (.parsed form extracted mime dir mkdtemp create unlink) s' h' := by
  cases hp : h.point with
  | entered | spooling | closing | exited => simp [step, hp] at hst
  | parsing =>
    simp only [step, hp] at hst
    cases form with
    | error e =>
      simp only [Option.some.injEq, Prod.mk.injEq] at hst
      obtain ⟨rfl, rfl⟩ := hst
      rw [cancelRaising_snd]
      exact .unparsed _ unlink hp _
    | ok _ =>
      cases extracted with
      | error e =>
        simp only [Option.some.injEq, Prod.mk.injEq] at hst
        obtain ⟨rfl, rfl⟩ := hst
        exact .rejected _ hp _
      | ok hotwords =>
        cases mime with
        | error e =>
          simp only [Option.some.injEq, Prod.mk.injEq] at hst
          obtain ⟨rfl, rfl⟩ := hst
          exact .rejected _ hp _
        | ok mime =>
          simp only at hst
          split at hst
          · rename_i hdir
            rcases Spool.start_spec h.scratch dir mkdtemp create hdir.2.1 with
              ⟨e, scratch, hstart, hfree⟩ | ⟨scratch, hstart⟩
            · rw [hstart] at hst
              simp only [Option.some.injEq, unspooled, Prod.mk.injEq] at hst
              obtain ⟨rfl, rfl⟩ := hst
              exact .unmade _ unlink dir scratch _ hp hdir hfree
                (refuse_snd { h with dir := some dir } s e.ofSpool unlink) _
            · rw [hstart] at hst
              simp only [Option.some.injEq, Prod.mk.injEq] at hst
              obtain ⟨rfl, rfl⟩ := hst
              exact .opened _ dir scratch mime hotwords hp hdir
          · exact absurd hst (by simp)

/-- `_spool_upload` has returned. -/
theorem move_of_spooled {s s' : TranscriptionQueue F} {h h' : Handler} {sp : Spool}
    {mime : String} {hotwords : Option String} {scratch : Disk}
    (hp : h.point = .spooling sp mime hotwords) (chunk : Reply (List UInt8))
    (write close : Reply Unit) (wav : Reply ℚ) (unlink : UnlinkOutcome)
    (hst : { h with scratch := scratch }.spooled s sp mime hotwords wav unlink = (s', h')) :
    Move s h (.read chunk write close wav unlink) s' h' := by
  have hfree := Disk.free_rmtree scratch sp.dir
  unfold spooled at hst
  cases wav with
  | error e =>
    simp only [Prod.mk.injEq] at hst
    obtain ⟨rfl, rfl⟩ := hst
    exact .invalid chunk write close _ unlink sp _ _ mime hotwords 0 _ hp hfree
      (refuse_snd _ _ _ _) _
  | ok duration =>
    simp only at hst
    by_cases hok : h.jobId ∈ (s.afterAttach h.jobId sp.path (scratch.content sp.path) mime hotwords
        duration).jobs ∧ ((s.afterAttach h.jobId sp.path (scratch.content sp.path) mime hotwords
        duration).job h.jobId).status = .uploading
    · rw [submit_of_uploading hok.1 hok.2] at hst
      simp only [Prod.mk.injEq] at hst
      obtain ⟨rfl, rfl⟩ := hst
      exact .submitted _ sp _ _ mime hotwords duration hp hfree
    · obtain ⟨exc, hraise⟩ := submit_raises hok
      rw [hraise] at hst
      simp only [Prod.mk.injEq] at hst
      obtain ⟨rfl, rfl⟩ := hst
      exact .invalid chunk write close _ unlink sp _ _ mime hotwords duration _ hp hfree
        (refuse_snd _ _ _ _) _

/-- **Every step of the handler is one of them.** -/
theorem move_of_step {s s' : TranscriptionQueue F} {h h' : Handler} {i : HandlerInput}
    (hst : h.step s i = some (s', h')) : Move s h i s' h' := by
  cases i with
  | enter =>
    cases hp : h.point with
    | parsing | spooling | closing | exited => simp [step, hp] at hst
    | entered =>
      simp only [step, hp] at hst
      split at hst
      · exact absurd hst (by simp)
      · rename_i hid
        by_cases hroom : s.activeCount < s.maxSize
        · rw [reserve_of_room _ _ hroom] at hst
          simp only [Option.some.injEq, Prod.mk.injEq] at hst
          obtain ⟨rfl, rfl⟩ := hst
          exact .accept hp hid hroom
        · rw [reserve_of_full _ _ (Nat.le_of_not_lt hroom)] at hst
          simp only [Option.some.injEq, Prod.mk.injEq] at hst
          obtain ⟨rfl, rfl⟩ := hst
          exact .full hp hid _
  | parsed => exact move_of_parsed hst
  | read chunk write close wav unlink =>
    cases hp : h.point with
    | entered | parsing | closing | exited => simp [step, hp] at hst
    | spooling sp mime hotwords =>
      simp only [step, hp] at hst
      rcases sp.turn_spec h.maxAudioBytes h.scratch chunk write close with
        ⟨e, scratch, hturn, hfree⟩ | ⟨sp', scratch, hturn, hdir⟩ | ⟨scratch, hturn⟩
      · rw [hturn] at hst
        simp only [Option.some.injEq, unspooled, Prod.mk.injEq] at hst
        obtain ⟨rfl, rfl⟩ := hst
        exact .failed _ unlink sp scratch mime hotwords _ hp hfree (refuse_snd _ _ _ _) _
      · rw [hturn] at hst
        simp only [Option.some.injEq, Prod.mk.injEq] at hst
        obtain ⟨rfl, rfl⟩ := hst
        exact .reading _ sp sp' scratch mime hotwords hp hdir
      · rw [hturn] at hst
        exact move_of_spooled hp chunk write close wav unlink (Option.some_inj.mp hst)
  | closed reply unlink =>
    cases hp : h.point with
    | entered | parsing | spooling | exited => simp [step, hp] at hst
    | closing result =>
      simp only [step, hp] at hst
      cases reply with
      | error e =>
        simp only [Option.some.injEq, Prod.mk.injEq] at hst
        obtain ⟨rfl, rfl⟩ := hst
        exact .lost unlink e result hp
      | ok _ =>
        cases result with
        | ok _ =>
          simp only [Option.some.injEq, Prod.mk.injEq] at hst
          obtain ⟨rfl, rfl⟩ := hst
          exact .ready unlink hp
        | error e =>
          simp only [Option.some.injEq, Prod.mk.injEq] at hst
          obtain ⟨rfl, rfl⟩ := hst
          rw [cancelRaising_snd]
          exact .released unlink e _ hp

end Handler

end VibeVoice
