import VibeVoice.Server.Upload

/-!
# One upload, from the first read to the last

`_spool_upload` is modelled step by step, since the handler is suspended at each read.
Here the steps are put together: an upload is a list of chunks, which `upload.read`
comes back with one after the other, and then with nothing.  At every call something can
fail (`SpoolFaults`).

The result depends on the chunks through what they are together.  While the loop runs,
the file holds the chunks that were read, and `total` is its length (`Spool.Holding`);
so the bound is reached at the same byte however the chunks are cut, and it is looked at
before a chunk is written.

What is raised is what was raised first (`SpoolRaises`), by the call that failed or by
one of the two checks, and then the directory is gone.  A file that cannot be closed
counts as a failure of its own.
-/

namespace VibeVoice

/-! ## A run -/

/-- What the calls come back with: the reads and the writes by their number. -/
structure SpoolFaults where
  mkdtemp : Reply Unit := .ok ()
  create : Reply Unit := .ok ()
  read : ℕ → Reply Unit := fun _ => .ok ()
  write : ℕ → Reply Unit := fun _ => .ok ()
  close : Reply Unit := .ok ()

/-- What the calls of one turn of the loop come back with. -/
structure SpoolTurn where
  read : Reply (List UInt8)
  write : Reply Unit
  close : Reply Unit

/-- The turns of an upload: its chunks, and the end of it. -/
def SpoolFaults.turns (faults : SpoolFaults) : ℕ → List (List UInt8) → List SpoolTurn
  | i, [] => [⟨(faults.read i).map fun _ => [], faults.write i, faults.close⟩]
  | i, chunk :: chunks =>
    ⟨(faults.read i).map fun _ => chunk, faults.write i, faults.close⟩ ::
      faults.turns (i + 1) chunks

namespace Spool

/-- Turn after turn.  There is no result while it waits for another read. -/
def run (maxAudioBytes : ℕ) :
    Spool → Disk → List SpoolTurn → Option (Reply (PosixPath × ℕ)) × Disk
  | _, scratch, [] => (none, scratch)
  | sp, scratch, t :: ts =>
    match sp.turn maxAudioBytes scratch t.read t.write t.close with
    | (.reading sp, scratch) => run maxAudioBytes sp scratch ts
    | (.returned, scratch) => (some (.ok (sp.path, sp.total)), scratch)
    | (.raised e, scratch) => (some (.error e), scratch)

/-- The disk at every moment of one turn but its end: `out.write` may have written any part
of the chunk. -/
def writing (sp : Spool) (maxAudioBytes : ℕ) (scratch : Disk) : Reply (List UInt8) → List Disk
  | .error _ => []
  | .ok chunk =>
    if sp.total + chunk.length > maxAudioBytes then []
    else (List.range (chunk.length + 1)).map fun n => scratch.append sp.path (chunk.take n)

/-- The disk at every moment of a run. -/
def moments (maxAudioBytes : ℕ) : Spool → Disk → List SpoolTurn → List Disk
  | _, scratch, [] => [scratch]
  | sp, scratch, t :: ts =>
    scratch :: (sp.writing maxAudioBytes scratch t.read ++
      match sp.turn maxAudioBytes scratch t.read t.write t.close with
      | (.reading sp, scratch) => moments maxAudioBytes sp scratch ts
      | (_, scratch) => [scratch])

end Spool

/-- `_spool_upload`, in a directory `dir` that `mkdtemp` makes. -/
def spoolUpload (maxAudioBytes : ℕ) (scratch : Disk) (dir : PosixPath) (faults : SpoolFaults)
    (chunks : List (List UInt8)) : Option (Reply (PosixPath × ℕ)) × Disk :=
  match Spool.start scratch dir faults.mkdtemp faults.create with
  | (.error e, scratch) => (some (.error e), scratch)
  | (.ok sp, scratch) => sp.run maxAudioBytes scratch (faults.turns 0 chunks)

/-- The disk at every moment of it. -/
def spoolMoments (maxAudioBytes : ℕ) (scratch : Disk) (dir : PosixPath) (faults : SpoolFaults)
    (chunks : List (List UInt8)) : List Disk :=
  scratch ::
    match faults.mkdtemp with
    | .error _ => []
    | .ok () =>
      scratch.mkdir dir ::
        match Spool.start scratch dir (.ok ()) faults.create with
        | (.error _, scratch) => [scratch]
        | (.ok sp, scratch) => sp.moments maxAudioBytes scratch (faults.turns 0 chunks)

/-! ## What is raised -/

section Raises

variable (faults : SpoolFaults) (maxAudioBytes : ℕ) (chunks : List (List UInt8))

/-- The loop gets to the read with this number. -/
structure SpoolReaches (i : ℕ) : Prop where
  mkdtemp : faults.mkdtemp = .ok ()
  create : faults.create = .ok ()
  read : ∀ j < i, faults.read j = .ok ()
  write : ∀ j < i, faults.write j = .ok ()
  bound : (chunks.take i).flatten.length ≤ maxAudioBytes
  le : i ≤ chunks.length

/-- **What is raised first.** -/
inductive SpoolRaises : RequestError → Prop where
  | mkdtemp {e : RequestError} (h : faults.mkdtemp = .error e) : SpoolRaises e
  | create {e : RequestError} (hmkdtemp : faults.mkdtemp = .ok ())
      (h : faults.create = .error e) : SpoolRaises e
  | read {e : RequestError} (i : ℕ) (hi : SpoolReaches faults maxAudioBytes chunks i)
      (h : faults.read i = .error e) : SpoolRaises e
  | tooLarge (i : ℕ) (hi : SpoolReaches faults maxAudioBytes chunks i)
      (hread : faults.read i = .ok ()) (hlt : i < chunks.length)
      (h : maxAudioBytes < (chunks.take (i + 1)).flatten.length) :
      SpoolRaises (.http 413 "Audio file too large")
  | write {e : RequestError} (i : ℕ) (hi : SpoolReaches faults maxAudioBytes chunks i)
      (hread : faults.read i = .ok ()) (hlt : i < chunks.length)
      (hle : (chunks.take (i + 1)).flatten.length ≤ maxAudioBytes)
      (h : faults.write i = .error e) : SpoolRaises e
  | empty (h : SpoolReaches faults maxAudioBytes chunks chunks.length)
      (hread : faults.read chunks.length = .ok ()) (hnil : chunks.flatten = []) :
      SpoolRaises (.http 400 "Empty audio file")

/-- Nothing fails of what an upload of these chunks can come to. -/
structure SpoolSucceeds : Prop where
  mkdtemp : faults.mkdtemp = .ok ()
  create : faults.create = .ok ()
  read : ∀ i ≤ chunks.length, faults.read i = .ok ()
  write : ∀ i < chunks.length, faults.write i = .ok ()
  close : faults.close = .ok ()

end Raises

/-- **What an upload ends in.** -/
inductive SpoolEnds (faults : SpoolFaults) (maxAudioBytes : ℕ) (dir : PosixPath)
    (chunks : List (List UInt8)) : Option (Reply (PosixPath × ℕ)) × Disk → Prop where
  | returned (scratch : Disk) (h : SpoolSucceeds faults chunks) (hne : chunks.flatten ≠ [])
      (hle : chunks.flatten.length ≤ maxAudioBytes)
      (hfile : scratch.HasFile (dir.join UPLOAD_FILE_NAME))
      (hcontent : scratch.content (dir.join UPLOAD_FILE_NAME) = chunks.flatten) :
      SpoolEnds faults maxAudioBytes dir chunks
        (some (.ok (dir.join UPLOAD_FILE_NAME, chunks.flatten.length)), scratch)
  | raised (e : RequestError) (scratch : Disk) (hfree : scratch.Free dir)
      (h : faults.close = .error e ∨ SpoolRaises faults maxAudioBytes chunks e) :
      SpoolEnds faults maxAudioBytes dir chunks (some (.error e), scratch)

/-! ## The loop -/

namespace Spool

/-- **The file holds what was read**, and `total` is how much that is. -/
structure Holding (sp : Spool) (scratch : Disk) (bytes : List UInt8) : Prop where
  file : scratch.HasFile sp.path
  content : scratch.content sp.path = bytes
  total : sp.total = bytes.length

variable {faults : SpoolFaults} {maxAudioBytes : ℕ} {chunks : List (List UInt8)} {sp : Spool}
  {scratch : Disk}

/-- One chunk more. -/
theorem Holding.append {bytes : List UInt8} (h : sp.Holding scratch bytes)
    (chunk : List UInt8) :
    ({ sp with total := sp.total + chunk.length } : Spool).Holding
      (scratch.append sp.path chunk) (bytes ++ chunk) where
  file := Disk.hasFile_append.mpr h.file
  content := (Disk.content_append h.file chunk).trans (by rw [h.content])
  total := by rw [List.length_append, h.total]

/-- An exception that leaves the `with` block, unless closing the file raises another. -/
theorem ends_leaving {e : RequestError} (h : SpoolRaises faults maxAudioBytes chunks e) :
    SpoolEnds faults maxAudioBytes sp.dir chunks
      (some (.error (leaving e faults.close)), scratch.rmtree sp.dir) := by
  refine .raised _ _ (Disk.free_rmtree _ _) ?_
  cases hclose : faults.close with
  | error e' => exact Or.inl rfl
  | ok _ => exact Or.inr h

/-- The turn after the last chunk. -/
theorem run_last (hi : SpoolReaches faults maxAudioBytes chunks chunks.length)
    (h : sp.Holding scratch chunks.flatten) :
    SpoolEnds faults maxAudioBytes sp.dir chunks
      (sp.run maxAudioBytes scratch (faults.turns chunks.length [])) := by
  simp only [SpoolFaults.turns, run]
  cases hread : faults.read chunks.length with
  | error e => exact ends_leaving (.read _ hi hread)
  | ok _ =>
    cases hclose : faults.close with
    | error e => exact .raised e _ (Disk.free_rmtree _ _) (Or.inl hclose)
    | ok _ =>
      have hbound : chunks.flatten.length ≤ maxAudioBytes := by
        have hle := hi.bound
        rwa [List.take_length] at hle
      by_cases hzero : sp.total = 0
      · have hnil : chunks.flatten = [] := List.eq_nil_of_length_eq_zero (h.total ▸ hzero)
        simp only [turn, Except.map, hzero, if_true]
        exact .raised _ _ (Disk.free_rmtree _ _) (Or.inr (.empty hi hread hnil))
      · have hne : chunks.flatten ≠ [] := fun hnil => hzero (by rw [h.total, hnil]; rfl)
        simp only [turn, Except.map, if_neg hzero]
        rw [h.total]
        refine .returned scratch ⟨hi.mkdtemp, hi.create, fun i hle => ?_, hi.write, hclose⟩ hne
          hbound h.file h.content
        rcases Nat.lt_or_eq_of_le hle with hlt | rfl
        · exact hi.read i hlt
        · exact hread

/-- The loop gets to the next read. -/
theorem reaches_succ {i : ℕ} (hi : SpoolReaches faults maxAudioBytes chunks i)
    (hread : faults.read i = .ok ()) (hwrite : faults.write i = .ok ()) (hlt : i < chunks.length)
    (hbound : (chunks.take (i + 1)).flatten.length ≤ maxAudioBytes) :
    SpoolReaches faults maxAudioBytes chunks (i + 1) where
  mkdtemp := hi.mkdtemp
  create := hi.create
  read j hj := by
    rcases Nat.lt_succ_iff_lt_or_eq.mp hj with hlt | rfl
    · exact hi.read j hlt
    · exact hread
  write j hj := by
    rcases Nat.lt_succ_iff_lt_or_eq.mp hj with hlt | rfl
    · exact hi.write j hlt
    · exact hwrite
  bound := hbound
  le := hlt

/-- **The loop**, from a state in which the chunks `done` have been read: by induction on
those that have not. -/
theorem run_turns {done rest : List (List UInt8)} (hchunks : ∀ chunk ∈ rest, chunk ≠ [])
    (hi : SpoolReaches faults maxAudioBytes (done ++ rest) done.length)
    (h : sp.Holding scratch done.flatten) :
    SpoolEnds faults maxAudioBytes sp.dir (done ++ rest)
      (sp.run maxAudioBytes scratch (faults.turns done.length rest)) := by
  induction rest generalizing done sp scratch with
  | nil =>
    rw [List.append_nil] at hi ⊢
    exact run_last hi h
  | cons chunk rest ih =>
    obtain ⟨b, bytes, hchunk⟩ := List.exists_cons_of_ne_nil (hchunks chunk List.mem_cons_self)
    have hlt : done.length < (done ++ chunk :: rest).length := by
      rw [List.length_append, List.length_cons]
      omega
    have htotal : ((done ++ chunk :: rest).take (done.length + 1)).flatten.length =
        sp.total + chunk.length := by
      rw [List.take_length_add_append, List.take_succ_cons, List.take_zero, List.flatten_append,
        List.length_append, h.total]
      simp
    simp only [SpoolFaults.turns, run]
    cases hread : faults.read done.length with
    | error e => exact ends_leaving (.read _ hi hread)
    | ok _ =>
      simp only [turn, Except.map, hchunk]
      rw [← hchunk]
      by_cases hlarge : sp.total + chunk.length > maxAudioBytes
      · rw [if_pos hlarge]
        exact ends_leaving (.tooLarge _ hi hread hlt (htotal ▸ hlarge))
      · have hbound : ((done ++ chunk :: rest).take (done.length + 1)).flatten.length ≤
            maxAudioBytes := htotal ▸ Nat.le_of_not_lt hlarge
        rw [if_neg hlarge]
        cases hwrite : faults.write done.length with
        | error e => exact ends_leaving (.write _ hi hread hlt hbound hwrite)
        | ok _ =>
          have hdone : done ++ chunk :: rest = (done ++ [chunk]) ++ rest := by simp
          have hlen : (done ++ [chunk]).length = done.length + 1 := by simp
          have hflatten : (done ++ [chunk]).flatten = done.flatten ++ chunk := by simp
          have hnext := reaches_succ hi hread hwrite hlt hbound
          rw [hdone] at hnext ⊢
          rw [← hlen] at hnext ⊢
          exact ih (fun c hc => hchunks c (List.mem_cons_of_mem chunk hc)) hnext
            (hflatten ▸ h.append chunk)

/-! ## The moments -/

/-- A part of a chunk that fits is not too much. -/
theorem length_writing_le {bytes : List UInt8} (h : sp.Holding scratch bytes)
    {read : Reply (List UInt8)} :
    ∀ moment ∈ sp.writing maxAudioBytes scratch read,
      (moment.content sp.path).length ≤ maxAudioBytes := by
  intro moment hmem
  unfold writing at hmem
  split at hmem
  · exact absurd hmem List.not_mem_nil
  · rename_i chunk
    split at hmem
    · exact absurd hmem List.not_mem_nil
    · rename_i hle
      obtain ⟨n, -, rfl⟩ := List.mem_map.mp hmem
      rw [Disk.content_append h.file, h.content, List.length_append, ← h.total, List.length_take]
      omega

/-- What is removed holds nothing. -/
theorem content_rmtree (sp : Spool) (scratch : Disk) :
    (scratch.rmtree sp.dir).content sp.path = [] :=
  Disk.content_of_not_hasFile ((Disk.free_rmtree scratch sp.dir).not_hasFile UPLOAD_FILE_NAME)

/-- **What a turn leaves in the file**: what was there or one chunk more, if the loop goes on,
and no more than may be in any case. -/
theorem turn_holding {bytes : List UInt8} (h : sp.Holding scratch bytes)
    (hbytes : bytes.length ≤ maxAudioBytes) (read : Reply (List UInt8)) (write close : Reply Unit) :
    (∃ sp' scratch' bytes', sp.turn maxAudioBytes scratch read write close =
        (.reading sp', scratch') ∧ sp'.dir = sp.dir ∧ sp'.Holding scratch' bytes' ∧
        bytes'.length ≤ maxAudioBytes) ∨
      ((∀ sp', (sp.turn maxAudioBytes scratch read write close).1 ≠ .reading sp') ∧
        ((sp.turn maxAudioBytes scratch read write close).2.content sp.path).length ≤
          maxAudioBytes) := by
  have hgone : ((scratch.rmtree sp.dir).content sp.path).length ≤ maxAudioBytes := by
    rw [content_rmtree]
    exact Nat.zero_le _
  have hraised (e : RequestError) : (∀ sp', Outcome.raised e ≠ .reading sp') ∧
      ((scratch.rmtree sp.dir).content sp.path).length ≤ maxAudioBytes :=
    ⟨fun _ heq => (nomatch heq), hgone⟩
  unfold turn
  split
  · exact Or.inr (hraised _)
  · split
    · exact Or.inr (hraised _)
    · split
      · exact Or.inr (hraised _)
      · exact Or.inr ⟨fun _ heq => (nomatch heq), h.content ▸ hbytes⟩
  · split
    · exact Or.inr (hraised _)
    · rename_i chunk _ hle
      split
      · exact Or.inr (hraised _)
      · refine Or.inl ⟨_, _, _, rfl, rfl, h.append chunk, ?_⟩
        rw [List.length_append, ← h.total]
        omega

/-- **At no moment does the file hold more than it may.** -/
theorem length_moments_le {bytes : List UInt8} (h : sp.Holding scratch bytes)
    (hbytes : bytes.length ≤ maxAudioBytes) (turns : List SpoolTurn) :
    ∀ moment ∈ sp.moments maxAudioBytes scratch turns,
      (moment.content sp.path).length ≤ maxAudioBytes := by
  have hnow : (scratch.content sp.path).length ≤ maxAudioBytes := by
    rw [h.content]
    exact hbytes
  induction turns generalizing sp scratch bytes with
  | nil =>
    intro moment hmem
    rw [List.mem_singleton.mp hmem]
    exact hnow
  | cons t ts ih =>
    intro moment hmem
    rcases List.mem_cons.mp hmem with rfl | hmem
    · exact hnow
    · rcases List.mem_append.mp hmem with hmem | hmem
      · exact length_writing_le h moment hmem
      · rcases turn_holding h hbytes t.read t.write t.close with
          ⟨sp', scratch', bytes', hturn, hdir, hholding, hbytes'⟩ | ⟨hstops, hle⟩
        · rw [hturn] at hmem
          have hpath : sp'.path = sp.path := congrArg (PosixPath.join · UPLOAD_FILE_NAME) hdir
          rw [← hpath]
          refine ih hholding hbytes' ?_ moment hmem
          rw [hholding.content]
          exact hbytes'
        · split at hmem
          · rename_i sp' scratch' hturn
            exact absurd (congrArg Prod.fst hturn) (hstops sp')
          · rename_i scratch' _ hturn
            rw [List.mem_singleton.mp hmem]
            rw [hturn] at hle
            exact hle

end Spool

/-! ## `_spool_upload` -/

section Upload

variable {faults : SpoolFaults} {maxAudioBytes : ℕ} {chunks : List (List UInt8)}
  {scratch : Disk} {dir : PosixPath}

/-- The file is there, and empty. -/
theorem holding_created (hfree : scratch.Free dir) :
    (⟨dir, 0⟩ : Spool).Holding ((scratch.mkdir dir).create (dir.join UPLOAD_FILE_NAME) []) [] where
  file := Disk.hasFile_create.mpr (Or.inr rfl)
  content := Disk.content_create
    (fun hfile => hfree.not_hasFile _ (Disk.hasFile_mkdir.mp hfile)) []
  total := rfl

/-- **What an upload ends in**, whatever fails. -/
theorem spoolUpload_ends (hfree : scratch.Free dir) (hchunks : ∀ chunk ∈ chunks, chunk ≠ []) :
    SpoolEnds faults maxAudioBytes dir chunks
      (spoolUpload maxAudioBytes scratch dir faults chunks) := by
  unfold spoolUpload Spool.start
  cases hmkdtemp : faults.mkdtemp with
  | error e => exact .raised e _ hfree (Or.inr (.mkdtemp hmkdtemp))
  | ok _ =>
    cases hcreate : faults.create with
    | error e => exact .raised e _ (Disk.free_rmtree _ _) (Or.inr (.create hmkdtemp hcreate))
    | ok _ =>
      have hreaches : SpoolReaches faults maxAudioBytes ([] ++ chunks) 0 :=
        ⟨hmkdtemp, hcreate, by simp, by simp, by simp, by simp⟩
      exact Spool.run_turns hchunks hreaches (holding_created hfree)

/-- The file never holds more than it may. -/
theorem length_spoolMoments_le (hfree : scratch.Free dir) :
    ∀ moment ∈ spoolMoments maxAudioBytes scratch dir faults chunks,
      (moment.content (dir.join UPLOAD_FILE_NAME)).length ≤ maxAudioBytes := by
  have hnone {disk : Disk} (h : ¬ disk.HasFile (dir.join UPLOAD_FILE_NAME)) :
      (disk.content (dir.join UPLOAD_FILE_NAME)).length ≤ maxAudioBytes := by
    rw [Disk.content_of_not_hasFile h]
    exact Nat.zero_le _
  have hnot := hfree.not_hasFile UPLOAD_FILE_NAME
  intro moment hmem
  rcases List.mem_cons.mp hmem with rfl | hmem
  · exact hnone hnot
  · cases hmkdtemp : faults.mkdtemp with
    | error e =>
      rw [hmkdtemp] at hmem
      exact absurd hmem List.not_mem_nil
    | ok _ =>
      rw [hmkdtemp] at hmem
      rcases List.mem_cons.mp hmem with rfl | hmem
      · exact hnone fun hfile => hnot (Disk.hasFile_mkdir.mp hfile)
      · cases hcreate : faults.create with
        | error e =>
          rw [hcreate] at hmem
          rw [List.mem_singleton.mp hmem]
          exact hnone ((Disk.free_rmtree _ dir).not_hasFile UPLOAD_FILE_NAME)
        | ok _ =>
          rw [hcreate] at hmem
          exact Spool.length_moments_le (holding_created hfree) (Nat.zero_le _) _ moment hmem

/-- If nothing fails, what is raised is raised by one of the checks. -/
theorem SpoolRaises.eq_of_succeeds {e : RequestError}
    (h : SpoolRaises faults maxAudioBytes chunks e) (hsucceeds : SpoolSucceeds faults chunks) :
    (e = .http 413 "Audio file too large" ∧ maxAudioBytes < chunks.flatten.length) ∨
      (e = .http 400 "Empty audio file" ∧ chunks.flatten = []) := by
  have hclash {r : Reply Unit} {e : RequestError} (hok : r = .ok ()) (herror : r = .error e) :
      False := by
    rw [hok] at herror
    cases herror
  cases h with
  | mkdtemp h => exact (hclash hsucceeds.mkdtemp h).elim
  | create _ h => exact (hclash hsucceeds.create h).elim
  | read i hi h => exact (hclash (hsucceeds.read i hi.le) h).elim
  | tooLarge i _ _ _ h =>
    refine Or.inl ⟨rfl, Nat.lt_of_lt_of_le h ?_⟩
    have hsplit : chunks.flatten =
        (chunks.take (i + 1)).flatten ++ (chunks.drop (i + 1)).flatten := by
      rw [← List.flatten_append, List.take_append_drop]
    rw [hsplit, List.length_append]
    exact Nat.le_add_right _ _
  | write i _ _ hlt _ h => exact (hclash (hsucceeds.write i hlt) h).elim
  | empty _ _ hnil => exact Or.inr ⟨rfl, hnil⟩

/-- **All or nothing, whatever the chunks.**  The path and the total are returned exactly
when nothing fails and the length is within its bounds, and then the file is the upload.
If nothing fails and the length is not, a 413 or a 400 says so.  At no moment does the file
hold more than it may.  In every other case the directory is gone, and what is raised is
what was raised first, or by the closing of the file. -/
theorem spoolUpload_spec (maxAudioBytes : ℕ) {scratch : Disk} {dir : PosixPath}
    (hfree : scratch.Free dir) (faults : SpoolFaults) {chunks : List (List UInt8)}
    (hchunks : ∀ chunk ∈ chunks, chunk ≠ []) :
    ∃ result disk, spoolUpload maxAudioBytes scratch dir faults chunks = (some result, disk) ∧
      ((∃ path total, result = .ok (path, total)) ↔ SpoolSucceeds faults chunks ∧
        0 < chunks.flatten.length ∧ chunks.flatten.length ≤ maxAudioBytes) ∧
      (∀ path total, result = .ok (path, total) → path = dir.join UPLOAD_FILE_NAME ∧
        total = chunks.flatten.length ∧ disk.HasFile path ∧
        disk.content path = chunks.flatten) ∧
      (SpoolSucceeds faults chunks → maxAudioBytes < chunks.flatten.length →
        result = .error (.http 413 "Audio file too large")) ∧
      (SpoolSucceeds faults chunks → chunks.flatten = [] →
        result = .error (.http 400 "Empty audio file")) ∧
      (∀ moment ∈ spoolMoments maxAudioBytes scratch dir faults chunks,
        (moment.content (dir.join UPLOAD_FILE_NAME)).length ≤ maxAudioBytes) ∧
      ∀ e, result = .error e → disk.Free dir ∧
        (faults.close = .error e ∨ SpoolRaises faults maxAudioBytes chunks e) := by
  have hends := @spoolUpload_ends faults maxAudioBytes chunks scratch dir hfree hchunks
  have hmoments := @length_spoolMoments_le faults maxAudioBytes chunks scratch dir hfree
  generalize spoolUpload maxAudioBytes scratch dir faults chunks = run at hends
  cases hends with
  | returned disk hsucceeds hne hle hfile hcontent =>
    have hpos := List.length_pos_iff.mpr hne
    refine ⟨_, disk, rfl, ⟨fun _ => ⟨hsucceeds, hpos, hle⟩, fun _ => ⟨_, _, rfl⟩⟩, ?_, ?_, ?_,
      hmoments, fun e h => nomatch h⟩
    · intro path total h
      cases h
      exact ⟨rfl, rfl, hfile, hcontent⟩
    · exact fun _ hlarge => absurd hlarge (Nat.not_lt.mpr hle)
    · exact fun _ hnil => absurd hnil hne
  | raised e disk hfree' hraised =>
    have hcause (hsucceeds : SpoolSucceeds faults chunks) :
        (e = .http 413 "Audio file too large" ∧ maxAudioBytes < chunks.flatten.length) ∨
          (e = .http 400 "Empty audio file" ∧ chunks.flatten = []) := by
      rcases hraised with hclose | hraises
      · rw [hsucceeds.close] at hclose
        cases hclose
      · exact hraises.eq_of_succeeds hsucceeds
    refine ⟨_, disk, rfl, ⟨fun ⟨_, _, h⟩ => (nomatch h), fun ⟨hsucceeds, hpos, hle⟩ => ?_⟩,
      fun _ _ h => (nomatch h), fun hsucceeds hlarge => ?_, fun hsucceeds hnil => ?_, hmoments, ?_⟩
    · rcases hcause hsucceeds with ⟨-, hlarge⟩ | ⟨-, hnil⟩
      · exact absurd hle (Nat.not_le.mpr hlarge)
      · rw [hnil] at hpos
        exact absurd hpos (Nat.lt_irrefl 0)
    · rcases hcause hsucceeds with ⟨rfl, -⟩ | ⟨-, hnil⟩
      · rfl
      · rw [hnil] at hlarge
        exact absurd hlarge (Nat.not_lt_zero _)
    · rcases hcause hsucceeds with ⟨-, hlarge⟩ | ⟨rfl, -⟩
      · rw [hnil] at hlarge
        exact absurd hlarge (Nat.not_lt_zero _)
      · rfl
    · intro e' h
      cases h
      exact ⟨hfree', hraised⟩

/-- An upload of three bytes where three are allowed, in two chunks. -/
theorem spoolUpload_spec_bound :
    ∃ disk, spoolUpload 3 Disk.empty ["tmp", "vvv-upload-x7"] {} [[1, 2], [3]] =
        (some (.ok (["tmp", "vvv-upload-x7", "audio.audio"], 3)), disk) ∧
      disk.content ["tmp", "vvv-upload-x7", "audio.audio"] = [1, 2, 3] := by
  obtain ⟨result, disk, hrun, hreturns, hfile, -⟩ :=
    @spoolUpload_spec 3 Disk.empty ["tmp", "vvv-upload-x7"] (by decide) {} [[1, 2], [3]] (by simp)
  obtain ⟨path, total, rfl⟩ := hreturns.mpr
    ⟨⟨rfl, rfl, fun _ _ => rfl, fun _ _ => rfl, rfl⟩, by decide, by decide⟩
  obtain ⟨rfl, rfl, -, hcontent⟩ := hfile path total rfl
  exact ⟨disk, hrun, hcontent⟩

end Upload

end VibeVoice
