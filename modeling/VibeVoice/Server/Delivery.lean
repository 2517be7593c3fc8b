import VibeVoice.Server.Capacity
import VibeVoice.Server.EventStream
import VibeVoice.Server.Ledger

/-!
# What the client is told

`event_stream` and the queue share the record of one job, and each of them writes
a part of it.  The queue only ever appends to `chunk_queue`, and what it has
decided --- `COMPLETED` or `FAILED`, and the message that goes with it --- stands
(`extends_of_step`).  The generator only ever takes items off the front.  So what
it has taken, followed by what is left, is everything that was put
(`Faithful.taken`).

That the `else` branch may say `done` rests on the books of the queue: the
sentinel is put on `chunk_queue` after the status was written, so a job whose
sentinel was taken is over; if it is neither `CANCELLED` nor `FAILED` it is
`COMPLETED`, and that is written only when the process function returned and had
set no message (`Returned`).

The invariant is proved for the queue and the generator as one system, for all
interleavings and whatever `os.unlink` does.
-/

namespace VibeVoice

namespace TranscriptionQueue

open TranscriptionJob

variable {pf : ProcessFn} {maxSize : ℕ} {s s' : TranscriptionQueue pf.Frame}

/-! ## The record of the job -/

/-- The worker has written its verdict. -/
def Decided (job : TranscriptionJob) : Prop := job.status = .completed ∨ job.status = .failed

theorem Decided.isTerminal {job : TranscriptionJob} (h : Decided job) :
    job.status.isTerminal = true := by
  rcases h with h | h <;> rw [h] <;> rfl

theorem not_decided {job : TranscriptionJob} (h : job.status.isTerminal = false) :
    ¬ Decided job := fun hd => absurd (h.symm.trans hd.isTerminal) Bool.false_ne_true

/-- What the reader of a job can rely on. -/
structure Extends (job job' : TranscriptionJob) : Prop where
  /-- Items are put at the end, and none is taken away. -/
  appended : ∃ items, job'.puts = job.puts ++ items ∧ job'.chunkQueue = job.chunkQueue ++ items
  /-- A verdict stands. -/
  decided : Decided job → job'.status = job.status ∧ job'.errorMessage = job.errorMessage

theorem Extends.refl (job : TranscriptionJob) : Extends job job :=
  ⟨⟨[], by simp, by simp⟩, fun _ => ⟨rfl, rfl⟩⟩

/-- A job that is written, with no verdict yet. -/
theorem Extends.of_not_decided {job job' : TranscriptionJob} (h : ¬ Decided job)
    (happended : ∃ items, job'.puts = job.puts ++ items ∧
      job'.chunkQueue = job.chunkQueue ++ items) : Extends job job' :=
  ⟨happended, fun hd => absurd hd h⟩

/-- Closing a job puts at most the sentinel. -/
theorem afterClose_appended (job : TranscriptionJob) (unlink : UnlinkOutcome) (tracked : Bool) :
    ∃ items, (job.afterClose unlink tracked).puts = job.puts ++ items ∧
      (job.afterClose unlink tracked).chunkQueue = job.chunkQueue ++ items := by
  unfold TranscriptionJob.afterClose
  split
  · rw [closed, notifyTerminal_eq]
    cases hn : job.terminalNotified with
    | true => exact ⟨[], by simp, by simp⟩
    | false => exact ⟨[none], by simp, by simp⟩
  · exact ⟨[], by simp, by simp⟩

/-- **Every step but a reading leaves to the reader what it can rely on.** -/
theorem extends_of_step (hc : Coherent s) {a : Action pf.Input} (ht : Transition pf s a s')
    {id : JobId} (ha : a.consumes id = false) : Extends (s.job id) (s'.job id) := by
  have key {s' : TranscriptionQueue pf.Frame} {j : JobId} {job : TranscriptionJob}
      (hjob : s'.job = Function.update s.job j job) (h : j = id → Extends (s.job j) job) :
      Extends (s.job id) (s'.job id) := by
    rw [hjob]
    by_cases hj : j = id
    · subst hj
      rw [Function.update_self]
      exact h rfl
    · rw [Function.update_of_ne (Ne.symm hj)]
      exact Extends.refl _
  have hsame (job : TranscriptionJob) :
      ∃ items, job.puts = job.puts ++ items ∧ job.chunkQueue = job.chunkQueue ++ items :=
    ⟨[], by simp, by simp⟩
  have hbusy {j : JobId} {t : TaskId} {start : ℚ} (hw : s.worker = .awaiting j t start) :
      ¬ Decided (s.job j) := by
    intro hd
    rcases (hc.awaited hw).2 with hst | hst <;> rcases hd with hd | hd <;> rw [hd] at hst <;>
      exact absurd hst (by decide)
  cases ht with
  | refused | retire | skip | stop | disarm | stopRaised | stopped | expire =>
    exact Extends.refl _
  | reserve j who hid hroom =>
    have hup : (s.job j).status = .uploading := hc.sound.untouched j hid
    exact key rfl fun _ => .of_not_decided (not_decided (by rw [hup]; rfl)) (hsame (s.job j))
  | attach j path content mime hotwords duration hid hst | submit j hid hst =>
    exact key rfl fun _ => .of_not_decided (not_decided (by rw [hst]; rfl)) (hsame (s.job j))
  | start now unlink j rest hw hmark hq hid hst =>
    have hqueued := hc.queued_of_front hq hst
    exact key rfl fun _ => .of_not_decided (not_decided (by rw [hqueued]; rfl)) (hsame (s.job j))
  | cancel j unlink hid hst =>
    exact key rfl fun _ => .of_not_decided (not_decided hst) (afterClose_appended _ _ _)
  | resume now unlink j t start o outcome hw ht ho =>
    exact key rfl fun _ => .of_not_decided (hbusy hw) (afterClose_appended _ _ _)
  | process t input j start frame cancelling hw ht =>
    have hspec := applyEffects_spec (pf.advance frame cancelling input (s.job j)).1 (s.job j)
    obtain ⟨chunks, hputs, hqueue⟩ := hspec.puts
    exact key rfl fun _ => .of_not_decided (hbusy hw) ⟨_, hputs, hqueue⟩
  | forget j unlink htimer hid => exact key rfl fun _ => ⟨hsame (s.job j), fun _ => ⟨rfl, rfl⟩⟩
  | consume j item rest hq =>
    have hj : j ≠ id := by simpa [Action.consumes] using ha
    exact key rfl fun h => absurd h hj

/-! ## Process tasks that returned -/

/-- A task that is done stays as it is. -/
theorem task_of_isDone (hc : Coherent s) {a : Action pf.Input} (ht : Transition pf s a s')
    {t : TaskId} {p : ProcessTask pf.Frame} (hp : s.task t = some p)
    (hdone : p.state.isDone = true) : s'.task t = some p := by
  have hcancel : ProcessTask.cancel p = p := by
    cases p
    simp only [ProcessTask.cancel, AsyncTask.cancel_of_isDone hdone]
  have hmap (u : TaskId) :
      Function.update s.task u ((s.task u).map ProcessTask.cancel) t = some p := by
    by_cases hu : t = u
    · subst hu
      rw [Function.update_self, hp, Option.map_some, hcancel]
    · rw [Function.update_of_ne hu, hp]
  cases ht with
  | refused | reserve | attach | submit | retire | skip | resume | disarm | stopRaised | stopped
  | forget | expire | consume => exact hp
  | cancel id unlink hid hst =>
    show s.cancelledTasks id t = some p
    cases hu : (s.job id).processTask with
    | none => simpa only [cancelledTasks, hu] using hp
    | some u => simpa only [cancelledTasks, hu] using hmap u
  | stop =>
    show s.stoppedTasks t = some p
    cases hw : s.worker with
    | getting | ended => simpa only [stoppedTasks, hw] using hp
    | awaiting id u start | draining id u start => simpa only [stoppedTasks, hw] using hmap u
  | start now unlink id rest hw hmark hq hid hst =>
    have hne : t ≠ s.nextTask := by
      rintro rfl
      rw [hc.linked.fresh s.nextTask (Nat.le_refl _)] at hp
      exact absurd hp (by simp)
    exact (Function.update_of_ne hne _ _).trans hp
  | process u input id start frame cancelling hw hu =>
    have hne : t ≠ u := by
      rintro rfl
      rw [hp, Option.some_inj] at hu
      rw [hu] at hdone
      exact absurd hdone (by simp)
    exact (Function.update_of_ne hne _ _).trans hp

/-- A completed job has no message, and its process function returned. -/
def Returned (s : TranscriptionQueue pf.Frame) : Prop :=
  ∀ id, (s.job id).status = .completed → (s.job id).errorMessage = none ∧
    ∃ t, s.task t = some ⟨id, .done .returned⟩

/-- A step that writes one record. -/
theorem Returned.update (h : Returned s) {j : JobId} {job : TranscriptionJob}
    (hjob : s'.job = Function.update s.job j job)
    (htask : ∀ t p, s.task t = some p → p.state.isDone = true → s'.task t = some p)
    (hnew : job.status = .completed → job.errorMessage = none ∧
      ∃ t, s'.task t = some ⟨j, .done .returned⟩) : Returned s' := by
  intro id hst
  by_cases hid : id = j
  · subst hid
    rw [hjob, Function.update_self] at hst ⊢
    exact hnew hst
  · rw [hjob, Function.update_of_ne hid] at hst ⊢
    obtain ⟨herr, t, ht⟩ := h id hst
    exact ⟨herr, t, htask t _ ht rfl⟩

/-- **Every step keeps it so.** -/
theorem Returned.step (h : Returned s) (hc : Coherent s) {a : Action pf.Input}
    (ht : Transition pf s a s') : Returned s' := by
  have htask : ∀ t p, s.task t = some p → p.state.isDone = true → s'.task t = some p :=
    fun t p => task_of_isDone hc ht
  cases ht with
  | refused | retire | skip | stop | disarm | stopRaised | stopped | expire =>
    intro id hst
    obtain ⟨herr, t, hdone⟩ := h id hst
    exact ⟨herr, t, htask t _ hdone rfl⟩
  | reserve | submit | start => exact h.update rfl htask fun hst => absurd hst (by simp)
  | cancel => exact h.update rfl htask fun hst => absurd hst (by simp)
  | attach id | forget id | consume id => exact h.update rfl htask (h id)
  | process t input id start frame cancelling hw ht =>
    refine h.update rfl htask fun hst => ?_
    have hspec := applyEffects_spec (pf.advance frame cancelling input (s.job id)).1 (s.job id)
    have hold := (hc.awaited hw).2
    rcases hspec.status with hsame | hsame <;> rw [hsame] at hst
    · rw [hst] at hold
      exact absurd hold (by decide)
    · exact absurd hst (by decide)
  | resume now unlink id t start o outcome hw ht ho =>
    refine h.update rfl htask fun hst => ?_
    rw [afterClose_status, settle_status] at hst
    rw [afterClose_errorMessage, settle_errorMessage]
    cases outcome with
    | cancelled | raised => exact absurd hst (by simp [verdict])
    | returned =>
      have hnone : (s.job id).errorMessage = none := by
        cases herr : (s.job id).errorMessage with
        | none => rfl
        | some message => exact absurd hst (by simp [verdict, herr])
      refine ⟨hnone, t, ?_⟩
      have hreturned : o = .returned := by
        cases hmark : s.workerCancel <;> simp [hmark] at ho
        exact ho.symm
      exact hreturned ▸ ht

theorem returned_of_reachable {P : TranscriptionQueue pf.Frame → Action pf.Input → Prop}
    (h : (system pf maxSize).ReachableWhen P s) : Returned s := by
  refine h.induction Returned ?_ fun s a s' hs ih _ hst =>
    ih.step (coherent_of_reachable hs) (transition_of_step (coherent_of_reachable hs).linked hst)
  rintro s rfl
  exact fun id hst => absurd hst (by simp)

/-! ## The transcript -/

/-- The events before the last: an opening, then chunks and keepalives. -/
def Transcript (es : List SseEvent) (texts : List String) : Prop :=
  ∃ first body, es = first :: body ∧ first.isOpening = true ∧ (∀ e ∈ body, e.isBody = true) ∧
    body.filterMap SseEvent.chunk = texts

theorem transcript_opening {e : SseEvent} (he : e.isOpening = true) : Transcript [e] [] :=
  ⟨e, [], rfl, he, by simp, rfl⟩

theorem Transcript.append {es : List SseEvent} {texts : List String} (h : Transcript es texts)
    {e : SseEvent} (he : e.isBody = true) : Transcript (es ++ [e]) (texts ++ e.chunk.toList) := by
  obtain ⟨first, body, rfl, hfirst, hbody, rfl⟩ := h
  refine ⟨first, body ++ [e], rfl, hfirst, fun e' he' => ?_, ?_⟩
  · rcases List.mem_append.mp he' with he' | he'
    · exact hbody e' he'
    · rw [List.mem_singleton.mp he', he]
  · rw [List.filterMap_append]
    cases h : e.chunk <;> simp [h]

/-- No event of a transcript is terminal. -/
theorem Transcript.not_isTerminal {es : List SseEvent} {texts : List String}
    (h : Transcript es texts) {e : SseEvent} (he : e ∈ es) : e.isTerminal = false := by
  obtain ⟨first, body, rfl, hfirst, hbody, -⟩ := h
  rcases List.mem_cons.mp he with rfl | he
  · cases e <;> simp_all [SseEvent.isOpening, SseEvent.isTerminal]
  · have hbody := hbody e he
    cases e <;> simp_all [SseEvent.isBody, SseEvent.isTerminal]

/-- What a terminal event says is so. -/
def Announced (s : TranscriptionQueue pf.Frame) (id : JobId) : SseEvent → Prop
  | .done j => j = id ∧ (s.job id).status = .completed ∧ (s.job id).errorMessage = none ∧
      ∃ t, s.task t = some ⟨id, .done .returned⟩
  | .error _ => (s.job id).status = .failed
  | _ => False

theorem Announced.isTerminal {id : JobId} {e : SseEvent} (h : Announced s id e) :
    e.isTerminal = true := by
  cases e with
  | done | error => rfl
  | queue | accepted | keepalive | data => exact False.elim h

end TranscriptionQueue

/-- How far a generator has come. -/
inductive StreamPhase where
  /-- Nothing has been yielded. -/
  | fresh
  /-- In the loop. -/
  | looping
  /-- After the loop. -/
  | closing
  deriving DecidableEq, Repr

namespace StreamPoint

/-- The phase a point belongs to. -/
def phase : StreamPoint → StreamPhase
  | created | discarded => .fresh
  | yielded | polling | waiting => .looping
  | reported | ended => .closing

end StreamPoint

namespace TranscriptionQueue

open TranscriptionJob

variable {pf : ProcessFn} {maxSize : ℕ} {s s' : TranscriptionQueue pf.Frame}

/-- **What the generator has told, and what it has taken.** -/
structure Faithful (s : TranscriptionQueue pf.Frame) (st : EventStream) : Prop where
  /-- What was taken, and what is left, is what was put. -/
  taken : (s.job st.jobId).puts = st.taken ++ (s.job st.jobId).chunkQueue
  fresh : st.point.phase = .fresh → st.emitted = [] ∧ st.taken = [] ∧ st.terminal = false
  submitted : st.point.phase ≠ .fresh → st.jobId ∈ s.history.submitted
  looping : st.point.phase = .looping →
    st.terminal = false ∧ none ∉ st.taken ∧ Transcript st.emitted (chunksOf st.taken)
  closing : st.point.phase = .closing → ∃ es final, st.emitted = es ++ Option.toList final ∧
    Transcript es (chunksOf st.taken) ∧
    ∀ e ∈ final, Announced s st.jobId e ∧ none ∈ st.taken
  reported : st.point = .reported → st.terminal = true
  /-- When it is over, so is the job. -/
  finished : st.point.phase = .closing → (s.job st.jobId).status.isTerminal = true

variable {st st' : EventStream}

/-- `submit` is never taken back. -/
theorem submitted_of_step {a : Action pf.Input} (ht : Transition pf s a s') {id : JobId}
    (hid : id ∈ s.history.submitted) : id ∈ s'.history.submitted := by
  cases ht with
  | submit => exact List.mem_append_left _ hid
  | refused | reserve | attach | cancel | retire | skip | start | resume | process | stop | disarm
  | stopRaised | stopped | forget | expire | consume => exact hid

/-- **A step of the others changes nothing of that.** -/
theorem Faithful.others (h : Faithful s st) (hc : Coherent s) {a : Action pf.Input}
    (hst : TranscriptionQueue.step pf s a = some s') (ha : a.consumes st.jobId = false) :
    Faithful s' st := by
  have ht := transition_of_step hc.linked hst
  have hextends := extends_of_step hc ht ha
  refine ⟨?_, h.fresh, fun hf => submitted_of_step ht (h.submitted hf), h.looping, fun hcl => ?_,
    h.reported, fun hcl => isTerminal_of_step hc hst (h.finished hcl)⟩
  · obtain ⟨items, hputs, hqueue⟩ := hextends.appended
    rw [hputs, hqueue, h.taken, List.append_assoc]
  · obtain ⟨es, final, hes, htr, hfinal⟩ := h.closing hcl
    refine ⟨es, final, hes, htr, fun e he => ?_⟩
    obtain ⟨hann, htaken⟩ := hfinal e he
    refine ⟨?_, htaken⟩
    cases e with
    | done j =>
      obtain ⟨rfl, hstatus, herr, t, hdone⟩ := hann
      obtain ⟨hsame, hmessage⟩ := hextends.decided (Or.inl hstatus)
      exact ⟨rfl, hsame.trans hstatus, hmessage.trans herr, t, task_of_isDone hc ht hdone rfl⟩
    | error message =>
      have hstatus : (s.job st.jobId).status = .failed := hann
      exact (hextends.decided (Or.inr hstatus)).1.trans hstatus
    | queue | accepted | keepalive | data => exact False.elim hann

/-- The generator, at its end. -/
theorem Faithful.end (h : Faithful s st) (hstarted : st.point.phase ≠ .fresh)
    (hover : (s.job st.jobId).status.isTerminal = true) (b : Bool) :
    Faithful s { st with terminal := b, point := .ended } := by
  refine ⟨h.taken, fun hf => absurd hf (by simp [StreamPoint.phase]),
    fun _ => h.submitted hstarted, fun hl => absurd hl (by simp [StreamPoint.phase]), fun _ => ?_,
    fun hr => absurd hr (by simp), fun _ => hover⟩
  cases hp : st.point.phase with
  | fresh => exact absurd hp hstarted
  | looping => exact ⟨st.emitted, none, by simp, (h.looping hp).2.2, by simp⟩
  | closing => exact h.closing hp

/-- **The `finally` block** leaves the job over, whatever came before. -/
theorem Faithful.leave (h : Faithful s st) (hc : Coherent s) (hstarted : st.point.phase ≠ .fresh)
    (b : Bool) (hb : b = true → (s.job st.jobId).status.isTerminal = true)
    (unlink : UnlinkOutcome) :
    Faithful ({ st with terminal := b }.leave s unlink).1
      ({ st with terminal := b }.leave s unlink).2 := by
  cases b with
  | true => exact h.end hstarted (hb rfl) true
  | false =>
    have hid := hc.sound.submitted_reserved _ (h.submitted hstarted)
    exact (h.others hc (step_cancel s st.jobId unlink) rfl).end hstarted
      (isTerminal_cancel hc hid unlink) false

/-- In the loop, with what has been yielded and taken there. -/
theorem Faithful.loop {id : JobId} (hid : id ∈ s.history.submitted) (hjob : st.jobId = id)
    (hp : st.point.phase = .looping) (htaken : (s.job id).puts = st.taken ++ (s.job id).chunkQueue)
    (hlooping : st.terminal = false ∧ none ∉ st.taken ∧
      Transcript st.emitted (chunksOf st.taken)) : Faithful s st := by
  subst hjob
  refine ⟨htaken, fun hf => ?_, fun _ => hid, fun _ => hlooping, fun hcl => ?_, fun hr => ?_,
    fun hcl => ?_⟩
  · exact absurd (hp.symm.trans hf) (by decide)
  · exact absurd (hp.symm.trans hcl) (by decide)
  · rw [hr] at hp
    exact absurd hp (by decide)
  · exact absurd (hp.symm.trans hcl) (by decide)

/-- The generator, started. -/
theorem Faithful.start (h : Faithful s st) (hp : st.point = .created)
    (hid : st.jobId ∈ s.history.submitted) (now : ℚ) {event : SseEvent}
    (hevent : event.isOpening = true) :
    Faithful s ({ st with lastSent := now }.yield event .yielded) := by
  obtain ⟨hemitted, htaken, ht⟩ := h.fresh (by rw [hp]; rfl)
  refine .loop hid rfl rfl h.taken ⟨ht, ?_, ?_⟩
  · show none ∉ st.taken
    rw [htaken]
    exact List.not_mem_nil
  · show Transcript (st.emitted ++ [event]) (chunksOf st.taken)
    rw [hemitted, htaken]
    exact transcript_opening hevent

/-- The sentinel has been taken: the job is over, and every chunk was taken before. -/
theorem Faithful.report (h : Faithful s st) (hb : Books s) (hr : Returned s)
    (hp : st.point = .waiting) {rest : List (Option String)}
    (hq : (s.job st.jobId).chunkQueue = none :: rest)
    (hstatus : (s'.job st.jobId).status = (s.job st.jobId).status)
    (herr : (s'.job st.jobId).errorMessage = (s.job st.jobId).errorMessage)
    (hsame : (s'.job st.jobId).puts = (s.job st.jobId).puts)
    (hqueue : (s'.job st.jobId).chunkQueue = rest) (htask : s'.task = s.task)
    (hsubmitted : s'.history.submitted = s.history.submitted) :
    Faithful s' (st.receive (s.job st.jobId) none) := by
  have hphase : st.point.phase = .looping := by rw [hp]; rfl
  obtain ⟨-, -, htr⟩ := h.looping hphase
  have hid : st.jobId ∈ s.history.submitted := h.submitted (by rw [hphase]; decide)
  have hputs := h.taken
  rw [hq] at hputs
  have hover : (s.job st.jobId).status.isTerminal = true := by
    refine (hb.entry st.jobId).terminal ((hb.entry st.jobId).none_mem_puts_iff.mp ?_)
    rw [hputs]
    exact List.mem_append_right _ List.mem_cons_self
  have htexts : chunksOf (st.taken ++ [none]) = chunksOf st.taken := by simp [chunksOf]
  have htaken : (s'.job st.jobId).puts =
      (st.taken ++ [none]) ++ (s'.job st.jobId).chunkQueue := by
    rw [hsame, hqueue, hputs, List.append_assoc]
    rfl
  have hclose (point : StreamPoint) (hpoint : point.phase = .closing) (final : Option SseEvent)
      (hfinal : ∀ e ∈ final, Announced s' st.jobId e) :
      Faithful s' { st with
        taken := st.taken ++ [none], terminal := true
        emitted := st.emitted ++ final.toList, point := point } := by
    refine ⟨htaken, fun hf => ?_, fun _ => hsubmitted ▸ hid, fun hl => ?_, fun _ => ?_,
      fun _ => rfl, fun _ => ?_⟩
    · exact absurd (hpoint.symm.trans hf) (by decide)
    · exact absurd (hpoint.symm.trans hl) (by decide)
    · exact ⟨st.emitted, final, rfl, htexts ▸ htr, fun e he => ⟨hfinal e he, by simp⟩⟩
    · rw [hstatus]
      exact hover
  simp only [EventStream.receive, EventStream.report]
  split
  · simpa using hclose .ended rfl none (by simp)
  · rename_i hnotcancelled
    have hdecided : Decided (s.job st.jobId) := by
      cases hst : (s.job st.jobId).status with
      | completed => exact Or.inl hst
      | failed => exact Or.inr hst
      | cancelled => exact absurd hst hnotcancelled
      | uploading | queued | processing | streaming => exact absurd (hst ▸ hover) (by decide)
    split
    · rename_i hfailed
      refine hclose .reported rfl (some (.error _)) ?_
      rintro e ⟨rfl⟩
      show (s'.job st.jobId).status = .failed
      rw [hstatus]
      refine hdecided.resolve_left fun hcompleted => ?_
      rw [hcompleted, (hr st.jobId hcompleted).1] at hfailed
      exact absurd hfailed (by simp)
    · rename_i hnotfailed
      refine hclose .reported rfl (some (.done _)) ?_
      rintro e ⟨rfl⟩
      have hcompleted := hdecided.resolve_right fun hst => hnotfailed (Or.inl hst)
      obtain ⟨hnone, t, ht⟩ := hr st.jobId hcompleted
      exact ⟨rfl, hstatus.trans hcompleted, herr.trans hnone, t, htask ▸ ht⟩

/-- A chunk has been taken. -/
theorem Faithful.chunk (h : Faithful s st) (hp : st.point = .waiting) {text : String}
    {rest : List (Option String)} (hq : (s.job st.jobId).chunkQueue = some text :: rest)
    (hputs : (s'.job st.jobId).puts = (s.job st.jobId).puts)
    (hqueue : (s'.job st.jobId).chunkQueue = rest)
    (hsubmitted : s'.history.submitted = s.history.submitted) :
    Faithful s' (st.receive (s.job st.jobId) (some text)) := by
  have hphase : st.point.phase = .looping := by rw [hp]; rfl
  obtain ⟨hterminal, hnone, htr⟩ := h.looping hphase
  have hid := h.submitted (by rw [hphase]; decide)
  refine .loop (hsubmitted ▸ hid) rfl rfl ?_ ⟨hterminal, ?_, ?_⟩
  · show (s'.job st.jobId).puts = (st.taken ++ [some text]) ++ (s'.job st.jobId).chunkQueue
    rw [hputs, hqueue, h.taken, hq, List.append_assoc]
    rfl
  · show none ∉ st.taken ++ [some text]
    simp [hnone]
  · have htexts : chunksOf (st.taken ++ [some text]) = chunksOf st.taken ++ [text] := by
      simp [chunksOf]
    show Transcript (st.emitted ++ [.data text]) (chunksOf (st.taken ++ [some text]))
    rw [htexts]
    exact htr.append rfl

/-- The client is gone: the job is cancelled, and the generator ends. -/
theorem Faithful.disconnect (h : Faithful s st) (hc : Coherent s)
    (hstarted : st.point.phase = .looping) (unlink : UnlinkOutcome) :
    Faithful (st.disconnect s unlink).1 (st.disconnect s unlink).2 := by
  have hne : st.point.phase ≠ .fresh := by rw [hstarted]; decide
  have hid := hc.sound.submitted_reserved _ (h.submitted hne)
  have hstep := step_cancel s st.jobId unlink
  have hover := isTerminal_cancel hc hid unlink
  have hafter := h.others hc hstep rfl
  unfold EventStream.disconnect
  split
  · rename_i found s₁ hcancel
    rw [hcancel] at hstep hover hafter
    exact hafter.leave (hc.step hstep) hne true (fun _ => hover) unlink
  · rename_i e s₁ hcancel
    rw [hcancel] at hstep hover hafter
    exact hafter.leave (hc.step hstep) hne st.terminal (fun _ => hover) unlink

/-- **Every step of the generator keeps the invariant.** -/
theorem Faithful.move (h : Faithful s st) (hc : Coherent s) (hb : Books s) (hr : Returned s)
    (hm : st.Move s s' st') : Faithful s' st' := by
  have hloop (point : StreamPoint) (hp : st.point.phase = .looping)
      (hpoint : point.phase = .looping) (now : ℚ) :
      Faithful s { st with point := point, lastSent := now } :=
    .loop (h.submitted (by rw [hp]; decide)) rfl hpoint h.taken (h.looping hp)
  cases hm with
  | start now event hp hid hevent => exact h.start hp hid now hevent
  | next now hp => exact hloop .polling (by rw [hp]; rfl) rfl now
  | wait hp => exact hloop .waiting (by rw [hp]; rfl) rfl st.lastSent
  | retry hp => exact hloop .polling (by rw [hp]; rfl) rfl st.lastSent
  | disconnect unlink hp => exact h.disconnect hc (by rw [hp]; rfl) unlink
  | take item rest hp hq =>
    have hself : (s.setJob st.jobId { s.job st.jobId with chunkQueue := rest }).job st.jobId =
        { s.job st.jobId with chunkQueue := rest } := by simp
    cases item with
    | some text => exact h.chunk hp hq (by rw [hself]) (by rw [hself]) rfl
    | none =>
      exact h.report hb hr hp hq (by rw [hself]) (by rw [hself]) (by rw [hself]) (by rw [hself])
        rfl rfl
  | keepalive hp =>
    have hphase : st.point.phase = .looping := by rw [hp]; rfl
    obtain ⟨hterminal, hnone, htr⟩ := h.looping hphase
    have happend : Transcript (st.emitted ++ [.keepalive]) (chunksOf st.taken ++ []) :=
      htr.append rfl
    rw [List.append_nil] at happend
    exact .loop (h.submitted (by rw [hphase]; decide)) rfl rfl h.taken ⟨hterminal, hnone, happend⟩
  | leave unlink hp =>
    refine h.leave hc (by rcases hp with hp | hp | hp | hp <;> rw [hp] <;> decide) st.terminal
      (fun htrue => ?_) unlink
    cases hphase : st.point.phase with
    | fresh =>
      rcases hp with hp | hp | hp | hp <;> rw [hp] at hphase <;> exact absurd hphase (by decide)
    | looping => exact absurd ((h.looping hphase).1.symm.trans htrue) Bool.false_ne_true
    | closing => exact h.finished hphase
  | discard hp =>
    exact ⟨h.taken, fun _ => h.fresh (by rw [hp]; rfl), fun hne => absurd rfl hne,
      fun hl => absurd hl (by simp [StreamPoint.phase]),
      fun hcl => absurd hcl (by simp [StreamPoint.phase]), fun hr => absurd hr (by simp),
      fun hcl => absurd hcl (by simp [StreamPoint.phase])⟩

/-! ## Runs -/

section Moves

variable {Q : TranscriptionQueue pf.Frame → Action pf.Input → Prop}

/-- The `finally` block calls `cancel`, or does nothing. -/
theorem runWhen_leave (s : TranscriptionQueue pf.Frame) (st : EventStream)
    (unlink : UnlinkOutcome) (hcancel : ∀ s unlink, Q s (.cancel st.jobId unlink)) :
    (system pf maxSize).RunWhen Q s (st.leave s unlink).1 := by
  unfold EventStream.leave
  split
  · exact Relation.ReflTransGen.refl
  · exact Relation.ReflTransGen.single ⟨.cancel st.jobId unlink, hcancel s unlink, rfl⟩

/-- **What the generator does to the queue is a few steps of the queue**: it cancels its
job, or it takes an item off its `chunk_queue`. -/
theorem runWhen_of_move (hcancel : ∀ s unlink, Q s (.cancel st.jobId unlink))
    (hconsume : ∀ s, Q s (.consume st.jobId)) (hm : st.Move s s' st') :
    (system pf maxSize).RunWhen Q s s' := by
  cases hm with
  | start | next | wait | keepalive | retry | discard => exact Relation.ReflTransGen.refl
  | leave unlink hp => exact runWhen_leave s st unlink hcancel
  | disconnect unlink hp =>
    have hrun : (system pf maxSize).RunWhen Q s (s.cancel st.jobId unlink).2 :=
      Relation.ReflTransGen.single ⟨.cancel st.jobId unlink, hcancel s unlink, rfl⟩
    unfold EventStream.disconnect
    split <;> rename_i hfound <;> rw [hfound] at hrun
    · exact hrun.trans (runWhen_leave _ { st with terminal := true } unlink hcancel)
    · exact hrun.trans (runWhen_leave _ st unlink hcancel)
  | take item rest hp hq =>
    refine Relation.ReflTransGen.single ⟨.consume st.jobId, hconsume s, ?_⟩
    simp only [system, TranscriptionQueue.step, hq]

theorem run_of_move (hm : st.Move s s' st') : (system pf maxSize).Run s s' :=
  runWhen_of_move (fun _ _ => trivial) (fun _ => trivial) hm

end Moves

variable {id : JobId}
variable {P : TranscriptionQueue pf.Frame × EventStream → Action pf.Input ⊕ StreamInput → Prop}

/-- Next to a generator the queue is in a state it reaches on its own. -/
theorem reachable_of_streamSystem (h : (streamSystem pf maxSize id).ReachableWhen P (s, st)) :
    (system pf maxSize).Reachable s :=
  h.of_joined (fun _ _ _ _ => trivial) fun _ _ _ _ _ _ _ hst =>
    run_of_move (EventStream.move_of_step hst)

/-- **The invariant holds in every state reached.** -/
theorem faithful_of_reachable (h : (streamSystem pf maxSize id).ReachableWhen P (s, st)) :
    st.jobId = id ∧ Faithful s st := by
  refine h.induction (fun c => c.2.jobId = id ∧ Faithful c.1 c.2) ?_ ?_
  · rintro ⟨s, st⟩ ⟨rfl, rfl⟩
    exact ⟨rfl, rfl, fun _ => ⟨rfl, rfl, rfl⟩, fun hne => absurd rfl hne,
      fun hl => absurd hl (by simp [StreamPoint.phase]),
      fun hcl => absurd hcl (by simp [StreamPoint.phase]), fun hr => absurd hr (by simp),
      fun hcl => absurd hcl (by simp [StreamPoint.phase])⟩
  · rintro ⟨s, st⟩ a c hs ⟨hid, hf⟩ - hst
    have hreach := reachable_of_streamSystem hs
    have hc := coherent_of_reachable hreach
    cases a with
    | inl a =>
      obtain ⟨hallow, t, ht, rfl⟩ := TransitionSystem.joined_step_inl hst
      exact ⟨hid, hf.others hc ht (by simpa [eventStream] using hallow)⟩
    | inr i =>
      have hm := EventStream.move_of_step hst
      exact ⟨hm.jobId_eq.trans hid,
        hf.move hc (books_of_reachable hreach) (returned_of_reachable hreach) hm⟩

/-! ## A job that nobody else cancels -/

/-- Nobody but `cancel` of a job asks for it to be cancelled. -/
theorem cancelRequested_of_step {a : Action pf.Input} (ht : Transition pf s a s')
    (ha : ∀ unlink, a ≠ .cancel id unlink) :
    (s'.job id).cancelRequested = (s.job id).cancelRequested := by
  have same (s' : TranscriptionQueue pf.Frame) {j : JobId} {job : TranscriptionJob}
      (hjob : s'.job = Function.update s.job j job)
      (hreq : job.cancelRequested = (s.job j).cancelRequested) :
      (s'.job id).cancelRequested = (s.job id).cancelRequested := by
    rw [hjob]
    exact update_field (·.cancelRequested) s.job hreq id
  cases ht with
  | refused | retire | skip | stop | disarm | stopRaised | stopped | expire => rfl
  | reserve | attach | submit | start | forget | consume => exact same _ rfl rfl
  | resume => exact same _ rfl (by simp)
  | process => exact same _ rfl (applyEffects_spec _ _).cancelRequested
  | cancel j unlink hid hst =>
    have hj : j ≠ id := by
      rintro rfl
      exact ha unlink rfl
    show (Function.update s.job j _ id).cancelRequested = _
    rw [Function.update_of_ne hj.symm]

/-- The generator cancels its job only when it ends in the loop. -/
theorem Faithful.cancelRequested (h : Faithful s st) (hm : st.Move s s' st')
    (hreq : (s'.job st.jobId).cancelRequested = true) :
    (s.job st.jobId).cancelRequested = true ∧ st.point ≠ .ended ∨
      st'.point = .ended ∧ ∀ e ∈ st'.emitted, e.isTerminal = false := by
  cases hm with
  | start now event hp | next now hp | wait hp | keepalive hp | retry hp | discard hp =>
    exact Or.inl ⟨hreq, by rw [hp]; decide⟩
  | take item rest hp hq =>
    refine Or.inl ⟨?_, by rw [hp]; decide⟩
    rw [← hreq]
    simp
  | disconnect unlink hp =>
    obtain ⟨-, -, htr⟩ := h.looping (by rw [hp]; rfl)
    unfold EventStream.disconnect
    split <;> exact Or.inr ⟨rfl, fun e he => htr.not_isTerminal he⟩
  | leave unlink hp =>
    have hne : st.point ≠ .ended := by
      rcases hp with hp | hp | hp | hp <;> rw [hp] <;> decide
    cases hterminal : st.terminal with
    | true =>
      simp only [EventStream.leave, hterminal, if_true] at hreq
      exact Or.inl ⟨hreq, hne⟩
    | false =>
      refine Or.inr ⟨rfl, fun e he => ?_⟩
      have hphase : st.point.phase = .looping := by
        rcases hp with hp | hp | hp | hp
        · rw [hp]; rfl
        · rw [hp]; rfl
        · rw [hp]; rfl
        · exact absurd (hterminal.symm.trans (h.reported hp)) Bool.false_ne_true
      exact (h.looping hphase).2.2.not_isTerminal he

/-- **A job that the generator cancelled has no terminal event**, if nobody else
cancels it. -/
theorem no_report_of_cancelRequested
    (hown : ∀ c unlink, ¬ P c (.inl (.cancel id unlink)))
    (h : (streamSystem pf maxSize id).ReachableWhen P (s, st))
    (hreq : (s.job id).cancelRequested = true) :
    st.point = .ended ∧ ∀ e ∈ st.emitted, e.isTerminal = false := by
  refine h.induction (fun c => (c.1.job id).cancelRequested = true →
    c.2.point = .ended ∧ ∀ e ∈ c.2.emitted, e.isTerminal = false) ?_ ?_ hreq
  · rintro ⟨s, st⟩ ⟨rfl, -⟩ hreq
    exact absurd hreq Bool.false_ne_true
  · rintro ⟨s, st⟩ a c hs ih hP hst hreq
    have hc := coherent_of_reachable (reachable_of_streamSystem hs)
    cases a with
    | inl a =>
      obtain ⟨-, t, ht, rfl⟩ := TransitionSystem.joined_step_inl hst
      have hne (unlink : UnlinkOutcome) : a ≠ .cancel id unlink := by
        rintro rfl
        exact hown _ unlink hP
      rw [cancelRequested_of_step (transition_of_step hc.linked ht) hne] at hreq
      exact ih hreq
    | inr i =>
      obtain ⟨hid, hf⟩ := faithful_of_reachable hs
      rw [← hid] at hreq ih
      rcases hf.cancelRequested (EventStream.move_of_step hst) hreq with ⟨hold, hne⟩ | hend
      · exact absurd (ih hold).1 hne
      · exact hend

/-! ## The claim for all runs -/

/-- A list with one sentinel, at its end, is taken whole when the sentinel is. -/
theorem eq_nil_of_sentinel {taken left : List (Option String)} {chunks : List String}
    (h : taken ++ left = chunks.map some ++ [none]) (hnone : none ∈ taken) : left = [] := by
  rcases List.append_eq_append_iff.mp h with ⟨e, hchunks, -⟩ | ⟨e, htaken, hlast⟩
  · have hmem : none ∈ chunks.map some := by
      rw [hchunks]
      exact List.mem_append_left _ hnone
    exact absurd hmem (by simp)
  · cases e with
    | nil =>
      rw [htaken, List.append_nil] at hnone
      exact absurd hnone (by simp)
    | cons x e =>
      rw [List.cons_append, List.cons.injEq] at hlast
      exact (List.append_eq_nil_iff.mp hlast.2.symm).2

/-- **What was taken is a prefix of what was put**, and all of it once the sentinel
was taken. -/
theorem Faithful.chunks (h : Faithful s st) (hb : Books s) :
    chunksOf st.taken <+: chunksOf (s.job st.jobId).puts ∧
      (none ∈ st.taken → chunksOf st.taken = chunksOf (s.job st.jobId).puts) := by
  refine ⟨?_, fun hnone => ?_⟩
  · rw [h.taken, chunksOf, chunksOf, List.filterMap_append]
    exact List.prefix_append _ _
  · have hmem : none ∈ (s.job st.jobId).puts := by
      rw [h.taken]
      exact List.mem_append_left _ hnone
    obtain ⟨chunks, hputs⟩ := (hb.entry st.jobId).puts
    rw [(hb.entry st.jobId).none_mem_puts_iff.mp hmem, if_pos rfl] at hputs
    rw [h.taken, eq_nil_of_sentinel (h.taken.symm.trans hputs) hnone, List.append_nil]

/-- Every terminal event says what is so. -/
theorem Faithful.announced (h : Faithful s st) {e : SseEvent} (he : e ∈ st.emitted)
    (hterminal : e.isTerminal = true) : Announced s st.jobId e := by
  cases hp : st.point.phase with
  | fresh =>
    rw [(h.fresh hp).1] at he
    exact absurd he List.not_mem_nil
  | looping =>
    exact absurd (((h.looping hp).2.2.not_isTerminal he).symm.trans hterminal) Bool.false_ne_true
  | closing =>
    obtain ⟨es, final, hes, htr, hfinal⟩ := h.closing hp
    rw [hes] at he
    rcases List.mem_append.mp he with he | he
    · exact absurd ((htr.not_isTerminal he).symm.trans hterminal) Bool.false_ne_true
    · exact (hfinal e (Option.mem_toList.mp he)).1

/-- The shape of what was yielded. -/
theorem Faithful.shape (h : Faithful s st) (hstarted : st.point.phase ≠ .fresh) :
    ∃ first body final, st.emitted = first :: (body ++ Option.toList final) ∧
      first.isOpening = true ∧ (∀ e ∈ body, e.isBody = true) ∧
      (∀ e ∈ final, e.isTerminal = true ∧ none ∈ st.taken) ∧
      body.filterMap SseEvent.chunk = chunksOf st.taken := by
  cases hp : st.point.phase with
  | fresh => exact absurd hp hstarted
  | looping =>
    obtain ⟨first, body, hes, hfirst, hbody, htexts⟩ := (h.looping hp).2.2
    exact ⟨first, body, none, by simp [hes], hfirst, hbody, by simp, htexts⟩
  | closing =>
    obtain ⟨es, final, hes, ⟨first, body, rfl, hfirst, hbody, htexts⟩, hfinal⟩ := h.closing hp
    exact ⟨first, body, final, hes, hfirst, hbody,
      fun e he => ⟨(hfinal e he).1.isTerminal, (hfinal e he).2⟩, htexts⟩

/-- **The response reports the job faithfully.**  The events are an opening, then
chunks and keepalives, then at most one terminal event; the chunks are those put
on `chunk_queue`, in order, and all of them once the sentinel was taken; what the
terminal event says is so, and a job that is `CANCELLED` has none; and when the
generator is over, so is its job. -/
theorem stream_faithful (h : (streamSystem pf maxSize id).ReachableWhen P (s, st)) :
    (st.emitted = [] ∧ (st.point = .created ∨ st.point = .discarded) ∨
      ∃ first body final, st.emitted = first :: (body ++ Option.toList final) ∧
        first.isOpening = true ∧ (∀ e ∈ body, e.isBody = true) ∧
        (∀ e ∈ final, e.isTerminal = true ∧ none ∈ st.taken) ∧
        body.filterMap SseEvent.chunk <+: chunksOf (s.job id).puts ∧
        (none ∈ st.taken → body.filterMap SseEvent.chunk = chunksOf (s.job id).puts)) ∧
      (∀ j, .done j ∈ st.emitted → j = id ∧ (s.job id).status = .completed ∧
        (s.job id).errorMessage = none ∧ ∃ t, s.task t = some ⟨id, .done .returned⟩) ∧
      (∀ message, .error message ∈ st.emitted → (s.job id).status = .failed) ∧
      ((s.job id).status = .cancelled → ∀ e ∈ st.emitted, e.isTerminal = false) ∧
      ((∀ c unlink, ¬ P c (.inl (.cancel id unlink))) → (s.job id).cancelRequested = true →
        ∀ e ∈ st.emitted, e.isTerminal = false) ∧
      (st.point = .ended → (s.job id).status.isTerminal = true) := by
  have hown hown hreq := (no_report_of_cancelRequested hown h hreq).2
  obtain ⟨rfl, hf⟩ := faithful_of_reachable h
  have hb := books_of_reachable (reachable_of_streamSystem h)
  refine ⟨?_, fun j hj => hf.announced hj rfl, fun message hm => hf.announced hm rfl,
    fun hst e he => ?_, hown, fun hp => hf.finished (by rw [hp]; rfl)⟩
  · by_cases hp : st.point.phase = .fresh
    · refine Or.inl ⟨(hf.fresh hp).1, ?_⟩
      cases hpoint : st.point with
      | created => exact Or.inl rfl
      | discarded => exact Or.inr rfl
      | yielded | polling | waiting | reported | ended =>
        rw [hpoint] at hp
        exact absurd hp (by decide)
    · obtain ⟨first, body, final, hes, hfirst, hbody, hfinal, htexts⟩ := hf.shape hp
      obtain ⟨htaken, hwhole⟩ := hf.chunks hb
      exact Or.inr ⟨first, body, final, hes, hfirst, hbody, hfinal, htexts ▸ htaken,
        fun hnone => htexts.trans (hwhole hnone)⟩
  · by_contra hterminal
    have hann := hf.announced he (by simpa using hterminal)
    cases e with
    | done j => exact absurd (hst.symm.trans hann.2.1) (by decide)
    | error message => exact absurd (hst.symm.trans hann) (by decide)
    | queue | accepted | keepalive | data => exact False.elim hann

/-- A job that is answered with one text, and its response. -/
theorem stream_faithful_done :
    ∃ s st, (streamSystem (processFn emptyListText .groq) 1 "a").exec
        ({ maxSize := 1 }, { jobId := "a" })
        [.inl (.reserve "a" "x"),
          .inl (.attach "a" ["vvv-upload-a", "audio.audio"] [] "audio/wav" none 1),
          .inl (.submit "a"), .inr (.next 0 .removed), .inl (.worker 0 .removed),
          .inl (.process 0 (.text "")), .inr (.next 1 .removed), .inr (.polled false .removed),
          .inl (.process 0 (.text "hello")),
          .inl (.worker 7 .removed), .inr .item,
          .inr (.next 7 .removed), .inr (.polled false .removed), .inr .item,
          .inr (.next 7 .removed)] = some (s, st) ∧
      st.emitted.filterMap SseEvent.chunk = ["[]"] ∧ .done "a" ∈ st.emitted ∧
      (s.job "a").status = .completed ∧ (s.job "a").errorMessage = none := by
  have hrun : (streamSystem (processFn emptyListText .groq) 1 "a").exec
      ({ maxSize := 1 }, { jobId := "a" })
      [.inl (.reserve "a" "x"),
        .inl (.attach "a" ["vvv-upload-a", "audio.audio"] [] "audio/wav" none 1),
        .inl (.submit "a"), .inr (.next 0 .removed), .inl (.worker 0 .removed),
        .inl (.process 0 (.text "")), .inr (.next 1 .removed), .inr (.polled false .removed),
        .inl (.process 0 (.text "hello")),
        .inl (.worker 7 .removed), .inr .item,
        .inr (.next 7 .removed), .inr (.polled false .removed), .inr .item,
        .inr (.next 7 .removed)] = some (_, _) := rfl
  have hend := stream_faithful (TransitionSystem.reachable_of_exec _ (by exact ⟨rfl, rfl⟩) hrun)
  have hdone := hend.2.1 "a" (by decide)
  exact ⟨_, _, hrun, rfl, by decide, hdone.2.1, hdone.2.2.1⟩

end TranscriptionQueue

end VibeVoice
