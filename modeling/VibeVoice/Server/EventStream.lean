import VibeVoice.Server.Position

/-!
# `event_stream`

The response of `routes/transcribe.py`: an asynchronous generator that tells the
client what happens to its job.

It is suspended in three ways: at a `yield`, until the response asks for the next
event; at `await request.is_disconnected()`; and at the wait for the next item of
`chunk_queue`, for at most a second.  At each of them an exception can be thrown
into it, be it a `CancelledError` or the `GeneratorExit` of `aclose`; then only
the `finally` block runs.  A generator that is closed before its first step runs
nothing at all.

The generator and the queue are two parties of one system (`streamSystem`).
Everything the generator does to the queue is a call of `cancel` and the taking
of items off the `chunk_queue` of its job; nobody else reads that queue.

`emitted` and `taken` are history, like the history of the queue.  The first
lists what was yielded; the text that goes over the wire is not modelled here.
-/

namespace VibeVoice

/-- What `event_stream` yields. -/
inductive SseEvent where
  /-- `event: queue` -/
  | queue (jobId : JobId) (position : ℕ) (estimatedWaitSeconds : ℚ) : SseEvent
  /-- `: accepted` -/
  | accepted : SseEvent
  /-- `: keepalive` -/
  | keepalive : SseEvent
  /-- `data:` with a chunk -/
  | data (text : String) : SseEvent
  /-- `event: error` -/
  | error (message : String) : SseEvent
  /-- `event: done` -/
  | done (jobId : JobId) : SseEvent
  deriving DecidableEq, Repr

namespace SseEvent

/-- The first event. -/
def isOpening : SseEvent → Bool
  | queue _ _ _ | accepted => true
  | _ => false

/-- The events between the first and the last. -/
def isBody : SseEvent → Bool
  | data _ | keepalive => true
  | _ => false

/-- The last event. -/
def isTerminal : SseEvent → Bool
  | error _ | done _ => true
  | _ => false

/-- The text of a chunk. -/
def chunk : SseEvent → Option String
  | data text => some text
  | _ => none

end SseEvent

/-- `_SSE_KEEPALIVE_SECONDS` -/
def SSE_KEEPALIVE_SECONDS : ℚ := 5

/-- Where `event_stream` is. -/
inductive StreamPoint where
  /-- It has not taken a step. -/
  | created
  /-- At a `yield` of the first event, of a chunk or of a keepalive. -/
  | yielded
  /-- At `await request.is_disconnected()`. -/
  | polling
  /-- At `await asyncio.wait_for(job.chunk_queue.get(), …)`. -/
  | waiting
  /-- At the `yield` of the terminal event. -/
  | reported
  /-- Over. -/
  | ended
  /-- Closed before it took a step. -/
  | discarded
  deriving DecidableEq, Repr

/-- One `event_stream`. -/
structure EventStream where
  jobId : JobId
  point : StreamPoint := .created
  lastSent : ℚ := 0
  terminal : Bool := false
  /-- Everything yielded, in order. -/
  emitted : List SseEvent := []
  /-- Everything taken off `chunk_queue`, in order. -/
  taken : List (Option String) := []

/-- What resumes `event_stream`. -/
inductive StreamInput where
  /-- The response asks for the next event. -/
  | next (now : ℚ) (unlink : UnlinkOutcome) : StreamInput
  /-- `is_disconnected` comes back. -/
  | polled (disconnected : Bool) (unlink : UnlinkOutcome) : StreamInput
  /-- `chunk_queue.get` comes back. -/
  | item : StreamInput
  /-- The wait for an item is over. -/
  | timeout (now : ℚ) : StreamInput
  /-- An exception is thrown in. -/
  | thrown (unlink : UnlinkOutcome) : StreamInput

namespace EventStream

open TranscriptionQueue

variable {F : Type}

/-- `yield` -/
def yield (st : EventStream) (event : SseEvent) (point : StreamPoint) : EventStream :=
  { st with emitted := st.emitted ++ [event], point := point }

/-- The `finally` block. -/
def leave (st : EventStream) (s : TranscriptionQueue F) (unlink : UnlinkOutcome) :
    TranscriptionQueue F × EventStream :=
  (if st.terminal then s else (s.cancel st.jobId unlink).2, { st with point := .ended })

/-- From the start to the first `yield`. -/
def start (st : EventStream) (s : TranscriptionQueue F) (now : ℚ) (unlink : UnlinkOutcome) :
    TranscriptionQueue F × EventStream :=
  let st := { st with lastSent := now }
  match s.getPositionAndEta st.jobId with
  | (some position, some eta) => (s, st.yield (.queue st.jobId position eta) .yielded)
  | (some _, none) => st.leave s unlink
  | (none, _) => (s, st.yield .accepted .yielded)

/-- The client is gone. -/
def disconnect (st : EventStream) (s : TranscriptionQueue F) (unlink : UnlinkOutcome) :
    TranscriptionQueue F × EventStream :=
  match s.cancel st.jobId unlink with
  | (.ok _, s) => { st with terminal := true }.leave s unlink
  | (.error _, s) => st.leave s unlink

/-- After the sentinel: what became of the job. -/
def report (st : EventStream) (job : TranscriptionJob) : EventStream :=
  let st := { st with terminal := true }
  if job.status = .cancelled then { st with point := .ended }
  else if job.status = .failed ∨ job.errorMessage.isSome then
    let message := match job.errorMessage with
      | none => "Transcription failed"
      | some message => if message = "" then "Transcription failed" else message
    st.yield (.error message) .reported
  else st.yield (.done st.jobId) .reported

/-- With an item taken off `chunk_queue`. -/
def receive (st : EventStream) (job : TranscriptionJob) (item : Option String) : EventStream :=
  let st := { st with taken := st.taken ++ [item] }
  match item with
  | none => st.report job
  | some text => st.yield (.data text) .yielded

/-- One step of `event_stream`, from a resumption to the next suspension. -/
def step (s : TranscriptionQueue F) (st : EventStream) :
    StreamInput → Option (TranscriptionQueue F × EventStream)
  | .next now unlink =>
    match st.point with
    | .created => if st.jobId ∈ s.history.submitted then some (st.start s now unlink) else none
    | .yielded => some (s, { st with lastSent := now, point := .polling })
    | .reported => some (st.leave s unlink)
    | .polling | .waiting | .ended | .discarded => none
  | .polled disconnected unlink =>
    if st.point = .polling then
      if disconnected then some (st.disconnect s unlink)
      else some (s, { st with point := .waiting })
    else none
  | .item =>
    if st.point = .waiting then
      match (s.job st.jobId).chunkQueue with
      | [] => none
      | item :: rest =>
        some (s.setJob st.jobId { s.job st.jobId with chunkQueue := rest },
          st.receive (s.job st.jobId) item)
    else none
  | .timeout now =>
    if st.point = .waiting then
      if now - st.lastSent ≥ SSE_KEEPALIVE_SECONDS then some (s, st.yield .keepalive .yielded)
      else some (s, { st with point := .polling })
    else none
  | .thrown unlink =>
    match st.point with
    | .created => some (s, { st with point := .discarded })
    | .yielded | .polling | .waiting | .reported => some (st.leave s unlink)
    | .ended | .discarded => none

/-! ## What a step can be -/

/-- `assert eta is not None` does not fail. -/
theorem start_eq (st : EventStream) (s : TranscriptionQueue F) (now : ℚ) (unlink : UnlinkOutcome) :
    ∃ event : SseEvent, event.isOpening = true ∧
      st.start s now unlink = (s, { st with lastSent := now }.yield event .yielded) := by
  unfold start
  cases hpos : s.getPosition st.jobId with
  | none => exact ⟨.accepted, rfl, by simp only [getPositionAndEta, hpos, Option.map_none]⟩
  | some position =>
    exact ⟨.queue st.jobId position (s.estimateWait position), rfl, by
      simp only [getPositionAndEta, hpos, Option.map_some]⟩

/-- **What a step can be**: the branch that was taken, and where it was taken. -/
inductive Move (s : TranscriptionQueue F) (st : EventStream) :
    TranscriptionQueue F → EventStream → Prop where
  | start (now : ℚ) (event : SseEvent) (hp : st.point = .created)
      (hid : st.jobId ∈ s.history.submitted) (hevent : event.isOpening = true) :
      Move s st s ({ st with lastSent := now }.yield event .yielded)
  | next (now : ℚ) (hp : st.point = .yielded) :
      Move s st s { st with lastSent := now, point := .polling }
  | wait (hp : st.point = .polling) : Move s st s { st with point := .waiting }
  | disconnect (unlink : UnlinkOutcome) (hp : st.point = .polling) :
      Move s st (st.disconnect s unlink).1 (st.disconnect s unlink).2
  | take (item : Option String) (rest : List (Option String)) (hp : st.point = .waiting)
      (hq : (s.job st.jobId).chunkQueue = item :: rest) :
      Move s st (s.setJob st.jobId { s.job st.jobId with chunkQueue := rest })
        (st.receive (s.job st.jobId) item)
  | keepalive (hp : st.point = .waiting) : Move s st s (st.yield .keepalive .yielded)
  | retry (hp : st.point = .waiting) : Move s st s { st with point := .polling }
  /-- Off the end, or with an exception thrown in. -/
  | leave (unlink : UnlinkOutcome)
      (hp : st.point = .yielded ∨ st.point = .polling ∨ st.point = .waiting ∨
        st.point = .reported) :
      Move s st (st.leave s unlink).1 (st.leave s unlink).2
  | discard (hp : st.point = .created) : Move s st s { st with point := .discarded }

/-- **Every step is one of them.** -/
theorem move_of_step {s s' : TranscriptionQueue F} {st st' : EventStream} {i : StreamInput}
    (h : st.step s i = some (s', st')) : st.Move s s' st' := by
  have hpair {c : TranscriptionQueue F × EventStream} (hc : st.Move s c.1 c.2)
      (h : some c = some (s', st')) : st.Move s s' st' := by
    rw [Option.some_inj.mp h] at hc
    exact hc
  cases i with
  | next now unlink =>
    simp only [step] at h
    cases hp : st.point with
    | created =>
      simp only [hp] at h
      split at h
      · rename_i hid
        obtain ⟨event, hevent, hstart⟩ := st.start_eq s now unlink
        rw [hstart] at h
        exact hpair (.start now event hp hid hevent) h
      · exact absurd h (by simp)
    | yielded =>
      simp only [hp] at h
      exact hpair (.next now hp) h
    | reported =>
      simp only [hp] at h
      exact hpair (.leave unlink (by simp [hp])) h
    | polling | waiting | ended | discarded => exact absurd h (by simp [hp])
  | polled disconnected unlink =>
    simp only [step] at h
    split at h
    · rename_i hp
      cases disconnected with
      | true => exact hpair (.disconnect unlink hp) h
      | false => exact hpair (.wait hp) h
    · exact absurd h (by simp)
  | item =>
    simp only [step] at h
    split at h
    · rename_i hp
      cases hq : (s.job st.jobId).chunkQueue with
      | nil => exact absurd h (by simp [hq])
      | cons item rest =>
        simp only [hq] at h
        exact hpair (.take item rest hp hq) h
    · exact absurd h (by simp)
  | timeout now =>
    simp only [step] at h
    split at h
    · rename_i hp
      split at h
      · exact hpair (.keepalive hp) h
      · exact hpair (.retry hp) h
    · exact absurd h (by simp)
  | thrown unlink =>
    simp only [step] at h
    cases hp : st.point with
    | created =>
      simp only [hp] at h
      exact hpair (.discard hp) h
    | yielded | polling | waiting | reported =>
      simp only [hp] at h
      exact hpair (.leave unlink (by simp [hp])) h
    | ended | discarded => exact absurd h (by simp [hp])

/-- A generator reports on one job. -/
theorem Move.jobId_eq {s s' : TranscriptionQueue F} {st st' : EventStream} (h : st.Move s s' st') :
    st'.jobId = st.jobId := by
  cases h with
  | start | next | wait | keepalive | retry | discard | leave => rfl
  | disconnect unlink hp =>
    unfold EventStream.disconnect
    split <;> rfl
  | take item rest hp hq =>
    cases item with
    | some text => rfl
    | none =>
      simp only [EventStream.receive, EventStream.report]
      split
      · rfl
      · split <;> rfl

end EventStream

namespace TranscriptionQueue

/-- Nobody else reads the `chunk_queue` of the job. -/
def Action.consumes {I : Type} (id : JobId) : Action I → Bool
  | .consume j => j = id
  | _ => false

/-- The `event_stream` of job `id`, next to the queue. -/
def eventStream (pf : ProcessFn) (id : JobId) :
    TransitionSystem.Party (TranscriptionQueue pf.Frame) (Action pf.Input) where
  State := EventStream
  Label := StreamInput
  init st := st = { jobId := id }
  allows st a := !a.consumes st.jobId
  step s st i := st.step s i

/-- **The queue with the `event_stream` of one job.** -/
def streamSystem (pf : ProcessFn) (maxSize : ℕ) (id : JobId) :
    TransitionSystem (TranscriptionQueue pf.Frame × EventStream) (Action pf.Input ⊕ StreamInput) :=
  (system pf maxSize).joined (eventStream pf id)

end TranscriptionQueue

end VibeVoice
