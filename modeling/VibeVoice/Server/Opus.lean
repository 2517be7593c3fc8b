import VibeVoice.Semantics.TransitionSystem
import VibeVoice.Server.Transcribe

/-!
# Compressing the audio

`compress_file_to_opus` and `_communicate_or_kill` of `server/audio.py`: a coroutine that
owns a temporary file and a child process, and may be stopped at any of its awaits, by an
exception, a timeout or a cancellation.

The coroutine and `ffmpeg` are one system.  As long as `ffmpeg` runs it writes to the file
as it likes, and it ends when it likes; the coroutine goes on when an await comes back.
`communicate` comes back only when the process has ended, and `kill` on a process that has
ended does nothing (`ProcessLookupError` is suppressed).  A cancellation while the process
is being started leaves none: that is `create_subprocess_exec`'s own affair.

Three things could be left behind.  The file is not, because `os.unlink` is in a `finally`
that every exit comes through.  The process is not, because `communicate` comes back with
something other than the end of the process in two ways, and both kill.  The third is a
cancellation that is lost on the way.  In `kill_and_drain` exceptions are suppressed, but
`CancelledError` is no `Exception`, so none is lost there.

One is lost in `wait_for`, and only in that of CPython 3.11: where a cancellation arrives
when `communicate` is done already, this returns what it came to, and the coroutine goes on
as if nothing had been asked.  By then `ffmpeg` has ended by itself.  Which `wait_for` it is
is a parameter, `lossy`.
-/

namespace VibeVoice

namespace Opus

/-- The child process. -/
inductive Child where
  | running : Child
  | exited (returncode : ℤ) : Child
  | killed : Child
  deriving DecidableEq

/-- How the coroutine ends. -/
inductive Result where
  | returned (opus : List UInt8) : Result
  | raised (exc : PyException) : Result
  | cancelled : Result
  deriving DecidableEq

/-- Where the coroutine is. -/
inductive Frame where
  /-- It has not taken a step. -/
  | start : Frame
  /-- at `await asyncio.create_subprocess_exec(…)` -/
  | spawning : Frame
  /-- at `await asyncio.wait_for(process.communicate(), …)` -/
  | communicating : Frame
  /-- at `await process.communicate()` of `kill_and_drain`, with what is raised after it -/
  | draining (reason : Result) : Frame
  | ended (result : Result) : Frame
  deriving DecidableEq

/-- What an await comes back with. -/
inductive Awaited where
  /-- What was awaited is over: the process is started, or has ended and said `stderr`. -/
  | finished (stderr : String) : Awaited
  /-- `TimeoutError` of `wait_for` -/
  | timeout : Awaited
  | raised (exc : PyException) : Awaited
  | cancelled : Awaited
  /-- Instead of a cancellation, what `communicate` came to. -/
  | dropped (outcome : Except PyException String) : Awaited

structure State where
  frame : Frame := .start
  /-- The file `dst_path`. -/
  dst : Option (List UInt8) := none
  child : Option Child := none
  /-- What `ffmpeg` has written to the file last. -/
  written : List UInt8 := []
  /-- A `CancelledError` was raised in the coroutine. -/
  asked : Bool := false
  /-- And `wait_for` did not let it through. -/
  dropped : Bool := false
  /-- How many steps the coroutine has taken. -/
  steps : ℕ := 0

/-! ## The coroutine -/

/-- `finally: os.unlink(dst_path)`, which raises `failure` if anything. -/
def finish (s : State) (result : Result) : Option PyException → State
  | some exc => { s with frame := .ended (.raised exc) }
  | none =>
    match s.dst with
    | some _ => { s with frame := .ended result, dst := none }
    | none =>
      { s with
        frame := .ended (.raised ⟨"FileNotFoundError", "[Errno 2] No such file or directory"⟩) }

/-- `process.kill()`, with `ProcessLookupError` suppressed. -/
def killChild : Option Child → Option Child
  | some .running => some .killed
  | child => child

/-- `RuntimeError` of a timeout, with `f"{timeout_seconds:.3g}"` of 900 seconds. -/
def timedOut : PyException := runtimeError "ffmpeg opus compression timed out after 900 seconds"

/-- What follows the end of the process, in the `try` block. -/
def afterExit (s : State) (stderr : String) (returncode : ℤ) (failure : Option PyException) :
    State :=
  if returncode ≠ 0 then
    finish s (.raised (runtimeError ("ffmpeg opus compression failed: " ++ stderr))) failure
  else
    match s.dst with
    | some opus => finish s (.returned opus) failure
    | none =>
      finish s (.raised ⟨"FileNotFoundError", "[Errno 2] No such file or directory"⟩) failure

section

variable (lossy : Bool)

/-- One step of the coroutine, if the await can come back so. -/
def resume (s : State) (failure : Option PyException) : Awaited → Option State
  | .finished stderr =>
    match s.frame, s.child with
    | .start, _ => some { s with frame := .spawning, dst := some [] }
    | .spawning, _ => some { s with frame := .communicating, child := some .running }
    | .communicating, some (.exited returncode) => some (afterExit s stderr returncode failure)
    | .draining reason, some (.exited _) | .draining reason, some .killed =>
      some (finish s reason failure)
    | _, _ => none
  | .timeout =>
    match s.frame with
    | .communicating =>
      some { s with frame := .draining (.raised timedOut), child := killChild s.child }
    | _ => none
  | .raised exc =>
    match s.frame with
    | .start => some { s with frame := .ended (.raised exc) }
    | .spawning | .communicating => some (finish s (.raised exc) failure)
    | .draining reason => some (finish s reason failure)
    | .ended _ => none
  | .cancelled =>
    match s.frame with
    | .start => some { s with frame := .ended .cancelled, asked := true }
    | .spawning => some (finish { s with asked := true } .cancelled failure)
    | .communicating =>
      some { s with
        frame := .draining .cancelled, child := killChild s.child, asked := true }
    | .draining _ => some (finish { s with asked := true } .cancelled failure)
    | .ended _ => none
  | .dropped outcome =>
    -- `except CancelledError: if fut.done(): return fut.result()`
    match lossy, s.frame, s.child, outcome with
    | true, .communicating, some (.exited returncode), .ok stderr =>
      some (afterExit { s with asked := true, dropped := true } stderr returncode failure)
    | true, .communicating, _, .error exc =>
      some (finish { s with asked := true, dropped := true } (.raised exc) failure)
    | _, _, _, _ => none

end

/-! ## The system -/

/-- Who goes on. -/
inductive Action where
  /-- `ffmpeg` writes to the file. -/
  | write (content : List UInt8) : Action
  /-- `ffmpeg` ends. -/
  | exit (returncode : ℤ) : Action
  /-- An await comes back; `failure` is what `os.unlink` raises if it is called. -/
  | resume (awaited : Awaited) (failure : Option PyException) : Action

section

variable (lossy : Bool)

def step (s : State) : Action → Option State
  | .write content =>
    if s.child = some .running then some { s with dst := some content, written := content }
    else none
  | .exit returncode =>
    if s.child = some .running then some { s with child := some (.exited returncode) } else none
  | .resume awaited failure =>
    (resume lossy s failure awaited).map fun s' => { s' with steps := s'.steps + 1 }

/-- **The compression** of a file. -/
def system : TransitionSystem State Action where
  init s := s = {}
  step := step lossy

end

/-- `os.unlink` raises nothing, and `communicate` raises nothing of its own. -/
def Smooth (s : State) : Action → Prop
  | .resume awaited failure => failure = none ∧
      match awaited with
      | .raised _ => s.frame ≠ .communicating
      | .dropped (.error _) => False
      | _ => True
  | _ => True

/-! ## What is there while it runs, and after -/

/-- Nothing is running. -/
def Still (child : Option Child) : Prop := child ≠ some .running

/-- A cancellation was dropped by a `wait_for` that does so, when the process had ended. -/
def Dropped (lossy : Bool) (s : State) : Prop :=
  lossy = true ∧ s.dropped = true ∧ ∃ returncode, s.child = some (.exited returncode)

section

variable (lossy : Bool)

/-- What holds of an end, after so many steps. -/
structure Over (s : State) (result : Result) : Prop where
  dst : s.dst = none
  child : Still s.child
  asked : s.asked = true → result = .cancelled ∨ Dropped lossy s
  opus : ∀ opus, result = .returned opus → s.child = some (.exited 0) ∧ opus = s.written
  steps : s.steps ≤ 4

/-- The invariant: what the coroutine owns at each of its awaits. -/
def Owns (s : State) : Prop :=
  match s.frame with
  | .start => s.dst = none ∧ s.written = [] ∧ s.child = none ∧ s.asked = false ∧ s.steps = 0
  | .spawning => s.dst = some s.written ∧ s.child = none ∧ s.asked = false ∧ s.steps = 1
  | .communicating =>
    s.dst = some s.written ∧ s.child ≠ some .killed ∧ s.asked = false ∧ s.steps = 2
  | .draining reason =>
    s.dst = some s.written ∧ Still s.child ∧ (s.asked = true → reason = .cancelled) ∧
      (∀ opus, reason ≠ .returned opus) ∧ s.steps = 3
  | .ended result => Over lossy s result

end

theorem still_killChild (child : Option Child) : Still (killChild child) := by
  unfold Still killChild
  split
  · nofun
  · assumption

variable {lossy : Bool} {s s' : State}

/-- The `finally` block removes the file. -/
theorem over_finish {result : Result} (hdst : s.dst = some s.written) (hchild : Still s.child)
    (hasked : s.asked = true → result = .cancelled ∨ Dropped lossy s)
    (hopus : ∀ opus, result = .returned opus → s.child = some (.exited 0) ∧ opus = s.written)
    (hsteps : s.steps < 4) :
    Owns lossy { finish s result none with steps := (finish s result none).steps + 1 } := by
  simp only [finish, hdst, Owns]
  exact ⟨rfl, hchild, hasked, hopus, hsteps⟩

/-- The process has ended, and its output is what it wrote last. -/
theorem over_afterExit {stderr : String} {returncode : ℤ} (hdst : s.dst = some s.written)
    (hchild : s.child = some (.exited returncode))
    (hasked : s.asked = true → Dropped lossy s) (hsteps : s.steps < 4) :
    Owns lossy { afterExit s stderr returncode none with
      steps := (afterExit s stderr returncode none).steps + 1 } := by
  have hstill : Still s.child := by
    rw [hchild]
    nofun
  have hanswer {result : Result} (h : s.asked = true) : result = .cancelled ∨ Dropped lossy s :=
    Or.inr (hasked h)
  unfold afterExit
  by_cases hcode : returncode ≠ 0
  · rw [if_pos hcode]
    exact over_finish hdst hstill hanswer (fun _ => nofun) hsteps
  · rw [if_neg hcode, hdst]
    refine over_finish hdst hstill hanswer (fun opus hopus => ⟨?_, ?_⟩) hsteps
    · rw [hchild, not_not.mp hcode]
    · exact (Result.returned.inj hopus).symm

/-- A cancellation is dropped only while `wait_for` is awaited, and when the process has ended. -/
theorem eq_afterExit_of_dropped {outcome : Except PyException String}
    {failure : Option PyException} (hsmooth : Smooth s (.resume (.dropped outcome) failure))
    (hs : resume lossy s failure (.dropped outcome) = some s') :
    lossy = true ∧ s.frame = .communicating ∧ ∃ stderr returncode,
      s.child = some (.exited returncode) ∧
      s' = afterExit { s with asked := true, dropped := true } stderr returncode failure := by
  unfold resume at hs
  dsimp only at hs
  split at hs
  · rename_i returncode stderr hframe hchild
    exact ⟨rfl, hframe, stderr, returncode, hchild, (Option.some_inj.mp hs).symm⟩
  · exact absurd hsmooth.2 id
  · exact absurd hs nofun

/-- **An await that comes back leaves the coroutine with what it owns.** -/
theorem owns_resume (h : Owns lossy s) {awaited : Awaited} {failure : Option PyException}
    (hsmooth : Smooth s (.resume awaited failure)) (hs : resume lossy s failure awaited = some s') :
    Owns lossy { s' with steps := s'.steps + 1 } := by
  have hdropped (hnot : s.frame ≠ .communicating) {outcome : Except PyException String} :
      awaited ≠ .dropped outcome := by
    rintro rfl
    exact hnot (eq_afterExit_of_dropped hsmooth hs).2.1
  have hsmooth' := hsmooth
  obtain ⟨rfl, hquiet⟩ := hsmooth
  have hnever (hasked : s.asked = false) {p : Prop} : s.asked = true → p := fun h =>
    absurd (hasked.symm.trans h) Bool.false_ne_true
  unfold Owns at h
  cases hframe : s.frame with
  | start =>
    rw [hframe] at h
    obtain ⟨hdst, hwritten, hchild, hasked, hsteps⟩ := h
    have hstill : Still s.child := by
      rw [hchild]
      nofun
    cases awaited with
    | finished stderr =>
      simp only [resume, hframe, Option.some_inj] at hs
      rw [← hs]
      exact ⟨congrArg some hwritten.symm, hchild, hasked, congrArg (· + 1) hsteps⟩
    | timeout => simp [resume, hframe] at hs
    | raised exc =>
      simp only [resume, hframe, Option.some_inj] at hs
      rw [← hs]
      exact ⟨hdst, hstill, hnever hasked, fun _ => nofun, by simp [hsteps]⟩
    | cancelled =>
      simp only [resume, hframe, Option.some_inj] at hs
      rw [← hs]
      exact ⟨hdst, hstill, fun _ => Or.inl rfl, fun _ => nofun, by simp [hsteps]⟩
    | dropped outcome => exact absurd rfl (hdropped (by rw [hframe]; nofun))
  | spawning =>
    rw [hframe] at h
    obtain ⟨hdst, hchild, hasked, hsteps⟩ := h
    have hstill : Still s.child := by
      rw [hchild]
      nofun
    cases awaited with
    | finished stderr =>
      simp only [resume, hframe, Option.some_inj] at hs
      rw [← hs]
      exact ⟨hdst, nofun, hasked, congrArg (· + 1) hsteps⟩
    | timeout => simp [resume, hframe] at hs
    | raised exc =>
      simp only [resume, hframe, Option.some_inj] at hs
      rw [← hs]
      exact over_finish hdst hstill (hnever hasked) (fun _ => nofun) (by omega)
    | cancelled =>
      simp only [resume, hframe, Option.some_inj] at hs
      rw [← hs]
      exact over_finish hdst hstill (fun _ => Or.inl rfl) (fun _ => nofun) (by simp [hsteps])
    | dropped outcome => exact absurd rfl (hdropped (by rw [hframe]; nofun))
  | communicating =>
    rw [hframe] at h
    obtain ⟨hdst, hkilled, hasked, hsteps⟩ := h
    cases awaited with
    | finished stderr =>
      cases hchild : s.child with
      | none => simp [resume, hframe, hchild] at hs
      | some child =>
        cases child with
        | running | killed => simp [resume, hframe, hchild] at hs
        | exited returncode =>
          simp only [resume, hframe, hchild, Option.some_inj] at hs
          rw [← hs]
          exact over_afterExit hdst hchild (hnever hasked) (by omega)
    | timeout =>
      simp only [resume, hframe, Option.some_inj] at hs
      rw [← hs]
      exact ⟨hdst, still_killChild s.child, hnever hasked, fun _ => nofun,
        congrArg (· + 1) hsteps⟩
    | raised exc => exact absurd hframe hquiet
    | cancelled =>
      simp only [resume, hframe, Option.some_inj] at hs
      rw [← hs]
      exact ⟨hdst, still_killChild s.child, fun _ => rfl, fun _ => nofun,
        congrArg (· + 1) hsteps⟩
    | dropped outcome =>
      obtain ⟨hlossy, -, stderr, returncode, hchild, rfl⟩ := eq_afterExit_of_dropped hsmooth' hs
      exact over_afterExit hdst hchild (fun _ => ⟨hlossy, rfl, returncode, hchild⟩)
        (by simp [hsteps])
  | draining reason =>
    rw [hframe] at h
    obtain ⟨hdst, hstill, hasked, hreason, hsteps⟩ := h
    have hover := @over_finish lossy s reason hdst hstill (fun h => Or.inl (hasked h))
      (fun opus hopus => absurd hopus (hreason opus)) (by omega)
    cases awaited with
    | finished stderr =>
      cases hchild : s.child with
      | none => simp [resume, hframe, hchild] at hs
      | some child =>
        cases child with
        | running => simp [resume, hframe, hchild] at hs
        | exited | killed =>
          simp only [resume, hframe, hchild, Option.some_inj] at hs
          rw [← hs]
          exact hover
    | timeout => simp [resume, hframe] at hs
    | raised exc =>
      simp only [resume, hframe, Option.some_inj] at hs
      rw [← hs]
      exact hover
    | cancelled =>
      simp only [resume, hframe, Option.some_inj] at hs
      rw [← hs]
      exact over_finish hdst hstill (fun _ => Or.inl rfl) (fun _ => nofun) (by simp [hsteps])
    | dropped outcome => exact absurd rfl (hdropped (by rw [hframe]; nofun))
  | ended result =>
    cases awaited with
    | dropped outcome => exact absurd rfl (hdropped (by rw [hframe]; nofun))
    | finished | timeout | raised | cancelled => simp [resume, hframe] at hs

/-- **So does what `ffmpeg` does.** -/
theorem owns_child (h : Owns lossy s) (hrunning : s.child = some .running) :
    (∀ content, Owns lossy { s with dst := some content, written := content }) ∧
      ∀ returncode, Owns lossy { s with child := some (.exited returncode) } := by
  unfold Owns at h
  cases hframe : s.frame with
  | start =>
    rw [hframe] at h
    exact absurd (hrunning.symm.trans h.2.2.1) nofun
  | spawning =>
    rw [hframe] at h
    exact absurd (hrunning.symm.trans h.2.1) nofun
  | communicating =>
    rw [hframe] at h
    obtain ⟨hdst, hkilled, hasked, hsteps⟩ := h
    exact ⟨fun _ => ⟨rfl, hkilled, hasked, hsteps⟩, fun _ => ⟨hdst, nofun, hasked, hsteps⟩⟩
  | draining reason =>
    rw [hframe] at h
    exact absurd hrunning h.2.1
  | ended result =>
    rw [hframe] at h
    exact absurd hrunning h.child

theorem owns_of_reachable (h : (system lossy).ReachableWhen Smooth s) : Owns lossy s := by
  refine h.induction (Owns lossy) ?_ fun s a s' _ ih ha hst => ?_
  · rintro s rfl
    exact ⟨rfl, rfl, rfl, rfl, rfl⟩
  · cases a with
    | write content =>
      simp only [system, step] at hst
      split at hst
      · rename_i hrunning
        exact Option.some_inj.mp hst ▸ (owns_child ih hrunning).1 content
      · exact absurd hst nofun
    | exit returncode =>
      simp only [system, step] at hst
      split at hst
      · rename_i hrunning
        exact Option.some_inj.mp hst ▸ (owns_child ih hrunning).2 returncode
      · exact absurd hst nofun
    | resume awaited failure =>
      obtain ⟨s'', hs'', rfl⟩ := Option.map_eq_some_iff.mp hst
      exact owns_resume ih ha hs''

/-- **The compression leaves nothing behind**, if `os.unlink` raises nothing and `communicate`
nothing of its own.  However it ends, and whatever `ffmpeg` did until then, the temporary file
is gone and the process does not run.  What is returned is what a process that ended with 0
wrote last.  A cancellation that arrives is how it ends, unless `wait_for` drops it because the
process has ended; and the coroutine takes at most four steps. -/
theorem compress_leaves_nothing (h : (system lossy).ReachableWhen Smooth s) {result : Result}
    (hend : s.frame = .ended result) :
    s.dst = none ∧ s.child ≠ some .running ∧
      (∀ opus, result = .returned opus → s.child = some (.exited 0) ∧ opus = s.written) ∧
      (s.asked = true → result = .cancelled ∨ Dropped lossy s) ∧ s.steps ≤ 4 := by
  have howns := owns_of_reachable h
  unfold Owns at howns
  rw [hend] at howns
  exact ⟨howns.dst, howns.child, howns.opus, howns.asked, howns.steps⟩

instance (s : State) (a : Action) : Decidable (Smooth s a) := by
  unfold Smooth
  split
  · split <;> infer_instance
  · infer_instance

/-- A second cancellation, while the process that was killed for the first is waited for. -/
theorem compress_leaves_nothing_cancelled :
    ∃ s, (system false).execWhen Smooth {}
        [.resume (.finished "") none, .resume (.finished "") none, .write [79, 103, 103, 83],
          .resume .cancelled none, .resume .cancelled none] = some s ∧
      s.frame = .ended .cancelled ∧ s.dst = none ∧ s.child ≠ some .running := by
  have hrun : (system false).execWhen Smooth {}
      [.resume (.finished "") none, .resume (.finished "") none, .write [79, 103, 103, 83],
        .resume .cancelled none, .resume .cancelled none] = some _ := rfl
  have hleft := compress_leaves_nothing (TransitionSystem.reachableWhen_of_execWhen _ rfl hrun) rfl
  exact ⟨_, hrun, rfl, hleft.1, hleft.2.1⟩

/-- A cancellation that is dropped: the output is returned. -/
example : ((system true).execWhen Smooth {}
    [.resume (.finished "") none, .resume (.finished "") none, .write [79, 103, 103, 83],
      .exit 0, .resume (.dropped (.ok "")) none]).map (·.frame) =
    some (.ended (.returned [79, 103, 103, 83])) := rfl

end Opus

end VibeVoice
