import VibeVoice.Client.Truncated
import VibeVoice.Server.Delivery
import VibeVoice.Server.Segments

/-!
# The transcript that is written

`vvv transcribe --output FILE` prints the chunks of a job as they arrive and writes
them to a file, too.  This is `_transcribe` of `client/cli.py`, and what can be said
of the file when the command is over, whatever became of the job, of the connection
and of the machine.

Four parties have a part in it: the queue, the `event_stream` of the job, the
connection, which can end the response after any byte, and the command, for which a
`print` or a `write` can fail.  What they have in common is the list of the chunks
that were put for the job, and each hands on a beginning of what it gets
(`cli_faithful`):

* the generator, because it takes them off a queue (`Faithful.chunks`);
* the connection, because a response that breaks off loses events and garbles none
  (`truncated_response`);
* the command, because it stops at the first exception.

## What a failing write leaves

The file and the standard streams are buffered.  A `write` that returns has put its text
into a buffer, and one that raises may have been about the texts before it: what gets out
in the end is a beginning of all that was handed over, and it can end in the middle of a
character.  So the sinks hold bytes, and a refusal says how many of them are there when
everything is over.  No `write` follows one that raised, which is why there are no gaps.

The buffers are emptied by `output_file.close()` and, for standard output, when the
interpreter exits; and that can fail as well.  The texts are encoded in UTF-8, as they are
where the locale is.

## What the exit status says

A response that breaks off between two events ends the loop as a complete one does.
So the status 0 does not say that the transcript is complete, and neither does a line
feed at the end of the output, for a chunk can end in one.  What says so is the text:
if it is an array, it is all of it (`output_readable`).

The status is 1 if the job failed, and if an exception is raised; `sys.exit(1)` is
called only in the first case.
-/

namespace VibeVoice

namespace Client

/-! ## The command -/

/-- `text.encode()` -/
def encoded (text : String) : List UInt8 := Utf8.encode text.toList

theorem encoded_append (s t : String) : encoded (s ++ t) = encoded s ++ encoded t := by
  rw [encoded, String.toList_append, Utf8.encode_append, ← encoded, ← encoded]

/-- Where `_transcribe` writes. -/
inductive Sink where
  | stdout
  | stderr
  /-- The output file. -/
  | file
  deriving DecidableEq, Repr

/-- What has been written. -/
structure Written where
  stdout : List UInt8 := []
  stderr : List UInt8 := []
  /-- The output file, if one was opened. -/
  file : Option (List UInt8) := none
  deriving DecidableEq, Repr

/-- What has been written to one sink becomes something else. -/
def Written.update (w : Written) (f : List UInt8 → List UInt8) : Sink → Written
  | .stdout => { w with stdout := f w.stdout }
  | .stderr => { w with stderr := f w.stderr }
  | .file => { w with file := w.file.map f }

/-- The machine the command runs on. -/
structure Console where
  /-- `open(output, "w")` -/
  opens : String → Except PyException Unit
  /-- The exception a `print` or a `write` of these bytes raises, and how much of what has been
  handed to the sink, these bytes included, gets out all the same. -/
  refuses : Written → Sink → List UInt8 → Option (PyException × ℕ)
  /-- The exception `output_file.close()` raises, and how much of the file there is then. -/
  closes : Written → Option (PyException × ℕ)
  /-- How much of standard output there is, if it cannot be flushed when the process exits. -/
  exits : Written → Option ℕ
  /-- `format(x, ".0f")` -/
  fixed0 : String → String

/-- How `_transcribe` ends, if it does not return, and what may come after it. -/
inductive Exit where
  /-- `sys.exit(code)` -/
  | systemExit (code : ℕ)
  | raised (exc : PyException)
  /-- Standard output could not be flushed at the exit of the process; the status is 120. -/
  | unflushed
  deriving DecidableEq, Repr

section Command

variable (con : Console)

/-- A `print` or a `write`. -/
def Written.put (w : Written) (sink : Sink) (text : String) : Written × Option Exit :=
  match con.refuses w sink (encoded text) with
  | some (exc, n) =>
    (w.update (fun bytes => (bytes ++ encoded text).take n) sink, some (.raised exc))
  | none => (w.update (· ++ encoded text) sink, none)

/-- The body of the loop over the events. -/
def printEvent (w : Written) (event : TranscriptionEvent) : Written × Option Exit :=
  match event.eventType with
  | .queue =>
    let position := match event.position with
      | none => "None"
      | some position => toString position
    match event.estimatedWaitSeconds with
    | none => (w, some (.raised
        ⟨"TypeError", "unsupported format string passed to NoneType.__format__"⟩))
    | some wait =>
      w.put con .stderr ("[Queue] Position: " ++ position ++ ", ETA: " ++ con.fixed0 wait ++ "s\n")
  | .data =>
    match event.text with
    | none => (w, none)
    | some text =>
      match w.put con .stdout text with
      | (w, some exit) => (w, some exit)
      | (w, none) => if w.file.isSome then w.put con .file text else (w, none)
  | .error =>
    match w.put con .stderr ("\n[Error] " ++ event.error.getD "None" ++ "\n") with
    | (w, some exit) => (w, some exit)
    | (w, none) => (w, some (.systemExit 1))
  | .done => w.put con .stdout "\n"

/-- The loop: what is written, and what leaves it before its end. -/
def printEvents (w : Written) : List TranscriptionEvent → Written × Option Exit
  | [] => (w, none)
  | event :: events =>
    match printEvent con w event with
    | (w, some exit) => (w, some exit)
    | (w, none) => printEvents w events

/-- The loop over the events of `client.transcribe`, which can end in an exception. -/
def printResponse (w : Written) (response : List TranscriptionEvent × Option PyException) :
    Written × Option Exit :=
  match printEvents con w response.1 with
  | (w, some exit) => (w, some exit)
  | (w, none) => (w, response.2.map .raised)

/-- `output_file.close()`, in a `finally` block: its exception takes the place of the other
one. -/
def closeFile (run : Written × Option Exit) : Written × Option Exit :=
  match con.closes run.1 with
  | some (exc, n) => (run.1.update (·.take n) .file, some (.raised exc))
  | none => run

/-- `_transcribe` -/
def cliTranscribe (output : Option String)
    (response : List TranscriptionEvent × Option PyException) : Written × Option Exit :=
  match output with
  | none | some "" => printResponse con {} response
  | some path =>
    match con.opens path with
    | .error exc => ({}, some (.raised exc))
    | .ok () => closeFile con (printResponse con { file := some [] } response)

/-- The exit of the process, which flushes standard output. -/
def leave (run : Written × Option Exit) : Written × Option Exit :=
  match con.exits run.1 with
  | some n => (run.1.update (·.take n) .stdout, some .unflushed)
  | none => run

end Command

/-- `client.transcribe`, with the bytes `readline` returned until it returned `b""`, or
raised an exception. -/
def transcribeReceived (py : PythonText) (k : Conversions) (received : List UInt8)
    (broken : Option PyException) : List TranscriptionEvent × Option PyException :=
  let (events, exc) := transcribe py k 200 received
  (events, exc.or broken)

/-! ## What the loop writes -/

/-- The bytes of some chunks. -/
def bytesOf (texts : List String) : List UInt8 := encoded (String.join texts)

theorem bytesOf_cons (text : String) (texts : List String) :
    bytesOf (text :: texts) = encoded text ++ bytesOf texts := by
  rw [bytesOf, String.join_cons, encoded_append, ← bytesOf]

theorem bytesOf_singleton (text : String) : bytesOf [text] = encoded text := by
  rw [bytesOf_cons, show bytesOf [] = [] from rfl, List.append_nil]

/-- The bytes of the first chunks are the first bytes. -/
theorem bytesOf_mono {texts texts' : List String} (h : texts <+: texts') :
    bytesOf texts <+: bytesOf texts' := by
  obtain ⟨rest, rfl⟩ := h
  rw [bytesOf, bytesOf, String.join_append, encoded_append]
  exact List.prefix_append _ _

section Loop

variable {con : Console} {w : EventText}

/-- What is written to standard error. -/
theorem Written.put_stderr (v : Written) (text : String) :
    (v.put con .stderr text).1.stdout = v.stdout ∧ (v.put con .stderr text).1.file = v.file ∧
      ∀ exit, (v.put con .stderr text).2 = some exit → ∃ exc, exit = .raised exc := by
  rw [Written.put]
  split
  · exact ⟨rfl, rfl, fun exit hexit => ⟨_, (Option.some.inj hexit).symm⟩⟩
  · exact ⟨rfl, rfl, fun exit hexit => absurd hexit (by simp)⟩

/-- What is written to standard output. -/
theorem Written.put_stdout (v : Written) (text : String) :
    v.put con .stdout text = ({ v with stdout := v.stdout ++ encoded text }, none) ∨
      ∃ exc n, con.refuses v .stdout (encoded text) = some (exc, n) ∧
        v.put con .stdout text =
          ({ v with stdout := (v.stdout ++ encoded text).take n }, some (.raised exc)) := by
  rw [Written.put]
  cases con.refuses v .stdout (encoded text) with
  | none => exact Or.inl rfl
  | some refusal => exact Or.inr ⟨refusal.1, refusal.2, rfl, rfl⟩

/-- **What has been put out of some chunks**: a beginning of them on standard output, and a
beginning of them in the file; and all of them, if nothing was refused. -/
structure PutOut (v v' : Written) (exit : Option Exit) (printed : List String) : Prop where
  stdout : v'.stdout <+: v.stdout ++ bytesOf printed
  file : ∀ content ∈ v'.file, ∃ start ∈ v.file, content <+: start ++ bytesOf printed
  whole : exit = none →
    v'.stdout = v.stdout ++ bytesOf printed ∧ v'.file = v.file.map (· ++ bytesOf printed)

theorem PutOut.refl (v : Written) (exit : Option Exit) : PutOut v v exit [] where
  stdout := List.prefix_append _ _
  file content hcontent := ⟨content, hcontent, List.prefix_append _ _⟩
  whole _ := by simp [bytesOf, encoded, String.join]

/-- What is written to standard error before it does not count. -/
theorem PutOut.of_stderr {v v₁ v' : Written} {exit : Option Exit} {printed : List String}
    (hstdout : v₁.stdout = v.stdout) (hfile : v₁.file = v.file) (h : PutOut v₁ v' exit printed) :
    PutOut v v' exit printed where
  stdout := hstdout ▸ h.stdout
  file := hfile ▸ h.file
  whole hnone := hstdout ▸ hfile ▸ h.whole hnone

/-- One more chunk before the others. -/
theorem PutOut.cons {v v₁ v' : Written} {exit : Option Exit} {text : String}
    {printed : List String} (hstdout : v₁.stdout = v.stdout ++ encoded text)
    (hfile : v₁.file = v.file.map (· ++ encoded text)) (h : PutOut v₁ v' exit printed) :
    PutOut v v' exit (text :: printed) where
  stdout := by
    rw [bytesOf_cons, ← List.append_assoc, ← hstdout]
    exact h.stdout
  file := by
    intro content hcontent
    obtain ⟨start₁, hstart₁, hprefix⟩ := h.file content hcontent
    rw [hfile] at hstart₁
    obtain ⟨start, hstart, rfl⟩ := Option.map_eq_some_iff.mp hstart₁
    exact ⟨start, hstart, by rwa [bytesOf_cons, ← List.append_assoc]⟩
  whole := by
    intro hnone
    obtain ⟨hout, hwritten⟩ := h.whole hnone
    refine ⟨?_, ?_⟩
    · rw [hout, hstdout, bytesOf_cons, List.append_assoc]
    · rw [hwritten, hfile, Option.map_map, bytesOf_cons]
      refine congrArg (Option.map · v.file) (funext fun start => ?_)
      exact List.append_assoc start _ _

/-- **A chunk that is refused** by one of the sinks. -/
theorem PutOut.refused {v v' : Written} {e : Exit} {text : String}
    (hstdout : v'.stdout <+: v.stdout ++ encoded text)
    (hfile : ∀ content ∈ v'.file, ∃ start ∈ v.file, content <+: start ++ encoded text) :
    PutOut v v' (some e) [text] where
  stdout := by rwa [bytesOf_singleton]
  file := by rwa [bytesOf_singleton]
  whole hnone := absurd hnone (by simp)

/-- **Before the last event**: what is printed is the texts of the chunks, up to the first
exception. -/
theorem printEvents_body {events : List SseEvent}
    (h : ∀ e ∈ events, e.isOpening = true ∨ e.isBody = true) (v : Written) :
    ∃ v' exit printed,
      printEvents con v (events.filterMap (SseEvent.toClient w)) = (v', exit) ∧
      printed <+: events.filterMap SseEvent.chunk ∧ PutOut v v' exit printed ∧
      (exit = none → printed = events.filterMap SseEvent.chunk) ∧
      ∀ e ∈ exit, ∃ exc, e = .raised exc := by
  induction events generalizing v with
  | nil => exact ⟨v, none, [], rfl, List.nil_prefix, PutOut.refl v none, fun _ => rfl, by simp⟩
  | cons event events ih =>
    have ih := ih fun e he => h e (List.mem_cons_of_mem _ he)
    cases event with
    | accepted | keepalive => exact ih v
    | error message | done j =>
      rcases h _ List.mem_cons_self with h | h <;> exact absurd h Bool.false_ne_true
    | queue j position wait =>
      simp only [List.filterMap_cons, SseEvent.toClient, SseEvent.chunk, printEvents, printEvent]
      obtain ⟨hstdout, hfile, hraised⟩ := @Written.put_stderr con v
        ("[Queue] Position: " ++ toString (position : ℤ) ++ ", ETA: " ++
          con.fixed0 (w.floatText wait) ++ "s\n")
      generalize v.put con .stderr _ = p at hstdout hfile hraised ⊢
      obtain ⟨v₁, exit⟩ := p
      cases exit with
      | some exit =>
        refine ⟨v₁, some exit, [], rfl, List.nil_prefix,
          (PutOut.refl v₁ (some exit)).of_stderr hstdout hfile, by simp, fun e he => ?_⟩
        exact hraised e he
      | none =>
        obtain ⟨v', exit, printed, hrun, hprefix, hput, hall, hexit⟩ := ih v₁
        exact ⟨v', exit, printed, hrun, hprefix, hput.of_stderr hstdout hfile, hall, hexit⟩
    | data text =>
      simp only [List.filterMap_cons, SseEvent.toClient, SseEvent.chunk, printEvents, printEvent]
      have hone : [text] <+: text :: events.filterMap SseEvent.chunk :=
        (List.prefix_cons_inj text).mpr List.nil_prefix
      rcases @Written.put_stdout con v text with hput | ⟨exc, n, -, hput⟩
      · rw [hput]
        cases hfile : v.file with
        | none =>
          obtain ⟨v', exit, printed, hrun, hprefix, hput, hall, hexit⟩ :=
            ih { v with stdout := v.stdout ++ encoded text }
          refine ⟨v', exit, text :: printed, by simpa [hfile] using hrun,
            (List.prefix_cons_inj text).mpr hprefix, hput.cons rfl (by simp [hfile]),
            fun hnone => ?_, hexit⟩
          rw [hall hnone]
        | some content =>
          simp only [Option.isSome_some, if_true, Written.put]
          cases hrefused : con.refuses _ Sink.file (encoded text) with
          | some refusal =>
            refine ⟨_, _, [text], rfl, hone, .refused (List.prefix_refl _) ?_, by simp,
              fun e he => ⟨refusal.1, (Option.some.inj he).symm⟩⟩
            intro content' hcontent'
            have hcut : (content ++ encoded text).take refusal.2 = content' :=
              Option.some.inj hcontent'
            exact ⟨content, hfile, hcut ▸ List.take_prefix _ _⟩
          | none =>
            obtain ⟨v', exit, printed, hrun, hprefix, hput, hall, hexit⟩ :=
              ih { v with
                stdout := v.stdout ++ encoded text, file := some (content ++ encoded text) }
            refine ⟨v', exit, text :: printed, hrun, (List.prefix_cons_inj text).mpr hprefix,
              hput.cons rfl (by simp [hfile]), fun hnone => ?_, hexit⟩
            rw [hall hnone]
      · rw [hput]
        refine ⟨_, _, [text], rfl, hone, .refused (List.take_prefix n _) ?_, by simp,
          fun e he => ⟨exc, (Option.some.inj he).symm⟩⟩
        exact fun content hcontent => ⟨content, hcontent, List.prefix_append _ _⟩

/-- The loop over two lists. -/
theorem printEvents_append (v : Written) (events events' : List TranscriptionEvent) :
    printEvents con v (events ++ events') =
      match printEvents con v events with
      | (v, some exit) => (v, some exit)
      | (v, none) => printEvents con v events' := by
  induction events generalizing v with
  | nil => rfl
  | cons event events ih =>
    rw [List.cons_append, printEvents, printEvents]
    cases printEvent con v event with
    | mk v exit =>
      cases exit with
      | some exit => rfl
      | none => exact ih v

/-- What can be said of the output of the command, of a job and the first of its chunks. -/
structure Accounts (job : TranscriptionJob) (printed : List String)
    (run : Written × Option Exit) : Prop where
  beginning : printed <+: job.texts
  file : ∀ content ∈ run.1.file, content <+: bytesOf printed
  stdout : run.1.stdout <+: bytesOf printed ∨
    run.1.stdout = bytesOf printed ++ [0x0A] ∧ printed = job.texts ∧ job.status = .completed ∧
      job.errorMessage = none
  whole : run.2 = none →
    bytesOf printed <+: run.1.stdout ∧ ∀ content ∈ run.1.file, content = bytesOf printed
  failed : ∀ code, run.2 = some (.systemExit code) → code = 1 ∧ job.status = .failed

/-- **What can be said of the output of the command, of a job**: there are some first chunks of
it, and a beginning of their bytes is on standard output and a beginning of them is in the file.
Standard output may have one line feed more, if these are all chunks and the job is completed.
If nothing was raised, both have all of these bytes; and `sys.exit` was called for a failed
job only. -/
def Told (job : TranscriptionJob) (run : Written × Option Exit) : Prop :=
  ∃ printed, Accounts job printed run

/-- Before the last event. -/
theorem PutOut.accounts {v v' : Written} {exit : Option Exit} {printed : List String}
    (h : PutOut v v' exit printed) (hstdout : v.stdout = [])
    (hfile : ∀ content ∈ v.file, content = []) {job : TranscriptionJob}
    (hprinted : printed <+: job.texts) (hexit : ∀ e ∈ exit, ∃ exc, e = .raised exc) :
    Accounts job printed (v', exit) where
  beginning := hprinted
  file content hcontent := by
    obtain ⟨start, hstart, hprefix⟩ := h.file content hcontent
    rwa [hfile start hstart, List.nil_append] at hprefix
  stdout := by
    have hout := h.stdout
    rw [hstdout, List.nil_append] at hout
    exact Or.inl hout
  whole hnone := by
    obtain ⟨hout, hwritten⟩ := h.whole hnone
    refine ⟨?_, fun content hcontent => ?_⟩
    · rw [hout, hstdout, List.nil_append]
    · rw [hwritten] at hcontent
      obtain ⟨start, hstart, rfl⟩ := Option.map_eq_some_iff.mp hcontent
      rw [hfile start hstart, List.nil_append]
  failed code hcode := by
    obtain ⟨exc, hexc⟩ := hexit _ hcode
    cases hexc

/-- Of an exception nothing more is said. -/
theorem Accounts.raised {job : TranscriptionJob} {printed : List String} {v : Written}
    {exit : Option Exit} (h : Accounts job printed (v, exit)) {e : Exit}
    (he : ∀ code, e ≠ .systemExit code) : Accounts job printed (v, some e) where
  beginning := h.beginning
  file := h.file
  stdout := h.stdout
  whole hnone := absurd hnone (by simp)
  failed code hcode := absurd (Option.some.inj hcode) (he code)

/-- Closing the file leaves a beginning of it. -/
theorem Told.closeFile {job : TranscriptionJob} {run : Written × Option Exit} (h : Told job run) :
    Told job (closeFile con run) := by
  obtain ⟨printed, h⟩ := h
  refine ⟨printed, ?_⟩
  rw [Client.closeFile]
  split
  · refine { beginning := h.beginning, stdout := h.stdout, file := ?_, whole := ?_, failed := ?_ }
    · intro content hcontent
      obtain ⟨start, hstart, rfl⟩ := Option.map_eq_some_iff.mp hcontent
      exact (List.take_prefix _ start).trans (h.file start hstart)
    · exact fun hnone => absurd hnone (by simp)
    · exact fun code hcode => absurd hcode (by simp)
  · exact h

/-- The exit of the process leaves a beginning of standard output. -/
theorem Told.leave {job : TranscriptionJob} {run : Written × Option Exit} (h : Told job run) :
    Told job (leave con run) := by
  obtain ⟨printed, h⟩ := h
  refine ⟨printed, ?_⟩
  rw [Client.leave]
  split
  · rename_i n hn
    refine { beginning := h.beginning, file := h.file, stdout := ?_, whole := ?_, failed := ?_ }
    · show run.1.stdout.take n <+: _ ∨ run.1.stdout.take n = _ ∧ _
      rcases h.stdout with hout | ⟨hout, hdone⟩
      · exact Or.inl ((List.take_prefix n _).trans hout)
      · rw [hout]
        exact (List.prefix_concat_iff.mp (List.take_prefix n _)).symm.imp_right fun heq =>
          ⟨heq, hdone⟩
    · exact fun hnone => absurd hnone (by simp)
    · exact fun code hcode => absurd hcode (by simp)
  · exact h

/-- **The loop, for the beginning of a response.** -/
theorem told_printResponse {job : TranscriptionJob} {main : List SseEvent}
    (hmain : ∀ e ∈ main, e.isOpening = true ∨ e.isBody = true)
    (htexts : main.filterMap SseEvent.chunk <+: job.texts) {final : Option SseEvent}
    (hdone : ∀ j, final = some (.done j) → main.filterMap SseEvent.chunk = job.texts ∧
      job.status = .completed ∧ job.errorMessage = none)
    (herror : ∀ message, final = some (.error message) → job.status = .failed)
    (hfinal : ∀ e ∈ final, e.isTerminal = true) {v : Written} (hstdout : v.stdout = [])
    (hfile : ∀ content ∈ v.file, content = []) (broken : Option PyException) :
    Told job (printResponse con v
      ((main ++ final.toList).filterMap (SseEvent.toClient w), broken)) := by
  obtain ⟨v', exit, printed, hrun, hbegins, hput, hall, hexit⟩ := @printEvents_body con w _ hmain v
  have haccounts := hput.accounts hstdout hfile (hbegins.trans htexts) hexit
  refine ⟨printed, ?_⟩
  rw [printResponse, List.filterMap_append, printEvents_append, hrun]
  cases exit with
  | some exit => exact haccounts
  | none =>
    cases final with
    | none =>
      cases broken with
      | none => exact haccounts
      | some exc => exact haccounts.raised fun code hcode => Exit.noConfusion hcode
    | some e =>
      cases e with
      | queue | accepted | keepalive | data => exact absurd (hfinal _ rfl) Bool.false_ne_true
      | error message =>
        have hfailed := herror message rfl
        simp only [Option.toList_some, List.filterMap_cons, List.filterMap_nil, SseEvent.toClient,
          printEvents, printEvent]
        obtain ⟨hsame, hsamefile, hraised⟩ := @Written.put_stderr con v'
          ("\n[Error] " ++ (some message).getD "None" ++ "\n")
        generalize v'.put con .stderr _ = p at hsame hsamefile hraised ⊢
        obtain ⟨v₁, exit⟩ := p
        have haccounts₁ (exit : Exit) (hone : ∀ code, exit = .systemExit code → code = 1) :
            Accounts job printed (v₁, some exit) :=
          { beginning := haccounts.beginning
            file := fun content hc => haccounts.file content (hsamefile ▸ hc)
            stdout := by
              rw [show (v₁, some exit).1.stdout = v'.stdout from hsame]
              exact haccounts.stdout
            whole := fun hnone => absurd hnone (by simp)
            failed := fun code hcode => ⟨hone code (Option.some.inj hcode), hfailed⟩ }
        cases exit with
        | none => exact haccounts₁ _ fun code hcode => (Exit.systemExit.inj hcode).symm
        | some exit =>
          obtain ⟨exc, rfl⟩ := hraised exit rfl
          exact haccounts₁ _ fun code hcode => Exit.noConfusion hcode
      | done j =>
        have hwhole := (hall rfl).trans (hdone j rfl).1
        have hout : v'.stdout = bytesOf printed := by
          rw [(hput.whole rfl).1, hstdout, List.nil_append]
        simp only [Option.toList_some, List.filterMap_cons, List.filterMap_nil, SseEvent.toClient,
          printEvents, printEvent]
        rcases @Written.put_stdout con v' "\n" with hnewline | ⟨exc, n, -, hnewline⟩
        · -- the line feed is printed
          rw [hnewline]
          have hnext : Accounts job printed
              ({ v' with stdout := v'.stdout ++ encoded "\n" }, none) :=
            { beginning := haccounts.beginning
              file := haccounts.file
              stdout := Or.inr ⟨congrArg (· ++ [0x0A]) hout, hwhole, (hdone j rfl).2⟩
              whole := fun _ => ⟨hout ▸ List.prefix_append _ _, (haccounts.whole rfl).2⟩
              failed := fun code hcode => absurd hcode (by simp) }
          cases broken with
          | none => exact hnext
          | some exc => exact hnext.raised fun code hcode => Exit.noConfusion hcode
        · rw [hnewline]
          exact
            { beginning := haccounts.beginning
              file := haccounts.file
              stdout := by
                show (v'.stdout ++ encoded "\n").take n <+: _ ∨
                  (v'.stdout ++ encoded "\n").take n = _ ∧ _
                rw [hout]
                exact (List.prefix_concat_iff.mp (List.take_prefix n _)).symm.imp_right fun heq =>
                  ⟨heq, hwhole, (hdone j rfl).2⟩
              whole := fun hnone => absurd hnone (by simp)
              failed := fun code hcode => absurd hcode (by simp) }

end Loop

/-! ## The whole of it -/

section System

open TranscriptionQueue

variable {py : PythonText} {k : Conversions} {w : EventText} {con : Console}
variable {pf : ProcessFn} {maxSize : ℕ} {id : JobId}
variable {P : TranscriptionQueue pf.Frame × EventStream → Action pf.Input ⊕ StreamInput → Prop}
variable {s : TranscriptionQueue pf.Frame} {st : EventStream}

/-- An event before the last. -/
theorem not_isTerminal {e : SseEvent} (h : e.isOpening = true ∨ e.isBody = true) :
    e.isTerminal = false := by
  cases e <;> simp_all [SseEvent.isOpening, SseEvent.isBody, SseEvent.isTerminal]

/-- What a generator has yielded: events that are not terminal, and at most one that is. -/
theorem emitted_eq (h : Faithful s st) : ∃ main final, st.emitted = main ++ Option.toList final ∧
    (∀ e ∈ main, e.isOpening = true ∨ e.isBody = true) ∧
    main.filterMap SseEvent.chunk = TranscriptionJob.chunksOf st.taken ∧
    ∀ e ∈ final, Announced s st.jobId e ∧ none ∈ st.taken := by
  by_cases hphase : st.point.phase = .fresh
  · obtain ⟨hemitted, htaken, -⟩ := h.fresh hphase
    exact ⟨[], none, hemitted, by simp, by rw [htaken]; rfl, by simp⟩
  · obtain ⟨first, body, final, hes, hfirst, hbody, hfinal, htexts⟩ := h.shape hphase
    refine ⟨first :: body, final, hes, fun e he => ?_, ?_, fun e he => ⟨?_, (hfinal e he).2⟩⟩
    · rcases List.mem_cons.mp he with rfl | he
      · exact Or.inl hfirst
      · exact Or.inr (hbody e he)
    · rw [← htexts, List.filterMap_cons]
      cases first <;> simp_all [SseEvent.isOpening, SseEvent.chunk]
    · refine h.announced ?_ (hfinal e he).1
      rw [hes, Option.mem_def.mp he]
      simp

/-- The beginning of a response, read by `client.transcribe`. -/
theorem transcribeReceived_of_prefix (honly : py.LoadsOnlyJson) (hw : w.Readable py)
    {events : List SseEvent} {received : List UInt8} (h : received <+: responseBody w events)
    (broken : Option PyException) : ∃ before exc, before <+: events ∧
      transcribeReceived py k received broken = (before.filterMap (SseEvent.toClient w), exc) := by
  obtain ⟨before, after, exc, hes, hrun, -⟩ := truncated_response honly hw k h
  exact ⟨before, exc.or broken, ⟨after, hes.symm⟩, by rw [transcribeReceived, hrun]⟩

/-- The beginning of a response. -/
theorem told_of_beginning (h : Faithful s st) (hb : Books s) {before : List SseEvent}
    (hbefore : before <+: st.emitted) {v : Written} (hstdout : v.stdout = [])
    (hfile : ∀ content ∈ v.file, content = []) (broken : Option PyException) :
    Told (s.job st.jobId)
      (printResponse con v (before.filterMap (SseEvent.toClient w), broken)) := by
  obtain ⟨main, final, hes, hmain, htexts, hfinal⟩ := emitted_eq h
  obtain ⟨htaken, hwhole⟩ := h.chunks hb
  have hcut (before : List SseEvent) (hbefore : before <+: main) :
      Told (s.job st.jobId)
        (printResponse con v (before.filterMap (SseEvent.toClient w), broken)) := by
    have hprefix : before.filterMap SseEvent.chunk <+: (s.job st.jobId).texts :=
      (hbefore.filterMap SseEvent.chunk).trans (htexts ▸ htaken)
    simpa using @told_printResponse con w _ before
      (fun e he => hmain e (hbefore.subset he)) hprefix none (by simp) (by simp) (by simp) v hstdout
      hfile broken
  rw [hes] at hbefore
  cases final with
  | none => exact hcut before (by simpa using hbefore)
  | some e =>
    obtain ⟨hann, hnone⟩ := hfinal e rfl
    rcases List.prefix_concat_iff.mp hbefore with rfl | hbefore
    · have hall : main.filterMap SseEvent.chunk = (s.job st.jobId).texts :=
        htexts.trans (hwhole hnone)
      refine @told_printResponse con w _ main hmain (hall ▸ List.prefix_refl _) (some e)
        (fun j hj => ?_) (fun message hmessage => ?_) (fun e' he' => ?_) v hstdout hfile broken
      · rw [Option.some.inj hj] at hann
        exact ⟨hall, hann.2.1, hann.2.2.1⟩
      · rw [Option.some.inj hmessage] at hann
        exact hann
      · rw [← Option.some.inj he']
        exact hann.isTerminal
    · exact hcut before hbefore

/-- The command, for a response that breaks off. -/
theorem told_of_received (honly : py.LoadsOnlyJson) (hw : w.Readable py)
    (h : (streamSystem pf maxSize id).ReachableWhen P (s, st)) {received : List UInt8}
    (hreceived : received <+: responseBody w st.emitted) (broken : Option PyException)
    (output : Option String) :
    Told (s.job id)
      (leave con (cliTranscribe con output (transcribeReceived py k received broken))) := by
  obtain ⟨rfl, hf⟩ := faithful_of_reachable h
  have hb := books_of_reachable (reachable_of_streamSystem h)
  obtain ⟨before, exc, hbefore, hresponse⟩ :=
    transcribeReceived_of_prefix (k := k) honly hw hreceived broken
  rw [hresponse]
  refine Told.leave ?_
  unfold cliTranscribe
  split
  · exact told_of_beginning hf hb hbefore rfl (by simp) exc
  · exact told_of_beginning hf hb hbefore rfl (by simp) exc
  · split
    · rename_i exc' _
      exact ⟨[], (PutOut.refl {} (some (.raised exc'))).accounts rfl (by simp) List.nil_prefix
        fun e he => ⟨exc', (Option.some.inj he).symm⟩⟩
    · exact (told_of_beginning hf hb hbefore rfl (by simp) exc).closeFile

/-! ## Nothing is refused -/

/-- A machine on which everything can be written. -/
structure Console.Writable (con : Console) : Prop where
  opens : ∀ path, con.opens path = .ok ()
  refuses : ∀ v sink bytes, con.refuses v sink bytes = none
  closes : ∀ v, con.closes v = none
  exits : ∀ v, con.exits v = none

/-- Then no event but an `error` ends the loop. -/
theorem printEvents_writable (hcon : con.Writable) {events : List SseEvent}
    (h : ∀ e ∈ events, ∀ message, e ≠ .error message) (v : Written) :
    (printEvents con v (events.filterMap (SseEvent.toClient w))).2 = none := by
  induction events generalizing v with
  | nil => rfl
  | cons event events ih =>
    have ih := ih fun e he => h e (List.mem_cons_of_mem _ he)
    cases event with
    | accepted | keepalive => exact ih v
    | error message => exact absurd rfl (h _ List.mem_cons_self message)
    | queue j position wait =>
      simp only [List.filterMap_cons, SseEvent.toClient, printEvents, printEvent, Written.put,
        hcon.refuses]
      exact ih _
    | done j =>
      simp only [List.filterMap_cons, SseEvent.toClient, printEvents, printEvent, Written.put,
        hcon.refuses]
      exact ih _
    | data text =>
      simp only [List.filterMap_cons, SseEvent.toClient, printEvents, printEvent, Written.put,
        hcon.refuses, Written.update]
      cases v.file with
      | none => exact ih _
      | some content => exact ih _

/-- **All of a response that ended with `done`**: the whole transcript is in the file, and
the status is 0. -/
theorem cliTranscribe_done (hw : w.Readable py) (hcon : con.Writable)
    (h : (streamSystem pf maxSize id).ReachableWhen P (s, st)) {j : JobId}
    (hdone : .done j ∈ st.emitted) {path : String} (hpath : path ≠ "") : ∃ run,
      leave con (cliTranscribe con (some path)
        (transcribeReceived py k (responseBody w st.emitted) none)) = (run, none) ∧
      run.file = some (bytesOf (s.job id).texts) ∧
      run.stdout = bytesOf (s.job id).texts ++ [0x0A] := by
  obtain ⟨rfl, hf⟩ := faithful_of_reachable h
  have hb := books_of_reachable (reachable_of_streamSystem h)
  obtain ⟨main, final, hes, hmain, htexts, hfinal⟩ := emitted_eq hf
  have hnot (e : SseEvent) (he : e ∈ main) : e.isTerminal = false := not_isTerminal (hmain e he)
  obtain rfl : final = some (.done j) := by
    rw [hes] at hdone
    rcases List.mem_append.mp hdone with hdone | hdone
    · exact absurd (hnot _ hdone) (by simp [SseEvent.isTerminal])
    · exact Option.mem_toList.mp hdone
  have hwhole : main.filterMap SseEvent.chunk = (s.job st.jobId).texts :=
    htexts.trans ((hf.chunks hb).2 (hfinal _ rfl).2)
  obtain ⟨v', exit, printed, hrun, -, hput, hall, -⟩ :=
    @printEvents_body con w _ hmain { file := some [] }
  obtain rfl : exit = none := by
    have hnone := @printEvents_writable w _ hcon main
      (fun e he message herror => absurd (hnot e he) (by simp [herror, SseEvent.isTerminal]))
      { file := some [] }
    rwa [hrun] at hnone
  have hresponse : transcribeReceived py k (responseBody w st.emitted) none =
      (main.filterMap (SseEvent.toClient w) ++
        [{ eventType := .done, jobId := some j }], none) := by
    rw [transcribeReceived, events_round_trip hw, hes, List.filterMap_append]
    rfl
  obtain ⟨hstdout, hfile⟩ := hput.whole rfl
  rw [hall rfl, hwhole] at hstdout hfile
  have hprint : printResponse con { file := some [] }
      (main.filterMap (SseEvent.toClient w) ++ [{ eventType := .done, jobId := some j }], none) =
        ({ v' with stdout := v'.stdout ++ [0x0A] }, none) := by
    rw [printResponse, printEvents_append, hrun]
    simp only [printEvents, printEvent, Written.put, hcon.refuses, Option.map_none]
    rfl
  refine ⟨{ v' with stdout := v'.stdout ++ [0x0A] }, ?_, hfile, congrArg (· ++ [0x0A]) hstdout⟩
  have hopened : cliTranscribe con (some path)
      (transcribeReceived py k (responseBody w st.emitted) none) =
        closeFile con (printResponse con { file := some [] }
          (transcribeReceived py k (responseBody w st.emitted) none)) := by
    unfold cliTranscribe
    split
    · rename_i hnone
      exact absurd hnone (by simp)
    · rename_i hempty
      exact absurd (Option.some.inj hempty) hpath
    · simp only [hcon.opens]
  rw [hopened, hresponse, hprint, closeFile, hcon.closes, leave, hcon.exits]

end System

/-! ## A run -/

section Sample

open TranscriptionQueue

/-- No reply of Groq is an object with an empty text, next to a generator. -/
def WordedNext (py : PythonText) (backend : AsrBackend)
    (c : TranscriptionQueue (processFn py backend).Frame × EventStream) :
    Action (processFn py backend).Input ⊕ StreamInput → Prop
  | .inl a => Worded py backend c.1 a
  | .inr _ => True

instance {py : PythonText} {backend : AsrBackend}
    (c : TranscriptionQueue (processFn py backend).Frame × EventStream)
    (i : Action (processFn py backend).Input ⊕ StreamInput) :
    Decidable (WordedNext py backend c i) :=
  match i with
  | .inl a => inferInstanceAs (Decidable (Worded py backend c.1 a))
  | .inr _ => inferInstanceAs (Decidable True)

/-- A machine on which everything can be written. -/
def plainConsole : Console where
  opens _ := .ok ()
  refuses _ _ _ := none
  closes _ := none
  exits _ := none
  fixed0 text := text

theorem writable_plainConsole : plainConsole.Writable :=
  ⟨fun _ => rfl, fun _ _ _ => rfl, fun _ => rfl, fun _ => rfl⟩

/-- Conversions of values that are not of the right type already. -/
def plainConversions : Conversions := ⟨fun _ => "", fun _ => .ok 0, fun _ => .ok "0.0"⟩

/-- A job that is answered with one text, and its response. -/
def sampleRun : List (Action (processFn PythonText.jsonModule .groq).Input ⊕ StreamInput) :=
  [.inl (.reserve "a" "x"),
    .inl (.attach "a" ["vvv-upload-a", "audio.audio"] [] "audio/wav" none 1),
    .inl (.submit "a"), .inr (.next 0 .removed), .inl (.worker 0 .removed),
    .inl (.process 0 (.text "")), .inr (.next 1 .removed), .inr (.polled false .removed),
    .inl (.process 0 (.text "hi")), .inl (.worker 7 .removed), .inr .item,
    .inr (.next 7 .removed), .inr (.polled false .removed), .inr .item]

theorem reachable_sampleRun : ∃ s st,
    (streamSystem (processFn PythonText.jsonModule .groq) 1 "a").ReachableWhen
      (WordedNext PythonText.jsonModule .groq) (s, st) ∧
    .done "a" ∈ st.emitted ∧ (s.job "a").status = .completed := by
  have hrun : (streamSystem (processFn PythonText.jsonModule .groq) 1 "a").execWhen
      (WordedNext PythonText.jsonModule .groq) ({ maxSize := 1 }, { jobId := "a" }) sampleRun =
        some (_, _) := rfl
  exact ⟨_, _, TransitionSystem.reachableWhen_of_execWhen _ (by exact ⟨rfl, rfl⟩) hrun,
    by decide, rfl⟩

end Sample

/-! ## The results -/

section Output

open TranscriptionQueue

variable {py : PythonText} {k : Conversions} {w : EventText} {con : Console}
variable {pf : ProcessFn} {maxSize : ℕ} {id : JobId}
variable {P : TranscriptionQueue pf.Frame × EventStream → Action pf.Input ⊕ StreamInput → Prop}
variable {s : TranscriptionQueue pf.Frame} {st : EventStream}

/-- **The output of the command is the transcript, as far as it goes**, in every run of the
queue with the `event_stream` of a job, whatever the process function does, after however
many bytes the response breaks off, and whatever can be written.  There are some first chunks of
those that were put for the job, of whose bytes the file has a beginning and standard output
too, with at most a line feed after all chunks of a completed job; unless something was raised,
both have these chunks whole; and the command calls `sys.exit(1)` for a failed job only.  Of
a response that ended with `done` and arrived as a whole, all of the transcript is in the file,
if it could be written. -/
theorem cli_faithful (honly : py.LoadsOnlyJson) (hw : w.Readable py)
    (h : (streamSystem pf maxSize id).ReachableWhen P (s, st)) :
    (∀ received, received <+: responseBody w st.emitted → ∀ broken output,
      Told (s.job id)
        (leave con (cliTranscribe con output (transcribeReceived py k received broken)))) ∧
    ∀ j, .done j ∈ st.emitted → con.Writable → ∀ path, path ≠ "" → ∃ run,
      leave con (cliTranscribe con (some path)
        (transcribeReceived py k (responseBody w st.emitted) none)) = (run, none) ∧
      run.file = some (bytesOf (s.job id).texts) ∧
      run.stdout = bytesOf (s.job id).texts ++ [0x0A] := by
  refine ⟨fun received hreceived broken output => ?_, fun j hdone hcon path hpath => ?_⟩
  · exact told_of_received honly hw h hreceived broken output
  · exact cliTranscribe_done hw hcon h hdone hpath

/-- The first half of a response, and all of it. -/
theorem cli_faithful_half : ∃ (s : TranscriptionQueue (processFn PythonText.jsonModule .groq).Frame)
    (st : EventStream),
    Told (s.job "a") (leave plainConsole (cliTranscribe plainConsole (some "out")
      (transcribeReceived PythonText.jsonModule plainConversions
        ((responseBody jsonText st.emitted).take 50) (some (runtimeError "timed out"))))) ∧
    ∃ run, leave plainConsole (cliTranscribe plainConsole (some "out")
        (transcribeReceived PythonText.jsonModule plainConversions
          (responseBody jsonText st.emitted) none)) = (run, none) ∧
      run.file = some (bytesOf (s.job "a").texts) ∧
      run.stdout = bytesOf (s.job "a").texts ++ [0x0A] := by
  obtain ⟨s, st, hreach, hdone, -⟩ := reachable_sampleRun
  have hcli := @cli_faithful _ plainConversions _ plainConsole _ _ _ _ _ _
    PythonText.loadsJson_jsonModule.only readable_jsonText hreach
  exact ⟨s, st, hcli.1 _ (List.take_prefix 50 _) _ _,
    hcli.2 "a" hdone writable_plainConsole "out" (by decide)⟩

end Output

/-! ## Whether a file is complete -/

section Readable

open TranscriptionQueue

variable {py : PythonText} {k : Conversions} {w : EventText} {con : Console}
variable {backend : AsrBackend} {maxSize : ℕ} {id : JobId}
variable {s : TranscriptionQueue (processFn py backend).Frame} {st : EventStream}

/-- Next to a generator, too, a completed job has a text a client can read. -/
theorem segmentArray_of_streamSystem (hloads : py.LoadsOnlyJson) (hdumps : py.DumpsJson)
    (h : (streamSystem (processFn py backend) maxSize id).ReachableWhen (WordedNext py backend)
      (s, st))
    (hst : (s.job id).status = .completed) : SegmentArray (String.join (s.job id).texts) := by
  have hreach : (system (processFn py backend) maxSize).ReachableWhen (Worded py backend) s := by
    refine TransitionSystem.ReachableWhen.of_joined (fun s st a ha => ha)
      (fun s st i t st' _ _ hst => ?_) h
    refine runWhen_of_move (fun _ _ => ?_) (fun _ => ?_) (EventStream.move_of_step hst)
    · cases backend <;> rfl
    · cases backend <;> rfl
  exact segmentArray_of_completed hloads hdumps hreach hst

/-- **An output file that can be read is complete**, if the job is: when it is the encoding of
an array of segments, nothing but whitespace is missing, however the response broke off and
whatever could not be written.  And of a response that ended with `done` and arrived as a whole
the file is such an array.  This is of the runs in which no reply of Groq is an empty text. -/
theorem output_readable (hloads : py.LoadsOnlyJson) (hdumps : py.DumpsJson) (hw : w.Readable py)
    (h : (streamSystem (processFn py backend) maxSize id).ReachableWhen (WordedNext py backend)
      (s, st)) :
    ((s.job id).status = .completed → ∀ received, received <+: responseBody w st.emitted →
      ∀ broken output text, SegmentArray text → encoded text ∈
        (leave con (cliTranscribe con output (transcribeReceived py k received broken))).1.file →
        ∃ rest, String.join (s.job id).texts = text ++ rest ∧
          ∀ c ∈ rest.toList, isPySpace c = true) ∧
      ∀ j, .done j ∈ st.emitted → con.Writable → ∀ path, path ≠ "" → ∃ run text,
        leave con (cliTranscribe con (some path)
          (transcribeReceived py k (responseBody w st.emitted) none)) = (run, none) ∧
          run.file = some (encoded text) ∧ SegmentArray text ∧
          text = String.join (s.job id).texts := by
  have hreadable := segmentArray_of_streamSystem hloads hdumps h
  refine ⟨fun hst received hreceived broken output text harray hcontent => ?_,
    fun j hdone hcon path hpath => ?_⟩
  · obtain ⟨printed, haccounts⟩ :=
      @told_of_received _ k _ con _ _ _ _ _ _ hloads hw h _ hreceived broken output
    have hbytes : encoded text <+: encoded (String.join (s.job id).texts) :=
      (haccounts.file _ hcontent).trans (bytesOf_mono haccounts.beginning)
    obtain ⟨rest, hrest⟩ := Utf8.prefix_of_encode_prefix hbytes
    have hsplit : String.join (s.job id).texts = text ++ String.ofList rest := by
      rw [← String.toList_inj, String.toList_append, String.toList_ofList, hrest]
    exact ⟨_, hsplit, harray.space_of_append (hsplit ▸ hreadable hst)⟩
  · obtain ⟨run, hexit, hfile, -⟩ := cliTranscribe_done (k := k) hw hcon h hdone hpath
    have hst : (s.job id).status = .completed := by
      obtain ⟨rfl, hf⟩ := faithful_of_reachable h
      exact (hf.announced hdone rfl).2.1
    exact ⟨run, _, hexit, hfile, hreadable hst, rfl⟩

/-- The file of a response that arrived as a whole. -/
theorem output_readable_whole : ∃
    (s : TranscriptionQueue (processFn PythonText.jsonModule .groq).Frame) (st : EventStream)
    (run : Written) (text : String),
    leave plainConsole (cliTranscribe plainConsole (some "out")
        (transcribeReceived PythonText.jsonModule plainConversions
          (responseBody jsonText st.emitted) none)) = (run, none) ∧
      run.file = some (encoded text) ∧ SegmentArray text ∧
      text = String.join (s.job "a").texts := by
  obtain ⟨s, st, hreach, hdone, -⟩ := reachable_sampleRun
  have hreadable := @output_readable _ plainConversions _ plainConsole _ _ _ _ _
    PythonText.loadsJson_jsonModule.only PythonText.dumpsJson_jsonModule readable_jsonText hreach
  obtain ⟨run, text, hrun⟩ := hreadable.2 "a" hdone writable_plainConsole "out" (by decide)
  exact ⟨s, st, run, text, hrun⟩

end Readable

end Client

end VibeVoice
