import VibeVoice.Client.Cli
import VibeVoice.Server.QueueStatus

/-!
# The status that is printed

`vvv status` asks for `GET /v1/queue/status` and prints what comes back, a line for each job
of the client.  This is `queue_status` of `client/client.py` and `_status` of
`client/cli.py`, with the body FastAPI makes of what `get_queue_info` returned.

The body is one JSON object, and the client reads all of it before it looks at it.  So a body
that breaks off is not a shorter list of jobs: what begins an object and ends before it is no
JSON text, and `json.loads` raises (`queueStatus_of_prefix`).

What is printed of an object is lines (`statusLines`), one after the other, until a `print`
raises.  Of the values in the object each is of the type its line is made for, whatever the
state of the queue is: a position and a wait may be `null`, and then they are left out.  The
lines go through a buffer, so where a `print` raises, or the flush at the exit of the process
fails, what is out is a beginning of their bytes, and it can end in a line.
-/

namespace VibeVoice

/-! ## What the server writes -/

section Body

variable (floatText : ℚ → String)

/-- `None`, or what is written for a value. -/
def optionToJson {α : Type} (toJson : α → PyJson) : Option α → PyJson
  | none => .none
  | some a => toJson a

/-- `JobInfo`, as JSON. -/
def JobInfo.toJson (info : JobInfo) : PyJson :=
  .dict [("job_id", .str info.jobId), ("status", .str info.status.value),
    ("position", optionToJson (fun position => .int position) info.position),
    ("estimated_wait_seconds",
      optionToJson (fun wait => .float (floatText wait)) info.estimatedWaitSeconds)]

/-- `QueueStatusResponse`, as JSON. -/
def QueueStatusResponse.toJson (r : QueueStatusResponse) : PyJson :=
  .dict [("your_jobs", .list (r.yourJobs.map (JobInfo.toJson floatText))),
    ("total_queued", .int r.totalQueued)]

/-- The body of the response, where `dump` is how `JSONResponse` writes an object. -/
def statusBody (dump : PyJson → String) (r : QueueStatusResponse) : List UInt8 :=
  Utf8.encode (dump (r.toJson floatText)).toList

theorem printable_optionToJson {α : Type} {toJson : α → PyJson}
    (h : ∀ a, Json.Printable (toJson a)) (a : Option α) :
    Json.Printable (optionToJson toJson a) := by
  cases a with
  | none => exact .none
  | some a => exact h a

variable {floatText}

theorem JobInfo.printable_toJson
    (hfloat : ∀ x, Json.Text (.float (floatText x)) (floatText x).toList) (info : JobInfo) :
    Json.Printable (info.toJson floatText) := by
  refine .dict (by simp) fun field hfield => ?_
  simp only [List.mem_cons, List.not_mem_nil, or_false] at hfield
  rcases hfield with rfl | rfl | rfl | rfl
  · exact .str _
  · exact .str _
  · exact printable_optionToJson (fun position => .int position) _
  · exact printable_optionToJson (fun wait => .float (hfloat wait)) _

theorem QueueStatusResponse.printable_toJson
    (hfloat : ∀ x, Json.Text (.float (floatText x)) (floatText x).toList)
    (r : QueueStatusResponse) : Json.Printable (r.toJson floatText) := by
  refine .dict (by simp) fun field hfield => ?_
  simp only [List.mem_cons, List.not_mem_nil, or_false] at hfield
  rcases hfield with rfl | rfl
  · refine .list fun v hv => ?_
    obtain ⟨info, -, rfl⟩ := List.mem_map.mp hv
    exact info.printable_toJson hfloat
  · exact .int _

end Body

namespace Client

/-! ## `queue_status` -/

/-- `body.decode("utf-8")`.  What the exception says of the place is left out. -/
def utf8Decode (body : List UInt8) : Except PyException String :=
  if Utf8.encode (Utf8.decode body) = body then .ok (String.ofList (Utf8.decode body))
  else .error ⟨"UnicodeDecodeError", "'utf-8' codec can't decode"⟩

/-- What `json.loads` raises, where nothing catches it. -/
def loadsException : LoadsError → PyException
  | .decode text => ⟨"JSONDecodeError", text⟩
  | .other typeName text => ⟨typeName, text⟩

/-- `VibevoiceClient.queue_status`, from the response on: `body` is what `response.read()`
returned or raised. -/
def queueStatus (py : PythonText) (status : ℕ) (body : Except PyException (List UInt8)) :
    Except PyException PyJson := do
  let body ← body
  if status ≠ 200 then
    .error (runtimeError ("queue status failed with HTTP " ++ toString status ++ ": " ++
      String.ofList (Utf8.decode body)))
  else (py.loads (← utf8Decode body)).mapError loadsException

/-! ## `_status` -/

section Command

variable (con : Console) (k : Conversions) (sliced : PyJson → Except PyException PyJson)

/-- `for item in value` -/
def pyItems : PyJson → Except PyException (List PyJson)
  | .list items => .ok items
  | .dict fields => .ok (fields.map fun field => .str field.1)
  | .str s => .ok (s.toList.map fun c => .str (String.ofList [c]))
  | value => .error ⟨"TypeError", "'" ++ value.typeName ++ "' object is not iterable"⟩

/-- `value[:8]`; `sliced` is what it does with a value that is no string. -/
def firstEight : PyJson → Except PyException PyJson
  | .str s => .ok (.str (pyPrefix s 8))
  | value => sliced value

/-- `format(value, "")` -/
def formatted : PyJson → String
  | .str s => s
  | .int n => toString n
  | value => k.str value

/-- `format(value, ".0f")` -/
def formattedFixed0 : PyJson → Except PyException String
  | .str _ => .error ⟨"ValueError", "Unknown format code 'f' for object of type 'str'"⟩
  | .float text => .ok (con.fixed0 text)
  | .int n => (k.float (.int n)).map con.fixed0
  | .bool b => (k.float (.bool b)).map con.fixed0
  | value =>
    .error ⟨"TypeError", "unsupported format string passed to " ++ value.typeName ++ ".__format__"⟩

/-- `parts.append(…)`, unless the value is `None`. -/
def appendPart (part : PyJson → Except PyException String) (parts : List String) :
    PyJson → Except PyException (List String)
  | .none => .ok parts
  | value => (part value).map fun text => parts ++ [text]

/-- What is printed of a job. -/
def jobLine (job : PyJson) : Except PyException String := do
  let status ← pyGetItem "status" job
  let pos ← pyGetItem "position" job
  let eta ← pyGetItem "estimated_wait_seconds" job
  let jobId ← pyGetItem "job_id" job
  let parts := ["  " ++ formatted k (← firstEight sliced jobId) ++ "... status=" ++
    formatted k status]
  let parts ← appendPart (fun pos => .ok ("position=" ++ formatted k pos)) parts pos
  let parts ← appendPart (fun eta => (formattedFixed0 con k eta).map fun text =>
    "eta=" ++ text ++ "s") parts eta
  return " ".intercalate parts

/-- `print(line)`, and what follows it. -/
def Written.printThen (w : Written) (line : String) (next : Written → Written × Option Exit) :
    Written × Option Exit :=
  match w.put con .stdout (line ++ "\n") with
  | (w, some exit) => (w, some exit)
  | (w, none) => next w

/-- The loop over the jobs. -/
def printJobs (w : Written) : List PyJson → Written × Option Exit
  | [] => (w, none)
  | job :: jobs =>
    match jobLine con k sliced job with
    | .error exc => (w, some (.raised exc))
    | .ok line => w.printThen con line fun w => printJobs w jobs

/-- `_status`, from the object on. -/
def printStatus (w : Written) (yourJobs total : PyJson) : Written × Option Exit :=
  w.printThen con ("Total queued: " ++ formatted k total) fun w =>
    if pyTruth yourJobs then
      w.printThen con "Your jobs:" fun w =>
        match pyItems yourJobs with
        | .error exc => (w, some (.raised exc))
        | .ok jobs => printJobs con k sliced w jobs
    else w.printThen con "No active jobs." fun w => (w, none)

/-- `_status` -/
def cliStatus (info : Except PyException PyJson) : Written × Option Exit :=
  match info.bind fun info => (pyGetItem "your_jobs" info).bind fun yourJobs =>
      (pyGetItem "total_queued" info).map fun total => (yourJobs, total) with
  | .error exc => ({}, some (.raised exc))
  | .ok (yourJobs, total) => printStatus con k sliced {} yourJobs total

end Command

/-! ## Lines -/

section Lines

/-- Lines that are printed one after the other. -/
def Written.printLines (con : Console) (w : Written) : List String → Written × Option Exit
  | [] => (w, none)
  | line :: lines => w.printThen con line fun w => w.printLines con lines

/-- The text of some lines. -/
def unlines (lines : List String) : String := String.join (lines.map (· ++ "\n"))

variable (con : Console) (floatText : ℚ → String)

/-- The line of a job. -/
def statusLine (info : JobInfo) : String :=
  " ".intercalate (("  " ++ pyPrefix info.jobId 8 ++ "... status=" ++ info.status.value) ::
    (info.position.toList.map (fun position => "position=" ++ toString (position : ℤ)) ++
      info.estimatedWaitSeconds.toList.map fun wait =>
        "eta=" ++ con.fixed0 (floatText wait) ++ "s"))

/-- **The lines of a status.** -/
def statusLines (r : QueueStatusResponse) : List String :=
  ("Total queued: " ++ toString (r.totalQueued : ℤ)) ::
    if r.yourJobs = [] then ["No active jobs."]
    else "Your jobs:" :: r.yourJobs.map (statusLine con floatText)

variable {con floatText} {k : Conversions} {sliced : PyJson → Except PyException PyJson}

variable (con) in
/-- A line is printed, or the `print` raises. -/
theorem Written.printThen_cases (w : Written) (line : String)
    (next : Written → Written × Option Exit) :
    w.printThen con line next = next { w with stdout := w.stdout ++ encoded (line ++ "\n") } ∨
      ∃ exc n, con.refuses w .stdout (encoded (line ++ "\n")) = some (exc, n) ∧
        w.printThen con line next =
          ({ w with stdout := (w.stdout ++ encoded (line ++ "\n")).take n },
            some (.raised exc)) := by
  rw [Written.printThen]
  rcases @Written.put_stdout con w (line ++ "\n") with hput | ⟨exc, n, hrefused, hput⟩
  · rw [hput]
    exact Or.inl rfl
  · rw [hput]
    exact Or.inr ⟨exc, n, hrefused, rfl⟩

/-- The bytes of some lines and one before them. -/
theorem encoded_unlines_cons (line : String) (lines : List String) :
    encoded (unlines (line :: lines)) = encoded (line ++ "\n") ++ encoded (unlines lines) := by
  rw [unlines, List.map_cons, String.join_cons, encoded_append, ← unlines]

variable (con) in
/-- **What is printed is a beginning of the lines**, and all of them if no `print` raises. -/
theorem Written.printLines_spec (w : Written) (lines : List String) : ∃ out exit,
    w.printLines con lines = ({ w with stdout := out }, exit) ∧
      out <+: w.stdout ++ encoded (unlines lines) ∧
      (exit = none → out = w.stdout ++ encoded (unlines lines)) ∧
      ∀ e ∈ exit, ∃ exc n v bytes, con.refuses v .stdout bytes = some (exc, n) ∧
        e = .raised exc := by
  induction lines generalizing w with
  | nil =>
    have hnil : w.stdout ++ encoded (unlines []) = w.stdout := List.append_nil _
    exact ⟨w.stdout, none, rfl, by rw [hnil], fun _ => hnil.symm, by simp⟩
  | cons line lines ih =>
    rw [encoded_unlines_cons, ← List.append_assoc, Written.printLines]
    rcases w.printThen_cases con line fun w => w.printLines con lines with
      hnext | ⟨exc, n, hrefused, hraised⟩
    · rw [hnext]
      exact ih { w with stdout := w.stdout ++ encoded (line ++ "\n") }
    · rw [hraised]
      refine ⟨_, _, rfl, (List.take_prefix n _).trans (List.prefix_append _ _), by simp, ?_⟩
      intro e he
      exact ⟨exc, n, w, _, hrefused, (Option.some.inj he).symm⟩

theorem Written.printLines_writable (hcon : con.Writable) (w : Written) (lines : List String) :
    w.printLines con lines =
      ({ w with stdout := w.stdout ++ encoded (unlines lines) }, none) := by
  obtain ⟨out, exit, hrun, -, hall, hexit⟩ := w.printLines_spec con lines
  cases exit with
  | none => rw [hrun, hall rfl]
  | some e =>
    obtain ⟨exc, n, v, bytes, hrefused, -⟩ := hexit e rfl
    rw [hcon.refuses] at hrefused
    exact absurd hrefused.symm (Option.some_ne_none (exc, n))

/-- What is printed of a job of the server. -/
theorem jobLine_toJson (info : JobInfo) :
    jobLine con k sliced (info.toJson floatText) = .ok (statusLine con floatText info) := by
  obtain ⟨jobId, status, position, wait⟩ := info
  cases position <;> cases wait <;> rfl

theorem printJobs_toJson (w : Written) (infos : List JobInfo) :
    printJobs con k sliced w (infos.map (JobInfo.toJson floatText)) =
      w.printLines con (infos.map (statusLine con floatText)) := by
  induction infos generalizing w with
  | nil => rfl
  | cons info infos ih =>
    rw [List.map_cons, List.map_cons, printJobs, jobLine_toJson, Written.printLines]
    simp only [ih]

/-- **What is printed of a status of the server.** -/
theorem cliStatus_toJson (r : QueueStatusResponse) :
    cliStatus con k sliced (.ok (r.toJson floatText)) =
      ({} : Written).printLines con (statusLines con floatText r) := by
  have hstatus : cliStatus con k sliced (.ok (r.toJson floatText)) =
      printStatus con k sliced {} (.list (r.yourJobs.map (JobInfo.toJson floatText)))
        (.int r.totalQueued) := rfl
  rw [hstatus, printStatus, statusLines, Written.printLines]
  cases hjobs : r.yourJobs with
  | nil => rfl
  | cons info infos =>
    rw [if_neg (List.cons_ne_nil info infos)]
    refine congrArg (({} : Written).printThen con _) (funext fun w => ?_)
    refine (if_pos rfl).trans (congrArg (w.printThen con _) (funext fun w => ?_))
    exact printJobs_toJson w (info :: infos)

end Lines

/-! ## The response -/

section Response

variable {py : PythonText} {floatText : ℚ → String} {dump : PyJson → String}
  {con : Console} {k : Conversions} {sliced : PyJson → Except PyException PyJson}

/-- A body with the status 200. -/
theorem queueStatus_ok (body : List UInt8) : queueStatus py 200 (.ok body) =
    (utf8Decode body).bind fun text => (py.loads text).mapError loadsException := rfl

theorem loads_of_queueStatus {body : List UInt8} {info : PyJson}
    (h : queueStatus py 200 (.ok body) = .ok info) :
    py.loads (String.ofList (Utf8.decode body)) = .ok info := by
  rw [queueStatus_ok, utf8Decode] at h
  split at h
  · change (py.loads (String.ofList (Utf8.decode body))).mapError _ = _ at h
    cases hvalue : py.loads (String.ofList (Utf8.decode body)) with
    | error text =>
      rw [hvalue] at h
      exact absurd h (by simp [Except.mapError])
    | ok v =>
      rw [hvalue] at h
      obtain rfl : v = info := Except.ok.inj h
      rfl
  · exact absurd h (by simp [Except.bind])

/-- **A body that arrives whole** is read as the object that was written. -/
theorem queueStatus_statusBody (hdump : Inverted py dump)
    (hfloat : ∀ x, Json.Text (.float (floatText x)) (floatText x).toList)
    (r : QueueStatusResponse) :
    queueStatus py 200 (.ok (statusBody floatText dump r)) = .ok (r.toJson floatText) := by
  have hdecode : utf8Decode (statusBody floatText dump r) = .ok (dump (r.toJson floatText)) := by
    rw [utf8Decode, statusBody, Utf8.decode_encode, if_pos rfl, String.ofList_toList]
  rw [queueStatus_ok, hdecode]
  show (py.loads (dump (r.toJson floatText))).mapError _ = _
  rw [hdump.loads _ (r.printable_toJson hfloat)]
  rfl

/-- **A body that breaks off** is read as the whole, or not at all. -/
theorem queueStatus_of_prefix (hloads : py.LoadsOnlyJson) (hdump : Inverted py dump)
    (hfloat : ∀ x, Json.Text (.float (floatText x)) (floatText x).toList)
    {r : QueueStatusResponse} {received : List UInt8}
    (h : received <+: statusBody floatText dump r) {info : PyJson}
    (hinfo : queueStatus py 200 (.ok received) = .ok info) : info = r.toJson floatText := by
  have hdoc := hloads _ _ (loads_of_queueStatus hinfo)
  rw [String.toList_ofList] at hdoc
  obtain ⟨before, rest, hwhole, hdecode⟩ := Utf8.decode_of_prefix h
  have hobject : Json.Document (r.toJson floatText) (before ++ rest) := by
    rw [← hwhole]
    exact hloads _ _ (hdump.loads _ (r.printable_toJson hfloat))
  rcases hdecode with hdecode | ⟨hdecode, c, rest', rfl, hc⟩
  · rw [hdecode] at hdoc
    exact hdoc.eq_of_append hobject
  · -- the character that was cut in two was in a string, which is not closed
    rw [hdecode] at hdoc
    exact absurd hdoc (hobject.not_of_cut hc (by decide))

/-- **What is printed of a body**, or of the beginning of one, and what is made of the exception
that `response.read()` raises. -/
theorem cliStatus_of_prefix (hloads : py.LoadsOnlyJson) (hdump : Inverted py dump)
    (hfloat : ∀ x, Json.Text (.float (floatText x)) (floatText x).toList)
    (r : QueueStatusResponse) {body : Except PyException (List UInt8)}
    (h : ∀ received, body = .ok received → received <+: statusBody floatText dump r) :
    ∃ out exit, leave con (cliStatus con k sliced (queueStatus py 200 body)) =
        ({ stdout := out }, exit) ∧
      out <+: encoded (unlines (statusLines con floatText r)) ∧
      (exit = none → out = encoded (unlines (statusLines con floatText r))) ∧
      (out ≠ [] → queueStatus py 200 body = .ok (r.toJson floatText)) ∧
      ∀ code, exit ≠ some (.systemExit code) := by
  obtain ⟨out, exit, hrun, hprefix, hall, hwhole, hexit⟩ : ∃ out exit,
      cliStatus con k sliced (queueStatus py 200 body) = ({ stdout := out }, exit) ∧
      out <+: encoded (unlines (statusLines con floatText r)) ∧
      (exit = none → out = encoded (unlines (statusLines con floatText r))) ∧
      (out ≠ [] → queueStatus py 200 body = .ok (r.toJson floatText)) ∧
      ∀ code, exit ≠ some (.systemExit code) := by
    cases hresponse : queueStatus py 200 body with
    | error exc =>
      exact ⟨[], some (.raised exc), rfl, List.nil_prefix, by simp, fun h => absurd rfl h, by simp⟩
    | ok info =>
      cases body with
      | error exc => exact absurd hresponse (by simp [queueStatus, bind, Except.bind])
      | ok received =>
        obtain rfl := queueStatus_of_prefix hloads hdump hfloat (h received rfl) hresponse
        obtain ⟨out, exit, hrun, hprefix, hall, hexit⟩ :=
          ({} : Written).printLines_spec con (statusLines con floatText r)
        rw [List.nil_append] at hprefix hall
        refine ⟨out, exit, by rw [cliStatus_toJson, hrun], hprefix, hall, fun _ => rfl, ?_⟩
        intro code hcode
        obtain ⟨exc, _, _, _, -, hraised⟩ := hexit _ hcode
        cases hraised
  rw [hrun, leave]
  split
  · rename_i n hn
    refine ⟨out.take n, some .unflushed, rfl, (List.take_prefix n out).trans hprefix, by simp,
      fun hne => hwhole fun hnil => hne (by rw [hnil, List.take_nil]), by simp⟩
  · exact ⟨out, exit, rfl, hprefix, hall, hwhole, hexit⟩

end Response

/-! ## The result -/

section Result

open TranscriptionQueue

variable {py : PythonText} {floatText : ℚ → String} {dump : PyJson → String}
  {con : Console} {k : Conversions} {sliced : PyJson → Except PyException PyJson}
  {pf : ProcessFn} {maxSize : ℕ} {s : TranscriptionQueue pf.Frame}

/-- **What `vvv status` prints** of the queue in any state it gets into: how many jobs wait, and
one line for each job of the client, in the order of `_jobs`.  Where a `print` raises, or the
flush at the exit, a beginning of the bytes of these lines gets out; of a response that is not
whole nothing is printed, and without an exception everything is. -/
theorem status_printed (hloads : py.LoadsOnlyJson) (hdump : Inverted py dump)
    (hfloat : ∀ x, Json.Text (.float (floatText x)) (floatText x).toList)
    (hs : (system pf maxSize).Reachable s) (who : String) :
    (∃ ids : List JobId, ids.Sublist s.jobs ∧ ids.Nodup ∧
        (∀ id, id ∈ ids ↔ id ∈ s.jobs ∧ (s.job id).clientIdentity = who) ∧
        s.getQueueInfo who = ⟨ids.map s.jobInfo, s.reported.length⟩) ∧
      (∀ body : Except PyException (List UInt8),
        (∀ received, body = .ok received →
          received <+: statusBody floatText dump (s.getQueueInfo who)) →
        ∃ out exit, leave con (cliStatus con k sliced (queueStatus py 200 body)) =
            ({ stdout := out }, exit) ∧
          out <+: encoded (unlines (statusLines con floatText (s.getQueueInfo who))) ∧
          (exit = none →
            out = encoded (unlines (statusLines con floatText (s.getQueueInfo who)))) ∧
          (out ≠ [] → queueStatus py 200 body = .ok ((s.getQueueInfo who).toJson floatText)) ∧
          ∀ code, exit ≠ some (.systemExit code)) ∧
      (con.Writable → leave con (cliStatus con k sliced
            (queueStatus py 200 (.ok (statusBody floatText dump (s.getQueueInfo who))))) =
          ({ stdout := encoded (unlines (statusLines con floatText (s.getQueueInfo who))) },
            none)) := by
  have hnodup : s.jobs.Nodup := (coherent_of_reachable hs).sound.jobs_nodup
  refine ⟨⟨s.jobs.filter fun id => (s.job id).clientIdentity = who, List.filter_sublist,
    hnodup.filter _, fun id => ?_, getQueueInfo_eq who⟩,
    fun body hbody => cliStatus_of_prefix hloads hdump hfloat _ hbody, fun hcon => ?_⟩
  · rw [List.mem_filter, decide_eq_true_iff]
  · rw [queueStatus_statusBody hdump hfloat, cliStatus_toJson, Written.printLines_writable hcon,
      leave, hcon.exits, List.nil_append]

/-- A console that prints waits of whole seconds. -/
def secondsConsole : Console :=
  { plainConsole with fixed0 := fun text => String.ofList (text.toList.takeWhile (· ≠ '.')) }

/-- A client has a job that is being uploaded, and one that waits behind a job of another. -/
theorem status_printed_second : ∃ s, (system (processFn PythonText.jsonModule .groq) 3).exec
      { maxSize := 3 } [.reserve "0123456789" "x", .reserve "a" "y", .reserve "b" "x",
        .submit "a", .submit "b"] = some s ∧
    leave secondsConsole (cliStatus secondsConsole plainConversions .ok
        (queueStatus PythonText.jsonModule 200
          (.ok (statusBody jsonText.floatText jsonText.modelDumpJson (s.getQueueInfo "x"))))) =
      ({ stdout := encoded ("Total queued: 2\nYour jobs:\n  01234567... status=uploading\n" ++
          "  b... status=queued position=2 eta=60s\n") }, none) := by
  have hrun : (system (processFn PythonText.jsonModule .groq) 3).exec { maxSize := 3 }
      [.reserve "0123456789" "x", .reserve "a" "y", .reserve "b" "x", .submit "a", .submit "b"] =
        some _ := rfl
  refine ⟨_, hrun, ((status_printed PythonText.loadsJson_jsonModule.only
    readable_jsonText.modelDumpJson readable_jsonText.floatText
    (TransitionSystem.reachable_of_exec _ rfl hrun) "x").2.2
      ⟨fun _ => rfl, fun _ _ _ => rfl, fun _ => rfl, fun _ => rfl⟩).trans ?_⟩
  decide +kernel

end Result

end Client

end VibeVoice
