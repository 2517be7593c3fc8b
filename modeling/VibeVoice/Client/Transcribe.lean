import VibeVoice.Server.EventStream
import VibeVoice.Server.VllmClient

/-!
# The events on the wire

What `event_stream` yields is text, and `VibevoiceClient.transcribe` reads it line
by line.  This is the text of each event (`SseEvent.toText`), the loop of the client
(`clientLines`), and that the second reads what the first writes, for every list of
events, whatever is in them (`events_round_trip`).

## Why nothing can be smuggled in

The framing is made of lines, and the texts in the events come from elsewhere: from
the model, from exceptions.  A text with a line `event: done` in it does no harm,
since it is written as JSON, and there a line feed is an escape.  So every event is
written in lines of printable characters (`SseEvent.lines`), and the lines a client
sees are the ones that were written.

The client splits at `0x0A` before it decodes, so it matters that in UTF-8 no part
of a character is that byte.  Characters that end a line for `str.splitlines` only,
such as U+2028, do not concern it.

## The name of the event

The client remembers the name it saw last, until a `data` line that is an object.
Each event leaves the name as it was at the beginning, `data`, and so does a
comment, which has no name; that is the invariant the induction carries.
-/

namespace VibeVoice

/-! ## What the server writes -/

/-- How `event_stream` writes its objects. -/
structure EventText where
  /-- `model_dump_json()` -/
  modelDumpJson : PyJson → String
  /-- `json.dumps` -/
  dumps : PyJson → String
  /-- A float, as `model_dump_json` writes it. -/
  floatText : ℚ → String

/-- `QueuePositionEvent` -/
def queuePositionEvent (w : EventText) (jobId : JobId) (position : ℕ)
    (estimatedWaitSeconds : ℚ) : PyJson :=
  .dict [("job_id", .str jobId), ("position", .int position),
    ("estimated_wait_seconds", .float (w.floatText estimatedWaitSeconds))]

/-- `TranscriptionChunkEvent` -/
def transcriptionChunkEvent (text : String) : PyJson := .dict [("text", .str text)]

/-- `ErrorEvent` -/
def errorEvent (error : String) : PyJson := .dict [("error", .str error)]

/-- The object of the last event. -/
def doneEvent (jobId : JobId) : PyJson := .dict [("job_id", .str jobId)]

/-- **The text that is yielded for an event.** -/
def SseEvent.toText (w : EventText) : SseEvent → String
  | .queue jobId position estimatedWaitSeconds =>
    "event: queue\ndata: " ++
      w.modelDumpJson (queuePositionEvent w jobId position estimatedWaitSeconds) ++ "\n\n"
  | .accepted => ": accepted\n\n"
  | .keepalive => ": keepalive\n\n"
  | .data text => "data: " ++ w.modelDumpJson (transcriptionChunkEvent text) ++ "\n\n"
  | .error message => "event: error\ndata: " ++ w.modelDumpJson (errorEvent message) ++ "\n\n"
  | .done jobId => "event: done\ndata: " ++ w.dumps (doneEvent jobId) ++ "\n\n"

/-- The body of the response: `StreamingResponse` encodes what is yielded. -/
def responseBody (w : EventText) (events : List SseEvent) : List UInt8 :=
  events.flatMap fun event => Utf8.encode (event.toText w).toList

/-! ## What the client reads -/

/-- `EventType` -/
inductive EventType where
  | queue
  | data
  | error
  | done
  deriving DecidableEq, Repr

/-- `TranscriptionEvent`; a float is given by the text it was written as. -/
structure TranscriptionEvent where
  eventType : EventType
  text : Option String := none
  jobId : Option String := none
  position : Option ℤ := none
  estimatedWaitSeconds : Option String := none
  error : Option String := none
  deriving DecidableEq, Repr

/-- What `str`, `int` and `float` make of a value of another type. -/
structure Conversions where
  str : PyJson → String
  int : PyJson → Except PyException ℤ
  float : PyJson → Except PyException String

namespace Conversions

variable (k : Conversions)

/-- `str(value)` -/
def pyStr : PyJson → String
  | .str s => s
  | value => k.str value

/-- `int(value)` -/
def pyInt : PyJson → Except PyException ℤ
  | .int n => .ok n
  | .bool b => .ok (if b then 1 else 0)
  | value => k.int value

/-- `float(value)` -/
def pyFloat : PyJson → Except PyException String
  | .float text => .ok text
  | value => k.float value

end Conversions

/-- `_json_or_none` -/
def jsonOrNone (py : PythonText) (raw : String) : Except PyException (Option PyJson) :=
  match py.loads raw with
  | .ok (.dict fields) => .ok (some (.dict fields))
  | .ok _ => .ok none
  | .error (.decode _) => .ok none
  | .error (.other typeName text) => .error ⟨typeName, text⟩

/-- `line.rstrip("\r\n")` -/
def rstripLineEnd (line : List Char) : List Char :=
  (line.reverse.dropWhile fun c => c == '\r' || c == '\n').reverse

/-- `"event: "` -/
def eventPrefix : List Char := ['e', 'v', 'e', 'n', 't', ':', ' ']

/-- The branches on `current_event`: what is yielded, if anything. -/
def clientEvent (k : Conversions) (currentEvent : String) (payload : PyJson) :
    Except PyException (Option TranscriptionEvent) :=
  if currentEvent = "queue" then
    (pyGetItem "job_id" payload).bind fun jobId =>
    ((pyGetItem "position" payload).bind k.pyInt).bind fun position =>
    ((pyGetItem "estimated_wait_seconds" payload).bind k.pyFloat).bind fun wait =>
    .ok (some { eventType := .queue, jobId := some (k.pyStr jobId), position := some position,
                estimatedWaitSeconds := some wait })
  else if currentEvent = "data" then
    (pyGetItem "text" payload).bind fun text =>
    .ok (some { eventType := .data, text := some (k.pyStr text) })
  else if currentEvent = "error" then
    (pyGetItem "error" payload).bind fun error =>
    .ok (some { eventType := .error, error := some (k.pyStr error) })
  else if currentEvent = "done" then
    (pyGetItem "job_id" payload).bind fun jobId =>
    .ok (some { eventType := .done, jobId := some (k.pyStr jobId) })
  else .ok none

/-- One turn of the loop, with a line that is decoded and stripped: the name for the
next one, and what is yielded. -/
def clientLine (py : PythonText) (k : Conversions) (currentEvent : String) (line : List Char) :
    Except PyException (String × Option TranscriptionEvent) :=
  if eventPrefix.isPrefixOf line then
    .ok (String.ofList (line.drop eventPrefix.length), none)
  else if !dataPrefix.isPrefixOf line then .ok (currentEvent, none)
  else
    (jsonOrNone py (String.ofList (line.drop dataPrefix.length))).bind fun payload =>
    match payload with
    | none => .ok (currentEvent, none)
    | some payload => (clientEvent k currentEvent payload).map fun event => ("data", event)

/-- The loop: what it yields, and the exception that ends it, if one does. -/
def clientLines (py : PythonText) (k : Conversions) (currentEvent : String) :
    List (List UInt8) → List TranscriptionEvent × Option PyException
  | [] => ([], none)
  | rawLine :: rawLines =>
    match clientLine py k currentEvent (rstripLineEnd (Utf8.decode rawLine)) with
    | .error exc => ([], some exc)
    | .ok (currentEvent, event) =>
      let rest := clientLines py k currentEvent rawLines
      (event.toList ++ rest.1, rest.2)

/-- `VibevoiceClient.transcribe`, from the response on. -/
def transcribe (py : PythonText) (k : Conversions) (status : ℕ) (body : List UInt8) :
    List TranscriptionEvent × Option PyException :=
  if status ≠ 200 then
    ([], some (runtimeError ("transcription failed with HTTP " ++ toString status ++ ": " ++
      String.ofList (Utf8.decode body))))
  else clientLines py k "data" (readlines body)

/-- **The event a client should see** of one that was yielded. -/
def SseEvent.toClient (w : EventText) : SseEvent → Option TranscriptionEvent
  | .queue jobId position estimatedWaitSeconds =>
    some { eventType := .queue, jobId := some jobId, position := some position,
           estimatedWaitSeconds := some (w.floatText estimatedWaitSeconds) }
  | .accepted | .keepalive => none
  | .data text => some { eventType := .data, text := some text }
  | .error message => some { eventType := .error, error := some message }
  | .done jobId => some { eventType := .done, jobId := some jobId }

/-! ## Lines -/

section Lines

variable {py : PythonText} {k : Conversions}

/-- What is left of a line of printable characters is the line. -/
theorem rstripLineEnd_append {line : List Char} (h : Json.Printing line) :
    rstripLineEnd (line ++ ['\n']) = line := by
  have hkeep : line.reverse.dropWhile (fun c => c == '\r' || c == '\n') = line.reverse := by
    cases hrev : line.reverse with
    | nil => rfl
    | cons c cs =>
      have hc := h c (List.mem_reverse.mp (hrev ▸ List.mem_cons_self))
      refine List.dropWhile_cons_of_neg ?_
      simp only [Bool.or_eq_true, beq_iff_eq]
      rintro (rfl | rfl) <;> exact absurd hc (by decide)
  rw [rstripLineEnd, List.reverse_append]
  exact (congrArg List.reverse hkeep).trans (List.reverse_reverse line)

/-- No character but the line feed has a `0x0A` in it. -/
theorem not_mem_encode {line : List Char} (h : Json.Printing line) :
    (0x0A : UInt8) ∉ Utf8.encode line := by
  intro hmem
  have hline : '\n' ∈ line := (Utf8.mem_encode (c := '\n') (by decide)).mp hmem
  exact absurd (h _ hline) (by decide)

/-- **One line**: the client sees what was written, and then the rest. -/
theorem clientLines_line {line : List Char} (h : Json.Printing line) (currentEvent : String)
    (rest : List UInt8) :
    clientLines py k currentEvent (readlines (Utf8.encode (line ++ ['\n']) ++ rest)) =
      match clientLine py k currentEvent line with
      | .error exc => ([], some exc)
      | .ok (currentEvent, event) =>
        (event.toList ++ (clientLines py k currentEvent (readlines rest)).1,
          (clientLines py k currentEvent (readlines rest)).2) := by
  have hbytes : Utf8.encode (line ++ ['\n']) ++ rest = Utf8.encode line ++ 0x0A :: rest := by
    rw [Utf8.encode_append, List.append_assoc]
    rfl
  have hraw : [] ++ Utf8.encode line ++ [0x0A] = Utf8.encode (line ++ ['\n']) := by
    rw [List.nil_append, Utf8.encode_append]
    rfl
  rw [hbytes, readlines, readlinesFrom_append (not_mem_encode h), hraw, clientLines,
    Utf8.decode_encode, rstripLineEnd_append h]

/-- A line of which nothing is yielded. -/
theorem clientLines_next {line : List Char} (h : Json.Printing line)
    {currentEvent next : String} (hline : clientLine py k currentEvent line = .ok (next, none))
    (rest : List UInt8) :
    clientLines py k currentEvent (readlines (Utf8.encode (line ++ ['\n']) ++ rest)) =
      clientLines py k next (readlines rest) := by
  rw [clientLines_line h, hline]
  rfl

/-- A line of which an event is yielded. -/
theorem clientLines_yield {line : List Char} (h : Json.Printing line)
    {currentEvent next : String} {event : TranscriptionEvent}
    (hline : clientLine py k currentEvent line = .ok (next, some event)) (rest : List UInt8) :
    clientLines py k currentEvent (readlines (Utf8.encode (line ++ ['\n']) ++ rest)) =
      (event :: (clientLines py k next (readlines rest)).1,
        (clientLines py k next (readlines rest)).2) := by
  rw [clientLines_line h, hline]
  rfl

/-- The bytes of some lines, one after the other. -/
theorem encode_lines (lines : List (List Char)) (rest : List UInt8) :
    Utf8.encode (lines.flatMap (· ++ ['\n'])) ++ rest =
      lines.foldr (fun line bytes => Utf8.encode (line ++ ['\n']) ++ bytes) rest := by
  induction lines with
  | nil => rfl
  | cons line lines ih =>
    rw [List.flatMap_cons, Utf8.encode_append, List.append_assoc, ih, List.foldr_cons]

/-- A line that names an event. -/
theorem clientLine_event (currentEvent : String) (name : List Char) :
    clientLine py k currentEvent (eventPrefix ++ name) = .ok (String.ofList name, none) := by
  rw [clientLine, if_pos (by simp), List.drop_left]

/-- A line with an object. -/
theorem clientLine_data {t : List Char} {fields : List (String × PyJson)}
    (h : py.loads (String.ofList t) = .ok (.dict fields)) (currentEvent : String) :
    clientLine py k currentEvent (dataPrefix ++ t) =
      (clientEvent k currentEvent (.dict fields)).map fun event => ("data", event) := by
  have hevent : ¬ eventPrefix.isPrefixOf (dataPrefix ++ t) = true := by
    simp [eventPrefix, dataPrefix]
  rw [clientLine, if_neg hevent, if_neg (by simp), List.drop_left, jsonOrNone, h]
  rfl

end Lines

/-! ## Events -/

/-- **What is asked of `dump`**: that `json.loads` reads what it writes, and that it
writes no control character. -/
structure Inverted (py : PythonText) (dump : PyJson → String) : Prop where
  loads : ∀ v, Json.Printable v → py.loads (dump v) = .ok v
  printing : ∀ v, Json.Printable v → Json.Printing (dump v).toList

/-- What is asked of the parts of the library that write the events; a wait is finite. -/
structure EventText.Readable (w : EventText) (py : PythonText) : Prop where
  modelDumpJson : Inverted py w.modelDumpJson
  dumps : Inverted py w.dumps
  floatText : ∀ x, Json.Text (.float (w.floatText x)) (w.floatText x).toList

namespace SseEvent

/-- The lines of an event. -/
def lines (w : EventText) : SseEvent → List (List Char)
  | queue jobId position estimatedWaitSeconds =>
    [eventPrefix ++ ['q', 'u', 'e', 'u', 'e'], dataPrefix ++
      (w.modelDumpJson (queuePositionEvent w jobId position estimatedWaitSeconds)).toList, []]
  | accepted => [[':', ' ', 'a', 'c', 'c', 'e', 'p', 't', 'e', 'd'], []]
  | keepalive => [[':', ' ', 'k', 'e', 'e', 'p', 'a', 'l', 'i', 'v', 'e'], []]
  | data text => [dataPrefix ++ (w.modelDumpJson (transcriptionChunkEvent text)).toList, []]
  | error message =>
    [eventPrefix ++ ['e', 'r', 'r', 'o', 'r'],
      dataPrefix ++ (w.modelDumpJson (errorEvent message)).toList, []]
  | done jobId =>
    [eventPrefix ++ ['d', 'o', 'n', 'e'], dataPrefix ++ (w.dumps (doneEvent jobId)).toList, []]

/-- What is written between two texts. -/
theorem toList_framed {before after : String} {u v : List Char} (hbefore : before.toList = u)
    (hafter : after.toList = v) (text : String) :
    (before ++ text ++ after).toList = u ++ (text.toList ++ v) := by
  rw [String.toList_append, String.toList_append, hbefore, hafter, List.append_assoc]

/-- The text of an event is its lines. -/
theorem toList_toText (w : EventText) (event : SseEvent) :
    (event.toText w).toList = (event.lines w).flatMap (· ++ ['\n']) := by
  have hblank : "\n\n".toList = ['\n', '\n'] := rfl
  have hqueue : "event: queue\ndata: ".toList =
      eventPrefix ++ (['q', 'u', 'e', 'u', 'e', '\n'] ++ dataPrefix) := rfl
  have herror : "event: error\ndata: ".toList =
      eventPrefix ++ (['e', 'r', 'r', 'o', 'r', '\n'] ++ dataPrefix) := rfl
  have hdone : "event: done\ndata: ".toList =
      eventPrefix ++ (['d', 'o', 'n', 'e', '\n'] ++ dataPrefix) := rfl
  cases event with
  | accepted =>
    show ": accepted\n\n".toList = _
    rfl
  | keepalive =>
    show ": keepalive\n\n".toList = _
    rfl
  | queue => exact (toList_framed hqueue hblank _).trans (by simp [lines])
  | data => exact (toList_framed (u := dataPrefix) rfl hblank _).trans (by simp [lines])
  | error => exact (toList_framed herror hblank _).trans (by simp [lines])
  | done => exact (toList_framed hdone hblank _).trans (by simp [lines])

end SseEvent

section Events

variable {py : PythonText} {k : Conversions} {w : EventText}

theorem printable_queuePositionEvent (hw : w.Readable py) (jobId : JobId) (position : ℕ)
    (estimatedWaitSeconds : ℚ) :
    Json.Printable (queuePositionEvent w jobId position estimatedWaitSeconds) := by
  refine .dict (by simp) fun field hfield => ?_
  simp only [List.mem_cons, List.not_mem_nil, or_false] at hfield
  rcases hfield with rfl | rfl | rfl
  · exact .str jobId
  · exact .int position
  · exact .float (hw.floatText estimatedWaitSeconds)

/-- An object with one text in it. -/
theorem printable_textEvent (key text : String) : Json.Printable (.dict [(key, .str text)]) :=
  .dict (by simp) fun _ hfield => List.mem_singleton.mp hfield ▸ .str text

/-- **A line with an object in it**, and what the client makes of it. -/
theorem clientLines_dump {dump : PyJson → String} (hdump : Inverted py dump)
    {fields : List (String × PyJson)} (h : Json.Printable (.dict fields)) {currentEvent : String}
    {event : TranscriptionEvent}
    (hevent : clientEvent k currentEvent (.dict fields) = .ok (some event)) (rest : List UInt8) :
    clientLines py k currentEvent
        (readlines (Utf8.encode (dataPrefix ++ (dump (.dict fields)).toList ++ ['\n']) ++ rest)) =
      (event :: (clientLines py k "data" (readlines rest)).1,
        (clientLines py k "data" (readlines rest)).2) := by
  have hprinting : Json.Printing (dataPrefix ++ (dump (.dict fields)).toList) :=
    Json.Printing.append (by simp [dataPrefix, Json.Printing]) (hdump.printing _ h)
  have hvalue : py.loads (String.ofList (dump (.dict fields)).toList) = .ok (.dict fields) := by
    rw [String.ofList_toList]
    exact hdump.loads _ h
  refine clientLines_yield hprinting ?_ rest
  rw [clientLine_data hvalue, hevent]
  rfl

/-- The line between two events. -/
theorem clientLines_blank (currentEvent : String) (rest : List UInt8) :
    clientLines py k currentEvent (readlines (Utf8.encode ([] ++ ['\n']) ++ rest)) =
      clientLines py k currentEvent (readlines rest) :=
  clientLines_next Json.printing_nil rfl rest

/-- A line that names an event. -/
theorem clientLines_name {name : List Char} (h : Json.Printing name) (currentEvent : String)
    (rest : List UInt8) :
    clientLines py k currentEvent
        (readlines (Utf8.encode (eventPrefix ++ name ++ ['\n']) ++ rest)) =
      clientLines py k (String.ofList name) (readlines rest) :=
  clientLines_next (Json.Printing.append (by simp [eventPrefix, Json.Printing]) h)
    (clientLine_event currentEvent name) rest

/-- **One event**: the client sees it, and the name it remembers is `data` again. -/
theorem clientLines_event (hw : w.Readable py) (event : SseEvent) (rest : List UInt8) :
    clientLines py k "data" (readlines (Utf8.encode (event.toText w).toList ++ rest)) =
      ((event.toClient w).toList ++ (clientLines py k "data" (readlines rest)).1,
        (clientLines py k "data" (readlines rest)).2) := by
  rw [event.toList_toText w, encode_lines]
  cases event with
  | accepted | keepalive =>
    simp only [SseEvent.lines, List.foldr_cons, List.foldr_nil]
    rw [clientLines_next (by simp [Json.Printing]) rfl, clientLines_blank]
    rfl
  | data text =>
    simp only [SseEvent.lines, List.foldr_cons, List.foldr_nil, transcriptionChunkEvent]
    rw [clientLines_dump hw.modelDumpJson (printable_textEvent "text" text) rfl,
      clientLines_blank]
    rfl
  | queue jobId position wait =>
    simp only [SseEvent.lines, List.foldr_cons, List.foldr_nil]
    rw [clientLines_name (by simp [Json.Printing]), queuePositionEvent,
      clientLines_dump hw.modelDumpJson (printable_queuePositionEvent hw jobId position wait) rfl,
      clientLines_blank]
    rfl
  | error message =>
    simp only [SseEvent.lines, List.foldr_cons, List.foldr_nil, errorEvent]
    rw [clientLines_name (by simp [Json.Printing]),
      clientLines_dump hw.modelDumpJson (printable_textEvent "error" message) rfl,
      clientLines_blank]
    rfl
  | done jobId =>
    simp only [SseEvent.lines, List.foldr_cons, List.foldr_nil, doneEvent]
    rw [clientLines_name (by simp [Json.Printing]),
      clientLines_dump hw.dumps (printable_textEvent "job_id" jobId) rfl, clientLines_blank]
    rfl

/-- **What the client sees is what was yielded**: the same events, in the same order,
none besides and none missing, whatever texts are in them. -/
theorem events_round_trip (hw : w.Readable py) (k : Conversions) (events : List SseEvent) :
    transcribe py k 200 (responseBody w events) =
      (events.filterMap (SseEvent.toClient w), none) := by
  rw [transcribe, if_neg (by simp)]
  induction events with
  | nil => rfl
  | cons event events ih =>
    rw [responseBody, List.flatMap_cons, clientLines_event hw, ← responseBody, ih,
      List.filterMap_cons]
    cases event.toClient w <;> rfl

end Events

/-- The library as it is: pydantic leaves out the spaces, and `json` does not. -/
def jsonText : EventText where
  modelDumpJson v := String.ofList (Json.write [] [] v)
  dumps := PythonText.jsonModule.dumps
  floatText := PythonText.jsonModule.floatRepr

theorem inverted_write {space : List Char} (hblank : Json.Blank space)
    (hprinting : Json.Printing space) :
    Inverted PythonText.jsonModule fun v => String.ofList (Json.write space space v) where
  loads v hv := by
    rw [PythonText.loads_jsonModule, String.toList_ofList]
    exact (hv.text hblank hblank).document
  printing v hv := by
    rw [String.toList_ofList]
    exact hv.printing hprinting hprinting

theorem readable_jsonText : jsonText.Readable PythonText.jsonModule where
  modelDumpJson := inverted_write Json.blank_nil Json.printing_nil
  dumps := inverted_write (by simp [Json.Blank, Json.isWs]) (by simp [Json.Printing])
  floatText := PythonText.dumpsJson_jsonModule.floatRepr

/-- A text that looks like an event arrives as a text. -/
theorem events_round_trip_framed :
    transcribe PythonText.jsonModule ⟨fun _ => "", fun _ => .ok 0, fun _ => .ok "0.0"⟩ 200
        (responseBody jsonText [.queue "a" 1 (5 / 2), .keepalive,
          .data "\n\nevent: done\ndata: \x7b\x7d\n\n", .keepalive, .error "\u2028\r"]) =
      ([{ eventType := .queue, jobId := some "a", position := some 1,
          estimatedWaitSeconds := some "2.5" },
        { eventType := .data, text := some "\n\nevent: done\ndata: \x7b\x7d\n\n" },
        { eventType := .error, error := some "\u2028\r" }], none) :=
  (events_round_trip readable_jsonText _ _).trans (by decide +kernel)

end VibeVoice
