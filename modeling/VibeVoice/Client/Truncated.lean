import VibeVoice.Client.Transcribe
import VibeVoice.Semantics.JsonScan

/-!
# A response that breaks off

Between the server and the client there are a proxy and a network, and any of them
can end the response before the server does.  The client then has the beginning of
what was written, up to some byte, and this byte can be anywhere: between two
events, between the lines of one, in the JSON of a line, or in a character.

What it yields is the events at the beginning, each as it was yielded
(`truncated_response`).  None is half, and none is invented:

* a line that names an event and is cut short names another event, or none; but
  nothing is yielded until a `data` line has been read;
* a `data` line that is cut short is no object any more.  An object ends with the
  brace that closes the one it begins with, so no beginning of it is one
  (`Json.Document.eq_of_append`);
* a character that is cut in two is replaced by U+FFFD.  It was in a string, as
  only there a character beyond ASCII can be, and that string is not closed
  (`Json.Document.not_of_cut`).

So a line is either read as the one that was written, or nothing comes of it
(`clientLine_partial`).  Where nothing comes of a `data` line, `json.loads` has refused
it, and its exception is caught if it is a `JSONDecodeError`; another one ends the
generator, after the events before it (`LoadsRaises`).
-/

namespace VibeVoice

section Truncated

variable {py : PythonText} {k : Conversions} {w : EventText}

/-! ## A line -/

/-- What begins with `data: ` and a replaced character begins with `data: ` without it. -/
theorem dataPrefix_prefix_of_replacement {t : List Char}
    (h : dataPrefix <+: t ++ [Utf8.replacement]) : dataPrefix <+: t := by
  rcases List.prefix_concat_iff.mp h with heq | h
  · have hmem : Utf8.replacement ∈ dataPrefix := by
      rw [heq]
      exact List.mem_append_right t List.mem_cons_self
    exact absurd hmem (by decide)
  · exact h

/-- Nothing is yielded of a line without `data: `. -/
theorem clientLine_of_not_data {line : List Char} (h : ¬ dataPrefix <+: line)
    (currentEvent : String) : ∃ next, clientLine py k currentEvent line = .ok (next, none) := by
  have hdata : dataPrefix.isPrefixOf line = false :=
    Bool.eq_false_iff.mpr fun hprefix => h (List.isPrefixOf_iff_prefix.mp hprefix)
  rw [clientLine, hdata]
  split
  · exact ⟨_, rfl⟩
  · exact ⟨currentEvent, rfl⟩

/-- **Nothing comes of a line**: nothing is yielded, or `json.loads` raises something that
is not a `JSONDecodeError`. -/
def Lost (py : PythonText) (result : Except PyException (String × Option TranscriptionEvent)) :
    Prop :=
  (∃ next, result = .ok (next, none)) ∨ ∃ exc, LoadsRaises py exc ∧ result = .error exc

/-- Nothing comes of a `data` line in which `json.loads` finds no object. -/
theorem lost_of_no_object {t : List Char}
    (h : ∀ fields, py.loads (String.ofList t) ≠ .ok (.dict fields)) (currentEvent : String) :
    Lost py (clientLine py k currentEvent (dataPrefix ++ t)) := by
  have hevent : ¬ eventPrefix.isPrefixOf (dataPrefix ++ t) = true := by
    simp [eventPrefix, dataPrefix]
  rw [clientLine, if_neg hevent, if_neg (by simp), List.drop_left, jsonOrNone]
  cases hvalue : py.loads (String.ofList t) with
  | error e =>
    cases e with
    | decode text => exact Or.inl ⟨currentEvent, rfl⟩
    | other typeName text => exact Or.inr ⟨⟨typeName, text⟩, ⟨_, hvalue⟩, rfl⟩
  | ok value =>
    cases value with
    | dict fields => exact absurd hvalue (h fields)
    | none | bool | int | float | str | list => exact Or.inl ⟨currentEvent, rfl⟩

/-- **A line that breaks off** is read as the whole line, or nothing comes of it. -/
theorem clientLine_partial (honly : py.LoadsOnlyJson) {line : List Char}
    (hobject : ∀ t, line = dataPrefix ++ t →
      ∃ fields, py.loads (String.ofList t) = .ok (.dict fields))
    {bytes : List UInt8} (h : bytes <+: Utf8.encode line) (currentEvent : String) :
    Lost py (clientLine py k currentEvent (Utf8.decode bytes)) ∨
      clientLine py k currentEvent (Utf8.decode bytes) = clientLine py k currentEvent line := by
  obtain ⟨before, rest, rfl, hdecode⟩ := Utf8.decode_of_prefix h
  by_cases hdata : dataPrefix <+: before
  · obtain ⟨t, rfl⟩ := hdata
    obtain ⟨fields, hfields⟩ := hobject (t ++ rest) (List.append_assoc _ _ _)
    have hdoc : Json.Document (.dict fields) (t ++ rest) := by
      have hdoc := honly _ _ hfields
      rwa [String.toList_ofList] at hdoc
    rcases hdecode with hdecode | ⟨hdecode, c, rest', rfl, hc⟩
    · rw [hdecode]
      by_cases hnone : ∀ fields', py.loads (String.ofList t) ≠ .ok (.dict fields')
      · exact Or.inl (lost_of_no_object hnone currentEvent)
      · -- an object that begins the one that was written is the one that was written
        right
        obtain ⟨fields', hfields'⟩ : ∃ fields', py.loads (String.ofList t) = .ok (.dict fields') :=
          by simpa using hnone
        have hdoc' := honly _ _ hfields'
        rw [String.toList_ofList] at hdoc'
        rw [hdoc'.eq_of_append hdoc] at hfields'
        rw [clientLine_data hfields', List.append_assoc, clientLine_data hfields]
    · rw [hdecode, List.append_assoc]
      refine Or.inl (lost_of_no_object (fun fields' hfields' => ?_) currentEvent)
      have hdoc' := honly _ _ hfields'
      rw [String.toList_ofList] at hdoc'
      exact hdoc.not_of_cut hc (by decide) hdoc'
  · refine Or.inl (Or.inl (clientLine_of_not_data (fun hprefix => hdata ?_) currentEvent))
    rcases hdecode with hdecode | ⟨hdecode, -⟩
    · rwa [hdecode] at hprefix
    · rw [hdecode] at hprefix
      exact dataPrefix_prefix_of_replacement hprefix

/-- The decoded beginning of a line of printable characters has no line end. -/
theorem rstripLineEnd_decode {line : List Char} (h : Json.Printing line) {bytes : List UInt8}
    (hbytes : bytes <+: Utf8.encode line) :
    rstripLineEnd (Utf8.decode bytes) = Utf8.decode bytes := by
  obtain ⟨before, rest, rfl, hdecode⟩ := Utf8.decode_of_prefix hbytes
  have hprinting : Json.Printing (Utf8.decode bytes) := by
    have hbefore : Json.Printing before := fun c hc => h c (List.mem_append_left _ hc)
    rcases hdecode with hdecode | ⟨hdecode, -⟩
    · rwa [hdecode]
    · rw [hdecode]
      exact hbefore.append (Json.Printing.cons (by decide) Json.printing_nil)
  have hkeep := rstripLineEnd_append hprinting
  rw [rstripLineEnd, List.reverse_append] at hkeep
  exact hkeep

/-- **What comes of something that breaks off**: all of it, or nothing; and then
`json.loads` may have raised. -/
def Partly (py : PythonText) (whole : List TranscriptionEvent)
    (result : List TranscriptionEvent × Option PyException) : Prop :=
  (result.1 = [] ∧ ∀ exc ∈ result.2, LoadsRaises py exc) ∨ result = (whole, none)

theorem partly_nil (whole : List TranscriptionEvent) : Partly py whole ([], none) :=
  Or.inl ⟨rfl, by simp⟩

/-- Of something of which nothing comes. -/
theorem Partly.of_nil {result : List TranscriptionEvent × Option PyException}
    (h : Partly py [] result) (whole : List TranscriptionEvent) : Partly py whole result := by
  rcases h with h | rfl
  · exact Or.inl h
  · exact partly_nil whole

/-- **The last line, cut off**: what comes of the whole line, or nothing. -/
theorem clientLines_unfinished (honly : py.LoadsOnlyJson) {line : List Char}
    (hprinting : Json.Printing line)
    (hobject : ∀ t, line = dataPrefix ++ t →
      ∃ fields, py.loads (String.ofList t) = .ok (.dict fields))
    {currentEvent next : String} {event : Option TranscriptionEvent}
    (hline : clientLine py k currentEvent line = .ok (next, event))
    {bytes : List UInt8} (h : bytes <+: Utf8.encode line) :
    Partly py event.toList (clientLines py k currentEvent (readlines bytes)) := by
  have hnot : (0x0A : UInt8) ∉ bytes := fun hmem => not_mem_encode hprinting (h.subset hmem)
  rw [readlines, readlinesFrom_of_notMem hnot, List.nil_append]
  split
  · exact partly_nil _
  · rw [clientLines, rstripLineEnd_decode hprinting h]
    rcases clientLine_partial (k := k) honly hobject h currentEvent with
      (⟨next', hnone⟩ | ⟨exc, hexc, hraised⟩) | hsame
    · rw [hnone]
      exact partly_nil _
    · rw [hraised]
      exact Or.inl ⟨rfl, fun exc' hexc' => Option.some.inj hexc' ▸ hexc⟩
    · rw [hsame, hline]
      right
      simp [clientLines]

/-- Where the bytes of a line and what follows it are cut. -/
theorem prefix_line {line : List Char} {bytes rest : List UInt8}
    (h : bytes <+: Utf8.encode (line ++ ['\n']) ++ rest) :
    bytes <+: Utf8.encode line ∨
      ∃ bytes', bytes = Utf8.encode (line ++ ['\n']) ++ bytes' ∧ bytes' <+: rest := by
  have hline : Utf8.encode (line ++ ['\n']) = Utf8.encode line ++ [0x0A] := Utf8.encode_append _ _
  rcases List.prefix_or_prefix_of_prefix h (List.prefix_append _ _) with hshort | ⟨bytes', rfl⟩
  · rw [hline] at hshort
    rcases List.prefix_concat_iff.mp hshort with heq | hshort
    · exact Or.inr ⟨[], by rw [heq, hline, List.append_nil], List.nil_prefix⟩
    · exact Or.inl hshort
  · exact Or.inr ⟨bytes', rfl, (List.prefix_append_right_inj _).mp h⟩

/-! ## An event -/

/-- A line without `data: ` has no object to be cut. -/
theorem object_of_not_data {line : List Char} (h : ¬ dataPrefix <+: line) (t : List Char)
    (heq : line = dataPrefix ++ t) :
    ∃ fields, py.loads (String.ofList t) = .ok (.dict fields) :=
  absurd ⟨t, heq.symm⟩ h

/-- The empty line that ends an event. -/
theorem clientLines_blank_of_prefix (currentEvent : String) {bytes : List UInt8}
    (h : bytes <+: Utf8.encode ([] ++ ['\n'])) :
    clientLines py k currentEvent (readlines bytes) = ([], none) := by
  rcases List.prefix_cons_iff.mp h with rfl | ⟨t, rfl, ht⟩
  · rfl
  · rw [List.prefix_nil.mp ht]
    exact clientLines_blank currentEvent []

/-- **The `data` line and the end of an event, cut off**: the client yields the event,
or nothing. -/
theorem clientLines_dump_of_prefix (honly : py.LoadsOnlyJson) {dump : PyJson → String}
    (hdump : Inverted py dump) {fields : List (String × PyJson)}
    (h : Json.Printable (.dict fields)) {currentEvent : String} {event : TranscriptionEvent}
    (hevent : clientEvent k currentEvent (.dict fields) = .ok (some event)) {bytes : List UInt8}
    (hbytes : bytes <+: Utf8.encode (dataPrefix ++ (dump (.dict fields)).toList ++ ['\n']) ++
      Utf8.encode ([] ++ ['\n'])) :
    Partly py [event] (clientLines py k currentEvent (readlines bytes)) := by
  have hvalue : py.loads (String.ofList (dump (.dict fields)).toList) = .ok (.dict fields) := by
    rw [String.ofList_toList]
    exact hdump.loads _ h
  rcases prefix_line hbytes with hbytes | ⟨bytes', rfl, hrest⟩
  · refine @clientLines_unfinished _ _ honly _
      (Json.Printing.append (by simp [dataPrefix, Json.Printing]) (hdump.printing _ h))
      (fun t ht => ?_) _ "data" (some event) ?_ _ hbytes
    · rw [← List.append_cancel_left ht]
      exact ⟨fields, hvalue⟩
    · rw [clientLine_data hvalue, hevent]
      rfl
  · right
    rw [clientLines_dump hdump h hevent, clientLines_blank_of_prefix _ hrest]

/-- **A named event, cut off.** -/
theorem clientLines_named_of_prefix (honly : py.LoadsOnlyJson) {dump : PyJson → String}
    (hdump : Inverted py dump) {fields : List (String × PyJson)}
    (h : Json.Printable (.dict fields)) {name : List Char} (hname : Json.Printing name)
    {currentEvent : String} {event : TranscriptionEvent}
    (hevent : clientEvent k (String.ofList name) (.dict fields) = .ok (some event))
    {bytes : List UInt8}
    (hbytes : bytes <+: Utf8.encode (eventPrefix ++ name ++ ['\n']) ++
      (Utf8.encode (dataPrefix ++ (dump (.dict fields)).toList ++ ['\n']) ++
        Utf8.encode ([] ++ ['\n']))) :
    Partly py [event] (clientLines py k currentEvent (readlines bytes)) := by
  rcases prefix_line hbytes with hbytes | ⟨bytes', rfl, hrest⟩
  · have hnot : ¬ dataPrefix <+: eventPrefix ++ name := by
      simp [dataPrefix, eventPrefix, List.cons_prefix_cons]
    have hnone := clientLines_unfinished (k := k) honly
      (Json.Printing.append (by simp [eventPrefix, Json.Printing]) hname)
      (object_of_not_data hnot) (clientLine_event currentEvent name) hbytes
    exact hnone.of_nil _
  · rw [clientLines_name hname]
    exact clientLines_dump_of_prefix honly hdump h hevent hrest

/-- **An event that breaks off**: the client yields it, or nothing. -/
theorem clientLines_of_prefix (honly : py.LoadsOnlyJson) (hw : w.Readable py) (event : SseEvent)
    {bytes : List UInt8} (h : bytes <+: Utf8.encode (event.toText w).toList) :
    Partly py (event.toClient w).toList (clientLines py k "data" (readlines bytes)) := by
  rw [event.toList_toText w, ← List.append_nil (Utf8.encode _), encode_lines] at h
  cases event with
  | accepted | keepalive =>
    simp only [SseEvent.lines, List.foldr_cons, List.foldr_nil, List.append_nil] at h
    rcases prefix_line h with h | ⟨bytes', rfl, hrest⟩
    · exact @clientLines_unfinished _ k honly _ (by simp [Json.Printing])
        (object_of_not_data (by simp [dataPrefix])) "data" _ _ rfl _ h
    · rw [clientLines_next (by simp [Json.Printing]) rfl, clientLines_blank_of_prefix _ hrest]
      exact partly_nil _
  | data text =>
    simp only [SseEvent.lines, List.foldr_cons, List.foldr_nil, List.append_nil] at h
    exact clientLines_dump_of_prefix honly hw.modelDumpJson (printable_textEvent "text" text) rfl h
  | queue jobId position wait =>
    simp only [SseEvent.lines, List.foldr_cons, List.foldr_nil, List.append_nil] at h
    exact clientLines_named_of_prefix honly hw.modelDumpJson
      (printable_queuePositionEvent hw jobId position wait) (by simp [Json.Printing]) rfl h
  | error message =>
    simp only [SseEvent.lines, List.foldr_cons, List.foldr_nil, List.append_nil] at h
    exact clientLines_named_of_prefix honly hw.modelDumpJson (printable_textEvent "error" message)
      (by simp [Json.Printing]) rfl h
  | done jobId =>
    simp only [SseEvent.lines, List.foldr_cons, List.foldr_nil, List.append_nil] at h
    exact clientLines_named_of_prefix honly hw.dumps (printable_textEvent "job_id" jobId)
      (by simp [Json.Printing]) rfl h

/-! ## A response -/

/-- The bytes of an event. -/
theorem responseBody_cons (event : SseEvent) (events : List SseEvent) :
    responseBody w (event :: events) =
      Utf8.encode (event.toText w).toList ++ responseBody w events := rfl

/-- An event has bytes. -/
theorem encode_toText_ne_nil (event : SseEvent) : Utf8.encode (event.toText w).toList ≠ [] := by
  intro h
  have hmem : (0x0A : UInt8) ∈ Utf8.encode (event.toText w).toList := by
    refine (Utf8.mem_encode (c := '\n') (by decide)).mpr ?_
    rw [event.toList_toText w]
    cases event <;> simp [SseEvent.lines]
  rw [h] at hmem
  exact absurd hmem List.not_mem_nil

/-- **The beginning of a response** is read as a beginning of its events. -/
theorem exists_received (honly : py.LoadsOnlyJson) (hw : w.Readable py) (k : Conversions)
    {events : List SseEvent} {received : List UInt8} (h : received <+: responseBody w events) :
    ∃ before after exc, events = before ++ after ∧
      clientLines py k "data" (readlines received) =
        (before.filterMap (SseEvent.toClient w), exc) ∧
      (∀ e ∈ exc, LoadsRaises py e) ∧
      ∀ whole, whole <+: events → responseBody w whole <+: received → whole <+: before := by
  induction events generalizing received with
  | nil =>
    rw [responseBody, List.flatMap_nil, List.prefix_nil] at h
    refine ⟨[], [], none, rfl, ?_, by simp, fun whole hwhole _ => hwhole⟩
    rw [h]
    rfl
  | cons event events ih =>
    rw [responseBody_cons] at h
    rcases List.prefix_or_prefix_of_prefix h (List.prefix_append _ _) with hshort | hlong
    · by_cases hall : received = Utf8.encode (event.toText w).toList
      · -- all of the event, and nothing of the next one
        refine ⟨[event], events, none, rfl, ?_, by simp, fun whole hwhole hreceived => ?_⟩
        · have hone := clientLines_event (k := k) hw event []
          rw [List.append_nil] at hone
          rw [hall, hone]
          cases hevent : event.toClient w <;> simp [hevent, readlines, readlinesFrom, clientLines]
        · rcases List.prefix_cons_iff.mp hwhole with rfl | ⟨whole, rfl, -⟩
          · exact List.nil_prefix
          · cases whole with
            | nil => exact List.prefix_refl _
            | cons next whole =>
              rw [hall, responseBody_cons] at hreceived
              have hnil := List.self_eq_append_right.mp
                ((List.prefix_append _ _).eq_of_length_le hreceived.length_le)
              rw [responseBody_cons, List.append_eq_nil_iff] at hnil
              exact absurd hnil.1 (encode_toText_ne_nil next)
      · have hwhole (whole : List SseEvent) (hwhole : whole <+: event :: events)
            (hreceived : responseBody w whole <+: received) : whole = [] := by
          rcases List.prefix_cons_iff.mp hwhole with rfl | ⟨whole, rfl, -⟩
          · rfl
          · rw [responseBody_cons] at hreceived
            have hevent := (List.prefix_append _ _).trans hreceived
            exact absurd (hshort.eq_of_length_le hevent.length_le) hall
        rcases clientLines_of_prefix (k := k) honly hw event hshort with ⟨hnone, hexc⟩ | hone
        · exact ⟨[], event :: events, _, rfl, Prod.ext hnone rfl, hexc,
            fun whole h h' => hwhole whole h h' ▸ List.prefix_refl _⟩
        · refine ⟨[event], events, none, rfl, ?_, by simp,
            fun whole h h' => hwhole whole h h' ▸ List.nil_prefix⟩
          rw [hone]
          cases hevent : event.toClient w <;> simp [hevent]
    · obtain ⟨received, rfl⟩ := hlong
      obtain ⟨before, after, exc, rfl, hbefore, hexc, hwhole⟩ :=
        ih ((List.prefix_append_right_inj _).mp h)
      refine ⟨event :: before, after, exc, rfl, ?_, hexc, fun whole hprefix hreceived => ?_⟩
      · rw [clientLines_event hw, hbefore, List.filterMap_cons]
        cases event.toClient w <;> rfl
      · rcases List.prefix_cons_iff.mp hprefix with rfl | ⟨whole, rfl, hrest⟩
        · exact List.nil_prefix
        · rw [responseBody_cons, List.prefix_append_right_inj] at hreceived
          exact (List.prefix_cons_inj event).mpr (hwhole whole hrest hreceived)

/-- **A response that breaks off loses events, and garbles none**: what the client
yields is the events of a beginning of those that were yielded, in which every event
is that arrived whole.  The loop raises nothing of its own: what it may let out is an
exception of `json.loads` on the line that broke off.  (That `readline` raises an
`IncompleteRead` where a chunked response breaks off is another matter, and comes after
what is said here.) -/
theorem truncated_response (honly : py.LoadsOnlyJson) (hw : w.Readable py) (k : Conversions)
    {events : List SseEvent} {received : List UInt8} (h : received <+: responseBody w events) :
    ∃ before after exc, events = before ++ after ∧
      transcribe py k 200 received = (before.filterMap (SseEvent.toClient w), exc) ∧
      (∀ e ∈ exc, LoadsRaises py e) ∧
      ∀ whole, whole <+: events → responseBody w whole <+: received → whole <+: before := by
  rw [transcribe, if_neg (by simp)]
  exact exists_received honly hw k h

/-- A response that breaks off in a character of its second chunk. -/
theorem truncated_response_character :
    ∃ before after exc, [SseEvent.accepted, .data "a", .data "é", .done "j"] = before ++ after ∧
      transcribe PythonText.jsonModule ⟨fun _ => "", fun _ => .ok 0, fun _ => .ok "0.0"⟩ 200
        ((responseBody jsonText [.accepted, .data "a", .data "é", .done "j"]).take 48) =
          (before.filterMap (SseEvent.toClient jsonText), exc) ∧
      (∀ e ∈ exc, LoadsRaises PythonText.jsonModule e) ∧
      ∀ whole, whole <+: [SseEvent.accepted, .data "a", .data "é", .done "j"] →
        responseBody jsonText whole <+:
          (responseBody jsonText [.accepted, .data "a", .data "é", .done "j"]).take 48 →
        whole <+: before :=
  truncated_response PythonText.loadsJson_jsonModule.only readable_jsonText _
    (List.take_prefix 48 _)

end Truncated

end VibeVoice
