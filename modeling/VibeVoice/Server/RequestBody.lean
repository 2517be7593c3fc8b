import VibeVoice.Semantics.Multipart
import VibeVoice.Semantics.Utf8
import VibeVoice.Server.Form

/-!
# The body of a request

`_parse_transcribe_form` of `routes/transcribe.py`, with the stream it gives to the
parser.  The parser is Starlette's and is a parameter; what the stream hands to it is
not.

`_limited_request_stream` counts the bytes before it hands a chunk on, so the parser
never sees the chunk that is too much (`limitedRequestStream_le`), and it waits at most
so long for each chunk.  Both are told to the parser as an exception of the parser's own
kind, and told apart again by their texts when they come out of it.  So which status a
request is answered with depends on what the parser does with an exception of its
stream, and on nothing else that it does (`FormParser.Raises`).

The order matters where two things are wrong.  A body that is malformed at its beginning
is refused for that, however long it goes on; and one that is too long and then stalls
is too long.
-/

namespace VibeVoice

/-- `_MAX_MULTIPART_FILES` -/
def MAX_MULTIPART_FILES : ℕ := 1

/-- `_MAX_MULTIPART_FIELDS` -/
def MAX_MULTIPART_FIELDS : ℕ := 1

/-- `_MAX_FORM_FIELD_BYTES` -/
def MAX_FORM_FIELD_BYTES : ℕ := 16 * 1024

/-- `_MAX_MULTIPART_OVERHEAD_BYTES` -/
def MAX_MULTIPART_OVERHEAD_BYTES : ℕ := 1024 * 1024

/-! ## The stream -/

/-- What the wait for the next chunk of `request.stream()` comes back with, unless the
stream is at its end. -/
inductive BodyEvent where
  | chunk (bytes : List UInt8)
  /-- `_REQUEST_BODY_CHUNK_TIMEOUT_SECONDS` are over. -/
  | stalled
  /-- `ClientDisconnect` -/
  | disconnected
  /-- `CancelledError` -/
  | cancelled

/-- How a generator of chunks ends. -/
inductive StreamEnd where
  /-- `StopAsyncIteration` -/
  | exhausted
  /-- `MultiPartException(message)` -/
  | multipart (message : String)
  /-- `ClientDisconnect` -/
  | disconnected
  /-- `CancelledError` -/
  | cancelled
  deriving DecidableEq

/-- What `_limited_request_stream` says of a body that is too long. -/
def BODY_TOO_LARGE : String := "Request body too large"

/-- What it says when it has waited too long. -/
def BODY_STALLED : String := "Request body stalled"

/-- `_limited_request_stream`: what is yielded, and how it ends. -/
def limitedRequestStream (maxBodyBytes : ℕ) :
    ℕ → List BodyEvent → List (List UInt8) × StreamEnd
  | _, [] => ([], .exhausted)
  | _, .stalled :: _ => ([], .multipart BODY_STALLED)
  | _, .disconnected :: _ => ([], .disconnected)
  | _, .cancelled :: _ => ([], .cancelled)
  | total, .chunk bytes :: events =>
    let total := total + bytes.length
    if total > maxBodyBytes then ([], .multipart BODY_TOO_LARGE)
    else
      let rest := limitedRequestStream maxBodyBytes total events
      (bytes :: rest.1, rest.2)

/-! ## The form -/

/-- `UploadFile` -/
structure UploadFile where
  filename : Option String
  contentType : Option String
  /-- What can be read from it. -/
  content : List UInt8
  deriving DecidableEq

/-- What `parser.parse()` can raise. -/
inductive ParseError where
  /-- `MultiPartException(message)` -/
  | multipart (message : String)
  | raised (e : RequestError)

/-- Starlette's `MultiPartParser`, with the limits of `_parse_transcribe_form`. -/
structure FormParser where
  /-- `parse()`, given the `Content-Type`, what the stream yields, and how it ends. -/
  parse : List UInt8 → List (List UInt8) → StreamEnd →
    Except ParseError (List (String × FormValue UploadFile))
  /-- `_user_safe_decode(…, "utf-8")` -/
  decode : List UInt8 → String

/-- The status an exception of the parser is answered with. -/
def multipartStatus (message : String) : ℕ :=
  if message = BODY_TOO_LARGE then 413
  else if message = BODY_STALLED then 408
  else 400

/-- The handlers of `_parse_transcribe_form`. -/
def ParseError.reply : ParseError → RequestError
  | .multipart message => .http (multipartStatus message) message
  | .raised (.osError _) => .http 507 "Temporary upload storage exhausted"
  | .raised (.valueError _) => .http 400 "Invalid multipart body"
  | .raised e => e

/-- `content_type.split(";", 1)[0].strip().lower()`.  Of the letters beyond ASCII that
Latin-1 has, none is an ASCII letter in lower case. -/
def mediaType (contentType : List UInt8) : List Char :=
  (pyStripChars ((latin1Decode contentType).toList.takeWhile (· != ';'))).map Char.toLower

/-- `_parse_transcribe_form` -/
def parseTranscribeForm (parser : FormParser) (contentType : Option (List UInt8))
    (maxAudioBytes : ℕ) (events : List BodyEvent) :
    Reply (List (String × FormValue UploadFile)) :=
  if mediaType (contentType.getD []) ≠ "multipart/form-data".toList then
    .error (.http 400 "multipart/form-data required")
  else
    let stream := limitedRequestStream (maxAudioBytes + MAX_MULTIPART_OVERHEAD_BYTES) 0 events
    match parser.parse (contentType.getD []) stream.1 stream.2 with
    | .ok items => .ok items
    | .error e => .error e.reply

/-! ## What the stream hands on -/

/-- The chunks before the first event that is none. -/
def arrived : List BodyEvent → List (List UInt8)
  | .chunk bytes :: events => bytes :: arrived events
  | _ => []

/-- What comes after them. -/
def interruption : List BodyEvent → Option StreamEnd
  | [] => none
  | .chunk _ :: events => interruption events
  | .stalled :: _ => some (.multipart BODY_STALLED)
  | .disconnected :: _ => some .disconnected
  | .cancelled :: _ => some .cancelled

/-- How the stream ends. -/
def streamEnd (maxBodyBytes : ℕ) (events : List BodyEvent) : StreamEnd :=
  if maxBodyBytes < (arrived events).flatten.length then .multipart BODY_TOO_LARGE
  else (interruption events).getD .exhausted

/-- What the stream itself raises. -/
theorem streamEnd_eq_multipart {maxBodyBytes : ℕ} {events : List BodyEvent} {message : String}
    (h : streamEnd maxBodyBytes events = .multipart message) :
    maxBodyBytes < (arrived events).flatten.length ∧ message = BODY_TOO_LARGE ∨
      (arrived events).flatten.length ≤ maxBodyBytes ∧
        interruption events = some (.multipart BODY_STALLED) ∧ message = BODY_STALLED := by
  rw [streamEnd] at h
  split at h
  · rename_i hlt
    cases h
    exact Or.inl ⟨hlt, rfl⟩
  · rename_i hle
    refine Or.inr ⟨Nat.le_of_not_lt hle, ?_⟩
    clear hle
    induction events with
    | nil => cases h
    | cons event events ih =>
      cases event with
      | chunk bytes => exact ih h
      | stalled =>
        cases h
        exact ⟨rfl, rfl⟩
      | disconnected | cancelled => cases h

section Stream

variable {maxBodyBytes total : ℕ} {events : List BodyEvent}

/-- **It hands on what arrives, in order, and never more than it may.** -/
theorem limitedRequestStream_le (h : total ≤ maxBodyBytes) :
    (limitedRequestStream maxBodyBytes total events).1 <+: arrived events ∧
      total + (limitedRequestStream maxBodyBytes total events).1.flatten.length ≤
        maxBodyBytes := by
  induction events generalizing total with
  | nil => exact ⟨List.nil_prefix, by simpa [limitedRequestStream] using h⟩
  | cons event events ih =>
    cases event with
    | stalled | disconnected | cancelled =>
      exact ⟨List.nil_prefix, by simpa [limitedRequestStream] using h⟩
    | chunk bytes =>
      simp only [limitedRequestStream, arrived]
      split
      · exact ⟨List.nil_prefix, by simpa using h⟩
      · rename_i hle
        obtain ⟨hstart, hlength⟩ := ih (Nat.le_of_not_lt hle)
        refine ⟨(List.prefix_cons_inj bytes).mpr hstart, ?_⟩
        rw [List.flatten_cons, List.length_append]
        omega

/-- **As long as what arrives is not too much, all of it is handed on**, and the stream
ends as the request does. -/
theorem limitedRequestStream_of_le
    (h : total + (arrived events).flatten.length ≤ maxBodyBytes) :
    limitedRequestStream maxBodyBytes total events =
      (arrived events, (interruption events).getD .exhausted) := by
  induction events generalizing total with
  | nil => rfl
  | cons event events ih =>
    cases event with
    | stalled | disconnected | cancelled => rfl
    | chunk bytes =>
      rw [arrived, List.flatten_cons, List.length_append] at h
      have hrest := @ih (total + bytes.length) (by omega)
      simp only [limitedRequestStream]
      rw [if_neg (by omega), hrest]
      rfl

/-- **And otherwise that is what the parser is told.** -/
theorem limitedRequestStream_of_lt
    (h : maxBodyBytes < total + (arrived events).flatten.length) (htotal : total ≤ maxBodyBytes) :
    (limitedRequestStream maxBodyBytes total events).2 = .multipart BODY_TOO_LARGE := by
  induction events generalizing total with
  | nil => exact absurd h (Nat.not_lt.mpr (by simpa [arrived] using htotal))
  | cons event events ih =>
    cases event with
    | stalled | disconnected | cancelled =>
      exact absurd h (Nat.not_lt.mpr (by simpa [arrived] using htotal))
    | chunk bytes =>
      rw [arrived, List.flatten_cons, List.length_append] at h
      simp only [limitedRequestStream]
      split
      · rfl
      · exact ih (by omega) (by omega)

/-- **How it ends.** -/
theorem limitedRequestStream_snd (maxBodyBytes : ℕ) (events : List BodyEvent) :
    (limitedRequestStream maxBodyBytes 0 events).2 = streamEnd maxBodyBytes events := by
  rw [streamEnd]
  split
  · exact limitedRequestStream_of_lt (by omega) (Nat.zero_le _)
  · rw [limitedRequestStream_of_le (by omega)]

/-- Chunks and nothing else. -/
theorem arrived_chunks (chunks : List (List UInt8)) :
    arrived (chunks.map .chunk) = chunks ∧ interruption (chunks.map .chunk) = none := by
  induction chunks with
  | nil => exact ⟨rfl, rfl⟩
  | cons chunk chunks ih => exact ⟨congrArg (chunk :: ·) ih.1, ih.2⟩

theorem limitedRequestStream_chunks {chunks : List (List UInt8)}
    (h : chunks.flatten.length ≤ maxBodyBytes) :
    limitedRequestStream maxBodyBytes 0 (chunks.map .chunk) = (chunks, .exhausted) := by
  obtain ⟨harrived, hinterruption⟩ := arrived_chunks chunks
  rw [limitedRequestStream_of_le (by rw [harrived]; omega), harrived, hinterruption]
  rfl

end Stream

/-! ## The parser -/

/-- An exception of the stream, as it leaves the parser. -/
def StreamEnd.error : StreamEnd → Option ParseError
  | .exhausted => none
  | .multipart message => some (.multipart message)
  | .disconnected => some (.raised (.other ⟨"ClientDisconnect", ""⟩))
  | .cancelled => some (.raised .cancelled)

/-- An exception the parser has of its own: it does not say what those of the stream say,
and is none of the framework. -/
def ParseError.IsOwn : ParseError → Prop
  | .multipart message => message ≠ BODY_TOO_LARGE ∧ message ≠ BODY_STALLED
  | .raised e => ∀ status detail, e ≠ .http status detail

/-- **The parser hands on an exception of its stream**, unless what it has seen before is
malformed. -/
structure FormParser.Raises (parser : FormParser) : Prop where
  stream : ∀ contentType chunks ending e, ending.error = some e →
    parser.parse contentType chunks ending = .error e ∨
      ∃ e', parser.parse contentType chunks ending = .error e' ∧
        parser.parse contentType chunks .exhausted = .error e'
  own : ∀ contentType chunks e, parser.parse contentType chunks .exhausted = .error e → e.IsOwn

/-- An item of a form, as the parser makes it of a part. -/
def formItem (decode : List UInt8 → String) (part : Multipart.FormPart) :
    String × FormValue UploadFile :=
  (decode part.name,
    match part.filename with
    | some filename =>
      .file { filename := some (decode filename)
              contentType := part.contentType.map latin1Decode
              content := part.body }
    | none => .text (decode part.body))

/-- The limits of `_parse_transcribe_form`. -/
structure WithinLimits (parts : List Multipart.FormPart) : Prop where
  files : (parts.filter (·.filename.isSome)).length ≤ MAX_MULTIPART_FILES
  fields : (parts.filter (·.filename.isNone)).length ≤ MAX_MULTIPART_FIELDS
  size : ∀ part ∈ parts, part.filename = none → part.body.length ≤ MAX_FORM_FIELD_BYTES

/-- The headers that are looked at in a part. -/
def PART_HEADERS : List (List UInt8) :=
  [latin1Encode "content-disposition", latin1Encode "content-type"]

/-- **The parser reads a form that was written by the book**, however it is cut into
chunks: parts with a `Content-Disposition` and a `Content-Type`, between delimiters that
occur in no body. -/
structure FormParser.Reads (parser : FormParser) : Prop where
  form : ∀ contentType boundary drafts parts chunks,
    Multipart.announced contentType = some boundary → 13 ∉ boundary →
    (∀ draft ∈ drafts, ¬ Multipart.delimiter boundary <:+: Multipart.crlf ++ draft.body) →
    (∀ draft ∈ drafts, ∀ header ∈ draft.headers, header.1 ∈ PART_HEADERS) →
    (drafts.map fun draft => Multipart.formPart draft.part) = parts.map some →
    WithinLimits parts → chunks.flatten = Multipart.write boundary drafts →
    parser.parse contentType chunks .exhausted = .ok (parts.map (formItem parser.decode))
  decode : ∀ text, parser.decode (Utf8.encode text) = String.ofList text

/-! ## What a request is answered with -/

section Reply

variable {parser : FormParser} {contentType : Option (List UInt8)} {maxAudioBytes : ℕ}
  {events : List BodyEvent}

/-- The bytes a body may have. -/
def maxBodyBytes (maxAudioBytes : ℕ) : ℕ := maxAudioBytes + MAX_MULTIPART_OVERHEAD_BYTES

/-- The chunks the parser gets. -/
def handedOn (maxAudioBytes : ℕ) (events : List BodyEvent) : List (List UInt8) :=
  (limitedRequestStream (maxBodyBytes maxAudioBytes) 0 events).1

/-- **The reply**, by what the parser does. -/
theorem parseTranscribeForm_eq
    (hmedia : mediaType (contentType.getD []) = "multipart/form-data".toList) :
    parseTranscribeForm parser contentType maxAudioBytes events =
      match parser.parse (contentType.getD []) (handedOn maxAudioBytes events)
        (streamEnd (maxBodyBytes maxAudioBytes) events) with
      | .ok items => .ok items
      | .error e => .error e.reply := by
  rw [← limitedRequestStream_snd]
  unfold parseTranscribeForm
  rw [if_neg (by rw [hmedia]; simp)]
  rfl

/-- An exception of the parser is one of its own, or one of the stream. -/
theorem FormParser.Raises.cases (hparser : parser.Raises) {contentType : List UInt8}
    {chunks : List (List UInt8)} {ending : StreamEnd} {e : ParseError}
    (h : parser.parse contentType chunks ending = .error e) :
    ending.error = some e ∨
      e.IsOwn ∧ parser.parse contentType chunks .exhausted = .error e := by
  cases herror : ending.error with
  | none =>
    have hexhausted : ending = .exhausted := by
      cases ending with
      | exhausted => rfl
      | multipart | disconnected | cancelled => cases herror
    rw [hexhausted] at h
    exact Or.inr ⟨hparser.own _ _ _ h, h⟩
  | some e' =>
    rcases hparser.stream contentType chunks ending e' herror with hstream | ⟨e'', hstream, hown⟩
    · rw [hstream] at h
      cases h
      exact Or.inl rfl
    · rw [hstream] at h
      cases h
      exact Or.inr ⟨hparser.own _ _ _ hown, hown⟩

/-- An exception of its own is not answered like one of the stream. -/
theorem ParseError.IsOwn.reply_ne {e : ParseError} (h : e.IsOwn) (detail : String) :
    e.reply ≠ .http 413 detail ∧ e.reply ≠ .http 408 detail := by
  cases e with
  | multipart message => simp [ParseError.reply, multipartStatus, h.1, h.2]
  | raised e =>
    cases e with
    | http status detail' => exact absurd rfl (h status detail')
    | osError | valueError | other | cancelled => simp [ParseError.reply]

/-- **The body of a request is bounded.**  The parser gets a beginning of what arrives, of
no more than `max_audio_bytes` and a MiB.  What is accepted arrived as a whole.  A request
is answered with 413 only if its body was too long, and with 408 only if it stalled before
that; and if its body is too long, stalls, or breaks off, that is what it is answered
with, unless the parser had found it malformed. -/
theorem request_body_bounded (hparser : parser.Raises)
    (hmedia : mediaType (contentType.getD []) = "multipart/form-data".toList) :
    (handedOn maxAudioBytes events <+: arrived events ∧
      (handedOn maxAudioBytes events).flatten.length ≤ maxBodyBytes maxAudioBytes) ∧
    (∀ items, parseTranscribeForm parser contentType maxAudioBytes events = .ok items →
      streamEnd (maxBodyBytes maxAudioBytes) events = .exhausted ∧
        handedOn maxAudioBytes events = arrived events) ∧
    (∀ detail, parseTranscribeForm parser contentType maxAudioBytes events =
        .error (.http 413 detail) →
      maxBodyBytes maxAudioBytes < (arrived events).flatten.length) ∧
    (∀ detail, parseTranscribeForm parser contentType maxAudioBytes events =
        .error (.http 408 detail) →
      (arrived events).flatten.length ≤ maxBodyBytes maxAudioBytes ∧
        interruption events = some (.multipart BODY_STALLED)) ∧
    ∀ e, (streamEnd (maxBodyBytes maxAudioBytes) events).error = some e →
      parseTranscribeForm parser contentType maxAudioBytes events = .error e.reply ∨
        ∃ e', e'.IsOwn ∧ parser.parse (contentType.getD []) (handedOn maxAudioBytes events)
            .exhausted = .error e' ∧
          parseTranscribeForm parser contentType maxAudioBytes events = .error e'.reply := by
  rw [parseTranscribeForm_eq hmedia]
  obtain ⟨hstart, hlength⟩ := @limitedRequestStream_le _ _ events
    (Nat.zero_le (maxBodyBytes maxAudioBytes))
  rw [Nat.zero_add] at hlength
  -- these statuses are those of exceptions of the stream
  have hstream (status : ℕ) (detail : String) (hstatus : status = 413 ∨ status = 408)
      {e : ParseError} (hparse : parser.parse (contentType.getD []) (handedOn maxAudioBytes events)
        (streamEnd (maxBodyBytes maxAudioBytes) events) = .error e)
      (hreply : e.reply = .http status detail) :
      ∃ message, streamEnd (maxBodyBytes maxAudioBytes) events = .multipart message ∧
        multipartStatus message = status := by
    rcases hparser.cases hparse with herror | ⟨hown, -⟩
    · cases hend : streamEnd (maxBodyBytes maxAudioBytes) events with
      | exhausted | disconnected | cancelled =>
        rw [hend] at herror
        cases herror <;> cases hreply
      | multipart message =>
        rw [hend] at herror
        cases herror
        exact ⟨message, rfl, (RequestError.http.inj hreply).1⟩
    · rcases hstatus with rfl | rfl
      · exact absurd hreply (hown.reply_ne detail).1
      · exact absurd hreply (hown.reply_ne detail).2
  refine ⟨⟨hstart, hlength⟩, fun items hitems => ?_, fun detail hdetail => ?_,
    fun detail hdetail => ?_, fun e he => ?_⟩
  · have hend : streamEnd (maxBodyBytes maxAudioBytes) events = .exhausted := by
      cases herror : (streamEnd (maxBodyBytes maxAudioBytes) events).error with
      | none =>
        cases hend : streamEnd (maxBodyBytes maxAudioBytes) events with
        | exhausted => rfl
        | multipart | disconnected | cancelled =>
          rw [hend] at herror
          cases herror
      | some e =>
        rcases hparser.stream (contentType.getD []) (handedOn maxAudioBytes events) _ e herror with
          hparse | ⟨e', hparse, -⟩ <;> rw [hparse] at hitems <;> cases hitems
    refine ⟨hend, ?_⟩
    rw [streamEnd] at hend
    split at hend
    · cases hend
    · rename_i hle
      rw [handedOn, limitedRequestStream_of_le (by omega)]
  · split at hdetail
    · cases hdetail
    · rename_i e hparse
      obtain ⟨message, hend, hstatus⟩ :=
        hstream 413 detail (Or.inl rfl) hparse (Except.error.inj hdetail)
      rcases streamEnd_eq_multipart hend with ⟨hlt, -⟩ | ⟨-, -, rfl⟩
      · exact hlt
      · exact absurd hstatus (by decide)
  · split at hdetail
    · cases hdetail
    · rename_i e hparse
      obtain ⟨message, hend, hstatus⟩ :=
        hstream 408 detail (Or.inr rfl) hparse (Except.error.inj hdetail)
      rcases streamEnd_eq_multipart hend with ⟨-, rfl⟩ | ⟨hle, hstalled, -⟩
      · exact absurd hstatus (by decide)
      · exact ⟨hle, hstalled⟩
  · rcases hparser.stream (contentType.getD []) (handedOn maxAudioBytes events) _ e he with
      hparse | ⟨e', hparse, hown⟩
    · exact Or.inl (by rw [hparse])
    · exact Or.inr ⟨e', hparser.own _ _ _ hown, hown, by rw [hparse]⟩

end Reply

/-! ## A parser -/

/-- A parser that looks at a body when all of it is there. -/
def wholeParser : FormParser where
  parse contentType chunks ending :=
    match ending.error with
    | some e => .error e
    | none =>
      match Multipart.parseForm contentType chunks.flatten with
      | none => .error (.multipart "Missing boundary in multipart.")
      | some parts =>
        if MAX_MULTIPART_FILES < (parts.filter (·.filename.isSome)).length then
          .error (.multipart "Too many files. Maximum number of files is 1.")
        else if MAX_MULTIPART_FIELDS < (parts.filter (·.filename.isNone)).length then
          .error (.multipart "Too many fields. Maximum number of fields is 1.")
        else if parts.any fun part =>
            part.filename.isNone && decide (MAX_FORM_FIELD_BYTES < part.body.length) then
          .error (.multipart "Part exceeded maximum size of 16KB.")
        else .ok (parts.map (formItem fun bytes => String.ofList (Utf8.decode bytes)))
  decode bytes := String.ofList (Utf8.decode bytes)

theorem raises_wholeParser : wholeParser.Raises where
  stream contentType chunks ending e he := by
    left
    simp only [wholeParser, he]
  own contentType chunks e he := by
    simp only [wholeParser, StreamEnd.error] at he
    split at he
    · cases he
      exact ⟨by decide, by decide⟩
    · split at he
      · cases he
        exact ⟨by decide, by decide⟩
      · split at he
        · cases he
          exact ⟨by decide, by decide⟩
        · split at he
          · cases he
            exact ⟨by decide, by decide⟩
          · cases he

theorem reads_wholeParser : wholeParser.Reads where
  form contentType boundary drafts parts chunks hannounced hboundary hnot _ hparts hlimits
      hchunks := by
    have hform : Multipart.parseForm contentType chunks.flatten = some parts := by
      rw [hchunks]
      exact Multipart.parseForm_write hannounced hboundary hparts hnot
    have hsize : (parts.any fun part =>
        part.filename.isNone && decide (MAX_FORM_FIELD_BYTES < part.body.length)) = false := by
      refine List.any_eq_false.mpr fun part hpart hlarge => ?_
      rw [Bool.and_eq_true, decide_eq_true_eq, Option.isNone_iff_eq_none] at hlarge
      exact absurd (hlimits.size part hpart hlarge.1) (Nat.not_le.mpr hlarge.2)
    simp only [wholeParser, StreamEnd.error, hform, hsize]
    rw [if_neg (Nat.not_lt.mpr hlimits.files), if_neg (Nat.not_lt.mpr hlimits.fields)]
    rfl
  decode text := congrArg String.ofList (Utf8.decode_encode text)

/-- A body of one byte more than a MiB, where no audio is allowed. -/
theorem request_body_bounded_large :
    (handedOn 0 ([List.replicate 1048577 0].map .chunk)).flatten.length ≤ maxBodyBytes 0 ∧
      ∀ items, parseTranscribeForm wholeParser
        (some (latin1Encode "multipart/form-data; boundary=b")) 0
        ([List.replicate 1048577 0].map .chunk) ≠ .ok items := by
  have hbounded := @request_body_bounded wholeParser
    (some (latin1Encode "multipart/form-data; boundary=b")) 0
    ([List.replicate 1048577 0].map .chunk) raises_wholeParser (by decide)
  refine ⟨hbounded.1.2, fun items hitems => ?_⟩
  have hend := (hbounded.2.1 items hitems).1
  have hlarge :
      maxBodyBytes 0 < (arrived ([List.replicate 1048577 0].map .chunk)).flatten.length := by
    rw [(arrived_chunks [List.replicate 1048577 0]).1, List.flatten_cons, List.flatten_nil,
      List.append_nil, List.length_replicate]
    decide
  rw [streamEnd, if_pos hlarge] at hend
  cases hend

end VibeVoice
