import VibeVoice.Semantics.Base64
import VibeVoice.Server.Audio
import VibeVoice.Server.Prompt
import VibeVoice.Server.Storage

/-!
# What the model is asked

The head of `stream_transcription`, and what `process_vibevoice_job` hands to it: the
request that is made of a job.  It is made in the first step of the process task, which
is after the job waited in the queue behind others, each of which had audio and hotwords
of its own.

That it is the request for *this* job is `request_carries_upload`: whatever happened
between, the audio in it is what the handler of the job attached, byte for byte, and its
prompt is that of the hotwords and the duration which the handler attached with it.  Two
things come together there.  The audio goes into a `data:` URL, and what reads such a URL
gets the media type and the bytes back (`readDataUrl_dataUrl`), because a comma is
neither in the media type nor in what is before it.  And the job is still what its handler
made it (`carries_of_task`).

The URL is read as RFC 2397 has it; `httpx` turns `json=payload` into text, which is not
modelled.
-/

namespace VibeVoice

/-! ## The request -/

/-- The fields of `Settings` that are for the model. -/
structure Settings where
  vllmBaseUrl : String
  vllmModelName : String
  vllmTemperature : ℚ
  vllmTopP : ℚ

/-- `encode_audio_base64` -/
def encodeAudioBase64 (rawBytes : List UInt8) : String := String.ofList (Base64.encode rawBytes)

/-- `encode_audio_file_base64` -/
def encodeAudioFileBase64 (py : PythonText) (disk : Disk) (path : PosixPath) :
    Except PyException String :=
  if disk.HasFile path then .ok (encodeAudioBase64 (disk.content path))
  else
    .error ⟨"FileNotFoundError",
      "[Errno 2] No such file or directory: " ++ py.repr ("/" ++ "/".intercalate path)⟩

/-- `f"data:{audio_mime};base64,{audio_base64}"` -/
def dataUrl (audioMime audioBase64 : String) : String :=
  "data:" ++ (audioMime ++ (";base64," ++ audioBase64))

/-- What is said to the model first. -/
def SYSTEM_PROMPT : String :=
  "You are a helpful assistant that transcribes audio input into text output in JSON format."

/-- The arguments of `http_client.stream("POST", url, json=payload)`. -/
structure VllmRequest where
  url : String
  payload : PyJson

/-- `stream_transcription`, up to the request. -/
def transcriptionRequest (py : PythonText) (vllmBaseUrl modelName audioBase64 audioMime : String)
    (audioDuration : ℚ) (hotwords : Option String) (temperature topP : ℚ) : VllmRequest where
  url := vllmBaseUrl ++ "/v1/chat/completions"
  payload := .dict [
    ("model", .str modelName),
    ("messages", .list [
      .dict [("role", .str "system"), ("content", .str SYSTEM_PROMPT)],
      .dict [("role", .str "user"), ("content", .list [
        .dict [("type", .str "audio_url"),
          ("audio_url", .dict [("url", .str (dataUrl audioMime audioBase64))])],
        .dict [("type", .str "text"), ("text", .str (textPrompt py audioDuration hotwords))]])]]),
    ("temperature", .float (py.floatRepr temperature)),
    ("top_p", .float (py.floatRepr topP)),
    ("stream", .bool true)]

/-- `process_vibevoice_job`, up to the request: the first step of its task. -/
def vibevoiceRequest (py : PythonText) (config : Settings) (job : TranscriptionJob) (disk : Disk) :
    Except PyException VllmRequest :=
  (requireAudioPath job).bind fun path =>
  (encodeAudioFileBase64 py disk path).bind fun audioBase64 =>
  .ok (transcriptionRequest py config.vllmBaseUrl config.vllmModelName audioBase64 job.audioMime
    job.audioDurationSeconds job.hotwords config.vllmTemperature config.vllmTopP)

/-! ## Reading it -/

/-- `,` ends what is before the data. -/
def beforeComma (cs : List Char) : List Char := cs.takeWhile (· != ',')

/-- The media type and the bytes of a `data:` URL in base64. -/
def readDataUrl (url : String) : Option (String × List UInt8) :=
  match url.toList with
  | 'd' :: 'a' :: 't' :: 'a' :: ':' :: rest =>
    if ";base64".toList.isSuffixOf (beforeComma rest) then
      (Base64.decode (rest.drop ((beforeComma rest).length + 1))).map fun bytes =>
        (String.ofList ((beforeComma rest).take ((beforeComma rest).length - 7)), bytes)
    else none
  | _ => none

/-- **What a `data:` URL was made of is read from it.** -/
theorem readDataUrl_dataUrl {mime : String} (hmime : ',' ∉ mime.toList) (bytes : List UInt8) :
    readDataUrl (dataUrl mime (encodeAudioBase64 bytes)) = some (mime, bytes) := by
  have hchars : (dataUrl mime (encodeAudioBase64 bytes)).toList =
      'd' :: 'a' :: 't' :: 'a' :: ':' ::
        ((mime.toList ++ ";base64".toList) ++ ',' :: Base64.encode bytes) := by
    simp [dataUrl, encodeAudioBase64]
  have hhead : beforeComma ((mime.toList ++ ";base64".toList) ++ ',' :: Base64.encode bytes) =
      mime.toList ++ ";base64".toList := by
    have hmark : ∀ c ∈ ";base64".toList, (c != ',') = true := by simp
    have hnone : ∀ c ∈ mime.toList ++ ";base64".toList, (c != ',') = true := by
      intro c hc
      rcases List.mem_append.mp hc with hc | hc
      · exact bne_iff_ne.mpr fun h => hmime (h ▸ hc)
      · exact hmark c hc
    rw [beforeComma, List.takeWhile_append_of_pos hnone]
    simp
  have hsuffix : ";base64".toList.isSuffixOf (mime.toList ++ ";base64".toList) = true :=
    List.isSuffixOf_iff_suffix.mpr (List.suffix_append _ _)
  have hrest : ((mime.toList ++ ";base64".toList) ++ ',' :: Base64.encode bytes).drop
      ((mime.toList ++ ";base64".toList).length + 1) = Base64.encode bytes := by
    rw [List.drop_append, List.drop_of_length_le (Nat.le_succ _)]
    simp
  have hmedia : (mime.toList ++ ";base64".toList).take
      ((mime.toList ++ ";base64".toList).length - 7) = mime.toList := by
    simp
  rw [readDataUrl, hchars]
  simp only [hhead, hsuffix, if_true, hrest, hmedia, Base64.decode_encode, Option.map_some,
    String.ofList_toList]

/-- `value[key]`, if there is one. -/
def memberOf (key : String) : PyJson → Option PyJson
  | .dict fields => fields.lookup key
  | _ => none

/-- `value[i]`, if there is one. -/
def itemOf (i : ℕ) : PyJson → Option PyJson
  | .list items => items[i]?
  | _ => none

/-- The value, if it is a string. -/
def stringOf : PyJson → Option String
  | .str s => some s
  | _ => none

/-- A part of what the user says, in the second message of a request. -/
def userPart (i : ℕ) (payload : PyJson) : Option PyJson :=
  ((memberOf "messages" payload).bind (itemOf 1)).bind fun message =>
    (memberOf "content" message).bind (itemOf i)

namespace VllmRequest

/-- The audio of a request: its media type and its bytes. -/
def audio (request : VllmRequest) : Option (String × List UInt8) :=
  ((((userPart 0 request.payload).bind (memberOf "audio_url")).bind (memberOf "url")).bind
    stringOf).bind readDataUrl

/-- The prompt of a request. -/
def prompt (request : VllmRequest) : Option String :=
  ((userPart 1 request.payload).bind (memberOf "text")).bind stringOf

end VllmRequest

section Request

variable (py : PythonText) {vllmBaseUrl modelName audioMime : String} {bytes : List UInt8}
  {audioDuration temperature topP : ℚ} {hotwords : Option String}

/-- The audio of a request is what it was made of. -/
theorem audio_transcriptionRequest (hmime : ',' ∉ audioMime.toList) :
    (transcriptionRequest py vllmBaseUrl modelName (encodeAudioBase64 bytes) audioMime audioDuration
      hotwords temperature topP).audio = some (audioMime, bytes) := by
  rw [← readDataUrl_dataUrl hmime bytes]
  rfl

theorem prompt_transcriptionRequest {audioBase64 : String} :
    (transcriptionRequest py vllmBaseUrl modelName audioBase64 audioMime audioDuration hotwords
      temperature topP).prompt = some (textPrompt py audioDuration hotwords) := rfl

end Request

/-! ## The request of a job -/

namespace TranscriptionQueue

variable {py : PythonText} {maxSize : ℕ} {id : JobId}

/-- The request of a job that is what its handler made it. -/
theorem vibevoiceRequest_eq_ok {pf : ProcessFn} {s : TranscriptionQueue pf.Frame} {u : Attachment}
    (config : Settings) (h : Carries s id u) (hfile : s.disk.HasFile u.path) :
    vibevoiceRequest py config (s.job id) s.disk =
      .ok (transcriptionRequest py config.vllmBaseUrl config.vllmModelName
        (encodeAudioBase64 u.content) u.mime u.duration u.hotwords config.vllmTemperature
        config.vllmTopP) := by
  have hpath : requireAudioPath (s.job id) = .ok u.path := by
    rw [requireAudioPath, h.audioPath]
  have hread : encodeAudioFileBase64 py s.disk u.path = .ok (encodeAudioBase64 u.content) := by
    rw [encodeAudioFileBase64, if_pos hfile, h.content]
  simp only [vibevoiceRequest, hpath, Except.bind, hread, h.audioMime, h.hotwords, h.duration]

/-- **The model is asked about the upload of the job.**  The audio of a job was attached to it,
and after whatever else happened its process task takes its first step, which nobody has asked
to stop.  Then there is a request; its audio is what was attached, byte for byte, and its prompt
is the one for the hotwords and the duration that were attached with it. -/
theorem request_carries_upload {s s₁ s₂ : TranscriptionQueue (processVibevoiceJob py).Frame}
    (h : (system (processVibevoiceJob py) maxSize).Reachable s) {path : PosixPath}
    {content : List UInt8} {hotwords : Option String} {duration : ℚ}
    (hattach : step (processVibevoiceJob py) s
      (.attach id path content HELIBOARD_WAV_MIME_TYPE hotwords duration) = some s₁)
    (hrun : (system (processVibevoiceJob py) maxSize).Run s₁ s₂) {t : TaskId}
    (htask : s₂.task t = some ⟨id, .suspended .start false⟩) (config : Settings) :
    ∃ request, vibevoiceRequest py config (s₂.job id) s₂.disk = .ok request ∧
      request.url = config.vllmBaseUrl ++ "/v1/chat/completions" ∧
      request.audio = some ("audio/wav", content) ∧
      request.prompt = some (textPrompt py duration hotwords) := by
  have hlive : ¬ (processVibevoiceJob py).Silenced (.suspended .start false) := by
    simp [Coroutine.Silenced, processVibevoiceJob]
  have hcarries : Carries s₂ id ⟨path, content, HELIBOARD_WAV_MIME_TYPE, hotwords, duration⟩ :=
    carries_of_task h hattach hrun htask hlive
  have hs₁ : (system (processVibevoiceJob py) maxSize).Reachable s₁ :=
    h.tail (a := .attach id path content HELIBOARD_WAV_MIME_TYPE hotwords duration) trivial hattach
  have hfile : s₂.disk.HasFile path :=
    (held_of_reachable (hs₁.run hrun)).present id path hcarries.audioPath
  have hmime : ',' ∉ HELIBOARD_WAV_MIME_TYPE.toList := by simp [HELIBOARD_WAV_MIME_TYPE]
  exact ⟨_, vibevoiceRequest_eq_ok config hcarries hfile, rfl, audio_transcriptionRequest py hmime,
    prompt_transcriptionRequest py⟩

/-- A job that has been reserved, and its upload. -/
def reservedJob : TranscriptionQueue VibevoiceFrame :=
  afterReserve { maxSize := 2 } "a" "x"

def attachedJob : TranscriptionQueue VibevoiceFrame :=
  reservedJob.afterAttach "a" ["vvv-upload-a", "audio.audio"] [1, 2, 3] "audio/wav" (some "names") 1

/-- Two uploads of which the second is transcribed first: the request of the other is its own. -/
theorem request_carries_upload_second :
    ∃ s₂ request, (system (processVibevoiceJob emptyListText) 2).exec attachedJob
        [.reserve "b" "y", .attach "b" ["vvv-upload-b", "audio.audio"] [4, 5] "audio/wav" none 2,
          .submit "b", .submit "a", .worker 0 .removed, .process 0 .finished,
          .process 0 (.chunk "[]"), .process 0 .finished, .worker 1 .removed,
          .worker 1 .removed] = some s₂ ∧
      vibevoiceRequest emptyListText ⟨"http://127.0.0.1:8000", "vibevoice", 0, 1⟩ (s₂.job "a")
        s₂.disk = .ok request ∧
      request.audio = some ("audio/wav", [1, 2, 3]) := by
  have hreserve : (system (processVibevoiceJob emptyListText) 2).exec { maxSize := 2 }
      [.reserve "a" "x"] = some reservedJob := rfl
  have hattach : step (processVibevoiceJob emptyListText) reservedJob
      (.attach "a" ["vvv-upload-a", "audio.audio"] [1, 2, 3] HELIBOARD_WAV_MIME_TYPE
        (some "names") 1) = some attachedJob := rfl
  have hrun : (system (processVibevoiceJob emptyListText) 2).exec attachedJob
      [.reserve "b" "y", .attach "b" ["vvv-upload-b", "audio.audio"] [4, 5] "audio/wav" none 2,
        .submit "b", .submit "a", .worker 0 .removed, .process 0 .finished,
        .process 0 (.chunk "[]"), .process 0 .finished, .worker 1 .removed,
        .worker 1 .removed] = some _ := rfl
  obtain ⟨request, hrequest, -, haudio, -⟩ := request_carries_upload
    (TransitionSystem.reachable_of_exec _ rfl hreserve) hattach
    (TransitionSystem.run_of_exec _ hrun) (t := 1) rfl ⟨"http://127.0.0.1:8000", "vibevoice", 0, 1⟩
  exact ⟨_, request, hrun, hrequest, haudio⟩

end TranscriptionQueue

end VibeVoice
