import VibeVoice.Client.Multipart
import VibeVoice.Proxy.Gate
import VibeVoice.Server.RequestBody
import VibeVoice.Server.Spooling
import VibeVoice.System.Tenancy

/-!
# What is uploaded is what is transcribed

The way of an audio file, from the disk of the client to the disk of the server.  It is
read in chunks and put into a multipart message; the message goes to the proxy, which
passes it on frame by frame as long as it is not too long, and copies the header that
names the boundary; the server reads frames of its own, hands them to the parser, takes
the form apart and writes the file out again, chunk by chunk.

Nowhere on the way is the length of the file written down, and everyone cuts the bytes
anew.  So everything here is about what the chunks are together, and each stage has a
lemma that says so: `flatten_multipartBody` for the client, `delivered_stripTrailers` for
the proxy, `FormParser.Reads` for the parser and `spoolUpload_ends` for the file.
What is left to show is that no stage refuses what the one before has made
(`upload_intact`): the proxy forwards the request of the client, with its `Content-Type`,
and the form has one file and at most one field.

There are three bounds, and the message has to keep all of them: the one of the proxy,
the one of the server for a body, and the one of the server for a file.
-/

namespace VibeVoice

open Proxy

namespace Client

/-! ## The request of the client -/

/-- The headers of `transcribe`: `http.client` puts two in front of those of
`VibevoiceClient`. -/
def transcribeHeaders (host : HeaderValue) : HeaderMap :=
  ⟨[(⟨"accept-encoding", by decide⟩, .fromStatic "identity" (by decide)),
    (⟨"transfer-encoding", by decide⟩, .fromStatic "chunked" (by decide)),
    (Header.HOST, host),
    (Header.CONNECTION, .fromStatic "close" (by decide)),
    (⟨"accept", by decide⟩, .fromStatic "text/event-stream" (by decide)),
    (Header.CONTENT_TYPE,
      .fromStatic "multipart/form-data; boundary=----VibeVoiceCliBoundary9f2e4d" (by decide))]⟩

/-- The request of `transcribe`, with a body that arrives in frames. -/
def transcribeRequest (host : HeaderValue) (body : Body) : Request where
  method := .post
  uri := { path := "/v1/transcribe", pathAndQuery := some "/v1/transcribe" }
  headers := transcribeHeaders host
  body := body

/-- The frames bring these bytes, and nothing goes wrong. -/
def Brings (body : Body) (bytes : List UInt8) : Prop :=
  (received body).2 = none ∧ ∃ chunks : List (List UInt8),
    (received body).1 = chunks.map .data ∧ chunks.flatten = bytes

end Client

/-! ## Through the proxy -/

section Proxy

open Client

variable {crates : Crates} {state : AppState} {host : HeaderValue}

/-- A body of data frames that is not too long is passed on as it is. -/
theorem received_limited {limited : Body → ℕ → Body} (hl : Limits limited) {body : Body}
    {chunks : List (List UInt8)} {limit : ℕ} (hframes : (received body).1 = chunks.map .data)
    (hend : (received body).2 = none) (hlimit : chunks.flatten.length ≤ limit) :
    received (stripTrailers (limited body limit)) = (chunks.map .data, none) := by
  induction body generalizing chunks limit with
  | nil =>
    rw [hl.done, ← hframes]
    rfl
  | cons first rest ih =>
    cases first with
    | error e => cases hend
    | ok frame =>
      cases chunks with
      | nil => cases hframes
      | cons chunk chunks =>
        obtain ⟨rfl, hrest⟩ := List.cons.inj hframes
        rw [List.flatten_cons, List.length_append] at hlimit
        have hgot (b : Body) : received (stripTrailers (.ok (.data chunk) :: b)) =
            (.data chunk :: (received (stripTrailers b)).1, (received (stripTrailers b)).2) := rfl
        rw [hl.passed chunk rest limit (by omega), hgot, ih hrest hend (by omega)]
        rfl

/-- The client nominates no header but `close`. -/
theorem connectionHeaderTokens_transcribeHeaders (host : HeaderValue) :
    connectionHeaderTokens (transcribeHeaders host) = [⟨"close", by decide⟩] := by
  have hconnection : (transcribeHeaders host).getAll Header.CONNECTION =
      [.fromStatic "close" (by decide)] := rfl
  rw [connectionHeaderTokens, hconnection]
  decide

theorem forwardable_contentType (host : HeaderValue) :
    forwardable (transcribeHeaders host) Header.CONTENT_TYPE = true := by
  rw [forwardable, connectionHeaderTokens_transcribeHeaders]
  decide

/-- What is set leaves the other headers. -/
theorem getAll_setHeader_of_ne {headers : HeaderMap} {name other : HeaderName} (h : name ≠ other)
    (text : String) : (setHeader headers name text).getAll other = headers.getAll other := by
  unfold setHeader
  cases HeaderValue.fromStr text with
  | none => rfl
  | some value => exact Multimap.getAll_insert_of_ne h

/-- **The header that names the boundary** arrives. -/
theorem getAll_contentType (clientIp : String) (identity : HeaderValue) :
    ((upstreamHeaders state (transcribeHeaders host) clientIp identity).getAll
      Header.CONTENT_TYPE).map HeaderValue.asBytes = [requestContentType] := by
  have hcopied : ((Multimap.empty.extendWhere (transcribeHeaders host)
      (forwardable (transcribeHeaders host))).getAll Header.CONTENT_TYPE) =
        (transcribeHeaders host).getAll Header.CONTENT_TYPE :=
    Multimap.getAll_extendWhere_of_keep (forwardable_contentType host)
  have htype : (transcribeHeaders host).getAll Header.CONTENT_TYPE = [.fromStatic
      "multipart/form-data; boundary=----VibeVoiceCliBoundary9f2e4d" (by decide)] := rfl
  simp only [upstreamHeaders]
  rw [Multimap.getAll_remove_of_ne (by decide), Multimap.getAll_insert_of_ne (by decide),
    Multimap.getAll_insert_of_ne (by decide), getAll_setHeader_of_ne (by decide),
    getAll_setHeader_of_ne (by decide), getAll_setHeader_of_ne (by decide), hcopied, htype]
  decide

/-- A digit is visible. -/
theorem visible_hex (n : Fin 16) :
    (decide ((HEX.get n).toNat < 256) && isVisibleAscii (HEX.get n).toNat.toUInt8) = true := by
  revert n
  decide

/-- An identity can stand in a header. -/
theorem exists_fromStr_hexLower (bytes : List UInt8) :
    ∃ value, HeaderValue.fromStr (hexLower bytes) = some value := by
  have hvisible : HeaderValue.isVisible (hexLower bytes) = true := by
    refine List.all_eq_true.mpr fun c hc => ?_
    obtain ⟨n, rfl⟩ := exists_hex_of_mem_hexLower hc
    exact visible_hex n
  rw [HeaderValue.fromStr, dif_pos hvisible]
  exact ⟨_, rfl⟩

/-- The request that is sent. -/
def sentRequest (crates : Crates) (state : AppState) (host value : HeaderValue) (uri : Uri)
    (clientIp : String) (frames : Body) : Proxy.Request where
  method := .post
  uri := uri
  headers := upstreamHeaders state (transcribeHeaders host) clientIp value
  body := stripTrailers (crates.limited frames state.maxBodySize)

/-- **The request of the client is forwarded**, with the body it has. -/
theorem exists_sent (hl : Limits crates.limited) {clientIp identity : String}
    {peerCerts : Option (List (List UInt8))} {upstream : Upstream} {uri : Uri} {frames : Body}
    {bytes : List UInt8} (hidentity : crates.clientIdentityFromPeerCerts peerCerts = .ok identity)
    (huri : crates.parseUri "/v1/transcribe" = .ok uri) (hconnect : upstream.connect = .connected)
    (hframes : Brings frames bytes) (hsize : bytes.length ≤ state.maxBodySize) :
    ∃ sent response, servePublicRequest crates state clientIp peerCerts
        (transcribeRequest host frames) upstream = some (some sent, response) ∧
      Brings sent.body bytes ∧
      (sent.headers.getAll Header.CONTENT_TYPE).map HeaderValue.asBytes =
        [requestContentType] := by
  obtain ⟨leaf, rest, spki, -, -, rfl⟩ := Crates.clientIdentity_eq_ok hidentity
  obtain ⟨value, hvalue⟩ := exists_fromStr_hexLower (crates.sha256 spki).toList
  obtain ⟨hend, chunks, hchunks, rfl⟩ := hframes
  have hauthorization : (transcribeHeaders host).containsKey Header.AUTHORIZATION = false := rfl
  have hupgrade : (transcribeHeaders host).containsKey Header.UPGRADE = false := rfl
  have hlength : contentLength (transcribeHeaders host) = none := rfl
  have hbody : Brings (stripTrailers (crates.limited frames state.maxBodySize)) chunks.flatten := by
    rw [Brings, received_limited hl hchunks hend hsize]
    exact ⟨rfl, chunks, rfl, rfl⟩
  have hhealth : (transcribeRequest host frames).uri.path ≠ "/health" :=
    (by decide : ("/v1/transcribe" : String) ≠ "/health")
  have hroute : isPublicUpstreamRoute .post "/v1/transcribe" = true := by decide
  have hexchange (request : Proxy.Request) :
      ∃ response, exchange request upstream = (some request, response) := by
    unfold exchange
    rw [hconnect]
    cases upstream.respond request with
    | none => exact ⟨_, rfl⟩
    | some response => exact ⟨_, rfl⟩
  obtain ⟨response, hresponse⟩ :=
    hexchange (sentRequest crates state host value uri clientIp frames)
  have hproxy : httpProxy crates state (transcribeRequest host frames) clientIp
      (hexLower (crates.sha256 spki).toList) upstream =
        (some (sentRequest crates state host value uri clientIp frames), response) := by
    unfold httpProxy
    simp only [transcribeRequest, hroute, hlength, Option.any_none, Option.getD_some, huri, hvalue,
      Bool.not_true, Bool.false_eq_true, if_false]
    exact hresponse
  have hhandler : proxyHandlerInner crates state clientIp (hexLower (crates.sha256 spki).toList)
      (transcribeRequest host frames) upstream =
        (some (sentRequest crates state host value uri clientIp frames), response) := by
    unfold proxyHandlerInner
    rw [if_neg (by rw [transcribeRequest, hauthorization]; exact Bool.false_ne_true),
      if_neg hhealth,
      if_neg (by rw [transcribeRequest, isHttpUpgrade, hupgrade]; exact Bool.false_ne_true)]
    exact hproxy
  refine ⟨sentRequest crates state host value uri clientIp frames, response, ?_, hbody,
    getAll_contentType clientIp value⟩
  unfold servePublicRequest
  rw [hidentity]
  exact congrArg some hhandler

end Proxy

/-! ## To the disk of the server -/

section Server

open Client CodePoint

/-- `request.headers.get(key)`: of several values the first. -/
def RawHeaders.first (headers : RawHeaders) (key : String) : Option (List UInt8) :=
  ((headers.filter fun h => h.1 = latin1Encode key).map Prod.snd).head?

/-- The header is read as it was sent. -/
theorem first_contentType {sent : Proxy.Request} {scope : Scope} (h : Received sent scope)
    (htype : (sent.headers.getAll Header.CONTENT_TYPE).map HeaderValue.asBytes =
      [requestContentType]) :
    scope.headers.first "content-type" = some requestContentType := by
  have hread := h.headers Header.CONTENT_TYPE (by decide)
  have hvalues : ((sent.headers.getAll Header.CONTENT_TYPE).map fun value =>
      trimOws value.asBytes) = [requestContentType] := by
    have hmap := congrArg (List.map trimOws) htype
    rw [List.map_map] at hmap
    exact hmap.trans (by decide)
  rw [hvalues] at hread
  exact congrArg List.head? hread

/-- The parts of the message keep the limits of the server. -/
theorem withinLimits_parts {path : List CodePoint} {audio : List UInt8}
    {hotwords : List CodePoint}
    (hfield : (Utf8.encode (chars hotwords)).length ≤ MAX_FORM_FIELD_BYTES) :
    WithinLimits (audioPart (sentFilename path) audio :: hotwordsParts hotwords) := by
  rw [hotwordsParts]
  split
  · exact ⟨by simp [audioPart, MAX_MULTIPART_FILES], by simp [audioPart],
      by simp [audioPart]⟩
  · exact ⟨by simp [audioPart, MAX_MULTIPART_FILES], by simp [audioPart, MAX_MULTIPART_FIELDS],
      by simpa [audioPart] using hfield⟩

/-- The headers of the parts are those the parser looks at. -/
theorem partHeaders_drafts {path : List CodePoint} {audio : List UInt8}
    {hotwords : List CodePoint} :
    ∀ draft ∈ drafts path audio hotwords, ∀ header ∈ draft.headers,
      header.1 ∈ PART_HEADERS := by
  intro draft hdraft header hheader
  have haudio (headers : List (List UInt8 × List UInt8))
      (h : headers = [(latin1Encode "content-disposition", audioDisposition (sentFilename path)),
        (latin1Encode "content-type", latin1Encode "audio/wav")])
      (hmem : header ∈ headers) : header.1 ∈ PART_HEADERS := by
    subst h
    rcases List.mem_pair.mp hmem with rfl | rfl
    · exact List.mem_cons_self
    · exact List.mem_cons_of_mem _ List.mem_cons_self
  rw [drafts] at hdraft
  rcases List.mem_cons.mp hdraft with rfl | hdraft
  · exact haudio _ rfl hheader
  · rw [hotwordsDrafts] at hdraft
    split at hdraft
    · exact absurd hdraft List.not_mem_nil
    · rw [List.mem_singleton.mp hdraft] at hheader
      rw [List.mem_singleton.mp hheader]
      exact List.mem_cons_self

/-- A name of a file has no more bytes. -/
def NAME_MAX : ℕ := 255

/-- What goes with the file into the message. -/
theorem length_multipartBody {path : List CodePoint} {audio : List UInt8}
    {hotwords : Option (List CodePoint)} {body : List (List UInt8)}
    (h : multipartBody path audio hotwords = .ok body) :
    body.flatten.length ≤ audio.length + (sentFilename path).length +
      (Utf8.encode (chars (hotwords.getD []))).length + 400 := by
  have hfirst : (Utf8.encode ("--" ++ BOUNDARY ++ "\r\n").toList).length = 34 := by decide
  have hlast : (Utf8.encode ("--" ++ BOUNDARY ++ "--\r\n").toList).length = 36 := by decide
  have hbegin : (Utf8.encode
      "Content-Disposition: form-data; name=\"audio\"; filename=\"".toList).length = 56 := by
    decide
  have hend : (Utf8.encode "\"\r\n".toList).length = 3 := by decide
  have htype : (latin1Encode "Content-Type: audio/wav\r\n\r\n").length = 27 := by decide
  have hbreak : (latin1Encode "\r\n").length = 2 := by decide
  have hname : (latin1Encode
      "Content-Disposition: form-data; name=\"hotwords\"\r\n\r\n").length = 51 := by decide
  obtain ⟨-, -, last, hchunks, rfl⟩ := multipartBody_eq_ok_iff.mp h
  obtain ⟨-, rfl⟩ := hotwordsChunks_eq_ok_iff.mp hchunks
  have hhotwords : (if hotwords.getD [] = [] then [] else
      [Utf8.encode ("--" ++ BOUNDARY ++ "\r\n").toList,
        latin1Encode "Content-Disposition: form-data; name=\"hotwords\"\r\n\r\n",
        Utf8.encode (chars (hotwords.getD [])), latin1Encode "\r\n"]).flatten.length ≤
      (Utf8.encode (chars (hotwords.getD []))).length + 87 := by
    split
    · exact Nat.zero_le _
    · simp only [List.flatten_cons, List.flatten_nil, List.length_append, List.length_nil, hfirst,
        hname, hbreak]
      omega
  simp only [List.flatten_append, flatten_readChunks, List.flatten_cons, List.flatten_nil,
    List.length_append, List.length_nil, hfirst, hlast, hbegin, hend, htype, hbreak]
  omega

/-- The file, as the server has it. -/
def uploadOf (path : List CodePoint) (audio : List UInt8) : UploadFile where
  filename := some (String.ofList (Utf8.decode (sentFilename path)))
  contentType := some HELIBOARD_WAV_MIME_TYPE
  content := audio

/-- The items of the form. -/
def itemsOf (path : List CodePoint) (audio : List UInt8) (hotwords : String) :
    List (String × FormValue UploadFile) :=
  ("audio", .file (uploadOf path audio)) ::
    if hotwords = "" then [] else [("hotwords", .text hotwords)]

/-- **The parts, as items.** -/
theorem map_formItem {parser : FormParser} (hparser : parser.Reads) (path : List CodePoint)
    (audio : List UInt8) (hotwords : String) :
    (audioPart (sentFilename path) audio :: hotwordsParts (points hotwords)).map
      (formItem parser.decode) = itemsOf path audio hotwords := by
  have hlatin (text : String) (htext : latin1Encode text = Utf8.encode text.toList) :
      parser.decode (latin1Encode text) = text := by
    rw [htext, hparser.decode, String.ofList_toList]
  have htype : latin1Decode (latin1Encode "audio/wav") = HELIBOARD_WAV_MIME_TYPE :=
    latin1Decode_encode (by simp)
  have haudio : formItem parser.decode (audioPart (sentFilename path) audio) =
      ("audio", .file (uploadOf path audio)) := by
    simp only [formItem, audioPart, Option.map_some, htype, hlatin "audio" (by decide), uploadOf]
    rw [sentFilename, hparser.decode, Utf8.decode_encode]
  rw [List.map_cons, haudio, itemsOf, hotwordsParts]
  by_cases hempty : hotwords = ""
  · rw [if_pos (points_eq_nil.mpr hempty), if_pos hempty]
    rfl
  · rw [if_neg fun hnil => hempty (points_eq_nil.mp hnil), if_neg hempty]
    simp only [List.map_cons, List.map_nil, formItem, hlatin "hotwords" (by decide),
      chars_points, hparser.decode, String.ofList_toList]

/-- They keep to the grammar of the form. -/
theorem formGrammar_itemsOf (path : List CodePoint) (audio : List UInt8) {hotwords : String}
    (h : ¬ HasControlToken hotwords) :
    FormGrammar (itemsOf path audio hotwords) (uploadOf path audio)
      (if hotwords = "" then none else some hotwords) := by
  unfold itemsOf
  split
  · exact ⟨rfl, rfl, nofun, fun item hitem => Or.inl (List.mem_singleton.mp hitem ▸ rfl)⟩
  · refine ⟨rfl, rfl, fun s hs => ?_, fun item hitem => ?_⟩
    · rw [← Option.some_inj.mp hs]
      exact h
    · rcases List.mem_pair.mp hitem with rfl | rfl
      · exact Or.inl rfl
      · exact Or.inr rfl

/-- Nothing has failed. -/
theorem spoolUpload_of_bounds {maxAudioBytes : ℕ} {scratch : Disk} {dir : PosixPath}
    (hfree : scratch.Free dir) {reads : List (List UInt8)} (hreads : ∀ chunk ∈ reads, chunk ≠ [])
    (hne : reads.flatten ≠ []) (hle : reads.flatten.length ≤ maxAudioBytes) :
    ∃ scratch', spoolUpload maxAudioBytes scratch dir {} reads =
        (some (.ok (dir.join UPLOAD_FILE_NAME, reads.flatten.length)), scratch') ∧
      scratch'.HasFile (dir.join UPLOAD_FILE_NAME) ∧
      scratch'.content (dir.join UPLOAD_FILE_NAME) = reads.flatten := by
  have hends := @spoolUpload_ends {} maxAudioBytes _ _ _ hfree hreads
  have hsucceeds : SpoolSucceeds {} reads := ⟨rfl, rfl, fun _ _ => rfl, fun _ _ => rfl, rfl⟩
  generalize spoolUpload maxAudioBytes scratch dir {} reads = run at hends
  cases hends with
  | returned scratch' _ _ _ hfile hcontent => exact ⟨scratch', rfl, hfile, hcontent⟩
  | raised e scratch' _ hraised =>
    rcases hraised with hclose | hraises
    · cases hclose
    · rcases hraises.eq_of_succeeds hsucceeds with ⟨-, hlarge⟩ | ⟨-, hnil⟩
      · exact absurd hle (Nat.not_le.mpr hlarge)
      · exact absurd hnil hne

/-- Hotwords that are characters. -/
theorem getD_map_points (hotwords : Option String) :
    (hotwords.map points).getD [] = points (hotwords.getD "") := by
  cases hotwords <;> rfl

/-- **What the client uploads is what the server writes down.**  A request with a file
that is not empty and not too long, and hotwords that the server accepts, goes through the
proxy whatever the frames it comes in, if the proxy lets through as much as the server takes.
However the server cuts what it receives, the form has this file and these hotwords; and
however it reads the file, what it writes is the file.  Neither the file nor the hotwords have
a line that begins like the delimiter, and the name of the file can be encoded and has at most
255 bytes. -/
theorem upload_intact {crates : Crates} {state : AppState} {parser : FormParser}
    {maxAudioBytes : ℕ} (hl : Limits crates.limited) (hparser : parser.Reads)
    (hmax : maxBodyBytes maxAudioBytes ≤ state.maxBodySize)
    {host : HeaderValue} {path : List CodePoint} {clientIp identity : String} {audio : List UInt8}
    {hotwords : Option String} {body : List (List UInt8)} {frames : Body}
    {peerCerts : Option (List (List UInt8))} {upstream : Upstream} {uri : Uri}
    (hbody : multipartBody path audio (hotwords.map points) = .ok body)
    (hname : (sentFilename path).length ≤ NAME_MAX) (hne : audio ≠ [])
    (hle : audio.length ≤ maxAudioBytes)
    (haudio : ¬ HasDelimiterLine audio)
    (hhotwords : ¬ HasDelimiterLine (Utf8.encode (hotwords.getD "").toList))
    (htoken : ¬ HasControlToken (hotwords.getD ""))
    (hfield : (Utf8.encode (hotwords.getD "").toList).length ≤ MAX_FORM_FIELD_BYTES)
    (hframes : Brings frames body.flatten)
    (hidentity : crates.clientIdentityFromPeerCerts peerCerts = .ok identity)
    (huri : crates.parseUri "/v1/transcribe" = .ok uri) (hconnect : upstream.connect = .connected) :
    ∃ sent response, servePublicRequest crates state clientIp peerCerts
        (transcribeRequest host frames) upstream = some (some sent, response) ∧
      Brings sent.body body.flatten ∧
      ∀ scope, Received sent scope → ∀ chunks : List (List UInt8), chunks.flatten = body.flatten →
        ∃ items upload, parseTranscribeForm parser (scope.headers.first "content-type")
            maxAudioBytes (chunks.map .chunk) = .ok items ∧
          extractTranscribeForm items =
            .ok (upload, if hotwords.getD "" = "" then none else hotwords) ∧
          validateHeliboardWavMetadata upload.filename upload.contentType =
            .ok HELIBOARD_WAV_MIME_TYPE ∧
          ∀ reads, reads.flatten = upload.content → (∀ chunk ∈ reads, chunk ≠ []) →
            ∀ (scratch : Disk) (dir : PosixPath), scratch.Free dir → ∃ scratch',
              spoolUpload maxAudioBytes scratch dir {} reads =
                (some (.ok (dir.join UPLOAD_FILE_NAME, audio.length)), scratch') ∧
              scratch'.HasFile (dir.join UPLOAD_FILE_NAME) ∧
              scratch'.content (dir.join UPLOAD_FILE_NAME) = audio := by
  obtain ⟨hpath, hscalar, -⟩ := multipartBody_eq_ok_iff.mp hbody
  have hwritten := flatten_multipartBody hbody
  have hlength : body.flatten.length ≤ maxBodyBytes maxAudioBytes := by
    have hlen := length_multipartBody hbody
    rw [getD_map_points, chars_points] at hlen
    rw [NAME_MAX] at hname
    rw [MAX_FORM_FIELD_BYTES] at hfield
    rw [maxBodyBytes, MAX_MULTIPART_OVERHEAD_BYTES]
    omega
  rw [← chars_points] at hhotwords hfield
  rw [getD_map_points] at hwritten
  obtain ⟨sent, response, hserved, hbrings, htype⟩ := @exists_sent _ _ host hl clientIp _ _ _
    _ _ _ hidentity huri hconnect hframes (hlength.trans hmax)
  refine ⟨sent, response, hserved, hbrings, fun scope hscope chunks hchunks =>
    ⟨itemsOf path audio (hotwords.getD ""), uploadOf path audio, ?_, ?_,
      validateHeliboardWavMetadata_sentFilename hpath hscalar, ?_⟩⟩
  · have hparsed := hparser.form requestContentType (latin1Encode BOUNDARY)
      (drafts path audio (points (hotwords.getD ""))) _ chunks announced_requestContentType
      return_notMem_boundary ((forall_drafts_iff path audio _).mpr ⟨haudio, hhotwords⟩)
      partHeaders_drafts (map_formPart_drafts path audio _) (withinLimits_parts hfield)
      (hchunks.trans hwritten)
    have hmedia : mediaType requestContentType = "multipart/form-data".toList := by decide
    rw [first_contentType hscope htype, parseTranscribeForm, Option.getD_some,
      if_neg (not_not.mpr hmedia), ← maxBodyBytes,
      limitedRequestStream_chunks (hchunks ▸ hlength)]
    simp only [hparsed, map_formItem hparser]
  · have hextract := extractTranscribeForm_eq_ok_iff.mpr (formGrammar_itemsOf path audio htoken)
    cases hotwords with
    | none => exact hextract
    | some text => exact hextract
  · intro reads hreads hchunk scratch dir hfree
    have hcontent : reads.flatten = audio := hreads
    rw [← hcontent]
    exact spoolUpload_of_bounds hfree hchunk (hcontent ▸ hne) (hcontent ▸ hle)

/-- A file of four bytes, with hotwords, where no file may have more, in a body that comes
in two frames. -/
theorem upload_intact_small :
    ∃ body, multipartBody (points "/home/dictation 1.wav") [82, 73, 70, 70]
        (some (points "VibeVoice")) = .ok body ∧
      ∃ sent response, servePublicRequest { Tenancy.sampleCrates with limited := limitedTo }
          { maxBodySize := maxBodyBytes 4 } "127.0.0.1" (some [Tenancy.ours])
          (transcribeRequest (.fromStatic "vibevoice.lan" (by decide))
            [.ok (.data (body.flatten.take 50)), .ok (.data (body.flatten.drop 50))])
          Tenancy.answering = some (some sent, response) ∧
        ∀ scope, Received sent scope → ∃ items upload,
          parseTranscribeForm wholeParser (scope.headers.first "content-type") 4
            ([body.flatten].map .chunk) = .ok items ∧
          extractTranscribeForm items = .ok (upload, some "VibeVoice") := by
  obtain ⟨body, hbody⟩ := @exists_multipartBody (points "/home/dictation 1.wav")
    (some (points "VibeVoice")) (by decide) (by decide) [82, 73, 70, 70] (isScalar_points _)
  have hnone : ¬ HasControlToken "VibeVoice" := fun htoken =>
    absurd (search_controlTokenRe.mpr htoken) (by decide)
  have hintact := @upload_intact { Tenancy.sampleCrates with limited := limitedTo }
    { maxBodySize := maxBodyBytes 4 } wholeParser 4 limits_limitedTo reads_wholeParser le_rfl
    (.fromStatic "vibevoice.lan" (by decide)) (points "/home/dictation 1.wav") "127.0.0.1" _
    [82, 73, 70, 70] (some "VibeVoice") body
    [.ok (.data (body.flatten.take 50)), .ok (.data (body.flatten.drop 50))]
    (some [Tenancy.ours]) Tenancy.answering _ hbody (by decide) (by decide) (by decide)
    (fun h => absurd h.length_le (by decide)) (fun h => absurd h.length_le (by decide)) hnone
    (by decide) ⟨rfl, [body.flatten.take 50, body.flatten.drop 50], rfl, by simp⟩ rfl rfl rfl
  obtain ⟨sent, response, hsent, -, hread⟩ := hintact
  refine ⟨body, hbody, sent, response, hsent, fun scope hscope => ?_⟩
  obtain ⟨items, upload, hparsed, hform, -⟩ := hread scope hscope [body.flatten] (by simp)
  exact ⟨items, upload, hparsed, hform⟩

end Server

end VibeVoice
