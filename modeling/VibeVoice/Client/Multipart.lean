import VibeVoice.Client.Pin
import VibeVoice.Semantics.Multipart
import VibeVoice.Semantics.Utf8
import VibeVoice.Server.Audio

/-!
# The body of a request

`_multipart_body` of `client.py`, and what a reader of multipart messages makes of it.

The boundary is a constant.  The name of the file is sanitised before it is put into a
header, so nothing in it ends the quoted string or the line, and what is left of it still
has its suffix (`suffix_safeFilename`).  The file and the hotwords are put into the body as
they are.  If no line of them is a delimiter, they come back; otherwise a reader takes what
is behind the delimiter for another part (`multipartBody_recovers_iff`).

The name and the hotwords come from the command line, and the bytes of an argument that are
no UTF-8 are lone surrogates in the string Python makes of it.  Such a string has no
encoding.  `_validate_wav_path` looks at the suffix only and `_safe_filename` leaves
surrogates where they are, so it is `.encode()` that raises, after the first parts of the body
have been sent.
-/

namespace VibeVoice

namespace Client

open CodePoint

/-- `_BOUNDARY` -/
def BOUNDARY : String := "----VibeVoiceCliBoundary9f2e4d"

/-- `_AUDIO_CHUNK_BYTES` -/
def AUDIO_CHUNK_BYTES : ℕ := 1024 * 1024

/-- `s.encode("utf-8")`.  What the exception says of the place is left out. -/
def encode (s : List CodePoint) : Except PyException (List UInt8) :=
  if isScalar s then .ok (Utf8.encode (chars s))
  else .error ⟨"UnicodeEncodeError", "'utf-8' codec can't encode: surrogates not allowed"⟩

/-- `_safe_filename` -/
def safeFilename (name : List CodePoint) : List CodePoint :=
  replaceChar (.char '\n') (.char '_') (replaceChar (.char '\r') (.char '_')
    (replaceChar (.char '"') (.char '_') (replaceChar (.char '\\') (.char '_') name)))

/-- `_validate_wav_path` -/
def validateWavPath (path : List CodePoint) : Except PyException Unit :=
  if PurePath.suffix path ≠ points ".wav" then
    .error (valueError "audio file must use the canonical .wav extension")
  else .ok ()

/-- `while chunk := audio.read(_AUDIO_CHUNK_BYTES): yield chunk` -/
def readChunks (audio : List UInt8) : List (List UInt8) :=
  if audio = [] then []
  else audio.take AUDIO_CHUNK_BYTES :: readChunks (audio.drop AUDIO_CHUNK_BYTES)
termination_by audio.length
decreasing_by
  rename_i hne
  have hpos := List.length_pos_iff.mpr hne
  rw [List.length_drop, AUDIO_CHUNK_BYTES]
  omega

/-- `if hotwords:`, in `_multipart_body`. -/
def hotwordsChunks : Option (List CodePoint) → Except PyException (List (List UInt8))
  | none => .ok []
  | some hotwords =>
    if hotwords = [] then .ok []
    else do
      let encoded ← encode hotwords
      return [Utf8.encode ("--" ++ BOUNDARY ++ "\r\n").toList,
        latin1Encode "Content-Disposition: form-data; name=\"hotwords\"\r\n\r\n",
        encoded,
        latin1Encode "\r\n"]

/-- `_multipart_body`, of a file that has the bytes `audio`: what is yielded, if nothing is
raised. -/
def multipartBody (path : List CodePoint) (audio : List UInt8)
    (hotwords : Option (List CodePoint)) : Except PyException (List (List UInt8)) := do
  validateWavPath path
  let disposition ← encode (points "Content-Disposition: form-data; name=\"audio\"; filename=\"" ++
    safeFilename (PurePath.name path) ++ points "\"\r\n")
  let hotwords ← hotwordsChunks hotwords
  return [Utf8.encode ("--" ++ BOUNDARY ++ "\r\n").toList, disposition,
      latin1Encode "Content-Type: audio/wav\r\n\r\n"] ++
    readChunks audio ++ [latin1Encode "\r\n"] ++ hotwords ++
    [Utf8.encode ("--" ++ BOUNDARY ++ "--\r\n").toList]

/-- The `Content-Type` of the request of `transcribe`. -/
def requestContentType : List UInt8 :=
  latin1Encode ("multipart/form-data; boundary=" ++ BOUNDARY)

/-! ## What should come back -/

/-- The part with the file. -/
def audioPart (filename audio : List UInt8) : Multipart.FormPart :=
  { name := latin1Encode "audio"
    filename := some filename
    contentType := some (latin1Encode "audio/wav")
    body := audio }

/-- The part with the hotwords, if there are any. -/
def hotwordsParts (hotwords : List CodePoint) : List Multipart.FormPart :=
  if hotwords = [] then []
  else
    [{ name := latin1Encode "hotwords"
       filename := none
       contentType := none
       body := Utf8.encode (chars hotwords) }]

/-- **What was sent is what a reader finds**: a file under a name that the server accepts, the
hotwords if there are any, and nothing else. -/
def Recovers (body audio : List UInt8) (hotwords : List CodePoint) : Prop :=
  isScalar hotwords = true ∧
  ∃ forms filename, Multipart.parseForm requestContentType body = some forms ∧
    validateHeliboardWavMetadata (some (String.ofList (Utf8.decode filename)))
      ((audioPart filename audio).contentType.map latin1Decode) = .ok HELIBOARD_WAV_MIME_TYPE ∧
    forms.Perm (audioPart filename audio :: hotwordsParts hotwords)

/-- A line of the content begins like the delimiter. -/
def HasDelimiterLine (content : List UInt8) : Prop :=
  Multipart.delimiter (latin1Encode BOUNDARY) <:+: Multipart.crlf ++ content

/-! ## The name of the file -/

/-- The file is read as a whole. -/
theorem flatten_readChunks (audio : List UInt8) : (readChunks audio).flatten = audio := by
  fun_induction readChunks audio with
  | case1 => rfl
  | case2 audio hne ih => rw [List.flatten_cons, ih, List.take_append_drop]

/-- **What is left of a name** has nothing in it that could end the header. -/
theorem notMem_safeFilename (name : List CodePoint) : .char '\\' ∉ safeFilename name ∧
    .char '"' ∉ safeFilename name ∧ .char '\r' ∉ safeFilename name ∧
    .char '\n' ∉ safeFilename name := by
  refine ⟨?_, ?_, ?_, notMem_replaceChar (by decide) _⟩
  · refine notMem_replaceChar_of_notMem (by decide) (notMem_replaceChar_of_notMem (by decide) ?_)
    exact notMem_replaceChar_of_notMem (by decide) (notMem_replaceChar (by decide) _)
  · refine notMem_replaceChar_of_notMem (by decide) (notMem_replaceChar_of_notMem (by decide) ?_)
    exact notMem_replaceChar (by decide) _
  · exact notMem_replaceChar_of_notMem (by decide) (notMem_replaceChar (by decide) _)

theorem safeFilename_append (s t : List CodePoint) :
    safeFilename (s ++ t) = safeFilename s ++ safeFilename t := by
  simp only [safeFilename, replaceChar, List.map_append]

/-- A replaced character is replaced by another: surrogates stay what they are. -/
theorem isScalar_replaceChar (c d : Char) (s : List CodePoint) :
    isScalar (replaceChar (.char c) (.char d) s) = isScalar s := by
  rw [isScalar, replaceChar, List.all_map, isScalar]
  refine congrArg (List.all s ·) (funext fun point => ?_)
  by_cases hpoint : point = .char c
  · simp [hpoint]
  · simp [hpoint]

theorem isScalar_safeFilename (name : List CodePoint) :
    isScalar (safeFilename name) = isScalar name := by
  simp only [safeFilename, isScalar_replaceChar]

/-- The name of the file, as it is sent, if it can be. -/
def sentFilename (path : List CodePoint) : List UInt8 :=
  Utf8.encode (chars (safeFilename (PurePath.name path)))

/-- **It still has its suffix.** -/
theorem suffix_safeFilename {path : List CodePoint} (h : validateWavPath path = .ok ())
    (hscalar : isScalar (PurePath.name path) = true) :
    PurePath.suffix (chars (safeFilename (PurePath.name path))) =
      HELIBOARD_WAV_SUFFIX.toList := by
  have hsuffix : PurePath.suffixOf (PurePath.name path) = .char '.' :: points "wav" := by
    rw [validateWavPath] at h
    split at h
    · cases h
    · rename_i hwav
      exact not_not.mp hwav
  obtain ⟨stem, hstem, hname⟩ := (PurePath.suffixOf_eq_iff (by decide) (by decide)).mp hsuffix
  have hsafe : chars (safeFilename (PurePath.name path)) =
      chars (safeFilename stem) ++ '.' :: "wav".toList := by
    rw [hname, safeFilename_append, chars_append]
    rfl
  have hslash : '/' ∉ chars (safeFilename (PurePath.name path)) := by
    have hmem : .char '/' ∉ PurePath.name path := PurePath.slash_notMem_name path
    rw [mem_chars]
    unfold safeFilename
    iterate 4 refine notMem_replaceChar_of_notMem (by decide) ?_
    exact hmem
  have hne : chars (safeFilename stem) ≠ [] := by
    rw [hname, isScalar_append, Bool.and_eq_true, ← isScalar_safeFilename] at hscalar
    intro hnil
    have hmap := map_char_chars hscalar.1
    rw [hnil, List.map_nil] at hmap
    exact hstem (by simpa [safeFilename, replaceChar] using hmap.symm)
  rw [PurePath.suffix, PurePath.name_of_notMem ?_ ?_ hslash, hsafe]
  · exact (PurePath.suffixOf_eq_iff (by decide) (by decide)).mpr ⟨_, hne, rfl⟩
  · rw [hsafe]
    exact List.append_ne_nil_of_right_ne_nil _ (List.cons_ne_nil _ _)
  · rw [hsafe]
    intro hdot
    have hlen := congrArg List.length hdot
    rw [List.length_append] at hlen
    simp at hlen

/-- It can stand in a quoted string. -/
theorem ne_of_mem_sentFilename {path : List CodePoint} {b : UInt8} (hb : b ∈ sentFilename path) :
    b ≠ 13 ∧ b ≠ 34 ∧ b ≠ 92 := by
  obtain ⟨hslash, hquote, hreturn, -⟩ := notMem_safeFilename (PurePath.name path)
  refine ⟨?_, ?_, ?_⟩
  · rintro rfl
    exact hreturn (mem_chars.mp ((Utf8.mem_encode (c := '\r') (by decide)).mp hb))
  · rintro rfl
    exact hquote (mem_chars.mp ((Utf8.mem_encode (c := '"') (by decide)).mp hb))
  · rintro rfl
    exact hslash (mem_chars.mp ((Utf8.mem_encode (c := '\\') (by decide)).mp hb))

theorem return_notMem_sentFilename (path : List CodePoint) : 13 ∉ sentFilename path :=
  fun hmem => (ne_of_mem_sentFilename hmem).1 rfl

/-- The server accepts it. -/
theorem validateHeliboardWavMetadata_sentFilename {path : List CodePoint}
    (h : validateWavPath path = .ok ()) (hscalar : isScalar (PurePath.name path) = true) :
    validateHeliboardWavMetadata (some (String.ofList (Utf8.decode (sentFilename path))))
      (some HELIBOARD_WAV_MIME_TYPE) = .ok HELIBOARD_WAV_MIME_TYPE := by
  rw [validateHeliboardWavMetadata_eq_ok_iff, sentFilename, Utf8.decode_encode]
  refine ⟨⟨_, rfl, ?_⟩, rfl, rfl⟩
  rw [String.toList_ofList]
  exact suffix_safeFilename h hscalar

/-! ## The parts that are written -/

/-- What is said of the part with the file. -/
def audioDisposition (filename : List UInt8) : List UInt8 :=
  latin1Encode "form-data; name=\"audio\"; filename=\"" ++ (filename ++ [34])

/-- What is said of the part with the hotwords. -/
def hotwordsDisposition : List UInt8 := latin1Encode "form-data; name=\"hotwords\""

theorem field_disposition {value : List UInt8} (hhead : value.head? = some 102)
    (hlast : value.getLast? = some 34) :
    Multipart.field (latin1Encode "Content-Disposition" ++ 58 :: 32 :: value) =
      some (latin1Encode "content-disposition", value) := by
  rw [Multipart.field_line (by decide)]
  · rfl
  · rw [hhead]
    rintro b ⟨rfl⟩
    rfl
  · rw [hlast]
    rintro b ⟨rfl⟩
    rfl

theorem withKind_audioDisposition {filename : List UInt8}
    (h : ∀ b ∈ filename, b ≠ 34 ∧ b ≠ 92) :
    Multipart.withKind (latin1Encode "form-data") (audioDisposition filename) =
      some [(latin1Encode "name", latin1Encode "audio"), (latin1Encode "filename", filename)] := by
  have hbegins : Multipart.withKind (latin1Encode "form-data") (audioDisposition filename) =
      (Multipart.parameters (.quoted (latin1Encode "filename") []) (filename ++ [34])).map
        ((latin1Encode "name", latin1Encode "audio") :: ·) := rfl
  rw [hbegins, Multipart.parameters_quoted h]
  rfl

/-- The header lines of the part with the file. -/
def audioLines (filename : List UInt8) : List (List UInt8) :=
  [latin1Encode "Content-Disposition" ++ 58 :: 32 :: audioDisposition filename,
    latin1Encode "Content-Type: audio/wav"]

theorem clean_audioLines {filename : List UInt8} (h : 13 ∉ filename) :
    ∀ line ∈ audioLines filename, line ≠ [] ∧ 13 ∉ line ∧ line.head? ≠ some 45 := by
  intro line hline
  rcases List.mem_pair.mp hline with rfl | rfl
  · refine ⟨List.cons_ne_nil _ _, ?_, (by decide : (some 67 : Option UInt8) ≠ some 45)⟩
    simp only [audioDisposition, List.mem_append, List.mem_cons, not_or]
    exact ⟨by decide, by decide, by decide, by decide, h, by decide, by decide⟩
  · exact ⟨List.cons_ne_nil _ _, by decide, by decide⟩

theorem mapM_audioLines (filename : List UInt8) :
    (audioLines filename).mapM Multipart.field =
      some [(latin1Encode "content-disposition", audioDisposition filename),
        (latin1Encode "content-type", latin1Encode "audio/wav")] := by
  have hlast : (audioDisposition filename).getLast? = some 34 := by
    rw [audioDisposition, ← List.append_assoc, List.getLast?_concat]
  have hdisposition := field_disposition rfl hlast
  rw [audioLines, List.mapM_cons, hdisposition]
  rfl

/-- The part with the file. -/
def audioDraft (filename : List UInt8) (h : 13 ∉ filename) (audio : List UInt8) :
    Multipart.Draft :=
  ⟨audioLines filename, _, audio, clean_audioLines h, mapM_audioLines filename⟩

def hotwordsLine : List UInt8 :=
  latin1Encode "Content-Disposition" ++ 58 :: 32 :: hotwordsDisposition

theorem clean_hotwordsLine :
    ∀ line ∈ [hotwordsLine], line ≠ [] ∧ 13 ∉ line ∧ line.head? ≠ some 45 := by
  intro line hline
  rw [List.mem_singleton.mp hline]
  decide

theorem mapM_hotwordsLine : [hotwordsLine].mapM Multipart.field =
    some [(latin1Encode "content-disposition", hotwordsDisposition)] := by
  rw [List.mapM_cons, hotwordsLine, field_disposition (by decide) (by decide)]
  rfl

/-- The part with the hotwords. -/
def hotwordsDrafts (hotwords : List CodePoint) : List Multipart.Draft :=
  if hotwords = [] then []
  else [⟨[hotwordsLine], _, Utf8.encode (chars hotwords), clean_hotwordsLine, mapM_hotwordsLine⟩]

/-- The drafts of a request. -/
def drafts (path : List CodePoint) (audio : List UInt8) (hotwords : List CodePoint) :
    List Multipart.Draft :=
  audioDraft (sentFilename path) (return_notMem_sentFilename path) audio :: hotwordsDrafts hotwords

/-- **They are the parts that should come back.** -/
theorem map_formPart_drafts (path : List CodePoint) (audio : List UInt8)
    (hotwords : List CodePoint) :
    (drafts path audio hotwords).map (Multipart.formPart ·.part) =
      (audioPart (sentFilename path) audio :: hotwordsParts hotwords).map some := by
  have haudio : Multipart.formPart
      (audioDraft (sentFilename path) (return_notMem_sentFilename path) audio).part =
        some (audioPart (sentFilename path) audio) := by
    have hlookup : (audioDraft (sentFilename path) (return_notMem_sentFilename path)
      audio).part.headers.lookup (latin1Encode "content-disposition") =
        some (audioDisposition (sentFilename path)) := rfl
    rw [Multipart.formPart, hlookup, Option.bind_some,
      withKind_audioDisposition fun b hb => (ne_of_mem_sentFilename hb).2]
    rfl
  rw [drafts, List.map_cons, List.map_cons, haudio, hotwordsDrafts, hotwordsParts]
  split
  · rfl
  · rw [List.map_singleton, List.map_singleton, Multipart.formPart]
    rfl

/-- The line of the delimiter. -/
theorem encode_boundary : Utf8.encode ("--" ++ BOUNDARY ++ "\r\n").toList =
    45 :: 45 :: (latin1Encode BOUNDARY ++ Multipart.crlf) := by
  decide

/-- The line of the last delimiter. -/
theorem encode_last_boundary : Utf8.encode ("--" ++ BOUNDARY ++ "--\r\n").toList =
    45 :: 45 :: (latin1Encode BOUNDARY ++ 45 :: 45 :: Multipart.crlf) := by
  decide

/-- The header of the part with the file, with the empty line. -/
theorem headerText_audioLines (filename : List UInt8) :
    latin1Encode "Content-Disposition: form-data; name=\"audio\"; filename=\"" ++ filename ++
        Utf8.encode "\"\r\n".toList ++ latin1Encode "Content-Type: audio/wav\r\n\r\n" =
      Multipart.headerText (audioLines filename) ++ Multipart.crlf := by
  have hbegin : latin1Encode "Content-Disposition: form-data; name=\"audio\"; filename=\"" =
      latin1Encode "Content-Disposition" ++ 58 :: 32 ::
        latin1Encode "form-data; name=\"audio\"; filename=\"" := by decide
  have hend : Utf8.encode "\"\r\n".toList = 34 :: Multipart.crlf := by decide
  have hline : latin1Encode "Content-Type: audio/wav\r\n\r\n" =
      latin1Encode "Content-Type: audio/wav" ++ Multipart.crlf ++ Multipart.crlf := by decide
  rw [hbegin, hend, hline]
  simp only [Multipart.headerText, audioLines, audioDisposition, List.flatMap_cons,
    List.flatMap_nil, List.append_assoc, List.cons_append, List.nil_append, List.append_nil]

/-- **The hotwords and the end**, if the hotwords have an encoding. -/
theorem hotwordsChunks_eq_ok_iff {hotwords : Option (List CodePoint)}
    {chunks : List (List UInt8)} :
    hotwordsChunks hotwords = .ok chunks ↔ isScalar (hotwords.getD []) = true ∧
      chunks = if hotwords.getD [] = [] then [] else
        [Utf8.encode ("--" ++ BOUNDARY ++ "\r\n").toList,
          latin1Encode "Content-Disposition: form-data; name=\"hotwords\"\r\n\r\n",
          Utf8.encode (chars (hotwords.getD [])), latin1Encode "\r\n"] := by
  cases hotwords with
  | none => exact ⟨fun h => ⟨rfl, (Except.ok.inj h).symm⟩, fun h => congrArg _ h.2.symm⟩
  | some text =>
    rw [hotwordsChunks, Option.getD_some]
    by_cases hnil : text = []
    · rw [if_pos hnil, if_pos hnil, hnil]
      exact ⟨fun h => ⟨rfl, (Except.ok.inj h).symm⟩, fun h => congrArg _ h.2.symm⟩
    · rw [if_neg hnil, if_neg hnil, encode]
      cases isScalar text with
      | true => exact ⟨fun h => ⟨rfl, (Except.ok.inj h).symm⟩, fun h => congrArg _ h.2.symm⟩
      | false => exact ⟨fun h => (nomatch h), fun h => absurd h.1 Bool.false_ne_true⟩

theorem flatten_hotwordsChunks {hotwords : Option (List CodePoint)}
    {chunks : List (List UInt8)} (h : hotwordsChunks hotwords = .ok chunks) :
    chunks.flatten ++ Utf8.encode ("--" ++ BOUNDARY ++ "--\r\n").toList =
      Multipart.write (latin1Encode BOUNDARY) (hotwordsDrafts (hotwords.getD [])) := by
  obtain ⟨-, rfl⟩ := hotwordsChunks_eq_ok_iff.mp h
  rw [hotwordsDrafts]
  split
  · exact encode_last_boundary
  · have hline : latin1Encode "Content-Disposition: form-data; name=\"hotwords\"\r\n\r\n" =
        hotwordsLine ++ Multipart.crlf ++ Multipart.crlf := by decide
    have hbreak : latin1Encode "\r\n" = Multipart.crlf := by decide
    rw [encode_boundary, encode_last_boundary, hline, hbreak]
    simp only [Multipart.write, Multipart.Draft.text, Multipart.headerText, List.flatten_cons,
      List.flatten_nil, List.flatMap_cons, List.flatMap_nil, List.append_assoc, List.cons_append,
      List.append_nil]

/-- **What `_multipart_body` does**: it raises, unless the name of the file is accepted and this
name and the hotwords have encodings, and then it yields these chunks. -/
theorem multipartBody_eq_ok_iff {path : List CodePoint} {audio : List UInt8}
    {hotwords : Option (List CodePoint)} {chunks : List (List UInt8)} :
    multipartBody path audio hotwords = .ok chunks ↔
      validateWavPath path = .ok () ∧ isScalar (PurePath.name path) = true ∧
        ∃ last, hotwordsChunks hotwords = .ok last ∧
          chunks = [Utf8.encode ("--" ++ BOUNDARY ++ "\r\n").toList,
              Utf8.encode "Content-Disposition: form-data; name=\"audio\"; filename=\"".toList ++
                sentFilename path ++ Utf8.encode "\"\r\n".toList,
              latin1Encode "Content-Type: audio/wav\r\n\r\n"] ++
            readChunks audio ++ [latin1Encode "\r\n"] ++ last ++
            [Utf8.encode ("--" ++ BOUNDARY ++ "--\r\n").toList] := by
  rw [multipartBody, encode]
  simp only [isScalar_append, isScalar_points, isScalar_safeFilename, Bool.true_and, Bool.and_true,
    chars_append, chars_points, Utf8.encode_append, sentFilename]
  cases validateWavPath path with
  | error exc => exact ⟨fun h => (nomatch h), fun h => (nomatch h.1)⟩
  | ok accepted =>
    cases isScalar (PurePath.name path) with
    | false => exact ⟨fun h => (nomatch h), fun h => absurd h.2.1 Bool.false_ne_true⟩
    | true =>
      cases hotwordsChunks hotwords with
      | error exc =>
        refine ⟨fun h => (nomatch h), ?_⟩
        rintro ⟨-, -, last, hlast, -⟩
        cases hlast
      | ok last =>
        constructor
        · exact fun h => ⟨rfl, rfl, last, rfl, (Except.ok.inj h).symm⟩
        · rintro ⟨-, -, last', hlast, rfl⟩
          rw [← Except.ok.inj hlast]
          rfl

/-- **What is yielded** is the message with these parts. -/
theorem flatten_multipartBody {path : List CodePoint} {audio : List UInt8}
    {hotwords : Option (List CodePoint)} {chunks : List (List UInt8)}
    (h : multipartBody path audio hotwords = .ok chunks) :
    chunks.flatten =
      Multipart.write (latin1Encode BOUNDARY) (drafts path audio (hotwords.getD [])) := by
  have hbegin : Utf8.encode "Content-Disposition: form-data; name=\"audio\"; filename=\"".toList =
      latin1Encode "Content-Disposition: form-data; name=\"audio\"; filename=\"" := by
    decide
  have hbreak : latin1Encode "\r\n" = Multipart.crlf := by decide
  obtain ⟨-, -, last, hlast, rfl⟩ := multipartBody_eq_ok_iff.mp h
  rw [drafts, Multipart.write, Multipart.Draft.text, ← flatten_hotwordsChunks hlast, audioDraft,
    ← List.append_assoc (Multipart.headerText _), ← headerText_audioLines, encode_boundary, hbegin,
    hbreak]
  simp only [List.flatten_append, flatten_readChunks, List.flatten_cons, List.flatten_nil,
    List.append_assoc, List.cons_append, List.nil_append, List.append_nil]

/-! ## What comes back -/

theorem announced_requestContentType :
    Multipart.announced requestContentType = some (latin1Encode BOUNDARY) := by
  decide

theorem return_notMem_boundary : 13 ∉ latin1Encode BOUNDARY := by decide

/-- There is nothing in an empty content. -/
theorem not_hasDelimiterLine_nil : ¬ HasDelimiterLine [] := fun h => by
  have hle := h.length_le
  revert hle
  decide

/-- What is asked of the bodies of the drafts. -/
theorem forall_drafts_iff (path : List CodePoint) (audio : List UInt8)
    (hotwords : List CodePoint) :
    (∀ draft ∈ drafts path audio hotwords,
      ¬ Multipart.delimiter (latin1Encode BOUNDARY) <:+: Multipart.crlf ++ draft.body) ↔
      ¬ HasDelimiterLine audio ∧ ¬ HasDelimiterLine (Utf8.encode (chars hotwords)) := by
  rw [drafts, List.forall_mem_cons, hotwordsDrafts]
  refine and_congr_right fun _ => ?_
  split
  · rename_i hempty
    rw [hempty]
    exact iff_of_true (fun draft hdraft => absurd hdraft List.not_mem_nil) not_hasDelimiterLine_nil
  · rw [List.forall_mem_singleton]
    exact Iff.rfl

variable {path : List CodePoint} {audio : List UInt8} {hotwords : Option (List CodePoint)}
  {chunks : List (List UInt8)}

/-- Nothing is raised. -/
theorem exists_multipartBody (hpath : validateWavPath path = .ok ())
    (hname : isScalar (PurePath.name path) = true) (audio : List UInt8)
    (hhotwords : isScalar (hotwords.getD []) = true) :
    ∃ chunks, multipartBody path audio hotwords = .ok chunks :=
  ⟨_, multipartBody_eq_ok_iff.mpr ⟨hpath, hname, _,
    hotwordsChunks_eq_ok_iff.mpr ⟨hhotwords, rfl⟩, rfl⟩⟩

/-- Without such a line the parts come back. -/
theorem recovers_of_not_hasDelimiterLine
    (hchunks : multipartBody path audio hotwords = .ok chunks)
    (h : ¬ HasDelimiterLine audio ∧
      ¬ HasDelimiterLine (Utf8.encode (chars (hotwords.getD [])))) :
    Recovers chunks.flatten audio (hotwords.getD []) := by
  have hmime : (audioPart (sentFilename path) audio).contentType.map latin1Decode =
      some HELIBOARD_WAV_MIME_TYPE := congrArg some (latin1Decode_encode (by simp))
  obtain ⟨hpath, hname, last, hlast, -⟩ := multipartBody_eq_ok_iff.mp hchunks
  refine ⟨(hotwordsChunks_eq_ok_iff.mp hlast).1, _, sentFilename path, ?_, ?_, .refl _⟩
  · rw [flatten_multipartBody hchunks]
    exact Multipart.parseForm_write announced_requestContentType return_notMem_boundary
      (map_formPart_drafts path audio _) ((forall_drafts_iff path audio _).mpr h)
  · rw [hmime]
    exact validateHeliboardWavMetadata_sentFilename hpath hname

/-- With one they do not. -/
theorem not_hasDelimiterLine_of_recovers
    (hchunks : multipartBody path audio hotwords = .ok chunks)
    (h : Recovers chunks.flatten audio (hotwords.getD [])) :
    ¬ HasDelimiterLine audio ∧
      ¬ HasDelimiterLine (Utf8.encode (chars (hotwords.getD []))) := by
  obtain ⟨-, forms, filename, hparse, -, hperm⟩ := h
  have hnames : ((audioPart (sentFilename path) audio ::
      hotwordsParts (hotwords.getD [])).map Multipart.FormPart.name).Nodup := by
    rw [hotwordsParts]
    split
    · simp
    · simp only [List.map_cons, List.map_nil, audioPart]
      decide
  rw [flatten_multipartBody hchunks] at hparse
  exact (forall_drafts_iff path audio _).mp (Multipart.not_infix_of_parseForm_write
    announced_requestContentType return_notMem_boundary (map_formPart_drafts path audio _) hnames
    hparse (hperm.map _))

/-- **The body of a request is read as it was written exactly when the name of the file and the
hotwords have an encoding, and no line of the file or of the hotwords begins like a delimiter**,
whatever the file is called. -/
theorem multipartBody_recovers_iff (hpath : validateWavPath path = .ok ()) (audio : List UInt8)
    (hotwords : Option (List CodePoint)) :
    (∃ chunks, multipartBody path audio hotwords = .ok chunks ∧
      Recovers chunks.flatten audio (hotwords.getD [])) ↔
      isScalar (PurePath.name path) = true ∧ isScalar (hotwords.getD []) = true ∧
        ¬ HasDelimiterLine audio ∧
        ¬ HasDelimiterLine (Utf8.encode (chars (hotwords.getD []))) := by
  constructor
  · rintro ⟨chunks, hchunks, h⟩
    obtain ⟨-, hname, -⟩ := multipartBody_eq_ok_iff.mp hchunks
    exact ⟨hname, h.1, not_hasDelimiterLine_of_recovers hchunks h⟩
  · rintro ⟨hname, hhotwords, h⟩
    obtain ⟨chunks, hchunks⟩ := exists_multipartBody hpath hname audio hhotwords
    exact ⟨chunks, hchunks, recovers_of_not_hasDelimiterLine hchunks h⟩

/-- A name with a quote in it. -/
theorem multipartBody_recovers_quote : ∃ chunks,
    multipartBody (points "/home/a\".wav") [82, 73] (some (points "VibeVoice")) = .ok chunks ∧
      Recovers chunks.flatten [82, 73] (points "VibeVoice") := by
  refine (@multipartBody_recovers_iff (points "/home/a\".wav") (by decide) [82, 73]
    (some (points "VibeVoice"))).mpr ⟨by decide, isScalar_points _, fun h => ?_, fun h => ?_⟩
  · exact absurd h.length_le (by decide)
  · exact absurd h.length_le (by decide)

/-- Hotwords with the delimiter in them. -/
theorem multipartBody_delimiter : ∃ chunks,
    multipartBody (points "a.wav") [82, 73]
        (some (points "b\r\n------VibeVoiceCliBoundary9f2e4d")) = .ok chunks ∧
      ¬ Recovers chunks.flatten [82, 73] (points "b\r\n------VibeVoiceCliBoundary9f2e4d") := by
  have hpath : validateWavPath (points "a.wav") = .ok () := by decide
  obtain ⟨chunks, hchunks⟩ := @exists_multipartBody (points "a.wav")
    (some (points "b\r\n------VibeVoiceCliBoundary9f2e4d")) hpath (by decide) [82, 73]
    (isScalar_points _)
  refine ⟨chunks, hchunks, fun h => (not_hasDelimiterLine_of_recovers hchunks h).2 ?_⟩
  exact ⟨[13, 10, 98], [], by decide⟩

end Client

end VibeVoice
