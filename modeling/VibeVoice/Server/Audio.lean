import VibeVoice.Semantics.PurePath
import VibeVoice.Semantics.PyStruct
import VibeVoice.Semantics.PyText

/-!
# The one audio format

`validate_heliboard_wav_metadata` and `read_heliboard_wav_info` of `server/audio.py`.

A WAV file can have chunks in any order, and fields that contradict each other.  The
parser takes a file apart at fixed offsets instead and compares every field with a
constant or with the length of the file.  So it accepts no more than one header for
each length (`canonicalHeader`), and there is nothing in a header that is not looked at
(`wav_accepted_iff`).

The length is asked for before the file is opened, and 44 bytes are read after that, so
the model has the two apart.
-/

namespace VibeVoice

open PyStruct

/-- What the parser can raise. -/
inductive AudioError where
  /-- `ValueError` -/
  | valueError (message : String) : AudioError
  /-- `struct.error` -/
  | structError : AudioError
  deriving DecidableEq, Repr

/-- `HeliboardWavInfo` -/
structure HeliboardWavInfo where
  durationSeconds : ℚ
  dataSize : ℕ
  deriving DecidableEq, Repr

/-! ## The name of the file -/

def HELIBOARD_WAV_MIME_TYPE : String := "audio/wav"
def HELIBOARD_WAV_SUFFIX : String := ".wav"

/-- `validate_heliboard_wav_metadata` -/
def validateHeliboardWavMetadata (filename contentType : Option String) :
    Except AudioError String :=
  match filename with
  | none | some "" => .error (.valueError "Audio file must include a filename")
  | some filename =>
    if PurePath.suffix filename.toList ≠ HELIBOARD_WAV_SUFFIX.toList then
      .error (.valueError "Audio filename must end in .wav")
    else if contentType ≠ some HELIBOARD_WAV_MIME_TYPE then
      .error (.valueError "Audio part Content-Type must be audio/wav")
    else .ok HELIBOARD_WAV_MIME_TYPE

/-- **What is accepted** is one type, and files that have one suffix. -/
theorem validateHeliboardWavMetadata_eq_ok_iff {filename contentType : Option String}
    {mime : String} : validateHeliboardWavMetadata filename contentType = .ok mime ↔
      (∃ name, filename = some name ∧ PurePath.suffix name.toList = HELIBOARD_WAV_SUFFIX.toList) ∧
        contentType = some HELIBOARD_WAV_MIME_TYPE ∧ mime = HELIBOARD_WAV_MIME_TYPE := by
  have hempty : PurePath.suffix ("" : String).toList ≠ HELIBOARD_WAV_SUFFIX.toList := by decide
  unfold validateHeliboardWavMetadata
  split
  · exact iff_of_false nofun fun h => nomatch h.1
  · refine iff_of_false nofun ?_
    rintro ⟨⟨name, hname, hsuffix⟩, -⟩
    rw [← Option.some_inj.mp hname] at hsuffix
    exact hempty hsuffix
  · rename_i name _
    have hname : (∃ name', some name = some name' ∧
        PurePath.suffix name'.toList = HELIBOARD_WAV_SUFFIX.toList) ↔
          PurePath.suffix name.toList = HELIBOARD_WAV_SUFFIX.toList := by
      simp
    rw [hname]
    split
    · rename_i hsuffix
      exact iff_of_false nofun fun h => hsuffix h.1
    · rename_i hsuffix
      rw [not_not] at hsuffix
      split
      · rename_i hmime
        exact iff_of_false nofun fun h => hmime h.2.1
      · rename_i hmime
        rw [not_not] at hmime
        rw [Except.ok.injEq]
        exact ⟨fun h => ⟨hsuffix, hmime, h.symm⟩, fun h => h.2.2.symm⟩

/-! ## The constants -/

/-- `_HELIBOARD_WAV_HEADER_BYTES`, and so on. -/
def HELIBOARD_WAV_HEADER_BYTES : ℕ := 44
def HELIBOARD_WAV_SAMPLE_RATE : ℕ := 16000
def HELIBOARD_WAV_CHANNELS : ℕ := 1
def HELIBOARD_WAV_BITS_PER_SAMPLE : ℕ := 16
def HELIBOARD_WAV_BLOCK_ALIGN : ℕ := 2
def HELIBOARD_WAV_BYTE_RATE : ℕ := 32000
def HELIBOARD_WAV_DATA_BYTES_PER_SECOND : ℕ := HELIBOARD_WAV_BYTE_RATE

/-- `"<4sI4s4sIHHIIHH4sI"` -/
def wavHeaderFormat : Format :=
  [.bytes 4, .unsigned 4, .bytes 4, .bytes 4, .unsigned 4, .unsigned 2, .unsigned 2, .unsigned 4,
    .unsigned 4, .unsigned 2, .unsigned 2, .bytes 4, .unsigned 4]

/-! ## The parser -/

/-- Raise a `ValueError` unless the condition holds. -/
def require (condition : Bool) (message : String) : Except AudioError Unit :=
  if condition then .ok () else .error (.valueError message)

/-- `struct.unpack`, with the exception. -/
def structUnpack (fmt : Format) (raw : List UInt8) : Except AudioError (Values fmt) :=
  match unpack fmt raw with
  | none => .error .structError
  | some values => .ok values

/-- `read_heliboard_wav_info`, of a file that had `fileSize` bytes when it was asked for
its size and has the bytes `content` when it is read. -/
def readHeliboardWavInfo (fileSize : ℕ) (content : List UInt8) :
    Except AudioError HeliboardWavInfo := do
  require (!(fileSize < HELIBOARD_WAV_HEADER_BYTES)) "WAV file is too short"
  let header := content.take HELIBOARD_WAV_HEADER_BYTES
  require (header.length == HELIBOARD_WAV_HEADER_BYTES) "WAV header is incomplete"
  let (riffMagic, riffSize, waveMagic, fmtMagic, fmtSize, audioFormat, channels, sampleRate,
    byteRate, blockAlign, bitsPerSample, dataMagic, dataSize, ()) ←
      structUnpack wavHeaderFormat header
  require (riffMagic.toList == latin1Encode "RIFF") "WAV header must start with RIFF"
  require (riffSize.val == fileSize - 8) "WAV RIFF size does not match file length"
  require (waveMagic.toList == latin1Encode "WAVE") "WAV header must declare WAVE"
  require (fmtMagic.toList == latin1Encode "fmt ") "WAV fmt chunk must start at byte 12"
  require (fmtSize.val == 16) "WAV fmt chunk must be canonical PCM size 16"
  require (audioFormat.val == 1) "WAV audio format must be PCM"
  require (channels.val == HELIBOARD_WAV_CHANNELS) "WAV must be mono"
  require (sampleRate.val == HELIBOARD_WAV_SAMPLE_RATE) "WAV sample rate must be 16000 Hz"
  require (byteRate.val == HELIBOARD_WAV_BYTE_RATE) "WAV byte rate must be 32000"
  require (blockAlign.val == HELIBOARD_WAV_BLOCK_ALIGN) "WAV block align must be 2"
  require (bitsPerSample.val == HELIBOARD_WAV_BITS_PER_SAMPLE) "WAV bits per sample must be 16"
  require (dataMagic.toList == latin1Encode "data") "WAV data chunk must start at byte 36"
  require (dataSize.val == fileSize - HELIBOARD_WAV_HEADER_BYTES)
    "WAV data size does not match file length"
  require (!(dataSize.val == 0)) "WAV data chunk is empty"
  require (dataSize.val % HELIBOARD_WAV_BLOCK_ALIGN == 0)
    "WAV data size must align to 16-bit mono samples"
  return { durationSeconds := dataSize.val / HELIBOARD_WAV_DATA_BYTES_PER_SECOND
           dataSize := dataSize.val }

/-! ## The header -/

/-- The header of a file with `n` bytes of samples. -/
def canonicalHeader (n : ℕ) : List UInt8 :=
  latin1Encode "RIFF" ++ toLittleEndian 4 (n + 36) ++ latin1Encode "WAVE" ++
    latin1Encode "fmt " ++ toLittleEndian 4 16 ++ toLittleEndian 2 1 ++ toLittleEndian 2 1 ++
    toLittleEndian 4 16000 ++ toLittleEndian 4 32000 ++ toLittleEndian 2 2 ++
    toLittleEndian 2 16 ++ latin1Encode "data" ++ toLittleEndian 4 n

theorem length_canonicalHeader (n : ℕ) : (canonicalHeader n).length = 44 := by
  simp only [canonicalHeader, List.length_append, length_toLittleEndian]
  rfl

/-! ## What the checks come to -/

/-- A check that is passed. -/
theorem require_bind_eq_ok {condition : Bool} {message : String} {α : Type}
    {rest : Unit → Except AudioError α} {a : α} :
    (require condition message >>= rest) = .ok a ↔ condition = true ∧ rest () = .ok a := by
  cases condition with
  | false => exact ⟨fun h => absurd h nofun, fun h => absurd h.1 nofun⟩
  | true => exact ⟨fun h => ⟨rfl, h⟩, fun h => h.2⟩

theorem ok_bind {α β : Type} (a : α) (rest : α → Except AudioError β) :
    (.ok a >>= rest) = rest a := rfl

/-- An error that is a `ValueError`. -/
def IsValueError {α : Type} (r : Except AudioError α) : Prop :=
  ∀ e, r = .error e → ∃ message, e = .valueError message

/-- A check raises a `ValueError` or nothing. -/
theorem IsValueError.require_bind {condition : Bool} {message : String} {α : Type}
    {rest : Unit → Except AudioError α} (h : condition = true → IsValueError (rest ())) :
    IsValueError (require condition message >>= rest) := by
  intro e he
  cases condition with
  | false => exact ⟨message, (Except.error.inj he).symm⟩
  | true => exact h rfl e he

/-! ## What is accepted -/

theorem structUnpack_eq_ok {fmt : Format} {raw : List UInt8} {values : Values fmt} :
    structUnpack fmt raw = .ok values ↔ unpack fmt raw = some values := by
  unfold structUnpack
  cases unpack fmt raw <;> simp

/-- A header of 44 bytes is taken apart. -/
theorem structUnpack_wavHeaderFormat {header : List UInt8} (h : header.length = 44) :
    ∃ values, structUnpack wavHeaderFormat header = .ok values := by
  obtain ⟨values, hvalues⟩ : ∃ values, unpack wavHeaderFormat header = some values :=
    exists_unpack h
  exact ⟨values, structUnpack_eq_ok.mpr hvalues⟩

/-- **Nothing but `ValueError` is raised.** -/
theorem isValueError_readHeliboardWavInfo (fileSize : ℕ) (content : List UInt8) :
    IsValueError (readHeliboardWavInfo fileSize content) := by
  unfold readHeliboardWavInfo
  refine .require_bind fun _ => .require_bind fun hlength => ?_
  obtain ⟨values, hvalues⟩ := structUnpack_wavHeaderFormat (beq_iff_eq.mp hlength)
  rw [hvalues]
  iterate 15 refine .require_bind fun _ => ?_
  exact fun e he => absurd he (by simp [pure, Except.pure])

/-- The fields of the header. -/
def canonicalValues (n : ℕ) (h : n + 36 < 2 ^ 32) : Values wavHeaderFormat :=
  let magic (s : String) (hs : (latin1Encode s).length = 4) : Vector UInt8 4 :=
    ⟨(latin1Encode s).toArray, hs⟩
  (magic "RIFF" rfl, (⟨n + 36, by omega⟩ : Fin (256 ^ 4)), magic "WAVE" rfl, magic "fmt " rfl,
    (⟨16, by decide⟩ : Fin (256 ^ 4)), (⟨1, by decide⟩ : Fin (256 ^ 2)),
    (⟨1, by decide⟩ : Fin (256 ^ 2)), (⟨16000, by decide⟩ : Fin (256 ^ 4)),
    (⟨32000, by decide⟩ : Fin (256 ^ 4)), (⟨2, by decide⟩ : Fin (256 ^ 2)),
    (⟨16, by decide⟩ : Fin (256 ^ 2)), magic "data" rfl, (⟨n, by omega⟩ : Fin (256 ^ 4)), ())

theorem pack_canonicalValues (n : ℕ) (h : n + 36 < 2 ^ 32) :
    pack wavHeaderFormat (canonicalValues n h) = canonicalHeader n := by
  simp only [wavHeaderFormat, canonicalValues, pack, Field.pack, canonicalHeader,
    List.append_assoc, List.append_nil]
  rfl

/-- The bytes of a magic number. -/
theorem magic_eq {s : String} (hs : (latin1Encode s).length = 4) {v : Vector UInt8 4}
    (h : (v.toList == latin1Encode s) = true) : v = ⟨(latin1Encode s).toArray, hs⟩ :=
  Vector.toList_inj.mp (beq_iff_eq.mp h)

/-- What is accepted has the canonical header. -/
theorem eq_of_readHeliboardWavInfo {file : List UInt8} {info : HeliboardWavInfo}
    (h : readHeliboardWavInfo file.length file = .ok info) :
    ∃ n data, 0 < n ∧ n % 2 = 0 ∧ n + 36 < 2 ^ 32 ∧ data.length = n ∧
      file = canonicalHeader n ++ data ∧
        info = { durationSeconds := n / 32000, dataSize := n } := by
  unfold readHeliboardWavInfo at h
  obtain ⟨hsize, h⟩ := require_bind_eq_ok.mp h
  obtain ⟨hlength, h⟩ := require_bind_eq_ok.mp h
  obtain ⟨⟨riffMagic, riffSize, waveMagic, fmtMagic, fmtSize, audioFormat, channels, sampleRate,
    byteRate, blockAlign, bitsPerSample, dataMagic, dataSize, _⟩, hvalues⟩ :=
      structUnpack_wavHeaderFormat (beq_iff_eq.mp hlength)
  rw [hvalues] at h
  obtain ⟨hriffMagic, h⟩ := require_bind_eq_ok.mp h
  obtain ⟨hriffSize, h⟩ := require_bind_eq_ok.mp h
  obtain ⟨hwaveMagic, h⟩ := require_bind_eq_ok.mp h
  obtain ⟨hfmtMagic, h⟩ := require_bind_eq_ok.mp h
  obtain ⟨hfmtSize, h⟩ := require_bind_eq_ok.mp h
  obtain ⟨haudioFormat, h⟩ := require_bind_eq_ok.mp h
  obtain ⟨hchannels, h⟩ := require_bind_eq_ok.mp h
  obtain ⟨hsampleRate, h⟩ := require_bind_eq_ok.mp h
  obtain ⟨hbyteRate, h⟩ := require_bind_eq_ok.mp h
  obtain ⟨hblockAlign, h⟩ := require_bind_eq_ok.mp h
  obtain ⟨hbitsPerSample, h⟩ := require_bind_eq_ok.mp h
  obtain ⟨hdataMagic, h⟩ := require_bind_eq_ok.mp h
  obtain ⟨hdataSize, h⟩ := require_bind_eq_ok.mp h
  obtain ⟨hnonempty, h⟩ := require_bind_eq_ok.mp h
  obtain ⟨haligned, h⟩ := require_bind_eq_ok.mp h
  have hinfo := (Except.ok.inj h).symm
  have hlong : 44 ≤ file.length := by
    rw [Bool.not_eq_true', decide_eq_false_iff_not, Nat.not_lt] at hsize
    exact hsize
  have hn : dataSize.val = file.length - 44 := beq_iff_eq.mp hdataSize
  have hriff : riffSize.val = dataSize.val + 36 := by
    have hriff : riffSize.val = file.length - 8 := beq_iff_eq.mp hriffSize
    omega
  have hbound : dataSize.val + 36 < 2 ^ 32 := hriff ▸ riffSize.isLt
  have hcanonical : file.take 44 = canonicalHeader dataSize.val := by
    rw [← pack_canonicalValues dataSize.val hbound]
    refine (unpack_eq_some_iff.mp (structUnpack_eq_ok.mp hvalues)).trans ?_
    refine congrArg (pack wavHeaderFormat) ?_
    exact Prod.ext (magic_eq rfl hriffMagic) <| Prod.ext (Fin.ext hriff) <|
      Prod.ext (magic_eq rfl hwaveMagic) <| Prod.ext (magic_eq rfl hfmtMagic) <|
      Prod.ext (Fin.ext (beq_iff_eq.mp hfmtSize)) <|
      Prod.ext (Fin.ext (beq_iff_eq.mp haudioFormat)) <|
      Prod.ext (Fin.ext (beq_iff_eq.mp hchannels)) <|
      Prod.ext (Fin.ext (beq_iff_eq.mp hsampleRate)) <|
      Prod.ext (Fin.ext (beq_iff_eq.mp hbyteRate)) <|
      Prod.ext (Fin.ext (beq_iff_eq.mp hblockAlign)) <|
      Prod.ext (Fin.ext (beq_iff_eq.mp hbitsPerSample)) <|
      Prod.ext (magic_eq rfl hdataMagic) rfl
  refine ⟨dataSize.val, file.drop 44, ?_, ?_, hbound, ?_, ?_, ?_⟩
  · simpa [Nat.pos_iff_ne_zero] using hnonempty
  · exact beq_iff_eq.mp haligned
  · rw [List.length_drop, hn]
  · rw [← hcanonical, List.take_append_drop]
  · exact hinfo

/-- A file with the canonical header is accepted. -/
theorem readHeliboardWavInfo_canonicalHeader {data : List UInt8} (hpos : data ≠ [])
    (heven : data.length % 2 = 0) (hbound : data.length + 36 < 2 ^ 32) :
    readHeliboardWavInfo (canonicalHeader data.length ++ data).length
        (canonicalHeader data.length ++ data) =
      .ok { durationSeconds := data.length / 32000, dataSize := data.length } := by
  have hlength : (canonicalHeader data.length ++ data).length = 44 + data.length := by
    rw [List.length_append, length_canonicalHeader]
  have hheader : (canonicalHeader data.length ++ data).take HELIBOARD_WAV_HEADER_BYTES =
      canonicalHeader data.length := List.take_left' (length_canonicalHeader _)
  have hvalues : structUnpack wavHeaderFormat (canonicalHeader data.length) =
      .ok (canonicalValues data.length hbound) :=
    structUnpack_eq_ok.mpr (unpack_eq_some_iff.mpr (pack_canonicalValues _ _).symm)
  unfold readHeliboardWavInfo
  rw [hheader, hlength]
  have hlong : ¬ 44 + data.length < HELIBOARD_WAV_HEADER_BYTES := by
    simp only [HELIBOARD_WAV_HEADER_BYTES]
    omega
  refine require_bind_eq_ok.mpr ⟨by simp [hlong], ?_⟩
  refine require_bind_eq_ok.mpr ⟨beq_iff_eq.mpr (length_canonicalHeader _), ?_⟩
  rw [hvalues]
  rw [ok_bind]
  dsimp only [canonicalValues]
  refine require_bind_eq_ok.mpr ⟨rfl, ?_⟩
  refine require_bind_eq_ok.mpr ⟨beq_iff_eq.mpr ?_, ?_⟩
  · show data.length + 36 = 44 + data.length - 8
    omega
  iterate 10 refine require_bind_eq_ok.mpr ⟨rfl, ?_⟩
  refine require_bind_eq_ok.mpr ⟨beq_iff_eq.mpr ?_, ?_⟩
  · show data.length = 44 + data.length - 44
    omega
  refine require_bind_eq_ok.mpr ⟨?_, ?_⟩
  · show (!(data.length == 0)) = true
    simpa using hpos
  exact require_bind_eq_ok.mpr ⟨beq_iff_eq.mpr heven, rfl⟩

/-! ## The claim for all files -/

/-- **The parser accepts the canonical files**, and raises `ValueError` on all others.
So the header of what is accepted is a function of its length, and samples with the
header in front of them are read back as that many bytes. -/
theorem wav_accepted_iff (file : List UInt8) :
    (∀ info, readHeliboardWavInfo file.length file = .ok info ↔
      ∃ n data, 0 < n ∧ n % 2 = 0 ∧ n + 36 < 2 ^ 32 ∧ data.length = n ∧
        file = canonicalHeader n ++ data ∧
        info = { durationSeconds := n / 32000, dataSize := n }) ∧
      (∀ e, readHeliboardWavInfo file.length file = .error e →
        ∃ message, e = .valueError message) ∧
      (∀ info, readHeliboardWavInfo file.length file = .ok info →
        file.take 44 = canonicalHeader (file.length - 44)) ∧
      ∀ pcm : List UInt8, pcm ≠ [] → pcm.length % 2 = 0 → pcm.length + 36 < 2 ^ 32 →
        (readHeliboardWavInfo (canonicalHeader pcm.length ++ pcm).length
            (canonicalHeader pcm.length ++ pcm)).map HeliboardWavInfo.dataSize =
          .ok pcm.length := by
  refine ⟨fun info => ⟨eq_of_readHeliboardWavInfo, ?_⟩,
    isValueError_readHeliboardWavInfo file.length file, fun info h => ?_,
    fun pcm hpos heven hbound => ?_⟩
  · rintro ⟨n, data, hpos, heven, hbound, rfl, rfl, rfl⟩
    exact readHeliboardWavInfo_canonicalHeader (List.length_pos_iff.mp hpos) heven hbound
  · obtain ⟨n, data, -, -, -, rfl, rfl, -⟩ := eq_of_readHeliboardWavInfo h
    rw [List.length_append, length_canonicalHeader, Nat.add_sub_cancel_left]
    exact List.take_left' (length_canonicalHeader _)
  · rw [readHeliboardWavInfo_canonicalHeader hpos heven hbound]
    rfl

/-- One sample. -/
theorem wav_accepted_iff_one :
    (readHeliboardWavInfo (canonicalHeader [0x34, 0x12].length ++ [0x34, 0x12]).length
      (canonicalHeader [0x34, 0x12].length ++ [0x34, 0x12])).map HeliboardWavInfo.dataSize =
        .ok 2 :=
  (wav_accepted_iff []).2.2.2 [0x34, 0x12] (by decide) (by decide) (by decide)

end VibeVoice
