import VibeVoice.Proxy.Certificate
import VibeVoice.Semantics.Base64
import VibeVoice.Semantics.Json
import VibeVoice.Server.Transcribe

/-!
# The pin of the server

`_normalize_server_pin`, and the comparison that the client makes after the handshake
(`_PinnedHTTPSConnection.connect`).  The comparison is of two texts, and it should be of
two digests.

It is, because both texts are made by the same function of a digest (`serverPin`), which
is injective: what the client was configured with is decoded and encoded again, so that
of the spellings of a digest, which differ in bits that base64 does not use, none is left
but one (`normalizeServerPin_eq_ok_iff`).  A pin may have whitespace around it.  The
files with pins, whoever writes them, have a line feed at the end and are accepted.
-/

namespace VibeVoice

namespace Client

/-- `_SERVER_PIN_PREFIX` -/
def SERVER_PIN_PREFIX : String := "sha256/"

/-- `_SERVER_PIN_PREFIX + base64.b64encode(digest).decode("ascii")` -/
def serverPin (digest : List UInt8) : String :=
  SERVER_PIN_PREFIX ++ String.ofList (Base64.encode digest)

/-- `ValueError(text)` -/
def valueError (text : String) : PyException := ⟨"ValueError", text⟩

/-- `ssl.SSLError(text)` -/
def sslError (text : String) : PyException := ⟨"SSLError", text⟩

/-- `_normalize_server_pin` -/
def normalizeServerPin (raw : String) : Except PyException String :=
  let value := pyStripChars raw.toList
  if !SERVER_PIN_PREFIX.toList.isPrefixOf value then
    .error (valueError "server pin must start with sha256/")
  else
    match Base64.decode (value.drop SERVER_PIN_PREFIX.toList.length) with
    | none => .error (valueError "server pin is not valid base64")
    | some decoded =>
      if decoded.length ≠ 32 then .error (valueError "server pin must be a SHA-256 hash")
      else .ok (serverPin decoded)

/-! ## The connection -/

/-- The packages that look at a certificate. -/
structure PinCrates where
  /-- `x509.load_der_x509_certificate`, and the `SubjectPublicKeyInfo` of the public key. -/
  spki : List UInt8 → Except PyException (List UInt8)
  /-- `hashlib.sha256(…).digest()` -/
  sha256 : List UInt8 → Vector UInt8 32

variable (crates : PinCrates)

/-- `_spki_pin_from_certificate_der` -/
def spkiPinFromCertificateDer (certDer : List UInt8) : Except PyException String :=
  (crates.spki certDer).map fun spki => serverPin (crates.sha256 spki).toList

/-- `_PinnedHTTPSConnection.connect`: `connected` is what `HTTPSConnection.connect` comes
back with, the socket by the certificate that `getpeercert` returns. -/
def pinnedConnect (expectedPin : String)
    (connected : Except PyException (Option (Option (List UInt8)))) : Except PyException Unit :=
  match connected with
  | .error exc => .error exc
  | .ok none => .error (runtimeError "TLS connection did not produce a socket")
  | .ok (some certDer) =>
    match certDer with
    | none | some [] => .error (sslError "server did not present a certificate")
    | some certDer =>
      match spkiPinFromCertificateDer crates certDer with
      | .error exc => .error exc
      | .ok actualPin =>
        if actualPin ≠ expectedPin then .error (sslError "server public key pin mismatch")
        else .ok ()

/-- `_server_spki_pin` of `generate_cert.py`, of the `SubjectPublicKeyInfo` of the key. -/
def generatedPin (spki : List UInt8) : String := serverPin (crates.sha256 spki).toList

/-! ## What a pin says -/

/-- **The pin of a digest**, in some spelling: the digest in strict base64 behind the
prefix, with whitespace around it or without. -/
def IsPinOf (p : String) (digest : Vector UInt8 32) : Prop :=
  ∃ t, pyStripChars p.toList = SERVER_PIN_PREFIX.toList ++ t ∧
    Base64.decode t = some digest.toList

/-- A text says one digest at most. -/
theorem IsPinOf.unique {p : String} {digest digest' : Vector UInt8 32} (h : IsPinOf p digest)
    (h' : IsPinOf p digest') : digest = digest' := by
  obtain ⟨t, ht, hdecode⟩ := h
  obtain ⟨t', ht', hdecode'⟩ := h'
  obtain rfl := List.append_cancel_left (ht.symm.trans ht')
  exact Vector.toList_inj.mp (Option.some_inj.mp (hdecode.symm.trans hdecode'))

/-- **What is accepted, and what it is made.** -/
theorem normalizeServerPin_eq_ok_iff {p pin : String} : normalizeServerPin p = .ok pin ↔
    ∃ digest, IsPinOf p digest ∧ pin = serverPin digest.toList := by
  simp only [normalizeServerPin, IsPinOf]
  constructor
  · intro h
    split at h
    · cases h
    · rename_i hbegins
      rw [Bool.not_eq_true', Bool.not_eq_false, List.isPrefixOf_iff_prefix] at hbegins
      obtain ⟨t, ht⟩ := hbegins
      rw [← ht, List.drop_left] at h
      cases hdecode : Base64.decode t with
      | none =>
        rw [hdecode] at h
        cases h
      | some decoded =>
        simp only [hdecode] at h
        split at h
        · cases h
        · rename_i hlen
          obtain rfl := Except.ok.inj h
          refine ⟨⟨decoded.toArray, by simpa using hlen⟩, ⟨t, ht.symm, hdecode⟩, rfl⟩
  · rintro ⟨digest, ⟨t, ht, hdecode⟩, rfl⟩
    rw [ht, List.drop_left, hdecode, if_neg (by simp)]
    simp

theorem isPySpace_of_mem_serverPin {digest : List UInt8} {c : Char}
    (h : c ∈ (serverPin digest).toList) : isPySpace c = false := by
  rw [serverPin, String.toList_append, String.toList_ofList] at h
  rcases List.mem_append.mp h with h | h
  · have hbegins : ∀ c ∈ SERVER_PIN_PREFIX.toList, isPySpace c = false := by
      simp [SERVER_PIN_PREFIX, isPySpace]
    exact hbegins c h
  · obtain ⟨hlow, hhigh⟩ := Base64.toNat_of_mem_encode h
    simp only [isPySpace, Bool.or_eq_false_iff, Bool.and_eq_false_iff, decide_eq_false_iff_not,
      beq_eq_false_iff_ne]
    omega

theorem dropWhile_of_forall {α : Type*} {p : α → Bool} {l : List α} (h : ∀ a ∈ l, p a = false) :
    l.dropWhile p = l := by
  cases l with
  | nil => rfl
  | cons a l => exact List.dropWhile_cons_of_neg (by simp [h a List.mem_cons_self])

/-- `strip` takes off what is behind a text without whitespace. -/
theorem pyStripChars_solid {core w : List Char} (hcore : ∀ c ∈ core, isPySpace c = false)
    (hw : ∀ c ∈ w, isPySpace c = true) : pyStripChars (core ++ w) = core := by
  cases core with
  | nil => rw [pyStripChars, List.nil_append, List.dropWhile_eq_nil_iff.mpr hw]; rfl
  | cons c cs =>
    have hhead : (c :: cs ++ w).dropWhile isPySpace = c :: cs ++ w :=
      List.dropWhile_cons_of_neg (by simp [hcore c List.mem_cons_self])
    rw [pyStripChars, hhead, List.reverse_append,
      List.dropWhile_append_of_pos fun d hd => hw d (List.mem_reverse.mp hd),
      dropWhile_of_forall fun d hd => hcore d (List.mem_reverse.mp hd), List.reverse_reverse]

/-- **The pin of a digest says that digest**, with whitespace behind it or without. -/
theorem isPinOf_serverPin (digest : Vector UInt8 32) {w : String}
    (hw : ∀ c ∈ w.toList, isPySpace c = true) :
    IsPinOf (serverPin digest.toList ++ w) digest := by
  refine ⟨Base64.encode digest.toList, ?_, Base64.decode_encode _⟩
  rw [String.toList_append, pyStripChars_solid (fun c hc => isPySpace_of_mem_serverPin hc) hw,
    serverPin, String.toList_append, String.toList_ofList]

theorem serverPin_injective {digest digest' : Vector UInt8 32}
    (h : serverPin digest.toList = serverPin digest'.toList) : digest = digest' := by
  have hchars := congrArg String.toList h
  rw [serverPin, serverPin, String.toList_append, String.toList_append, String.toList_ofList,
    String.toList_ofList] at hchars
  exact Vector.toList_inj.mp (Base64.encode_injective (List.append_cancel_left hchars))

theorem isPinOf_serverPin_self (digest : Vector UInt8 32) :
    IsPinOf (serverPin digest.toList) digest := by
  have h := @isPinOf_serverPin digest "" (by simp)
  rwa [String.append_empty] at h

/-! ## The comparison -/

variable {crates}

/-- The digest that a connection finds in the certificate is compared with the one that
was configured. -/
theorem pinnedConnect_eq_ok_iff {p pin : String} {digest : Vector UInt8 32}
    (hp : IsPinOf p digest) (hpin : normalizeServerPin p = .ok pin) {certDer spki : List UInt8}
    (hcert : certDer ≠ []) (hspki : crates.spki certDer = .ok spki) :
    pinnedConnect crates pin (.ok (some (some certDer))) = .ok () ↔
      crates.sha256 spki = digest := by
  obtain ⟨digest', hp', rfl⟩ := normalizeServerPin_eq_ok_iff.mp hpin
  obtain rfl := hp.unique hp'
  obtain ⟨b, bytes, rfl⟩ := List.exists_cons_of_ne_nil hcert
  have hactual : spkiPinFromCertificateDer crates (b :: bytes) =
      .ok (serverPin (crates.sha256 spki).toList) := by
    rw [spkiPinFromCertificateDer, hspki]
    rfl
  simp only [pinnedConnect, hactual]
  constructor
  · intro h
    split at h
    · cases h
    · rename_i heq
      exact serverPin_injective (Classical.not_not.mp heq)
  · rintro rfl
    rw [if_neg (by simp)]

/-- A pin, and the line feed that ends its file. -/
theorem normalizeServerPin_line (digest : Vector UInt8 32) :
    normalizeServerPin (serverPin digest.toList ++ "\n") = .ok (serverPin digest.toList) :=
  normalizeServerPin_eq_ok_iff.mpr ⟨digest, isPinOf_serverPin digest (by simp [isPySpace]), rfl⟩

/-- What is in the pin file of the proxy, as a text. -/
theorem latin1Decode_pinLine (digest : Vector UInt8 32) :
    latin1Decode (Proxy.pinLine (serverPin digest.toList)) = serverPin digest.toList ++ "\n" := by
  refine latin1Decode_encode fun c hc => ?_
  rw [String.toList_append, serverPin, String.toList_append, String.toList_ofList] at hc
  rcases List.mem_append.mp hc with hc | hc
  · rcases List.mem_append.mp hc with hc | hc
    · have hbegins : ∀ c ∈ SERVER_PIN_PREFIX.toList, c.toNat < 256 := by simp [SERVER_PIN_PREFIX]
      exact hbegins c hc
    · have h := (Base64.toNat_of_mem_encode hc).2
      omega
  · have hend : ∀ c ∈ "\n".toList, c.toNat < 256 := by simp
    exact hend c hc

/-- **The comparison of pins is that of digests.** -/
theorem server_pin_exact (crates : PinCrates) :
    (∀ p pin, normalizeServerPin p = .ok pin ↔
        ∃ digest, IsPinOf p digest ∧ pin = serverPin digest.toList) ∧
      (∀ p pin, normalizeServerPin p = .ok pin → normalizeServerPin pin = .ok pin) ∧
      (∀ p p' digest digest', IsPinOf p digest → IsPinOf p' digest' →
        (normalizeServerPin p = normalizeServerPin p' ↔ digest = digest')) ∧
      (∀ p pin digest certDer spki, IsPinOf p digest → normalizeServerPin p = .ok pin →
        certDer ≠ [] → crates.spki certDer = .ok spki →
          (pinnedConnect crates pin (.ok (some (some certDer))) = .ok () ↔
            crates.sha256 spki = digest)) ∧
      (∀ spki, normalizeServerPin (generatedPin crates spki ++ "\n") =
        .ok (generatedPin crates spki)) ∧
      ∀ proxy : Proxy.CertCrates,
        (∀ bytes, proxy.base64 bytes = String.ofList (Base64.encode bytes)) → ∀ spki,
          normalizeServerPin (latin1Decode (Proxy.pinLine (Proxy.spkiPin proxy spki))) =
            .ok (Proxy.spkiPin proxy spki) := by
  refine ⟨fun _ _ => normalizeServerPin_eq_ok_iff, fun p pin h => ?_,
    fun p p' digest digest' hp hp' => ?_,
    fun _ _ _ _ _ hp hpin hcert hspki => pinnedConnect_eq_ok_iff hp hpin hcert hspki,
    fun spki => normalizeServerPin_line _, fun proxy hbase64 spki => ?_⟩
  · obtain ⟨digest, -, rfl⟩ := normalizeServerPin_eq_ok_iff.mp h
    exact normalizeServerPin_eq_ok_iff.mpr ⟨digest, isPinOf_serverPin_self digest, rfl⟩
  · have h := normalizeServerPin_eq_ok_iff.mpr ⟨digest, hp, rfl⟩
    have h' := normalizeServerPin_eq_ok_iff.mpr ⟨digest', hp', rfl⟩
    rw [h, h', Except.ok.injEq]
    exact ⟨serverPin_injective, fun heq => by rw [heq]⟩
  · have hpin : Proxy.spkiPin proxy spki = serverPin (proxy.sha256 spki).toList := by
      rw [Proxy.spkiPin, hbase64]
      rfl
    rw [hpin, latin1Decode_pinLine, normalizeServerPin_line]

/-- Two spellings of one digest, which differ in bits that are not used, are one pin. -/
theorem server_pin_exact_spellings :
    normalizeServerPin "sha256/AAAAAAAAAAAAAAAAAAAAAAAAAAAAAAAAAAAAAAAAAAA=" =
      normalizeServerPin " sha256/AAAAAAAAAAAAAAAAAAAAAAAAAAAAAAAAAAAAAAAAAAD=\n" :=
  ((server_pin_exact ⟨fun der => .ok der, fun _ => Vector.replicate 32 0⟩).2.2.1 _ _
      (Vector.replicate 32 0) (Vector.replicate 32 0)
      ⟨List.replicate 43 'A' ++ ['='], by decide +kernel, by decide +kernel⟩
      ⟨List.replicate 42 'A' ++ ['D', '='], by decide +kernel, by decide +kernel⟩).mpr rfl

end Client

end VibeVoice
