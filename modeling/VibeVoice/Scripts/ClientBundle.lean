import VibeVoice.Scripts.Material
import VibeVoice.Semantics.PurePath
import VibeVoice.Semantics.PyLines

/-!
# The bundle of a client

`build_client_bundle` of `generate_client_bundle.py`, and what it does with PEM.

`_normalize_pem_block` is to admit a single block.  It looks at the two ends of the text.
So what it passes on begins with the right marker, ends with the right one, is ASCII with
LF, and would be passed on again as it is; but between the markers there may be anything,
also the end of the block and the beginning of another.  Those that load the block look
at the first one and at no more.  `isSinglePemBlock_iff` is what is missing: that no line
between the first and the last looks like a marker, and that the last is a line of its
own.
-/

namespace VibeVoice

namespace Scripts

open Client

/-! ## PEM blocks -/

/-- `f"-----BEGIN {label}-----"` -/
def beginLine (label : String) : List Char :=
  "-----BEGIN ".toList ++ (label.toList ++ "-----".toList)

/-- `f"-----END {label}-----"` -/
def endLine (label : String) : List Char :=
  "-----END ".toList ++ (label.toList ++ "-----".toList)

/-- `value.encode("ascii")`.  What the exception says of the place is left out. -/
def asciiEncode (value : List Char) : Except PyException (List UInt8) :=
  if value.all fun c => c.toNat < 128 then .ok (value.map fun c => c.toNat.toUInt8)
  else .error ⟨"UnicodeEncodeError", "'ascii' codec can't encode: ordinal not in range(128)"⟩

/-- The text of which `_normalize_pem_block` looks at the ends. -/
def pemText (raw : String) : List Char := normalizeNewlines (pyStripChars raw.toList) ++ ['\n']

/-- `_normalize_pem_block` -/
def normalizePemBlock (raw label : String) : Except PyException String :=
  let value := pemText raw
  let begins := beginLine label ++ ['\n']
  let ends := endLine label ++ ['\n']
  if !begins.isPrefixOf value || !ends.isSuffixOf value then
    .error (valueError ("expected a single " ++ label ++ " PEM block"))
  else (asciiEncode value).map fun _ => String.ofList value

/-! ### What is a single block -/

variable {raw label value : String}

/-- **What is accepted.** -/
theorem normalizePemBlock_eq_ok_iff : normalizePemBlock raw label = .ok value ↔
    (beginLine label ++ ['\n'] <+: pemText raw ∧ endLine label ++ ['\n'] <:+ pemText raw) ∧
      (∀ c ∈ pemText raw, c.toNat < 128) ∧ value = String.ofList (pemText raw) := by
  rw [normalizePemBlock, ← List.isPrefixOf_iff_prefix, ← List.isSuffixOf_iff_suffix, asciiEncode]
  split
  · rename_i h
    refine iff_of_false nofun fun hok => ?_
    rw [hok.1.1, hok.1.2] at h
    cases h
  · rename_i h
    simp only [Bool.or_eq_true, Bool.not_eq_true', not_or, Bool.not_eq_false] at h
    split
    · rename_i hascii
      rw [Except.map, Except.ok.injEq]
      refine ⟨fun hvalue => ⟨h, fun c hc => ?_, hvalue.symm⟩, fun hok => hok.2.2.symm⟩
      exact of_decide_eq_true (List.all_eq_true.mp hascii c hc)
    · rename_i hascii
      refine iff_of_false nofun fun hok => hascii (List.all_eq_true.mpr fun c hc => ?_)
      exact decide_eq_true (hok.2.1 c hc)

/-- A hyphen at either end. -/
theorem exists_endLine (label : String) : ∃ w, endLine label = '-' :: (w ++ ['-']) := by
  have hfirst : "-----END ".toList = '-' :: "----END ".toList := by decide
  have hlast : "-----".toList = "----".toList ++ ['-'] := by decide
  refine ⟨"----END ".toList ++ (label.toList ++ "----".toList), ?_⟩
  unfold endLine
  simp only [hfirst, hlast, List.cons_append, List.append_assoc]

/-- `urlparse(…)`, by its attributes. -/
structure ParsedUrl where
  scheme : String
  hostname : Option String
  username : Option String
  password : Option String
  path : String
  query : String
  fragment : String
  /-- `port`, which may raise. -/
  port : Except PyException (Option ℕ)

/-- `_normalize_base_url` of `client.py` -/
def normalizeBaseUrl (urlparse : String → Except PyException ParsedUrl) (raw : String) :
    Except PyException String := do
  let url ← urlparse (pyStrip raw)
  raiseIf (url.scheme != "https") "server URL must be an HTTPS origin"
  let hostname := url.hostname.getD ""
  raiseIf (hostname == "" || url.username.getD "" != "" || url.password.getD "" != "")
    "server URL must include a host and no user info"
  raiseIf (hostname.toList.contains ':')
    "server URL must use an IPv4 address or DNS name, not an IPv6 literal"
  raiseIf (!(["", "/"].contains url.path) || url.query != "" || url.fragment != "")
    "server URL must be an origin, not an endpoint URL"
  match ← url.port with
  | none => return "https://" ++ hostname
  | some port => return "https://" ++ hostname ++ ":" ++ toString port

section Build

variable (crypto : Cryptography (List UInt8)) (urlparse : String → Except PyException ParsedUrl)

/-- `_load_ec_public_key_from_cert` -/
def loadEcPublicKeyFromCert (raw label : String) :
    Except PyException (Certificate × PublicKey) := do
  ecPublicKeyFromCert crypto label " uses " (← asciiEncode raw.toList)

/-- `_load_ec_private_key` -/
def loadEcPrivateKey (raw : String) : Except PyException crypto.Key := do
  ecPrivateKey crypto "client private key" " uses " (← asciiEncode raw.toList)

/-- What `_validate_client_material` says. -/
def bundleTexts : MaterialTexts where
  keyMismatch := "client private key does not match client certificate"
  caConstraints := "client CA certificate must be a path_length=0 CA"
  caUsage := "client CA certificate lacks CA key usage"
  caLabel := "client CA certificate"
  issuer := "client certificate issuer does not match client CA subject"
  clientLabel := "client certificate"
  clientConstraints := "client certificate must not be a CA certificate"
  clientUsage := "client certificate has invalid key usage"
  clientEku := "client certificate lacks clientAuth EKU"

/-- `_validate_client_material` -/
def validateClientMaterial (now : ℤ)
    (clientCertificatePem clientPrivateKeyPem clientCaCertificatePem : String) :
    Except PyException Unit := do
  let ca ← loadEcPublicKeyFromCert crypto clientCaCertificatePem "client CA certificate"
  let client ← loadEcPublicKeyFromCert crypto clientCertificatePem "client certificate"
  let clientKey ← loadEcPrivateKey crypto clientPrivateKeyPem
  checkMaterial crypto bundleTexts now ca client clientKey

/-- `ClientBundle` -/
structure ClientBundle where
  type : String
  version : ℕ
  serverUrl : String
  serverSpkiPin : String
  clientCertificatePem : String
  clientPrivateKeyPem : String
  deriving DecidableEq

def BUNDLE_TYPE : String := "vvv-client-config"
def BUNDLE_VERSION : ℕ := 1

/-- `build_client_bundle`, at the time `now`. -/
def buildClientBundle (now : ℤ) (serverUrl serverSpkiPin clientCertificatePem clientPrivateKeyPem
    clientCaCertificatePem : String) : Except PyException ClientBundle := do
  let normalizedUrl ← normalizeBaseUrl urlparse serverUrl
  let normalizedPin ← normalizeServerPin serverSpkiPin
  let normalizedClientCertificate ← normalizePemBlock clientCertificatePem "CERTIFICATE"
  let normalizedClientPrivateKey ← normalizePemBlock clientPrivateKeyPem "PRIVATE KEY"
  let normalizedClientCaCertificate ← normalizePemBlock clientCaCertificatePem "CERTIFICATE"
  validateClientMaterial crypto now normalizedClientCertificate normalizedClientPrivateKey
    normalizedClientCaCertificate
  return { type := BUNDLE_TYPE
           version := BUNDLE_VERSION
           serverUrl := normalizedUrl
           serverSpkiPin := normalizedPin
           clientCertificatePem := normalizedClientCertificate
           clientPrivateKeyPem := normalizedClientPrivateKey }

variable {crypto} {urlparse} {now : ℤ} {serverUrl serverSpkiPin clientCertificatePem
  clientPrivateKeyPem clientCaCertificatePem : String} {bundle : ClientBundle}

end Build

/-- A block with one line in it. -/
def pemBlock (label line : String) : List Char :=
  beginLine label ++ '\n' :: (line.toList ++ '\n' :: (endLine label ++ ['\n']))

def keyText : String := String.ofList (pemBlock "PRIVATE KEY" "Mg==")

end Scripts

end VibeVoice
