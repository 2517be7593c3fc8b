import VibeVoice.Proxy.Identity
import VibeVoice.Semantics.Effect

/-!
# The certificate of the proxy

`generate_self_signed_cert`, `write_server_spki_pin`, `check_cert_expiry` and
`build_tls_config`: what the proxy does with its four files.

The files are named by what they are for.  Every call to the operating system has a
name (`Site`), and what becomes of it is handed in (`Faults`): it is done, or it fails,
and a write that fails leaves the file alone or leaves something in it.  So a failure
can be put anywhere.  What a function did to the files before it failed stays done.

PEM, X.509 and the checks of rustls are in crates, which are handed in as well
(`CertCrates`).  Randomness is an argument.
-/

namespace VibeVoice

namespace Proxy

/-! ## Files -/

/-- The private key, as `symlink_metadata` sees it and as it is read. -/
structure KeyFile where
  content : List UInt8
  mode : ℕ
  /-- `is_file`, and not a symlink. -/
  regular : Bool
  deriving DecidableEq

/-- The files of the proxy. -/
structure Files where
  cert : Option (List UInt8)
  key : Option KeyFile
  pin : Option (List UInt8)
  clientCa : Option (List UInt8)
  deriving DecidableEq

/-- The calls to the operating system, in the order of the source. -/
inductive Site where
  /-- `check_cert_expiry` -/
  | checkCert
  /-- `generate_self_signed_cert` -/
  | certDir | keyDir | keyDirMode | keyMetadata | readKey | writeKey | keyMode | writeCert
  /-- `write_server_spki_pin` -/
  | pinReadCert | pinDir | writePin
  /-- `build_tls_config` -/
  | loadCert | loadKey | loadClientCa
  /-- `tls_config.write()` -/
  | lock
  deriving DecidableEq

/-- What becomes of a call. -/
inductive Outcome where
  | done
  /-- A write that fails leaves the file alone, or leaves `left` in it. -/
  | failed (left : Option (List UInt8))
  deriving DecidableEq

/-- What becomes of the calls. -/
abbrev Faults := Site → Outcome

/-- A computation on the files. -/
abbrev OnFiles (α : Type) := Effect String Files α

/-! ## Crates -/

/-- `Pem` -/
structure Pem where
  label : String
  contents : List UInt8
  deriving DecidableEq

/-- A parsed certificate.  Times are nanoseconds. -/
structure X509 where
  /-- The first common name of the subject, if it is a string. -/
  commonName : Option String
  /-- `subject_alternative_name().ok().flatten().is_some()` -/
  subjectAlternativeName : Bool
  notBefore : ℤ
  notAfter : ℤ
  /-- `tbs_certificate.subject_pki.raw` -/
  subjectPki : List UInt8
  deriving DecidableEq

/-- `Validity::time_to_expiration` -/
def X509.timeToExpiration (x509 : X509) (now : ℤ) : Option ℤ :=
  if x509.notBefore ≤ now ∧ now ≤ x509.notAfter then
    if x509.notAfter > now then some (x509.notAfter - now) else none
  else none

/-- `CertificateParams`, as far as they are set. -/
structure CertificateParams where
  commonName : String
  notBefore : ℤ
  notAfter : ℤ
  deriving DecidableEq

/-- What the crates do. -/
structure CertCrates where
  /-- `Pem::iter_from_buffer` -/
  pemIter : List UInt8 → List (Except String Pem)
  /-- `Pem::parse_x509` -/
  parseX509 : List UInt8 → Except String X509
  /-- `digest::digest(&digest::SHA256, …)` -/
  sha256 : List UInt8 → Vector UInt8 32
  /-- `STANDARD.encode` -/
  base64 : List UInt8 → String
  /-- `KeyPair::from_pem`; a key pair is its PKCS #8 bytes. -/
  keyPairFromPem : List UInt8 → Except String (List UInt8)
  /-- `KeyPair::generate_for` -/
  generateKeyPair : List UInt8 → Except String (List UInt8)
  /-- `KeyPair::serialize_pem` -/
  serializePem : List UInt8 → List UInt8
  /-- `CertificateParams::self_signed`, and `Certificate::pem` -/
  selfSigned : List UInt8 → CertificateParams → List UInt8 → Except String (List UInt8)
  /-- `CertificateDer::pem_slice_iter`, collected. -/
  certificates : List UInt8 → Except String (List (List UInt8))
  /-- `PrivateKeyDer::pem_slice_iter` -/
  privateKeys : List UInt8 → List (Except String (List UInt8))
  /-- `RootCertStore::add_parsable_certificates`: how many are valid, how many are not. -/
  addParsableCertificates : List (List UInt8) → ℕ × ℕ
  /-- `WebPkiClientVerifier::builder(…).build()` -/
  buildVerifier : List (List UInt8) → Except String Unit
  /-- `with_single_cert` -/
  withSingleCert : List (List UInt8) → List UInt8 → Except String Unit

/-- `rustls::ServerConfig`, by what it is built from. -/
structure TlsConfig where
  certChain : List (List UInt8)
  key : List UInt8
  clientRoots : List (List UInt8)
  deriving DecidableEq

/-- `SERVER_CERT_COMMON_NAME` -/
def SERVER_CERT_COMMON_NAME : String := "VVV Sovereign Server"

/-- `SERVER_SPKI_PIN_PREFIX` -/
def SERVER_SPKI_PIN_PREFIX : String := "sha256/"

/-- One day. -/
def NANOSECONDS_PER_DAY : ℤ := 86400 * 1000000000

/-! ## Calls -/

/-- A call that has no effect on the four files. -/
def call (faults : Faults) (site : Site) (message : String) : OnFiles Unit :=
  match faults site with
  | .done => pure ()
  | .failed _ => .throw message

/-- What a write leaves. -/
def Outcome.written (outcome : Outcome) (old new : Option (List UInt8)) : Option (List UInt8) :=
  match outcome with
  | .done => new
  | .failed none => old
  | .failed (some left) => some left

/-- The error of a call. -/
def Outcome.error (outcome : Outcome) (message : String) : Option String :=
  match outcome with
  | .done => none
  | .failed _ => some message

/-- `fs::read`, of a file that may be missing. -/
def readFile (faults : Faults) (site : Site) (file : Option (List UInt8)) (message : String) :
    Except String (List UInt8) :=
  match faults site, file with
  | .done, some content => .ok content
  | _, _ => .error message

variable (crates : CertCrates) (faults : Faults) (now : ℤ) (validityDays : ℕ)
  (entropy : List UInt8)

/-! ## `generate_self_signed_cert` -/

/-- The parameters of the certificate. -/
def certificateParams : CertificateParams where
  commonName := SERVER_CERT_COMMON_NAME
  notBefore := now
  notAfter := now + validityDays * NANOSECONDS_PER_DAY

/-- The key that is there. -/
def existingKeyPair (file : KeyFile) : OnFiles (List UInt8) := do
  call faults .keyMetadata "Failed to inspect key"
  .require file.regular "Server key must be a regular file"
  .require (file.mode == 0o600) "Server key mode, expected 600"
  let pem ← .ofExcept (readFile faults .readKey (some file.content) "Failed to read existing key")
  .ofExcept (crates.keyPairFromPem pem)

/-- A new key, which is written. -/
def createdKeyPair : OnFiles (List UInt8) := do
  let keyPair ← .ofExcept (crates.generateKeyPair entropy)
  .change (fun files => { files with
      key := ((faults .writeKey).written none (some (crates.serializePem keyPair))).map
        fun content => { content := content, mode := 0o600, regular := true } })
    ((faults .writeKey).error "Failed to write key")
  call faults .keyMode "Failed to restrict key permissions"
  return keyPair

/-- The key of the server. -/
def serverKeyPair : OnFiles (List UInt8) := do
  match (← .get).key with
  | some file => existingKeyPair crates faults file
  | none => createdKeyPair crates faults entropy

/-- `generate_self_signed_cert`, up to the certificate. -/
def newCertificate : OnFiles (List UInt8) := do
  call faults .certDir "Failed to create cert directory"
  call faults .keyDir "Failed to create key directory"
  call faults .keyDirMode "Failed to restrict key directory permissions"
  let keyPair ← serverKeyPair crates faults entropy
  .ofExcept (crates.selfSigned entropy (certificateParams now validityDays) keyPair)

/-- `generate_self_signed_cert` -/
def generateSelfSignedCert : OnFiles Unit := do
  let pem ← newCertificate crates faults now validityDays entropy
  .change (fun files => { files with cert := (faults .writeCert).written files.cert (some pem) })
    ((faults .writeCert).error "Failed to write cert")

/-! ## The pin -/

/-- The pin of a public key. -/
def spkiPin (subjectPki : List UInt8) : String :=
  SERVER_SPKI_PIN_PREFIX ++ crates.base64 (crates.sha256 subjectPki).toList

/-- The loop of `server_spki_pin_from_cert_path`. -/
def serverSpkiPin : List (Except String Pem) → Except String String
  | [] => .error "server certificate PEM does not contain a CERTIFICATE block"
  | .error e :: _ => .error ("invalid certificate PEM: " ++ e)
  | .ok pem :: rest =>
    if pem.label ≠ "CERTIFICATE" then serverSpkiPin rest
    else
      match crates.parseX509 pem.contents with
      | .error e => .error ("invalid X.509 server certificate: " ++ e)
      | .ok x509 => .ok (spkiPin crates x509.subjectPki)

/-- What the pin file holds. -/
def pinLine (pin : String) : List UInt8 := latin1Encode (pin ++ "\n")

/-- `write_server_spki_pin` -/
def writeServerSpkiPin : OnFiles String := do
  let certData ← .ofExcept (readFile faults .pinReadCert (← .get).cert "Failed to read cert")
  let pin ← .ofExcept (serverSpkiPin crates (crates.pemIter certData))
  call faults .pinDir "Failed to create pin directory"
  .change (fun files => { files with
      pin := (faults .writePin).written files.pin (some (pinLine pin)) })
    ((faults .writePin).error "Failed to write server SPKI pin")
  return pin

/-! ## `check_cert_expiry` -/

/-- How long a certificate file is still good for. -/
def certExpiry (certData : List UInt8) : Option ℤ :=
  match (crates.pemIter certData).head? with
  | some (.ok pem) =>
    match crates.parseX509 pem.contents with
    | .error _ => none
    | .ok x509 =>
      match x509.commonName with
      | none => none
      | some commonName =>
        if commonName ≠ SERVER_CERT_COMMON_NAME then none
        else if x509.subjectAlternativeName then none
        else
          match x509.timeToExpiration now with
          | none => none
          | some remaining => if remaining / 1000000000 < 0 then none else some remaining
  | _ => none

/-- `check_cert_expiry` -/
def checkCertExpiry (files : Files) : Option ℤ :=
  match readFile faults .checkCert files.cert "" with
  | .error _ => none
  | .ok certData => certExpiry crates now certData

/-! ## `build_tls_config` -/

/-- What is read by `load_pem_certificate_chain`. -/
def pemCertificateChain (data : List UInt8) : Except String (List (List UInt8)) :=
  match crates.certificates data with
  | .error _ => .error "Failed to parse certificate PEM"
  | .ok [] => .error "Certificate file contained no certificates"
  | .ok certs => .ok certs

/-- The loop of `load_single_pem_private_key`. -/
def singlePemPrivateKey : Option (List UInt8) → List (Except String (List UInt8)) →
    Except String (List UInt8)
  | none, [] => .error "Private key file contained no keys"
  | some key, [] => .ok key
  | _, .error _ :: _ => .error "Failed to parse private key PEM"
  | none, .ok key :: rest => singlePemPrivateKey (some key) rest
  | some _, .ok _ :: _ => .error "Private key file contained multiple keys"

/-- What is read by `load_client_root_store`. -/
def clientRootStore (data : List UInt8) : Except String (List (List UInt8)) :=
  match pemCertificateChain crates data with
  | .error e => .error e
  | .ok certs =>
    let (valid, invalid) := crates.addParsableCertificates certs
    if valid == 0 || invalid != 0 then .error "Client CA file had invalid certificates"
    else .ok certs

/-- `build_tls_config` -/
def buildTlsConfig (files : Files) : Except String TlsConfig := do
  let certData ← readFile faults .loadCert files.cert "Failed to read certificate file"
  let certChain ← pemCertificateChain crates certData
  let keyData ← readFile faults .loadKey (files.key.map KeyFile.content)
    "Failed to read private key file"
  let key ← singlePemPrivateKey none (crates.privateKeys keyData)
  let caData ← readFile faults .loadClientCa files.clientCa "Failed to read certificate file"
  let clientRoots ← clientRootStore crates caData
  crates.buildVerifier clientRoots
  crates.withSingleCert certChain key
  return { certChain := certChain, key := key, clientRoots := clientRoots }

/-! ## `main` and `cert_renewal_task` -/

/-- Ensure a valid certificate exists. -/
def ensureCertificate : OnFiles Unit := do
  match checkCertExpiry crates faults now (← .get) with
  | some _ => pure ()
  | none => generateSelfSignedCert crates faults now validityDays entropy

/-- The start of `main`, up to the TLS configuration.  An error is a panic. -/
def startup : OnFiles TlsConfig := do
  ensureCertificate crates faults now validityDays entropy
  let _ ← writeServerSpkiPin crates faults
  .ofExcept (buildTlsConfig crates faults (← .get))

/-- One turn of the loop of `cert_renewal_task`, after the sleep. -/
def renewalTurn (files : Files) (shared : TlsConfig) : Files × TlsConfig :=
  match checkCertExpiry crates faults now files with
  | some _ => (files, shared)
  | none =>
    match generateSelfSignedCert crates faults now validityDays entropy files with
    | (.error _, files) => (files, shared)
    | (.ok (), files) =>
      match writeServerSpkiPin crates faults files with
      | (.error _, files) => (files, shared)
      | (.ok _, files) =>
        match buildTlsConfig crates faults files, faults .lock with
        | .ok config, .done => (files, config)
        | _, _ => (files, shared)

end Proxy

end VibeVoice
