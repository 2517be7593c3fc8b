import VibeVoice.Client.Pin
import VibeVoice.Semantics.Effect

/-!
# The material of a client

A CA certificate, a client certificate and a private key, and the checks that
`validate_client_auth_artifacts` of `generate_client_cert.py` and
`_validate_client_material` of `generate_client_bundle.py` both make of them.  The two
scripts have the checks in the same order and differ in what they say (`MaterialTexts`).

Certificates are records.  What the `cryptography` package does with keys, signatures and
PEM is a parameter, `Cryptography`.  What is accepted is `SoundMaterial`, check by check
(`checkMaterial_eq_ok_iff`).

Certificates have their times in seconds, and a clock is read in microseconds.
-/

namespace VibeVoice

namespace Scripts

open Client

/-! ## Certificates -/

/-- A public key. -/
structure PublicKey where
  /-- `curve.name`, if it is an EC key. -/
  curve : Option String
  /-- `public_numbers()` -/
  numbers : ℤ × ℤ
  deriving DecidableEq

/-- `x509.Name`: attributes by their OIDs. -/
abbrev Name := List (String × String)

/-- `x509.BasicConstraints` -/
structure BasicConstraints where
  ca : Bool
  pathLength : Option ℕ
  deriving DecidableEq

/-- `x509.KeyUsage` -/
structure KeyUsage where
  digitalSignature : Bool
  contentCommitment : Bool
  keyEncipherment : Bool
  dataEncipherment : Bool
  keyAgreement : Bool
  keyCertSign : Bool
  crlSign : Bool
  encipherOnly : Bool
  decipherOnly : Bool
  deriving DecidableEq

/-- What is signed of a certificate.  The times are seconds. -/
structure TbsCertificate where
  subject : Name
  issuer : Name
  publicKey : PublicKey
  serialNumber : ℕ
  notValidBefore : ℤ
  notValidAfter : ℤ
  basicConstraints : Option BasicConstraints
  keyUsage : Option KeyUsage
  extendedKeyUsage : Option (List String)
  deriving DecidableEq

/-- `x509.Certificate` -/
structure Certificate where
  tbs : TbsCertificate
  signatureHashAlgorithm : Option String
  signature : List UInt8
  deriving DecidableEq

/-- What the `cryptography` package does.  What is in a file, `B`, is not looked at otherwise. -/
structure Cryptography (B : Type) where
  /-- A private key. -/
  Key : Type
  publicKey : Key → PublicKey
  /-- `builder.sign(key, algorithm)`, of which this is the signature. -/
  sign : Key → TbsCertificate → String → List UInt8
  /-- `public_key.verify(signature, data, ec.ECDSA(algorithm))`, or `InvalidSignature` -/
  verify : PublicKey → List UInt8 → TbsCertificate → String → Bool
  /-- `public_bytes(serialization.Encoding.PEM)` -/
  certificatePem : Certificate → B
  /-- `private_bytes`, in PEM and PKCS #8 and not encrypted. -/
  privateKeyPem : Key → B
  loadPemX509Certificate : B → Except PyException Certificate
  /-- `load_pem_private_key`, without a password. -/
  loadPemPrivateKey : B → Except PyException Key
  /-- `x509.Name([x509.NameAttribute(NameOID.COMMON_NAME, value)])` -/
  commonName : String → Except PyException Name

/-- `ExtendedKeyUsageOID.CLIENT_AUTH` -/
def CLIENT_AUTH : String := "1.3.6.1.5.5.7.3.2"

/-- `ec.SECP256R1().name` -/
def SECP256R1 : String := "secp256r1"

/-- A second. -/
def MICROSECONDS : ℤ := 1000000

/-! ## The checks -/

/-- Raise a `ValueError` if the condition holds. -/
def raiseIf (condition : Bool) (text : String) : Except PyException Unit :=
  if condition then .error (valueError text) else .ok ()

/-- `extensions.get_extension_for_class(…).value` -/
def getExtension {α : Type} (className : String) : Option α → Except PyException α
  | none => .error ⟨"ExtensionNotFound",
      "No <class 'cryptography.x509.extensions." ++ className ++ "'> extension was found"⟩
  | some value => .ok value

variable {B : Type} (crypto : Cryptography B)

/-- What both scripts call `_load_ec_public_key_from_cert`: the text says `what` it is that has
another curve, and how. -/
def ecPublicKeyFromCert (what verb : String) (raw : B) :
    Except PyException (Certificate × PublicKey) := do
  let cert ← crypto.loadPemX509Certificate raw
  match cert.tbs.publicKey.curve with
  | none => .error (valueError (what ++ " does not contain an EC public key"))
  | some curve =>
    raiseIf (curve != SECP256R1) (what ++ verb ++ curve ++ ", expected secp256r1")
    return (cert, cert.tbs.publicKey)

/-- What both call `_load_ec_private_key`. -/
def ecPrivateKey (what verb : String) (raw : B) : Except PyException crypto.Key := do
  let key ← crypto.loadPemPrivateKey raw
  match (crypto.publicKey key).curve with
  | none => .error (valueError (what ++ " is not an EC private key"))
  | some curve =>
    raiseIf (curve != SECP256R1) (what ++ verb ++ curve ++ ", expected secp256r1")
    return key

/-- `_verify_cert_signature` -/
def verifyCertSignature (cert : Certificate) (issuerPublicKey : PublicKey) (label : String) :
    Except PyException Unit :=
  match cert.signatureHashAlgorithm with
  | none => .error (valueError (label ++ " signature hash algorithm is unavailable"))
  | some algorithm =>
    raiseIf (!crypto.verify issuerPublicKey cert.signature cert.tbs algorithm)
      (label ++ " signature is invalid")

/-- The loop over the two certificates, of one of them. -/
def checkValidity (now : ℤ) (cert : Certificate) (label : String) : Except PyException Unit := do
  raiseIf (cert.tbs.notValidBefore * MICROSECONDS - 60 * MICROSECONDS > now)
    (label ++ " is not valid yet")
  raiseIf (cert.tbs.notValidAfter * MICROSECONDS ≤ now) (label ++ " is expired")

/-- What a script says. -/
structure MaterialTexts where
  keyMismatch : String
  caConstraints : String
  caUsage : String
  caLabel : String
  issuer : String
  clientLabel : String
  clientConstraints : String
  clientUsage : String
  clientEku : String

/-- **The checks of both scripts**, of what they have loaded. -/
def checkMaterial (texts : MaterialTexts) (now : ℤ) (ca client : Certificate × PublicKey)
    (clientKey : crypto.Key) : Except PyException Unit := do
  raiseIf ((crypto.publicKey clientKey).numbers != client.2.numbers) texts.keyMismatch
  checkValidity now ca.1 "client CA certificate"
  checkValidity now client.1 "client certificate"
  let caBasic ← getExtension "BasicConstraints" ca.1.tbs.basicConstraints
  raiseIf (!caBasic.ca || caBasic.pathLength != some 0) texts.caConstraints
  let caUsage ← getExtension "KeyUsage" ca.1.tbs.keyUsage
  raiseIf (!caUsage.keyCertSign || !caUsage.crlSign) texts.caUsage
  verifyCertSignature crypto ca.1 ca.2 texts.caLabel
  raiseIf (client.1.tbs.issuer != ca.1.tbs.subject) texts.issuer
  verifyCertSignature crypto client.1 ca.2 texts.clientLabel
  let clientBasic ← getExtension "BasicConstraints" client.1.tbs.basicConstraints
  raiseIf clientBasic.ca texts.clientConstraints
  let clientUsage ← getExtension "KeyUsage" client.1.tbs.keyUsage
  raiseIf (!clientUsage.digitalSignature || clientUsage.keyCertSign || clientUsage.crlSign)
    texts.clientUsage
  let clientEku ← getExtension "ExtendedKeyUsage" client.1.tbs.extendedKeyUsage
  raiseIf (!clientEku.contains CLIENT_AUTH) texts.clientEku

/-! ## What is accepted -/

/-- The time is between the times of a certificate, with a minute in front of them. -/
def InTime (now : ℤ) (cert : Certificate) : Prop :=
  cert.tbs.notValidBefore * MICROSECONDS - 60 * MICROSECONDS ≤ now ∧
    now < cert.tbs.notValidAfter * MICROSECONDS

/-- The signature is one of the key. -/
def SignedBy (publicKey : PublicKey) (cert : Certificate) : Prop :=
  ∃ algorithm, cert.signatureHashAlgorithm = some algorithm ∧
    crypto.verify publicKey cert.signature cert.tbs algorithm = true

/-- **Material in which one thing fits the other.** -/
structure SoundMaterial (now : ℤ) (ca client : Certificate × PublicKey) (clientKey : crypto.Key) :
    Prop where
  key : (crypto.publicKey clientKey).numbers = client.2.numbers
  caInTime : InTime now ca.1
  clientInTime : InTime now client.1
  caConstraints : ca.1.tbs.basicConstraints = some ⟨true, some 0⟩
  caUsage : ∃ usage, ca.1.tbs.keyUsage = some usage ∧
    usage.keyCertSign = true ∧ usage.crlSign = true
  caSigned : SignedBy crypto ca.2 ca.1
  issuer : client.1.tbs.issuer = ca.1.tbs.subject
  clientSigned : SignedBy crypto ca.2 client.1
  clientConstraints : ∃ basic, client.1.tbs.basicConstraints = some basic ∧ basic.ca = false
  clientUsage : ∃ usage, client.1.tbs.keyUsage = some usage ∧
    usage.digitalSignature = true ∧ usage.keyCertSign = false ∧ usage.crlSign = false
  clientEku : ∃ eku, client.1.tbs.extendedKeyUsage = some eku ∧ CLIENT_AUTH ∈ eku

variable {crypto} {α β : Type}

theorem raiseIf_eq_ok_iff {condition : Bool} {text : String} :
    raiseIf condition text = .ok () ↔ condition = false := by
  cases condition
  · exact iff_of_true rfl rfl
  · exact iff_of_false nofun nofun

/-- A check, and what comes after it. -/
theorem seq_eq_ok_iff {x : Except PyException Unit} {f : Unit → Except PyException β} {b : β} :
    (x >>= f) = .ok b ↔ x = .ok () ∧ f () = .ok b := by
  rw [Effect.except_bind_eq_ok]
  exact ⟨fun ⟨_, h⟩ => h, fun h => ⟨(), h⟩⟩

theorem getExtension_bind_eq_ok_iff {className : String} {value : Option α}
    {f : α → Except PyException β} {b : β} :
    (getExtension className value >>= f) = .ok b ↔ ∃ a, value = some a ∧ f a = .ok b := by
  cases value with
  | none => exact iff_of_false nofun fun ⟨_, h, _⟩ => nomatch h
  | some a => exact ⟨fun h => ⟨a, rfl, h⟩, fun ⟨_, ha, h⟩ => Option.some_inj.mp ha ▸ h⟩

theorem checkValidity_eq_ok_iff {now : ℤ} {cert : Certificate} {label : String} :
    checkValidity now cert label = .ok () ↔ InTime now cert := by
  rw [checkValidity, seq_eq_ok_iff, raiseIf_eq_ok_iff, raiseIf_eq_ok_iff, decide_eq_false_iff_not,
    decide_eq_false_iff_not, not_lt, not_le, InTime]

theorem verifyCertSignature_eq_ok_iff {cert : Certificate} {publicKey : PublicKey}
    {label : String} :
    verifyCertSignature crypto cert publicKey label = .ok () ↔ SignedBy crypto publicKey cert := by
  unfold verifyCertSignature SignedBy
  cases cert.signatureHashAlgorithm with
  | none => exact iff_of_false nofun fun ⟨_, h, _⟩ => nomatch h
  | some algorithm =>
    simp only [raiseIf_eq_ok_iff, Bool.not_eq_false', Option.some.injEq, exists_eq_left']

/-- **The checks accept sound material and no other**, whatever they say of it. -/
theorem checkMaterial_eq_ok_iff {texts : MaterialTexts} {now : ℤ}
    {ca client : Certificate × PublicKey} {clientKey : crypto.Key} :
    checkMaterial crypto texts now ca client clientKey = .ok () ↔
      SoundMaterial crypto now ca client clientKey := by
  rw [checkMaterial]
  simp only [seq_eq_ok_iff, getExtension_bind_eq_ok_iff, raiseIf_eq_ok_iff,
    checkValidity_eq_ok_iff, verifyCertSignature_eq_ok_iff, bne_eq_false_iff_eq,
    Bool.or_eq_false_iff, Bool.not_eq_false', List.contains_iff_mem]
  constructor
  · rintro ⟨hkey, hca, hclient, ⟨ca', path⟩, hbasic, ⟨rfl, hpath⟩, usage, husage, hsign, hsigned,
      hissuer, hclientSigned, basic, hclientBasic, hnot, clientUsage, hclientUsage,
      ⟨⟨hdigital, hcert⟩, hcrl⟩, eku, heku, hauth⟩
    exact ⟨hkey, hca, hclient, hpath ▸ hbasic, ⟨usage, husage, hsign⟩, hsigned, hissuer,
      hclientSigned, ⟨basic, hclientBasic, hnot⟩,
      ⟨clientUsage, hclientUsage, hdigital, hcert, hcrl⟩, ⟨eku, heku, hauth⟩⟩
  · rintro ⟨hkey, hca, hclient, hbasic, ⟨usage, husage, hsign⟩, hsigned, hissuer, hclientSigned,
      ⟨basic, hclientBasic, hnot⟩, ⟨clientUsage, hclientUsage, hdigital, hcert, hcrl⟩,
      ⟨eku, heku, hauth⟩⟩
    exact ⟨hkey, hca, hclient, _, hbasic, ⟨rfl, rfl⟩, usage, husage, hsign, hsigned, hissuer,
      hclientSigned, basic, hclientBasic, hnot, clientUsage, hclientUsage,
      ⟨⟨hdigital, hcert⟩, hcrl⟩, eku, heku, hauth⟩

end Scripts

end VibeVoice
