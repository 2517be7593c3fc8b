import VibeVoice.Scripts.Material
import VibeVoice.Semantics.FileTree
import VibeVoice.Semantics.Utf8

/-!
# The credential of a client

`_generate_client_auth_artifacts` and `validate_client_auth_artifacts` of
`generate_client_cert.py`.

The first makes a CA certificate, a client certificate and a key, and calls the second on
them.  What it is asked for it checks before, and one check is too weak: a subject of up
to 256 bytes passes, but a common name of more than 64 bytes is refused by the package, and
by then the directories have been made, and the exception is not caught.  That is all
(`generateClientAuthArtifacts_iff`): with at most 64 bytes there is nothing in the way, and
what is written is valid for as long as the certificates are.

## The certificates

The validator asks for certificates that are in time, with their extensions, signed by the
CA, and for the key of the client (`SoundMaterial`).  The generator makes them so
(`soundMaterial_generated`), from the moment it reads the clock until they end; the package
cuts a time down to a second, so they begin a little before it was read, and end a little
before the days are over (`validityEnd`).

## The directories

A directory to generate into is absent or empty (`Target`).  If it is absent it is made with
those above it, and these can be above the other directory, too; all the same the second is a
target still when the first has been made (`Target.of_ready`).  In the end both are there,
with nothing in them (`Prepared`), and the three files can be created.

A file is opened, written and closed, and gets its mode; after the first of these it is there,
whatever becomes of the others (`finishFile_cases`).  In the results about a whole run nothing
fails (`FileTree.Works`).

## The run

What is written is read back by the validator, each file in its place and with its mode
(`Issued`), so it is accepted (`validateClientAuthArtifacts_eq_ok`), at the end of the run and
at any time after it.
-/

namespace VibeVoice

namespace Scripts

open Client

/-! ## The files -/

/-- `str(path)` -/
def pathText (p : PosixPath) : String := "/" ++ "/".intercalate p

/-- The exceptions of the operating system. -/
def osException : OsError → PyException
  | .fileNotFound p =>
    ⟨"FileNotFoundError", "[Errno 2] No such file or directory: '" ++ pathText p ++ "'"⟩
  | .fileExists p => ⟨"FileExistsError", "[Errno 17] File exists: '" ++ pathText p ++ "'"⟩
  | .notADirectory p => ⟨"NotADirectoryError", "[Errno 20] Not a directory: '" ++ pathText p ++ "'"⟩
  | .isADirectory p => ⟨"IsADirectoryError", "[Errno 21] Is a directory: '" ++ pathText p ++ "'"⟩
  | .permission p => ⟨"PermissionError", "[Errno 13] Permission denied: '" ++ pathText p ++ "'"⟩
  | .failed text => ⟨"OSError", text⟩

/-- What `except ValueError` catches. -/
def isValueError (exc : PyException) : Bool :=
  ["ValueError", "UnicodeEncodeError", "UnicodeDecodeError"].contains exc.typeName

/-- What `except OSError` catches. -/
def isOsError (exc : PyException) : Bool :=
  ["OSError", "FileNotFoundError", "FileExistsError", "NotADirectoryError", "IsADirectoryError",
    "PermissionError"].contains exc.typeName

/-- `f"{mode:03o}"` -/
def octal (mode : ℕ) : String :=
  let digits := Nat.toDigits 8 mode
  String.ofList (List.replicate (3 - digits.length) '0' ++ digits)

def CERT_MODE : ℕ := 0o644
def DIR_MODE : ℕ := 0o700
def KEY_MODE : ℕ := 0o600
def MAX_SUBJECT_BYTES : ℕ := 256
def MAX_VALIDITY_DAYS : ℤ := 3650

variable {B : Type}

/-- A computation on the files. -/
abbrev OnTree (B : Type) (α : Type) := Effect PyException (FileTree B) α

/-- `_mode` -/
def modeOf (tree : FileTree B) (path : PosixPath) : Except PyException ℕ :=
  (tree.mode path).mapError osException

/-- `_validate_directory` -/
def validateDirectory (tree : FileTree B) (path : PosixPath) : Except PyException Unit := do
  raiseIf (tree.isSymlink path) (pathText path ++ " is a symlink")
  raiseIf (!tree.isDir path) (pathText path ++ " is not a directory")
  let mode ← modeOf tree path
  raiseIf (mode != DIR_MODE) (pathText path ++ " mode is " ++ octal mode ++ ", expected 700")

/-- `_validate_file` -/
def validateFile (tree : FileTree B) (path : PosixPath) (expectedMode : ℕ) :
    Except PyException Unit := do
  raiseIf (tree.isSymlink path) (pathText path ++ " is a symlink")
  raiseIf (!tree.isFile path) (pathText path ++ " is not a regular file")
  let mode ← modeOf tree path
  raiseIf (mode != expectedMode)
    (pathText path ++ " mode is " ++ octal mode ++ ", expected " ++ octal expectedMode)

section Calls

variable (fails : PosixPath → Faults B) (umask : ℕ)

/-- `_create_or_validate_directory` -/
def createOrValidateDirectory (path : PosixPath) : OnTree B Unit := do
  if (← .get).isThere path then .ofExcept (validateDirectory (← .get) path)
  else
    .mapError osException (FileTree.mkdir fails umask path)
    .mapError osException (FileTree.chmod fails DIR_MODE path)
    .ofExcept (validateDirectory (← .get) path)

/-- `_write_file` -/
def writeFile [EmptyCollection B] (path : PosixPath) (data : B) (mode : ℕ) : OnTree B Unit := do
  .mapError osException (FileTree.openNew fails umask mode path)
  .mapError osException (FileTree.write fails path data)
  .mapError osException (FileTree.chmod fails mode path)

end Calls

/-! ## What is asked for -/

/-- `_validate_subject` -/
def validateSubject (subject : String) : Except PyException Unit := do
  raiseIf (subject == "") "subject must not be empty"
  raiseIf (MAX_SUBJECT_BYTES < (Utf8.encode subject.toList).length)
    ("subject exceeds " ++ toString MAX_SUBJECT_BYTES ++ " bytes")
  raiseIf (subject.toList.any fun char => char.toNat < 0x20 || char.toNat == 0x7F)
    "subject must not contain control characters"

/-- `_validate_days` -/
def validateDays (days : ℤ) : Except PyException Unit :=
  raiseIf (!(1 ≤ days && days ≤ MAX_VALIDITY_DAYS))
    ("--days must be between 1 and " ++ toString MAX_VALIDITY_DAYS)

/-! ## The validator -/

/-- The files. -/
def clientCaCertPath (certsDir : PosixPath) : PosixPath := certsDir.join "client-ca.pem"
def clientCertPath (keysDir : PosixPath) : PosixPath := keysDir.join "client-cert.pem"
def clientKeyPath (keysDir : PosixPath) : PosixPath := keysDir.join "client-key.pem"

section Validator

variable (crypto : Cryptography B)

/-- `_load_ec_public_key_from_cert` -/
def readEcPublicKeyFromCert (tree : FileTree B) (path : PosixPath) :
    Except PyException (Certificate × PublicKey) := do
  ecPublicKeyFromCert crypto (pathText path) " is " (← (tree.read path).mapError osException)

/-- `_load_ec_private_key` -/
def readEcPrivateKey (tree : FileTree B) (path : PosixPath) : Except PyException crypto.Key := do
  ecPrivateKey crypto (pathText path) " is " (← (tree.read path).mapError osException)

/-- What the validator says. -/
def artifactTexts : MaterialTexts where
  keyMismatch := "client-key.pem does not match client-cert.pem"
  caConstraints := "client-ca.pem is not a path_length=0 CA certificate"
  caUsage := "client-ca.pem lacks CA key usage"
  caLabel := "client-ca.pem"
  issuer := "client-cert.pem issuer does not match client-ca.pem subject"
  clientLabel := "client-cert.pem"
  clientConstraints := "client-cert.pem must not be a CA certificate"
  clientUsage := "client-cert.pem has invalid key usage"
  clientEku := "client-cert.pem lacks clientAuth EKU"

/-- `validate_client_auth_artifacts`, at the time `now`. -/
def validateClientAuthArtifacts (now : ℤ) (tree : FileTree B) (certsDir keysDir : PosixPath) :
    Except PyException Unit := do
  validateDirectory tree certsDir
  validateDirectory tree keysDir
  validateFile tree (clientCaCertPath certsDir) CERT_MODE
  validateFile tree (clientCertPath keysDir) CERT_MODE
  validateFile tree (clientKeyPath keysDir) KEY_MODE
  let ca ← readEcPublicKeyFromCert crypto tree (clientCaCertPath certsDir)
  let client ← readEcPublicKeyFromCert crypto tree (clientCertPath keysDir)
  let clientKey ← readEcPrivateKey crypto tree (clientKeyPath keysDir)
  checkMaterial crypto artifactTexts now ca client clientKey

end Validator

/-! ## The generator -/

/-- What a run of the generator finds in the world. -/
structure Surroundings (crypto : Cryptography B) where
  umask : ℕ
  /-- The calls that fail, for reasons that are not on the disk. -/
  fails : PosixPath → Faults B := fun _ => {}
  /-- `datetime.now(UTC)`, when the certificates are made. -/
  now : ℤ
  /-- `datetime.now(UTC)`, when they are validated. -/
  later : ℤ
  /-- `ec.generate_private_key(ec.SECP256R1())` -/
  caKey : crypto.Key
  clientKey : crypto.Key
  /-- They are keys on that curve. -/
  caCurve : (crypto.publicKey caKey).curve = some SECP256R1
  clientCurve : (crypto.publicKey clientKey).curve = some SECP256R1
  /-- `x509.random_serial_number()` -/
  caSerial : ℕ
  clientSerial : ℕ

/-- The dictionary that is returned. -/
inductive GenerateResult where
  /-- `{"error": text}` -/
  | error (text : String) : GenerateResult
  /-- `{"status": "generated", …}` -/
  | generated (clientCaCertPath clientCertPath clientKeyPath : String) : GenerateResult
  deriving DecidableEq

/-- `timedelta(days=days)` -/
def timedelta (days : ℤ) : ℤ := days * 86400 * MICROSECONDS

section Generator

variable (crypto : Cryptography B)

/-- `builder.sign(key, hashes.SHA256())` -/
def signCertificate (key : crypto.Key) (tbs : TbsCertificate) : Certificate :=
  ⟨tbs, some "sha256", crypto.sign key tbs "sha256"⟩

variable (world : Surroundings crypto)

/-- `ca_cert` -/
def caCertificate (caSubject : Name) (days : ℤ) : Certificate :=
  signCertificate crypto world.caKey
    { subject := caSubject
      issuer := caSubject
      publicKey := crypto.publicKey world.caKey
      serialNumber := world.caSerial
      notValidBefore := world.now / MICROSECONDS
      notValidAfter := (world.now + timedelta days) / MICROSECONDS
      basicConstraints := some { ca := true, pathLength := some 0 }
      keyUsage := some
        { digitalSignature := false
          contentCommitment := false
          keyEncipherment := false
          dataEncipherment := false
          keyAgreement := false
          keyCertSign := true
          crlSign := true
          encipherOnly := false
          decipherOnly := false }
      extendedKeyUsage := none }

/-- `client_cert` -/
def clientCertificate (caSubject clientSubject : Name) (days : ℤ) : Certificate :=
  signCertificate crypto world.caKey
    { subject := clientSubject
      issuer := caSubject
      publicKey := crypto.publicKey world.clientKey
      serialNumber := world.clientSerial
      notValidBefore := world.now / MICROSECONDS
      notValidAfter := (world.now + timedelta days) / MICROSECONDS
      basicConstraints := some { ca := false, pathLength := none }
      keyUsage := some
        { digitalSignature := true
          contentCommitment := false
          keyEncipherment := false
          dataEncipherment := false
          keyAgreement := false
          keyCertSign := false
          crlSign := false
          encipherOnly := false
          decipherOnly := false }
      extendedKeyUsage := some [CLIENT_AUTH] }

/-- The first checks of `_generate_client_auth_artifacts`, whose exceptions are caught. -/
def prepareGeneration (certsDir keysDir : PosixPath) (subject : String) (days : ℤ) :
    OnTree B Unit := do
  .ofExcept (validateSubject subject)
  .ofExcept (validateDays days)
  createOrValidateDirectory world.fails world.umask certsDir
  createOrValidateDirectory world.fails world.umask keysDir

/-- The certificates and the key are made and written. -/
def issueArtifacts [EmptyCollection B] (certsDir keysDir : PosixPath) (subject : String)
    (days : ℤ) : OnTree B Unit := do
  let caSubject ← .ofExcept (crypto.commonName "VVV Client Auth CA")
  let caCert := caCertificate crypto world caSubject days
  let clientSubject ← .ofExcept (crypto.commonName subject)
  let clientCert := clientCertificate crypto world caSubject clientSubject days
  writeFile world.fails world.umask (clientCaCertPath certsDir) (crypto.certificatePem caCert)
    CERT_MODE
  writeFile world.fails world.umask (clientCertPath keysDir) (crypto.certificatePem clientCert)
    CERT_MODE
  writeFile world.fails world.umask (clientKeyPath keysDir)
    (crypto.privateKeyPem world.clientKey) KEY_MODE

/-- `_generate_client_auth_artifacts` -/
def generateClientAuthArtifacts [EmptyCollection B] (certsDir keysDir : PosixPath)
    (subject : String) (days : ℤ) : OnTree B GenerateResult := do
  let tree ← .get
  let paths := [clientCaCertPath certsDir, clientCertPath keysDir, clientKeyPath keysDir]
  let existing := paths.filter tree.isThere
  if existing ≠ [] then
    return .error ("Client-auth artifacts already exist: " ++
      ", ".intercalate (existing.map pathText))
  else
    match ← (prepareGeneration crypto world certsDir keysDir subject days).attempt isValueError with
    | some exc => return .error exc.text
    | none =>
      issueArtifacts crypto world certsDir keysDir subject days
      match ← (Effect.ofExcept (validateClientAuthArtifacts crypto world.later (← .get) certsDir
          keysDir)).attempt fun exc => isOsError exc || isValueError exc with
      | some exc =>
        return .error ("Generated client-auth artifacts failed validation: " ++ exc.text)
      | none =>
        return .generated (pathText (clientCaCertPath certsDir)) (pathText (clientCertPath keysDir))
          (pathText (clientKeyPath keysDir))

end Generator

/-! ## What is assumed -/

/-- What the package is known for.  A common name has 1 to 64 bytes. -/
structure Lawful (crypto : Cryptography B) : Prop where
  verify_sign : ∀ key tbs algorithm,
    crypto.verify (crypto.publicKey key) (crypto.sign key tbs algorithm) tbs algorithm = true
  load_certificatePem : ∀ cert,
    crypto.loadPemX509Certificate (crypto.certificatePem cert) = .ok cert
  load_privateKeyPem : ∀ key, crypto.loadPemPrivateKey (crypto.privateKeyPem key) = .ok key
  commonName_of_le : ∀ value : String, value ≠ "" → (Utf8.encode value.toList).length ≤ 64 →
    ∃ name, crypto.commonName value = .ok name
  commonName_of_lt : ∀ value : String, 64 < (Utf8.encode value.toList).length →
    ∃ text, crypto.commonName value = .error (valueError text)

/-- **A directory to generate into**: it is absent or empty, with the right mode, and what is
above it is no file. -/
structure Target (tree : FileTree B) (dir : PosixPath) : Prop where
  free : tree.Open dir
  self : tree dir = none ∨ tree dir = some (.dir DIR_MODE)
  below : ∀ q, dir <+: q → q ≠ dir → tree q = none

/-- When the certificates end. -/
def validityEnd (now days : ℤ) : ℤ := (now + timedelta days) / MICROSECONDS * MICROSECONDS

variable {crypto : Cryptography B} {world : Surroundings crypto} {caSubject clientSubject : Name}
  {days t : ℤ}

/-! ## The certificates -/

theorem signedBy_signCertificate (laws : Lawful crypto) (key : crypto.Key) (tbs : TbsCertificate) :
    SignedBy crypto (crypto.publicKey key) (signCertificate crypto key tbs) :=
  ⟨_, rfl, laws.verify_sign key tbs _⟩

/-- **What is generated is sound** from the first moment to the last. -/
theorem soundMaterial_generated (laws : Lawful crypto) (hfrom : world.now ≤ t)
    (huntil : t < validityEnd world.now days) :
    SoundMaterial crypto t
      (caCertificate crypto world caSubject days, crypto.publicKey world.caKey)
      (clientCertificate crypto world caSubject clientSubject days,
        crypto.publicKey world.clientKey) world.clientKey := by
  have hstart : world.now / MICROSECONDS * MICROSECONDS - 60 * MICROSECONDS ≤ t := by
    unfold MICROSECONDS
    omega
  exact
    { key := rfl
      caInTime := ⟨hstart, huntil⟩
      clientInTime := ⟨hstart, huntil⟩
      caConstraints := rfl
      caUsage := ⟨_, rfl, rfl, rfl⟩
      caSigned := signedBy_signCertificate laws _ _
      issuer := rfl
      clientSigned := signedBy_signCertificate laws _ _
      clientConstraints := ⟨_, rfl, rfl⟩
      clientUsage := ⟨_, rfl, rfl, rfl, rfl⟩
      clientEku := ⟨_, rfl, List.mem_singleton_self _⟩ }

/-- A certificate of an EC key on the right curve is loaded. -/
theorem ecPublicKeyFromCert_eq_ok (laws : Lawful crypto) {cert : Certificate}
    (hcurve : cert.tbs.publicKey.curve = some SECP256R1) (what verb : String) :
    ecPublicKeyFromCert crypto what verb (crypto.certificatePem cert) =
      .ok (cert, cert.tbs.publicKey) := by
  refine Effect.except_bind_eq_ok.mpr ⟨cert, laws.load_certificatePem cert, ?_⟩
  rw [hcurve]
  rfl

theorem ecPrivateKey_eq_ok (laws : Lawful crypto) {key : crypto.Key}
    (hcurve : (crypto.publicKey key).curve = some SECP256R1) (what verb : String) :
    ecPrivateKey crypto what verb (crypto.privateKeyPem key) = .ok key := by
  refine Effect.except_bind_eq_ok.mpr ⟨key, laws.load_privateKeyPem key, ?_⟩
  rw [hcurve]
  rfl

/-! ## The directories -/

variable {fails : PosixPath → Faults B} {tree : FileTree B} {dir path : PosixPath}
  {umask mode : ℕ}

theorem validateDirectory_eq_ok (h : tree dir = some (.dir DIR_MODE)) :
    validateDirectory tree dir = .ok () := by
  have hlink : tree.isSymlink dir = false := by rw [FileTree.isSymlink, h]
  have hdir : tree.isDir dir = true := by rw [FileTree.isDir, FileTree.follow, h]
  have hmode : modeOf tree dir = .ok DIR_MODE := by
    rw [modeOf, FileTree.mode, h]
    rfl
  rw [validateDirectory, hlink, hdir, hmode]
  rfl

theorem validateFile_eq_ok {content : B} (h : tree path = some (.file mode content)) :
    validateFile tree path mode = .ok () := by
  have hlink : tree.isSymlink path = false := by rw [FileTree.isSymlink, h]
  have hfile : tree.isFile path = true := by rw [FileTree.isFile, FileTree.follow, h]
  have hmode : modeOf tree path = .ok mode := by
    rw [modeOf, FileTree.mode, h]
    rfl
  refine seq_eq_ok_iff.mpr ⟨raiseIf_eq_ok_iff.mpr hlink, seq_eq_ok_iff.mpr ⟨?_, ?_⟩⟩
  · rw [hfile]
    rfl
  · exact Effect.except_bind_eq_ok.mpr ⟨mode, hmode, raiseIf_eq_ok_iff.mpr (bne_self_eq_false mode)⟩

/-- What is left of a tree when a directory to generate into has been made: the directory is
there, and but for it and those above it the tree is as it was. -/
structure Ready (dir : PosixPath) (tree tree' : FileTree B) : Prop where
  self : tree' dir = some (.dir DIR_MODE)
  made : FileTree.MadeFor dir tree tree'

/-- **A target becomes a directory.** -/
theorem createOrValidateDirectory_eq_ok (umask : ℕ) (hworks : FileTree.Works fails)
    (h : Target tree dir) :
    ∃ tree', createOrValidateDirectory fails umask dir tree = (.ok (), tree') ∧
      Ready dir tree tree' := by
  rcases h.self with hnone | hdir
  · have hthere : tree.isThere dir = false := by
      rw [FileTree.isThere, FileTree.follow, hnone]
      rfl
    obtain ⟨made, hmkdir, hmade, hself⟩ := FileTree.mkdir_eq_ok umask hworks h.free hnone
    have hchmod := FileTree.chmod_eq_ok (m := DIR_MODE) (congrArg Faults.chmod (hworks dir)) hself
    have hdir : Function.update made dir (some (.dir DIR_MODE)) dir = some (.dir DIR_MODE) :=
      Function.update_self ..
    refine ⟨_, ?_, hdir, hmade.update_self _⟩
    rw [createOrValidateDirectory, Effect.get_bind, hthere, if_neg Bool.false_ne_true,
      Effect.bind_of_ok (Effect.mapError_of_ok hmkdir),
      Effect.bind_of_ok (Effect.mapError_of_ok hchmod), Effect.get_bind, Effect.ofExcept]
    exact congrArg (·, _) (validateDirectory_eq_ok hdir)
  · have hthere : tree.isThere dir = true := by
      rw [FileTree.isThere, FileTree.follow, hdir]
      rfl
    refine ⟨tree, ?_, hdir, .refl dir tree⟩
    rw [createOrValidateDirectory, Effect.get_bind, hthere, if_pos rfl, Effect.get_bind,
      Effect.ofExcept, validateDirectory_eq_ok hdir]

/-- What is in a file that was opened and then not finished: what the write left, or everything,
if it is the mode that could not be set. -/
def Unfinished (faults : Faults B) (data content : B) : Prop :=
  (∃ e, faults.write = some (e, content)) ∨
    faults.write = none ∧ (∃ e, faults.chmod = some e) ∧ content = data

/-- An open file is finished: it gets its content and its mode. -/
theorem finishFile_eq_ok {data old : B} {m : ℕ} (hwrite : (fails path).write = none)
    (hchmod : (fails path).chmod = none) (hpath : tree path = some (.file m old)) :
    (Effect.mapError osException (FileTree.write fails path data) >>= fun () =>
        .mapError osException (FileTree.chmod fails mode path)) tree =
      (.ok (), Function.update tree path (some (.file mode data))) := by
  rw [Effect.bind_of_ok (Effect.mapError_of_ok (FileTree.write_eq_ok hwrite hpath)),
    Effect.mapError_of_ok (FileTree.chmod_eq_ok hchmod (Function.update_self ..)),
    Function.update_idem]
  rfl

/-- **An open file is finished, or it stays as it is then**, with the mode it was opened with. -/
theorem finishFile_cases (data : B) (mode : ℕ) {old : B} {m : ℕ}
    (hpath : tree path = some (.file m old)) :
    (∃ exc content, Unfinished (fails path) data content ∧
        (Effect.mapError osException (FileTree.write fails path data) >>= fun () =>
            .mapError osException (FileTree.chmod fails mode path)) tree =
          (.error exc, Function.update tree path (some (.file m content)))) ∨
      ((fails path).write = none ∧ (fails path).chmod = none ∧
        (Effect.mapError osException (FileTree.write fails path data) >>= fun () =>
            .mapError osException (FileTree.chmod fails mode path)) tree =
          (.ok (), Function.update tree path (some (.file mode data)))) := by
  rcases FileTree.write_cases fails data hpath with ⟨e, left, hfault, hwrite⟩ | ⟨hfine, hwrite⟩
  · refine Or.inl ⟨osException e, left, Or.inl ⟨e, hfault⟩, Effect.bind_of_error ?_⟩
    rw [Effect.mapError, hwrite]
    rfl
  · have hself : Function.update tree path (some (.file m data)) path = some (.file m data) :=
      Function.update_self ..
    rcases FileTree.chmod_cases fails mode hself with ⟨e, hfault, hchmod⟩ | ⟨hchmod, -⟩
    · refine Or.inl ⟨osException e, data, Or.inr ⟨hfine, ⟨e, hfault⟩, rfl⟩, ?_⟩
      rw [Effect.bind_of_ok (Effect.mapError_of_ok hwrite), Effect.mapError, hchmod]
      rfl
    · exact Or.inr ⟨hfine, hchmod, finishFile_eq_ok hfine hchmod hpath⟩

theorem writeFile_eq_ok [EmptyCollection B] {data : B} (hworks : FileTree.Works fails)
    (hpath : tree path = none) (hparent : tree path.parent = some (.dir DIR_MODE)) :
    writeFile fails umask path data mode tree =
      (.ok (), Function.update tree path (some (.file mode data))) := by
  have hopen := FileTree.openNew_eq_ok umask mode (congrArg Faults.creat (hworks path)) hpath
    hparent
  rw [writeFile, Effect.bind_of_ok (Effect.mapError_of_ok hopen),
    finishFile_eq_ok (congrArg Faults.write (hworks path))
      (congrArg Faults.chmod (hworks path)) (Function.update_self ..), Function.update_idem]

/-- Two directories, neither of which is above the other. -/
def Apart (dir dir' : PosixPath) : Prop := ¬ dir <+: dir' ∧ ¬ dir' <+: dir

variable {dir' : PosixPath} {tree' : FileTree B}

/-- **The other target is still one.** -/
theorem Target.of_ready (h : Target tree dir') (hready : Ready dir tree tree')
    (hapart : Apart dir dir') : Target tree' dir' := by
  have hkeep {q : PosixPath} (hq : q <+: dir')
      (hwas : tree q = none ∨ ∃ m, tree q = some (.dir m)) :
      tree' q = none ∨ ∃ m, tree' q = some (.dir m) := by
    by_cases hup : q <+: dir
    · have hne : q ≠ dir := by
        rintro rfl
        exact hapart.1 hq
      rcases hready.made.above q hup hne with heq | ⟨-, hdir⟩
      · rwa [heq]
      · exact Or.inr hdir
    · rwa [hready.made.other q hup]
  refine ⟨⟨?_, fun q hq hne => hkeep hq (h.free.above q hq hne)⟩, ?_, fun q hq hne => ?_⟩
  · obtain ⟨m, hm⟩ := h.free.root
    have hne : [] ≠ dir := by
      rintro rfl
      exact hapart.1 List.nil_prefix
    rcases hready.made.above [] List.nil_prefix hne with heq | ⟨hnone, -⟩
    · exact ⟨m, heq.trans hm⟩
    · rw [hm] at hnone
      cases hnone
  · rw [hready.made.other dir' hapart.2]
    exact h.self
  · rw [hready.made.other q fun hup => hapart.2 (hq.trans hup)]
    exact h.below q hq hne

/-! ## The run -/

/-- **Both directories are there**, and there is nothing in them. -/
structure Prepared (certsDir keysDir : PosixPath) (tree : FileTree B) : Prop where
  certs : tree certsDir = some (.dir DIR_MODE)
  keys : tree keysDir = some (.dir DIR_MODE)
  noCerts : ∀ name, tree (certsDir.join name) = none
  noKeys : ∀ name, tree (keysDir.join name) = none

theorem join_ne (p : PosixPath) (name : String) : p.join name ≠ p := fun h =>
  List.cons_ne_nil _ _ (List.append_right_eq_self.mp h)

theorem prefix_join (p : PosixPath) (name : String) : p <+: p.join name := List.prefix_append _ _

theorem not_prefix_of_join (p : PosixPath) (name : String) : ¬ p.join name <+: p :=
  FileTree.not_prefix_concat p name

variable {certsDir keysDir : PosixPath} {subject : String}

/-- What is asked for and accepted is prepared. -/
theorem prepareGeneration_eq_ok (world : Surroundings crypto)
    (hworks : FileTree.Works world.fails) (hcerts : Target tree certsDir)
    (hkeys : Target tree keysDir) (hapart : Apart certsDir keysDir)
    (hsubject : validateSubject subject = .ok ()) (hdays : validateDays days = .ok ()) :
    ∃ tree', prepareGeneration crypto world certsDir keysDir subject days tree =
      (.ok (), tree') ∧ Prepared certsDir keysDir tree' := by
  obtain ⟨made, hmade, hready⟩ := createOrValidateDirectory_eq_ok world.umask hworks hcerts
  obtain ⟨tree', htree', hready'⟩ := createOrValidateDirectory_eq_ok world.umask hworks
    (hkeys.of_ready hready hapart)
  refine ⟨tree', ?_, ?_, hready'.self, fun name => ?_, fun name => ?_⟩
  · rw [prepareGeneration, hsubject, hdays]
    exact (Effect.bind_of_ok hmade).trans htree'
  · rw [hready'.made.other _ hapart.1]
    exact hready.self
  · rw [hready'.made.other _ fun h => hapart.1 ((prefix_join _ _).trans h),
      hready.made.other _ (not_prefix_of_join _ _)]
    exact hcerts.below _ (prefix_join _ _) (join_ne _ _)
  · rw [hready'.made.other _ (not_prefix_of_join _ _),
      hready.made.other _ fun h => hapart.2 ((prefix_join _ _).trans h)]
    exact hkeys.below _ (prefix_join _ _) (join_ne _ _)

theorem join_ne_join {p q : PosixPath} {name name' : String} (h : name ≠ name') :
    p.join name ≠ q.join name' := fun heq => h (by
  have hname := congrArg PosixPath.name heq
  rwa [PosixPath.name_join, PosixPath.name_join] at hname)

theorem ne_join {p q : PosixPath} (h : ¬ q <+: p) (name : String) : p ≠ q.join name := fun heq =>
  h (heq ▸ prefix_join q name)

/-- **The five paths are five.** -/
structure Distinct (certsDir keysDir : PosixPath) : Prop where
  caCert : clientCaCertPath certsDir ≠ clientCertPath keysDir
  caKey : clientCaCertPath certsDir ≠ clientKeyPath keysDir
  certKey : clientCertPath keysDir ≠ clientKeyPath keysDir
  certsCa : certsDir ≠ clientCaCertPath certsDir
  certsCert : certsDir ≠ clientCertPath keysDir
  certsKey : certsDir ≠ clientKeyPath keysDir
  keysCa : keysDir ≠ clientCaCertPath certsDir
  keysCert : keysDir ≠ clientCertPath keysDir
  keysKey : keysDir ≠ clientKeyPath keysDir

theorem Apart.distinct (h : Apart certsDir keysDir) : Distinct certsDir keysDir where
  caCert := join_ne_join (by decide)
  caKey := join_ne_join (by decide)
  certKey := join_ne_join (by decide)
  certsCa := (join_ne certsDir _).symm
  certsCert := ne_join h.2 _
  certsKey := ne_join h.2 _
  keysCa := ne_join h.1 _
  keysCert := (join_ne keysDir _).symm
  keysKey := (join_ne keysDir _).symm

/-- The tree with the three files. -/
def withArtifacts (crypto : Cryptography B) (certsDir keysDir : PosixPath) (ca client : Certificate)
    (clientKey : crypto.Key) (tree : FileTree B) : FileTree B :=
  Function.update
    (Function.update
      (Function.update tree (clientCaCertPath certsDir)
        (some (.file CERT_MODE (crypto.certificatePem ca))))
      (clientCertPath keysDir) (some (.file CERT_MODE (crypto.certificatePem client))))
    (clientKeyPath keysDir) (some (.file KEY_MODE (crypto.privateKeyPem clientKey)))

/-- **The files are written** if the package has no objection to the subject. -/
theorem issueArtifacts_eq_ok [EmptyCollection B] (world : Surroundings crypto) (days : ℤ)
    (hworks : FileTree.Works world.fails) (hprepared : Prepared certsDir keysDir tree)
    (hapart : Apart certsDir keysDir)
    (hca : crypto.commonName "VVV Client Auth CA" = .ok caSubject)
    (hclient : crypto.commonName subject = .ok clientSubject) :
    issueArtifacts crypto world certsDir keysDir subject days tree =
      (.ok (), withArtifacts crypto certsDir keysDir (caCertificate crypto world caSubject days)
        (clientCertificate crypto world caSubject clientSubject days) world.clientKey tree) := by
  have hne := hapart.distinct
  have hcaParent : (clientCaCertPath certsDir).parent = certsDir := PosixPath.parent_join ..
  have hcertParent : (clientCertPath keysDir).parent = keysDir := PosixPath.parent_join ..
  have hkeyParent : (clientKeyPath keysDir).parent = keysDir := PosixPath.parent_join ..
  have hcaNone : tree (clientCaCertPath certsDir) = none := hprepared.noCerts _
  rw [issueArtifacts, hca, hclient]
  refine (Effect.bind_of_ok (writeFile_eq_ok hworks hcaNone ?_)).trans
    ((Effect.bind_of_ok (writeFile_eq_ok hworks ?_ ?_)).trans (writeFile_eq_ok hworks ?_ ?_))
  · rw [hcaParent]
    exact hprepared.certs
  · rw [Function.update_of_ne hne.caCert.symm]
    exact hprepared.noKeys _
  · rw [hcertParent, Function.update_of_ne hne.keysCa]
    exact hprepared.keys
  · rw [Function.update_of_ne hne.certKey.symm, Function.update_of_ne hne.caKey.symm]
    exact hprepared.noKeys _
  · rw [hkeyParent, Function.update_of_ne hne.keysCert, Function.update_of_ne hne.keysCa]
    exact hprepared.keys

/-- The files can be read. -/
theorem read_eq_ok {content : B} (h : tree path = some (.file mode content)) :
    (tree.read path).mapError osException = .ok content := by
  rw [FileTree.read, FileTree.follow, h]
  rfl

/-- **The three files are there**, in their directories and with their modes. -/
structure Issued (crypto : Cryptography B) (certsDir keysDir : PosixPath)
    (ca client : Certificate) (clientKey : crypto.Key) (tree : FileTree B) : Prop where
  certs : tree certsDir = some (.dir DIR_MODE)
  keys : tree keysDir = some (.dir DIR_MODE)
  ca : tree (clientCaCertPath certsDir) = some (.file CERT_MODE (crypto.certificatePem ca))
  client : tree (clientCertPath keysDir) = some (.file CERT_MODE (crypto.certificatePem client))
  key : tree (clientKeyPath keysDir) = some (.file KEY_MODE (crypto.privateKeyPem clientKey))

variable {ca client : Certificate} {clientKey : crypto.Key}

theorem issued_withArtifacts (hprepared : Prepared certsDir keysDir tree)
    (hapart : Apart certsDir keysDir) : Issued crypto certsDir keysDir ca client clientKey
      (withArtifacts crypto certsDir keysDir ca client clientKey tree) := by
  have hne := hapart.distinct
  refine ⟨?_, ?_, ?_, ?_, Function.update_self ..⟩
  · rw [withArtifacts, Function.update_of_ne hne.certsKey, Function.update_of_ne hne.certsCert,
      Function.update_of_ne hne.certsCa]
    exact hprepared.certs
  · rw [withArtifacts, Function.update_of_ne hne.keysKey, Function.update_of_ne hne.keysCert,
      Function.update_of_ne hne.keysCa]
    exact hprepared.keys
  · rw [withArtifacts, Function.update_of_ne hne.caKey, Function.update_of_ne hne.caCert,
      Function.update_self]
  · rw [withArtifacts, Function.update_of_ne hne.certKey, Function.update_self]

/-- **Sound material in its place is valid.** -/
theorem validateClientAuthArtifacts_eq_ok (laws : Lawful crypto)
    (h : Issued crypto certsDir keysDir ca client clientKey tree)
    (hca : ca.tbs.publicKey.curve = some SECP256R1)
    (hclient : client.tbs.publicKey.curve = some SECP256R1)
    (hkey : (crypto.publicKey clientKey).curve = some SECP256R1)
    (hsound : SoundMaterial crypto t (ca, ca.tbs.publicKey) (client, client.tbs.publicKey)
      clientKey) :
    validateClientAuthArtifacts crypto t tree certsDir keysDir = .ok () := by
  have hreadCa : readEcPublicKeyFromCert crypto tree (clientCaCertPath certsDir) =
      .ok (ca, ca.tbs.publicKey) :=
    Effect.except_bind_eq_ok.mpr ⟨_, read_eq_ok h.ca, ecPublicKeyFromCert_eq_ok laws hca _ _⟩
  have hreadClient : readEcPublicKeyFromCert crypto tree (clientCertPath keysDir) =
      .ok (client, client.tbs.publicKey) :=
    Effect.except_bind_eq_ok.mpr
      ⟨_, read_eq_ok h.client, ecPublicKeyFromCert_eq_ok laws hclient _ _⟩
  have hreadKey : readEcPrivateKey crypto tree (clientKeyPath keysDir) = .ok clientKey :=
    Effect.except_bind_eq_ok.mpr ⟨_, read_eq_ok h.key, ecPrivateKey_eq_ok laws hkey _ _⟩
  rw [validateClientAuthArtifacts, validateDirectory_eq_ok h.certs, validateDirectory_eq_ok h.keys,
    validateFile_eq_ok h.ca, validateFile_eq_ok h.client, validateFile_eq_ok h.key, hreadCa,
    hreadClient, hreadKey]
  exact checkMaterial_eq_ok_iff.mpr hsound

/-- Nothing that is to be generated is there. -/
theorem filter_isThere_eq_nil (hcerts : Target tree certsDir) (hkeys : Target tree keysDir) :
    [clientCaCertPath certsDir, clientCertPath keysDir, clientKeyPath keysDir].filter
      tree.isThere = [] := by
  have habsent {path : PosixPath} (h : tree path = none) : tree.isThere path = false := by
    rw [FileTree.isThere, FileTree.follow, h]
    rfl
  have hcertsBelow (name : String) : tree.isThere (certsDir.join name) = false :=
    habsent (hcerts.below _ (prefix_join _ _) (join_ne _ _))
  have hkeysBelow (name : String) : tree.isThere (keysDir.join name) = false :=
    habsent (hkeys.below _ (prefix_join _ _) (join_ne _ _))
  simp [clientCaCertPath, clientCertPath, clientKeyPath, hcertsBelow, hkeysBelow]

/-- **What is generated is valid until it ends.** -/
theorem validate_of_issued (laws : Lawful crypto)
    (h : Issued crypto certsDir keysDir (caCertificate crypto world caSubject days)
      (clientCertificate crypto world caSubject clientSubject days) world.clientKey tree)
    (hfrom : world.now ≤ t) (huntil : t < validityEnd world.now days) :
    validateClientAuthArtifacts crypto t tree certsDir keysDir = .ok () :=
  validateClientAuthArtifacts_eq_ok laws h world.caCurve world.clientCurve world.clientCurve
    (soundMaterial_generated laws hfrom huntil)

section Run

variable [EmptyCollection B] (world) (laws : Lawful crypto) (hworks : FileTree.Works world.fails)
  (hcerts : Target tree certsDir) (hkeys : Target tree keysDir) (hapart : Apart certsDir keysDir)
  (hsubject : validateSubject subject = .ok ()) (hdays : validateDays days = .ok ())

include laws hworks hcerts hkeys hapart hsubject hdays

/-- **A subject that is too long for the package** passes the checks, and then there is an
exception, when the directories have been made. -/
theorem generateClientAuthArtifacts_of_lt (hlong : 64 < (Utf8.encode subject.toList).length) :
    ∃ text tree', generateClientAuthArtifacts crypto world certsDir keysDir subject days tree =
      (.error (valueError text), tree') ∧ Prepared certsDir keysDir tree' := by
  obtain ⟨tree', hprepare, hprepared⟩ := prepareGeneration_eq_ok world hworks hcerts hkeys hapart
    hsubject hdays
  obtain ⟨caSubject, hca⟩ := laws.commonName_of_le "VVV Client Auth CA" (by decide) (by decide)
  obtain ⟨text, hclient⟩ := laws.commonName_of_lt subject hlong
  have hissue : issueArtifacts crypto world certsDir keysDir subject days tree' =
      (.error (valueError text), tree') := by
    rw [issueArtifacts, hca, hclient]
    rfl
  refine ⟨text, tree', ?_, hprepared⟩
  rw [generateClientAuthArtifacts, Effect.get_bind, filter_isThere_eq_nil hcerts hkeys]
  exact (Effect.bind_of_ok (Effect.attempt_of_ok hprepare)).trans (Effect.bind_of_error hissue)

/-- **A subject that is not** is put into a credential, which is in its place. -/
theorem generateClientAuthArtifacts_issued
    (hfrom : world.now ≤ world.later) (huntil : world.later < validityEnd world.now days)
    (hshort : (Utf8.encode subject.toList).length ≤ 64) :
    ∃ tree' caSubject clientSubject,
      generateClientAuthArtifacts crypto world certsDir keysDir subject days tree =
        (.ok (.generated (pathText (clientCaCertPath certsDir)) (pathText (clientCertPath keysDir))
          (pathText (clientKeyPath keysDir))), tree') ∧
      crypto.commonName subject = .ok clientSubject ∧
      Issued crypto certsDir keysDir (caCertificate crypto world caSubject days)
        (clientCertificate crypto world caSubject clientSubject days) world.clientKey tree' := by
  obtain ⟨tree', hprepare, hprepared⟩ := prepareGeneration_eq_ok world hworks hcerts hkeys hapart
    hsubject hdays
  have hne : subject ≠ "" := by
    rintro rfl
    exact absurd hsubject nofun
  obtain ⟨caSubject, hca⟩ := laws.commonName_of_le "VVV Client Auth CA" (by decide) (by decide)
  obtain ⟨clientSubject, hclient⟩ := laws.commonName_of_le subject hne hshort
  have hissue := issueArtifacts_eq_ok world days hworks hprepared hapart hca hclient
  have hissued : Issued crypto certsDir keysDir (caCertificate crypto world caSubject days)
      (clientCertificate crypto world caSubject clientSubject days) world.clientKey _ :=
    issued_withArtifacts hprepared hapart
  refine ⟨_, caSubject, clientSubject, ?_, hclient, hissued⟩
  rw [generateClientAuthArtifacts, Effect.get_bind, filter_isThere_eq_nil hcerts hkeys]
  exact (Effect.bind_of_ok (Effect.attempt_of_ok hprepare)).trans ((Effect.bind_of_ok hissue).trans
    (Effect.bind_of_ok (Effect.attempt_of_ok
      (congrArg (·, _) (validate_of_issued laws hissued hfrom huntil)))))

/-- **What is asked for and accepted is generated, and valid until it ends, exactly if the subject
has at most 64 bytes.** -/
theorem generateClientAuthArtifacts_iff
    (hfrom : world.now ≤ world.later) (huntil : world.later < validityEnd world.now days) :
    (∃ tree', generateClientAuthArtifacts crypto world certsDir keysDir subject days tree =
        (.ok (.generated (pathText (clientCaCertPath certsDir)) (pathText (clientCertPath keysDir))
          (pathText (clientKeyPath keysDir))), tree') ∧
      ∀ t, world.now ≤ t → t < validityEnd world.now days →
        validateClientAuthArtifacts crypto t tree' certsDir keysDir = .ok ()) ↔
      (Utf8.encode subject.toList).length ≤ 64 := by
  constructor
  · rintro ⟨tree', hgenerated, -⟩
    by_contra hlong
    obtain ⟨text, tree'', hraised, -⟩ := generateClientAuthArtifacts_of_lt world laws
      hworks hcerts hkeys hapart hsubject hdays (not_le.mp hlong)
    rw [hgenerated] at hraised
    exact absurd (congrArg Prod.fst hraised) nofun
  · intro hshort
    obtain ⟨tree', _, _, hgenerated, -, hissued⟩ := generateClientAuthArtifacts_issued world laws
      hworks hcerts hkeys hapart hsubject hdays hfrom huntil hshort
    exact ⟨tree', hgenerated, fun t => validate_of_issued laws hissued⟩

end Run

/-! ### Two runs -/

/-- Two keys, and files that have in them what was written.  A signature is the number of the
key. -/
def twoKeys : Cryptography (List (Certificate ⊕ Bool)) where
  Key := Bool
  publicKey key := ⟨some SECP256R1, (if key then 1 else 0, 0)⟩
  sign key _ _ := [if key then 1 else 0]
  verify publicKey signature _ _ := signature == [if publicKey.numbers.1 = 1 then 1 else 0]
  certificatePem cert := [.inl cert]
  privateKeyPem key := [.inr key]
  loadPemX509Certificate
    | [.inl cert] => .ok cert
    | _ => .error (valueError "Unable to load PEM file.")
  loadPemPrivateKey
    | [.inr key] => .ok key
    | _ => .error (valueError "Unable to load PEM file.")
  commonName value :=
    if value = "" ∨ 64 < (Utf8.encode value.toList).length then
      .error (valueError "Attribute's length must be >= 1 and <= 64")
    else .ok [("2.5.4.3", value)]

theorem lawful_twoKeys : Lawful twoKeys where
  verify_sign key _ _ := by cases key <;> rfl
  load_certificatePem _ := rfl
  load_privateKeyPem _ := rfl
  commonName_of_le value hne hle :=
    ⟨_, if_neg (not_or.mpr ⟨hne, not_lt.mpr hle⟩)⟩
  commonName_of_lt value hlt := ⟨_, if_pos (Or.inr hlt)⟩

/-- A tree with nothing in it. -/
def emptyTree : FileTree (List (Certificate ⊕ Bool)) := fun p =>
  if p = [] then some (.dir 0o755) else none

theorem emptyTree_of_ne {p : PosixPath} (h : p ≠ []) : emptyTree p = none := if_neg h

theorem target_emptyTree (name : String) : Target emptyTree [name] where
  free :=
    { root := ⟨_, rfl⟩
      above := fun q hq hne => by
        have hup : q <+: [] ++ [name] := hq
        have hnil := (List.prefix_concat_iff.mp hup).resolve_left hne
        rw [List.prefix_nil.mp hnil]
        exact Or.inr ⟨_, rfl⟩ }
  self := Or.inl (emptyTree_of_ne (List.cons_ne_nil _ _))
  below q hq _ := emptyTree_of_ne fun hnil => by
    rw [hnil] at hq
    exact absurd (List.prefix_nil.mp hq) (List.cons_ne_nil _ _)

/-- A run that takes a second. -/
def secondRun : Surroundings twoKeys where
  umask := 0o022
  now := 1700000000 * MICROSECONDS
  later := 1700000001 * MICROSECONDS
  caKey := true
  clientKey := false
  caCurve := rfl
  clientCurve := rfl
  caSerial := 1
  clientSerial := 2

/-- A subject that is accepted and generated. -/
theorem generateClientAuthArtifacts_client : ∃ tree',
    generateClientAuthArtifacts twoKeys secondRun ["certs"] ["keys"] "client" 365 emptyTree =
        (.ok (.generated "/certs/client-ca.pem" "/keys/client-cert.pem" "/keys/client-key.pem"),
          tree') ∧
      ∀ t, secondRun.now ≤ t → t < validityEnd secondRun.now 365 →
        validateClientAuthArtifacts twoKeys t tree' ["certs"] ["keys"] = .ok () :=
  (generateClientAuthArtifacts_iff secondRun lawful_twoKeys (fun _ => rfl)
    (target_emptyTree "certs") (target_emptyTree "keys") ⟨by decide, by decide⟩ (by decide)
    (by decide) (by decide) (by decide)).mpr (by decide)

/-- A subject of 65 letters. -/
theorem generateClientAuthArtifacts_long :
    validateSubject (String.ofList (List.replicate 65 'a')) = .ok () ∧ validateDays 365 = .ok () ∧
      ∃ text tree', generateClientAuthArtifacts twoKeys secondRun ["certs"] ["keys"]
        (String.ofList (List.replicate 65 'a')) 365 emptyTree =
          (.error (valueError text), tree') := by
  have hsubject : validateSubject (String.ofList (List.replicate 65 'a')) = .ok () := by
    decide +kernel
  have hdays : validateDays 365 = .ok () := by decide
  obtain ⟨text, tree', hraised, -⟩ := generateClientAuthArtifacts_of_lt secondRun lawful_twoKeys
    (fun _ => rfl) (target_emptyTree "certs") (target_emptyTree "keys")
    ⟨by decide, by decide⟩ hsubject hdays (by decide +kernel)
  exact ⟨hsubject, hdays, text, tree', hraised⟩

end Scripts

end VibeVoice
