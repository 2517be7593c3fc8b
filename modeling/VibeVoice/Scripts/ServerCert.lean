import VibeVoice.Scripts.BundleFile

/-!
# The identity of the server

`generate_cert.py`: `_generate_cert`, and the handler that calls it for a browser.

What clients pin is a key, so a key that is there must stay, and so must the certificate
and the pin that belong to it.  The script looks whether one of the three files exists, and
would overwrite none of them anyway, since it creates them exclusively.  Neither does it
change anything else: a mode is set where something was just made, and nowhere else
(`extends_serveVisits`).

A request is answered in one of three ways.  There is an error, and then nothing was done.
There is an exception, and no answer: a call may have failed, and then what was made before it
stays, a file that was not finished with it.  Or there is the answer with the pin; then the three
files are there, with their modes, and they belong together (`Identity`).  Nothing the
handler is asked for later changes that (`generated_identity_stays`).

`Path(certs_dir)` is left to a parameter, and so is what `json.loads` does with bytes.  The
page for the browser is not modelled.
-/

namespace VibeVoice

namespace Scripts

open Client

/-! ## The files -/

/-- `out / "fullchain.pem"` -/
def serverCertPath (out : PosixPath) : PosixPath := out.join "fullchain.pem"

/-- `out / "privkey.pem"` -/
def serverKeyPath (out : PosixPath) : PosixPath := out.join "privkey.pem"

/-- `out / "server-spki-pin.txt"` -/
def serverPinPath (out : PosixPath) : PosixPath := out.join "server-spki-pin.txt"

/-- `_SERVER_CERT_COMMON_NAME` -/
def SERVER_CERT_COMMON_NAME : String := "VVV Sovereign Server"

/-- `_write_public` -/
def writePublic (fails : PosixPath → Faults (List UInt8)) (umask : ℕ) (path : PosixPath)
    (data : List UInt8) : OnTree (List UInt8) Unit :=
  writeFile fails umask path data CERT_MODE

/-- `_write_secret` -/
def writeSecret (fails : PosixPath → Faults (List UInt8)) (umask : ℕ) (path : PosixPath)
    (data : List UInt8) : OnTree (List UInt8) Unit :=
  writeFile fails umask path data KEY_MODE

/-- `_validate_days` -/
def validateServerDays (days : ℤ) : Except PyException Unit :=
  raiseIf (!(1 ≤ days && days ≤ MAX_VALIDITY_DAYS))
    ("days must be between 1 and " ++ toString MAX_VALIDITY_DAYS)

/-! ## `_generate_cert` -/

/-- What a call of `_generate_cert` finds in the world. -/
structure ServerSurroundings (crypto : Cryptography (List UInt8)) where
  umask : ℕ
  /-- The calls that fail, for reasons that are not on the disk. -/
  fails : PosixPath → Faults (List UInt8) := fun _ => {}
  /-- `datetime.now(UTC)` -/
  now : ℤ
  /-- `ec.generate_private_key(ec.SECP256R1())` -/
  privateKey : crypto.Key
  /-- `x509.random_serial_number()` -/
  serialNumber : ℕ

/-- The dictionary that is returned. -/
inductive CertResult where
  | error (text : String) : CertResult
  | generated (certPath keyPath serverSpkiPinPath serverSpkiPin : String) : CertResult
  deriving DecidableEq

section Generate

variable (crypto : Cryptography (List UInt8)) (spkiDigest : PublicKey → Vector UInt8 32)

/-- `_server_spki_pin`.  The SHA-256 digest of the DER form of a public key is a parameter. -/
def serverSpkiPin (privateKey : crypto.Key) : String :=
  serverPin (spkiDigest (crypto.publicKey privateKey)).toList

variable (world : ServerSurroundings crypto)

/-- `cert` -/
def serverCertificate (subject : Name) (days : ℤ) : Certificate :=
  signCertificate crypto world.privateKey
    { subject := subject
      issuer := subject
      publicKey := crypto.publicKey world.privateKey
      serialNumber := world.serialNumber
      notValidBefore := world.now / MICROSECONDS
      notValidAfter := (world.now + timedelta days) / MICROSECONDS
      basicConstraints := none
      keyUsage := none
      extendedKeyUsage := none }

/-- The `try` block of `_generate_cert`. -/
def prepareCert (days : ℤ) (out : PosixPath) : OnTree (List UInt8) Unit := do
  .ofExcept (validateServerDays days)
  createOrValidateDirectory world.fails world.umask out

/-- What follows it: the three files are written. -/
def issueCert (days : ℤ) (out : PosixPath) : OnTree (List UInt8) CertResult := do
  let subject ← .ofExcept (crypto.commonName SERVER_CERT_COMMON_NAME)
  writePublic world.fails world.umask (serverCertPath out)
    (crypto.certificatePem (serverCertificate crypto world subject days))
  let pin := serverSpkiPin crypto spkiDigest world.privateKey
  writePublic world.fails world.umask (serverPinPath out) (latin1Encode (pin ++ "\n"))
  writeSecret world.fails world.umask (serverKeyPath out) (crypto.privateKeyPem world.privateKey)
  return .generated (pathText (serverCertPath out)) (pathText (serverKeyPath out))
    (pathText (serverPinPath out)) pin

/-- `_generate_cert` -/
def generateCert (days : ℤ) (out : PosixPath) : OnTree (List UInt8) CertResult := do
  let tree ← .get
  if tree.isThere (serverCertPath out) || tree.isThere (serverKeyPath out) ||
      tree.isThere (serverPinPath out) then
    return .error ("Certificate files already exist in " ++ pathText out ++
      ". Remove them first.")
  else
    match ← (prepareCert crypto world days out).attempt isValueError with
    | some exc => return .error exc.text
    | none => issueCert crypto spkiDigest world days out

end Generate

/-! ## `do_POST` -/

/-- `_MAX_GENERATE_BODY_BYTES` -/
def MAX_GENERATE_BODY_BYTES : ℤ := 4096

/-- The digits of a number, with single underscores between them. -/
def pyNat (ds : List Char) : Option ℕ :=
  let digits := ds.filter (· != '_')
  if (ds.splitOn '_').all (fun part => !part.isEmpty && part.all Json.isDigit) &&
      digits.length ≤ 4300 then
    some (Json.natValue digits)
  else none

/-- `int(text)`, of a text in Latin-1, where no digits are but those of ASCII. -/
def pyInt (text : String) : Option ℤ :=
  match pyStripChars text.toList with
  | '-' :: ds => (pyNat ds).map fun n => -(n : ℤ)
  | '+' :: ds => (pyNat ds).map Int.ofNat
  | ds => (pyNat ds).map Int.ofNat

/-- What a request asks of the handler. -/
structure PostRequest where
  path : String
  /-- `self.headers.get("Content-Length")` -/
  contentLength : Option String
  /-- What can be read from `self.rfile`. -/
  body : List UInt8

/-- What is given to `_send_response`. -/
inductive PostResponse where
  /-- `"application/json"`, with `json.dumps` of the value -/
  | json (code : ℕ) (value : PyJson) : PostResponse
  /-- `"text/plain"` -/
  | text (code : ℕ) (body : String) : PostResponse

/-- `{"error": text}` -/
def errorDict (text : String) : PyJson := .dict [("error", .str text)]

def CertResult.dict : CertResult → PyJson
  | .error text => errorDict text
  | .generated certPath keyPath serverSpkiPinPath serverSpkiPin =>
    .dict [("cert_path", .str certPath), ("key_path", .str keyPath),
      ("server_spki_pin_path", .str serverSpkiPinPath), ("server_spki_pin", .str serverSpkiPin)]

/-- `isinstance(value, int)`, which a `bool` is too. -/
def asPyInt : PyJson → Option ℤ
  | .int n => some n
  | .bool b => some (if b then 1 else 0)
  | _ => none

section Post

variable (crypto : Cryptography (List UInt8)) (spkiDigest : PublicKey → Vector UInt8 32)
  (loads : List UInt8 → Except PyException PyJson) (asPath : String → PosixPath)

/-- `do_POST`, once the body is an object. -/
def generateFrom (world : ServerSurroundings crypto) (fields : List (String × PyJson)) :
    OnTree (List UInt8) PostResponse :=
  let missing := ["days", "certs_dir"].filter fun f => !fields.any fun field => field.1 = f
  if missing ≠ [] then
    pure (.json 400 (errorDict ("Missing required fields: " ++ ", ".intercalate missing)))
  else
    match fields.lookup "certs_dir" with
    | some (.str certsDir) =>
      match (fields.lookup "days").bind asPyInt with
      | some days => do
        let result ← generateCert crypto spkiDigest world days (asPath certsDir)
        return .json 200 result.dict
      | none => pure (.json 400 (errorDict "days must be an integer"))
    | _ => pure (.json 400 (errorDict "certs_dir must be a string"))

/-- `do_POST` -/
def doPost (world : ServerSurroundings crypto) (request : PostRequest) :
    OnTree (List UInt8) PostResponse :=
  if request.path ≠ "/generate" then pure (.text 404 "Not found")
  else
    match request.contentLength with
    | none => pure (.json 400 (errorDict "Missing Content-Length"))
    | some lengthStr =>
      match pyInt lengthStr with
      | none => pure (.json 400 (errorDict "Invalid Content-Length"))
      | some length =>
        if length < 0 ∨ MAX_GENERATE_BODY_BYTES < length then
          pure (.json 413 (errorDict "Request body is too large"))
        else
          match loads (request.body.take length.toNat) with
          | .error exc =>
            if exc.typeName = "JSONDecodeError" then
              pure (.json 400 (errorDict "Invalid JSON"))
            else .throw exc
          | .ok (.dict fields) => generateFrom crypto spkiDigest asPath world fields
          | .ok _ => pure (.json 400 (errorDict "JSON body must be an object"))

/-- A request, and what it finds in the world. -/
structure Visit where
  world : ServerSurroundings crypto
  request : PostRequest

/-- `serve_forever`: one request after the other.  An exception ends its request alone. -/
def serveVisits (visits : List (Visit crypto)) (tree : FileTree (List UInt8)) :
    FileTree (List UInt8) :=
  visits.foldl (fun tree visit =>
    (doPost crypto spkiDigest loads asPath visit.world visit.request tree).2) tree

end Post

/-! ## What a call can do -/

variable {B : Type} {fails : PosixPath → Faults B} {tree tree' : FileTree B} {path : PosixPath}
  {mode umask : ℕ} {data : B}

theorem isValueError_osException (e : OsError) : isValueError (osException e) = false := by
  cases e <;> simp [isValueError, osException]

/-- A directory is accepted if it is one, with the right mode. -/
theorem validateDirectory_eq_ok_iff :
    validateDirectory tree path = .ok () ↔ tree path = some (.dir DIR_MODE) := by
  refine ⟨fun h => ?_, validateDirectory_eq_ok⟩
  obtain ⟨hlink, h⟩ := seq_eq_ok_iff.mp h
  obtain ⟨hdir, h⟩ := seq_eq_ok_iff.mp h
  obtain ⟨m, hmode, h⟩ := Effect.except_bind_eq_ok.mp h
  rw [raiseIf_eq_ok_iff] at hlink hdir h
  cases hp : tree path with
  | none => simp [FileTree.isDir, FileTree.follow, hp] at hdir
  | some node =>
    cases node with
    | file => simp [FileTree.isDir, FileTree.follow, hp] at hdir
    | symlink => simp [FileTree.isSymlink, hp] at hlink
    | dir m' =>
      rw [modeOf, FileTree.mode, hp] at hmode
      rw [Except.ok.inj hmode, bne_eq_false_iff_eq.mp h]

section Writing

variable [EmptyCollection B]

/-- **A file is written where there was nothing**, or nothing is done, or it is left over. -/
theorem writeFile_cases (fails : PosixPath → Faults B) (umask : ℕ) (path : PosixPath) (data : B)
    (mode : ℕ) (tree : FileTree B) :
    (∃ exc, writeFile fails umask path data mode tree = (.error exc, tree)) ∨
      (tree path = none ∧ ∃ exc node, writeFile fails umask path data mode tree =
        (.error exc, Function.update tree path (some node))) ∨
      (tree path = none ∧ writeFile fails umask path data mode tree =
        (.ok (), Function.update tree path (some (.file mode data)))) := by
  rcases FileTree.openNew_cases fails umask mode path tree with ⟨e, hopen⟩ | ⟨hnone, hopen⟩
  · refine Or.inl ⟨osException e, Effect.bind_of_error ?_⟩
    rw [Effect.mapError, hopen]
    rfl
  · rw [writeFile, Effect.bind_of_ok (Effect.mapError_of_ok hopen)]
    rcases finishFile_cases data mode (Function.update_self path _ tree) with
      ⟨exc, content, -, hfinish⟩ | ⟨-, -, hfinish⟩
    · exact Or.inr (Or.inl ⟨hnone, exc, _, by rw [hfinish, Function.update_idem]⟩)
    · exact Or.inr (Or.inr ⟨hnone, by rw [hfinish, Function.update_idem]⟩)

theorem extends_writeFile (fails : PosixPath → Faults B) (umask : ℕ) (path : PosixPath) (data : B)
    (mode : ℕ) : Effect.Keeps FileTree.Extends (writeFile fails umask path data mode) := by
  intro tree
  rcases writeFile_cases fails umask path data mode tree with
    ⟨exc, h⟩ | ⟨hnone, exc, node, h⟩ | ⟨hnone, h⟩ <;> rw [h]
  · exact .refl tree
  · exact (FileTree.Extends.refl tree).update hnone _
  · exact (FileTree.Extends.refl tree).update hnone _

theorem eq_update_of_writeFile (h : writeFile fails umask path data mode tree = (.ok (), tree')) :
    tree' = Function.update tree path (some (.file mode data)) := by
  rcases writeFile_cases fails umask path data mode tree with
    ⟨exc, hraised⟩ | ⟨-, exc, node, hraised⟩ | ⟨-, hwritten⟩
  · rw [hraised] at h
    exact absurd (congrArg Prod.fst h) nofun
  · rw [hraised] at h
    exact absurd (congrArg Prod.fst h) nofun
  · rw [hwritten] at h
    exact (congrArg Prod.snd h).symm

end Writing

/-- **A directory is checked or made**: it is refused, and nothing was done; or the operating
system refuses to make it, or to set its mode; or it is there. -/
theorem createOrValidateDirectory_cases (fails : PosixPath → Faults B) (umask : ℕ)
    (path : PosixPath) (tree : FileTree B) :
    (∃ exc, createOrValidateDirectory fails umask path tree = (.error exc, tree)) ∨
      (∃ e tree', createOrValidateDirectory fails umask path tree =
        (.error (osException e), tree') ∧ tree.Extends tree') ∨
      ∃ tree', createOrValidateDirectory fails umask path tree = (.ok (), tree') ∧
        tree.Extends tree' ∧ tree' path = some (.dir DIR_MODE) := by
  unfold createOrValidateDirectory
  rw [Effect.get_bind]
  cases hthere : tree.isThere path with
  | true =>
    rw [if_pos rfl, Effect.get_bind, Effect.ofExcept]
    cases hvalid : validateDirectory tree path with
    | error exc => exact Or.inl ⟨exc, rfl⟩
    | ok _ =>
      exact Or.inr (Or.inr ⟨tree, rfl, .refl tree, validateDirectory_eq_ok_iff.mp hvalid⟩)
  | false =>
    rw [if_neg Bool.false_ne_true]
    obtain ⟨hextends, hmade⟩ := FileTree.mkdir_spec fails umask path tree
    refine Or.inr ?_
    rcases hmkdir : FileTree.mkdir fails umask path tree with ⟨e | ⟨⟩, made⟩
    · rw [hmkdir] at hextends
      refine Or.inl ⟨e, made, Effect.bind_of_error ?_, hextends⟩
      rw [Effect.mapError, hmkdir]
      rfl
    · rw [hmkdir] at hextends hmade
      obtain ⟨hnone, m, hself⟩ := hmade rfl
      rw [Effect.bind_of_ok (Effect.mapError_of_ok hmkdir)]
      rcases FileTree.chmod_cases fails DIR_MODE hself with ⟨e, -, hchmod⟩ | ⟨-, hchmod⟩
      · refine Or.inl ⟨e, made, Effect.bind_of_error ?_, hextends⟩
        rw [Effect.mapError, hchmod]
        rfl
      · have hdir : Function.update made path (some (.dir DIR_MODE)) path =
            some (.dir DIR_MODE) := Function.update_self ..
        refine Or.inr ⟨_, ?_, hextends.update hnone _, hdir⟩
        rw [Effect.bind_of_ok (Effect.mapError_of_ok hchmod), Effect.get_bind, Effect.ofExcept]
        exact congrArg (·, _) (validateDirectory_eq_ok hdir)

/-! ## The identity -/

section Identity

variable {crypto : Cryptography (List UInt8)} {spkiDigest : PublicKey → Vector UInt8 32}
  {world : ServerSurroundings crypto} {out : PosixPath} {days : ℤ} {subject : Name}
  {tree tree' : FileTree (List UInt8)}

/-- **The three files of a server**, which belong together. -/
structure Identity (crypto : Cryptography (List UInt8)) (spkiDigest : PublicKey → Vector UInt8 32)
    (world : ServerSurroundings crypto) (subject : Name) (days : ℤ) (out : PosixPath)
    (tree : FileTree (List UInt8)) : Prop where
  cert : tree (serverCertPath out) = some (.file CERT_MODE
    (crypto.certificatePem (serverCertificate crypto world subject days)))
  key : tree (serverKeyPath out) = some (.file KEY_MODE (crypto.privateKeyPem world.privateKey))
  pin : tree (serverPinPath out) = some (.file CERT_MODE
    (Proxy.pinLine (serverSpkiPin crypto spkiDigest world.privateKey)))

theorem Identity.extends (h : Identity crypto spkiDigest world subject days out tree)
    (hextends : tree.Extends tree') : Identity crypto spkiDigest world subject days out tree' where
  cert := hextends _ _ h.cert
  key := hextends _ _ h.key
  pin := hextends _ _ h.pin

/-- What is answered when an identity has been made. -/
def generatedResult (crypto : Cryptography (List UInt8)) (spkiDigest : PublicKey → Vector UInt8 32)
    (world : ServerSurroundings crypto) (out : PosixPath) : CertResult :=
  .generated (pathText (serverCertPath out)) (pathText (serverKeyPath out))
    (pathText (serverPinPath out)) (serverSpkiPin crypto spkiDigest world.privateKey)

variable (spkiDigest) in
theorem extends_issueCert (world : ServerSurroundings crypto) (days : ℤ) (out : PosixPath) :
    Effect.Keeps FileTree.Extends (issueCert crypto spkiDigest world days out) := by
  have htrans := @FileTree.Extends.trans (List UInt8)
  refine .bind htrans (.ofExcept FileTree.Extends.refl) fun _ => ?_
  refine .bind htrans (extends_writeFile _ _ _ _ _) fun _ => ?_
  refine .bind htrans (extends_writeFile _ _ _ _ _) fun _ => ?_
  exact .bind htrans (extends_writeFile _ _ _ _ _) fun _ => .pure FileTree.Extends.refl

/-- **Three files are written**, if there is no exception. -/
theorem identity_of_issueCert {result : CertResult}
    (h : issueCert crypto spkiDigest world days out tree = (.ok result, tree')) :
    result = generatedResult crypto spkiDigest world out ∧
      ∃ subject, crypto.commonName SERVER_CERT_COMMON_NAME = .ok subject ∧
        Identity crypto spkiDigest world subject days out tree' := by
  obtain ⟨subject, hsubject, h⟩ := Effect.ofExcept_bind_eq_ok.mp h
  obtain ⟨⟨⟩, withCert, hcert, h⟩ := Effect.bind_eq_ok.mp h
  obtain ⟨⟨⟩, withPin, hpin, h⟩ := Effect.bind_eq_ok.mp h
  obtain ⟨⟨⟩, withKey, hkey, h⟩ := Effect.bind_eq_ok.mp h
  obtain ⟨hresult, rfl⟩ := Prod.mk.inj h
  have hcertPin : serverCertPath out ≠ serverPinPath out := join_ne_join (by decide)
  have hcertKey : serverCertPath out ≠ serverKeyPath out := join_ne_join (by decide)
  have hpinKey : serverPinPath out ≠ serverKeyPath out := join_ne_join (by decide)
  have hwithCert := eq_update_of_writeFile hcert
  have hwithPin := eq_update_of_writeFile hpin
  have hwithKey := eq_update_of_writeFile hkey
  refine ⟨(Except.ok.inj hresult).symm, subject, hsubject, ?_, ?_, ?_⟩
  · rw [hwithKey, Function.update_of_ne hcertKey, hwithPin, Function.update_of_ne hcertPin,
      hwithCert, Function.update_self]
  · rw [hwithKey, Function.update_self]
  · rw [hwithKey, Function.update_of_ne hpinKey, hwithPin, Function.update_self]
    rfl

/-- An exception of the checks that is caught: nothing was done.  The others come from making
the directory. -/
theorem attempt_of_error {exc : PyException}
    (h : prepareCert crypto world days out tree = (.error exc, tree)) :
    Effect.attempt isValueError (prepareCert crypto world days out) tree =
        (.ok (some exc), tree) ∨
      Effect.attempt isValueError (prepareCert crypto world days out) tree =
        (.error exc, tree) := by
  rw [Effect.attempt, h]
  cases hcaught : isValueError exc with
  | true => exact Or.inl (if_pos hcaught)
  | false => exact Or.inr (if_neg (by rw [hcaught]; exact Bool.false_ne_true))

/-- **What the checks come to**, as they are called. -/
theorem attempt_prepareCert_cases (world : ServerSurroundings crypto) (days : ℤ)
    (out : PosixPath) (tree : FileTree (List UInt8)) :
    (∃ exc, Effect.attempt isValueError (prepareCert crypto world days out) tree =
      (.ok (some exc), tree)) ∨
    (∃ exc tree', Effect.attempt isValueError (prepareCert crypto world days out) tree =
      (.error exc, tree') ∧ tree.Extends tree') ∨
    ∃ tree', Effect.attempt isValueError (prepareCert crypto world days out) tree =
        (.ok none, tree') ∧
      validateServerDays days = .ok () ∧ tree.Extends tree' := by
  have refused (exc : PyException)
      (h : prepareCert crypto world days out tree = (.error exc, tree)) :
      (∃ exc, Effect.attempt isValueError (prepareCert crypto world days out) tree =
        (.ok (some exc), tree)) ∨
      ∃ exc tree', Effect.attempt isValueError (prepareCert crypto world days out) tree =
        (.error exc, tree') ∧ tree.Extends tree' :=
    (attempt_of_error h).imp (fun h => ⟨exc, h⟩) fun h => ⟨exc, tree, h, .refl tree⟩
  cases hdays : validateServerDays days with
  | error exc =>
    rw [← or_assoc]
    refine Or.inl (refused exc ?_)
    rw [prepareCert, hdays]
    rfl
  | ok _ =>
    have hprepare : prepareCert crypto world days out tree =
        createOrValidateDirectory world.fails world.umask out tree := by
      rw [prepareCert, hdays]
      rfl
    rcases createOrValidateDirectory_cases world.fails world.umask out tree with
      ⟨exc, h⟩ | ⟨e, made, h, hextends⟩ | ⟨made, h, hextends, -⟩
    · rw [← or_assoc]
      exact Or.inl (refused exc (hprepare.trans h))
    · refine Or.inr (Or.inl ⟨osException e, made, ?_, hextends⟩)
      rw [Effect.attempt, hprepare, h]
      exact if_neg (by rw [isValueError_osException]; exact Bool.false_ne_true)
    · exact Or.inr (Or.inr ⟨made, Effect.attempt_of_ok (hprepare.trans h), rfl, hextends⟩)

/-- **What a call comes to**: it is refused, and nothing was done; or there is an exception, and
nothing that was there was changed; or there is an answer, and an identity. -/
inductive CallOutcome (crypto : Cryptography (List UInt8))
    (spkiDigest : PublicKey → Vector UInt8 32) (world : ServerSurroundings crypto) {α : Type}
    (refusal : α → Prop) (answer : CertResult → α) (tree : FileTree (List UInt8)) :
    Except PyException α × FileTree (List UInt8) → Prop where
  | refused (a : α) (ha : refusal a) :
      CallOutcome crypto spkiDigest world refusal answer tree (.ok a, tree)
  | raised (exc : PyException) (tree' : FileTree (List UInt8)) (hextends : tree.Extends tree') :
      CallOutcome crypto spkiDigest world refusal answer tree (.error exc, tree')
  | generated (days : ℤ) (out : PosixPath) (subject : Name) (tree' : FileTree (List UInt8))
      (hdays : validateServerDays days = .ok ())
      (hsubject : crypto.commonName SERVER_CERT_COMMON_NAME = .ok subject)
      (hextends : tree.Extends tree')
      (hidentity : Identity crypto spkiDigest world subject days out tree') :
      CallOutcome crypto spkiDigest world refusal answer tree
        (.ok (answer (generatedResult crypto spkiDigest world out)), tree')

/-- `{"error": text}` -/
def CertResult.IsError (result : CertResult) : Prop := ∃ text, result = .error text

variable (spkiDigest) in
/-- What `_generate_cert` comes to. -/
theorem outcome_generateCert (world : ServerSurroundings crypto) (days : ℤ) (out : PosixPath)
    (tree : FileTree (List UInt8)) :
    CallOutcome crypto spkiDigest world CertResult.IsError id tree
      (generateCert crypto spkiDigest world days out tree) := by
  unfold generateCert
  rw [Effect.get_bind]
  split
  · exact .refused _ ⟨_, rfl⟩
  rcases attempt_prepareCert_cases world days out tree with
    ⟨exc, h⟩ | ⟨exc, made, h, hextends⟩ | ⟨made, h, hdays, hextends⟩
  · rw [Effect.bind_of_ok h]
    exact .refused _ ⟨exc.text, rfl⟩
  · rw [Effect.bind_of_error h]
    exact .raised exc made hextends
  have hissued := extends_issueCert spkiDigest world days out made
  rw [Effect.bind_of_ok h]
  rcases hissue : issueCert crypto spkiDigest world days out made with ⟨exc | result, tree'⟩
  · rw [hissue] at hissued
    exact (congrArg _ hissue).mpr (.raised exc tree' (hextends.trans _ _ _ hissued))
  · rw [hissue] at hissued
    obtain ⟨rfl, subject, hsubject, hidentity⟩ := identity_of_issueCert hissue
    exact (congrArg _ hissue).mpr
      (.generated days out subject tree' hdays hsubject (hextends.trans _ _ _ hissued) hidentity)

/-! ## The handler -/

variable {loads : List UInt8 → Except PyException PyJson} {asPath : String → PosixPath}

/-- What is answered when nothing was done. -/
def PostResponse.IsRefusal : PostResponse → Prop
  | .json _ value => ∃ text, value = errorDict text
  | .text code _ => code = 404

/-- The answer with an identity. -/
def PostResponse.ofResult (result : CertResult) : PostResponse := .json 200 result.dict

variable (spkiDigest) in
/-- The two are told apart by what is answered. -/
theorem not_isRefusal_generatedResult (world : ServerSurroundings crypto) (out : PosixPath) :
    ¬ (PostResponse.ofResult (generatedResult crypto spkiDigest world out)).IsRefusal := by
  rintro ⟨text, h⟩
  simp [generatedResult, CertResult.dict, errorDict] at h

/-- What `do_POST` comes to, wherever it is called. -/
def Comes (crypto : Cryptography (List UInt8)) (spkiDigest : PublicKey → Vector UInt8 32)
    (world : ServerSurroundings crypto) (m : OnTree (List UInt8) PostResponse) : Prop :=
  ∀ tree, CallOutcome crypto spkiDigest world PostResponse.IsRefusal .ofResult tree (m tree)

theorem comes_error (world : ServerSurroundings crypto) (code : ℕ) (text : String) :
    Comes crypto spkiDigest world (pure (.json code (errorDict text))) := fun _ =>
  .refused _ ⟨text, rfl⟩

theorem comes_generateFrom (world : ServerSurroundings crypto) (fields : List (String × PyJson)) :
    Comes crypto spkiDigest world (generateFrom crypto spkiDigest asPath world fields) := by
  unfold generateFrom
  dsimp only
  split
  · exact comes_error world _ _
  split
  · rename_i certsDir _
    split
    · rename_i days _
      intro tree
      have houtcome := outcome_generateCert spkiDigest world days (asPath certsDir) tree
      rcases hcall : generateCert crypto spkiDigest world days (asPath certsDir) tree with
        ⟨exc | result, tree'⟩
      · rw [hcall] at houtcome
        rw [Effect.bind_of_error hcall]
        cases houtcome with
        | raised _ _ hextends => exact .raised exc tree' hextends
      · rw [hcall] at houtcome
        rw [Effect.bind_of_ok hcall]
        cases houtcome with
        | refused _ ha =>
          obtain ⟨text, rfl⟩ := ha
          exact .refused _ ⟨text, rfl⟩
        | generated _ out subject _ hdays hsubject hextends hidentity =>
          exact .generated _ out subject tree' hdays hsubject hextends hidentity
    · exact comes_error world _ _
  · exact comes_error world _ _

variable (spkiDigest loads asPath)

theorem comes_doPost (world : ServerSurroundings crypto) (request : PostRequest) :
    Comes crypto spkiDigest world (doPost crypto spkiDigest loads asPath world request) := by
  unfold doPost
  split
  · exact fun _ => .refused _ rfl
  split
  · exact comes_error world _ _
  split
  · exact comes_error world _ _
  split
  · exact comes_error world _ _
  split
  · rename_i exc _
    split
    · exact comes_error world _ _
    · exact fun tree => .raised exc tree (.refl tree)
  · exact comes_generateFrom world _
  · exact comes_error world _ _

theorem extends_doPost (world : ServerSurroundings crypto) (request : PostRequest) :
    Effect.Keeps FileTree.Extends (doPost crypto spkiDigest loads asPath world request) := by
  intro tree
  have houtcome := comes_doPost spkiDigest loads asPath world request tree
  generalize doPost crypto spkiDigest loads asPath world request tree = result at houtcome ⊢
  cases houtcome with
  | refused => exact .refl tree
  | raised _ _ hextends => exact hextends
  | generated _ _ _ _ _ _ hextends => exact hextends

/-- **Nothing that is there is changed**, by any requests. -/
theorem extends_serveVisits (visits : List (Visit crypto)) (tree : FileTree (List UInt8)) :
    tree.Extends (serveVisits crypto spkiDigest loads asPath visits tree) := by
  induction visits generalizing tree with
  | nil => exact .refl tree
  | cons visit visits ih =>
    exact .trans _ _ _ (extends_doPost spkiDigest loads asPath visit.world visit.request tree)
      (ih _)

variable {spkiDigest loads asPath}

/-- The pin that is answered is the one that clients are given. -/
theorem readPublicText_pin (h : Identity crypto spkiDigest world subject days out tree) :
    readPublicText tree (serverPinPath out) =
      .ok (serverSpkiPin crypto spkiDigest world.privateKey ++ "\n") :=
  readPublicText_eq_ok h.pin (plain_pinLine _)

/-- **An identity that was made stays.**  A request after others is answered.  Either the answer
is a refusal, and then nothing was done, or it names a certificate, a key and a pin.  Then,
after any further requests, the three files are there, with their modes, and belong together,
and the pin of the answer is the one a client is given; and nothing that was there at first has
been changed. -/
theorem generated_identity_stays (earlier later : List (Visit crypto)) (visit : Visit crypto)
    (tree : FileTree (List UInt8)) {response : PostResponse} {after : FileTree (List UInt8)}
    (hcall : doPost crypto spkiDigest loads asPath visit.world visit.request
      (serveVisits crypto spkiDigest loads asPath earlier tree) = (.ok response, after)) :
    tree.Extends (serveVisits crypto spkiDigest loads asPath (earlier ++ visit :: later) tree) ∧
      (response.IsRefusal ∧ after = serveVisits crypto spkiDigest loads asPath earlier tree ∨
        ∃ days out subject pin,
          response = .ofResult (.generated (pathText (serverCertPath out))
            (pathText (serverKeyPath out)) (pathText (serverPinPath out)) pin) ∧
          validateServerDays days = .ok () ∧
          Identity crypto spkiDigest visit.world subject days out
            (serveVisits crypto spkiDigest loads asPath (earlier ++ visit :: later) tree) ∧
          readPublicText (serveVisits crypto spkiDigest loads asPath (earlier ++ visit :: later)
            tree) (serverPinPath out) = .ok (pin ++ "\n") ∧
          normalizeServerPin (pin ++ "\n") = .ok pin) := by
  refine ⟨extends_serveVisits spkiDigest loads asPath _ tree, ?_⟩
  have hfinal : serveVisits crypto spkiDigest loads asPath (earlier ++ visit :: later) tree =
      serveVisits crypto spkiDigest loads asPath later after := by
    rw [serveVisits, List.foldl_append, List.foldl_cons]
    exact congrArg (serveVisits crypto spkiDigest loads asPath later) (congrArg Prod.snd hcall)
  have houtcome := comes_doPost spkiDigest loads asPath visit.world visit.request
    (serveVisits crypto spkiDigest loads asPath earlier tree)
  rw [hcall] at houtcome
  rw [hfinal]
  cases houtcome with
  | refused _ ha => exact Or.inl ⟨ha, rfl⟩
  | generated days out subject _ hdays hsubject hextends hidentity =>
    have hstays := hidentity.extends (extends_serveVisits spkiDigest loads asPath later after)
    exact Or.inr ⟨days, out, subject, _, rfl, hdays, hstays, readPublicText_pin hstays,
      normalizeServerPin_line _⟩

/-! ## What is asked for properly -/

/-- A file is written into a directory where there is none of its name. -/
theorem exists_writeFile [EmptyCollection B] (umask mode : ℕ) (data : B) {tree : FileTree B}
    {name : String} (hworks : FileTree.Works fails) (hdir : tree out = some (.dir DIR_MODE))
    (hfree : tree (out.join name) = none) :
    ∃ tree', writeFile fails umask (out.join name) data mode tree = (.ok (), tree') ∧
      tree' out = some (.dir DIR_MODE) ∧
      ∀ other, other ≠ name → tree' (out.join other) = tree (out.join other) := by
  have hparent : (out.join name).parent = out := PosixPath.parent_join ..
  refine ⟨_, writeFile_eq_ok hworks hfree ?_, ?_, ?_⟩
  · rw [hparent]
    exact hdir
  · rw [Function.update_of_ne (join_ne out name).symm]
    exact hdir
  · intro other hother
    exact Function.update_of_ne (join_ne_join hother) ..

variable (spkiDigest) in
/-- **The files are written** if there are none. -/
theorem issueCert_eq_ok (world : ServerSurroundings crypto) (days : ℤ)
    (hworks : FileTree.Works world.fails) (hdir : tree out = some (.dir DIR_MODE))
    (hfree : ∀ name, tree (out.join name) = none)
    (hsubject : crypto.commonName SERVER_CERT_COMMON_NAME = .ok subject) :
    ∃ tree', issueCert crypto spkiDigest world days out tree =
      (.ok (generatedResult crypto spkiDigest world out), tree') := by
  have hsubjectStep := Effect.ofExcept_eq_ok (t := tree).mpr ⟨hsubject, rfl⟩
  obtain ⟨withCert, hcert, hcertDir, hcertOther⟩ := exists_writeFile world.umask CERT_MODE
    (crypto.certificatePem (serverCertificate crypto world subject days)) hworks hdir
    (hfree "fullchain.pem")
  have hpinFree : withCert (out.join "server-spki-pin.txt") = none :=
    (hcertOther _ (by decide)).trans (hfree _)
  obtain ⟨withPin, hpin, hpinDir, hpinOther⟩ := exists_writeFile world.umask CERT_MODE
    (latin1Encode (serverSpkiPin crypto spkiDigest world.privateKey ++ "\n")) hworks hcertDir
    hpinFree
  have hkeyFree : withPin (out.join "privkey.pem") = none :=
    (hpinOther _ (by decide)).trans ((hcertOther _ (by decide)).trans (hfree _))
  obtain ⟨withKey, hkey, -, -⟩ := exists_writeFile world.umask KEY_MODE
    (crypto.privateKeyPem world.privateKey) hworks hpinDir hkeyFree
  exact ⟨withKey, (Effect.bind_of_ok hsubjectStep).trans ((Effect.bind_of_ok hcert).trans
    ((Effect.bind_of_ok hpin).trans (Effect.bind_of_ok hkey)))⟩

variable (spkiDigest) in
/-- **A directory to generate into gets an identity.** -/
theorem generateCert_eq_ok (world : ServerSurroundings crypto)
    (hworks : FileTree.Works world.fails) (hout : Target tree out)
    (hdays : validateServerDays days = .ok ())
    (hsubject : crypto.commonName SERVER_CERT_COMMON_NAME = .ok subject) :
    ∃ tree', generateCert crypto spkiDigest world days out tree =
      (.ok (generatedResult crypto spkiDigest world out), tree') := by
  have hnone (name : String) : tree (out.join name) = none :=
    hout.below _ (prefix_join _ _) (join_ne _ _)
  have habsent (name : String) : tree.isThere (out.join name) = false := by
    rw [FileTree.isThere, FileTree.follow, hnone]
    rfl
  obtain ⟨made, hmade, hready⟩ := createOrValidateDirectory_eq_ok world.umask hworks hout
  have hprepare : prepareCert crypto world days out tree = (.ok (), made) := by
    rw [prepareCert, hdays]
    exact hmade
  have hfree (name : String) : made (out.join name) = none :=
    (hready.made.other _ (not_prefix_of_join _ _)).trans (hnone name)
  obtain ⟨tree', hissue⟩ := issueCert_eq_ok spkiDigest world days hworks hready.self hfree hsubject
  refine ⟨tree', ?_⟩
  rw [generateCert, Effect.get_bind, serverCertPath, serverKeyPath, serverPinPath, habsent, habsent,
    habsent, if_neg (by simp), Effect.bind_of_ok (Effect.attempt_of_ok hprepare)]
  exact hissue

end Identity

/-- A browser asks for a certificate that is valid for a year. -/
noncomputable def yearVisit : Visit twoKeysPem where
  world :=
    { umask := 0o022
      now := 1700000000 * MICROSECONDS
      privateKey := true
      serialNumber := 1 }
  request :=
    { path := "/generate"
      contentLength := some " 36"
      body := latin1Encode "\x7b\"days\": 365, \"certs_dir\": \"/certs\"\x7d" }

/-- What is read from its body. -/
def yearFields : List (String × PyJson) := [("days", .int 365), ("certs_dir", .str "/certs")]

/-- The certificate of a year is made, and asking once more does not change it. -/
theorem generated_identity_stays_again :
    ∃ response after, doPost twoKeysPem (fun _ => Vector.replicate 32 0)
        (fun _ => .ok (.dict yearFields)) (fun _ => ["certs"]) yearVisit.world yearVisit.request
        (treeWith "pin.txt" []) = (.ok response, after) ∧ ¬ response.IsRefusal ∧
      ∃ days out subject, Identity twoKeysPem (fun _ => Vector.replicate 32 0) yearVisit.world
        subject days out (serveVisits twoKeysPem (fun _ => Vector.replicate 32 0)
          (fun _ => .ok (.dict yearFields)) (fun _ => ["certs"]) [yearVisit, yearVisit]
          (treeWith "pin.txt" [])) := by
  obtain ⟨subject, hsubject⟩ :=
    lawful_twoKeysPem.commonName_of_le SERVER_CERT_COMMON_NAME (by decide) (by decide)
  obtain ⟨after, hgenerate⟩ := generateCert_eq_ok (fun _ => Vector.replicate 32 0) yearVisit.world
    (fun _ => rfl) (target_treeWith [] (by decide : "certs" ≠ "pin.txt"))
    (by decide : validateServerDays 365 = .ok ()) hsubject
  have hcall : doPost twoKeysPem (fun _ => Vector.replicate 32 0)
      (fun _ => .ok (.dict yearFields)) (fun _ => ["certs"]) yearVisit.world yearVisit.request
      (treeWith "pin.txt" []) = (.ok (.ofResult _), after) := Effect.bind_of_ok hgenerate
  have hanswer := not_isRefusal_generatedResult (fun _ => Vector.replicate 32 0) yearVisit.world
    ["certs"]
  obtain ⟨-, ⟨hrefusal, -⟩ | ⟨days, out, subject, pin, -, -, hidentity, -⟩⟩ :=
    generated_identity_stays [] [yearVisit] yearVisit _ hcall
  · exact absurd hrefusal hanswer
  · exact ⟨_, after, hcall, hanswer, days, out, subject, hidentity⟩

end Scripts

end VibeVoice
