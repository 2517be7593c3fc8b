import Mathlib.Data.Countable.Basic
import Mathlib.Logic.Equiv.List
import VibeVoice.Scripts.ClientBundle
import VibeVoice.Scripts.ClientCert
import VibeVoice.Semantics.JsonIndent

/-!
# The file of a bundle

`write_client_bundle_file` of `generate_client_bundle.py`, and what it reads: the three
files that `_generate_client_auth_artifacts` writes, and the pin file of the proxy.

There is a private key in the bundle, so the file is made for its owner alone and never
over another one, and what is written can be read back (`bundle_file_exact`).

## What is written

Everything is read and checked before the file is opened (`writeClientBundleFile_eq`), so
nothing is changed by what is wrong with the four files.  The text of the bundle is ASCII and
has no CR, and so it is in the file byte for byte (`plain_fileText`); and a JSON text is a text
of one value, so a reader finds the bundle and nothing else (`document_fileText`).

The file is opened with `O_EXCL`, where there is nothing, and with the mode 0600, of which the
mask may take something away.  After that the source tidies up nothing: if the write fails, or
the close, or the change of the mode, what is there stays there (`LeftOver`).  It can be a part
of the bundle and of the key in it.  But nobody else can read it, and the next run refuses the
path.

## What has been generated

The checks here are those that the generator makes of its own files, once on paths and
once on texts.  A text is taken without the whitespace around it and with LF, and a PEM
file is such a text already (`pemText_of_isPemFile`).  So what has been generated goes into a
bundle as it is (`bundleOfFiles_eq_ok`), for as long as it is valid, and with whatever pin the
proxy has written (`provisioned_bundle`).

The witness needs a package whose files are texts, and a certificate is put into one by a
number: there are not more certificates than numbers (`countable_certificate`).
-/

namespace VibeVoice

namespace Scripts

open Client

/-! ## The files -/

/-- `_PRIVATE_FILE_MODE` -/
def PRIVATE_FILE_MODE : ℕ := 0o600

/-- `_PUBLIC_FILE_MODE` -/
def PUBLIC_FILE_MODE : ℕ := 0o644

/-- `_validate_existing_file`, which is `_validate_file` of the other script. -/
def validateExistingFile {B : Type} (tree : FileTree B) (path : PosixPath) (mode : ℕ) :
    Except PyException Unit := validateFile tree path mode

/-- `raw.decode("ascii")`.  What the exception says of the place is left out. -/
def asciiDecode (raw : List UInt8) : Except PyException String :=
  if raw.all fun b => b < 128 then .ok (latin1Decode raw)
  else .error ⟨"UnicodeDecodeError", "'ascii' codec can't decode: ordinal not in range(128)"⟩

/-- `path.read_text(encoding="ascii")` -/
def readText (tree : FileTree (List UInt8)) (path : PosixPath) : Except PyException String := do
  let text ← asciiDecode (← (tree.read path).mapError osException)
  return String.ofList (normalizeNewlines text.toList)

/-- `_read_public_text` -/
def readPublicText (tree : FileTree (List UInt8)) (path : PosixPath) :
    Except PyException String := do
  validateExistingFile tree path PUBLIC_FILE_MODE
  readText tree path

/-- `_read_private_text` -/
def readPrivateText (tree : FileTree (List UInt8)) (path : PosixPath) :
    Except PyException String := do
  validateExistingFile tree path PRIVATE_FILE_MODE
  readText tree path

/-- A `ClientBundle` is a `dict`. -/
def ClientBundle.dict (bundle : ClientBundle) : PyJson :=
  .dict [("type", .str bundle.type), ("version", .int bundle.version),
    ("server_url", .str bundle.serverUrl), ("server_spki_pin", .str bundle.serverSpkiPin),
    ("client_certificate_pem", .str bundle.clientCertificatePem),
    ("client_private_key_pem", .str bundle.clientPrivateKeyPem)]

/-- `json.dumps(bundle, indent=2, ensure_ascii=True)` -/
def ClientBundle.dumps (bundle : ClientBundle) : List Char := Json.indented 2 0 bundle.dict

/-- What `except FileExistsError` makes of it. -/
def overwriteException (path : PosixPath) : OsError → PyException
  | .fileExists _ =>
    valueError (pathText path ++ " already exists; refusing to overwrite private material")
  | e => osException e

/-- `_write_private_json` -/
def writePrivateJson (fails : PosixPath → Faults (List UInt8)) (umask : ℕ) (path : PosixPath)
    (bundle : ClientBundle) : OnTree (List UInt8) Unit := do
  let tree ← .get
  let parent := path.parent
  .ofExcept (raiseIf (tree.isSymlink parent) (pathText parent ++ " is a symlink"))
  .ofExcept (raiseIf (!tree.isDir parent) (pathText parent ++ " is not a directory"))
  let data ← .ofExcept (asciiEncode bundle.dumps)
  .mapError (overwriteException path) (FileTree.openNew fails umask PRIVATE_FILE_MODE path)
  .mapError osException (FileTree.write fails path (data ++ latin1Encode "\n"))
  .mapError osException (FileTree.chmod fails PRIVATE_FILE_MODE path)

section Write

variable (crypto : Cryptography (List UInt8)) (urlparse : String → Except PyException ParsedUrl)

/-- `write_client_bundle_file`, at the time `now`. -/
def writeClientBundleFile (fails : PosixPath → Faults (List UInt8)) (umask : ℕ) (now : ℤ)
    (outputPath : PosixPath) (serverUrl : String)
    (serverSpkiPinFile clientCaCertificateFile clientCertificateFile clientPrivateKeyFile :
      PosixPath) : OnTree (List UInt8) ClientBundle := do
  let tree ← .get
  let serverSpkiPin ← .ofExcept (readPublicText tree serverSpkiPinFile)
  let clientCaCertificatePem ← .ofExcept (readPublicText tree clientCaCertificateFile)
  let clientCertificatePem ← .ofExcept (readPublicText tree clientCertificateFile)
  let clientPrivateKeyPem ← .ofExcept (readPrivateText tree clientPrivateKeyFile)
  let bundle ← .ofExcept (buildClientBundle crypto urlparse now serverUrl serverSpkiPin
    clientCertificatePem clientPrivateKeyPem clientCaCertificatePem)
  writePrivateJson fails umask outputPath bundle
  return bundle

end Write

/-! ## Texts in ASCII -/

/-- A text that is in a file as it is: in ASCII, with LF. -/
def Plain (text : String) : Prop := ∀ c ∈ text.toList, c.toNat < 128 ∧ c ≠ '\r'

variable {text label : String} {tree tree' : FileTree (List UInt8)} {path : PosixPath} {mode : ℕ}

theorem asciiEncode_eq_ok (h : Plain text) : asciiEncode text.toList = .ok (latin1Encode text) := by
  rw [asciiEncode, if_pos (List.all_eq_true.mpr fun c hc => decide_eq_true (h c hc).1)]
  rfl

theorem asciiDecode_eq_ok (h : Plain text) : asciiDecode (latin1Encode text) = .ok text := by
  have hbytes : ((latin1Encode text).all fun b => b < 128) = true := by
    refine List.all_eq_true.mpr fun b hb => decide_eq_true ?_
    obtain ⟨c, hc, rfl⟩ := List.mem_map.mp hb
    have hlt := (h c hc).1
    rw [UInt8.lt_iff_toNat_lt, Nat.toUInt8, UInt8.toNat_ofNat', Nat.mod_eq_of_lt (by omega)]
    exact hlt
  rw [asciiDecode, if_pos hbytes, latin1Decode_encode fun c hc => by
    have hlt := (h c hc).1
    omega]

/-- **Such a text is read as it is.** -/
theorem readText_eq_ok (hpath : tree path = some (.file mode (latin1Encode text)))
    (h : Plain text) : readText tree path = .ok text := by
  refine Effect.except_bind_eq_ok.mpr ⟨_, read_eq_ok hpath, ?_⟩
  rw [asciiDecode_eq_ok h]
  refine congrArg Except.ok ?_
  rw [normalizeNewlines_of_notMem fun hmem => (h '\r' hmem).2 rfl, String.ofList_toList]

theorem readPublicText_eq_ok (hpath : tree path = some (.file PUBLIC_FILE_MODE (latin1Encode text)))
    (h : Plain text) : readPublicText tree path = .ok text :=
  Effect.except_bind_eq_ok.mpr ⟨(), validateFile_eq_ok hpath, readText_eq_ok hpath h⟩

theorem readPrivateText_eq_ok
    (hpath : tree path = some (.file PRIVATE_FILE_MODE (latin1Encode text))) (h : Plain text) :
    readPrivateText tree path = .ok text :=
  Effect.except_bind_eq_ok.mpr ⟨(), validateFile_eq_ok hpath, readText_eq_ok hpath h⟩

/-! ## What is written -/

variable {bundle : ClientBundle} {umask : ℕ}

/-- The text of the file. -/
def ClientBundle.fileText (bundle : ClientBundle) : String :=
  String.ofList (bundle.dumps ++ ['\n'])

theorem printable_dict (bundle : ClientBundle) : Json.Printable bundle.dict := by
  refine .dict (by simp) fun f hf => ?_
  simp only [List.mem_cons, List.not_mem_nil, or_false] at hf
  rcases hf with rfl | rfl | rfl | rfl | rfl | rfl
  · exact .str _
  · exact .int _
  all_goals exact .str _

theorem plain_of_isAscii {c : Char} (hc : Json.IsAscii c) : c.toNat < 128 ∧ c ≠ '\r' := by
  rcases hc with rfl | ⟨hlow, hhigh⟩
  · decide
  · refine ⟨by omega, ?_⟩
    rintro rfl
    exact absurd hlow (by decide)

theorem plain_fileText (bundle : ClientBundle) : Plain bundle.fileText := by
  intro c hc
  rw [ClientBundle.fileText, String.toList_ofList] at hc
  rcases List.mem_append.mp hc with hc | hc
  · exact plain_of_isAscii ((printable_dict bundle).ascii_indented 2 0 c hc)
  · exact plain_of_isAscii (Or.inl (List.mem_singleton.mp hc))

/-- **What the file says** is the bundle and nothing else. -/
theorem document_fileText (bundle : ClientBundle) (v : PyJson) :
    Json.Document v bundle.fileText.toList ↔ v = bundle.dict := by
  have hself : Json.Document bundle.dict bundle.fileText.toList := by
    refine ⟨[], bundle.dumps, ['\n'], Json.blank_nil, List.forall_mem_singleton.mpr rfl, ?_,
      (printable_dict bundle).text_indented 2 0⟩
    rw [ClientBundle.fileText, String.toList_ofList, List.nil_append]
  exact ⟨fun h => h.unique hself, fun h => h ▸ hself⟩

/-- The tree with the file of a bundle. -/
def withBundle (path : PosixPath) (bundle : ClientBundle) (tree : FileTree (List UInt8)) :
    FileTree (List UInt8) :=
  Function.update tree path (some (.file PRIVATE_FILE_MODE (latin1Encode bundle.fileText)))

/-- The mask gives no permission that was not asked for. -/
theorem masked_and_mode (umask mode : ℕ) :
    FileTree.masked umask mode &&& mode = FileTree.masked umask mode := by
  rw [FileTree.masked, Nat.and_assoc, Nat.and_comm _ mode, ← Nat.and_assoc, Nat.and_self]

theorem asciiEncode_dumps (bundle : ClientBundle) :
    asciiEncode bundle.dumps = .ok (latin1Encode (String.ofList bundle.dumps)) := by
  have hplain : Plain (String.ofList bundle.dumps) := fun c hc =>
    plain_fileText bundle c (by
      rw [String.toList_ofList] at hc
      rw [ClientBundle.fileText, String.toList_ofList]
      exact List.mem_append_left _ hc)
  simpa using asciiEncode_eq_ok hplain

theorem latin1Encode_fileText (bundle : ClientBundle) :
    latin1Encode (String.ofList bundle.dumps) ++ latin1Encode "\n" =
      latin1Encode bundle.fileText := by
  simp [latin1Encode, ClientBundle.fileText]

/-- **A place for a new file**: nothing is there, not even a link, and it is in a directory. -/
structure Free (tree : FileTree (List UInt8)) (path : PosixPath) : Prop where
  none : tree path = none
  parent : ∃ m, tree path.parent = some (.dir m)

/-- No call fails that makes a file. -/
structure MakesFile (faults : Faults (List UInt8)) : Prop where
  creat : faults.creat = none
  write : faults.write = none
  chmod : faults.chmod = none

/-- **What is left of a file that was opened and not finished.**  Nothing was there, and now
there is a file that nobody but its owner can read.  Nothing else has changed. -/
def LeftOver (faults : Faults (List UInt8)) (path : PosixPath) (data : List UInt8)
    (tree tree' : FileTree (List UInt8)) : Prop :=
  ∃ mode content, mode &&& PRIVATE_FILE_MODE = mode ∧ Unfinished faults data content ∧
    tree' = Function.update tree path (some (.file mode content))

section Write

variable (fails : PosixPath → Faults (List UInt8)) (umask : ℕ) (path : PosixPath)
  (bundle : ClientBundle) (tree : FileTree (List UInt8))

/-- **Only a directory is written into.** -/
theorem writePrivateJson_eq :
    writePrivateJson fails umask path bundle tree =
      match tree path.parent with
      | some (.symlink _) => (.error (valueError (pathText path.parent ++ " is a symlink")), tree)
      | some (.dir _) =>
        (Effect.mapError (overwriteException path)
            (FileTree.openNew fails umask PRIVATE_FILE_MODE path) >>= fun () =>
          .mapError osException (FileTree.write fails path (latin1Encode bundle.fileText)) >>=
            fun () => .mapError osException (FileTree.chmod fails PRIVATE_FILE_MODE path)) tree
      | _ => (.error (valueError (pathText path.parent ++ " is not a directory")), tree) := by
  rw [writePrivateJson, Effect.get_bind]
  have hdata := latin1Encode_fileText bundle
  cases hparent : tree path.parent with
  | none =>
    simp only [FileTree.isSymlink, FileTree.isDir, FileTree.follow, hparent]
    exact (Effect.bind_of_ok rfl).trans (Effect.bind_of_error rfl)
  | some node =>
    cases node with
    | file mode content =>
      simp only [FileTree.isSymlink, FileTree.isDir, FileTree.follow, hparent]
      exact (Effect.bind_of_ok rfl).trans (Effect.bind_of_error rfl)
    | symlink target =>
      simp only [FileTree.isSymlink, hparent]
      exact Effect.bind_of_error rfl
    | dir m =>
      have hsymlink : tree.isSymlink path.parent = false := by rw [FileTree.isSymlink, hparent]
      have hdir : tree.isDir path.parent = true := by
        rw [FileTree.isDir, FileTree.follow, hparent]
      rw [hsymlink, hdir, asciiEncode_dumps]
      refine (Effect.bind_of_ok rfl).trans ((Effect.bind_of_ok rfl).trans
        ((Effect.bind_of_ok rfl).trans ?_))
      rw [hdata]

/-- **What comes of it.**  Either nothing is done; or a file was opened where it could be,
and is left over; or it is made. -/
theorem writePrivateJson_cases :
    ((∃ exc, writePrivateJson fails umask path bundle tree = (.error exc, tree)) ∧
        ¬ (Free tree path ∧ MakesFile (fails path))) ∨
      (Free tree path ∧ ¬ MakesFile (fails path) ∧ ∃ exc tree',
        writePrivateJson fails umask path bundle tree = (.error exc, tree') ∧
        LeftOver (fails path) path (latin1Encode bundle.fileText) tree tree') ∨
      (Free tree path ∧ MakesFile (fails path) ∧
        writePrivateJson fails umask path bundle tree = (.ok (), withBundle path bundle tree)) := by
  rw [writePrivateJson_eq]
  cases hparent : tree path.parent with
  | none => exact Or.inl ⟨⟨_, rfl⟩, fun h => by simpa [hparent] using h.1.parent⟩
  | some node =>
    cases node with
    | file mode content => exact Or.inl ⟨⟨_, rfl⟩, fun h => by simpa [hparent] using h.1.parent⟩
    | symlink target => exact Or.inl ⟨⟨_, rfl⟩, fun h => by simpa [hparent] using h.1.parent⟩
    | dir m =>
      dsimp only
      rcases FileTree.openNew_cases fails umask PRIVATE_FILE_MODE path tree with
        ⟨e, hopen⟩ | ⟨hnone, hopen⟩
      · refine Or.inl ⟨⟨overwriteException path e, Effect.bind_of_error ?_⟩, fun h => ?_⟩
        · rw [Effect.mapError, hopen]
          rfl
        · have hopened := FileTree.openNew_eq_ok umask PRIVATE_FILE_MODE h.2.creat h.1.none hparent
          exact absurd (congrArg Prod.fst (hopen.symm.trans hopened)) (by simp)
      · have hfree : Free tree path := ⟨hnone, m, hparent⟩
        rw [Effect.bind_of_ok (Effect.mapError_of_ok hopen)]
        rcases finishFile_cases (latin1Encode bundle.fileText) PRIVATE_FILE_MODE
            (Function.update_self path _ tree) with
          ⟨exc, content, hleft, hfinish⟩ | ⟨hwrite, hchmod, hfinish⟩
        · refine Or.inr (Or.inl ⟨hfree, fun h => ?_, exc, _, hfinish, _, content,
            masked_and_mode umask _, hleft, Function.update_idem ..⟩)
          rcases hleft with ⟨e, hfault⟩ | ⟨-, ⟨e, hfault⟩, -⟩
          · exact absurd (hfault.symm.trans h.write) (Option.some_ne_none _)
          · exact absurd (hfault.symm.trans h.chmod) (Option.some_ne_none _)
        · refine Or.inr (Or.inr ⟨hfree, ⟨?_, hwrite, hchmod⟩, ?_⟩)
          · cases hcreat : (fails path).creat with
            | none => rfl
            | some e =>
              rw [FileTree.openNew, hcreat] at hopen
              exact absurd (congrArg Prod.fst hopen) (by simp)
          · rw [hfinish, Function.update_idem]
            rfl

end Write

section Exact

variable (crypto : Cryptography (List UInt8)) (urlparse : String → Except PyException ParsedUrl)
  (now : ℤ) (tree : FileTree (List UInt8)) (serverUrl : String)
  (serverSpkiPinFile clientCaCertificateFile clientCertificateFile clientPrivateKeyFile :
    PosixPath)

/-- The bundle of what is in the files. -/
def bundleOfFiles : Except PyException ClientBundle := do
  let serverSpkiPin ← readPublicText tree serverSpkiPinFile
  let clientCaCertificatePem ← readPublicText tree clientCaCertificateFile
  let clientCertificatePem ← readPublicText tree clientCertificateFile
  let clientPrivateKeyPem ← readPrivateText tree clientPrivateKeyFile
  buildClientBundle crypto urlparse now serverUrl serverSpkiPin clientCertificatePem
    clientPrivateKeyPem clientCaCertificatePem

/-- **First the bundle, then the file.** -/
theorem writeClientBundleFile_eq (fails : PosixPath → Faults (List UInt8)) (umask : ℕ)
    (outputPath : PosixPath) :
    writeClientBundleFile crypto urlparse fails umask now outputPath serverUrl serverSpkiPinFile
        clientCaCertificateFile clientCertificateFile clientPrivateKeyFile tree =
      match bundleOfFiles crypto urlparse now tree serverUrl serverSpkiPinFile
        clientCaCertificateFile clientCertificateFile clientPrivateKeyFile with
      | .error exc => (.error exc, tree)
      | .ok bundle =>
        (writePrivateJson fails umask outputPath bundle >>= fun () => pure bundle) tree := by
  rw [writeClientBundleFile, Effect.get_bind, bundleOfFiles]
  cases readPublicText tree serverSpkiPinFile with
  | error exc => rfl
  | ok serverSpkiPin =>
    cases readPublicText tree clientCaCertificateFile with
    | error exc => rfl
    | ok clientCaCertificatePem =>
      cases readPublicText tree clientCertificateFile with
      | error exc => rfl
      | ok clientCertificatePem =>
        cases readPrivateText tree clientPrivateKeyFile with
        | error exc => rfl
        | ok clientPrivateKeyPem =>
          refine (Effect.bind_of_ok rfl).trans ((Effect.bind_of_ok rfl).trans
            ((Effect.bind_of_ok rfl).trans ((Effect.bind_of_ok rfl).trans ?_)))
          show _ = match buildClientBundle crypto urlparse now serverUrl serverSpkiPin
              clientCertificatePem clientPrivateKeyPem clientCaCertificatePem with
            | .error exc => _
            | .ok bundle => _
          cases buildClientBundle crypto urlparse now serverUrl serverSpkiPin clientCertificatePem
            clientPrivateKeyPem clientCaCertificatePem with
          | error exc => rfl
          | ok bundle => rfl

/-- **The file of a bundle is made exactly if there is a bundle and a place for it**, and none of
the calls that make it fails.  The place is free if nothing is there, not even a link, and its
directory is one.  Then only its owner can read the file, whatever the mask; nothing else has
changed; and a reader finds the bundle in it and nothing else.

Otherwise there is an exception, and nothing has changed, but for what is left over when the
file could be opened and not be finished. -/
theorem bundle_file_exact (fails : PosixPath → Faults (List UInt8)) (umask : ℕ)
    (outputPath : PosixPath) :
    ∃ result tree', writeClientBundleFile crypto urlparse fails umask now outputPath serverUrl
        serverSpkiPinFile clientCaCertificateFile clientCertificateFile clientPrivateKeyFile tree =
          (result, tree') ∧
      (∀ bundle, result = .ok bundle ↔
        bundleOfFiles crypto urlparse now tree serverUrl serverSpkiPinFile clientCaCertificateFile
            clientCertificateFile clientPrivateKeyFile = .ok bundle ∧
          Free tree outputPath ∧ MakesFile (fails outputPath)) ∧
      (∀ bundle, result = .ok bundle →
        (∀ path, path ≠ outputPath → tree' path = tree path) ∧
        (∃ content, tree' outputPath = some (.file PRIVATE_FILE_MODE content)) ∧
        ∃ text, readPrivateText tree' outputPath = .ok text ∧
          ∀ v, Json.Document v text.toList ↔ v = bundle.dict) ∧
      ∀ exc, result = .error exc → tree' = tree ∨
        ∃ bundle, bundleOfFiles crypto urlparse now tree serverUrl serverSpkiPinFile
            clientCaCertificateFile clientCertificateFile clientPrivateKeyFile = .ok bundle ∧
          Free tree outputPath ∧ ¬ MakesFile (fails outputPath) ∧
          LeftOver (fails outputPath) outputPath (latin1Encode bundle.fileText) tree tree' := by
  rw [writeClientBundleFile_eq]
  cases hbundle : bundleOfFiles crypto urlparse now tree serverUrl serverSpkiPinFile
      clientCaCertificateFile clientCertificateFile clientPrivateKeyFile with
  | error exc =>
    refine ⟨.error exc, tree, rfl, ?_, ?_, fun _ _ => Or.inl rfl⟩
    · intro bundle
      simp
    · intro bundle hok
      simp at hok
  | ok bundle =>
    rcases writePrivateJson_cases fails umask outputPath bundle tree with
      ⟨⟨exc, hwrite⟩, hnot⟩ | ⟨hfree, hfails, exc, tree', hwrite, hleft⟩ | ⟨hfree, hmakes, hwrite⟩
    · refine ⟨.error exc, tree, Effect.bind_of_error hwrite, ?_, ?_, fun _ _ => Or.inl rfl⟩
      · intro bundle'
        exact iff_of_false (by simp) fun h => hnot h.2
      · intro bundle' hok
        simp at hok
    · refine ⟨.error exc, tree', Effect.bind_of_error hwrite, ?_, ?_, ?_⟩
      · intro bundle'
        exact iff_of_false (by simp) fun h => hfails h.2.2
      · intro bundle' hok
        simp at hok
      · intro exc' _
        exact Or.inr ⟨bundle, rfl, hfree, hfails, hleft⟩
    · refine ⟨.ok bundle, withBundle outputPath bundle tree, Effect.bind_of_ok hwrite, ?_, ?_, ?_⟩
      · intro bundle'
        constructor
        · intro h
          exact ⟨h, hfree, hmakes⟩
        · intro h
          exact h.1
      · intro bundle' hok
        obtain rfl := Except.ok.inj hok
        have hself : withBundle outputPath bundle tree outputPath =
            some (.file PRIVATE_FILE_MODE (latin1Encode bundle.fileText)) :=
          Function.update_self ..
        exact ⟨fun path hne => Function.update_of_ne hne _ _, ⟨_, hself⟩, bundle.fileText,
          readPrivateText_eq_ok hself (plain_fileText bundle), document_fileText bundle⟩
      · intro exc hraised
        simp at hraised

end Exact

/-! ## What has been generated -/

/-- **A PEM file**: a text that begins and ends with the markers of its label. -/
structure IsPemFile (label : String) (raw : List UInt8) (text : String) : Prop where
  bytes : raw = latin1Encode text
  plain : Plain text
  begins : beginLine label ++ ['\n'] <+: text.toList
  ends : endLine label ++ ['\n'] <:+ text.toList

/-- The package writes PEM files. -/
structure WritesPem (crypto : Cryptography (List UInt8)) : Prop where
  certificate : ∀ cert, ∃ text, IsPemFile "CERTIFICATE" (crypto.certificatePem cert) text
  privateKey : ∀ key, ∃ text, IsPemFile "PRIVATE KEY" (crypto.privateKeyPem key) text

/-- **A PEM file is taken as it is.** -/
theorem pemText_of_isPemFile {raw : List UInt8} (h : IsPemFile label raw text) :
    pemText text = text.toList := by
  obtain ⟨u, hu⟩ := h.ends
  rw [← List.append_assoc] at hu
  obtain ⟨w, hw⟩ := exists_endLine label
  have hshape : ∃ cs, u ++ endLine label = '-' :: (cs ++ ['-']) := by
    cases u with
    | nil => exact ⟨w, hw⟩
    | cons c u =>
      obtain ⟨v, hv⟩ := h.begins
      have hc : '-' = c := by
        rw [← hu] at hv
        exact (List.cons.inj hv).1
      exact ⟨u ++ '-' :: w, by rw [← hc, hw]; simp⟩
  obtain ⟨cs, hcs⟩ := hshape
  have hspace : ∀ c ∈ ['\n'], isPySpace c = true := List.forall_mem_singleton.mpr rfl
  have hstrip := Json.pyStripChars_append (List.forall_mem_nil _) hspace (by decide) (by decide) hcs
  rw [List.nil_append, hu] at hstrip
  have hreturn : '\r' ∉ u ++ endLine label := fun hmem =>
    (h.plain '\r' (hu ▸ List.mem_append_left _ hmem)).2 rfl
  rw [pemText, hstrip, normalizeNewlines_of_notMem hreturn, hu]

theorem normalizePemBlock_of_isPemFile {raw : List UInt8} (h : IsPemFile label raw text) :
    normalizePemBlock text label = .ok text := by
  rw [normalizePemBlock_eq_ok_iff, pemText_of_isPemFile h]
  exact ⟨⟨h.begins, h.ends⟩, fun c hc => (h.plain c hc).1, (String.ofList_toList ..).symm⟩

section Provision

variable {crypto : Cryptography (List UInt8)} {urlparse : String → Except PyException ParsedUrl}
  {world : Surroundings crypto} {certsDir keysDir : PosixPath} {subject : String} {days t : ℤ}

/-- A certificate is loaded from its text as it is from its file. -/
theorem loadEcPublicKeyFromCert_eq_ok (laws : Lawful crypto) {cert : Certificate}
    (hcurve : cert.tbs.publicKey.curve = some SECP256R1)
    (h : IsPemFile label (crypto.certificatePem cert) text) (what : String) :
    loadEcPublicKeyFromCert crypto text what = .ok (cert, cert.tbs.publicKey) := by
  refine Effect.except_bind_eq_ok.mpr ⟨_, asciiEncode_eq_ok h.plain, ?_⟩
  rw [← h.bytes]
  exact ecPublicKeyFromCert_eq_ok laws hcurve _ _

theorem loadEcPrivateKey_eq_ok (laws : Lawful crypto) {key : crypto.Key}
    (hcurve : (crypto.publicKey key).curve = some SECP256R1)
    (h : IsPemFile label (crypto.privateKeyPem key) text) :
    loadEcPrivateKey crypto text = .ok key := by
  refine Effect.except_bind_eq_ok.mpr ⟨_, asciiEncode_eq_ok h.plain, ?_⟩
  rw [← h.bytes]
  exact ecPrivateKey_eq_ok laws hcurve _ _

/-- What is in the pin file is a text like that. -/
theorem plain_pinLine (digest : Vector UInt8 32) : Plain (serverPin digest.toList ++ "\n") := by
  have hbegins : ∀ c ∈ SERVER_PIN_PREFIX.toList, c.toNat < 128 ∧ c ≠ '\r' := by
    simp [SERVER_PIN_PREFIX]
  have hend : ∀ c ∈ "\n".toList, c.toNat < 128 ∧ c ≠ '\r' := by simp
  intro c hc
  rw [String.toList_append, serverPin, String.toList_append, String.toList_ofList] at hc
  rcases List.mem_append.mp hc with hc | hc
  · rcases List.mem_append.mp hc with hc | hc
    · exact hbegins c hc
    · obtain ⟨hlow, hhigh⟩ := Base64.toNat_of_mem_encode hc
      refine ⟨by omega, ?_⟩
      rintro rfl
      exact absurd hlow (by decide)
  · exact hend c hc

/-- **What was made of sound material** is put together without a change. -/
theorem bundleOfFiles_eq_ok (laws : Lawful crypto) {ca client : Certificate}
    {clientKey : crypto.Key} {caText certText keyText serverUrl origin : String}
    {pinFile caFile certFile keyFile : PosixPath} {digest : Vector UInt8 32}
    (hurl : normalizeBaseUrl urlparse serverUrl = .ok origin)
    (hpin : tree pinFile = some (.file PUBLIC_FILE_MODE
      (Proxy.pinLine (serverPin digest.toList))))
    (hca : tree caFile = some (.file PUBLIC_FILE_MODE (crypto.certificatePem ca)))
    (hcert : tree certFile = some (.file PUBLIC_FILE_MODE (crypto.certificatePem client)))
    (hkey : tree keyFile = some (.file PRIVATE_FILE_MODE (crypto.privateKeyPem clientKey)))
    (hcaText : IsPemFile "CERTIFICATE" (crypto.certificatePem ca) caText)
    (hcertText : IsPemFile "CERTIFICATE" (crypto.certificatePem client) certText)
    (hkeyText : IsPemFile "PRIVATE KEY" (crypto.privateKeyPem clientKey) keyText)
    (hcaCurve : ca.tbs.publicKey.curve = some SECP256R1)
    (hclientCurve : client.tbs.publicKey.curve = some SECP256R1)
    (hkeyCurve : (crypto.publicKey clientKey).curve = some SECP256R1)
    (hsound : SoundMaterial crypto t (ca, ca.tbs.publicKey) (client, client.tbs.publicKey)
      clientKey) :
    bundleOfFiles crypto urlparse t tree serverUrl pinFile caFile certFile keyFile =
      .ok { type := BUNDLE_TYPE
            version := BUNDLE_VERSION
            serverUrl := origin
            serverSpkiPin := serverPin digest.toList
            clientCertificatePem := certText
            clientPrivateKeyPem := keyText } := by
  rw [hcaText.bytes] at hca
  rw [hcertText.bytes] at hcert
  rw [hkeyText.bytes] at hkey
  have hvalid : validateClientMaterial crypto t certText keyText caText = .ok () := by
    rw [validateClientMaterial, loadEcPublicKeyFromCert_eq_ok laws hcaCurve hcaText,
      loadEcPublicKeyFromCert_eq_ok laws hclientCurve hcertText,
      loadEcPrivateKey_eq_ok laws hkeyCurve hkeyText]
    exact checkMaterial_eq_ok_iff.mpr hsound
  rw [bundleOfFiles, readPublicText_eq_ok hpin (plain_pinLine digest),
    readPublicText_eq_ok hca hcaText.plain, readPublicText_eq_ok hcert hcertText.plain,
    readPrivateText_eq_ok hkey hkeyText.plain]
  refine Effect.except_bind_eq_ok.mpr ⟨_, rfl, Effect.except_bind_eq_ok.mpr ⟨_, rfl,
    Effect.except_bind_eq_ok.mpr ⟨_, rfl, Effect.except_bind_eq_ok.mpr ⟨_, rfl, ?_⟩⟩⟩⟩
  rw [buildClientBundle, hurl, normalizeServerPin_line, normalizePemBlock_of_isPemFile hcertText,
    normalizePemBlock_of_isPemFile hkeyText, normalizePemBlock_of_isPemFile hcaText]
  exact seq_eq_ok_iff.mpr ⟨hvalid, rfl⟩

/-- **A client is provisioned.**  A credential that is asked for is generated; and from
then on until it ends, and with whatever pin the proxy has written, a bundle of it can be
made, in a file of its own.  What the bundle says is the URL, this pin, a certificate of
the subject that was asked for, and the key that belongs to it. -/
theorem provisioned_bundle (laws : Lawful crypto) (pem : WritesPem crypto)
    (hworks : FileTree.Works world.fails) (hcerts : Target tree certsDir)
    (hkeys : Target tree keysDir) (hapart : Apart certsDir keysDir)
    (hsubject : validateSubject subject = .ok ()) (hdays : validateDays days = .ok ())
    (hfrom : world.now ≤ world.later) (huntil : world.later < validityEnd world.now days)
    (hshort : (Utf8.encode subject.toList).length ≤ 64) {serverUrl origin : String}
    (hurl : normalizeBaseUrl urlparse serverUrl = .ok origin) :
    ∃ tree' clientSubject certificate,
      generateClientAuthArtifacts crypto world certsDir keysDir subject days tree =
        (.ok (.generated (pathText (clientCaCertPath certsDir)) (pathText (clientCertPath keysDir))
          (pathText (clientKeyPath keysDir))), tree') ∧
      crypto.commonName subject = .ok clientSubject ∧ certificate.tbs.subject = clientSubject ∧
      certificate.tbs.publicKey = crypto.publicKey world.clientKey ∧
      ∀ (deployed : FileTree (List UInt8)) (pinFile outputPath : PosixPath)
          (digest : Vector UInt8 32) (fails : PosixPath → Faults (List UInt8)) (umask : ℕ) (t : ℤ),
        (∀ path ∈ [clientCaCertPath certsDir, clientCertPath keysDir, clientKeyPath keysDir],
          deployed path = tree' path) →
        deployed pinFile = some (.file PUBLIC_FILE_MODE
          (Proxy.pinLine (serverPin digest.toList))) →
        Free deployed outputPath → MakesFile (fails outputPath) →
        world.now ≤ t → t < validityEnd world.now days →
        ∃ bundle, writeClientBundleFile crypto urlparse fails umask t outputPath serverUrl
            pinFile (clientCaCertPath certsDir) (clientCertPath keysDir) (clientKeyPath keysDir)
            deployed = (.ok bundle, withBundle outputPath bundle deployed) ∧
          bundle.serverUrl = origin ∧ bundle.serverSpkiPin = serverPin digest.toList ∧
          crypto.loadPemX509Certificate (latin1Encode bundle.clientCertificatePem) =
            .ok certificate ∧
          crypto.loadPemPrivateKey (latin1Encode bundle.clientPrivateKeyPem) =
            .ok world.clientKey := by
  obtain ⟨tree', caSubject, clientSubject, hgenerated, hclient, hissued⟩ :=
    generateClientAuthArtifacts_issued world laws hworks hcerts hkeys hapart hsubject hdays hfrom
      huntil hshort
  refine ⟨tree', clientSubject, clientCertificate crypto world caSubject clientSubject days,
    hgenerated, hclient, rfl, rfl, ?_⟩
  intro deployed pinFile outputPath digest fails umask t hsame hpin hout hmakes hfrom huntil
  obtain ⟨caText, hcaText⟩ := pem.certificate (caCertificate crypto world caSubject days)
  obtain ⟨certText, hcertText⟩ := pem.certificate
    (clientCertificate crypto world caSubject clientSubject days)
  obtain ⟨keyText, hkeyText⟩ := pem.privateKey world.clientKey
  have hbundle := bundleOfFiles_eq_ok laws hurl hpin
    ((hsame _ (by simp)).trans hissued.ca) ((hsame _ (by simp)).trans hissued.client)
    ((hsame _ (by simp)).trans hissued.key) hcaText hcertText hkeyText world.caCurve
    world.clientCurve world.clientCurve (soundMaterial_generated laws hfrom huntil)
  refine ⟨⟨BUNDLE_TYPE, BUNDLE_VERSION, origin, serverPin digest.toList, certText, keyText⟩, ?_,
    rfl, rfl, ?_, ?_⟩
  · rw [writeClientBundleFile_eq, hbundle]
    rcases writePrivateJson_cases fails umask outputPath _ deployed with
      ⟨-, hnot⟩ | ⟨-, hnot, -⟩ | ⟨-, -, hwrite⟩
    · exact absurd ⟨hout, hmakes⟩ hnot
    · exact absurd hmakes hnot
    · exact Effect.bind_of_ok hwrite
  · rw [← hcertText.bytes]
    exact laws.load_certificatePem _
  · rw [← hkeyText.bytes]
    exact laws.load_privateKeyPem _

end Provision

/-! ### A run -/

/-- There are not more certificates than numbers. -/
theorem countable_certificate : Countable Certificate := by
  have hchar : Countable Char := Function.Injective.countable fun _ _ => Char.toNat_inj.mp
  have hbyte : Countable UInt8 := Function.Injective.countable fun _ _ => UInt8.toNat_inj.mp
  have hstring : Countable String := Function.Injective.countable fun _ _ => String.toList_inj.mp
  have hkey : Countable PublicKey := by
    refine Function.Injective.countable (f := fun key : PublicKey => (key.curve, key.numbers)) ?_
    rintro ⟨_, _⟩ ⟨_, _⟩ h
    cases h
    rfl
  have hconstraints : Countable BasicConstraints := by
    refine Function.Injective.countable (f := fun c : BasicConstraints => (c.ca, c.pathLength)) ?_
    rintro ⟨_, _⟩ ⟨_, _⟩ h
    cases h
    rfl
  have husage : Countable KeyUsage := by
    refine Function.Injective.countable (f := fun u : KeyUsage =>
      (u.digitalSignature, u.contentCommitment, u.keyEncipherment, u.dataEncipherment,
        u.keyAgreement, u.keyCertSign, u.crlSign, u.encipherOnly, u.decipherOnly)) ?_
    rintro ⟨_, _, _, _, _, _, _, _, _⟩ ⟨_, _, _, _, _, _, _, _, _⟩ h
    cases h
    rfl
  have htbs : Countable TbsCertificate := by
    refine Function.Injective.countable (f := fun c : TbsCertificate =>
      (c.subject, c.issuer, c.publicKey, c.serialNumber, c.notValidBefore, c.notValidAfter,
        c.basicConstraints, c.keyUsage, c.extendedKeyUsage)) ?_
    rintro ⟨_, _, _, _, _, _, _, _, _⟩ ⟨_, _, _, _, _, _, _, _, _⟩ h
    cases h
    rfl
  refine Function.Injective.countable (f := fun c : Certificate =>
    (c.tbs, c.signatureHashAlgorithm, c.signature)) ?_
  rintro ⟨_, _, _⟩ ⟨_, _, _⟩ h
  cases h
  rfl

/-- A PEM block with a number in it. -/
def numberedBlock (label : String) (n : ℕ) : String :=
  String.ofList (pemBlock label (String.ofList (Json.writeInt n)))

theorem plain_numberedBlock (hlabel : Plain label) (n : ℕ) : Plain (numberedBlock label n) := by
  have hbegin : Plain "-----BEGIN " := by simp [Plain]
  have hend : Plain "-----END " := by simp [Plain]
  have hdashes : Plain "-----" := by simp [Plain]
  have hnumber (c : Char) (hc : c ∈ Json.writeInt n) : c.toNat < 128 ∧ c ≠ '\r' :=
    plain_of_isAscii (Json.ascii_number (Json.numberValue_writeInt n) c hc)
  have hbreak : ('\n' : Char).toNat < 128 ∧ '\n' ≠ '\r' := by decide
  have hall {b e l d w : List Char} (hb : ∀ c ∈ b, c.toNat < 128 ∧ c ≠ '\r')
      (he : ∀ c ∈ e, c.toNat < 128 ∧ c ≠ '\r') (hl : ∀ c ∈ l, c.toNat < 128 ∧ c ≠ '\r')
      (hd : ∀ c ∈ d, c.toNat < 128 ∧ c ≠ '\r') (hw : ∀ c ∈ w, c.toNat < 128 ∧ c ≠ '\r') :
      ∀ c ∈ (b ++ (l ++ d)) ++ '\n' :: (w ++ '\n' :: ((e ++ (l ++ d)) ++ ['\n'])),
        c.toNat < 128 ∧ c ≠ '\r' := by
    simp only [List.forall_mem_append, List.forall_mem_cons]
    exact ⟨⟨hb, hl, hd⟩, hbreak, hw, hbreak, ⟨he, hl, hd⟩, hbreak, List.forall_mem_nil _⟩
  rw [Plain, numberedBlock, String.toList_ofList, pemBlock, String.toList_ofList]
  exact hall hbegin hend hlabel hdashes hnumber

/-- The number is read back. -/
theorem numberedBlock_injective (label : String) : Function.Injective (numberedBlock label) := by
  intro n n' h
  have hblock := congrArg String.toList h
  rw [numberedBlock, numberedBlock, String.toList_ofList, String.toList_ofList, pemBlock, pemBlock,
    String.toList_ofList, String.toList_ofList] at hblock
  have hline := List.append_cancel_right (List.cons.inj (List.append_cancel_left hblock)).2
  have hnumber := (Json.numberValue_writeInt n).symm.trans
    ((congrArg Json.numberValue hline).trans (Json.numberValue_writeInt n'))
  exact Int.ofNat.inj (PyJson.int.inj (Option.some_inj.mp hnumber))

/-- The bytes of it are those of a PEM file. -/
theorem isPemFile_numberedBlock (hlabel : Plain label) (n : ℕ) :
    IsPemFile label (latin1Encode (numberedBlock label n)) (numberedBlock label n) where
  bytes := rfl
  plain := plain_numberedBlock hlabel n
  begins := by
    rw [numberedBlock, String.toList_ofList, pemBlock]
    exact ⟨_, by rw [List.append_assoc]; rfl⟩
  ends := by
    rw [numberedBlock, String.toList_ofList, pemBlock]
    exact ⟨beginLine label ++ '\n' :: (Json.writeInt n ++ ['\n']), by simp⟩

theorem plain_certificate : Plain "CERTIFICATE" := by simp [Plain]

theorem plain_privateKey : Plain "PRIVATE KEY" := by simp [Plain]

/-- The number of a certificate. -/
noncomputable def certificateNumber : Certificate → ℕ :=
  (@exists_injective_nat Certificate countable_certificate).choose

theorem certificateNumber_injective : Function.Injective certificateNumber :=
  (@exists_injective_nat Certificate countable_certificate).choose_spec

/-- The file of a certificate, and that of one of two keys. -/
@[irreducible] noncomputable def certificateFile (cert : Certificate) : List UInt8 :=
  latin1Encode (numberedBlock "CERTIFICATE" (certificateNumber cert))

@[irreducible] def keyFile (key : Bool) : List UInt8 :=
  latin1Encode (numberedBlock "PRIVATE KEY" (if key then 1 else 0))

theorem isPemFile_certificateFile (cert : Certificate) :
    ∃ text, IsPemFile "CERTIFICATE" (certificateFile cert) text := by
  rw [certificateFile]
  exact ⟨_, isPemFile_numberedBlock plain_certificate _⟩

theorem isPemFile_keyFile (key : Bool) : ∃ text, IsPemFile "PRIVATE KEY" (keyFile key) text := by
  rw [keyFile]
  exact ⟨_, isPemFile_numberedBlock plain_privateKey _⟩

theorem latin1Encode_injective {text text' : String} (h : Plain text) (h' : Plain text')
    (heq : latin1Encode text = latin1Encode text') : text = text' :=
  Except.ok.inj ((asciiDecode_eq_ok h).symm.trans (heq ▸ asciiDecode_eq_ok h'))

theorem certificateFile_injective : Function.Injective certificateFile := by
  intro cert cert' h
  rw [certificateFile, certificateFile] at h
  exact certificateNumber_injective (numberedBlock_injective _ (latin1Encode_injective
    (plain_numberedBlock plain_certificate _) (plain_numberedBlock plain_certificate _) h))

theorem keyFile_injective : Function.Injective keyFile := by
  intro key key' h
  rw [keyFile, keyFile] at h
  have hnumber := numberedBlock_injective _ (latin1Encode_injective
    (plain_numberedBlock plain_privateKey _) (plain_numberedBlock plain_privateKey _) h)
  revert hnumber
  cases key <;> cases key' <;> decide

/-- What was written to a file is read from it. -/
noncomputable def loadFile (write : α → List UInt8) (raw : List UInt8) : Except PyException α :=
  match Function.partialInv write raw with
  | some a => .ok a
  | none => .error (valueError "Unable to load PEM file.")

theorem loadFile_write {write : α → List UInt8} (h : Function.Injective write) (a : α) :
    loadFile write (write a) = .ok a := by
  rw [loadFile, Function.partialInv_left h]

/-- Two keys, and files with the numbers of what was written. -/
noncomputable def twoKeysPem : Cryptography (List UInt8) where
  Key := Bool
  publicKey := twoKeys.publicKey
  sign := twoKeys.sign
  verify := twoKeys.verify
  certificatePem := certificateFile
  privateKeyPem := keyFile
  loadPemX509Certificate := loadFile certificateFile
  loadPemPrivateKey := loadFile keyFile
  commonName := twoKeys.commonName

theorem lawful_twoKeysPem : Lawful twoKeysPem where
  verify_sign := lawful_twoKeys.verify_sign
  load_certificatePem := loadFile_write certificateFile_injective
  load_privateKeyPem := loadFile_write keyFile_injective
  commonName_of_le := lawful_twoKeys.commonName_of_le
  commonName_of_lt := lawful_twoKeys.commonName_of_lt

theorem writesPem_twoKeysPem : WritesPem twoKeysPem where
  certificate := isPemFile_certificateFile
  privateKey := isPemFile_keyFile

/-- A run of the generator that takes a second. -/
noncomputable def secondRunPem : Surroundings twoKeysPem where
  umask := 0o022
  now := 1700000000 * MICROSECONDS
  later := 1700000001 * MICROSECONDS
  caKey := true
  clientKey := false
  caCurve := rfl
  clientCurve := rfl
  caSerial := 1
  clientSerial := 2

/-- A tree with nothing in it but one file at the root. -/
def treeWith (name : String) (content : List UInt8) : FileTree (List UInt8) := fun p =>
  if p = [] then some (.dir 0o755)
  else if p = [name] then some (.file PUBLIC_FILE_MODE content)
  else none

theorem treeWith_of_ne {name : String} {content : List UInt8} {p : PosixPath} (h : p ≠ [])
    (h' : p ≠ [name]) : treeWith name content p = none := by
  rw [treeWith, if_neg h, if_neg h']

theorem target_treeWith {name other : String} (content : List UInt8) (h : other ≠ name) :
    Target (treeWith name content) [other] where
  free :=
    { root := ⟨_, rfl⟩
      above := fun q hq hne => by
        have hup : q <+: [] ++ [other] := hq
        have hnil := (List.prefix_concat_iff.mp hup).resolve_left hne
        rw [List.prefix_nil.mp hnil]
        exact Or.inr ⟨_, rfl⟩ }
  self := Or.inl (treeWith_of_ne (List.cons_ne_nil _ _) (by simpa using h))
  below q hq _ := by
    refine treeWith_of_ne ?_ ?_
    · rintro rfl
      exact absurd (List.prefix_nil.mp hq) (List.cons_ne_nil _ _)
    · rintro rfl
      exact h (List.cons_prefix_cons.mp hq).1

/-- What is deployed with a pin file, of what was generated. -/
def deployedWith (pin : List UInt8) (tree' : FileTree (List UInt8)) : FileTree (List UInt8) :=
  fun p =>
    if p ∈ [clientCaCertPath ["certs"], clientCertPath ["keys"], clientKeyPath ["keys"]] then
      tree' p
    else treeWith "pin.txt" pin p

/-- The credential that is generated in two empty directories, and the bundle of it. -/
theorem provisioned_bundle_client : ∃ tree',
    generateClientAuthArtifacts twoKeysPem secondRunPem ["certs"] ["keys"] "client" 365
        (treeWith "pin.txt" []) =
      (.ok (.generated "/certs/client-ca.pem" "/keys/client-cert.pem" "/keys/client-key.pem"),
        tree') ∧
    ∃ bundle deployed', writeClientBundleFile twoKeysPem
        (fun _ => .ok ⟨"https", some "a.invalid", none, none, "/", "", "", .ok none⟩)
        (fun _ => {}) 0o022 secondRunPem.later ["client-bundle.vvv.json"] " https://a.invalid/ "
        ["pin.txt"]
        (clientCaCertPath ["certs"]) (clientCertPath ["keys"]) (clientKeyPath ["keys"])
        (deployedWith (Proxy.pinLine (serverPin (Vector.replicate 32 0).toList)) tree') =
      (.ok bundle, deployed') ∧ bundle.serverUrl = "https://a.invalid" := by
  obtain ⟨tree', subject, certificate, hgenerated, -, -, -, hbundle⟩ :=
    @provisioned_bundle (treeWith "pin.txt" []) twoKeysPem
      (fun _ => .ok ⟨"https", some "a.invalid", none, none, "/", "", "", .ok none⟩)
      secondRunPem ["certs"] ["keys"] "client" 365 lawful_twoKeysPem writesPem_twoKeysPem
      (fun _ => rfl)
      (target_treeWith [] (by decide)) (target_treeWith [] (by decide)) ⟨by decide, by decide⟩
      (by decide) (by decide) (by decide) (by decide) (by decide) " https://a.invalid/ "
      "https://a.invalid" (by decide +kernel)
  refine ⟨tree', hgenerated, ?_⟩
  obtain ⟨bundle, hwritten, hurl, -⟩ := hbundle
    (deployedWith (Proxy.pinLine (serverPin (Vector.replicate 32 0).toList)) tree') ["pin.txt"]
    ["client-bundle.vvv.json"] (Vector.replicate 32 0) (fun _ => {}) 0o022
    secondRunPem.later (fun path hpath => if_pos hpath) (if_neg (by decide))
    ⟨if_neg (by decide), 0o755, if_neg (by decide)⟩ ⟨rfl, rfl, rfl⟩ (by decide) (by decide)
  exact ⟨bundle, _, hwritten, hurl⟩

end Scripts

end VibeVoice
