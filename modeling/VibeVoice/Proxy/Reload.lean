import VibeVoice.Proxy.Renewal

/-!
# A certificate that is written and not served

A turn of `cert_renewal_task` writes the certificate, then the pin, then builds the
configuration, then shares it, and gives up where a step fails.  The next turn looks at
the certificate on the disk, and at nothing else.  So a turn that gives up after the
certificate was written is never made up for: the next turn finds a valid certificate
and has nothing to do, and the server goes on with the old one.

`Finishes` is the condition that no turn ends like that.  It is about the failures of a
turn and about what is there before it: if the turn gets as far as the write, then
whatever comes after the write is done.  A write of the certificate that fails is
harmless as long as it does not leave a certificate that would be taken for valid.

In the runs that meet the condition, what is on the disk is what is served, or it is
not valid and the next turn will replace it (`Kept`).  The turn that replaces it has to
succeed for that, and what it needs besides the certificate, the key and the client CA,
has been read once already, at the start.
-/

namespace VibeVoice

namespace Proxy

namespace Renewal

variable {crates : CertCrates} {faults : Faults} {now : ℤ} {validityDays : ℕ}
  {entropy : List UInt8} {files files' : Files} {s s' : State}

/-! ## The condition -/

/-- A certificate file that is valid, now or later. -/
def Acceptable (crates : CertCrates) (now : ℤ) (cert : List UInt8) : Prop :=
  ∃ later, now ≤ later ∧ certExpiry crates later cert ≠ none

/-- The calls before the certificate is written, when there is a key. -/
def beforeWrite : List Site := [.certDir, .keyDir, .keyDirMode, .keyMetadata, .readKey]

/-- The calls after it. -/
def afterWrite : List Site :=
  [.pinReadCert, .pinDir, .writePin, .loadCert, .loadKey, .loadClientCa, .lock]

/-- The certificate that a key is good for. -/
def Makes (crates : CertCrates) (now : ℤ) (validityDays : ℕ) (entropy : List UInt8)
    (files : Files) (text : List UInt8) : Prop :=
  ∃ file keyPair, files.key = some file ∧ file.regular = true ∧ file.mode = 0o600 ∧
    crates.keyPairFromPem file.content = .ok keyPair ∧
    crates.selfSigned entropy (certificateParams now validityDays) keyPair = .ok text

/-- **The condition**: a turn that writes a certificate is not kept from serving it. -/
def Finishes (crates : CertCrates) (validityDays : ℕ) (s : State) : Action → Prop
  | .renew faults entropy =>
    checkCertExpiry crates faults s.now s.files = none →
      (∀ site ∈ beforeWrite, faults site = .done) →
        ∀ text, Makes crates s.now validityDays entropy s.files text →
          (faults .writeCert = .done → Acceptable crates s.now text →
            ∀ site ∈ afterWrite, faults site = .done) ∧
          ∀ left, faults .writeCert = .failed (some left) → ¬ Acceptable crates s.now left
  | .outside _ => ∀ shared, s.phase ≠ .running shared
  | .start _ _ | .tick _ => True

/-- What rcgen makes is read by the other crates, and fits the key it was made with. -/
structure Compatible (crates : CertCrates) : Prop where
  pin : ∀ entropy params keyPair text, crates.selfSigned entropy params keyPair = .ok text →
    ∃ pin, serverSpkiPin crates (crates.pemIter text) = .ok pin
  chain : ∀ entropy params keyPair text, crates.selfSigned entropy params keyPair = .ok text →
    ∃ chain, pemCertificateChain crates text = .ok chain
  pair : ∀ entropy params keyPair text content key chain,
    crates.selfSigned entropy params keyPair = .ok text →
    crates.keyPairFromPem content = .ok keyPair →
    singlePemPrivateKey none (crates.privateKeys content) = .ok key →
    pemCertificateChain crates text = .ok chain → crates.withSingleCert chain key = .ok ()

/-! ## What the steps of a turn do -/

theorem newCertificate_files {x : Except String (List UInt8)} {file : KeyFile}
    (hkey : files.key = some file)
    (h : newCertificate crates faults now validityDays entropy files = (x, files')) :
    files' = files := by
  obtain ⟨hcert, hpin, hca, hfile⟩ := keepsKey_newCertificate.of_eq h
  have hkey' := hfile file hkey
  cases files
  cases files'
  simp_all

/-- A certificate that was made. -/
theorem newCertificate_eq_ok {text : List UInt8} {file : KeyFile} (hkey : files.key = some file)
    (h : newCertificate crates faults now validityDays entropy files = (.ok text, files')) :
    (∀ site ∈ beforeWrite, faults site = .done) ∧
      Makes crates now validityDays entropy files text := by
  unfold newCertificate at h
  simp only [call_bind_eq_ok] at h
  obtain ⟨hcertDir, hkeyDir, hkeyDirMode, h⟩ := h
  obtain ⟨keyPair, s, hpair, hsign⟩ := Effect.bind_eq_ok.mp h
  obtain ⟨hsigned, -⟩ := Effect.ofExcept_eq_ok.mp hsign
  unfold serverKeyPair at hpair
  rw [Effect.get_bind, hkey] at hpair
  simp only [existingKeyPair, call_bind_eq_ok, Effect.require_bind_eq_ok,
    Effect.ofExcept_bind_eq_ok, Effect.ofExcept_eq_ok, readFile_eq_ok] at hpair
  obtain ⟨hmetadata, hregular, hmode, pem, ⟨hreadKey, hpem⟩, hparse, -⟩ := hpair
  obtain rfl := Option.some_inj.mp hpem
  refine ⟨?_, file, keyPair, hkey, hregular, beq_iff_eq.mp hmode, hparse, hsigned⟩
  simp [beforeWrite, hcertDir, hkeyDir, hkeyDirMode, hmetadata, hreadKey]

/-- A certificate that was written. -/
theorem generateSelfSignedCert_eq_ok {file : KeyFile} (hkey : files.key = some file)
    (h : generateSelfSignedCert crates faults now validityDays entropy files =
      (.ok (), files')) :
    ∃ text, (∀ site ∈ beforeWrite, faults site = .done) ∧
      Makes crates now validityDays entropy files text ∧ faults .writeCert = .done ∧
      files' = { files with cert := some text } := by
  obtain ⟨text, s, hnew, hchange⟩ := Effect.bind_eq_ok.mp h
  obtain ⟨hbefore, hmakes⟩ := newCertificate_eq_ok hkey hnew
  obtain rfl := newCertificate_files hkey hnew
  obtain ⟨herror, rfl⟩ := Effect.change_eq_ok.mp hchange
  have hwrite := Outcome.error_eq_none.mp herror
  exact ⟨text, hbefore, hmakes, hwrite, by rw [hwrite]; rfl⟩

/-- A certificate that was not written, or not in full. -/
theorem generateSelfSignedCert_eq_error {e : String} {file : KeyFile}
    (hkey : files.key = some file)
    (h : generateSelfSignedCert crates faults now validityDays entropy files =
      (.error e, files')) :
    files' = files ∨ ∃ text left, (∀ site ∈ beforeWrite, faults site = .done) ∧
      Makes crates now validityDays entropy files text ∧
      faults .writeCert = .failed (some left) ∧ files' = { files with cert := some left } := by
  rcases Effect.bind_eq_error h with hnew | ⟨text, s, hnew, hchange⟩
  · exact Or.inl (newCertificate_files hkey hnew)
  · obtain ⟨hbefore, hmakes⟩ := newCertificate_eq_ok hkey hnew
    obtain rfl := newCertificate_files hkey hnew
    cases hwrite : faults .writeCert with
    | done =>
      rw [hwrite] at hchange
      exact absurd (congrArg Prod.fst hchange) nofun
    | failed left =>
      rw [hwrite] at hchange
      have hfiles := (congrArg Prod.snd hchange).symm
      cases left with
      | none => exact Or.inl hfiles
      | some left => exact Or.inr ⟨text, left, hbefore, hmakes, rfl, hfiles⟩

/-- A pin that was written. -/
theorem writeServerSpkiPin_eq_ok {pin : String}
    (h : writeServerSpkiPin crates faults files = (.ok pin, files')) :
    ∃ cert, files.cert = some cert ∧ serverSpkiPin crates (crates.pemIter cert) = .ok pin ∧
      files' = { files with pin := some (pinLine pin) } := by
  simp only [writeServerSpkiPin, Effect.get_bind, Effect.ofExcept_bind_eq_ok, call_bind_eq_ok,
    Effect.change_bind_eq_ok, readFile_eq_ok, Outcome.error_eq_none] at h
  obtain ⟨cert, ⟨-, hcert⟩, pin', hpin, -, hwrite, h⟩ := h
  obtain ⟨hpin', rfl⟩ := Prod.mk.inj h
  obtain rfl := Except.ok.inj hpin'
  exact ⟨cert, hcert, hpin, by rw [hwrite]; rfl⟩

/-- The other files are left alone. -/
theorem writeServerSpkiPin_frame {x : Except String String}
    (h : writeServerSpkiPin crates faults files = (x, files')) :
    files'.cert = files.cert ∧ files'.key = files.key ∧ files'.clientCa = files.clientCa := by
  let r : Files → Files → Prop := fun s t => t.cert = s.cert ∧ t.key = s.key ∧
    t.clientCa = s.clientCa
  have hr : ∀ s, r s s := fun s => ⟨rfl, rfl, rfl⟩
  have htrans : ∀ s t u, r s t → r t u → r s u := fun s t u h h' =>
    ⟨h'.1.trans h.1, h'.2.1.trans h.2.1, h'.2.2.trans h.2.2⟩
  have hkeeps : Effect.Keeps r (writeServerSpkiPin crates faults) := by
    refine .bind htrans (.get hr) fun _ => .bind htrans (.ofExcept hr) fun _ => ?_
    refine .bind htrans (.ofExcept hr) fun _ => .bind htrans (keeps_call hr) fun _ => ?_
    exact .bind htrans (.change fun s => ⟨rfl, rfl, rfl⟩) fun _ => .pure hr
  exact hkeeps.of_eq h

/-- When no call fails the pin is written. -/
theorem writeServerSpkiPin_of_done {cert : List UInt8} {pin : String}
    (hcert : files.cert = some cert)
    (hpin : serverSpkiPin crates (crates.pemIter cert) = .ok pin)
    (hdone : ∀ site ∈ afterWrite, faults site = .done) :
    (writeServerSpkiPin crates faults files).1 = .ok pin := by
  have hpinned : writeServerSpkiPin crates faults files =
      (.ok pin, { files with pin := some (pinLine pin) }) := by
    simp only [writeServerSpkiPin, Effect.get_bind, Effect.ofExcept_bind_eq_ok, call_bind_eq_ok,
      Effect.change_bind_eq_ok, readFile_eq_ok, Outcome.error_eq_none]
    refine ⟨cert, ⟨hdone _ (by decide), hcert⟩, pin, hpin, hdone _ (by decide),
      hdone _ (by decide), ?_⟩
    rw [hdone .writePin (by decide)]
    rfl
  rw [hpinned]

/-! ## What is kept -/

/-- The configuration was built from the certificate on the disk, and the pin file has the
pin of that certificate. -/
def InSync (crates : CertCrates) (files : Files) (config : TlsConfig) : Prop :=
  ∃ cert pin, files.cert = some cert ∧ pemCertificateChain crates cert = .ok config.certChain ∧
    serverSpkiPin crates (crates.pemIter cert) = .ok pin ∧ files.pin = some (pinLine pin)

/-- The key and the client CA are those the configuration was built from. -/
structure Loaded (crates : CertCrates) (files : Files) (config : TlsConfig) : Prop where
  key : ∃ file, files.key = some file ∧
    singlePemPrivateKey none (crates.privateKeys file.content) = .ok config.key
  clientCa : ∃ ca, files.clientCa = some ca ∧ clientRootStore crates ca = .ok config.clientRoots
  verifier : crates.buildVerifier config.clientRoots = .ok ()

/-- **What is kept**: the certificate on the disk is served, or it is not valid and will
not be. -/
structure Kept (crates : CertCrates) (now : ℤ) (files : Files) (config : TlsConfig) : Prop where
  loaded : Loaded crates files config
  cert : InSync crates files config ∨
    ∀ cert, files.cert = some cert → ¬ Acceptable crates now cert

theorem loaded_of_buildTlsConfig {config : TlsConfig}
    (h : buildTlsConfig crates faults files = .ok config) : Loaded crates files config :=
  have hbuilt := buildTlsConfig_eq_ok.mp h
  ⟨hbuilt.2.2.1, hbuilt.2.2.2.1, hbuilt.2.2.2.2.1⟩

theorem Loaded.of_eq {config : TlsConfig} (h : Loaded crates files config)
    (hkey : files'.key = files.key) (hca : files'.clientCa = files.clientCa) :
    Loaded crates files' config :=
  ⟨hkey ▸ h.key, hca ▸ h.clientCa, h.verifier⟩

/-- What was pinned and built is in step. -/
theorem inSync_of_built {pin : String} {config : TlsConfig}
    (hpin : writeServerSpkiPin crates faults files = (.ok pin, files'))
    (hbuild : buildTlsConfig crates faults files' = .ok config) : InSync crates files' config := by
  obtain ⟨cert, hcert, hpinned, rfl⟩ := writeServerSpkiPin_eq_ok hpin
  obtain ⟨cert', hcert', hchain⟩ := (buildTlsConfig_eq_ok.mp hbuild).2.1
  obtain rfl := Option.some_inj.mp (hcert.symm.trans hcert')
  exact ⟨cert, pin, hcert, hchain, hpinned, rfl⟩

/-- The start leaves a server that is in step. -/
theorem kept_of_startup {config : TlsConfig}
    (h : startup crates faults now validityDays entropy files = (.ok config, files')) :
    Kept crates now files' config := by
  obtain ⟨s, t, pin, -, hpin, hbuild, rfl⟩ := startup_eq_ok h
  exact ⟨loaded_of_buildTlsConfig hbuild, Or.inl (inSync_of_built hpin hbuild)⟩

/-- A certificate that was just made can be pinned and served, if no call fails. -/
theorem reload_of_done (hcrates : Compatible crates) {shared : TlsConfig} {text : List UInt8}
    {x : Except String String} (hloaded : Loaded crates files shared)
    (hmakes : Makes crates now validityDays entropy files text)
    (hdone : ∀ site ∈ afterWrite, faults site = .done)
    (h : writeServerSpkiPin crates faults { files with cert := some text } = (x, files')) :
    ∃ pin config, x = .ok pin ∧ buildTlsConfig crates faults files' = .ok config := by
  obtain ⟨file, keyPair, hfile, -, -, hparse, hsigned⟩ := hmakes
  obtain ⟨pin, hpin⟩ := hcrates.pin _ _ _ _ hsigned
  obtain ⟨chain, hchain⟩ := hcrates.chain _ _ _ _ hsigned
  obtain ⟨file', hfile', hsingle⟩ := hloaded.key
  obtain rfl := Option.some_inj.mp (hfile.symm.trans hfile')
  obtain ⟨hcert, hkey, hca⟩ := writeServerSpkiPin_frame h
  have hpinned : x = .ok pin := by
    have hdonePin : (writeServerSpkiPin crates faults { files with cert := some text }).1 =
        .ok pin := writeServerSpkiPin_of_done rfl hpin hdone
    rwa [h] at hdonePin
  refine ⟨pin, ⟨chain, shared.key, shared.clientRoots⟩, hpinned, buildTlsConfig_eq_ok.mpr ?_⟩
  refine ⟨⟨hdone _ (by decide), hdone _ (by decide), hdone _ (by decide)⟩,
    ⟨text, hcert, hchain⟩, ⟨file, hkey.trans hfile, hsingle⟩, ?_, hloaded.verifier,
    hcrates.pair _ _ _ _ _ _ _ hsigned hparse hsingle hchain⟩
  rw [hca]
  exact hloaded.clientCa

/-- **A turn that finishes keeps it.** -/
theorem Kept.turn (hcrates : Compatible crates) {shared : TlsConfig} {r : Files × TlsConfig}
    (hkept : Kept crates s.now s.files shared)
    (hfinishes : Finishes crates validityDays s (.renew faults entropy))
    (h : Turn crates faults s.now validityDays entropy s.files shared r) :
    Kept crates s.now r.1 r.2 := by
  obtain ⟨file, hfile, -⟩ := hkept.loaded.key
  cases h with
  | valid _ => exact hkept
  | notGenerated hcheck hgenerate =>
    rcases generateSelfSignedCert_eq_error hfile hgenerate with
      rfl | ⟨text, left, hbefore, hmakes, hwrite, rfl⟩
    · exact hkept
    · have hleft := (hfinishes hcheck hbefore text hmakes).2 left hwrite
      refine ⟨hkept.loaded.of_eq rfl rfl, Or.inr fun cert hcert => ?_⟩
      exact Option.some_inj.mp hcert ▸ hleft
  | notPinned hcheck hgenerate hpin =>
    obtain ⟨text, hbefore, hmakes, hwrite, rfl⟩ := generateSelfSignedCert_eq_ok hfile hgenerate
    obtain ⟨hcert, hkey, hca⟩ := writeServerSpkiPin_frame hpin
    refine ⟨hkept.loaded.of_eq hkey hca, Or.inr fun cert hcert' hacceptable => ?_⟩
    obtain rfl := Option.some_inj.mp (hcert.symm.trans hcert')
    have hdone := (hfinishes hcheck hbefore text hmakes).1 hwrite hacceptable
    obtain ⟨pin, config, hpinned, -⟩ := reload_of_done hcrates hkept.loaded hmakes hdone hpin
    exact absurd hpinned nofun
  | notReloaded hcheck hgenerate hpin hnot =>
    obtain ⟨text, hbefore, hmakes, hwrite, rfl⟩ := generateSelfSignedCert_eq_ok hfile hgenerate
    obtain ⟨hcert, hkey, hca⟩ := writeServerSpkiPin_frame hpin
    refine ⟨hkept.loaded.of_eq hkey hca, Or.inr fun cert hcert' hacceptable => ?_⟩
    obtain rfl := Option.some_inj.mp (hcert.symm.trans hcert')
    have hdone := (hfinishes hcheck hbefore text hmakes).1 hwrite hacceptable
    obtain ⟨pin, config, -, hbuild⟩ := reload_of_done hcrates hkept.loaded hmakes hdone hpin
    exact hnot config ⟨hbuild, hdone .lock (by decide)⟩
  | reloaded hcheck hgenerate hpin hbuild =>
    exact ⟨loaded_of_buildTlsConfig hbuild, Or.inl (inSync_of_built hpin hbuild)⟩

/-! ## The claim for all runs -/

/-- At the head of the loop: if the certificate on the disk is valid, it is the one that
is served, and its pin is in the pin file. -/
def Fresh (crates : CertCrates) (s : State) : Prop :=
  ∀ shared, s.phase = .running shared →
    ∀ faults remaining, checkCertExpiry crates faults s.now s.files = some remaining →
      InSync crates s.files shared

/-- A certificate that is valid now is acceptable. -/
theorem acceptable_of_checkCertExpiry {remaining : ℤ}
    (h : checkCertExpiry crates faults now files = some remaining) :
    ∃ cert, files.cert = some cert ∧ Acceptable crates now cert := by
  unfold checkCertExpiry at h
  cases hread : readFile faults .checkCert files.cert "" with
  | error e =>
    rw [hread] at h
    exact absurd h nofun
  | ok cert =>
    rw [hread] at h
    refine ⟨cert, (readFile_eq_ok.mp hread).2, now, le_rfl, fun hnone => ?_⟩
    exact absurd (hnone.symm.trans h) nofun

theorem Kept.fresh {shared : TlsConfig} (hphase : s.phase = .running shared)
    (h : Kept crates s.now s.files shared) : Fresh crates s := by
  intro shared' hphase' faults remaining hcheck
  obtain rfl := Phase.running.inj (hphase.symm.trans hphase')
  refine h.cert.resolve_right fun hnot => ?_
  obtain ⟨cert, hcert, hacceptable⟩ := acceptable_of_checkCertExpiry hcheck
  exact hnot cert hcert hacceptable

/-- Time passes. -/
theorem Kept.tick {shared : TlsConfig} (h : Kept crates now files shared) (elapsed : ℕ) :
    Kept crates (now + elapsed) files shared := by
  refine ⟨h.loaded, h.cert.imp_right fun hnot cert hcert hlater => hnot cert hcert ?_⟩
  obtain ⟨later, hle, hvalid⟩ := hlater
  exact ⟨later, by omega, hvalid⟩

/-- **The certificate that is served.**  In every run in which no turn that has written a
certificate fails afterwards, and in which a write of the certificate that fails leaves
none, every state at the head of the loop is fresh. -/
theorem renewal_never_stale (hcrates : Compatible crates)
    (hs : (system crates validityDays).ReachableWhen (Finishes crates validityDays) s) :
    Fresh crates s := by
  have hkept : ∀ shared, s.phase = .running shared → Kept crates s.now s.files shared := by
    refine hs.induction (fun s => ∀ shared, s.phase = .running shared →
      Kept crates s.now s.files shared) ?_ ?_
    · intro s hinit shared hphase
      exact absurd (hinit.symm.trans hphase) (by simp)
    · intro s a s' _ ih hfinishes hst shared hphase
      by_cases hrunning : ∃ old, s.phase = .running old
      · obtain ⟨old, hold⟩ := hrunning
        have hbefore := ih old hold
        cases a with
        | start faults entropy => exact absurd (hold.symm.trans (step_start hst).1) (by simp)
        | renew faults entropy =>
          obtain ⟨old', r, hold', hturn, rfl⟩ := step_renew hst
          obtain rfl := Phase.running.inj (hold.symm.trans hold')
          obtain rfl := Phase.running.inj hphase
          exact hbefore.turn hcrates hfinishes hturn
        | tick elapsed =>
          obtain rfl := Option.some_inj.mp hst
          obtain rfl := Phase.running.inj (hold.symm.trans hphase)
          exact hbefore.tick elapsed
        | outside files => exact absurd hold (hfinishes old)
      · obtain ⟨faults, entropy, -, hstartup, hnow⟩ :=
          startup_of_step hst hphase fun old hold => hrunning ⟨old, hold⟩
        rw [hnow]
        exact kept_of_startup hstartup
  intro shared hphase
  exact (hkept shared hphase).fresh hphase shared hphase

/-! ## The server of the first day -/

namespace Sample

/-- One call fails. -/
def failing (site : Site) : Faults := fun other => if other = site then .failed none else .done

theorem toOption_eq_some {α : Type} {x : Except String α} {a : α} (h : x.toOption = some a) :
    x = .ok a := by
  cases x with
  | error e => exact absurd h nofun
  | ok b => rw [Option.some_inj.mp h]

theorem selfSigned_cases {params : CertificateParams} {keyPair text : List UInt8}
    (h : sampleCrates.selfSigned entropy params keyPair = .ok text) :
    text = secondPem ∨ text = firstPem := by
  by_cases htime : params.notBefore = renewalTime
  · exact Or.inl (Except.ok.inj ((if_pos htime).symm.trans h)).symm
  · exact Or.inr (Except.ok.inj ((if_neg htime).symm.trans h)).symm

theorem compatible_sampleCrates : Compatible sampleCrates where
  pin entropy params keyPair text h := by
    refine ⟨samplePin, toOption_eq_some ?_⟩
    rcases selfSigned_cases h with rfl | rfl <;> decide +kernel
  chain entropy params keyPair text h := by
    rcases selfSigned_cases h with rfl | rfl
    · exact ⟨[secondDer], toOption_eq_some (by decide +kernel)⟩
    · exact ⟨[firstDer], toOption_eq_some (by decide +kernel)⟩
  pair entropy params keyPair text content key chain hsigned hparse hsingle hchain := by
    have hcontent : content = keyPem := by
      by_contra hnot
      exact absurd ((if_neg hnot).symm.trans hparse) nofun
    have hkey : key = keyDer := by
      have hone : singlePemPrivateKey none (sampleCrates.privateKeys keyPem) = .ok keyDer :=
        toOption_eq_some (by decide +kernel)
      exact Except.ok.inj ((hcontent ▸ hsingle).symm.trans hone)
    have hleaf : chain = [firstDer] ∨ chain = [secondDer] := by
      rcases selfSigned_cases hsigned with rfl | rfl
      · have hone : pemCertificateChain sampleCrates secondPem = .ok [secondDer] :=
          toOption_eq_some (by decide +kernel)
        exact Or.inr (Except.ok.inj (hchain.symm.trans hone))
      · have hone : pemCertificateChain sampleCrates firstPem = .ok [firstDer] :=
          toOption_eq_some (by decide +kernel)
        exact Or.inl (Except.ok.inj (hchain.symm.trans hone))
    exact if_pos ⟨hleaf, hkey⟩

/-- The server when its certificate has expired. -/
def expired : State where
  now := renewalTime
  files := { initial.files with pin := some (pinLine samplePin) }
  phase := .running firstConfig

end Sample

open Sample

/-- A turn that is kept from its end by a call before the write, and one that is not. -/
theorem renewal_never_stale_retried :
    ∃ s, (system sampleCrates 3650).exec expired
        [.renew (failing .keyDir) [], .renew noFaults []] = some s ∧
      s.phase = .running secondConfig ∧ Fresh sampleCrates s := by
  have hstart : (system sampleCrates 3650).step initial (.start noFaults []) =
      some { now := day, phase := .running firstConfig, files := expired.files } := by
    decide +kernel
  have htick : (system sampleCrates 3650).step
      { now := day, phase := .running firstConfig, files := expired.files }
      (.tick 90000000000000) = some expired := by
    decide +kernel
  have hretry : (system sampleCrates 3650).step expired (.renew (failing .keyDir) []) =
      some expired := by
    decide +kernel
  have hrenew : (system sampleCrates 3650).step expired (.renew noFaults []) =
      some { now := renewalTime, phase := .running secondConfig,
             files := { expired.files with cert := some secondPem } } := by
    decide +kernel
  have hrun : (system sampleCrates 3650).exec expired
      [.renew (failing .keyDir) [], .renew noFaults []] =
        some { now := renewalTime, phase := .running secondConfig,
               files := { expired.files with cert := some secondPem } } := by
    decide +kernel
  have hfails : Finishes sampleCrates 3650 expired (.renew (failing .keyDir) []) :=
    fun _ hbefore => absurd (hbefore .keyDir (by decide)) (by decide)
  have hworks : Finishes sampleCrates 3650 expired (.renew noFaults []) :=
    fun _ _ _ _ => ⟨fun _ _ _ _ => rfl, fun _ h => absurd h nofun⟩
  have hinit : (system sampleCrates 3650).ReachableWhen (Finishes sampleCrates 3650) initial :=
    .of_init (show initial.phase = .starting from rfl)
  have hday : Finishes sampleCrates 3650 initial (.start noFaults []) := trivial
  have hlater : Finishes sampleCrates 3650
      { now := day, phase := .running firstConfig, files := expired.files }
      (.tick 90000000000000) := trivial
  exact ⟨_, hrun, rfl, renewal_never_stale compatible_sampleCrates
    ((((hinit.tail hday hstart).tail hlater htick).tail hfails hretry).tail hworks hrenew)⟩

/-- **A turn gives up when it writes the pin.**  Then the certificate on the disk is valid
and the next turns have nothing to do, but the server has the old certificate, which has
expired. -/
theorem certificate_stranded :
    ∃ s, (system sampleCrates 3650).exec initial
        [.start noFaults [], .tick 90000000000000, .renew (failing .writePin) []] = some s ∧
      (system sampleCrates 3650).Reachable s ∧
      s.phase = .running firstConfig ∧
      certExpiry sampleCrates s.now firstPem = none ∧
      (checkCertExpiry sampleCrates noFaults s.now s.files).isSome = true ∧
      (system sampleCrates 3650).step s (.renew noFaults []) = some s ∧
      ¬ Fresh sampleCrates s := by
  have hrun : (system sampleCrates 3650).exec initial
      [.start noFaults [], .tick 90000000000000, .renew (failing .writePin) []] =
        some { expired with files := { expired.files with cert := some secondPem } } := by
    decide +kernel
  have hvalid : (checkCertExpiry sampleCrates noFaults expired.now
      { expired.files with cert := some secondPem }).isSome = true := by
    decide +kernel
  have hinit : (system sampleCrates 3650).init initial := show initial.phase = .starting from rfl
  refine ⟨_, hrun, TransitionSystem.reachable_of_exec _ hinit hrun, rfl, by decide +kernel,
    hvalid, by decide +kernel, fun hfresh => ?_⟩
  obtain ⟨remaining, hremaining⟩ := Option.isSome_iff_exists.mp hvalid
  obtain ⟨cert, pin, hcert, hchain, -, -⟩ := hfresh firstConfig rfl noFaults remaining hremaining
  obtain rfl := Option.some_inj.mp hcert
  have hone : pemCertificateChain sampleCrates secondPem = .ok [secondDer] :=
    toOption_eq_some (by decide +kernel)
  have hsame : firstConfig.certChain = [secondDer] := Except.ok.inj (hchain.symm.trans hone)
  exact absurd hsame (by decide +kernel)

end Renewal

end Proxy

end VibeVoice
