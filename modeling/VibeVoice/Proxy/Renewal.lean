import VibeVoice.Proxy.Certificate
import VibeVoice.Semantics.TransitionSystem

/-!
# The server identity

`main` and then any number of turns of `cert_renewal_task`, with time passing between
them and with failures anywhere.  Others may do what they like to the certificate, to
the pin file and to the client CA, and to the key until the server has started.

Clients pin the public key of the server.  It is never replaced, for two reasons that
have nothing to do with how a turn ends: the key file is not written over, and nothing
is served that does not go with it.

## The key is not written over

The branch that writes a key is the branch in which there is none.  So everything that
is called in a turn keeps a key that is there, and this is proved call by call
(`keepsKey_serverKeyPair`, `keepsKey_newCertificate`), with the other three files, which
a call that fails half-way leaves as they are or writes.  What remains of it for a whole
start or turn is `SameKey`.

## What is built

`buildTlsConfig` reads three files, and `buildTlsConfig_eq_ok` says of which files a
configuration is.  Its key is the one in the key file, and rustls has accepted the pair
(`Serves`).  Two configurations with the key of one file have the same key
(`Serves.key_eq`), however the certificates came to be on the disk.

A turn has five endings (`Turn`): the certificate is still valid; it cannot be made; the
pin cannot be written; the configuration cannot be reloaded; or it is.  Only the last
one replaces what is shared, by something that was built of the files as they are.

## All runs

`serves_of_reachable` is the invariant: a server that runs shares a configuration with
the key of the key file.  It holds from the start on, every turn keeps it, and what
others do to the files does not touch the key any more.  So from the first configuration
on there is one private key, and by the check of rustls one public key
(`server_identity_survives`), which is what is pinned.
-/

namespace VibeVoice

namespace Proxy

/-! ## The system -/

namespace Renewal

/-- How far the server is. -/
inductive Phase where
  | starting : Phase
  | running (shared : TlsConfig) : Phase
  | panicked : Phase
  deriving DecidableEq

/-- The server with its files.  If it runs, it is at the head of the renewal loop. -/
structure State where
  now : ℤ
  files : Files
  phase : Phase := .starting
  deriving DecidableEq

/-- What can happen. -/
inductive Action where
  | start (faults : Faults) (entropy : List UInt8) : Action
  | renew (faults : Faults) (entropy : List UInt8) : Action
  | tick (elapsed : ℕ) : Action
  /-- Others write the files; not the key, once the server runs. -/
  | outside (files : Files) : Action

/-- What others leave of the key. -/
def Phase.keyOf (phase : Phase) (old new : Option KeyFile) : Option KeyFile :=
  match phase with
  | .running _ => old
  | _ => new

variable (crates : CertCrates) (validityDays : ℕ)

/-- The outcome of the start. -/
def started (s : State) : Except String TlsConfig × Files → State
  | (.ok shared, files) => { s with files := files, phase := .running shared }
  | (.error _, files) => { s with files := files, phase := .panicked }

/-- One step. -/
def step (s : State) : Action → Option State
  | .start faults entropy =>
    match s.phase with
    | .starting => some (started s (startup crates faults s.now validityDays entropy s.files))
    | _ => none
  | .renew faults entropy =>
    match s.phase with
    | .running shared =>
      let r := renewalTurn crates faults s.now validityDays entropy s.files shared
      some { s with files := r.1, phase := .running r.2 }
    | _ => none
  | .tick elapsed => some { s with now := s.now + elapsed }
  | .outside files =>
    some { s with files := { files with key := s.phase.keyOf s.files.key files.key } }

/-- The server, before it starts, with any files. -/
def system : TransitionSystem State Action where
  init s := s.phase = .starting
  step := step crates validityDays

end Renewal

/-! ## Calls -/

variable {crates : CertCrates} {faults : Faults} {now : ℤ} {validityDays : ℕ}
  {entropy : List UInt8} {files files' : Files}

theorem call_bind_eq_ok {α : Type} {site : Site} {message : String} {g : Unit → OnFiles α}
    {a : α} : (call faults site message >>= g) files = (.ok a, files') ↔
      faults site = .done ∧ g () files = (.ok a, files') := by
  unfold call
  cases faults site with
  | done => exact ⟨fun h => ⟨rfl, h⟩, fun h => h.2⟩
  | failed left =>
    exact ⟨fun h => absurd (congrArg Prod.fst h) nofun, fun h => absurd h.1 nofun⟩

theorem readFile_eq_ok {site : Site} {file : Option (List UInt8)} {message : String}
    {content : List UInt8} :
    readFile faults site file message = .ok content ↔
      faults site = .done ∧ file = some content := by
  unfold readFile
  cases faults site <;> cases file <;> simp

@[simp] theorem Outcome.error_eq_none {outcome : Outcome} {message : String} :
    outcome.error message = none ↔ outcome = .done := by
  cases outcome <;> simp [Outcome.error]

theorem keeps_call {r : Files → Files → Prop} (hrefl : ∀ s, r s s) {site : Site}
    {message : String} : Effect.Keeps r (call faults site message) := by
  intro s
  unfold call
  cases faults site <;> exact hrefl s

/-! ## The key is not written over -/

/-- A key that is there stays as it is, and so do the other files. -/
structure KeepsKey (s t : Files) : Prop where
  cert : t.cert = s.cert
  pin : t.pin = s.pin
  clientCa : t.clientCa = s.clientCa
  key : ∀ file, s.key = some file → t.key = some file

theorem KeepsKey.refl (s : Files) : KeepsKey s s := ⟨rfl, rfl, rfl, fun _ h => h⟩

theorem KeepsKey.trans (s t u : Files) (h : KeepsKey s t) (h' : KeepsKey t u) : KeepsKey s u :=
  ⟨h'.cert.trans h.cert, h'.pin.trans h.pin, h'.clientCa.trans h.clientCa,
    fun file hfile => h'.key file (h.key file hfile)⟩

theorem keepsKey_serverKeyPair : Effect.Keeps KeepsKey (serverKeyPair crates faults entropy) := by
  have hrefl := KeepsKey.refl
  intro s
  rw [serverKeyPair, Effect.get_bind]
  cases hkey : s.key with
  | some file =>
    have hkeeps : Effect.Keeps KeepsKey (existingKeyPair crates faults file) := by
      refine .bind KeepsKey.trans (keeps_call hrefl) fun _ => ?_
      refine .bind KeepsKey.trans (.require hrefl) fun _ => ?_
      refine .bind KeepsKey.trans (.require hrefl) fun _ => ?_
      exact .bind KeepsKey.trans (.ofExcept hrefl) fun _ => .ofExcept hrefl
    exact hkeeps s
  | none =>
    -- There is no key to keep, and the rest is left alone.
    let r : Files → Files → Prop := fun s t => t.cert = s.cert ∧ t.pin = s.pin ∧
      t.clientCa = s.clientCa
    have hr : ∀ s, r s s := fun s => ⟨rfl, rfl, rfl⟩
    have htrans : ∀ s t u, r s t → r t u → r s u := fun s t u h h' =>
      ⟨h'.1.trans h.1, h'.2.1.trans h.2.1, h'.2.2.trans h.2.2⟩
    have hkeeps : Effect.Keeps r (createdKeyPair crates faults entropy) := by
      refine .bind htrans (.ofExcept hr) fun _ => ?_
      refine .bind htrans (.change fun s => ⟨rfl, rfl, rfl⟩) fun _ => ?_
      exact .bind htrans (keeps_call hr) fun _ => .pure hr
    obtain ⟨hcert, hpin, hca⟩ := hkeeps s
    exact ⟨hcert, hpin, hca, fun file hfile => absurd (hkey.symm.trans hfile) (by simp)⟩

theorem keepsKey_newCertificate :
    Effect.Keeps KeepsKey (newCertificate crates faults now validityDays entropy) := by
  have hrefl := KeepsKey.refl
  refine .bind KeepsKey.trans (keeps_call hrefl) fun _ => ?_
  refine .bind KeepsKey.trans (keeps_call hrefl) fun _ => ?_
  refine .bind KeepsKey.trans (keeps_call hrefl) fun _ => ?_
  exact .bind KeepsKey.trans keepsKey_serverKeyPair fun _ => .ofExcept hrefl

/-- The key, if there is one. -/
def SameKey (s t : Files) : Prop := ∀ file, s.key = some file → t.key = some file

theorem SameKey.trans (s t u : Files) (h : SameKey s t) (h' : SameKey t u) : SameKey s u :=
  fun file hfile => h' file (h file hfile)

theorem sameKey_generateSelfSignedCert :
    Effect.Keeps SameKey (generateSelfSignedCert crates faults now validityDays entropy) :=
  .bind SameKey.trans (fun s => (keepsKey_newCertificate s).key) fun _ => .change fun _ _ h => h

theorem sameKey_writeServerSpkiPin : Effect.Keeps SameKey (writeServerSpkiPin crates faults) := by
  have hrefl : ∀ s, SameKey s s := fun s _ h => h
  refine .bind SameKey.trans (.get hrefl) fun _ => ?_
  refine .bind SameKey.trans (.ofExcept hrefl) fun _ => ?_
  refine .bind SameKey.trans (.ofExcept hrefl) fun _ => ?_
  refine .bind SameKey.trans (keeps_call hrefl) fun _ => ?_
  exact .bind SameKey.trans (.change fun _ _ h => h) fun _ => .pure hrefl

theorem sameKey_startup :
    Effect.Keeps SameKey (startup crates faults now validityDays entropy) := by
  have hrefl : ∀ s, SameKey s s := fun s _ h => h
  have hensure : Effect.Keeps SameKey
      (ensureCertificate crates faults now validityDays entropy) := by
    refine .bind SameKey.trans (.get hrefl) fun files => ?_
    cases checkCertExpiry crates faults now files with
    | some _ => exact .pure hrefl
    | none => exact sameKey_generateSelfSignedCert
  refine .bind SameKey.trans hensure fun _ => ?_
  refine .bind SameKey.trans sameKey_writeServerSpkiPin fun _ => ?_
  exact .bind SameKey.trans (.get hrefl) fun _ => .ofExcept hrefl

/-! ## What is built -/

/-- **What a configuration is built from.** -/
theorem buildTlsConfig_eq_ok {config : TlsConfig} :
    buildTlsConfig crates faults files = .ok config ↔
      (faults .loadCert = .done ∧ faults .loadKey = .done ∧ faults .loadClientCa = .done) ∧
      (∃ cert, files.cert = some cert ∧ pemCertificateChain crates cert = .ok config.certChain) ∧
      (∃ file, files.key = some file ∧
        singlePemPrivateKey none (crates.privateKeys file.content) = .ok config.key) ∧
      (∃ ca, files.clientCa = some ca ∧ clientRootStore crates ca = .ok config.clientRoots) ∧
      crates.buildVerifier config.clientRoots = .ok () ∧
      crates.withSingleCert config.certChain config.key = .ok () := by
  unfold buildTlsConfig
  simp only [Effect.except_bind_eq_ok, readFile_eq_ok]
  constructor
  · rintro ⟨cert, ⟨hloadCert, hcert⟩, chain, hchain, content, ⟨hloadKey, hcontent⟩, key, hkey, ca,
      ⟨hloadCa, hca⟩, roots, hroots, _, hverifier, _, hpair, hconfig⟩
    obtain rfl := Except.ok.inj hconfig
    obtain ⟨file, hfile, rfl⟩ := Option.map_eq_some_iff.mp hcontent
    exact ⟨⟨hloadCert, hloadKey, hloadCa⟩, ⟨cert, hcert, hchain⟩, ⟨file, hfile, hkey⟩,
      ⟨ca, hca, hroots⟩, hverifier, hpair⟩
  · rintro ⟨⟨hloadCert, hloadKey, hloadCa⟩, ⟨cert, hcert, hchain⟩, ⟨file, hfile, hkey⟩,
      ⟨ca, hca, hroots⟩, hverifier, hpair⟩
    exact ⟨cert, ⟨hloadCert, hcert⟩, config.certChain, hchain, file.content,
      ⟨hloadKey, by rw [hfile]; rfl⟩, config.key, hkey, ca, ⟨hloadCa, hca⟩, config.clientRoots,
      hroots, (), hverifier, (), hpair, rfl⟩

/-- The configuration has the key that is in the key file. -/
structure Serves (crates : CertCrates) (files : Files) (config : TlsConfig) : Prop where
  key : ∃ file, files.key = some file ∧
    singlePemPrivateKey none (crates.privateKeys file.content) = .ok config.key
  pair : crates.withSingleCert config.certChain config.key = .ok ()

theorem serves_of_buildTlsConfig {config : TlsConfig}
    (h : buildTlsConfig crates faults files = .ok config) : Serves crates files config :=
  have hbuilt := buildTlsConfig_eq_ok.mp h
  ⟨hbuilt.2.2.1, hbuilt.2.2.2.2.2⟩

theorem Serves.of_sameKey {config : TlsConfig} (h : Serves crates files config)
    (hkey : SameKey files files') : Serves crates files' config := by
  obtain ⟨⟨file, hfile, hsingle⟩, hpair⟩ := h
  exact ⟨⟨file, hkey file hfile, hsingle⟩, hpair⟩

/-- Two configurations with the key of the key file have one key. -/
theorem Serves.key_eq {config config' : TlsConfig} (h : Serves crates files config)
    (h' : Serves crates files config') : config.key = config'.key := by
  obtain ⟨file, hfile, hsingle⟩ := h.key
  obtain ⟨file', hfile', hsingle'⟩ := h'.key
  obtain rfl := Option.some_inj.mp (hfile.symm.trans hfile')
  exact Except.ok.inj (hsingle.symm.trans hsingle')

/-- What the start comes to. -/
theorem startup_eq_ok {config : TlsConfig}
    (h : startup crates faults now validityDays entropy files = (.ok config, files')) :
    ∃ s t pin, ensureCertificate crates faults now validityDays entropy files = (.ok (), s) ∧
      writeServerSpkiPin crates faults s = (.ok pin, t) ∧
      buildTlsConfig crates faults t = .ok config ∧ files' = t := by
  obtain ⟨⟨⟩, s, hensure, h⟩ := Effect.bind_eq_ok.mp h
  obtain ⟨pin, t, hpin, h⟩ := Effect.bind_eq_ok.mp h
  obtain ⟨_, u, hget, h⟩ := Effect.bind_eq_ok.mp h
  obtain ⟨rfl, rfl⟩ := Effect.get_eq_ok.mp hget
  obtain ⟨hbuild, rfl⟩ := Effect.ofExcept_eq_ok.mp h
  exact ⟨s, t, pin, hensure, hpin, hbuild, rfl⟩

/-- **What a turn can be.** -/
inductive Turn (crates : CertCrates) (faults : Faults) (now : ℤ) (validityDays : ℕ)
    (entropy : List UInt8) (files : Files) (shared : TlsConfig) : Files × TlsConfig → Prop
  | valid {remaining : ℤ} (hcheck : checkCertExpiry crates faults now files = some remaining) :
      Turn crates faults now validityDays entropy files shared (files, shared)
  | notGenerated {e : String} {s : Files} (hcheck : checkCertExpiry crates faults now files = none)
      (hgenerate : generateSelfSignedCert crates faults now validityDays entropy files =
        (.error e, s)) : Turn crates faults now validityDays entropy files shared (s, shared)
  | notPinned {e : String} {s t : Files}
      (hcheck : checkCertExpiry crates faults now files = none)
      (hgenerate : generateSelfSignedCert crates faults now validityDays entropy files =
        (.ok (), s)) (hpin : writeServerSpkiPin crates faults s = (.error e, t)) :
      Turn crates faults now validityDays entropy files shared (t, shared)
  | notReloaded {pin : String} {s t : Files}
      (hcheck : checkCertExpiry crates faults now files = none)
      (hgenerate : generateSelfSignedCert crates faults now validityDays entropy files =
        (.ok (), s)) (hpin : writeServerSpkiPin crates faults s = (.ok pin, t))
      (hnot : ∀ config, ¬ (buildTlsConfig crates faults t = .ok config ∧ faults .lock = .done)) :
      Turn crates faults now validityDays entropy files shared (t, shared)
  | reloaded {pin : String} {s t : Files} {config : TlsConfig}
      (hcheck : checkCertExpiry crates faults now files = none)
      (hgenerate : generateSelfSignedCert crates faults now validityDays entropy files =
        (.ok (), s)) (hpin : writeServerSpkiPin crates faults s = (.ok pin, t))
      (hbuild : buildTlsConfig crates faults t = .ok config) :
      Turn crates faults now validityDays entropy files shared (t, config)

theorem turn_renewalTurn (shared : TlsConfig) :
    Turn crates faults now validityDays entropy files shared
      (renewalTurn crates faults now validityDays entropy files shared) := by
  unfold renewalTurn
  cases hcheck : checkCertExpiry crates faults now files with
  | some remaining => exact .valid hcheck
  | none =>
    rcases hgenerate : generateSelfSignedCert crates faults now validityDays entropy files with
      ⟨e | ⟨⟨⟩⟩, s⟩
    · exact .notGenerated hcheck hgenerate
    · dsimp only
      rcases hpin : writeServerSpkiPin crates faults s with ⟨e | pin, t⟩
      · exact .notPinned hcheck hgenerate hpin
      · dsimp only
        cases hbuild : buildTlsConfig crates faults t with
        | error e => exact .notReloaded hcheck hgenerate hpin fun config h => by simp [hbuild] at h
        | ok config =>
          cases hlock : faults .lock with
          | done => exact .reloaded hcheck hgenerate hpin hbuild
          | failed left =>
            exact .notReloaded hcheck hgenerate hpin fun config h => by simp [hlock] at h

/-- A turn keeps the key. -/
theorem Turn.sameKey {shared : TlsConfig} {r : Files × TlsConfig}
    (h : Turn crates faults now validityDays entropy files shared r) : SameKey files r.1 := by
  cases h with
  | valid _ => exact fun file hfile => hfile
  | notGenerated _ hgenerate => exact sameKey_generateSelfSignedCert.of_eq hgenerate
  | notPinned _ hgenerate hpin | notReloaded _ hgenerate hpin | reloaded _ hgenerate hpin =>
    exact .trans _ _ _ (sameKey_generateSelfSignedCert.of_eq hgenerate)
      (sameKey_writeServerSpkiPin.of_eq hpin)

/-- A turn leaves a configuration with the key of the key file. -/
theorem Turn.serves {shared : TlsConfig} {r : Files × TlsConfig}
    (h : Turn crates faults now validityDays entropy files shared r)
    (hserves : Serves crates files shared) : Serves crates r.1 r.2 := by
  have hkey := h.sameKey
  cases h with
  | valid _ => exact hserves
  | notGenerated _ _ => exact hserves.of_sameKey hkey
  | notPinned _ _ _ => exact hserves.of_sameKey hkey
  | notReloaded _ _ _ _ => exact hserves.of_sameKey hkey
  | reloaded _ _ _ hbuild => exact serves_of_buildTlsConfig hbuild

/-! ## All runs -/

namespace Renewal

variable {s s' : State}

/-- The start ends with a state, running or not. -/
theorem step_start {faults : Faults} {entropy : List UInt8}
    (h : step crates validityDays s (.start faults entropy) = some s') :
    s.phase = .starting ∧ s' = started s (startup crates faults s.now validityDays entropy
      s.files) := by
  simp only [step] at h
  split at h
  · rename_i hphase
    exact ⟨hphase, (Option.some_inj.mp h).symm⟩
  · exact absurd h (by simp)

theorem files_started (s : State) (r : Except String TlsConfig × Files) :
    (started s r).files = r.2 := by
  rcases r with ⟨e | shared, files⟩ <;> rfl

/-- A turn ends with the server running. -/
theorem step_renew {faults : Faults} {entropy : List UInt8}
    (h : step crates validityDays s (.renew faults entropy) = some s') :
    ∃ shared r, s.phase = .running shared ∧
      Turn crates faults s.now validityDays entropy s.files shared r ∧
      s' = { s with files := r.1, phase := .running r.2 } := by
  simp only [step] at h
  split at h
  · rename_i shared hphase
    exact ⟨shared, _, hphase, turn_renewalTurn shared, (Option.some_inj.mp h).symm⟩
  · exact absurd h (by simp)

/-- Only others write over a key. -/
theorem sameKey_of_step {a : Action} (h : step crates validityDays s a = some s')
    (ha : ∀ files, a ≠ .outside files) : SameKey s.files s'.files := by
  cases a with
  | start faults entropy =>
    rw [(step_start h).2, files_started]
    exact sameKey_startup s.files
  | renew faults entropy =>
    obtain ⟨shared, r, -, hturn, rfl⟩ := step_renew h
    exact hturn.sameKey
  | tick elapsed =>
    rw [← Option.some_inj.mp h]
    exact fun file hfile => hfile
  | outside files => exact absurd rfl (ha files)

/-- While the server runs, nobody does. -/
theorem sameKey_of_running {a : Action} {shared : TlsConfig}
    (h : step crates validityDays s a = some s') (hphase : s.phase = .running shared) :
    SameKey s.files s'.files := by
  cases a with
  | outside files =>
    rw [← Option.some_inj.mp h]
    intro file hfile
    simp only [hphase, Phase.keyOf, hfile]
  | start | renew | tick => exact sameKey_of_step h (by simp)

/-- The server goes on running. -/
theorem running_of_step {a : Action} {shared : TlsConfig}
    (h : step crates validityDays s a = some s') (hphase : s.phase = .running shared) :
    ∃ shared', s'.phase = .running shared' ∧
      (Serves crates s.files shared → Serves crates s'.files shared') := by
  cases a with
  | start faults entropy =>
    exact absurd (hphase.symm.trans (step_start h).1) (by simp)
  | renew faults entropy =>
    obtain ⟨shared', r, hphase', hturn, rfl⟩ := step_renew h
    obtain rfl := Phase.running.inj (hphase.symm.trans hphase')
    exact ⟨r.2, rfl, hturn.serves⟩
  | tick elapsed =>
    rw [← Option.some_inj.mp h]
    exact ⟨shared, hphase, id⟩
  | outside files =>
    have hkey := sameKey_of_running h hphase
    rw [← Option.some_inj.mp h] at hkey ⊢
    exact ⟨shared, hphase, fun hserves => hserves.of_sameKey hkey⟩

/-- The server begins to run when it is started, with a configuration that was built. -/
theorem startup_of_step {a : Action} {shared : TlsConfig}
    (h : step crates validityDays s a = some s') (hphase : s'.phase = .running shared)
    (hnot : ∀ old, s.phase ≠ .running old) :
    ∃ faults entropy, a = .start faults entropy ∧
      startup crates faults s.now validityDays entropy s.files = (.ok shared, s'.files) ∧
      s'.now = s.now := by
  cases a with
  | start faults entropy =>
    obtain ⟨-, rfl⟩ := step_start h
    rcases hstartup : startup crates faults s.now validityDays entropy s.files with
      ⟨e | config, files⟩
    · rw [hstartup] at hphase
      exact absurd hphase (by simp [started])
    · rw [hstartup] at hphase
      obtain rfl := Phase.running.inj hphase
      exact ⟨faults, entropy, rfl, hstartup, rfl⟩
  | renew faults entropy =>
    obtain ⟨old, r, hold, -, -⟩ := step_renew h
    exact absurd hold (hnot old)
  | tick elapsed =>
    rw [← Option.some_inj.mp h] at hphase
    exact absurd hphase (hnot shared)
  | outside files =>
    rw [← Option.some_inj.mp h] at hphase
    exact absurd hphase (hnot shared)

theorem startup_serves {faults : Faults} {entropy : List UInt8} {shared : TlsConfig}
    (h : startup crates faults now validityDays entropy files = (.ok shared, files')) :
    Serves crates files' shared := by
  obtain ⟨s, t, pin, -, -, hbuild, rfl⟩ := startup_eq_ok h
  exact serves_of_buildTlsConfig hbuild

/-- **A server that runs serves the key that is in the key file.** -/
theorem serves_of_reachable (hs : (system crates validityDays).Reachable s) {shared : TlsConfig}
    (hphase : s.phase = .running shared) : Serves crates s.files shared := by
  refine hs.induction (fun s => ∀ shared, s.phase = .running shared →
    Serves crates s.files shared) ?_ ?_ shared hphase
  · intro s hinit shared hphase
    exact absurd (hinit.symm.trans hphase) (by simp)
  · intro s a s' _ ih _ hst shared hphase
    by_cases hrunning : ∃ old, s.phase = .running old
    · obtain ⟨old, hold⟩ := hrunning
      obtain ⟨shared', hphase', hserves⟩ := running_of_step hst hold
      obtain rfl := Phase.running.inj (hphase.symm.trans hphase')
      exact hserves (ih old hold)
    · obtain ⟨faults, entropy, -, hstartup, -⟩ :=
        startup_of_step hst hphase fun old hold => hrunning ⟨old, hold⟩
      exact startup_serves hstartup

/-- The public key of the certificate that is served. -/
def servedSpki (crates : CertCrates) (config : TlsConfig) : Option (List UInt8) :=
  config.certChain.head?.bind fun leaf => (crates.parseX509 leaf).toOption.map X509.subjectPki

/-- rustls refuses a certificate with another public key than that of the private key. -/
def RefusesMismatch (crates : CertCrates) (publicKey : List UInt8 → List UInt8) : Prop :=
  ∀ chain key, crates.withSingleCert chain key = .ok () →
    ∃ leaf rest x509, chain = leaf :: rest ∧ crates.parseX509 leaf = .ok x509 ∧
      x509.subjectPki = publicKey key

theorem servedSpki_of_serves {publicKey : List UInt8 → List UInt8}
    (hcrates : RefusesMismatch crates publicKey) {config : TlsConfig}
    (h : Serves crates files config) : servedSpki crates config = some (publicKey config.key) := by
  obtain ⟨leaf, rest, x509, hchain, hparse, hspki⟩ := hcrates _ _ h.pair
  simp only [servedSpki, hchain, List.head?_cons, Option.bind_some, hparse, Except.toOption,
    Option.map_some, hspki]

/-- **The server identity.**  No step of the server writes over a key that is there.  And
from the first configuration on the server runs with one public key, whatever becomes
of the calls of each turn, and whatever others do to the other files. -/
theorem server_identity_survives {publicKey : List UInt8 → List UInt8}
    (hcrates : RefusesMismatch crates publicKey) :
    (∀ s a s', (system crates validityDays).step s a = some s' → (∀ files, a ≠ .outside files) →
        ∀ file, s.files.key = some file → s'.files.key = some file) ∧
      ∀ s shared, (system crates validityDays).Reachable s → s.phase = .running shared →
        ∃ spki, servedSpki crates shared = some spki ∧
          ∀ s', (system crates validityDays).Run s s' →
            ∃ shared', s'.phase = .running shared' ∧ servedSpki crates shared' = some spki := by
  refine ⟨fun s a s' hst ha => sameKey_of_step hst ha, fun s shared hs hphase => ?_⟩
  have hserves := serves_of_reachable hs hphase
  refine ⟨publicKey shared.key, servedSpki_of_serves hcrates hserves, fun s' hrun => ?_⟩
  have hlater : SameKey s.files s'.files ∧ ∃ shared', s'.phase = .running shared' := by
    refine hrun.stable (fun t => SameKey s.files t.files ∧ ∃ shared', t.phase = .running shared')
      ?_ hs ⟨fun _ h => h, shared, hphase⟩
    rintro t a u - ⟨hkey, shared', hphase'⟩ - hst
    obtain ⟨shared'', hphase'', -⟩ := running_of_step hst hphase'
    exact ⟨.trans _ _ _ hkey (sameKey_of_running hst hphase'), shared'', hphase''⟩
  obtain ⟨hkey, shared', hphase'⟩ := hlater
  have hserves' := serves_of_reachable (hs.run hrun) hphase'
  refine ⟨shared', hphase', ?_⟩
  rw [servedSpki_of_serves hcrates hserves', (hserves.of_sameKey hkey).key_eq hserves']

/-! ## A server -/

namespace Sample

/-- The key file. -/
def keyPem : List UInt8 :=
  [45, 45, 45, 45, 45, 66, 69, 71, 73, 78, 32, 80, 82, 73, 86, 65, 84, 69, 32, 75, 69, 89, 45,
    45, 45, 45, 45, 10, 77, 67, 52, 67, 65, 81, 65, 119, 66, 81, 89, 68, 75, 50, 86, 119, 66, 67,
    73, 69, 73, 73, 107, 111, 55, 99, 98, 106, 102, 56, 122, 115, 110, 78, 119, 55, 82, 67, 107,
    122, 97, 84, 55, 101, 50, 80, 86, 66, 53, 78, 55, 53, 71, 82, 77, 98, 118, 113, 109, 113, 48,
    51, 104, 88, 10, 45, 45, 45, 45, 45, 69, 78, 68, 32, 80, 82, 73, 86, 65, 84, 69, 32, 75, 69,
    89, 45, 45, 45, 45, 45, 10]

/-- The key in it. -/
def keyDer : List UInt8 :=
  [48, 46, 2, 1, 0, 48, 5, 6, 3, 43, 101, 112, 4, 34, 4, 32, 137, 40, 237, 198, 227, 127, 204,
    236, 156, 220, 59, 68, 41, 51, 105, 62, 222, 216, 245, 65, 228, 222, 249, 25, 19, 27, 190,
    169, 170, 211, 120, 87]

/-- Its public key. -/
def spki : List UInt8 :=
  [48, 42, 48, 5, 6, 3, 43, 101, 112, 3, 33, 0, 87, 133, 125, 85, 19, 61, 62, 82, 202, 181, 168,
    19, 65, 43, 250, 65, 49, 200, 42, 155, 104, 215, 190, 147, 123, 166, 213, 43, 74, 31, 135,
    241]

/-- A certificate for the first day. -/
def firstPem : List UInt8 :=
  [45, 45, 45, 45, 45, 66, 69, 71, 73, 78, 32, 67, 69, 82, 84, 73, 70, 73, 67, 65, 84, 69, 45,
    45, 45, 45, 45, 10, 77, 73, 72, 113, 77, 73, 71, 100, 111, 65, 77, 67, 65, 81, 73, 67, 65,
    81, 69, 119, 66, 81, 89, 68, 75, 50, 86, 119, 77, 66, 56, 120, 72, 84, 65, 98, 66, 103, 78,
    86, 66, 65, 77, 77, 70, 70, 90, 87, 86, 105, 66, 84, 98, 51, 90, 108, 99, 109, 86, 112, 90,
    50, 52, 103, 10, 85, 50, 86, 121, 100, 109, 86, 121, 77, 66, 52, 88, 68, 84, 73, 50, 77, 68,
    107, 119, 77, 84, 65, 119, 77, 68, 65, 119, 77, 70, 111, 88, 68, 84, 73, 50, 77, 68, 107,
    119, 77, 106, 65, 119, 77, 68, 65, 119, 77, 70, 111, 119, 72, 122, 69, 100, 77, 66, 115, 71,
    65, 49, 85, 69, 10, 65, 119, 119, 85, 86, 108, 90, 87, 73, 70, 78, 118, 100, 109, 86, 121,
    90, 87, 108, 110, 98, 105, 66, 84, 90, 88, 74, 50, 90, 88, 73, 119, 75, 106, 65, 70, 66, 103,
    77, 114, 90, 88, 65, 68, 73, 81, 66, 88, 104, 88, 49, 86, 69, 122, 48, 43, 85, 115, 113, 49,
    113, 66, 78, 66, 10, 75, 47, 112, 66, 77, 99, 103, 113, 109, 50, 106, 88, 118, 112, 78, 55,
    112, 116, 85, 114, 83, 104, 43, 72, 56, 84, 65, 70, 66, 103, 77, 114, 90, 88, 65, 68, 81, 81,
    66, 110, 116, 74, 113, 65, 117, 108, 77, 72, 117, 70, 98, 120, 69, 47, 98, 100, 114, 71, 106,
    83, 113, 108, 115, 107, 10, 68, 110, 119, 56, 56, 107, 71, 110, 87, 114, 84, 73, 74, 76, 51,
    55, 87, 117, 80, 106, 78, 97, 83, 109, 120, 88, 97, 47, 75, 121, 109, 83, 66, 57, 117, 75,
    89, 101, 111, 56, 47, 43, 67, 55, 79, 43, 71, 53, 82, 104, 70, 98, 81, 75, 76, 67, 102, 98,
    107, 67, 10, 45, 45, 45, 45, 45, 69, 78, 68, 32, 67, 69, 82, 84, 73, 70, 73, 67, 65, 84, 69,
    45, 45, 45, 45, 45, 10]

/-- What is in it. -/
def firstDer : List UInt8 :=
  [48, 129, 234, 48, 129, 157, 160, 3, 2, 1, 2, 2, 1, 1, 48, 5, 6, 3, 43, 101, 112, 48, 31, 49,
    29, 48, 27, 6, 3, 85, 4, 3, 12, 20, 86, 86, 86, 32, 83, 111, 118, 101, 114, 101, 105, 103,
    110, 32, 83, 101, 114, 118, 101, 114, 48, 30, 23, 13, 50, 54, 48, 57, 48, 49, 48, 48, 48, 48,
    48, 48, 90, 23, 13, 50, 54, 48, 57, 48, 50, 48, 48, 48, 48, 48, 48, 90, 48, 31, 49, 29, 48,
    27, 6, 3, 85, 4, 3, 12, 20, 86, 86, 86, 32, 83, 111, 118, 101, 114, 101, 105, 103, 110, 32,
    83, 101, 114, 118, 101, 114, 48, 42, 48, 5, 6, 3, 43, 101, 112, 3, 33, 0, 87, 133, 125, 85,
    19, 61, 62, 82, 202, 181, 168, 19, 65, 43, 250, 65, 49, 200, 42, 155, 104, 215, 190, 147,
    123, 166, 213, 43, 74, 31, 135, 241, 48, 5, 6, 3, 43, 101, 112, 3, 65, 0, 103, 180, 154, 128,
    186, 83, 7, 184, 86, 241, 19, 246, 221, 172, 104, 210, 170, 91, 36, 14, 124, 60, 242, 65,
    167, 90, 180, 200, 36, 189, 251, 90, 227, 227, 53, 164, 166, 197, 118, 191, 43, 41, 146, 7,
    219, 138, 97, 234, 60, 255, 224, 187, 59, 225, 185, 70, 17, 91, 64, 162, 194, 125, 185, 2]

/-- A certificate from an hour after that day on. -/
def secondPem : List UInt8 :=
  [45, 45, 45, 45, 45, 66, 69, 71, 73, 78, 32, 67, 69, 82, 84, 73, 70, 73, 67, 65, 84, 69, 45,
    45, 45, 45, 45, 10, 77, 73, 72, 113, 77, 73, 71, 100, 111, 65, 77, 67, 65, 81, 73, 67, 65,
    81, 73, 119, 66, 81, 89, 68, 75, 50, 86, 119, 77, 66, 56, 120, 72, 84, 65, 98, 66, 103, 78,
    86, 66, 65, 77, 77, 70, 70, 90, 87, 86, 105, 66, 84, 98, 51, 90, 108, 99, 109, 86, 112, 90,
    50, 52, 103, 10, 85, 50, 86, 121, 100, 109, 86, 121, 77, 66, 52, 88, 68, 84, 73, 50, 77, 68,
    107, 119, 77, 106, 65, 120, 77, 68, 65, 119, 77, 70, 111, 88, 68, 84, 77, 50, 77, 68, 103,
    122, 77, 68, 65, 120, 77, 68, 65, 119, 77, 70, 111, 119, 72, 122, 69, 100, 77, 66, 115, 71,
    65, 49, 85, 69, 10, 65, 119, 119, 85, 86, 108, 90, 87, 73, 70, 78, 118, 100, 109, 86, 121,
    90, 87, 108, 110, 98, 105, 66, 84, 90, 88, 74, 50, 90, 88, 73, 119, 75, 106, 65, 70, 66, 103,
    77, 114, 90, 88, 65, 68, 73, 81, 66, 88, 104, 88, 49, 86, 69, 122, 48, 43, 85, 115, 113, 49,
    113, 66, 78, 66, 10, 75, 47, 112, 66, 77, 99, 103, 113, 109, 50, 106, 88, 118, 112, 78, 55,
    112, 116, 85, 114, 83, 104, 43, 72, 56, 84, 65, 70, 66, 103, 77, 114, 90, 88, 65, 68, 81, 81,
    68, 43, 83, 115, 50, 108, 101, 114, 49, 51, 85, 74, 113, 79, 121, 75, 49, 119, 117, 97, 78,
    89, 55, 83, 101, 50, 10, 51, 76, 82, 85, 55, 48, 99, 81, 78, 108, 89, 80, 43, 121, 118, 109,
    120, 83, 109, 48, 82, 117, 101, 54, 72, 102, 79, 86, 72, 76, 90, 118, 108, 97, 117, 121, 54,
    55, 104, 100, 69, 72, 104, 47, 85, 106, 76, 116, 75, 99, 118, 119, 75, 65, 101, 100, 67, 106,
    99, 78, 10, 45, 45, 45, 45, 45, 69, 78, 68, 32, 67, 69, 82, 84, 73, 70, 73, 67, 65, 84, 69,
    45, 45, 45, 45, 45, 10]

/-- What is in it. -/
def secondDer : List UInt8 :=
  [48, 129, 234, 48, 129, 157, 160, 3, 2, 1, 2, 2, 1, 2, 48, 5, 6, 3, 43, 101, 112, 48, 31, 49,
    29, 48, 27, 6, 3, 85, 4, 3, 12, 20, 86, 86, 86, 32, 83, 111, 118, 101, 114, 101, 105, 103,
    110, 32, 83, 101, 114, 118, 101, 114, 48, 30, 23, 13, 50, 54, 48, 57, 48, 50, 48, 49, 48, 48,
    48, 48, 90, 23, 13, 51, 54, 48, 56, 51, 48, 48, 49, 48, 48, 48, 48, 90, 48, 31, 49, 29, 48,
    27, 6, 3, 85, 4, 3, 12, 20, 86, 86, 86, 32, 83, 111, 118, 101, 114, 101, 105, 103, 110, 32,
    83, 101, 114, 118, 101, 114, 48, 42, 48, 5, 6, 3, 43, 101, 112, 3, 33, 0, 87, 133, 125, 85,
    19, 61, 62, 82, 202, 181, 168, 19, 65, 43, 250, 65, 49, 200, 42, 155, 104, 215, 190, 147,
    123, 166, 213, 43, 74, 31, 135, 241, 48, 5, 6, 3, 43, 101, 112, 3, 65, 0, 254, 74, 205, 165,
    122, 189, 119, 80, 154, 142, 200, 173, 112, 185, 163, 88, 237, 39, 182, 220, 180, 84, 239,
    71, 16, 54, 86, 15, 251, 43, 230, 197, 41, 180, 70, 231, 186, 29, 243, 149, 28, 182, 111,
    149, 171, 178, 235, 184, 93, 16, 120, 127, 82, 50, 237, 41, 203, 240, 40, 7, 157, 10, 55, 13]

/-- The client CA. -/
def caPem : List UInt8 :=
  [45, 45, 45, 45, 45, 66, 69, 71, 73, 78, 32, 67, 69, 82, 84, 73, 70, 73, 67, 65, 84, 69, 45,
    45, 45, 45, 45, 10, 77, 73, 72, 70, 77, 72, 109, 103, 65, 119, 73, 66, 65, 103, 73, 66, 65,
    84, 65, 70, 66, 103, 77, 114, 90, 88, 65, 119, 68, 84, 69, 76, 77, 65, 107, 71, 65, 49, 85,
    69, 65, 119, 119, 67, 89, 50, 69, 119, 72, 104, 99, 78, 77, 106, 89, 119, 79, 84, 65, 120,
    77, 68, 65, 119, 10, 77, 68, 65, 119, 87, 104, 99, 78, 77, 122, 89, 119, 79, 68, 77, 119, 77,
    68, 69, 119, 77, 68, 65, 119, 87, 106, 65, 78, 77, 81, 115, 119, 67, 81, 89, 68, 86, 81, 81,
    68, 68, 65, 74, 106, 89, 84, 65, 113, 77, 65, 85, 71, 65, 121, 116, 108, 99, 65, 77, 104, 65,
    77, 86, 85, 10, 50, 107, 102, 83, 72, 109, 87, 81, 80, 71, 68, 50, 53, 83, 117, 106, 103, 78,
    105, 109, 75, 51, 49, 83, 105, 77, 67, 88, 49, 89, 87, 102, 109, 72, 105, 53, 43, 74, 105,
    121, 77, 65, 85, 71, 65, 121, 116, 108, 99, 65, 78, 66, 65, 73, 86, 72, 103, 115, 51, 101,
    119, 110, 72, 90, 10, 98, 79, 118, 99, 111, 87, 113, 89, 77, 82, 47, 67, 75, 119, 80, 87,
    100, 89, 90, 76, 101, 70, 75, 75, 116, 81, 117, 116, 98, 73, 79, 70, 65, 100, 79, 74, 54,
    118, 110, 51, 113, 114, 83, 54, 69, 99, 81, 117, 111, 109, 101, 111, 113, 49, 75, 80, 114,
    77, 68, 51, 74, 109, 109, 52, 10, 52, 43, 67, 66, 88, 81, 122, 118, 67, 119, 81, 61, 10, 45,
    45, 45, 45, 45, 69, 78, 68, 32, 67, 69, 82, 84, 73, 70, 73, 67, 65, 84, 69, 45, 45, 45, 45,
    45, 10]

/-- What is in it. -/
def caDer : List UInt8 :=
  [48, 129, 197, 48, 121, 160, 3, 2, 1, 2, 2, 1, 1, 48, 5, 6, 3, 43, 101, 112, 48, 13, 49, 11,
    48, 9, 6, 3, 85, 4, 3, 12, 2, 99, 97, 48, 30, 23, 13, 50, 54, 48, 57, 48, 49, 48, 48, 48, 48,
    48, 48, 90, 23, 13, 51, 54, 48, 56, 51, 48, 48, 49, 48, 48, 48, 48, 90, 48, 13, 49, 11, 48,
    9, 6, 3, 85, 4, 3, 12, 2, 99, 97, 48, 42, 48, 5, 6, 3, 43, 101, 112, 3, 33, 0, 197, 84, 218,
    71, 210, 30, 101, 144, 60, 96, 246, 229, 43, 163, 128, 216, 166, 43, 125, 82, 136, 192, 151,
    213, 133, 159, 152, 120, 185, 248, 152, 178, 48, 5, 6, 3, 43, 101, 112, 3, 65, 0, 133, 71,
    130, 205, 222, 194, 113, 217, 108, 235, 220, 161, 106, 152, 49, 31, 194, 43, 3, 214, 117,
    134, 75, 120, 82, 138, 181, 11, 173, 108, 131, 133, 1, 211, 137, 234, 249, 247, 170, 180,
    186, 17, 196, 46, 162, 103, 168, 171, 82, 143, 172, 192, 247, 38, 105, 184, 227, 224, 129,
    93, 12, 239, 11, 4]

/-- The start of the first day, of the second, and an hour later, in nanoseconds. -/
def day : ℤ := 1788220800 * 1000000000
def nextDay : ℤ := 1788307200 * 1000000000
def renewalTime : ℤ := 1788310800 * 1000000000

/-- What is in a certificate for some time. -/
def certificateFor (notBefore notAfter : ℤ) : X509 where
  commonName := some SERVER_CERT_COMMON_NAME
  subjectAlternativeName := false
  notBefore := notBefore
  notAfter := notAfter
  subjectPki := spki

/-- The crates, on these files. -/
def sampleCrates : CertCrates where
  pemIter data :=
    if data = firstPem then [.ok ⟨"CERTIFICATE", firstDer⟩]
    else if data = secondPem then [.ok ⟨"CERTIFICATE", secondDer⟩]
    else []
  parseX509 der :=
    if der = firstDer then .ok (certificateFor day nextDay)
    else if der = secondDer then
      .ok (certificateFor renewalTime (renewalTime + 3650 * NANOSECONDS_PER_DAY))
    else .error "not a certificate"
  sha256 _ := #v[16, 22, 148, 16, 190, 85, 119, 237, 209, 205, 168, 69, 98, 42, 105, 40, 16, 101,
    196, 149, 143, 103, 110, 129, 178, 138, 218, 114, 174, 85, 176, 171]
  base64 _ := "EBaUEL5Vd+3RzahFYippKBBlxJWPZ26Bsoracq5VsKs="
  keyPairFromPem pem := if pem = keyPem then .ok keyDer else .error "not a key"
  generateKeyPair _ := .ok keyDer
  serializePem _ := keyPem
  selfSigned _ params _ := if params.notBefore = renewalTime then .ok secondPem else .ok firstPem
  certificates data :=
    .ok (if data = firstPem then [firstDer] else if data = secondPem then [secondDer]
      else if data = caPem then [caDer] else [])
  privateKeys data := if data = keyPem then [.ok keyDer] else []
  addParsableCertificates certs := (certs.length, 0)
  buildVerifier _ := .ok ()
  withSingleCert chain key :=
    if (chain = [firstDer] ∨ chain = [secondDer]) ∧ key = keyDer then .ok ()
    else .error "inconsistent keys"

/-- Nothing fails. -/
def noFaults : Faults := fun _ => .done

/-- Before the start. -/
def initial : State where
  now := day
  files := { cert := some firstPem, key := some ⟨keyPem, 0o600, true⟩, pin := none,
             clientCa := some caPem }

/-- The configurations of the two days. -/
def firstConfig : TlsConfig := ⟨[firstDer], keyDer, [caDer]⟩
def secondConfig : TlsConfig := ⟨[secondDer], keyDer, [caDer]⟩

/-- The pin of either. -/
def samplePin : String := "sha256/EBaUEL5Vd+3RzahFYippKBBlxJWPZ26Bsoracq5VsKs="

theorem refusesMismatch_sampleCrates : RefusesMismatch sampleCrates fun _ => spki := by
  intro chain key h
  have hpair : (chain = [firstDer] ∨ chain = [secondDer]) ∧ key = keyDer := by
    by_contra hnot
    exact absurd ((if_neg hnot).symm.trans h) nofun
  have hfirst : (sampleCrates.parseX509 firstDer).toOption.map X509.subjectPki = some spki := by
    decide +kernel
  have hsecond : (sampleCrates.parseX509 secondDer).toOption.map X509.subjectPki = some spki := by
    decide +kernel
  have hleaf {leaf : List UInt8}
      (h : (sampleCrates.parseX509 leaf).toOption.map X509.subjectPki = some spki) :
      ∃ x509, sampleCrates.parseX509 leaf = .ok x509 ∧ x509.subjectPki = spki := by
    cases hparse : sampleCrates.parseX509 leaf with
    | error e =>
      rw [hparse] at h
      exact absurd h nofun
    | ok x509 =>
      rw [hparse] at h
      exact ⟨x509, rfl, Option.some_inj.mp h⟩
  rcases hpair with ⟨rfl | rfl, -⟩
  · obtain ⟨x509, hparse, hspki⟩ := hleaf hfirst
    exact ⟨firstDer, [], x509, rfl, hparse, hspki⟩
  · obtain ⟨x509, hparse, hspki⟩ := hleaf hsecond
    exact ⟨secondDer, [], x509, rfl, hparse, hspki⟩

end Sample

open Sample in
/-- A certificate expires and is renewed. -/
theorem server_identity_survives_expiry :
    ∃ s s', (system sampleCrates 3650).exec initial [.start noFaults []] = some s ∧
      (system sampleCrates 3650).exec s
        [.tick 90000000000000, .outside s.files, .renew noFaults []] = some s' ∧
      s.phase = .running firstConfig ∧ s'.phase = .running secondConfig ∧
      servedSpki sampleCrates firstConfig = some spki ∧
      servedSpki sampleCrates secondConfig = some spki := by
  have hstart : (system sampleCrates 3650).exec initial [.start noFaults []] =
      some { now := day, phase := .running firstConfig,
             files := { initial.files with pin := some (pinLine samplePin) } } := by
    decide +kernel
  have hrenew : (system sampleCrates 3650).exec
      { now := day, phase := .running firstConfig,
        files := { initial.files with pin := some (pinLine samplePin) } }
      [.tick 90000000000000, .outside { initial.files with pin := some (pinLine samplePin) },
        .renew noFaults []] =
      some { now := renewalTime, phase := .running secondConfig,
             files := { initial.files with
               cert := some secondPem, pin := some (pinLine samplePin) } } := by
    decide +kernel
  have hinit : (system sampleCrates 3650).init initial := Eq.refl Phase.starting
  obtain ⟨pki, hpki, hlater⟩ := (server_identity_survives refusesMismatch_sampleCrates).2 _ _
    (TransitionSystem.reachable_of_exec _ hinit hstart) rfl
  obtain ⟨shared', hphase, hsame⟩ := hlater _ (TransitionSystem.run_of_exec _ hrenew)
  obtain rfl := Phase.running.inj hphase
  have hvalue : servedSpki sampleCrates firstConfig = some spki := by decide +kernel
  obtain rfl := Option.some_inj.mp (hpki.symm.trans hvalue)
  exact ⟨_, _, hstart, hrenew, rfl, rfl, hvalue, hsame⟩

end Renewal

end Proxy

end VibeVoice
