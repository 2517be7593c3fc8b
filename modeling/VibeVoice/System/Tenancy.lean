import VibeVoice.Proxy.Authentic
import VibeVoice.Proxy.HopByHop
import VibeVoice.Server.App
import VibeVoice.Server.QueueStatus

/-!
# A client sees its own jobs

The proxy, the application and the queue together.  A client has a certificate and
nothing else: no account, no session, no job id it must know.  Which jobs it is told about
is decided by a string that was written into a header by one program and compared with a
string in a record by another.

`owners` says what that string stands for.  It is kept by nobody: it is the list of the
jobs that were made, each with the digest of the key of the connection its request came
over.  The invariant (`Owned`) is that the record of every job carries the hexadecimal
form of that digest.  A job is given its identity when it is reserved and no step changes
it (`clientIdentity_of_step`), and different digests have different hexadecimal forms.  So
the queue status over a connection lists the jobs that were made over connections with the
same key, and only those.

The requests are those that came through the proxy.  The server believes any other.
-/

namespace VibeVoice

open Proxy

/-! ## A request, from the connection to the function -/

/-- `Method::as_str` -/
def Proxy.Method.asStr : Method → String
  | .get => "GET"
  | .head => "HEAD"
  | .post => "POST"
  | .other token => token

/-- The server has read this request.  It takes the escapes out of the path. -/
structure Received (sent : Proxy.Request) (scope : Scope) : Prop where
  method : scope.method = sent.method.asStr
  path : '%' ∉ sent.uri.path.toList → scope.path = sent.uri.path
  headers : Serialised sent.headers scope.headers

variable {crates : Crates} {state : AppState}

/-- The digest of the key of the client. -/
def Proxy.Crates.keyDigest (crates : Crates) (peerCerts : Option (List (List UInt8))) :
    Option (Vector UInt8 32) :=
  match peerCerts with
  | some (leaf :: _) =>
    match crates.subjectPki leaf with
    | .ok spki => some (crates.sha256 spki)
    | .error _ => none
  | _ => none

/-- **What the server makes of a request that was sent**: it is let through, for the client
whose key the connection has. -/
theorem authentic_of_sent {clientIp : String} {peerCerts : Option (List (List UInt8))}
    {req sent : Proxy.Request} {upstream : Upstream} {response : Response} {scope : Scope}
    (h : servePublicRequest crates state clientIp peerCerts req upstream =
      some (some sent, response)) (hscope : Received sent scope) :
    ∃ digest, crates.keyDigest peerCerts = some digest ∧ requireHttps scope = .ok () ∧
      requireClientIdentity scope.headers = .ok (hexLower digest.toList) := by
  unfold servePublicRequest at h
  cases hidentity : crates.clientIdentityFromPeerCerts peerCerts with
  | error e => simp [hidentity] at h
  | ok identity =>
    obtain ⟨leaf, rest, spki, rfl, hspki, rfl⟩ := Crates.clientIdentity_eq_ok hidentity
    simp only [hidentity, Option.some.injEq] at h
    obtain ⟨value, hvalue, hheaders, -⟩ :=
      httpProxy_fst (proxyHandlerInner_fst (congrArg Prod.fst h))
    have hone : sent.headers.getAll Header.CLIENT_IDENTITY = [value] := by
      rw [hheaders, getAll_clientIdentity]
    have hproto := hscope.headers Header.X_FORWARDED_PROTO (by decide)
    rw [hheaders, getAll_xForwardedProto, List.map_singleton] at hproto
    refine ⟨crates.sha256 spki, ?_, requireHttps_of_one (hproto.trans (by decide)), ?_⟩
    · simp only [Crates.keyDigest, hspki]
    · exact requireClientIdentity_of_serialised hscope.headers hvalue hone

/-- The request that is sent is the one that came, with a URI that was parsed again. -/
theorem uri_of_sent {clientIp identity : String} {req sent : Proxy.Request} {upstream : Upstream}
    (h : (httpProxy crates state req clientIp identity upstream).1 = some sent) :
    sent.method = req.method ∧ isPublicUpstreamRoute req.method req.uri.path = true ∧
      crates.parseUri (req.uri.pathAndQuery.getD "/") = .ok sent.uri := by
  unfold httpProxy at h
  simp only at h
  split at h
  · exact absurd h (by simp)
  · rename_i hroute
    split at h
    · exact absurd h (by simp)
    · split at h
      · exact absurd h (by simp)
      · split at h
        · exact absurd h (by simp)
        · rename_i uri huri
          rw [exchange_fst h]
          exact ⟨rfl, by simpa using hroute, huri⟩

/-! ## The queue and those who ask -/

namespace TranscriptionQueue

variable {pf : ProcessFn} {maxSize : ℕ} {s s' : TranscriptionQueue pf.Frame}

/-- **No step changes whose job it is**, but the one that makes it. -/
theorem clientIdentity_of_step {a : Action pf.Input} (ht : Transition pf s a s') {id : JobId}
    (hid : ∀ who, a ≠ .reserve id who) :
    (s'.job id).clientIdentity = (s.job id).clientIdentity := by
  have same (s' : TranscriptionQueue pf.Frame) {j : JobId} {job : TranscriptionJob}
      (hjob : s'.job = Function.update s.job j job)
      (hwho : job.clientIdentity = (s.job j).clientIdentity) :
      (s'.job id).clientIdentity = (s.job id).clientIdentity := by
    rw [hjob]
    exact update_field (·.clientIdentity) s.job hwho id
  cases ht with
  | refused | retire | skip | stop | disarm | stopRaised | stopped | expire => rfl
  | attach | submit | start | forget | consume => exact same _ rfl rfl
  | cancel => exact same _ rfl (by simp)
  | resume => exact same _ rfl (by simp)
  | process => exact same _ rfl (TranscriptionJob.applyEffects_spec _ _).clientIdentity
  | reserve j who =>
    have hj : id ≠ j := by
      rintro rfl
      exact hid who rfl
    show (Function.update s.job j _ id).clientIdentity = _
    rw [Function.update_of_ne hj]

/-- What is reserved stays reserved, and only `reserve` adds to it. -/
theorem reserved_of_step {a : Action pf.Input} (ht : Transition pf s a s')
    (ha : ∀ id who, a ≠ .reserve id who) : s'.history.reserved = s.history.reserved := by
  cases ht with
  | reserve id who => exact absurd rfl (ha id who)
  | refused | attach | submit | cancel | retire | skip | start | resume | process | stop | disarm
  | stopRaised | stopped | forget | expire | consume => rfl

end TranscriptionQueue

/-- A request on a connection, what the server has read of it, and the id of the job that
is made of it, if one is. -/
structure PublicRequest where
  clientIp : String
  peerCerts : Option (List (List UInt8))
  req : Proxy.Request
  upstream : Upstream
  scope : Scope
  jobId : JobId

/-- The request came through the proxy. -/
def PublicRequest.Proxied (crates : Crates) (state : AppState) (r : PublicRequest) : Prop :=
  ∃ sent response, servePublicRequest crates state r.clientIp r.peerCerts r.req r.upstream =
    some (some sent, response) ∧ Received sent r.scope

theorem proxied_mk {crates : Crates} {state : AppState} {clientIp : String}
    {peerCerts : Option (List (List UInt8))} {req sent : Proxy.Request} {upstream : Upstream}
    {response : Response} {scope : Scope} {id : JobId}
    (hsent : servePublicRequest crates state clientIp peerCerts req upstream =
      some (some sent, response)) (hscope : Received sent scope) :
    PublicRequest.Proxied crates state ⟨clientIp, peerCerts, req, upstream, scope, id⟩ :=
  ⟨sent, response, hsent, hscope⟩

/-- The jobs that were made, each with the key of the connection it was asked for over. -/
abbrev Owners := List (JobId × Vector UInt8 32)

namespace TranscriptionQueue

/-- `transcribe`, up to its first await: the job of a request is reserved, for the
identity the request has. -/
def takeIn {F : Type} (crates : Crates) (s : TranscriptionQueue F) (owners : Owners)
    (r : PublicRequest) : Option (TranscriptionQueue F × Owners) :=
  match dispatch r.scope with
  | .ok (.transcribe identity) =>
    if r.jobId ∈ s.history.reserved then none
    else
      match s.reserve r.jobId identity with
      | (.error _, s) => some (s, owners)
      | (.ok (), s) =>
        some (s, owners ++ ((crates.keyDigest r.peerCerts).map fun d => (r.jobId, d)).toList)
  | _ => some (s, owners)

/-- A request that is called for a transcription, when there is room. -/
theorem takeIn_of_room {F : Type} {crates : Crates} {s : TranscriptionQueue F} {owners : Owners}
    {r : PublicRequest} {identity : String}
    (hcall : dispatch r.scope = .ok (.transcribe identity)) (hfresh : r.jobId ∉ s.history.reserved)
    (hroom : s.activeCount < s.maxSize) : s.takeIn crates owners r =
      some (s.afterReserve r.jobId identity,
        owners ++ ((crates.keyDigest r.peerCerts).map fun d => (r.jobId, d)).toList) := by
  simp only [takeIn, hcall, if_neg hfresh, reserve_of_room _ _ hroom]

/-- **What a request can do to the queue**: it does nothing, or it reserves a job. -/
theorem takeIn_cases {F : Type} {crates : Crates} {s s' : TranscriptionQueue F}
    {owners owners' : Owners} {r : PublicRequest}
    (h : s.takeIn crates owners r = some (s', owners')) :
    (s' = s ∧ owners' = owners) ∨ ∃ identity, dispatch r.scope = .ok (.transcribe identity) ∧
      r.jobId ∉ s.history.reserved ∧ s.activeCount < s.maxSize ∧
      s' = s.afterReserve r.jobId identity ∧
      owners' = owners ++ ((crates.keyDigest r.peerCerts).map fun d => (r.jobId, d)).toList := by
  by_cases hcall : ∃ identity, dispatch r.scope = .ok (.transcribe identity)
  · obtain ⟨identity, hcall⟩ := hcall
    by_cases hfresh : r.jobId ∈ s.history.reserved
    · simp only [takeIn, hcall, if_pos hfresh, reduceCtorEq] at h
    · by_cases hroom : s.activeCount < s.maxSize
      · rw [takeIn_of_room hcall hfresh hroom] at h
        obtain ⟨rfl, rfl⟩ := Prod.mk.inj (Option.some_inj.mp h)
        exact Or.inr ⟨identity, hcall, hfresh, hroom, rfl, rfl⟩
      · simp only [takeIn, hcall, if_neg hfresh,
          reserve_of_full _ _ (Nat.le_of_not_lt hroom)] at h
        obtain ⟨rfl, rfl⟩ := Prod.mk.inj (Option.some_inj.mp h)
        exact Or.inl ⟨rfl, rfl⟩
  · unfold takeIn at h
    split at h
    · rename_i identity hfound
      exact absurd ⟨identity, hfound⟩ hcall
    · obtain ⟨rfl, rfl⟩ := Prod.mk.inj (Option.some_inj.mp h)
      exact Or.inl ⟨rfl, rfl⟩

variable (crates : Crates) (state : AppState) (pf : ProcessFn) (maxSize : ℕ)

/-- Those who ask: nobody else reserves. -/
def clients : TransitionSystem.Party (TranscriptionQueue pf.Frame) (Action pf.Input) where
  State := Owners
  Label := PublicRequest
  init owners := owners = []
  allows
    | _, .reserve _ _ => false
    | _, _ => true
  step s owners r := s.takeIn crates owners r

/-- **The queue with the requests of all clients.** -/
def clientSystem :
    TransitionSystem (TranscriptionQueue pf.Frame × Owners) (Action pf.Input ⊕ PublicRequest) :=
  (system pf maxSize).joined (clients crates pf)

/-- Every request came through the proxy. -/
def ThroughProxy (_ : TranscriptionQueue pf.Frame × Owners) :
    Action pf.Input ⊕ PublicRequest → Prop
  | .inl _ => True
  | .inr r => r.Proxied crates state

/-- **Whose job it is**, is in the record. -/
structure Owned {F : Type} (s : TranscriptionQueue F) (owners : Owners) : Prop where
  recorded : ∀ id digest, (id, digest) ∈ owners →
    id ∈ s.history.reserved ∧ (s.job id).clientIdentity = hexLower digest.toList
  owned : ∀ id ∈ s.history.reserved, ∃ digest, (id, digest) ∈ owners

variable {crates state pf maxSize} {s s' : TranscriptionQueue pf.Frame} {owners owners' : Owners}

/-- A job has one owner. -/
theorem Owned.unique (h : Owned s owners) {id : JobId} {d d' : Vector UInt8 32}
    (hd : (id, d) ∈ owners) (hd' : (id, d') ∈ owners) : d = d' := by
  have hsame := (h.recorded id d hd).2.symm.trans (h.recorded id d' hd').2
  exact Vector.toList_inj.mp (hexLower_injective hsame)

/-- The identity of a job says who owns it. -/
theorem Owned.mem_iff (h : Owned s owners) {id : JobId} (hid : id ∈ s.history.reserved)
    (digest : Vector UInt8 32) :
    (id, digest) ∈ owners ↔ (s.job id).clientIdentity = hexLower digest.toList := by
  refine ⟨fun hd => (h.recorded id digest hd).2, fun hwho => ?_⟩
  obtain ⟨found, hfound⟩ := h.owned id hid
  have hsame := (h.recorded id found hfound).2.symm.trans hwho
  rwa [← Vector.toList_inj.mp (hexLower_injective hsame)]

/-- The others leave the jobs to their owners. -/
theorem Owned.others (h : Owned s owners) {a : Action pf.Input} (ht : Transition pf s a s')
    (ha : ∀ id who, a ≠ .reserve id who) : Owned s' owners := by
  have hreserved := reserved_of_step ht ha
  refine ⟨fun id digest hd => ?_, fun id hid => h.owned id (hreserved ▸ hid)⟩
  rw [hreserved, clientIdentity_of_step ht (ha id)]
  exact h.recorded id digest hd

/-- **A request makes a job for the client it came from.** -/
theorem Owned.takeIn (h : Owned s owners) {r : PublicRequest} (hr : r.Proxied crates state)
    (hst : s.takeIn crates owners r = some (s', owners')) : Owned s' owners' := by
  rcases takeIn_cases hst with ⟨rfl, rfl⟩ | ⟨identity, hcall, hfresh, -, rfl, rfl⟩
  · exact h
  · obtain ⟨sent, response, hsent, hscope⟩ := hr
    obtain ⟨digest, hdigest, -, hidentity⟩ := authentic_of_sent hsent hscope
    have hwho : hexLower digest.toList = identity :=
      Except.ok.inj (hidentity.symm.trans (requireClientIdentity_of_transcribe hcall))
    rw [hdigest]
    refine ⟨fun id d hd => ?_, fun id hid => ?_⟩
    · rcases List.mem_append.mp hd with hd | hd
      · obtain ⟨hid, hold⟩ := h.recorded id d hd
        have hne : id ≠ r.jobId := fun he => hfresh (he ▸ hid)
        refine ⟨List.mem_append_left _ hid, ?_⟩
        show (Function.update s.job r.jobId _ id).clientIdentity = _
        rw [Function.update_of_ne hne, hold]
      · obtain ⟨rfl, rfl⟩ := Prod.mk.inj (List.mem_singleton.mp hd)
        refine ⟨List.mem_append_right _ List.mem_cons_self, ?_⟩
        show (Function.update s.job r.jobId _ r.jobId).clientIdentity = _
        rw [Function.update_self, hwho]
    · rcases List.mem_append.mp hid with hid | hid
      · obtain ⟨d, hd⟩ := h.owned id hid
        exact ⟨d, List.mem_append_left _ hd⟩
      · rw [List.mem_singleton.mp hid]
        exact ⟨digest, List.mem_append_right _ List.mem_cons_self⟩

/-- What a request does to the queue is a step of it. -/
theorem run_of_takeIn {r : PublicRequest} (hst : s.takeIn crates owners r = some (s', owners')) :
    (system pf maxSize).Run s s' := by
  rcases takeIn_cases hst with ⟨rfl, -⟩ | ⟨identity, -, hfresh, hroom, rfl, -⟩
  · exact Relation.ReflTransGen.refl
  · have hstep : (system pf maxSize).step s (.reserve r.jobId identity) =
        some (s.reserve r.jobId identity).2 := if_neg hfresh
    rw [reserve_of_room _ _ hroom] at hstep
    exact Relation.ReflTransGen.single ⟨_, trivial, hstep⟩

theorem step_clientSystem (s : TranscriptionQueue pf.Frame) (owners : Owners) (r : PublicRequest) :
    (clientSystem crates pf maxSize).step (s, owners) (.inr r) = s.takeIn crates owners r := rfl

theorem reachable_of_clientSystem
    (h : (clientSystem crates pf maxSize).ReachableWhen (ThroughProxy crates state pf)
      (s, owners)) : (system pf maxSize).Reachable s :=
  h.of_joined (fun _ _ _ _ => trivial) fun _ _ _ _ _ _ _ hst => run_of_takeIn hst

/-- **In every state reached the jobs are with their owners.** -/
theorem owned_of_reachable
    (h : (clientSystem crates pf maxSize).ReachableWhen (ThroughProxy crates state pf)
      (s, owners)) : Owned s owners := by
  refine h.induction (fun c => Owned c.1 c.2) ?_ ?_
  · rintro ⟨s, owners⟩ ⟨rfl, rfl⟩
    exact ⟨fun _ _ hd => absurd hd List.not_mem_nil, fun _ hid => absurd hid List.not_mem_nil⟩
  · rintro ⟨s, owners⟩ a ⟨s', owners'⟩ hs ih hP hst
    cases a with
    | inl a =>
      obtain ⟨hallow, t, ht, heq⟩ := TransitionSystem.joined_step_inl hst
      obtain ⟨rfl, rfl⟩ := Prod.mk.inj heq
      have hc := coherent_of_reachable (reachable_of_clientSystem hs)
      refine Owned.others ih (transition_of_step hc.linked ht) ?_
      rintro id who rfl
      exact absurd hallow Bool.false_ne_true
    | inr r => exact Owned.takeIn ih hP hst

/-- **A client is told about its own jobs.**  In every state that requests through the
proxy lead to, a queue status asked for over a connection is answered for the key of that
connection; the jobs it lists are those still tracked that were asked for over connections
with that key, in the order in which they were reserved; and every job there is has one
owner. -/
theorem tenant_isolation
    (h : (clientSystem crates pf maxSize).ReachableWhen (ThroughProxy crates state pf)
      (s, owners)) {clientIp : String} {peerCerts : Option (List (List UInt8))}
    {req sent : Proxy.Request} {upstream : Upstream} {response : Response} {scope : Scope}
    (hsent : servePublicRequest crates state clientIp peerCerts req upstream =
      some (some sent, response)) (hscope : Received sent scope) (hget : req.method = .get)
    (hparse : ∀ uri, crates.parseUri (req.uri.pathAndQuery.getD "/") = .ok uri →
      uri.path = req.uri.path) :
    ∃ digest, crates.keyDigest peerCerts = some digest ∧
      dispatch scope = .ok (.queueStatus (hexLower digest.toList)) ∧
      (∃ ids : List JobId, ids.Sublist s.jobs ∧
        (∀ id, id ∈ ids ↔ id ∈ s.jobs ∧ (id, digest) ∈ owners) ∧
        (s.getQueueInfo (hexLower digest.toList)).yourJobs = ids.map s.jobInfo) ∧
      ∀ id ∈ s.jobs, ∃! digest, (id, digest) ∈ owners := by
  have howned := owned_of_reachable h
  have hc := coherent_of_reachable (reachable_of_clientSystem h)
  obtain ⟨digest, hdigest, hhttps, hidentity⟩ := authentic_of_sent hsent hscope
  have hcall : dispatch scope = .ok (.queueStatus (hexLower digest.toList)) := by
    unfold servePublicRequest at hsent
    cases hpeer : crates.clientIdentityFromPeerCerts peerCerts with
    | error e => simp [hpeer] at hsent
    | ok identity =>
      simp only [hpeer, Option.some.injEq] at hsent
      obtain ⟨hmethod, hroute, huri⟩ :=
        uri_of_sent (proxyHandlerInner_fst (congrArg Prod.fst hsent))
      have hpath : sent.uri.path = "/v1/queue/status" := by
        rw [hparse _ huri]
        simpa [isPublicUpstreamRoute, hget] using hroute
      refine (dispatch_of_route hhttps hidentity).2 ?_
      rw [hscope.method, hmethod, hget, hscope.path (by rw [hpath]; decide), hpath]
      decide
  refine ⟨digest, hdigest, hcall, ⟨s.jobs.filter fun id =>
    (s.job id).clientIdentity = hexLower digest.toList, List.filter_sublist, fun id => ?_,
    by rw [getQueueInfo_eq]⟩, fun id hid => ?_⟩
  · rw [List.mem_filter, decide_eq_true_eq]
    refine and_congr_right fun hid => (howned.mem_iff (hc.sound.jobs_reserved id hid) digest).symm
  · obtain ⟨d, hd⟩ := howned.owned id (hc.sound.jobs_reserved id hid)
    exact ⟨d, hd, fun d' hd' => howned.unique hd' hd⟩

end TranscriptionQueue

/-! ## Two clients -/

/-- What goes over the wire, for a header map. -/
def serialise (headers : HeaderMap) : RawHeaders :=
  headers.entries.map fun e => (latin1Encode e.1.asStr, trimOws e.2.asBytes)

/-- A character of a name is one byte. -/
theorem toNat_lt_of_isTokenChar {c : Char} (h : isTokenChar c = true) : c.toNat < 256 := by
  rw [isTokenChar, Bool.or_eq_true, decide_eq_true_eq] at h
  rcases h with h | h
  · delta Char.isAlphanum Char.isAlpha Char.isUpper Char.isLower Char.isDigit at h
    simp only [Bool.or_eq_true, Bool.and_eq_true, decide_eq_true_eq,
      UInt32.le_iff_toNat_le] at h
    have hval : c.val.toNat = c.toNat := rfl
    simp only [hval] at h
    simp at h
    omega
  · have hall : "!#$%&'*+-.^_`|~".toList.all (fun c => c.toNat < 256) = true := by
      decide +kernel
    exact of_decide_eq_true (List.all_eq_true.mp hall c h)

/-- A name is told by its bytes. -/
theorem latin1Encode_asStr_inj {name name' : HeaderName} :
    latin1Encode name.asStr = latin1Encode name'.asStr ↔ name = name' := by
  refine ⟨fun h => ?_, fun h => h ▸ rfl⟩
  have hread (n : HeaderName) : latin1Decode (latin1Encode n.asStr) = n.asStr := by
    refine latin1Decode_encode fun c hc => toNat_lt_of_isTokenChar ?_
    have hvalid := n.valid
    rw [isHeaderName, Bool.and_eq_true, List.all_eq_true] at hvalid
    exact (Bool.and_eq_true _ _ ▸ hvalid.2 c hc).1
  exact HeaderName.asStr_inj.mp (by rw [← hread name, h, hread name'])

/-- **What is serialised is read back.** -/
theorem serialised_serialise (headers : HeaderMap) : Serialised headers (serialise headers) := by
  intro name _
  rw [serialise, Multimap.getAll, List.filter_map, List.map_map, List.map_map]
  have hfilter : headers.entries.filter
      ((fun h : List UInt8 × List UInt8 => decide (h.1 = latin1Encode name.asStr)) ∘
        fun e => (latin1Encode e.1.asStr, trimOws e.2.asBytes)) =
      headers.entries.filter fun e => e.1 = name :=
    List.filter_congr fun e _ => by simp [latin1Encode_asStr_inj]
  rw [hfilter]
  rfl

namespace Tenancy

/-- The certificates of two clients. -/
def ours : List UInt8 :=
  [48, 129, 190, 48, 114, 2, 1, 1, 48, 5, 6, 3, 43, 101, 112, 48, 12, 49, 10, 48, 8, 6, 3, 85, 4,
   3, 12, 1, 97, 48, 30, 23, 13, 50, 54, 49, 49, 49, 57, 48, 54, 49, 57, 48, 52, 90, 23, 13, 51,
   54, 49, 49, 49, 54, 48, 54, 49, 57, 48, 52, 90, 48, 12, 49, 10, 48, 8, 6, 3, 85, 4, 3, 12, 1,
   97, 48, 42, 48, 5, 6, 3, 43, 101, 112, 3, 33, 0, 184, 39, 84, 9, 54, 198, 79, 45, 87, 51, 41,
   174, 21, 78, 44, 47, 99, 104, 87, 107, 37, 59, 6, 236, 81, 225, 180, 59, 75, 56, 129, 188, 48,
   5, 6, 3, 43, 101, 112, 3, 65, 0, 133, 29, 221, 67, 8, 136, 107, 216, 241, 28, 206, 238, 59,
   17, 134, 39, 207, 175, 102, 98, 252, 26, 191, 249, 193, 124, 220, 111, 186, 212, 244, 72, 153,
   240, 37, 61, 114, 237, 116, 198, 43, 194, 126, 230, 163, 168, 241, 216, 22, 3, 217, 175, 73,
   193, 243, 57, 142, 195, 90, 60, 55, 143, 247, 14]

def theirs : List UInt8 :=
  [48, 129, 190, 48, 114, 2, 1, 1, 48, 5, 6, 3, 43, 101, 112, 48, 12, 49, 10, 48, 8, 6, 3, 85, 4,
   3, 12, 1, 98, 48, 30, 23, 13, 50, 54, 49, 49, 49, 57, 48, 54, 49, 57, 48, 52, 90, 23, 13, 51,
   54, 49, 49, 49, 54, 48, 54, 49, 57, 48, 52, 90, 48, 12, 49, 10, 48, 8, 6, 3, 85, 4, 3, 12, 1,
   98, 48, 42, 48, 5, 6, 3, 43, 101, 112, 3, 33, 0, 108, 33, 178, 234, 12, 99, 89, 36, 242, 148,
   28, 139, 125, 223, 104, 10, 27, 74, 45, 198, 4, 241, 211, 79, 43, 47, 135, 44, 154, 125, 254,
   177, 48, 5, 6, 3, 43, 101, 112, 3, 65, 0, 106, 168, 4, 204, 128, 179, 164, 27, 131, 45, 92,
   122, 109, 112, 192, 18, 190, 152, 167, 220, 234, 244, 154, 115, 49, 140, 95, 114, 49, 247,
   186, 213, 156, 100, 24, 48, 70, 252, 244, 5, 112, 176, 10, 138, 116, 65, 113, 141, 82, 171,
   173, 194, 115, 107, 245, 3, 182, 208, 118, 107, 240, 93, 86, 3]

/-- The digests of their keys. -/
def ourKey : Vector UInt8 32 :=
  #v[24, 228, 143, 217, 248, 149, 3, 89, 180, 159, 97, 230, 35, 130, 217, 95, 32, 214, 235,
    186, 170, 200, 154, 154, 3, 216, 45, 110, 92, 200, 55, 89]

def theirKey : Vector UInt8 32 :=
  #v[208, 137, 231, 156, 254, 211, 92, 75, 44, 251, 82, 135, 119, 174, 246, 53, 193, 35, 204,
    115, 1, 123, 156, 95, 48, 229, 173, 233, 67, 46, 133, 44]

/-- The crates, on these certificates. -/
def sampleCrates : Crates where
  subjectPki der := .ok ((der.drop 75).take 44)
  sha256 spki := if spki.getLast? = some 188 then ourKey else theirKey
  limited body _ := body
  parseUri s := .ok { path := s, pathAndQuery := some s }

/-- The server answers whatever it is sent. -/
def answering : Upstream := ⟨.connected, fun _ => some {}⟩

/-- A request of a client that sends the identity of the other one with it. -/
def request (method : Proxy.Method) (path : String) : Proxy.Request where
  method := method
  uri := ⟨path, some path⟩
  headers := ⟨[(Header.CLIENT_IDENTITY, .fromStatic
    "18e48fd9f8950359b49f61e62382d95f20d6ebbaaac89a9a03d82d6e5cc83759" (by decide))]⟩
  body := []

/-- What the server reads of a request that came over a connection. -/
def scopeOf (leaf : List UInt8) (req : Proxy.Request) : Scope :=
  match servePublicRequest sampleCrates { maxBodySize := 1024 } "127.0.0.1" (some [leaf]) req
      answering with
  | some (some sent, _) => ⟨sent.method.asStr, sent.uri.path, serialise sent.headers⟩
  | _ => ⟨"", "", []⟩

/-- A request for a transcription over a connection. -/
def asks (leaf : List UInt8) (id : JobId) : PublicRequest where
  clientIp := "127.0.0.1"
  peerCerts := some [leaf]
  req := request .post "/v1/transcribe"
  upstream := answering
  scope := scopeOf leaf (request .post "/v1/transcribe")
  jobId := id

/-- What the server reads of it is what was sent. -/
theorem received_scopeOf {leaf : List UInt8} {req sent : Proxy.Request} {response : Response}
    (h : servePublicRequest sampleCrates { maxBodySize := 1024 } "127.0.0.1" (some [leaf]) req
      answering = some (some sent, response)) : Received sent (scopeOf leaf req) := by
  rw [scopeOf, h]
  exact ⟨rfl, fun _ => rfl, serialised_serialise _⟩

/-- A request that is sent is let through. -/
theorem called_of_sent {leaf : List UInt8} {digest : Vector UInt8 32} {sent : Proxy.Request}
    {response : Response} (id : JobId)
    (hsent : servePublicRequest sampleCrates { maxBodySize := 1024 } "127.0.0.1" (some [leaf])
      (request .post "/v1/transcribe") answering = some (some sent, response))
    (hroute : route sent.method.asStr sent.uri.path = some .transcribe)
    (hdigest : sampleCrates.keyDigest (some [leaf]) = some digest) :
    (asks leaf id).Proxied sampleCrates { maxBodySize := 1024 } ∧
      dispatch (asks leaf id).scope = .ok (.transcribe (hexLower digest.toList)) := by
  have hreceived := received_scopeOf hsent
  refine ⟨proxied_mk hsent hreceived, ?_⟩
  obtain ⟨d, hd, hhttps, hidentity⟩ := authentic_of_sent hsent hreceived
  rw [hdigest, Option.some_inj] at hd
  have hscope : scopeOf leaf (request .post "/v1/transcribe") =
      ⟨sent.method.asStr, sent.uri.path, serialise sent.headers⟩ := by
    rw [scopeOf, hsent]
  have hcall := (dispatch_of_route hhttps hidentity).1 (by rw [hscope]; exact hroute)
  simpa only [asks, hd] using hcall

/-- The requests of the two clients are let through, each of them for its own client. -/
theorem asks_called :
    ((asks ours "a").Proxied sampleCrates { maxBodySize := 1024 } ∧
        dispatch (asks ours "a").scope = .ok (.transcribe (hexLower ourKey.toList))) ∧
      (asks theirs "b").Proxied sampleCrates { maxBodySize := 1024 } ∧
        dispatch (asks theirs "b").scope = .ok (.transcribe (hexLower theirKey.toList)) :=
  ⟨called_of_sent "a" rfl (by decide) rfl, called_of_sent "b" rfl (by decide) rfl⟩

end Tenancy

open Tenancy TranscriptionQueue

/-- Two clients ask for a transcription each, the second one under the identity of the
first, and the first asks for the queue status. -/
theorem tenant_isolation_forged :
    ∃ s owners, (clientSystem sampleCrates (processFn emptyListText .groq) 2).ReachableWhen
        (ThroughProxy sampleCrates { maxBodySize := 1024 } (processFn emptyListText .groq))
        (s, owners) ∧
      s.jobs = ["a", "b"] ∧ owners = [("a", ourKey), ("b", theirKey)] ∧
      dispatch (scopeOf ours (request .get "/v1/queue/status")) =
        .ok (.queueStatus (hexLower ourKey.toList)) ∧
      ∃ ids : List JobId, (∀ id, id ∈ ids ↔ id ∈ s.jobs ∧ (id, ourKey) ∈ owners) ∧
        (s.getQueueInfo (hexLower ourKey.toList)).yourJobs = ids.map s.jobInfo := by
  let s₀ : TranscriptionQueue (processFn emptyListText .groq).Frame := { maxSize := 2 }
  let s₁ := s₀.afterReserve "a" (hexLower ourKey.toList)
  let s₂ := s₁.afterReserve "b" (hexLower theirKey.toList)
  obtain ⟨⟨hours, hcallOurs⟩, htheirs, hcallTheirs⟩ := asks_called
  have hreach : (clientSystem sampleCrates (processFn emptyListText .groq) 2).ReachableWhen
      (ThroughProxy sampleCrates { maxBodySize := 1024 } (processFn emptyListText .groq))
      (s₂, [("a", ourKey), ("b", theirKey)]) := by
    have hinit : (clientSystem sampleCrates (processFn emptyListText .groq) 2).ReachableWhen
        (ThroughProxy sampleCrates { maxBodySize := 1024 } (processFn emptyListText .groq))
        (s₀, []) := TransitionSystem.ReachableWhen.of_init ⟨rfl, rfl⟩
    have hfirst : s₀.takeIn sampleCrates [] (asks ours "a") = some (s₁, [("a", ourKey)]) :=
      takeIn_of_room hcallOurs List.not_mem_nil (by decide)
    have hsecond : s₁.takeIn sampleCrates [("a", ourKey)] (asks theirs "b") =
        some (s₂, [("a", ourKey), ("b", theirKey)]) :=
      takeIn_of_room hcallTheirs (by decide) (by decide)
    have hafter := hinit.tail (a := Sum.inr (asks ours "a")) hours
      ((step_clientSystem s₀ [] _).trans hfirst)
    exact hafter.tail (a := Sum.inr (asks theirs "b")) htheirs
      ((step_clientSystem s₁ _ _).trans hsecond)
  have hsent : servePublicRequest sampleCrates { maxBodySize := 1024 } "127.0.0.1" (some [ours])
      (request .get "/v1/queue/status") answering = some (some _, _) := rfl
  obtain ⟨digest, hdigest, hcall, ⟨ids, -, hids, hjobs⟩, -⟩ :=
    tenant_isolation hreach hsent (received_scopeOf hsent) rfl
      fun uri huri => (congrArg Uri.path (Except.ok.inj huri)).symm
  obtain rfl : ourKey = digest := Option.some_inj.mp hdigest
  exact ⟨s₂, _, hreach, rfl, rfl, hcall, ids, hids, hjobs⟩

end VibeVoice
