import VibeVoice.Proxy.HopByHop

/-!
# The policy on responses

`proxy_handler`, and what is true of every response that leaves it: the headers of the
security policy are there, once each and with the value of the proxy, there is no
`Server`, and there is no hop-by-hop header (`ObeysPolicy`).

The exits are many but the ways a response is made are few (`Exit`): `text_response`,
`local_health_response`, and what is made of the upstream's.  Each ends with
`apply_security_headers` on a map from which `Server` and the hop-by-hop headers are
missing, and that is enough (`obeysPolicy_applySecurityHeaders`).  What the upstream
sends under the names of the policy, and whether it nominates them in `Connection`, does
not matter: `insert` replaces what is there.
-/

namespace VibeVoice

namespace Proxy

variable (crates : Crates) (state : AppState)

/-! ## `proxy_handler` -/

/-- `proxy_handler`; `panic` is the payload of a panic in `proxy_handler_inner`, at
whatever point, if there is one. -/
def proxyHandler (clientIp clientIdentity : String) (req : Request) (upstream : Upstream)
    (panic : Option String) : Response :=
  match panic with
  | none => (proxyHandlerInner crates state clientIp clientIdentity req upstream).2
  | some _ => textResponse 500 "Internal server error"

/-- **The policy.** -/
structure ObeysPolicy (response : Response) : Prop where
  /-- The headers of the policy, once each. -/
  security : ∀ h ∈ securityHeaders, response.headers.getAll h.1 = [h.2]
  server : response.headers.getAll Header.SERVER = []
  hopByHop : ∀ name : HeaderName, name.asStr ∈ HOP_BY_HOP_HEADERS →
    response.headers.getAll name = []

variable {crates state}

/-! ## Maps that are made public -/

/-- Without `Server` and hop-by-hop headers. -/
structure Clean (headers : HeaderMap) : Prop where
  server : headers.getAll Header.SERVER = []
  hopByHop : ∀ name : HeaderName, name.asStr ∈ HOP_BY_HOP_HEADERS → headers.getAll name = []

theorem nodup_securityHeaders : (securityHeaders.map Prod.fst).Nodup := by decide

theorem server_notMem_securityHeaders : Header.SERVER ∉ securityHeaders.map Prod.fst := by decide

theorem hopByHop_notMem_securityHeaders {name : HeaderName}
    (h : name.asStr ∈ HOP_BY_HOP_HEADERS) : name ∉ securityHeaders.map Prod.fst := by
  intro hmem
  have hall : ∀ own ∈ securityHeaders.map Prod.fst, own.asStr ∉ HOP_BY_HOP_HEADERS := by
    simp [securityHeaders, HOP_BY_HOP_HEADERS]
  exact hall name hmem h

/-- **The security headers go in last**, and their map was clean. -/
theorem obeysPolicy_applySecurityHeaders {response : Response} {headers : HeaderMap}
    (hclean : Clean headers) (h : response.headers = applySecurityHeaders headers) :
    ObeysPolicy response where
  security own hown := by
    rw [h]
    exact Multimap.getAll_foldl_insert_of_mem nodup_securityHeaders hown
  server := by
    rw [h, applySecurityHeaders,
      Multimap.getAll_foldl_insert_of_notMem server_notMem_securityHeaders, hclean.server]
  hopByHop name hname := by
    rw [h, applySecurityHeaders,
      Multimap.getAll_foldl_insert_of_notMem (hopByHop_notMem_securityHeaders hname),
      hclean.hopByHop name hname]

theorem clean_empty : Clean Multimap.empty := ⟨rfl, fun _ _ => rfl⟩

/-- One header more, of another name. -/
theorem Clean.insert {headers : HeaderMap} (h : Clean headers) {name : HeaderName}
    (hserver : name ≠ Header.SERVER) (hname : name.asStr ∉ HOP_BY_HOP_HEADERS)
    (value : HeaderValue) : Clean (headers.insert name value) where
  server := by rw [Multimap.getAll_insert_of_ne hserver, h.server]
  hopByHop other hother := by
    have hne : name ≠ other := fun heq => hname (heq ▸ hother)
    rw [Multimap.getAll_insert_of_ne hne, h.hopByHop other hother]

/-- What is copied of the upstream's headers. -/
theorem clean_returnable (headers : HeaderMap) :
    Clean (Multimap.empty.extendWhere headers (returnable headers)) where
  server := by
    rw [Multimap.getAll_extendWhere_of_not (by simp [returnable])]
    rfl
  hopByHop name hname := by
    have hhop : isHopByHopHeader name (connectionHeaderTokens headers) = true := by
      rw [isHopByHopHeader, any_hopByHop_eq_contains, List.contains_iff_mem.mpr hname]
      rfl
    rw [Multimap.getAll_extendWhere_of_not (by simp [returnable, hhop])]
    rfl

theorem obeysPolicy_textResponse (status : ℕ) (body : String) :
    ObeysPolicy (textResponse status body) :=
  obeysPolicy_applySecurityHeaders clean_empty rfl

theorem obeysPolicy_localHealthResponse (method : Method) :
    ObeysPolicy (localHealthResponse method) := by
  cases method with
  | get =>
    exact obeysPolicy_applySecurityHeaders (clean_empty.insert (by decide) (by decide) _) rfl
  | head => exact obeysPolicy_applySecurityHeaders clean_empty rfl
  | post | other => exact obeysPolicy_textResponse _ _

theorem obeysPolicy_clientResponse (response : Response) : ObeysPolicy (clientResponse response) :=
  obeysPolicy_applySecurityHeaders (clean_returnable response.headers) rfl

/-! ## The exits -/

/-- **How a response comes about**, and what was sent for it. -/
inductive Exit (upstream : Upstream) : Option Request × Response → Prop where
  /-- The proxy answers itself, and nothing is sent. -/
  | own (status : ℕ) (body : String) : Exit upstream (none, textResponse status body)
  | health (method : Method) : Exit upstream (none, localHealthResponse method)
  /-- The request is sent and there is no response. -/
  | failed (request : Request) (h : upstream.respond request = none) :
      Exit upstream (some request, textResponse 502 "Bad Gateway")
  | proxied (request : Request) (response : Response)
      (h : upstream.respond request = some response) :
      Exit upstream (some request, clientResponse response)

theorem exit_exchange (request : Request) (upstream : Upstream) :
    Exit upstream (exchange request upstream) := by
  unfold exchange
  split
  · exact .own 502 "Bad Gateway"
  · exact .own 502 "Bad Gateway"
  · exact .own 502 "Bad Gateway"
  · split
    · rename_i hnone
      exact .failed request hnone
    · rename_i response hresponse
      exact .proxied request response hresponse

theorem exit_httpProxy (req : Request) (clientIp clientIdentity : String) (upstream : Upstream) :
    Exit upstream (httpProxy crates state req clientIp clientIdentity upstream) := by
  unfold httpProxy
  dsimp only
  split
  · exact .own 404 "Not Found"
  · split
    · exact .own 413 "Payload Too Large"
    · split
      · exact .own 502 "Bad Gateway"
      · split
        · exact .own 502 "Bad Gateway"
        · exact exit_exchange _ upstream

theorem exit_proxyHandlerInner (clientIp clientIdentity : String) (req : Request)
    (upstream : Upstream) :
    Exit upstream (proxyHandlerInner crates state clientIp clientIdentity req upstream) := by
  unfold proxyHandlerInner
  split
  · exact .own 400 "Authorization header is not accepted"
  · split
    · exact .health req.method
    · split
      · exact .own 404 "Not Found"
      · exact exit_httpProxy req clientIp clientIdentity upstream

theorem Exit.obeysPolicy {upstream : Upstream} {result : Option Request × Response}
    (h : Exit upstream result) : ObeysPolicy result.2 := by
  cases h with
  | own status body => exact obeysPolicy_textResponse status body
  | health method => exact obeysPolicy_localHealthResponse method
  | failed => exact obeysPolicy_textResponse _ _
  | proxied request response => exact obeysPolicy_clientResponse response

/-- What is sent and answered is passed on. -/
theorem Exit.eq_clientResponse {upstream : Upstream} {result : Option Request × Response}
    (h : Exit upstream result) {request : Request} {response : Response}
    (hsent : result.1 = some request) (hresponse : upstream.respond request = some response) :
    result.2 = clientResponse response := by
  cases h with
  | own | health => cases hsent
  | failed request' hnone =>
    cases hsent
    rw [hnone] at hresponse
    cases hresponse
  | proxied request' response' hresponse' =>
    cases hsent
    rw [hresponse'] at hresponse
    cases hresponse
    rfl

/-- **Every response obeys the policy**, and one that is passed on has the status and the
frames of the upstream's. -/
theorem proxyHandler_obeysPolicy (crates : Crates) (state : AppState)
    (clientIp clientIdentity : String) (req : Request) (upstream : Upstream) :
    (∀ panic, ObeysPolicy
        (proxyHandler crates state clientIp clientIdentity req upstream panic)) ∧
      ∀ request response,
        (proxyHandlerInner crates state clientIp clientIdentity req upstream).1 = some request →
        upstream.respond request = some response →
          (proxyHandler crates state clientIp clientIdentity req upstream none).status =
              response.status ∧
            (proxyHandler crates state clientIp clientIdentity req upstream none).body =
              response.body := by
  have hexit := @exit_proxyHandlerInner crates state clientIp clientIdentity req upstream
  refine ⟨fun panic => ?_, fun request response hsent hresponse => ?_⟩
  · cases panic with
    | none => exact hexit.obeysPolicy
    | some payload => exact obeysPolicy_textResponse 500 "Internal server error"
  · rw [proxyHandler, hexit.eq_clientResponse hsent hresponse]
    exact ⟨rfl, rfl⟩

/-- An upstream with a policy of its own, which it nominates in `Connection`. -/
theorem proxyHandler_obeysPolicy_nominated :
    ∃ response : Response, response.status = 201 ∧
      response.headers.getAll ⟨"x-frame-options", by decide⟩ = [.fromStatic "DENY" (by decide)] ∧
      response = proxyHandler
        { subjectPki := fun der => .ok der
          sha256 := fun _ => Vector.replicate 32 0
          limited := fun body _ => body
          parseUri := fun s => .ok { path := s, pathAndQuery := some s } }
        { maxBodySize := 1024 } "127.0.0.1" "00"
        { method := .get
          uri := { path := "/v1/queue/status", pathAndQuery := some "/v1/queue/status" }
          headers := Multimap.empty
          body := [] }
        { connect := .connected
          respond := fun _ => some
            { status := 201
              headers := ⟨[(Header.CONNECTION, .fromStatic "x-frame-options" (by decide)),
                (⟨"x-frame-options", by decide⟩, .fromStatic "SAMEORIGIN" (by decide)),
                (Header.SERVER, .fromStatic "uvicorn" (by decide))]⟩ } } none := by
  refine ⟨_, ?_, ?_, rfl⟩
  · exact ((proxyHandler_obeysPolicy _ _ _ _ _ _).2 _ _ rfl rfl).1.trans rfl
  · exact ((proxyHandler_obeysPolicy _ _ _ _ _ _).1 none).security
      (⟨"x-frame-options", by decide⟩, .fromStatic "DENY" (by decide)) (by simp [securityHeaders])

end Proxy

end VibeVoice
