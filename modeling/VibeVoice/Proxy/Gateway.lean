import VibeVoice.Proxy.Headers
import VibeVoice.Proxy.Identity

/-!
# The proxy

`proxy_handler_inner` and `http_proxy`, for one request on one connection.

A handler answers a request itself or sends a request upstream and passes the answer
on.  So the result has two parts: the request that was sent, if any, and the response.
What the other end of the socket does is handed in, as `Upstream`.

The headers that go upstream are made in three steps: those of the client that may
pass are copied (`forwardable`), the proxy's own are set over them, and
`Content-Length` is removed, since the body is streamed.  `upstreamHeaders_eq` says what
that comes to.
-/

namespace VibeVoice

namespace Proxy

/-- `CLIENT_IDENTITY_HEADER` -/
def CLIENT_IDENTITY_HEADER : String := "x-vvv-client-spki-sha256"

namespace Header

def CLIENT_IDENTITY : HeaderName := ⟨CLIENT_IDENTITY_HEADER, by decide⟩
def X_FORWARDED_FOR : HeaderName := ⟨"x-forwarded-for", by decide⟩
def X_REAL_IP : HeaderName := ⟨"x-real-ip", by decide⟩
def X_FORWARDED_PROTO : HeaderName := ⟨"x-forwarded-proto", by decide⟩

end Header

/-- `UDS_UPSTREAM_AUTHORITY` -/
def UDS_UPSTREAM_AUTHORITY : String := "vvv-upstream"

/-- `AppState`, with the `host_header` of its `upstream`. -/
structure AppState where
  hostHeader : String := UDS_UPSTREAM_AUTHORITY
  maxBodySize : ℕ

/-- What becomes of the connection to the upstream socket. -/
inductive Connect where
  | connected : Connect
  | failed : Connect
  | timedOut : Connect
  | handshakeFailed : Connect
  deriving DecidableEq

/-- The other end of the socket. -/
structure Upstream where
  connect : Connect
  /-- The response to a request, unless `send_request` fails. -/
  respond : Request → Option Response

/-! ## `http_proxy` -/

/-- `is_http_upgrade` -/
def isHttpUpgrade (headers : HeaderMap) : Bool := headers.containsKey Header.UPGRADE

/-- `is_public_upstream_route` -/
def isPublicUpstreamRoute (method : Method) (path : String) : Bool :=
  (method = .post && path = "/v1/transcribe") || (method = .get && path = "/v1/queue/status")

/-- `Content-Length`, as far as it can be read. -/
def contentLength (headers : HeaderMap) : Option ℕ :=
  ((headers.get Header.CONTENT_LENGTH).bind HeaderValue.toStr).bind parseU64

/-- A header of the client that is copied. -/
def forwardable (headers : HeaderMap) (name : HeaderName) : Bool :=
  !isHopByHopHeader name (connectionHeaderTokens headers) &&
    name.asStr != CLIENT_IDENTITY_HEADER

/-- Set a header, if the text can be a value. -/
def setHeader (headers : HeaderMap) (name : HeaderName) (text : String) : HeaderMap :=
  match HeaderValue.fromStr text with
  | none => headers
  | some value => headers.insert name value

/-- The headers of the request that is sent. -/
def upstreamHeaders (state : AppState) (headers : HeaderMap) (clientIp : String)
    (identity : HeaderValue) : HeaderMap :=
  let upstreamHeaders := Multimap.empty.extendWhere headers (forwardable headers)
  let upstreamHeaders := setHeader upstreamHeaders Header.HOST state.hostHeader
  let upstreamHeaders := setHeader upstreamHeaders Header.X_FORWARDED_FOR clientIp
  let upstreamHeaders := setHeader upstreamHeaders Header.X_REAL_IP clientIp
  let upstreamHeaders :=
    upstreamHeaders.insert Header.X_FORWARDED_PROTO (.fromStatic "https" (by decide))
  let upstreamHeaders := upstreamHeaders.insert Header.CLIENT_IDENTITY identity
  upstreamHeaders.remove Header.CONTENT_LENGTH

/-- A header of the upstream that is copied. -/
def returnable (headers : HeaderMap) (name : HeaderName) : Bool :=
  !isHopByHopHeader name (connectionHeaderTokens headers) && name != Header.CONTENT_LENGTH &&
    name != Header.SERVER

/-- The response to the client. -/
def clientResponse (response : Response) : Response where
  status := response.status
  headers := applySecurityHeaders
    (Multimap.empty.extendWhere response.headers (returnable response.headers))
  body := response.body

/-- The request is built, the socket is opened, the request is sent. -/
def exchange (request : Request) (upstream : Upstream) : Option Request × Response :=
  match upstream.connect with
  | .failed | .timedOut | .handshakeFailed => (none, textResponse 502 "Bad Gateway")
  | .connected =>
    match upstream.respond request with
    | none => (some request, textResponse 502 "Bad Gateway")
    | some response => (some request, clientResponse response)

variable (crates : Crates) (state : AppState)

/-- `http_proxy`: the request that was sent, and the response. -/
def httpProxy (req : Request) (clientIp clientIdentity : String) (upstream : Upstream) :
    Option Request × Response :=
  let pathQuery := req.uri.pathAndQuery.getD "/"
  if !isPublicUpstreamRoute req.method req.uri.path then (none, textResponse 404 "Not Found")
  else if (contentLength req.headers).any fun n => n > state.maxBodySize then
    (none, textResponse 413 "Payload Too Large")
  else
    match HeaderValue.fromStr clientIdentity with
    | none => (none, textResponse 502 "Bad Gateway")
    | some identity =>
      match crates.parseUri pathQuery with
      | .error _ => (none, textResponse 502 "Bad Gateway")
      | .ok uri =>
        exchange
          { method := req.method
            uri := uri
            headers := upstreamHeaders state req.headers clientIp identity
            body := stripTrailers (crates.limited req.body state.maxBodySize) }
          upstream

/-- `proxy_handler_inner` -/
def proxyHandlerInner (clientIp clientIdentity : String) (req : Request) (upstream : Upstream) :
    Option Request × Response :=
  if req.headers.containsKey Header.AUTHORIZATION then
    (none, textResponse 400 "Authorization header is not accepted")
  else if req.uri.path = "/health" then (none, localHealthResponse req.method)
  else if isHttpUpgrade req.headers then (none, textResponse 404 "Not Found")
  else httpProxy crates state req clientIp clientIdentity upstream

/-- A request on a connection, after the handshake: `serve_public_connection` serves
none if the client has no identity. -/
def servePublicRequest (clientIp : String) (peerCerts : Option (List (List UInt8)))
    (req : Request) (upstream : Upstream) : Option (Option Request × Response) :=
  match crates.clientIdentityFromPeerCerts peerCerts with
  | .error _ => none
  | .ok clientIdentity =>
    some (proxyHandlerInner crates state clientIp clientIdentity req upstream)

/-! ## What is sent -/

variable {crates state}

/-- What is sent is what was built. -/
theorem exchange_fst {request sent : Request} {upstream : Upstream}
    (h : (exchange request upstream).1 = some sent) : sent = request := by
  unfold exchange at h
  split at h
  · exact absurd h (by simp)
  · exact absurd h (by simp)
  · exact absurd h (by simp)
  · split at h <;> exact (Option.some_inj.mp h).symm

/-- **What is sent**, and what it takes. -/
theorem httpProxy_fst {req sent : Request} {clientIp clientIdentity : String}
    {upstream : Upstream}
    (h : (httpProxy crates state req clientIp clientIdentity upstream).1 = some sent) :
    ∃ identity, HeaderValue.fromStr clientIdentity = some identity ∧
      sent.headers = upstreamHeaders state req.headers clientIp identity ∧
      sent.body = stripTrailers (crates.limited req.body state.maxBodySize) := by
  unfold httpProxy at h
  simp only at h
  split at h
  · exact absurd h (by simp)
  · split at h
    · exact absurd h (by simp)
    · split at h
      · exact absurd h (by simp)
      · rename_i identity hidentity
        split at h
        · exact absurd h (by simp)
        · rw [exchange_fst h]
          exact ⟨identity, hidentity, rfl, rfl⟩

theorem proxyHandlerInner_fst {req sent : Request} {clientIp clientIdentity : String}
    {upstream : Upstream}
    (h : (proxyHandlerInner crates state clientIp clientIdentity req upstream).1 = some sent) :
    (httpProxy crates state req clientIp clientIdentity upstream).1 = some sent := by
  unfold proxyHandlerInner at h
  split at h
  · exact absurd h (by simp)
  · split at h
    · exact absurd h (by simp)
    · split at h
      · exact absurd h (by simp)
      · exact h

end Proxy

end VibeVoice
