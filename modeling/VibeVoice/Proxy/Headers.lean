import VibeVoice.Proxy.Http

/-!
# What the proxy does to headers and bodies

Hop-by-hop headers, the security headers, the responses the proxy makes itself, and
`StripTrailers`.
-/

namespace VibeVoice

namespace Proxy

/-! ## Hop-by-hop headers -/

/-- `HOP_BY_HOP_HEADERS` -/
def HOP_BY_HOP_HEADERS : List String :=
  ["connection", "keep-alive", "transfer-encoding", "te", "trailer", "trailers", "upgrade",
    "proxy-authorization", "proxy-authenticate", "proxy-connection"]

/-- `char::is_whitespace` -/
def isWhitespace (c : Char) : Bool :=
  let n := c.toNat
  (0x09 ≤ n && n ≤ 0x0D) || n == 0x20 || n == 0x85 || n == 0xA0 || n == 0x1680 ||
    (0x2000 ≤ n && n ≤ 0x200A) || n == 0x2028 || n == 0x2029 || n == 0x202F || n == 0x205F ||
    n == 0x3000

/-- `str::trim` -/
def trim (cs : List Char) : List Char :=
  ((cs.dropWhile isWhitespace).reverse.dropWhile isWhitespace).reverse

/-- The names in one value of `Connection`.  A value that is not visible ASCII is
skipped, and so is an element that is not a name. -/
def connectionTokens (value : HeaderValue) : List HeaderName :=
  match value.toStr with
  | none => []
  | some raw =>
    (raw.toList.splitOn ',').filterMap fun token =>
      if trim token = [] then none else HeaderName.fromBytes (trim token)

/-- `connection_header_tokens` -/
def connectionHeaderTokens (headers : HeaderMap) : List HeaderName :=
  (headers.getAll Header.CONNECTION).flatMap connectionTokens

/-- `is_hop_by_hop_header` -/
def isHopByHopHeader (name : HeaderName) (connectionTokens : List HeaderName) : Bool :=
  HOP_BY_HOP_HEADERS.any (fun header => HeaderName.eqIgnoreAsciiCase name.asStr header) ||
    connectionTokens.contains name

/-! ## The responses of the proxy -/

/-- `security_headers` -/
def securityHeaders : List (HeaderName × HeaderValue) :=
  [(⟨"strict-transport-security", by decide⟩,
      .fromStatic "max-age=63072000; includeSubDomains; preload" (by decide)),
    (⟨"x-content-type-options", by decide⟩, .fromStatic "nosniff" (by decide)),
    (⟨"x-frame-options", by decide⟩, .fromStatic "DENY" (by decide)),
    (⟨"referrer-policy", by decide⟩, .fromStatic "no-referrer" (by decide))]

/-- `apply_security_headers` -/
def applySecurityHeaders (headers : HeaderMap) : HeaderMap :=
  securityHeaders.foldl (fun headers h => headers.insert h.1 h.2) headers

/-- `static_response_body` -/
def staticResponseBody (body : String) : Body := [.ok (.data (latin1Encode body))]

/-- `text_response` -/
def textResponse (status : ℕ) (body : String) : Response where
  status := status
  headers := applySecurityHeaders Multimap.empty
  body := staticResponseBody body

/-- `local_health_response` -/
def localHealthResponse : Method → Response
  | .get =>
    { headers := applySecurityHeaders (Multimap.empty.insert Header.CONTENT_TYPE
        (.fromStatic "application/json" (by decide)))
      body := staticResponseBody "\x7b\"status\":\"ok\",\"proxy\":\"ok\"\x7d" }
  | .head => { headers := applySecurityHeaders Multimap.empty }
  | _ => textResponse 405 "Method Not Allowed"

/-! ## `StripTrailers` -/

/-- `StripTrailers`: at the first trailer frame the body is over. -/
def stripTrailers : Body → Body
  | [] => []
  | .ok (.trailers _) :: _ => []
  | frame :: rest => frame :: stripTrailers rest

/-- **No trailers are left.** -/
theorem isTrailers_of_mem_stripTrailers {body : Body} {frame : Frame}
    (h : .ok frame ∈ stripTrailers body) : frame.isTrailers = false := by
  induction body with
  | nil => exact absurd h List.not_mem_nil
  | cons first rest ih =>
    unfold stripTrailers at h
    split at h
    · rename_i heq
      exact absurd heq (by simp)
    · exact absurd h List.not_mem_nil
    · rename_i hnot heq
      obtain ⟨rfl, rfl⟩ := List.cons.inj heq
      rcases List.mem_cons.mp h with hfirst | hrest
      · cases frame with
        | data bytes => rfl
        | trailers headers => exact absurd hfirst.symm (hnot headers)
      · exact ih hrest

end Proxy

end VibeVoice
