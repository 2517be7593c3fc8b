import VibeVoice.Proxy.Gateway

/-!
# The public gate

Which requests reach the server, and how much of their bodies.

The decision is spread over `proxy_handler_inner` and `http_proxy`; `Admissible` puts
it in one place.  A request that is not admissible is answered without the socket and
without the body: the answer is the same whatever the other end of the socket would do
and whatever the body would come to (`AnsweredLocally`).

`Content-Length` is only what the client says.  What bounds a body is `Limited`, a
wrapper of `http_body_util`, of which only this is used: it passes frames on until one
is too large for what is left, and fails there (`Limits`).  `StripTrailers` around it
ends the body at the first trailer frame.
-/

namespace VibeVoice

namespace Proxy

variable {crates : Crates} {state : AppState}

/-! ## The decision -/

/-- A request the server may see. -/
structure Admissible (state : AppState) (req : Request) : Prop where
  noAuthorization : req.headers.containsKey Header.AUTHORIZATION = false
  notHealth : req.uri.path ≠ "/health"
  noUpgrade : req.headers.containsKey Header.UPGRADE = false
  route : (req.method = .post ∧ req.uri.path = "/v1/transcribe") ∨
    (req.method = .get ∧ req.uri.path = "/v1/queue/status")
  /-- The first `Content-Length`, if it is a number. -/
  length : ∀ n, contentLength req.headers = some n → n ≤ state.maxBodySize

/-- The answer needs neither the socket nor the body. -/
def AnsweredLocally (handle : Body → Upstream → Option Request × Response) : Prop :=
  ∃ response, ∀ body upstream, handle body upstream = (none, response)

theorem isPublicUpstreamRoute_iff {method : Method} {path : String} :
    isPublicUpstreamRoute method path = true ↔
      (method = .post ∧ path = "/v1/transcribe") ∨
        (method = .get ∧ path = "/v1/queue/status") := by
  simp [isPublicUpstreamRoute]

/-- The length that is announced is not too large. -/
theorem contentLength_any_iff {headers : HeaderMap} {limit : ℕ} :
    ((contentLength headers).any fun n => n > limit) = false ↔
      ∀ n, contentLength headers = some n → n ≤ limit := by
  cases contentLength headers <;> simp

/-- What `http_proxy` turns away. -/
theorem httpProxy_answeredLocally {req : Request} (clientIp clientIdentity : String)
    (h : isPublicUpstreamRoute req.method req.uri.path = false ∨
      ((contentLength req.headers).any fun n => n > state.maxBodySize) = true) :
    AnsweredLocally fun body upstream =>
      httpProxy crates state { req with body := body } clientIp clientIdentity upstream := by
  cases hroute : isPublicUpstreamRoute req.method req.uri.path with
  | false =>
    exact ⟨textResponse 404 "Not Found", fun body upstream => by simp [httpProxy, hroute]⟩
  | true =>
    have hlength := h.resolve_left (by simp [hroute])
    exact ⟨textResponse 413 "Payload Too Large", fun body upstream => by
      simp only [httpProxy, hroute, hlength, Bool.not_true, Bool.false_eq_true, if_false, if_true]⟩

/-- **A request is admissible or answered locally.** -/
theorem admissible_or_answeredLocally (req : Request) (clientIp clientIdentity : String) :
    Admissible state req ∨ AnsweredLocally fun body upstream =>
      proxyHandlerInner crates state clientIp clientIdentity { req with body := body }
        upstream := by
  cases hauth : req.headers.containsKey Header.AUTHORIZATION with
  | true =>
    exact Or.inr ⟨textResponse 400 "Authorization header is not accepted",
      fun body upstream => by simp [proxyHandlerInner, hauth]⟩
  | false =>
    by_cases hhealth : req.uri.path = "/health"
    · exact Or.inr ⟨localHealthResponse req.method,
        fun body upstream => by simp [proxyHandlerInner, hauth, hhealth]⟩
    · cases hupgrade : req.headers.containsKey Header.UPGRADE with
      | true =>
        exact Or.inr ⟨textResponse 404 "Not Found", fun body upstream => by
          simp [proxyHandlerInner, hauth, hhealth, isHttpUpgrade, hupgrade]⟩
      | false =>
        have hinner (body : Body) (upstream : Upstream) :
            proxyHandlerInner crates state clientIp clientIdentity { req with body := body }
              upstream =
              httpProxy crates state { req with body := body } clientIp clientIdentity
                upstream := by
          simp [proxyHandlerInner, hauth, hhealth, isHttpUpgrade, hupgrade]
        simp only [hinner]
        cases hroute : isPublicUpstreamRoute req.method req.uri.path with
        | false => exact Or.inr (httpProxy_answeredLocally _ _ (Or.inl hroute))
        | true =>
          cases hlength : (contentLength req.headers).any fun n => n > state.maxBodySize with
          | true => exact Or.inr (httpProxy_answeredLocally _ _ (Or.inr hlength))
          | false =>
            exact Or.inl ⟨hauth, hhealth, hupgrade, isPublicUpstreamRoute_iff.mp hroute,
              contentLength_any_iff.mp hlength⟩

/-! ## The body -/

/-- What the reader of a body gets: frames, and the error that ends them, if any. -/
def received : Body → List Frame × Option BoxError
  | [] => ([], none)
  | .error e :: _ => ([], some e)
  | .ok frame :: rest => (frame :: (received rest).1, (received rest).2)

/-- The bytes of a frame. -/
def Frame.size : Frame → ℕ
  | .data bytes => bytes.length
  | .trailers _ => 0

/-- What is before the first trailer frame. -/
def beforeTrailers (frames : List Frame) : List Frame :=
  frames.takeWhile fun frame => !frame.isTrailers

/-- **`Limited`**: it fails on the first frame that exceeds what is left. -/
structure Limits (limited : Body → ℕ → Body) : Prop where
  done : ∀ n, limited [] n = []
  failed : ∀ e rest n, ∃ rest', limited (.error e :: rest) n = .error e :: rest'
  exceeded : ∀ bytes rest n, n < bytes.length →
    ∃ e rest', limited (.ok (.data bytes) :: rest) n = .error e :: rest'
  passed : ∀ bytes rest n, bytes.length ≤ n →
    limited (.ok (.data bytes) :: rest) n = .ok (.data bytes) :: limited rest (n - bytes.length)
  trailers : ∀ headers rest n,
    limited (.ok (.trailers headers) :: rest) n = .ok (.trailers headers) :: limited rest n

/-- What the upstream gets of a body: all there is before the trailers, or some of it
and an error. -/
structure Delivered (limit : ℕ) (body : Body) (got : List Frame × Option BoxError) : Prop where
  data : ∀ frame ∈ got.1, frame.isTrailers = false
  size : (got.1.map Frame.size).sum ≤ limit
  order : got.1 <+: beforeTrailers (received body).1
  complete : got.2 = none → got.1 = beforeTrailers (received body).1

/-- **The body that is sent**, whatever the client sends. -/
theorem delivered_stripTrailers {limited : Body → ℕ → Body} (hl : Limits limited) (body : Body)
    (limit : ℕ) : Delivered limit body (received (stripTrailers (limited body limit))) := by
  have ended {body : Body} {limit : ℕ} {e : Option BoxError} (h : e = none →
      beforeTrailers (received body).1 = []) : Delivered limit body ([], e) :=
    ⟨by simp, by simp, List.nil_prefix, fun he => (h he).symm⟩
  induction body generalizing limit with
  | nil =>
    rw [hl.done]
    exact ended fun _ => rfl
  | cons first rest ih =>
    cases first with
    | error e =>
      obtain ⟨rest', hrest⟩ := hl.failed e rest limit
      rw [hrest]
      exact ended fun _ => rfl
    | ok frame =>
      cases frame with
      | trailers headers =>
        rw [hl.trailers]
        exact ended fun _ => rfl
      | data bytes =>
        by_cases hfits : bytes.length ≤ limit
        · have hgot (b : Body) : received (stripTrailers (.ok (.data bytes) :: b)) =
              (.data bytes :: (received (stripTrailers b)).1, (received (stripTrailers b)).2) := rfl
          rw [hl.passed bytes rest limit hfits, hgot]
          obtain ⟨hdata, hsize, horder, hcomplete⟩ := ih (limit - bytes.length)
          have hbefore : beforeTrailers (received (.ok (.data bytes) :: rest)).1 =
              .data bytes :: beforeTrailers (received rest).1 := rfl
          refine ⟨fun frame hframe => ?_, ?_, ?_, fun hnone => ?_⟩
          · rcases List.mem_cons.mp hframe with rfl | hframe
            · rfl
            · exact hdata frame hframe
          · simp only [List.map_cons, List.sum_cons, Frame.size]
            omega
          · rw [hbefore]
            exact List.cons_prefix_cons.mpr ⟨rfl, horder⟩
          · rw [hbefore]
            exact congrArg (Frame.data bytes :: ·) (hcomplete hnone)
        · obtain ⟨e, rest', hrest⟩ := hl.exceeded bytes rest limit (Nat.lt_of_not_le hfits)
          rw [hrest]
          exact ended fun h => absurd h (by simp)

/-! ## The claim for all requests -/

/-- **The public gate.**  A request that is not admissible is answered without the socket
and without the body.  What the upstream gets of a body that is sent are data frames, in
order, those before the first trailer frame, at most `max_body_size` bytes; and if it is
not all of them the body ends in an error. -/
theorem gate_exact (hl : Limits crates.limited) (clientIp clientIdentity : String)
    (req : Request) :
    (¬ Admissible state req → AnsweredLocally fun body upstream =>
      proxyHandlerInner crates state clientIp clientIdentity { req with body := body }
        upstream) ∧
      ∀ upstream sent response,
        proxyHandlerInner crates state clientIp clientIdentity req upstream =
            (some sent, response) →
          Admissible state req ∧ Delivered state.maxBodySize req.body (received sent.body) := by
  refine ⟨fun hnot => (admissible_or_answeredLocally req clientIp clientIdentity).resolve_left
    hnot, fun upstream sent response h => ?_⟩
  obtain ⟨identity, -, -, hbody⟩ := httpProxy_fst (proxyHandlerInner_fst (congrArg Prod.fst h))
  refine ⟨?_, hbody ▸ delivered_stripTrailers hl req.body state.maxBodySize⟩
  rcases admissible_or_answeredLocally req clientIp clientIdentity with hadm | ⟨answer, hlocal⟩
  · exact hadm
  · exact absurd (h.symm.trans (hlocal req.body upstream)) (by simp)

/-- `Limited::poll_frame`, as the crate has it. -/
def limitedTo : Body → ℕ → Body
  | [], _ => []
  | .error e :: rest, n => .error e :: limitedTo rest n
  | .ok (.trailers headers) :: rest, n => .ok (.trailers headers) :: limitedTo rest n
  | .ok (.data bytes) :: rest, n =>
    if n < bytes.length then .error "length limit exceeded" :: limitedTo rest 0
    else .ok (.data bytes) :: limitedTo rest (n - bytes.length)

theorem limits_limitedTo : Limits limitedTo where
  done n := rfl
  failed e rest n := ⟨limitedTo rest n, rfl⟩
  exceeded bytes rest n h := ⟨_, limitedTo rest 0, by rw [limitedTo, if_pos h]⟩
  passed bytes rest n h := by rw [limitedTo, if_neg (Nat.not_lt.mpr h)]
  trailers headers rest n := rfl

/-- A client that announces two bytes and sends four, when three are allowed. -/
theorem gate_exact_understated :
    ∃ sent response, proxyHandlerInner
        { subjectPki := fun der => .ok der
          sha256 := fun _ => Vector.replicate 32 0
          limited := limitedTo
          parseUri := fun s => .ok { path := s, pathAndQuery := some s } }
        { maxBodySize := 3 } "127.0.0.1" "ab"
        { method := .post
          uri := { path := "/v1/transcribe", pathAndQuery := some "/v1/transcribe" }
          headers := ⟨[(Header.CONTENT_LENGTH, .fromStatic "2" (by decide))]⟩
          body := [.ok (.data [1, 2]), .ok (.data [3, 4])] }
        { connect := .connected, respond := fun _ => some {} } = (some sent, response) ∧
      received sent.body = ([.data [1, 2]], some "length limit exceeded") ∧
      ((received sent.body).1.map Frame.size).sum ≤ 3 := by
  refine Exists.imp (fun sent => Exists.imp fun response hrun => ⟨hrun, ?_, ?_⟩) ⟨_, _, rfl⟩
  · rw [← Option.some_inj.mp (Prod.mk.inj hrun).1]
    rfl
  · exact ((gate_exact (by exact limits_limitedTo) _ _ _).2 _ _ _ hrun).2.size

end Proxy

end VibeVoice
