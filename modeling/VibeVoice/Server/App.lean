import VibeVoice.Server.ClientIdentity

/-!
# The application

`server/app.py` and the routes it includes, from the `scope` of a request to the
function that answers it.

`RequireHTTPSMiddleware` is asked first.  It looks a header up in a `dict`, so of several
values it sees the last one; `require_client_identity` asks for the list of all values.
The two protected routes depend on the identity, the third does not and is the one open
path.

The middleware writes its response itself; it is the response of an `HTTPException` with
the same status and detail, and is given here as that.  What no route answers is left to
the framework.
-/

namespace VibeVoice

/-- The `scope` of a request, as far as the application looks at it. -/
structure Scope where
  method : String
  path : String
  headers : RawHeaders

/-- `bytes.lower` -/
def bytesLower (bytes : List UInt8) : List UInt8 :=
  bytes.map fun b => if 65 ≤ b && b ≤ 90 then b + 32 else b

/-- `dict(headers).get(key)`: of the values of a key the last one stays. -/
def RawHeaders.dictGet (headers : RawHeaders) (key : String) : Option (List UInt8) :=
  ((headers.filter fun h => h.1 = latin1Encode key).map Prod.snd).getLast?

/-- `RequireHTTPSMiddleware._OPEN_PATHS` -/
def OPEN_PATHS : List String := ["/health"]

/-- `RequireHTTPSMiddleware.__call__`, up to the call of the application. -/
def requireHttps (scope : Scope) : Except RequestError Unit :=
  if scope.path ∈ OPEN_PATHS then .ok ()
  else
    match scope.headers.dictGet "x-forwarded-proto" with
    | none => .error (.http 403 "HTTPS required")
    | some proto =>
      if bytesLower proto = latin1Encode "https" then .ok ()
      else .error (.http 403 "HTTPS required")

/-- The functions the routers name. -/
inductive Endpoint where
  | transcribe : Endpoint
  | queueStatus : Endpoint
  | health : Endpoint
  deriving DecidableEq, Repr

/-- The route of a request, if one of `create_app` matches. -/
def route (method path : String) : Option Endpoint :=
  if method = "POST" ∧ path = "/v1/transcribe" then some .transcribe
  else if method = "GET" ∧ path = "/v1/queue/status" then some .queueStatus
  else if method = "GET" ∧ path = "/health" then some .health
  else none

/-- What is called with a request that gets through, and for whom. -/
inductive Called where
  | transcribe (clientIdentity : String) : Called
  | queueStatus (clientIdentity : String) : Called
  | health : Called
  /-- The framework answers. -/
  | nothing : Called
  deriving DecidableEq, Repr

/-- A request, up to the call of the function that answers it. -/
def dispatch (scope : Scope) : Except RequestError Called :=
  match requireHttps scope with
  | .error e => .error e
  | .ok () =>
    match route scope.method scope.path with
    | none => .ok .nothing
    | some .health => .ok .health
    | some .transcribe => (requireClientIdentity scope.headers).map .transcribe
    | some .queueStatus => (requireClientIdentity scope.headers).map .queueStatus

/-! ## What gets through -/

variable {scope : Scope}

/-- One value that says `https` is enough. -/
theorem requireHttps_of_one
    (h : (scope.headers.filter fun h => h.1 = latin1Encode "x-forwarded-proto").map Prod.snd =
      [latin1Encode "https"]) : requireHttps scope = .ok () := by
  unfold requireHttps RawHeaders.dictGet
  rw [h]
  split
  · rfl
  · exact if_pos (by decide)

/-- A protected function is called for the one identity in the headers. -/
theorem requireClientIdentity_of_transcribe {identity : String}
    (h : dispatch scope = .ok (.transcribe identity)) :
    requireClientIdentity scope.headers = .ok identity := by
  unfold dispatch at h
  split at h
  · exact absurd h (by simp)
  · split at h
    · exact absurd h (by simp)
    · exact absurd h (by simp)
    · cases hid : requireClientIdentity scope.headers with
      | error e => exact absurd h (by simp [hid, Except.map])
      | ok found =>
        rw [hid, Except.map, Except.ok.injEq, Called.transcribe.injEq] at h
        rw [h]
    · cases hid : requireClientIdentity scope.headers with
      | error e => exact absurd h (by simp [hid, Except.map])
      | ok found => exact absurd h (by simp [hid, Except.map])

/-- The protected functions are called for the client that the headers name. -/
theorem dispatch_of_route (hhttps : requireHttps scope = .ok ()) {identity : String}
    (hid : requireClientIdentity scope.headers = .ok identity) :
    (route scope.method scope.path = some .transcribe →
        dispatch scope = .ok (.transcribe identity)) ∧
      (route scope.method scope.path = some .queueStatus →
        dispatch scope = .ok (.queueStatus identity)) := by
  unfold dispatch
  rw [hhttps, hid]
  exact ⟨fun hroute => by rw [hroute]; rfl, fun hroute => by rw [hroute]; rfl⟩

end VibeVoice
