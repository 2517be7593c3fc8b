import VibeVoice.Semantics.PyText
import VibeVoice.Server.Models

/-!
# Who is asking

`server/client_identity.py`: the header the proxy sets, read back.

The headers of a request are a list of pairs of bytes, as ASGI has them: the names in
lower case, a name as often as it was sent.  `getlist` and the regular expression are
the only tests there are, so a request that reaches the socket in another way than
through the proxy is believed.  Whether the proxy lets anything else through is a
matter of the proxy.
-/

namespace VibeVoice

/-- The `headers` of an ASGI scope. -/
abbrev RawHeaders := List (List UInt8 × List UInt8)

/-- `CLIENT_IDENTITY_HEADER` -/
def CLIENT_IDENTITY_HEADER : String := "x-vvv-client-spki-sha256"

/-- `request.headers.getlist(key)`, for a key in lower case. -/
def RawHeaders.getlist (headers : RawHeaders) (key : String) : List String :=
  (headers.filter fun h => h.1 = latin1Encode key).map fun h => latin1Decode h.2

/-- `[a-f0-9]` -/
def isIdentityChar (c : Char) : Bool :=
  (0x61 ≤ c.toNat && c.toNat ≤ 0x66) || (0x30 ≤ c.toNat && c.toNat ≤ 0x39)

/-- `_CLIENT_IDENTITY_RE.fullmatch(identity) is not None` -/
def matchesClientIdentity (identity : String) : Bool :=
  identity.toList.length = 64 && identity.toList.all isIdentityChar

/-- `require_client_identity` -/
def requireClientIdentity (headers : RawHeaders) : Except RequestError String :=
  match headers.getlist CLIENT_IDENTITY_HEADER with
  | [identity] =>
    if matchesClientIdentity identity then .ok identity
    else .error (.http 403 "mTLS client identity invalid")
  | _ => .error (.http 403 "mTLS client identity required")

/-- **What is accepted** is the one value of the header, and it is sixty-four digits. -/
theorem requireClientIdentity_eq_ok_iff {headers : RawHeaders} {identity : String} :
    requireClientIdentity headers = .ok identity ↔
      headers.getlist CLIENT_IDENTITY_HEADER = [identity] ∧
        matchesClientIdentity identity = true := by
  unfold requireClientIdentity
  split
  · rename_i value hvalue
    rw [hvalue]
    split
    · rename_i hmatch
      constructor
      · intro h
        rw [← Except.ok.inj h]
        exact ⟨rfl, hmatch⟩
      · rintro ⟨h, -⟩
        rw [List.head_eq_of_cons_eq h]
    · rename_i hmatch
      constructor
      · exact fun h => absurd h (by simp)
      · rintro ⟨h, hid⟩
        rw [List.head_eq_of_cons_eq h] at hmatch
        exact absurd hid hmatch
  · rename_i hnot
    constructor
    · exact fun h => absurd h (by simp)
    · exact fun h => absurd h.1 (hnot identity)

end VibeVoice
