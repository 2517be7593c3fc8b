import VibeVoice.Proxy.Gateway
import VibeVoice.Server.ClientIdentity

/-!
# Nobody speaks for another client

The proxy tells the server who is asking in a header, and a client can send any
header.  What protects the one header that counts is the order of what the proxy
does: it copies first and sets afterwards, and setting replaces every value there was.
So it does not matter what the client sent, nor what its `Connection` headers name.
The trailers, which come after the headers, are cut off.

On the other side the server wants exactly one value of sixty-four digits, and
`hex_lower` of a SHA-256 is that.

What lies between is HTTP/1.1: `Serialised` says what of a header map the server reads
back.
-/

namespace VibeVoice

namespace Proxy

variable {crates : Crates} {state : AppState}

/-! ## On the wire -/

/-- A blank around a field value. -/
def isOws (b : UInt8) : Bool := b == 32 || b == 9

/-- A field value, as it is read: without the blanks around it. -/
def trimOws (bytes : List UInt8) : List UInt8 :=
  ((bytes.dropWhile isOws).reverse.dropWhile isOws).reverse

/-- The headers that are about the connection, and not the request. -/
def FRAMING_HEADERS : List String := ["connection", "content-length", "transfer-encoding"]

/-- The server has read these headers: of every name that is not about the connection
the values of the map, in order. -/
def Serialised (headers : HeaderMap) (scope : RawHeaders) : Prop :=
  ∀ name : HeaderName, name.asStr ∉ FRAMING_HEADERS →
    (scope.filter fun h => h.1 = latin1Encode name.asStr).map Prod.snd =
      (headers.getAll name).map fun value => trimOws value.asBytes

theorem dropWhile_isOws {bytes : List UInt8} (h : ∀ b ∈ bytes, isOws b = false) :
    bytes.dropWhile isOws = bytes := by
  cases bytes with
  | nil => rfl
  | cons b rest => rw [List.dropWhile_cons, if_neg (by simp [h b List.mem_cons_self])]

/-- A value without blanks is read as it was written. -/
theorem trimOws_eq {bytes : List UInt8} (h : ∀ b ∈ bytes, isOws b = false) :
    trimOws bytes = bytes := by
  have hreverse : ∀ b ∈ bytes.reverse, isOws b = false := fun b hb => h b (List.mem_reverse.mp hb)
  rw [trimOws, dropWhile_isOws h, dropWhile_isOws hreverse, List.reverse_reverse]

/-- What a text becomes as a header value. -/
theorem asBytes_of_fromStr {text : String} {value : HeaderValue}
    (h : HeaderValue.fromStr text = some value) : value.asBytes = latin1Encode text := by
  unfold HeaderValue.fromStr at h
  split at h
  · rw [← Option.some_inj.mp h]
    rfl
  · exact absurd h (by simp)

/-! ## The identity, read back -/

/-- The digits of the proxy are digits for the server. -/
theorem isIdentityChar_hex (n : Fin 16) : isIdentityChar (HEX.get n) = true := by
  revert n
  decide

/-- **The digest of a key is what the server asks for.** -/
theorem matchesClientIdentity_hexLower (digest : Vector UInt8 32) :
    matchesClientIdentity (hexLower digest.toList) = true := by
  rw [matchesClientIdentity, Bool.and_eq_true, decide_eq_true_eq, List.all_eq_true,
    length_hexLower, Vector.length_toList]
  refine ⟨rfl, fun c hc => ?_⟩
  obtain ⟨n, rfl⟩ := exists_hex_of_mem_hexLower hc
  exact isIdentityChar_hex n

/-- A digit has a byte, and it is no blank. -/
theorem hex_byte (n : Fin 16) :
    (HEX.get n).toNat < 256 ∧ isOws (HEX.get n).toNat.toUInt8 = false := by
  revert n
  decide

/-- An identity goes over the wire unchanged. -/
theorem latin1Decode_trimOws_hexLower (bytes : List UInt8) :
    latin1Decode (trimOws (latin1Encode (hexLower bytes))) = hexLower bytes := by
  rw [trimOws_eq, latin1Decode_encode]
  · intro c hc
    obtain ⟨n, rfl⟩ := exists_hex_of_mem_hexLower hc
    exact (hex_byte n).1
  · intro b hb
    obtain ⟨c, hc, rfl⟩ := List.mem_map.mp hb
    obtain ⟨n, rfl⟩ := exists_hex_of_mem_hexLower hc
    exact (hex_byte n).2

/-- **What the server reads** when the map has one identity. -/
theorem requireClientIdentity_of_serialised {headers : HeaderMap} {scope : RawHeaders}
    (hscope : Serialised headers scope) {digest : Vector UInt8 32} {value : HeaderValue}
    (hvalue : HeaderValue.fromStr (hexLower digest.toList) = some value)
    (hone : headers.getAll Header.CLIENT_IDENTITY = [value]) :
    requireClientIdentity scope = .ok (hexLower digest.toList) := by
  refine requireClientIdentity_eq_ok_iff.mpr ⟨?_, matchesClientIdentity_hexLower digest⟩
  have hraw := hscope Header.CLIENT_IDENTITY (by decide)
  rw [hone, List.map_singleton, asBytes_of_fromStr hvalue] at hraw
  calc scope.getlist VibeVoice.CLIENT_IDENTITY_HEADER
      = ((scope.filter fun h => h.1 = latin1Encode Header.CLIENT_IDENTITY.asStr).map
          Prod.snd).map latin1Decode := by
        rw [List.map_map]
        rfl
    _ = [latin1Decode (trimOws (latin1Encode (hexLower digest.toList)))] := by
        rw [hraw, List.map_singleton]
    _ = [hexLower digest.toList] := by rw [latin1Decode_trimOws_hexLower]

/-! ## What is sent -/

/-- Whatever the client sent, there is one identity. -/
theorem getAll_clientIdentity (headers : HeaderMap) (clientIp : String) (identity : HeaderValue) :
    (upstreamHeaders state headers clientIp identity).getAll Header.CLIENT_IDENTITY =
      [identity] := by
  simp only [upstreamHeaders]
  rw [Multimap.getAll_remove_of_ne (by decide), Multimap.getAll_insert_self]

/-- Whatever the client sent, the request came over `https`. -/
theorem getAll_xForwardedProto (headers : HeaderMap) (clientIp : String) (identity : HeaderValue) :
    (upstreamHeaders state headers clientIp identity).getAll Header.X_FORWARDED_PROTO =
      [.fromStatic "https" (by decide)] := by
  simp only [upstreamHeaders]
  rw [Multimap.getAll_remove_of_ne (by decide), Multimap.getAll_insert_of_ne (by decide),
    Multimap.getAll_insert_self]

/-- **A client is who it is.**  A request that is sent upstream carries one identity,
the digest of the key of the client's certificate, one `x-forwarded-proto: https`, and no
trailers; the server accepts it and takes it for that client; and a client with the same
identity has the same digest. -/
theorem client_identity_authentic {clientIp : String} {peerCerts : Option (List (List UInt8))}
    {req sent : Request} {upstream : Upstream} {response : Response}
    (h : servePublicRequest crates state clientIp peerCerts req upstream =
      some (some sent, response)) :
    ∃ leaf rest spki, peerCerts = some (leaf :: rest) ∧ crates.subjectPki leaf = .ok spki ∧
      (sent.headers.getAll Header.CLIENT_IDENTITY).map HeaderValue.asBytes =
        [latin1Encode (hexLower (crates.sha256 spki).toList)] ∧
      (sent.headers.getAll Header.X_FORWARDED_PROTO).map HeaderValue.asBytes =
        [latin1Encode "https"] ∧
      (∀ frame, .ok frame ∈ sent.body → frame.isTrailers = false) ∧
      (∀ scope, Serialised sent.headers scope →
        requireClientIdentity scope = .ok (hexLower (crates.sha256 spki).toList)) ∧
      ∀ peerCerts', crates.clientIdentityFromPeerCerts peerCerts' =
          crates.clientIdentityFromPeerCerts peerCerts →
        ∃ leaf' rest' spki', peerCerts' = some (leaf' :: rest') ∧
          crates.subjectPki leaf' = .ok spki' ∧ crates.sha256 spki' = crates.sha256 spki := by
  unfold servePublicRequest at h
  cases hidentity : crates.clientIdentityFromPeerCerts peerCerts with
  | error e => simp [hidentity] at h
  | ok identity =>
    obtain ⟨leaf, rest, spki, hcerts, hspki, rfl⟩ := Crates.clientIdentity_eq_ok hidentity
    simp only [hidentity, Option.some.injEq] at h
    obtain ⟨value, hvalue, hheaders, hbody⟩ :=
      httpProxy_fst (proxyHandlerInner_fst (congrArg Prod.fst h))
    have hone : sent.headers.getAll Header.CLIENT_IDENTITY = [value] := by
      rw [hheaders, getAll_clientIdentity]
    refine ⟨leaf, rest, spki, hcerts, hspki, ?_, ?_, ?_, ?_, ?_⟩
    · rw [hone, List.map_singleton, asBytes_of_fromStr hvalue]
    · rw [hheaders, getAll_xForwardedProto]
      rfl
    · intro frame hframe
      rw [hbody] at hframe
      exact isTrailers_of_mem_stripTrailers hframe
    · exact fun scope hscope => requireClientIdentity_of_serialised hscope hvalue hone
    · intro peerCerts' hsame
      obtain ⟨leaf', rest', spki', hcerts', hspki', hhex⟩ := Crates.clientIdentity_eq_ok hsame
      exact ⟨leaf', rest', spki', hcerts', hspki',
        Vector.toList_inj.mp (hexLower_injective hhex).symm⟩

/-- A client that sends two identities of its own, names the header in `Connection`, and
sends a third identity in the trailers. -/
theorem client_identity_authentic_forged :
    ∃ sent response, servePublicRequest
        { subjectPki := fun der => .ok ((der.drop 75).take 44)
          sha256 := fun _ => #v[180, 46, 205, 187, 146, 225, 154, 36, 89, 192, 253, 63, 131,
              237, 232, 166, 223, 15, 79, 186, 213, 62, 185, 156, 253, 113, 181, 129, 242,
              248, 108, 38]
          limited := fun body _ => body
          parseUri := fun s => .ok { path := s, pathAndQuery := some s } }
        { maxBodySize := 1024 } "127.0.0.1"
        (some [[48, 129, 190, 48, 114, 2, 1, 1, 48, 5, 6, 3, 43, 101, 112, 48, 12, 49, 10, 48, 8,
          6, 3, 85, 4, 3, 12, 1, 97, 48, 30, 23, 13, 50, 54, 49, 49, 49, 57, 48, 48, 52, 50,
          49, 52, 90, 23, 13, 51, 54, 49, 49, 49, 54, 48, 48, 52, 50, 49, 52, 90, 48,
          12, 49, 10, 48, 8, 6, 3, 85, 4, 3, 12, 1, 97, 48, 42, 48, 5, 6, 3, 43, 101,
          112, 3, 33, 0, 223, 110, 242, 185, 88, 217, 91, 65, 158, 220, 186, 164, 128,
          57, 158, 207, 107, 114, 50, 27, 222, 24, 62, 57, 112, 85, 201, 113, 227, 205,
          8, 104, 48, 5, 6, 3, 43, 101, 112, 3, 65, 0, 236, 186, 29, 116, 27, 205, 249,
          74, 159, 160, 217, 84, 209, 4, 255, 64, 59, 55, 184, 165, 182, 162, 230, 15,
          37, 165, 34, 214, 95, 30, 159, 158, 230, 197, 127, 21, 60, 127, 143, 221, 227,
          162, 179, 128, 120, 117, 183, 37, 247, 85, 63, 177, 66, 156, 169, 215, 87, 26,
          244, 69, 126, 134, 47, 4]])
        { method := .post
          uri := { path := "/v1/transcribe", pathAndQuery := some "/v1/transcribe" }
          headers := ⟨[(Header.CLIENT_IDENTITY, .fromStatic "ff" (by decide)),
            (Header.CONNECTION,
              .fromStatic "X-VVV-Client-SPKI-SHA256, x-forwarded-proto" (by decide)),
            (Header.CLIENT_IDENTITY, .fromStatic "00" (by decide))]⟩
          body := [.ok (.data [1]),
            .ok (.trailers ⟨[(Header.CLIENT_IDENTITY, .fromStatic "ff" (by decide))]⟩)] }
        { connect := .connected, respond := fun _ => some {} } = some (some sent, response) ∧
      (sent.headers.getAll Header.CLIENT_IDENTITY).map HeaderValue.asBytes = [latin1Encode
        "b42ecdbb92e19a2459c0fd3f83ede8a6df0f4fbad53eb99cfd71b581f2f86c26"] := by
  refine Exists.imp (fun sent => Exists.imp fun response hrun => ⟨hrun, ?_⟩) ⟨_, _, rfl⟩
  obtain ⟨leaf, rest, spki, -, -, hone, -⟩ := client_identity_authentic hrun
  exact hone.trans rfl

end Proxy

end VibeVoice
