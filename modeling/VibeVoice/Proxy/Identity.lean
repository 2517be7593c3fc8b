import Mathlib.Data.Nat.Bits
import VibeVoice.Proxy.Http

/-!
# The identity of a client

A client is known by the SHA-256 of the public key of its certificate, written in
lower case hexadecimal.  The certificate is the one `rustls` has authenticated;
`x509_parser` and `ring` are parameters.

Two things matter for the other side of the socket.  What is written is sixty-four
digits, which is what the server asks for; and nothing is lost in writing it
(`hexLower_injective`), so two clients have one identity only if they have one digest.
-/

namespace VibeVoice

namespace Proxy

/-! ## `hex_lower` -/

/-- `HEX` -/
def HEX : Vector Char 16 :=
  #v['0', '1', '2', '3', '4', '5', '6', '7', '8', '9', 'a', 'b', 'c', 'd', 'e', 'f']

theorem toNat_shiftRight_four (b : UInt8) : (b >>> 4).toNat = b.toNat / 16 := by
  rw [UInt8.toNat_shiftRight]
  exact Nat.shiftRight_eq_div_pow b.toNat 4

theorem toNat_and_fifteen (b : UInt8) : (b &&& 0x0f).toNat = b.toNat % 16 := by
  rw [UInt8.toNat_and]
  exact Nat.and_two_pow_sub_one_eq_mod b.toNat 4

/-- The high digit of a byte. -/
def highDigit (b : UInt8) : Fin 16 :=
  ⟨(b >>> 4).toNat, by
    have := b.toNat_lt
    rw [toNat_shiftRight_four]
    omega⟩

/-- The low digit of a byte. -/
def lowDigit (b : UInt8) : Fin 16 :=
  ⟨(b &&& 0x0f).toNat, by
    rw [toNat_and_fifteen]
    omega⟩

/-- The two digits of a byte. -/
def hexByte (b : UInt8) : List Char := [HEX.get (highDigit b), HEX.get (lowDigit b)]

/-- `hex_lower` -/
def hexLower (bytes : List UInt8) : String := String.ofList (bytes.flatMap hexByte)

theorem hex_injective : Function.Injective HEX.get := by
  intro m n
  revert m n
  decide

/-- A byte is its two digits. -/
theorem hexByte_injective : Function.Injective hexByte := by
  intro b c h
  simp only [hexByte, List.cons.injEq, and_true] at h
  have hhigh := congrArg Fin.val (hex_injective h.1)
  have hlow := congrArg Fin.val (hex_injective h.2)
  simp only [highDigit, lowDigit, toNat_shiftRight_four, toNat_and_fifteen] at hhigh hlow
  refine UInt8.toNat_inj.mp ?_
  omega

@[simp] theorem toList_hexLower (bytes : List UInt8) :
    (hexLower bytes).toList = bytes.flatMap hexByte := String.toList_ofList

/-- **Nothing is lost.** -/
theorem hexLower_injective : Function.Injective hexLower := by
  intro bytes
  induction bytes with
  | nil =>
    intro bytes' h
    have hchars := congrArg String.toList h
    cases bytes' with
    | nil => rfl
    | cons b rest => simp [hexByte] at hchars
  | cons b rest ih =>
    intro bytes' h
    have hchars := congrArg String.toList h
    cases bytes' with
    | nil => simp [hexByte] at hchars
    | cons b' rest' =>
      simp only [toList_hexLower, List.flatMap_cons] at hchars
      obtain ⟨hbyte, hrest⟩ := List.append_inj hchars rfl
      have hlower : hexLower rest = hexLower rest' := congrArg String.ofList hrest
      rw [hexByte_injective hbyte, ih hlower]

/-- Two digits for each byte. -/
theorem length_hexLower (bytes : List UInt8) :
    (hexLower bytes).toList.length = 2 * bytes.length := by
  rw [toList_hexLower]
  induction bytes with
  | nil => rfl
  | cons b rest ih =>
    rw [List.flatMap_cons, List.length_append, ih, List.length_cons]
    show 2 + 2 * rest.length = _
    omega

theorem exists_hex_of_mem_hexLower {bytes : List UInt8} {c : Char}
    (h : c ∈ (hexLower bytes).toList) : ∃ n, c = HEX.get n := by
  rw [toList_hexLower] at h
  obtain ⟨b, -, hc⟩ := List.mem_flatMap.mp h
  rcases List.mem_cons.mp hc with rfl | hc
  · exact ⟨highDigit b, rfl⟩
  · exact ⟨lowDigit b, List.mem_singleton.mp hc⟩

/-! ## The certificate -/

/-- What the proxy leaves to other crates. -/
structure Crates where
  /-- `x509_parser::parse_x509_certificate`, and `tbs_certificate.subject_pki.raw` of
  what it returns. -/
  subjectPki : List UInt8 → Except String (List UInt8)
  /-- `digest::digest(&digest::SHA256, …)` -/
  sha256 : List UInt8 → Vector UInt8 32
  /-- `http_body_util::Limited` -/
  limited : Body → ℕ → Body
  /-- `str::parse::<hyper::Uri>` -/
  parseUri : String → Except String Uri

namespace Crates

variable (crates : Crates)

/-- `spki_sha256_hex_from_cert_der` -/
def spkiSha256HexFromCertDer (certDer : List UInt8) : Except String String :=
  match crates.subjectPki certDer with
  | .error e => .error ("invalid X.509 client certificate: " ++ e)
  | .ok raw => .ok (hexLower (crates.sha256 raw).toList)

/-- `client_identity_from_peer_certs` -/
def clientIdentityFromPeerCerts (peerCerts : Option (List (List UInt8))) :
    Except String String :=
  match peerCerts with
  | none => .error "mTLS peer certificate chain missing"
  | some [] => .error "mTLS peer certificate chain empty"
  | some (leaf :: _) =>
    match crates.spkiSha256HexFromCertDer leaf with
    | .error _ => .error "invalid mTLS client certificate"
    | .ok identity => .ok identity

/-- **An identity is the digest of the leaf's key.** -/
theorem clientIdentity_eq_ok {crates : Crates} {peerCerts : Option (List (List UInt8))}
    {identity : String} (h : crates.clientIdentityFromPeerCerts peerCerts = .ok identity) :
    ∃ leaf rest spki, peerCerts = some (leaf :: rest) ∧ crates.subjectPki leaf = .ok spki ∧
      identity = hexLower (crates.sha256 spki).toList := by
  unfold clientIdentityFromPeerCerts at h
  split at h
  · exact absurd h (by simp)
  · exact absurd h (by simp)
  · rename_i leaf rest
    unfold spkiSha256HexFromCertDer at h
    cases hspki : crates.subjectPki leaf with
    | error e => simp [hspki] at h
    | ok spki =>
      simp only [hspki, Except.ok.injEq] at h
      exact ⟨leaf, rest, spki, rfl, hspki, h.symm⟩

end Crates

end Proxy

end VibeVoice
