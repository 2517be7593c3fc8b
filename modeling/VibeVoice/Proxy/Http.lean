import VibeVoice.Semantics.Multimap
import VibeVoice.Semantics.PyText

/-!
# HTTP, as the crates have it

The parts of `http`, `http-body` and `hyper` the proxy works with: header names and
values, header maps, requests, responses, bodies.

A header name is a token in lower case, and a header value is made of the bytes a
header value can have; both carry that as a field, as the types of the crate do.  So
names that differ in case only are equal, and a client cannot send a second spelling
of a name.

A body is the list of what polling it for a frame comes back with.
-/

namespace VibeVoice

namespace Proxy

/-! ## Header names -/

/-- A character of a token. -/
def isTokenChar (c : Char) : Bool :=
  c.isAlphanum || c ∈ "!#$%&'*+-.^_`|~".toList

/-- `u8::to_ascii_lowercase` -/
def toAsciiLowercase (c : Char) : Char :=
  if c.isUpper then Char.ofNat (c.toNat + 32) else c

/-- A header name: a token in lower case. -/
def isHeaderName (name : String) : Bool :=
  !name.toList.isEmpty && name.toList.all fun c => isTokenChar c && toAsciiLowercase c = c

/-- `HeaderName` -/
structure HeaderName where
  asStr : String
  valid : isHeaderName asStr = true
  deriving DecidableEq

namespace HeaderName

/-- `HeaderName::from_bytes` -/
def fromBytes (src : List Char) : Option HeaderName :=
  let name := String.ofList (src.map toAsciiLowercase)
  if h : isHeaderName name = true then some ⟨name, h⟩ else none

/-- `str::eq_ignore_ascii_case` -/
def eqIgnoreAsciiCase (a b : String) : Bool :=
  a.toList.map toAsciiLowercase = b.toList.map toAsciiLowercase

end HeaderName

namespace Header

/-- `header::AUTHORIZATION`, and so on. -/
def AUTHORIZATION : HeaderName := ⟨"authorization", by decide⟩
def CONNECTION : HeaderName := ⟨"connection", by decide⟩
def CONTENT_LENGTH : HeaderName := ⟨"content-length", by decide⟩
def CONTENT_TYPE : HeaderName := ⟨"content-type", by decide⟩
def HOST : HeaderName := ⟨"host", by decide⟩
def SERVER : HeaderName := ⟨"server", by decide⟩
def UPGRADE : HeaderName := ⟨"upgrade", by decide⟩

end Header

/-! ## Header values -/

/-- A byte of a header value. -/
def isValueByte (b : UInt8) : Bool := (32 ≤ b && b != 127) || b == 9

/-- A byte `HeaderValue::to_str` accepts. -/
def isVisibleAscii (b : UInt8) : Bool := (32 ≤ b && b < 127) || b == 9

theorem isValueByte_of_isVisibleAscii {b : UInt8} (h : isVisibleAscii b = true) :
    isValueByte b = true := by
  simp only [isVisibleAscii, isValueByte, Bool.or_eq_true, Bool.and_eq_true, decide_eq_true_eq,
    bne_iff_ne] at h ⊢
  rcases h with ⟨hlow, hhigh⟩ | htab
  · exact Or.inl ⟨hlow, UInt8.ne_of_lt hhigh⟩
  · exact Or.inr htab

/-- `HeaderValue` -/
structure HeaderValue where
  asBytes : List UInt8
  valid : ∀ b ∈ asBytes, isValueByte b = true
  deriving DecidableEq

namespace HeaderValue

/-- `HeaderValue::to_str` -/
def toStr (v : HeaderValue) : Option String :=
  if v.asBytes.all isVisibleAscii then some (latin1Decode v.asBytes) else none

/-- The text can be a header value. -/
def isVisible (s : String) : Bool :=
  s.toList.all fun c => c.toNat < 256 && isVisibleAscii c.toNat.toUInt8

/-- `HeaderValue::from_static` -/
def fromStatic (s : String) (h : isVisible s = true) : HeaderValue where
  asBytes := latin1Encode s
  valid b hb := by
    obtain ⟨c, hc, rfl⟩ := List.mem_map.mp hb
    have hvisible := List.all_eq_true.mp h c hc
    rw [Bool.and_eq_true] at hvisible
    exact isValueByte_of_isVisibleAscii hvisible.2

/-- `HeaderValue::from_str` -/
def fromStr (s : String) : Option HeaderValue :=
  if h : isVisible s = true then some (fromStatic s h) else none

end HeaderValue

/-- `HeaderMap` -/
abbrev HeaderMap := Multimap HeaderName HeaderValue

/-! ## Messages -/

/-- `Method` -/
inductive Method where
  | get : Method
  | head : Method
  | post : Method
  | other (token : String) : Method
  deriving DecidableEq

/-- `Uri`, by what the accessors say. -/
structure Uri where
  path : String
  pathAndQuery : Option String
  deriving DecidableEq

/-- The error of a body. -/
abbrev BoxError := String

/-- `http_body::Frame` -/
inductive Frame where
  | data (bytes : List UInt8) : Frame
  | trailers (headers : HeaderMap) : Frame
  deriving DecidableEq

/-- `Frame::is_trailers` -/
def Frame.isTrailers : Frame → Bool
  | .trailers _ => true
  | .data _ => false

/-- What polling a body comes back with, frame after frame. -/
abbrev Body := List (Except BoxError Frame)

/-- `Request` -/
structure Request where
  method : Method
  uri : Uri
  headers : HeaderMap
  body : Body
  deriving DecidableEq

/-- `Response` -/
structure Response where
  status : ℕ := 200
  headers : HeaderMap := Multimap.empty
  body : Body := []
  deriving DecidableEq

/-- `str::parse::<u64>` -/
def parseU64 (s : String) : Option ℕ :=
  let digits := match s.toList with
    | '+' :: rest => rest
    | cs => cs
  if !digits.isEmpty && digits.all Char.isDigit then
    let n := digits.foldl (fun n c => 10 * n + (c.toNat - '0'.toNat)) 0
    if n < 2 ^ 64 then some n else none
  else none

end Proxy

end VibeVoice
