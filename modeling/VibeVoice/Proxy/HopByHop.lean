import VibeVoice.Proxy.Gateway

/-!
# Hop-by-hop headers, in both directions

What the proxy copies of a header map, beside what it should copy.

The rule is that a header is for one hop if it is in `HOP_BY_HOP_HEADERS` or if
`Connection` names it.  `Connection` is a list, so its values are split at the commas
and the whitespace around an element does not count; a value is made of bytes, and
those above `0x7F` are legal in it.  `removed` is that rule.  It reads every value.

The proxy reads a value through `HeaderValue::to_str`, which refuses a value with a
byte that is not visible ASCII, and such a value is skipped as a whole
(`connectionTokens`).  On the values that can be read the two agree
(`mem_connectionTokens_iff`): a name has no upper case, so names are compared as the
rule wants, and what is not a name nominates no header.  On the others the proxy knows
of no element, so a header that is only nominated there is copied.  `hop_by_hop_exact`
says that this is all that goes wrong.
-/

namespace VibeVoice

namespace Proxy

/-! ## The rule -/

/-- Whitespace in a header: a space or a tab. -/
def isBlank (c : Char) : Bool := c.toNat == 0x20 || c.toNat == 0x09

/-- The whitespace around an element, removed. -/
def trimBlanks (cs : List Char) : List Char :=
  ((cs.dropWhile isBlank).reverse.dropWhile isBlank).reverse

/-- The elements of a list, whatever the bytes are. -/
def elements (value : HeaderValue) : List (List Char) :=
  ((latin1Decode value.asBytes).toList.splitOn ',').map trimBlanks

/-- The name is an element of the value. -/
def nominates (value : HeaderValue) (name : HeaderName) : Bool :=
  (elements value).any fun element =>
    HeaderName.eqIgnoreAsciiCase (String.ofList element) name.asStr

/-- A header that is not copied, if those that are `fixed` are not. -/
def removed (fixed : HeaderName → Bool) (headers : HeaderMap) (name : HeaderName) : Bool :=
  HOP_BY_HOP_HEADERS.contains name.asStr ||
    (headers.getAll Header.CONNECTION).any (fun value => nominates value name) || fixed name

/-- The pairs that should be copied. -/
def passing (fixed : HeaderName → Bool) (headers : HeaderMap) : List (HeaderName × HeaderValue) :=
  headers.entries.filter fun e => !removed fixed headers e.1

/-- What is not copied of a request in any case. -/
def requestFixed (name : HeaderName) : Bool :=
  name = Header.CLIENT_IDENTITY || name = Header.CONTENT_LENGTH

/-- What is not copied of a response in any case. -/
def responseFixed (name : HeaderName) : Bool :=
  name = Header.CONTENT_LENGTH || name = Header.SERVER

/-! ## What the proxy copies -/

/-- The headers of a request that are copied. -/
def requestCopy (headers : HeaderMap) : HeaderMap :=
  (Multimap.empty.extendWhere headers (forwardable headers)).remove Header.CONTENT_LENGTH

theorem isVisible_https : HeaderValue.isVisible "https" = true := by decide

/-- The headers the proxy sets in a request. -/
def ownHeaders (state : AppState) (clientIp : String) (identity : HeaderValue)
    (headers : HeaderMap) : HeaderMap :=
  let headers := setHeader headers Header.HOST state.hostHeader
  let headers := setHeader headers Header.X_FORWARDED_FOR clientIp
  let headers := setHeader headers Header.X_REAL_IP clientIp
  let headers := headers.insert Header.X_FORWARDED_PROTO (.fromStatic "https" isVisible_https)
  headers.insert Header.CLIENT_IDENTITY identity

/-- The headers of a response that are copied. -/
def responseCopy (headers : HeaderMap) : HeaderMap :=
  Multimap.empty.extendWhere headers (returnable headers)

theorem remove_setHeader {headers : HeaderMap} {name other : HeaderName} {text : String}
    (h : name ≠ other) :
    (setHeader headers name text).remove other = setHeader (headers.remove other) name text := by
  unfold setHeader
  cases HeaderValue.fromStr text with
  | none => rfl
  | some value => exact Multimap.remove_insert_of_ne h

/-- **A request is a copy with the headers of the proxy.** -/
theorem upstreamHeaders_eq (state : AppState) (headers : HeaderMap) (clientIp : String)
    (identity : HeaderValue) :
    upstreamHeaders state headers clientIp identity =
      ownHeaders state clientIp identity (requestCopy headers) := by
  simp only [upstreamHeaders, ownHeaders, requestCopy]
  rw [Multimap.remove_insert_of_ne (by decide), Multimap.remove_insert_of_ne (by decide),
    remove_setHeader (by decide), remove_setHeader (by decide), remove_setHeader (by decide)]

/-! ## Names -/

theorem HeaderName.asStr_inj {a b : HeaderName} : a.asStr = b.asStr ↔ a = b := by
  obtain ⟨a, ha⟩ := a
  obtain ⟨b, hb⟩ := b
  simp

/-- A name is in lower case. -/
theorem HeaderName.map_toAsciiLowercase (name : HeaderName) :
    name.asStr.toList.map toAsciiLowercase = name.asStr.toList := by
  have hvalid := name.valid
  simp only [isHeaderName, Bool.and_eq_true, List.all_eq_true, decide_eq_true_eq] at hvalid
  conv_rhs => rw [← List.map_id name.asStr.toList]
  exact List.map_congr_left fun c hc => (hvalid.2 c hc).2

/-- A text read as a name. -/
theorem HeaderName.fromBytes_eq_some {src : List Char} {name : HeaderName} :
    HeaderName.fromBytes src = some name ↔
      HeaderName.eqIgnoreAsciiCase (String.ofList src) name.asStr = true := by
  have hequal : HeaderName.eqIgnoreAsciiCase (String.ofList src) name.asStr = true ↔
      String.ofList (src.map toAsciiLowercase) = name.asStr := by
    unfold HeaderName.eqIgnoreAsciiCase
    rw [decide_eq_true_eq, String.toList_ofList, name.map_toAsciiLowercase]
    exact ⟨fun h => by rw [h, String.ofList_toList], fun h => by rw [← h, String.toList_ofList]⟩
  rw [hequal]
  simp only [HeaderName.fromBytes]
  constructor
  · intro h
    split at h
    · exact congrArg HeaderName.asStr (Option.some_inj.mp h)
    · exact absurd h (by simp)
  · intro h
    rw [dif_pos (h ▸ name.valid)]
    exact congrArg some (HeaderName.asStr_inj.mp h)

/-! ## Values that can be read -/

/-- The bytes of a value that can be read. -/
theorem toNat_of_toStr {value : HeaderValue} (h : value.toStr.isSome = true) {c : Char}
    (hc : c ∈ (latin1Decode value.asBytes).toList) :
    (0x20 ≤ c.toNat ∧ c.toNat < 0x7F) ∨ c.toNat = 0x09 := by
  have hall : value.asBytes.all isVisibleAscii = true := by
    by_contra hnot
    simp [HeaderValue.toStr, hnot] at h
  rw [latin1Decode, String.toList_ofList] at hc
  obtain ⟨b, hb, rfl⟩ := List.mem_map.mp hc
  have hvisible := List.all_eq_true.mp hall b hb
  simp only [isVisibleAscii, Bool.or_eq_true, Bool.and_eq_true, decide_eq_true_eq,
    beq_iff_eq, UInt8.le_iff_toNat_le, UInt8.lt_iff_toNat_lt, ← UInt8.toNat_inj] at hvisible
  have hb : b.toNat < 256 := b.toNat_lt
  have hchar : (Char.ofNat b.toNat).toNat = b.toNat := by
    rw [Char.ofNat, dif_pos (Or.inl (by omega))]
    rfl
  rw [hchar]
  exact hvisible

/-- What is split is made of what was there. -/
theorem mem_of_mem_splitOn {α : Type*} [BEq α] {sep : α} {l part : List α} {a : α}
    (hpart : part ∈ l.splitOn sep) (ha : a ∈ part) : a ∈ l := by
  induction l generalizing part with
  | nil => simp_all
  | cons b l ih =>
    rw [List.splitOn_cons_eq_if_modifyHead] at hpart
    split at hpart
    · rcases List.mem_cons.mp hpart with rfl | hpart
      · exact absurd ha List.not_mem_nil
      · exact List.mem_cons_of_mem _ (ih hpart ha)
    · cases hl : l.splitOn sep with
      | nil => exact absurd hl (List.splitOn_ne_nil sep l)
      | cons first rest =>
        rw [hl, List.modifyHead_cons] at hpart
        rcases List.mem_cons.mp hpart with rfl | hpart
        · rcases List.mem_cons.mp ha with rfl | ha
          · exact List.mem_cons_self
          · exact List.mem_cons_of_mem _ (ih (hl ▸ List.mem_cons_self) ha)
        · exact List.mem_cons_of_mem _ (ih (hl ▸ List.mem_cons_of_mem _ hpart) ha)

/-- Among visible characters only a space and a tab are whitespace. -/
theorem isWhitespace_eq_isBlank {c : Char}
    (h : (0x20 ≤ c.toNat ∧ c.toNat < 0x7F) ∨ c.toNat = 0x09) : isWhitespace c = isBlank c := by
  rw [Bool.eq_iff_iff]
  simp only [isWhitespace, isBlank, Bool.or_eq_true, Bool.and_eq_true, decide_eq_true_eq,
    beq_iff_eq]
  omega

/-- The elements of a value that can be read are trimmed alike. -/
theorem trim_eq_trimBlanks {cs : List Char}
    (h : ∀ c ∈ cs, (0x20 ≤ c.toNat ∧ c.toNat < 0x7F) ∨ c.toNat = 0x09) :
    trim cs = trimBlanks cs := by
  have hdrop (l : List Char) (hl : ∀ c ∈ l, c ∈ cs) :
      l.dropWhile isWhitespace = l.dropWhile isBlank := by
    induction l with
    | nil => rfl
    | cons c l ih =>
      rw [List.dropWhile_cons, List.dropWhile_cons,
        isWhitespace_eq_isBlank (h c (hl c List.mem_cons_self)),
        ih fun c hc => hl c (List.mem_cons_of_mem _ hc)]
  unfold trim trimBlanks
  rw [hdrop cs fun c hc => hc, hdrop _ fun c hc =>
    (List.dropWhile_sublist _).subset (List.mem_reverse.mp hc)]

/-- **A value that can be read has the elements of the rule.** -/
theorem mem_connectionTokens_iff {value : HeaderValue} {name : HeaderName} :
    name ∈ connectionTokens value ↔ value.toStr.isSome = true ∧ nominates value name = true := by
  unfold connectionTokens
  cases hstr : value.toStr with
  | none => simp
  | some raw =>
    have hraw : raw = latin1Decode value.asBytes := by
      unfold HeaderValue.toStr at hstr
      split at hstr
      · exact (Option.some_inj.mp hstr).symm
      · exact absurd hstr (by simp)
    have htrim (token : List Char) (htoken : token ∈ raw.toList.splitOn ',') :
        trim token = trimBlanks token := by
      refine trim_eq_trimBlanks fun c hc => toNat_of_toStr (by rw [hstr]; rfl) ?_
      rw [← hraw]
      exact mem_of_mem_splitOn htoken hc
    simp only [List.mem_filterMap, nominates, elements, ← hraw, List.any_map, List.any_eq_true,
      Function.comp_apply, Option.isSome_some, true_and]
    refine exists_congr fun token => and_congr_right fun htoken => ?_
    rw [htrim token htoken, ← HeaderName.fromBytes_eq_some]
    split
    · rename_i hempty
      have hnone : HeaderName.fromBytes [] = none := by decide
      rw [hempty, hnone]
    · exact Iff.rfl

/-! ## The names that are stripped -/

/-- What `Connection` nominates, as far as the proxy can read it. -/
def nominatedReadable (headers : HeaderMap) (name : HeaderName) : Bool :=
  (headers.getAll Header.CONNECTION).any fun value => value.toStr.isSome && nominates value name

/-- A name differs from a text in lower case or is equal to it. -/
theorem any_hopByHop_eq_contains (name : HeaderName) :
    (HOP_BY_HOP_HEADERS.any fun header => HeaderName.eqIgnoreAsciiCase name.asStr header) =
      HOP_BY_HOP_HEADERS.contains name.asStr := by
  have hlower : ∀ header ∈ HOP_BY_HOP_HEADERS,
      header.toList.map toAsciiLowercase = header.toList := by decide
  rw [List.contains_eq_any_beq, Bool.eq_iff_iff, List.any_eq_true, List.any_eq_true]
  refine exists_congr fun header => and_congr_right fun hheader => ?_
  rw [HeaderName.eqIgnoreAsciiCase, hlower header hheader, name.map_toAsciiLowercase,
    decide_eq_true_eq, beq_iff_eq, String.toList_inj]

/-- **What the proxy takes for hop-by-hop.** -/
theorem isHopByHopHeader_eq (headers : HeaderMap) (name : HeaderName) :
    isHopByHopHeader name (connectionHeaderTokens headers) =
      (HOP_BY_HOP_HEADERS.contains name.asStr || nominatedReadable headers name) := by
  have htokens : (connectionHeaderTokens headers).contains name =
      nominatedReadable headers name := by
    rw [Bool.eq_iff_iff, List.contains_iff_mem]
    simp only [connectionHeaderTokens, nominatedReadable, List.mem_flatMap, List.any_eq_true,
      mem_connectionTokens_iff, Bool.and_eq_true]
  rw [isHopByHopHeader, any_hopByHop_eq_contains, htokens]

/-- The pairs of a request that are copied. -/
theorem entries_requestCopy (headers : HeaderMap) :
    (requestCopy headers).entries = headers.entries.filter fun e =>
      !(HOP_BY_HOP_HEADERS.contains e.1.asStr || nominatedReadable headers e.1 ||
        requestFixed e.1) := by
  unfold requestCopy Multimap.remove
  rw [Multimap.entries_extendWhere, Multimap.empty, List.nil_append, List.filter_filter]
  refine List.filter_congr fun e _ => ?_
  have hidentity : (e.1.asStr != CLIENT_IDENTITY_HEADER) =
      !decide (e.1 = Header.CLIENT_IDENTITY) := by
    rw [Bool.eq_iff_iff, bne_iff_ne, Bool.not_eq_true', decide_eq_false_iff_not, ne_eq,
      ← HeaderName.asStr_inj]
    exact Iff.rfl
  simp only [forwardable, isHopByHopHeader_eq, hidentity, requestFixed, Bool.not_or]
  cases HOP_BY_HOP_HEADERS.contains e.1.asStr <;> cases nominatedReadable headers e.1 <;>
    cases decide (e.1 = Header.CLIENT_IDENTITY) <;> by_cases h : e.1 = Header.CONTENT_LENGTH <;>
      simp [h]

/-- The pairs of a response that are copied. -/
theorem entries_responseCopy (headers : HeaderMap) :
    (responseCopy headers).entries = headers.entries.filter fun e =>
      !(HOP_BY_HOP_HEADERS.contains e.1.asStr || nominatedReadable headers e.1 ||
        responseFixed e.1) := by
  unfold responseCopy
  rw [Multimap.entries_extendWhere, Multimap.empty, List.nil_append]
  refine List.filter_congr fun e _ => ?_
  simp only [returnable, isHopByHopHeader_eq, responseFixed, Bool.not_or, bne, Bool.and_assoc,
    beq_eq_decide]

/-! ## The claim for all header maps -/

/-- Every header that is nominated where the proxy cannot read it is removed all the
same: it is nominated elsewhere, or it is removed anyway. -/
def Readable (fixed : HeaderName → Bool) (headers : HeaderMap) : Prop :=
  ∀ e ∈ headers.entries, ∀ value ∈ headers.getAll Header.CONNECTION, value.toStr = none →
    nominates value e.1 = true → HOP_BY_HOP_HEADERS.contains e.1.asStr = true ∨
      nominatedReadable headers e.1 = true ∨ fixed e.1 = true

/-- Two filters agree if they agree on what is there. -/
theorem filter_eq_filter_iff {α : Type*} {p q : α → Bool} {l : List α} :
    l.filter p = l.filter q ↔ ∀ a ∈ l, p a = q a := by
  refine ⟨fun h a ha => ?_, fun h => List.filter_congr h⟩
  have hmem : a ∈ l.filter p ↔ a ∈ l.filter q := by rw [h]
  rw [List.mem_filter, List.mem_filter] at hmem
  rw [Bool.eq_iff_iff]
  exact ⟨fun hp => (hmem.mp ⟨ha, hp⟩).2, fun hq => (hmem.mpr ⟨ha, hq⟩).2⟩

theorem nominated_of_nominatedReadable {headers : HeaderMap} {name : HeaderName}
    (h : nominatedReadable headers name = true) :
    (headers.getAll Header.CONNECTION).any (fun value => nominates value name) = true := by
  obtain ⟨value, hvalue, hboth⟩ := List.any_eq_true.mp h
  rw [Bool.and_eq_true] at hboth
  exact List.any_eq_true.mpr ⟨value, hvalue, hboth.2⟩

/-- **A copy is right if the values that cannot be read do not matter.** -/
theorem filter_eq_passing_iff (fixed : HeaderName → Bool) (headers : HeaderMap) :
    (headers.entries.filter fun e => !(HOP_BY_HOP_HEADERS.contains e.1.asStr ||
        nominatedReadable headers e.1 || fixed e.1)) = passing fixed headers ↔
      Readable fixed headers := by
  unfold passing removed Readable
  rw [filter_eq_filter_iff]
  refine forall₂_congr fun e _ => ?_
  constructor
  · intro h value hvalue _ hnominates
    have hany : (headers.getAll Header.CONNECTION).any (fun value => nominates value e.1) = true :=
      List.any_eq_true.mpr ⟨value, hvalue, hnominates⟩
    rw [hany, Bool.or_true, Bool.true_or, Bool.not_inj_iff] at h
    simpa only [Bool.or_eq_true, or_assoc] using h
  · intro h
    cases hknown : HOP_BY_HOP_HEADERS.contains e.1.asStr ||
      nominatedReadable headers e.1 || fixed e.1 with
    | true =>
      have hremoved : (HOP_BY_HOP_HEADERS.contains e.1.asStr ||
          (headers.getAll Header.CONNECTION).any (fun value => nominates value e.1) ||
          fixed e.1) = true := by
        simp only [Bool.or_eq_true] at hknown ⊢
        exact hknown.imp_left fun hleft => hleft.imp_right nominated_of_nominatedReadable
      rw [hremoved]
    | false =>
      simp only [Bool.or_eq_false_iff] at hknown
      obtain ⟨⟨hstatic, hreadable⟩, hfixed⟩ := hknown
      have hnone : (headers.getAll Header.CONNECTION).any (fun value => nominates value e.1) =
          false := by
        rw [List.any_eq_false]
        intro value hvalue hnominates
        cases hstr : value.toStr with
        | none =>
          rcases h value hvalue hstr hnominates with h | h | h
          · exact absurd h (by rw [hstatic]; decide)
          · exact absurd h (by rw [hreadable]; decide)
          · exact absurd h (by rw [hfixed]; decide)
        | some raw =>
          refine List.any_eq_false.mp hreadable value hvalue ?_
          rw [hstr, hnominates]
          rfl
      rw [hstatic, hnone, hfixed]
      rfl

/-- **Hop-by-hop headers.**  What goes upstream is what is copied of the request, and then
the headers of the proxy; what goes to the client is what is copied of the response, and
then the security headers.  What is copied are the pairs the rule lets pass, in order,
precisely if no header is nominated only in a value of `Connection` that is not visible
ASCII. -/
theorem hop_by_hop_exact (state : AppState) (clientIp : String) (identity : HeaderValue)
    (headers : HeaderMap) (response : Response) :
    upstreamHeaders state headers clientIp identity =
        ownHeaders state clientIp identity (requestCopy headers) ∧
      (clientResponse response).headers = applySecurityHeaders (responseCopy response.headers) ∧
      ((requestCopy headers).entries = passing requestFixed headers ↔
        Readable requestFixed headers) ∧
      ((responseCopy response.headers).entries = passing responseFixed response.headers ↔
        Readable responseFixed response.headers) := by
  refine ⟨upstreamHeaders_eq state headers clientIp identity, rfl, ?_, ?_⟩
  · rw [entries_requestCopy]
    exact filter_eq_passing_iff requestFixed headers
  · rw [entries_responseCopy]
    exact filter_eq_passing_iff responseFixed response.headers

/-- A header that is nominated beside a byte above `0x7F` goes through, both ways. -/
theorem nominated_header_forwarded :
    ∃ (headers : HeaderMap) (name : HeaderName) (nominating value : HeaderValue),
      headers = ⟨[(Header.CONNECTION, nominating), (name, value)]⟩ ∧
      name.asStr = "x-strip-me" ∧
      nominating.asBytes = latin1Encode "x-strip-me, " ++ [0xE9] ∧
      nominates nominating name = true ∧
      (upstreamHeaders { maxBodySize := 1024 } headers "127.0.0.1" value).getAll name = [value] ∧
      (clientResponse { headers := headers }).headers.getAll name = [value] ∧
      (requestCopy headers).entries ≠ passing requestFixed headers ∧
      (responseCopy headers).entries ≠ passing responseFixed headers :=
  ⟨_, ⟨"x-strip-me", by decide⟩,
    ⟨latin1Encode "x-strip-me, " ++ [0xE9], List.all_eq_true.mp (by decide)⟩,
    .fromStatic "secret" (by decide), rfl, rfl, rfl, by decide, by decide, by decide, by decide,
    by decide⟩

end Proxy

end VibeVoice
