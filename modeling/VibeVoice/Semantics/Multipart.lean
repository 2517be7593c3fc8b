import Mathlib.Data.List.Nodup
import VibeVoice.Semantics.Pattern
import VibeVoice.Semantics.PyText
import VibeVoice.Semantics.Splitting

/-!
# Multipart messages

A reader for `multipart/form-data` with a given boundary, and a writer for messages
whose parts are given by their header lines and their bodies (`Draft`).

A delimiter is a line break, two hyphens and the boundary.  The first one needs no line
break if the message begins with it, so the reader puts one in front.  Between two
delimiters there is a part: the rest of the delimiter's line, header lines, an empty
line, and the body, which ends where the next delimiter begins.  A delimiter that goes on
with two hyphens is the last, and what follows it is not looked at.

Nothing in a message says how long a body is.  So it matters what is in it.  If no line
of a body begins like a delimiter, the parts come back as they were written
(`parse_write`), and otherwise one of them does not, not even in another order
(`not_infix_of_parse_write`).
-/

namespace Multipart

/-- A line break. -/
def crlf : List UInt8 := [13, 10]

/-- `delimiter`, with the line break in front of it. -/
def delimiter (boundary : List UInt8) : List UInt8 := crlf ++ (45 :: 45 :: boundary)

/-- A part of a message. -/
structure Part where
  /-- The header fields, their names in lower case. -/
  headers : List (List UInt8 × List UInt8)
  body : List UInt8
  deriving DecidableEq

/-! ## Reading -/

/-- A space or a tab. -/
def isBlank (b : UInt8) : Bool := b == 32 || b == 9

/-- Without blanks at either end. -/
def trimBlanks (t : List UInt8) : List UInt8 :=
  ((t.dropWhile isBlank).reverse.dropWhile isBlank).reverse

/-- A letter in lower case. -/
def toLower (b : UInt8) : UInt8 := if 65 ≤ b ∧ b ≤ 90 then b + 32 else b

/-- A header line: a name, a colon, and a value. -/
def field (line : List UInt8) : Option (List UInt8 × List UInt8) :=
  match line.dropWhile (· != 58) with
  | [] => none
  | _ :: value => some ((line.takeWhile (· != 58)).map toLower, trimBlanks value)

/-- Header lines up to an empty one, and the body. -/
def readPart (content : List UInt8) : Option Part :=
  let lines := Splitting.split crlf content
  match lines.dropWhile fun line => !line.isEmpty with
  | [] => none
  | _ :: body => ((lines.takeWhile fun line => !line.isEmpty).mapM field).map fun headers =>
      ⟨headers, crlf.intercalate body⟩

/-- What stands between the delimiters, up to the last one. -/
def readParts : List (List UInt8) → Option (List Part)
  | [] => none
  | text :: texts =>
    if [45, 45].isPrefixOf text then some []
    else
      match text.dropWhile isBlank with
      | 13 :: 10 :: content =>
        (readPart content).bind fun part => (readParts texts).map (part :: ·)
      | _ => none

/-- **The parts of a message.**  What is in front of the first delimiter is not looked at. -/
def parse (boundary body : List UInt8) : Option (List Part) :=
  readParts ((Splitting.split (delimiter boundary) (crlf ++ body)).drop 1)

/-! ### The parameters of a header -/

/-- Where one is among the parameters. -/
inductive ParamState where
  /-- After a value. -/
  | gap : ParamState
  /-- In front of a name. -/
  | start : ParamState
  | name (read : List UInt8) : ParamState
  /-- In front of a value. -/
  | value (name : List UInt8) : ParamState
  | token (name read : List UInt8) : ParamState
  | quoted (name read : List UInt8) : ParamState
  /-- After a backslash. -/
  | escaped (name read : List UInt8) : ParamState

/-- The parameters: `;`, a name, `=`, and a token or a quoted string. -/
def parameters : ParamState → List UInt8 → Option (List (List UInt8 × List UInt8))
  | .gap, [] => some []
  | .token name read, [] => some [(name, read)]
  | _, [] => none
  | .gap, b :: t =>
    if b = 59 then parameters .start t else if isBlank b then parameters .gap t else none
  | .start, b :: t => if isBlank b then parameters .start t else parameters (.name [toLower b]) t
  | .name read, b :: t =>
    if b = 61 then parameters (.value read) t else parameters (.name (read ++ [toLower b])) t
  | .value name, b :: t =>
    if b = 34 then parameters (.quoted name []) t else parameters (.token name [b]) t
  | .token name read, b :: t =>
    if b = 59 then (parameters .start t).map ((name, read) :: ·)
    else parameters (.token name (read ++ [b])) t
  | .quoted name read, b :: t =>
    if b = 34 then (parameters .gap t).map ((name, read) :: ·)
    else if b = 92 then parameters (.escaped name read) t
    else parameters (.quoted name (read ++ [b])) t
  | .escaped name read, b :: t => parameters (.quoted name (read ++ [b])) t

/-- A part of a form. -/
structure FormPart where
  name : List UInt8
  filename : Option (List UInt8)
  contentType : Option (List UInt8)
  body : List UInt8
  deriving DecidableEq

/-- The parameters of a header that is of some kind. -/
def withKind (kind value : List UInt8) : Option (List (List UInt8 × List UInt8)) :=
  if (trimBlanks (value.takeWhile (· != 59))).map toLower ≠ kind then none
  else parameters .gap (value.dropWhile (· != 59))

/-- What the headers of a part say. -/
def formPart (part : Part) : Option FormPart :=
  (part.headers.lookup (latin1Encode "content-disposition")).bind fun value =>
  (withKind (latin1Encode "form-data") value).bind fun params =>
  (params.lookup (latin1Encode "name")).map fun name =>
    { name := name
      filename := params.lookup (latin1Encode "filename")
      contentType := part.headers.lookup (latin1Encode "content-type")
      body := part.body }

/-- The boundary that is announced in the header of a message. -/
def announced (contentType : List UInt8) : Option (List UInt8) :=
  (withKind (latin1Encode "multipart/form-data") contentType).bind fun params =>
    params.lookup (latin1Encode "boundary")

/-- **The parts of a form**, given the header and the body of the message. -/
def parseForm (contentType body : List UInt8) : Option (List FormPart) :=
  (announced contentType).bind fun boundary =>
    (parse boundary body).bind fun parts => parts.mapM formPart

/-- Without blanks at the ends, if there are none. -/
theorem trimBlanks_of_ends {t : List UInt8} (hhead : ∀ b, t.head? = some b → isBlank b = false)
    (hlast : ∀ b, t.getLast? = some b → isBlank b = false) : trimBlanks t = t := by
  have hdrop (u : List UInt8) (hu : ∀ b, u.head? = some b → isBlank b = false) :
      u.dropWhile isBlank = u := by
    cases u with
    | nil => rfl
    | cons b u => exact List.dropWhile_cons_of_neg (by simp [hu b rfl])
  have hhead' : ∀ b, t.reverse.head? = some b → isBlank b = false := by
    rwa [List.head?_reverse]
  rw [trimBlanks, hdrop t hhead, hdrop t.reverse hhead', List.reverse_reverse]

/-- A header line, as it is mostly written. -/
theorem field_line {name value : List UInt8} (hname : 58 ∉ name)
    (hhead : ∀ b, value.head? = some b → isBlank b = false)
    (hlast : ∀ b, value.getLast? = some b → isBlank b = false) :
    field (name ++ 58 :: 32 :: value) = some (name.map toLower, value) := by
  have hall : ∀ b ∈ name, (b != 58) = true := fun b hb =>
    bne_iff_ne.mpr fun heq => hname (heq ▸ hb)
  have htrim : trimBlanks (32 :: value) = trimBlanks value := rfl
  rw [field, List.dropWhile_append_of_pos hall, List.takeWhile_append_of_pos hall]
  simp [htrim, trimBlanks_of_ends hhead hlast]

/-- The name that the headers give to a part. -/
def nameOf (headers : List (List UInt8 × List UInt8)) : Option (List UInt8) :=
  (formPart ⟨headers, []⟩).map FormPart.name

/-- A part of a form has its name by the headers, and the body of the part. -/
theorem eq_of_formPart_eq_some {part : Part} {form : FormPart} (h : formPart part = some form) :
    (nameOf part.headers, part.body) = (some form.name, form.body) := by
  obtain ⟨value, hvalue, h⟩ := Option.bind_eq_some_iff.mp h
  obtain ⟨params, hparams, h⟩ := Option.bind_eq_some_iff.mp h
  obtain ⟨name, hname, rfl⟩ := Option.map_eq_some_iff.mp h
  rw [nameOf, formPart, hvalue, Option.bind_some, hparams, Option.bind_some, hname]
  rfl

/-- The same of the parts of a whole form. -/
theorem pairs_of_map_formPart {parts : List Part} {forms : List FormPart}
    (h : parts.map formPart = forms.map some) :
    (parts.map fun part => (nameOf part.headers, part.body)) =
      (forms.map fun form => (form.name, form.body)).map (Prod.map some id) := by
  induction parts generalizing forms with
  | nil =>
    rw [List.map_eq_nil_iff.mp h.symm]
    rfl
  | cons part parts ih =>
    cases forms with
    | nil => cases h
    | cons form forms =>
      obtain ⟨hpart, hparts⟩ := List.cons.inj h
      rw [List.map_cons, eq_of_formPart_eq_some hpart, ih hparts]
      rfl

theorem mapM_eq_some_iff {α β : Type} {f : α → Option β} {l : List α} {l' : List β} :
    l.mapM f = some l' ↔ l.map f = l'.map some := by
  induction l generalizing l' with
  | nil => cases l' <;> simp
  | cons a l ih =>
    cases l' with
    | nil => simp [Option.bind_eq_some_iff]
    | cons b l' => simp [Option.bind_eq_some_iff, ih]

/-- A quoted string without quotes and backslashes in it. -/
theorem parameters_quoted {value : List UInt8} (h : ∀ b ∈ value, b ≠ 34 ∧ b ≠ 92)
    (name read rest : List UInt8) :
    parameters (.quoted name read) (value ++ 34 :: rest) =
      (parameters .gap rest).map ((name, read ++ value) :: ·) := by
  induction value generalizing read with
  | nil => rw [List.nil_append, List.append_nil, parameters, if_pos rfl]
  | cons b value ih =>
    obtain ⟨hquote, hslash⟩ := h b List.mem_cons_self
    rw [List.cons_append, parameters, if_neg hquote, if_neg hslash,
      ih fun c hc => h c (List.mem_cons_of_mem b hc), List.append_assoc, List.singleton_append]

/-! ## Writing -/

/-- **A part that is to be written**: header lines that can be read, none of them empty, with a
line break in it, or beginning with a hyphen. -/
structure Draft where
  lines : List (List UInt8)
  headers : List (List UInt8 × List UInt8)
  body : List UInt8
  clean : ∀ line ∈ lines, line ≠ [] ∧ 13 ∉ line ∧ line.head? ≠ some 45
  read : lines.mapM field = some headers

/-- What is to be read of it. -/
def Draft.part (draft : Draft) : Part := ⟨draft.headers, draft.body⟩

/-- Header lines. -/
def headerText (lines : List (List UInt8)) : List UInt8 := lines.flatMap (· ++ crlf)

/-- What stands between the delimiters. -/
def Draft.text (draft : Draft) : List UInt8 :=
  crlf ++ (headerText draft.lines ++ (crlf ++ draft.body))

/-- The message. -/
def write (boundary : List UInt8) : List Draft → List UInt8
  | [] => 45 :: 45 :: (boundary ++ (45 :: 45 :: crlf))
  | draft :: drafts => 45 :: 45 :: (boundary ++ (draft.text ++ (crlf ++ write boundary drafts)))

variable {boundary : List UInt8}

/-- A message, with a line break in front of it, begins with a delimiter. -/
theorem crlf_append_write_nil : crlf ++ write boundary [] =
    delimiter boundary ++ (45 :: 45 :: crlf) := by
  simp [write, delimiter]

theorem crlf_append_write_cons (draft : Draft) (drafts : List Draft) :
    crlf ++ write boundary (draft :: drafts) =
      delimiter boundary ++ (draft.text ++ (crlf ++ write boundary drafts)) := by
  simp [write, delimiter]

theorem exists_crlf_append_write (boundary : List UInt8) (drafts : List Draft) :
    ∃ rest, crlf ++ write boundary drafts = delimiter boundary ++ rest := by
  cases drafts with
  | nil => exact ⟨_, crlf_append_write_nil⟩
  | cons draft drafts => exact ⟨_, crlf_append_write_cons draft drafts⟩

/-! ## Where a delimiter can stand -/

theorem crlf_ne_nil : crlf ≠ [] := List.cons_ne_nil _ _

theorem headOnce_crlf : Splitting.HeadOnce crlf := ⟨13, [10], rfl, by decide⟩

/-- The boundary has no line break in it. -/
theorem headOnce_delimiter (h : 13 ∉ boundary) : Splitting.HeadOnce (delimiter boundary) :=
  ⟨13, 10 :: 45 :: 45 :: boundary, rfl, by simpa using h⟩

theorem delimiter_ne_nil : delimiter boundary ≠ [] := List.cons_ne_nil _ _

/-- No delimiter begins with a line break before something else than a hyphen. -/
theorem delimiter_infix_crlf {t : List UInt8} (ht : t.head? ≠ some 45)
    (h : delimiter boundary <:+: crlf ++ t) : delimiter boundary <:+: t := by
  rcases List.infix_cons_iff.mp h with hprefix | h
  · obtain ⟨v, hv⟩ := hprefix
    have htail : 45 :: 45 :: (boundary ++ v) = t := (List.cons.inj (List.cons.inj hv).2).2
    rw [← htail] at ht
    exact absurd rfl ht
  · rcases List.infix_cons_iff.mp h with hprefix | h
    · obtain ⟨v, hv⟩ := hprefix
      exact absurd (List.cons.inj hv).1 (by decide)
    · exact h

/-- **No delimiter begins in a header line.** -/
theorem delimiter_infix_headerText {lines : List (List UInt8)}
    (hclean : ∀ line ∈ lines, line ≠ [] ∧ 13 ∉ line ∧ line.head? ≠ some 45) {t : List UInt8}
    (ht : t.head? ≠ some 45) (h : delimiter boundary <:+: crlf ++ (headerText lines ++ t)) :
    delimiter boundary <:+: t := by
  induction lines with
  | nil => exact delimiter_infix_crlf ht h
  | cons line lines ih =>
    obtain ⟨hne, hcr, hhead⟩ := hclean line List.mem_cons_self
    have hline : headerText (line :: lines) ++ t = line ++ (crlf ++ (headerText lines ++ t)) := by
      simp [headerText]
    rw [hline] at h
    have hhead' : (line ++ (crlf ++ (headerText lines ++ t))).head? ≠ some 45 := by
      rwa [List.head?_append_of_ne_nil line hne]
    have hafter := delimiter_infix_crlf hhead' h
    exact ih (fun l hl => hclean l (List.mem_cons_of_mem line hl))
      (Pattern.infix_of_append_left hafter hcr)

/-- The lines of a header come back. -/
theorem split_headerText {lines : List (List UInt8)} (h : ∀ line ∈ lines, 13 ∉ line)
    (t : List UInt8) :
    Splitting.split crlf (headerText lines ++ t) = lines ++ Splitting.split crlf t := by
  induction lines with
  | nil => rfl
  | cons line lines ih =>
    have hline : headerText (line :: lines) ++ t = line ++ (crlf ++ (headerText lines ++ t)) := by
      simp [headerText]
    have hnot : ¬ crlf <:+: line := fun hinside =>
      h line List.mem_cons_self (hinside.subset (by decide))
    rw [hline, Splitting.split_append headOnce_crlf hnot,
      ih fun l hl => h l (List.mem_cons_of_mem line hl), List.cons_append]

/-- Header lines, an empty line, and what is behind it: a body, or nothing. -/
theorem readPart_headerText (draft : Draft) {t : List UInt8} {rest : List (List UInt8)}
    (ht : Splitting.split crlf t = [] :: rest) :
    readPart (headerText draft.lines ++ t) = some ⟨draft.headers, crlf.intercalate rest⟩ := by
  have hsplit := split_headerText (fun line hline => (draft.clean line hline).2.1) t
  have hne : ∀ line ∈ draft.lines, (!line.isEmpty) = true := fun line hline => by
    simpa using (draft.clean line hline).1
  rw [readPart, hsplit, ht]
  simp only [List.dropWhile_append_of_pos hne, List.takeWhile_append_of_pos hne]
  have hdrop : ([] :: rest).dropWhile (fun line : List UInt8 => !line.isEmpty) = [] :: rest := rfl
  have htake : ([] :: rest).takeWhile (fun line : List UInt8 => !line.isEmpty) = [] := rfl
  rw [hdrop, htake, List.append_nil, draft.read]
  rfl

/-! ## The round trip -/

/-- A draft that is read as it is. -/
theorem readPart_text (draft : Draft) :
    readPart (headerText draft.lines ++ (crlf ++ draft.body)) = some draft.part := by
  rw [readPart_headerText draft (Splitting.split_self_append crlf_ne_nil draft.body),
    Splitting.intercalate_split crlf_ne_nil]
  rfl

/-- The text between two delimiters. -/
theorem readParts_crlf (content : List UInt8) (texts : List (List UInt8)) :
    readParts ((crlf ++ content) :: texts) =
      (readPart content).bind fun part => (readParts texts).map (part :: ·) := rfl

/-- What is read of a message, part after part. -/
theorem parse_write_cons (hboundary : 13 ∉ boundary) {draft : Draft} {drafts : List Draft}
    (h : ¬ delimiter boundary <:+: crlf ++ draft.body) :
    parse boundary (write boundary (draft :: drafts)) =
      (parse boundary (write boundary drafts)).map (draft.part :: ·) := by
  obtain ⟨rest, hrest⟩ := exists_crlf_append_write boundary drafts
  have hnot : ¬ delimiter boundary <:+: draft.text := fun hinside =>
    h (delimiter_infix_headerText draft.clean (by simp [crlf]) hinside)
  rw [parse, parse, crlf_append_write_cons, Splitting.split_self_append delimiter_ne_nil, hrest,
    Splitting.split_append (headOnce_delimiter hboundary) hnot,
    Splitting.split_self_append delimiter_ne_nil]
  simp only [List.drop_succ_cons, List.drop_zero]
  rw [Draft.text, readParts_crlf, readPart_text]
  rfl

/-- The end of a message. -/
theorem parse_write_nil : parse boundary (write boundary []) = some [] := by
  have hnot : ¬ delimiter boundary <:+: 45 :: 45 :: crlf := fun hinside => by
    have hcrlf : delimiter boundary <:+: crlf :=
      Pattern.infix_of_append_left (l := [45, 45]) hinside (by decide)
    have hle := hcrlf.length_le
    simp [delimiter, crlf] at hle
  rw [parse, crlf_append_write_nil, Splitting.split_self_append delimiter_ne_nil,
    Splitting.split_of_not_infix hnot]
  rfl

/-- What is left of a part that is cut at a delimiter in its body. -/
theorem readPart_cut (draft : Draft) {z v : List UInt8}
    (hz : crlf ++ draft.body = z ++ (delimiter boundary ++ v)) :
    ∃ part, readPart (headerText draft.lines ++ z) = some part ∧
      part.headers = draft.headers ∧ part.body.length < draft.body.length := by
  have hlen : draft.body.length = z.length + boundary.length + 2 + v.length := by
    have h := congrArg List.length hz
    simp only [crlf, delimiter, List.length_append, List.length_cons, List.length_nil] at h
    omega
  cases z with
  | nil =>
    refine ⟨_, readPart_headerText draft rfl, rfl, ?_⟩
    rw [List.intercalate_nil, List.length_nil]
    omega
  | cons a z =>
    obtain ⟨hfirst, hz⟩ := List.cons.inj hz
    cases z with
    | nil => exact absurd (List.cons.inj hz).1 (by decide)
    | cons b z =>
      obtain ⟨hsecond, -⟩ := List.cons.inj hz
      have hbreak : a :: b :: z = crlf ++ z := by rw [← hfirst, ← hsecond]; rfl
      refine ⟨_, readPart_headerText draft
        (hbreak ▸ Splitting.split_self_append crlf_ne_nil z), rfl, ?_⟩
      rw [Splitting.intercalate_split crlf_ne_nil, hlen]
      simp only [List.length_cons]
      omega

/-- **A body with a delimiter in it** does not come back. -/
theorem parse_write_cut (hboundary : 13 ∉ boundary) {draft : Draft} {drafts : List Draft}
    (h : delimiter boundary <:+: crlf ++ draft.body) {part : Part} {parts : List Part}
    (hparse : parse boundary (write boundary (draft :: drafts)) = some (part :: parts)) :
    part.headers = draft.headers ∧ part.body.length < draft.body.length := by
  obtain ⟨z, v, hz, hfirst⟩ := Splitting.exists_first delimiter_ne_nil h
  have hhead : z.head? ≠ some 45 := by
    cases z with
    | nil => simp
    | cons a z => rw [← (List.cons.inj hz).1]; simp
  have hnot : ¬ delimiter boundary <:+: crlf ++ (headerText draft.lines ++ z) := fun hinside =>
    hfirst (delimiter_infix_headerText draft.clean hhead hinside)
  have htext : draft.text ++ (crlf ++ write boundary drafts) =
      (crlf ++ (headerText draft.lines ++ z)) ++
        (delimiter boundary ++ (v ++ (crlf ++ write boundary drafts))) := by
    rw [Draft.text, hz]
    simp only [List.append_assoc]
  obtain ⟨part', hread, hcut⟩ := readPart_cut draft hz
  rw [parse, crlf_append_write_cons, Splitting.split_self_append delimiter_ne_nil, htext,
    Splitting.split_append (headOnce_delimiter hboundary) hnot] at hparse
  simp only [List.drop_succ_cons, List.drop_zero] at hparse
  rw [readParts_crlf, hread] at hparse
  obtain ⟨parts', -, heq⟩ := Option.map_eq_some_iff.mp hparse
  rw [← (List.cons.inj heq).1]
  exact hcut

/-- **The parts come back** if no line of a body begins like a delimiter. -/
theorem parse_write (hboundary : 13 ∉ boundary) {drafts : List Draft}
    (h : ∀ draft ∈ drafts, ¬ delimiter boundary <:+: crlf ++ draft.body) :
    parse boundary (write boundary drafts) = some (drafts.map Draft.part) := by
  induction drafts with
  | nil => exact parse_write_nil
  | cons draft drafts ih =>
    rw [List.forall_mem_cons] at h
    rw [parse_write_cons hboundary h.1, ih h.2]
    rfl

/-- **And only then**, if the parts have different names: the names and the bodies that are read
are not those that were written, in any order. -/
theorem not_infix_of_parse_write (hboundary : 13 ∉ boundary) {drafts : List Draft}
    (hnames : (drafts.map fun draft => nameOf draft.headers).Nodup) {parts : List Part}
    (hparse : parse boundary (write boundary drafts) = some parts)
    (hperm : (parts.map fun part => (nameOf part.headers, part.body)).Perm
      (drafts.map fun draft => (nameOf draft.headers, draft.body))) :
    ∀ draft ∈ drafts, ¬ delimiter boundary <:+: crlf ++ draft.body := by
  induction drafts generalizing parts with
  | nil => exact fun draft hdraft => absurd hdraft List.not_mem_nil
  | cons draft drafts ih =>
    rw [List.map_cons, List.nodup_cons] at hnames
    by_cases h : delimiter boundary <:+: crlf ++ draft.body
    · cases parts with
      | nil => exact absurd hperm.length_eq (by simp)
      | cons part parts =>
        obtain ⟨hheaders, hlt⟩ := parse_write_cut hboundary h hparse
        rcases List.mem_cons.mp (hperm.subset List.mem_cons_self) with heq | hmem
        · exact absurd hlt (by rw [(Prod.mk.inj heq).2]; exact Nat.lt_irrefl _)
        · obtain ⟨other, hother, heq⟩ := List.mem_map.mp hmem
          refine absurd (List.mem_map.mpr ⟨other, hother, ?_⟩) hnames.1
          rw [← hheaders]
          exact (Prod.mk.inj heq).1
    · rw [parse_write_cons hboundary h] at hparse
      obtain ⟨parts, hparts, rfl⟩ := Option.map_eq_some_iff.mp hparse
      rw [List.map_cons, List.map_cons] at hperm
      exact List.forall_mem_cons.mpr ⟨h, ih hnames.2 hparts hperm.cons_inv⟩

/-! ## Forms -/

section Forms

variable {contentType : List UInt8} (hannounced : announced contentType = some boundary)
  (hboundary : 13 ∉ boundary) {drafts : List Draft} {forms : List FormPart}
  (hdrafts : drafts.map (formPart ·.part) = forms.map some)

include hannounced hboundary hdrafts

/-- **A form comes back** if no line of a body begins like a delimiter. -/
theorem parseForm_write (h : ∀ draft ∈ drafts, ¬ delimiter boundary <:+: crlf ++ draft.body) :
    parseForm contentType (write boundary drafts) = some forms := by
  rw [parseForm, hannounced, Option.bind_some, parse_write hboundary h, Option.bind_some,
    mapM_eq_some_iff, List.map_map]
  exact hdrafts

/-- **And only then**, if its parts have different names. -/
theorem not_infix_of_parseForm_write (hnames : (forms.map FormPart.name).Nodup)
    {forms' : List FormPart} (hparse : parseForm contentType (write boundary drafts) = some forms')
    (hperm : (forms'.map fun form => (form.name, form.body)).Perm
      (forms.map fun form => (form.name, form.body))) :
    ∀ draft ∈ drafts, ¬ delimiter boundary <:+: crlf ++ draft.body := by
  rw [parseForm, hannounced, Option.bind_some] at hparse
  obtain ⟨parts, hparts, hforms⟩ := Option.bind_eq_some_iff.mp hparse
  have hwritten : (drafts.map fun draft => (nameOf draft.headers, draft.body)) =
      (forms.map fun form => (form.name, form.body)).map (Prod.map some id) := by
    rw [← pairs_of_map_formPart ((List.map_map ..).trans hdrafts), List.map_map]
    rfl
  refine not_infix_of_parse_write hboundary ?_ hparts ?_
  · have hfirst := congrArg (List.map Prod.fst) hwritten
    simp only [List.map_map] at hfirst
    have heq : (drafts.map fun draft => nameOf draft.headers) =
        (forms.map FormPart.name).map some := by
      rw [List.map_map]
      exact hfirst
    rw [heq]
    exact List.Nodup.map (Option.some_injective _) hnames
  · rw [pairs_of_map_formPart (mapM_eq_some_iff.mp hforms)]
    exact (hperm.map _).trans (.of_eq hwritten.symm)

end Forms

end Multipart
