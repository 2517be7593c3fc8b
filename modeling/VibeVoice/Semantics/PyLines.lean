import VibeVoice.Semantics.PyText

/-!
# Lines

`str.splitlines()` and `readline()`, which disagree about what ends a line: the
first ends one at ten characters, three of them beyond ASCII, and the second, of
a binary stream, at the byte `0x0A` alone.

Between the two there are the line ends of text files, LF, CRLF and CR; what has them
is brought to one form by two calls of `str.replace` (`splitOn_normalizeNewlines`).
-/

/-- A character at which `str.splitlines` ends a line. -/
def isLineEnd (c : Char) : Bool :=
  let n := c.toNat
  (0x0A ≤ n && n ≤ 0x0D) || (0x1C ≤ n && n ≤ 0x1E) || n == 0x85 || n == 0x2028 || n == 0x2029

/-- `str.splitlines` of what is left, of which `line` is the beginning of the first
line; `cr` says that a `\r` has just ended one. -/
def splitlinesFrom (cr : Bool) (line : List Char) : List Char → List (List Char)
  | [] => if line = [] then [] else [line]
  | c :: cs =>
    if cr && c == '\n' then splitlinesFrom false [] cs
    else if isLineEnd c then line :: splitlinesFrom (c == '\r') [] cs
    else splitlinesFrom false (line ++ [c]) cs

/-- `text.splitlines()` -/
def splitlines (text : List Char) : List (List Char) := splitlinesFrom false [] text

/-- The lines of a text that is ended, the first of them begun with `line`. -/
def pieces (line : List Char) : List Char → List (List Char)
  | [] => [line]
  | c :: cs => if isLineEnd c then line :: pieces [] cs else pieces (line ++ [c]) cs

/-- The lines up to a `\n`, and the lines after it. -/
theorem splitlinesFrom_append {text : List Char} (hcr : '\r' ∉ text) (line rest : List Char) :
    splitlinesFrom false line (text ++ '\n' :: rest) = pieces line text ++ splitlines rest := by
  induction text generalizing line with
  | nil => rfl
  | cons c cs ih =>
    have hc : (c == '\r') = false := beq_eq_false_iff_ne.mpr fun h => hcr (h ▸ List.mem_cons_self)
    have ih := ih fun h => hcr (List.mem_cons_of_mem _ h)
    rw [List.cons_append, splitlinesFrom, pieces, Bool.false_and, if_neg Bool.false_ne_true, hc]
    split
    · rw [ih, List.cons_append]
    · rw [ih]

/-- A text without line ends is one line. -/
theorem pieces_of_forall {text : List Char} (h : ∀ c ∈ text, isLineEnd c = false)
    (line : List Char) : pieces line text = [line ++ text] := by
  induction text generalizing line with
  | nil => simp [pieces]
  | cons c cs ih =>
    rw [pieces, h c List.mem_cons_self, if_neg Bool.false_ne_true,
      ih fun d hd => h d (List.mem_cons_of_mem _ hd)]
    simp

/-- What begins without a line end begins the first line. -/
theorem pieces_append {start : List Char} (h : ∀ c ∈ start, isLineEnd c = false)
    (line text : List Char) : pieces line (start ++ text) = pieces (line ++ start) text := by
  induction start generalizing line with
  | nil => simp
  | cons c cs ih =>
    rw [List.cons_append, pieces, h c List.mem_cons_self, if_neg Bool.false_ne_true,
      ih fun d hd => h d (List.mem_cons_of_mem _ hd)]
    simp

/-- `readline()` until it returns `b""`: the lines of a byte stream, with the
`0x0A` that ends each of them; `line` is what the first line begins with. -/
def readlinesFrom (line : List UInt8) : List UInt8 → List (List UInt8)
  | [] => if line = [] then [] else [line]
  | b :: bytes =>
    if b = 0x0A then (line ++ [b]) :: readlinesFrom [] bytes else readlinesFrom (line ++ [b]) bytes

/-- The lines of a byte stream. -/
def readlines (bytes : List UInt8) : List (List UInt8) := readlinesFrom [] bytes

/-- The first line. -/
theorem readlinesFrom_append {text : List UInt8} (h : 0x0A ∉ text) (line rest : List UInt8) :
    readlinesFrom line (text ++ 0x0A :: rest) = (line ++ text ++ [0x0A]) :: readlines rest := by
  induction text generalizing line with
  | nil => simp [readlinesFrom, readlines]
  | cons b bytes ih =>
    have hb : b ≠ 0x0A := fun hb => h (hb ▸ List.mem_cons_self)
    rw [List.cons_append, readlinesFrom, if_neg hb, ih fun hb => h (List.mem_cons_of_mem _ hb)]
    simp

/-- A line that is not ended is the last one. -/
theorem readlinesFrom_of_notMem {text : List UInt8} (h : 0x0A ∉ text) (line : List UInt8) :
    readlinesFrom line text = if line ++ text = [] then [] else [line ++ text] := by
  induction text generalizing line with
  | nil => simp [readlinesFrom]
  | cons b bytes ih =>
    have hb : b ≠ 0x0A := fun hb => h (hb ▸ List.mem_cons_self)
    rw [readlinesFrom, if_neg hb, ih fun hb => h (List.mem_cons_of_mem _ hb)]
    simp

/-! ## The line ends of text files -/

/-- `s.replace("\r\n", "\n")` -/
def replaceCrLf : List Char → List Char
  | [] => []
  | '\r' :: '\n' :: t => '\n' :: replaceCrLf t
  | c :: t => c :: replaceCrLf t

/-- `s.replace("\r\n", "\n").replace("\r", "\n")` -/
def normalizeNewlines (t : List Char) : List Char := replaceChar '\r' '\n' (replaceCrLf t)

theorem replaceCrLf_of_notMem {t : List Char} (h : '\r' ∉ t) : replaceCrLf t = t := by
  fun_induction replaceCrLf t with
  | case1 => rfl
  | case2 t ih => exact absurd List.mem_cons_self h
  | case3 c t hcrlf ih => rw [ih fun hmem => h (List.mem_cons_of_mem c hmem)]

/-- And if there is none, nothing changes. -/
theorem normalizeNewlines_of_notMem {t : List Char} (h : '\r' ∉ t) : normalizeNewlines t = t := by
  rw [normalizeNewlines, replaceCrLf_of_notMem h, replaceChar_of_notMem h]
