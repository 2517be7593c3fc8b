import Mathlib.Data.List.Infix
import Mathlib.Data.List.Basic
import Mathlib.Tactic.Common

/-!
# Splitting a text at a word

`split d t` cuts `t` at every place where `d` stands, from the left; the places do not
overlap.  Joined with `d` again, the parts are `t` (`intercalate_split`).

The other way round it takes more: of parts that are joined with `d`, the first comes
back exactly when `d` is not in it (`split_append`, `exists_first`).  This is true of a
word whose first letter is not in it again, because such a word cannot begin in a part
and end in the `d` behind it.
-/

namespace Splitting

variable {α : Type*} [DecidableEq α]

/-- The parts, after so many letters are passed over. -/
def splitAfter (d : List α) : ℕ → List α → List (List α)
  | _, [] => [[]]
  | 0, a :: t =>
    if d.isPrefixOf (a :: t) then [] :: splitAfter d (d.length - 1) t
    else (splitAfter d 0 t).modifyHead (a :: ·)
  | n + 1, _ :: t => splitAfter d n t

/-- **The parts of a text** between the places where `d` stands. -/
def split (d t : List α) : List (List α) := splitAfter d 0 t

/-- The first letter of a word is not in it again. -/
def HeadOnce (d : List α) : Prop := ∃ a w, d = a :: w ∧ a ∉ w

theorem splitAfter_append (d x y : List α) : splitAfter d x.length (x ++ y) = split d y := by
  induction x with
  | nil => rfl
  | cons a x ih => exact ih

theorem splitAfter_ne_nil (d : List α) (n : ℕ) (t : List α) : splitAfter d n t ≠ [] := by
  induction t generalizing n with
  | nil => cases n <;> exact List.cons_ne_nil _ _
  | cons a t ih =>
    cases n with
    | zero =>
      rw [splitAfter]
      split
      · exact List.cons_ne_nil _ _
      · rw [ne_eq, List.modifyHead_eq_nil_iff]
        exact ih 0
    | succ n => exact ih n

/-- A text that begins with the word. -/
theorem split_self_append {d : List α} (hd : d ≠ []) (y : List α) :
    split d (d ++ y) = [] :: split d y := by
  obtain ⟨a, w, rfl⟩ := List.exists_cons_of_ne_nil hd
  have hprefix : (a :: w).isPrefixOf (a :: (w ++ y)) = true := by
    rw [List.isPrefixOf_iff_prefix]
    exact List.prefix_append (a :: w) y
  rw [split, List.cons_append, splitAfter, if_pos hprefix]
  exact congrArg ([] :: ·) (splitAfter_append (a :: w) w y)

/-- A text that does not. -/
theorem split_cons {d t : List α} {a : α} (h : ¬ d <+: a :: t) :
    split d (a :: t) = (split d t).modifyHead (a :: ·) := by
  rw [split, splitAfter, if_neg (by rwa [List.isPrefixOf_iff_prefix])]
  rfl

/-- A text in which the word is not is one part. -/
theorem split_of_not_infix {d x : List α} (h : ¬ d <:+: x) : split d x = [x] := by
  induction x with
  | nil => rfl
  | cons a x ih =>
    rw [split_cons fun hprefix => h hprefix.isInfix,
      ih fun hinside => h (hinside.trans (List.suffix_cons a x).isInfix)]
    rfl

omit [DecidableEq α] in
/-- A word of this kind does not begin in a part and end in the word behind it. -/
theorem prefix_of_prefix_append {d x y : List α} (hd : HeadOnce d) (hx : x ≠ [])
    (h : d <+: x ++ (d ++ y)) : d <+: x := by
  obtain ⟨a, w, rfl, ha⟩ := hd
  rcases Nat.lt_or_ge x.length (a :: w).length with hlt | hle
  · obtain ⟨v, hv⟩ := h
    have hget : ((a :: w) ++ v)[x.length]? = some a := by
      rw [hv, List.getElem?_append_right (Nat.le_refl _), Nat.sub_self]
      rfl
    rw [List.getElem?_append_left hlt] at hget
    have hpos := List.length_pos_iff.mpr hx
    obtain ⟨n, hn⟩ := Nat.exists_eq_succ_of_ne_zero (Nat.ne_of_gt hpos)
    rw [hn, List.getElem?_cons_succ] at hget
    exact absurd (List.mem_of_getElem? hget) ha
  · exact List.prefix_of_prefix_length_le h (List.prefix_append x _) hle

/-- **A part comes back**, if the word is not in it. -/
theorem split_append {d x : List α} (hd : HeadOnce d) (hx : ¬ d <:+: x) (y : List α) :
    split d (x ++ (d ++ y)) = x :: split d y := by
  induction x with
  | nil =>
    obtain ⟨a, w, rfl, -⟩ := hd
    exact split_self_append (List.cons_ne_nil a w) y
  | cons a x ih =>
    have hnot : ¬ d <+: a :: (x ++ (d ++ y)) := fun h =>
      hx (prefix_of_prefix_append hd (List.cons_ne_nil a x) h).isInfix
    rw [List.cons_append, split_cons hnot,
      ih fun hinside => hx (hinside.trans (List.suffix_cons a x).isInfix)]
    rfl

/-- **If the word is in a part**, the part is cut where it stands first. -/
theorem exists_first {d x : List α} (hd : d ≠ []) (h : d <:+: x) :
    ∃ u v, x = u ++ (d ++ v) ∧ ¬ d <:+: u := by
  induction x with
  | nil => exact absurd (List.infix_nil.mp h) hd
  | cons a x ih =>
    by_cases hprefix : d <+: a :: x
    · obtain ⟨v, hv⟩ := hprefix
      exact ⟨[], v, hv.symm, fun hinside => hd (List.infix_nil.mp hinside)⟩
    · obtain ⟨u, v, rfl, hu⟩ := ih ((List.infix_cons_iff.mp h).resolve_left hprefix)
      refine ⟨a :: u, v, rfl, fun hinside => ?_⟩
      rcases List.infix_cons_iff.mp hinside with hpre | hinside
      · exact hprefix (hpre.trans (List.prefix_append (a :: u) (d ++ v)))
      · exact hu hinside

theorem intercalate_splitAfter {d : List α} (hd : d ≠ []) (n : ℕ) (t : List α) :
    d.intercalate (splitAfter d n t) = t.drop n := by
  induction t generalizing n with
  | nil =>
    rw [List.drop_nil]
    cases n <;> exact List.intercalate_singleton
  | cons a t ih =>
    cases n with
    | succ n => exact ih n
    | zero =>
      rw [splitAfter]
      split
      · rename_i hprefix
        obtain ⟨v, hv⟩ := List.isPrefixOf_iff_prefix.mp hprefix
        obtain ⟨b, w, rfl⟩ := List.exists_cons_of_ne_nil hd
        obtain ⟨rfl, rfl⟩ := List.cons.inj hv
        obtain ⟨x, xs, hparts⟩ := List.exists_cons_of_ne_nil
          (splitAfter_ne_nil (b :: w) ((b :: w).length - 1) (w ++ v))
        have ih : (b :: w).intercalate (splitAfter (b :: w) ((b :: w).length - 1) (w ++ v)) =
          (w ++ v).drop ((b :: w).length - 1) := ih ((b :: w).length - 1)
        change (b :: w).intercalate ([] :: splitAfter (b :: w) ((b :: w).length - 1) (w ++ v)) = _
        rw [hparts] at ih ⊢
        rw [List.intercalate_cons_cons, ih, List.length_cons, Nat.add_sub_cancel, List.drop_left]
        rfl
      · have ih := ih 0
        obtain ⟨x, xs, hparts⟩ := List.exists_cons_of_ne_nil (splitAfter_ne_nil d 0 t)
        rw [hparts] at ih ⊢
        rw [List.drop_zero] at ih ⊢
        rw [← ih, List.modifyHead_cons]
        cases xs with
        | nil => rw [List.intercalate_singleton, List.intercalate_singleton]
        | cons y ys =>
          rw [List.intercalate_cons_cons, List.intercalate_cons_cons]
          rfl

/-- **The parts, joined with the word**, are the text. -/
theorem intercalate_split {d : List α} (hd : d ≠ []) (t : List α) :
    d.intercalate (split d t) = t :=
  intercalate_splitAfter hd 0 t

end Splitting
