import Mathlib.Data.List.Infix
import Mathlib.Tactic.Common

/-!
# Patterns of bounded repetitions, and where one can match

A regular expression without alternatives and stars is a list of classes, each to be
repeated so and so often.  `Matches` is its language, `search` looks for a match at
every place of a text, trying every number of repetitions, and the two agree
(`search_eq_true_iff`).

A match in a text that is put together of three lies in the second, when it cannot
begin in the first nor end in the third (`infix_of_append`).  That much can be said
without a look at the second.
-/

namespace Pattern

variable {α : Type*}

/-- `[…]{min,max}` -/
structure Piece (α : Type*) where
  admits : α → Bool
  min : ℕ
  max : ℕ

namespace Piece

/-- One letter of a class. -/
def one (admits : α → Bool) : Piece α := ⟨admits, 1, 1⟩

/-- A piece matches so many letters of its class. -/
def Accepts (p : Piece α) (w : List α) : Prop :=
  (p.min ≤ w.length ∧ w.length ≤ p.max) ∧ ∀ a ∈ w, p.admits a = true

theorem accepts_one {admits : α → Bool} {w : List α} :
    (one admits).Accepts w ↔ ∃ a, w = [a] ∧ admits a = true := by
  constructor
  · rintro ⟨⟨hmin, hmax⟩, hall⟩
    obtain ⟨a, rfl⟩ := List.length_eq_one_iff.mp (Nat.le_antisymm hmax hmin)
    exact ⟨a, rfl, hall a List.mem_cons_self⟩
  · rintro ⟨a, rfl, ha⟩
    exact ⟨⟨Nat.le_refl _, Nat.le_refl _⟩, by simpa [one] using ha⟩

end Piece

/-- **The language of a pattern.** -/
def Matches : List (Piece α) → List α → Prop
  | [], w => w = []
  | p :: ps, w => ∃ u v, w = u ++ v ∧ p.Accepts u ∧ Matches ps v

/-- A pattern that begins with one letter. -/
theorem matches_one_cons {admits : α → Bool} {ps : List (Piece α)} {w : List α} :
    Matches (.one admits :: ps) w ↔ ∃ a v, w = a :: v ∧ admits a = true ∧ Matches ps v := by
  constructor
  · rintro ⟨u, v, rfl, hu, hv⟩
    obtain ⟨a, rfl, ha⟩ := Piece.accepts_one.mp hu
    exact ⟨a, v, rfl, ha, hv⟩
  · rintro ⟨a, v, rfl, ha, hv⟩
    exact ⟨[a], v, rfl, Piece.accepts_one.mpr ⟨a, rfl, ha⟩, hv⟩

/-- The pattern matches a beginning of the text. -/
def matchHere : List (Piece α) → List α → Bool
  | [], _ => true
  | p :: ps, t => (List.range (p.max + 1)).any fun n =>
      decide (p.min ≤ n) && decide (n ≤ t.length) && (t.take n).all p.admits &&
        matchHere ps (t.drop n)

/-- `re.search` -/
def search (ps : List (Piece α)) (t : List α) : Bool := t.tails.any (matchHere ps)

theorem matchHere_eq_true_iff {ps : List (Piece α)} {t : List α} :
    matchHere ps t = true ↔ ∃ w, w <+: t ∧ Matches ps w := by
  induction ps generalizing t with
  | nil => exact ⟨fun _ => ⟨[], List.nil_prefix, rfl⟩, fun _ => rfl⟩
  | cons p ps ih =>
    simp only [matchHere, List.any_eq_true, List.mem_range, Bool.and_eq_true, decide_eq_true_eq,
      List.all_eq_true]
    constructor
    · rintro ⟨n, hn, ⟨⟨hmin, hlen⟩, hall⟩, hrest⟩
      obtain ⟨v, hv, hmatch⟩ := ih.mp hrest
      refine ⟨t.take n ++ v, ?_, t.take n, v, rfl, ⟨?_, hall⟩, hmatch⟩
      · have h := (List.prefix_append_right_inj (t.take n)).mpr hv
        rwa [List.take_append_drop] at h
      · rw [List.length_take]
        omega
    · rintro ⟨w, hw, u, v, rfl, ⟨⟨hmin, hmax⟩, hall⟩, hmatch⟩
      obtain ⟨s, rfl⟩ := hw
      refine ⟨u.length, by omega, ⟨⟨hmin, by simp only [List.length_append]; omega⟩, ?_⟩, ?_⟩
      · rwa [List.append_assoc, List.take_left]
      · rw [List.append_assoc, List.drop_left]
        exact ih.mpr ⟨v, List.prefix_append v s, hmatch⟩

/-- **A search finds what is there.** -/
theorem search_eq_true_iff {ps : List (Piece α)} {t : List α} :
    search ps t = true ↔ ∃ w, w <:+: t ∧ Matches ps w := by
  simp only [search, List.any_eq_true, List.mem_tails, matchHere_eq_true_iff,
    List.infix_iff_prefix_suffix]
  constructor
  · rintro ⟨s, hs, w, hw, hmatch⟩
    exact ⟨w, ⟨s, hw, hs⟩, hmatch⟩
  · rintro ⟨w, ⟨s, hw, hs⟩, hmatch⟩
    exact ⟨s, hs, w, hw, hmatch⟩

/-! ## Seams -/

/-- What does not begin in the first of two texts is in the second. -/
theorem infix_of_append_left {a : α} {w l t : List α} (h : a :: w <:+: l ++ t) (ha : a ∉ l) :
    a :: w <:+: t := by
  obtain ⟨u, v, huv⟩ := h
  rw [List.append_assoc] at huv
  rcases List.append_eq_append_iff.mp huv with ⟨m, rfl, hm⟩ | ⟨m, -, rfl⟩
  · cases m with
    | nil => exact ⟨[], v, hm⟩
    | cons b m =>
      rw [List.cons_append, List.cons_append, List.cons.injEq] at hm
      exact absurd (hm.1 ▸ List.mem_append_right u List.mem_cons_self) ha
  · exact ⟨m, v, List.append_assoc m _ v⟩

/-- What does not end in the second of two texts is in the first. -/
theorem infix_of_append_right {a : α} {w t r : List α} (h : w ++ [a] <:+: t ++ r) (ha : a ∉ r) :
    w ++ [a] <:+: t := by
  rw [← List.reverse_infix, List.reverse_append, List.reverse_append] at h
  have h' := infix_of_append_left h (by simpa using ha)
  rwa [← List.reverse_infix, List.reverse_append]

/-- **What begins with a letter that is not in the first of three texts, and ends with
one that is not in the third**, is in the second. -/
theorem infix_of_append {a b : α} {w l t r : List α} (h : a :: (w ++ [b]) <:+: l ++ (t ++ r))
    (ha : a ∉ l) (hb : b ∉ r) : a :: (w ++ [b]) <:+: t := by
  have hright := infix_of_append_left h ha
  rw [← List.cons_append] at hright ⊢
  exact infix_of_append_right hright hb

end Pattern
