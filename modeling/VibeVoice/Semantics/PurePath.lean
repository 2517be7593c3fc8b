import Mathlib.Data.List.TakeWhile
import Mathlib.Tactic.Common
import VibeVoice.Semantics.PyText

/-!
# The last component of a path

`PurePosixPath.name` and `PurePosixPath.suffix`, of a path that is given as a text, of
whatever letters.

A name is never a path with more to it: there is no slash in it (`slash_notMem_name`).
So the name of a name is the name (`name_of_notMem`), also if some of its letters are
replaced.
-/

namespace PurePath

open Letter (ofChar)

variable {α : Type} [DecidableEq α] [Letter α]

/-- The components of a path: what is between the slashes, but for nothing and `.`. -/
def components (path : List α) : List (List α) :=
  (path.splitOn (ofChar '/')).filter fun part => part ≠ [] ∧ part ≠ [ofChar '.']

/-- `PurePosixPath(path).name` -/
def name (path : List α) : List α := (components path).getLast?.getD []

/-- The last dot of a name and what is behind it, if something is in front of it and
something behind it. -/
def suffixOf (name : List α) : List α :=
  let extension := (name.reverse.takeWhile (· ≠ ofChar '.')).reverse
  let stem := (name.reverse.dropWhile (· ≠ ofChar '.')).tail
  if stem = [] ∨ extension = [] then [] else ofChar '.' :: extension

/-- `PurePosixPath(path).suffix` -/
def suffix (path : List α) : List α := suffixOf (name path)

/-! ## Names -/

/-- A text without a slash is its own name. -/
theorem name_of_notMem {t : List α} (hne : t ≠ []) (hdot : t ≠ [ofChar '.'])
    (hslash : ofChar '/' ∉ t) : name t = t := by
  rw [name, components, List.splitOn_eq_singleton hslash]
  simp [hne, hdot]

/-- There is no separator between two separators. -/
theorem notMem_of_mem_splitOn {β : Type*} [BEq β] [LawfulBEq β] {sep : β} {l part : List β}
    (hpart : part ∈ l.splitOn sep) : sep ∉ part := by
  induction l generalizing part with
  | nil =>
    rw [List.splitOn_nil, List.mem_singleton] at hpart
    rw [hpart]
    exact List.not_mem_nil
  | cons a l ih =>
    rw [List.splitOn_cons_eq_if_modifyHead] at hpart
    split at hpart
    · rcases List.mem_cons.mp hpart with rfl | hpart
      · exact List.not_mem_nil
      · exact ih hpart
    · rename_i ha
      obtain ⟨first, rest, hl⟩ := List.exists_cons_of_ne_nil (List.splitOn_ne_nil sep l)
      rw [hl, List.modifyHead_cons] at hpart
      rcases List.mem_cons.mp hpart with rfl | hpart
      · rw [List.mem_cons, not_or]
        exact ⟨fun heq => ha (beq_iff_eq.mpr heq.symm), ih (hl ▸ List.mem_cons_self)⟩
      · exact ih (hl ▸ List.mem_cons_of_mem first hpart)

/-- A name is a component. -/
theorem name_mem_components {path : List α} (h : name path ≠ []) :
    name path ∈ components path := by
  cases hlast : (components path).getLast? with
  | none => exact absurd (congrArg (·.getD []) hlast) h
  | some part =>
    have hname : name path = part := congrArg (·.getD []) hlast
    exact hname ▸ List.mem_of_getLast? hlast

/-- There is no slash in a name. -/
theorem slash_notMem_name (path : List α) : ofChar '/' ∉ name path := by
  intro hmem
  have hpart := name_mem_components (List.ne_nil_of_mem hmem)
  exact notMem_of_mem_splitOn (List.mem_filter.mp hpart).1 hmem

/-! ## Suffixes -/

/-- A name that is taken apart at its last dot. -/
theorem suffixOf_append {extension : List α} (hdot : ofChar '.' ∉ extension) (stem : List α) :
    suffixOf (stem ++ ofChar '.' :: extension) =
      if stem = [] ∨ extension = [] then [] else ofChar '.' :: extension := by
  have hrev : (stem ++ ofChar '.' :: extension).reverse =
      extension.reverse ++ ofChar '.' :: stem.reverse := by
    simp
  have hall : ∀ c ∈ extension.reverse, (decide (c ≠ ofChar '.')) = true := fun c hc =>
    decide_eq_true fun heq => hdot (heq ▸ List.mem_reverse.mp hc)
  rw [suffixOf, hrev]
  simp only [List.takeWhile_append_of_pos hall, List.dropWhile_append_of_pos hall]
  simp

/-- A name without a dot has no suffix. -/
theorem suffixOf_of_notMem {t : List α} (h : ofChar '.' ∉ t) : suffixOf t = [] := by
  have hall : ∀ c ∈ t.reverse, (decide (c ≠ ofChar '.')) = true := fun c hc =>
    decide_eq_true fun heq => h (heq ▸ List.mem_reverse.mp hc)
  rw [suffixOf, List.dropWhile_eq_nil_iff.mpr hall]
  exact if_pos (Or.inl rfl)

omit [DecidableEq α] in
/-- Where the last dot is. -/
theorem exists_last_dot {t : List α} (h : ofChar '.' ∈ t) :
    ∃ stem extension, t = stem ++ ofChar '.' :: extension ∧ ofChar '.' ∉ extension := by
  obtain ⟨behind, front, hsplit, hbehind⟩ :=
    List.eq_append_cons_of_mem (List.mem_reverse.mpr h)
  refine ⟨front.reverse, behind.reverse, ?_, fun hmem => hbehind (List.mem_reverse.mp hmem)⟩
  rw [← List.reverse_inj, hsplit]
  simp

/-- **What has a suffix**: a name that ends in it, after something else. -/
theorem suffixOf_eq_iff {extension : List α} (hne : extension ≠ []) (hdot : ofChar '.' ∉ extension)
    {t : List α} :
    suffixOf t = ofChar '.' :: extension ↔
      ∃ stem, stem ≠ [] ∧ t = stem ++ ofChar '.' :: extension := by
  constructor
  · intro h
    by_cases hmem : ofChar '.' ∈ t
    · obtain ⟨stem, last, rfl, hlast⟩ := exists_last_dot hmem
      rw [suffixOf_append hlast] at h
      split at h
      · cases h
      · rename_i hboth
        obtain ⟨-, rfl⟩ := List.cons.inj h
        exact ⟨stem, (not_or.mp hboth).1, rfl⟩
    · rw [suffixOf_of_notMem hmem] at h
      cases h
  · rintro ⟨stem, hstem, rfl⟩
    rw [suffixOf_append hdot, if_neg (not_or.mpr ⟨hstem, hne⟩)]

end PurePath
