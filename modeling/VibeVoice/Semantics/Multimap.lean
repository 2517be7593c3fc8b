import Mathlib.Data.List.Basic
import Mathlib.Tactic.Common

/-!
# Multimaps

A multimap as the list of its pairs.  The order of the values of one key matters,
the order of the keys does not: everything that is said here is said about
`getAll`, the values of one key in order.

`insert` is the operation that replaces: it removes every value the key had.  So
after an `insert` the key has one value, whatever the map was before
(`getAll_insert_self`), and that is what makes a map safe that was copied from
somebody else.
-/

/-- A multimap. -/
structure Multimap (κ ν : Type*) where
  /-- The pairs. -/
  entries : List (κ × ν)
  deriving DecidableEq

namespace Multimap

variable {κ ν : Type*} [DecidableEq κ]

/-- Nothing in it. -/
def empty : Multimap κ ν := ⟨[]⟩

/-- The values of a key, in order. -/
def getAll (m : Multimap κ ν) (k : κ) : List ν :=
  (m.entries.filter fun e => e.1 = k).map Prod.snd

/-- The first value of a key. -/
def get (m : Multimap κ ν) (k : κ) : Option ν := (m.getAll k).head?

/-- The key has a value. -/
def containsKey (m : Multimap κ ν) (k : κ) : Bool := m.entries.any fun e => e.1 = k

/-- One more value, after the others. -/
def append (m : Multimap κ ν) (k : κ) (v : ν) : Multimap κ ν := ⟨m.entries ++ [(k, v)]⟩

/-- Every value of the key, removed. -/
def remove (m : Multimap κ ν) (k : κ) : Multimap κ ν :=
  ⟨m.entries.filter fun e => e.1 ≠ k⟩

/-- One value, in the place of all that were there. -/
def insert (m : Multimap κ ν) (k : κ) (v : ν) : Multimap κ ν := (m.remove k).append k v

/-- Append the pairs of another map, those that are wanted, one after the other. -/
def extendWhere (m other : Multimap κ ν) (keep : κ → Bool) : Multimap κ ν :=
  other.entries.foldl (fun m e => if keep e.1 then m.append e.1 e.2 else m) m

variable {m other : Multimap κ ν} {k l : κ} {v : ν}

@[simp] theorem getAll_empty : (empty : Multimap κ ν).getAll k = [] := rfl

theorem getAll_append : (m.append k v).getAll l = m.getAll l ++ if k = l then [v] else [] := by
  unfold getAll append
  rw [List.filter_append, List.map_append]
  by_cases h : k = l <;> simp [h]

@[simp] theorem getAll_append_of_ne (h : k ≠ l) : (m.append k v).getAll l = m.getAll l := by
  rw [getAll_append, if_neg h, List.append_nil]

@[simp] theorem getAll_remove_self : (m.remove k).getAll k = [] := by
  simp [getAll, remove]

@[simp] theorem getAll_remove_of_ne (h : k ≠ l) : (m.remove k).getAll l = m.getAll l := by
  unfold getAll remove
  rw [List.filter_filter]
  congr 1
  refine List.filter_congr fun e _ => ?_
  by_cases he : e.1 = l
  · simp [he, Ne.symm h]
  · simp [he]

/-- **After `insert` there is one value.** -/
@[simp] theorem getAll_insert_self : (m.insert k v).getAll k = [v] := by
  rw [insert, getAll_append, getAll_remove_self, if_pos rfl, List.nil_append]

@[simp] theorem getAll_insert_of_ne (h : k ≠ l) : (m.insert k v).getAll l = m.getAll l := by
  rw [insert, getAll_append_of_ne h, getAll_remove_of_ne h]

/-- Another key may be removed first. -/
theorem remove_insert_of_ne (h : k ≠ l) : (m.insert k v).remove l = (m.remove l).insert k v := by
  simp only [insert, remove, append, List.filter_append, List.filter_filter]
  congr 2
  · exact List.filter_congr fun e _ => Bool.and_comm _ _
  · simp [h]

omit [DecidableEq κ] in
/-- What is copied are the pairs that are wanted, in order. -/
theorem entries_extendWhere (keep : κ → Bool) :
    (m.extendWhere other keep).entries = m.entries ++ other.entries.filter fun e => keep e.1 := by
  unfold extendWhere
  induction other.entries generalizing m with
  | nil => simp
  | cons e es ih =>
    rw [List.foldl_cons, ih]
    cases h : keep e.1 with
    | true => simp [h, append]
    | false => simp [h]

/-- What is not wanted is not copied. -/
theorem getAll_extendWhere_of_not {keep : κ → Bool} (h : keep k = false) :
    (m.extendWhere other keep).getAll k = m.getAll k := by
  unfold getAll
  rw [entries_extendWhere, List.filter_append, List.filter_filter]
  have hnone : (other.entries.filter fun e => decide (e.1 = k) && keep e.1) = [] := by
    refine List.filter_eq_nil_iff.mpr fun e _ => ?_
    by_cases he : e.1 = k
    · simp [he, h]
    · simp [he]
  rw [hnone, List.append_nil]

/-- What is wanted is copied. -/
theorem getAll_extendWhere_of_keep {keep : κ → Bool} (h : keep k = true) :
    (m.extendWhere other keep).getAll k = m.getAll k ++ other.getAll k := by
  unfold getAll
  rw [entries_extendWhere, List.filter_append, List.filter_filter, List.map_append]
  have hsame : (other.entries.filter fun e => decide (e.1 = k) && keep e.1) =
      other.entries.filter fun e => decide (e.1 = k) := by
    refine List.filter_congr fun e _ => ?_
    by_cases he : e.1 = k
    · simp [he, h]
    · simp [he]
  rw [hsame]

/-- A key that is not inserted keeps what it has. -/
theorem getAll_foldl_insert_of_notMem {l : List (κ × ν)} (h : k ∉ l.map Prod.fst) :
    (l.foldl (fun m e => m.insert e.1 e.2) m).getAll k = m.getAll k := by
  induction l generalizing m with
  | nil => rfl
  | cons e l ih =>
    rw [List.map_cons, List.mem_cons, not_or] at h
    rw [List.foldl_cons, ih h.2, getAll_insert_of_ne (Ne.symm h.1)]

/-- **Pairs that are inserted one after the other are there**, each key once. -/
theorem getAll_foldl_insert_of_mem {l : List (κ × ν)} (hnodup : (l.map Prod.fst).Nodup)
    {e : κ × ν} (he : e ∈ l) : (l.foldl (fun m e => m.insert e.1 e.2) m).getAll e.1 = [e.2] := by
  induction l generalizing m with
  | nil => exact absurd he List.not_mem_nil
  | cons first l ih =>
    obtain ⟨hfirst, hrest⟩ := List.nodup_cons.mp hnodup
    rw [List.foldl_cons]
    rcases List.mem_cons.mp he with rfl | he
    · rw [getAll_foldl_insert_of_notMem hfirst, getAll_insert_self]
    · exact ih hrest he

end Multimap
