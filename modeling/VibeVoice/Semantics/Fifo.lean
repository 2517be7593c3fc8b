import Mathlib.Data.List.Nodup
import Mathlib.Tactic.Common

/-!
# First come, first served, with withdrawals

The abstract single server queue: customers arrive once, may withdraw while they
wait, and are served from the front.  The state remembers who arrived, who
withdrew and who was served, so that the service discipline is one equation,

    served ++ waiting = arrived, without those who withdrew

which says at once that nobody is served twice, that the order of service is the
order of arrival, and that nobody who has not withdrawn is passed over
(`Orderly.served_append_waiting`).

`Step.idxOf_le` is the other half of the story: somebody who is still waiting has
not moved back.
-/

/-- A single server queue, with its history. -/
structure Fifo (α : Type*) where
  /-- Everyone who arrived, in order of arrival. -/
  arrived : List α
  /-- Everyone who gave up while waiting. -/
  withdrawn : List α
  /-- Everyone who was served, in order of service. -/
  served : List α
  /-- Everyone who is waiting, front first. -/
  waiting : List α

namespace Fifo

variable {α : Type*} [DecidableEq α]

/-- The queue before anyone arrived. -/
def empty : Fifo α := ⟨[], [], [], []⟩

/-- What can happen to a queue. -/
inductive Step : Fifo α → Fifo α → Prop
  | arrive (q : Fifo α) (a : α) (h : a ∉ q.arrived) :
      Step q { q with arrived := q.arrived ++ [a], waiting := q.waiting ++ [a] }
  | withdraw (q : Fifo α) (a : α) (h : a ∈ q.waiting) :
      Step q { q with withdrawn := q.withdrawn ++ [a]
                      waiting := q.waiting.filter (fun b => b ≠ a) }
  | serve (q : Fifo α) (a : α) (rest : List α) (h : q.waiting = a :: rest) :
      Step q { q with served := q.served ++ [a], waiting := rest }

/-- **The service discipline.** -/
structure Orderly (q : Fifo α) : Prop where
  /-- Nobody arrives twice. -/
  arrived_nodup : q.arrived.Nodup
  /-- Only those who arrived withdraw. -/
  withdrawn_subset : ∀ a ∈ q.withdrawn, a ∈ q.arrived
  /-- Service is in order of arrival, and nobody is passed over. -/
  served_append_waiting :
    q.served ++ q.waiting = q.arrived.filter (fun a => a ∉ q.withdrawn)

theorem orderly_empty : Orderly (empty : Fifo α) :=
  ⟨List.nodup_nil, by simp [empty], rfl⟩

variable {q q' : Fifo α}

theorem Orderly.nodup (h : Orderly q) : (q.served ++ q.waiting).Nodup := by
  rw [h.served_append_waiting]
  exact h.arrived_nodup.filter _

theorem Orderly.served_nodup (h : Orderly q) : q.served.Nodup :=
  (List.nodup_append.mp h.nodup).1

theorem Orderly.waiting_nodup (h : Orderly q) : q.waiting.Nodup :=
  (List.nodup_append.mp h.nodup).2.1

theorem Orderly.waiting_subset (h : Orderly q) {a : α} (ha : a ∈ q.waiting) :
    a ∈ q.arrived := by
  have hmem : a ∈ q.served ++ q.waiting := List.mem_append_right _ ha
  rw [h.served_append_waiting] at hmem
  exact List.mem_of_mem_filter hmem

/-- **Every step keeps the discipline.** -/
theorem Step.orderly (hstep : Step q q') (h : Orderly q) : Orderly q' := by
  cases hstep with
  | arrive a ha =>
    have hw : a ∉ q.withdrawn := fun hw => ha (h.withdrawn_subset a hw)
    refine ⟨?_, ?_, ?_⟩
    · exact List.nodup_append.mpr ⟨h.arrived_nodup, List.nodup_singleton a, fun x hx y hy hxy =>
        ha (List.mem_singleton.mp hy ▸ hxy ▸ hx)⟩
    · exact fun b hb => List.mem_append_left _ (h.withdrawn_subset b hb)
    · show q.served ++ (q.waiting ++ [a]) = (q.arrived ++ [a]).filter _
      rw [← List.append_assoc, h.served_append_waiting, List.filter_append]
      simp [hw]
  | withdraw a ha =>
    have hs : a ∉ q.served := fun hs =>
      (List.nodup_append.mp h.nodup).2.2 a hs a ha rfl
    refine ⟨h.arrived_nodup, ?_, ?_⟩
    · intro b hb
      rcases List.mem_append.mp hb with hb | hb
      · exact h.withdrawn_subset b hb
      · rw [List.mem_singleton.mp hb]
        exact h.waiting_subset ha
    · show q.served ++ q.waiting.filter _ = q.arrived.filter _
      have hkeep : q.served.filter (fun b => b ≠ a) = q.served :=
        List.filter_eq_self.mpr fun b hb => by
          simpa using fun hba : b = a => hs (hba ▸ hb)
      calc q.served ++ q.waiting.filter (fun b => b ≠ a)
          = (q.served ++ q.waiting).filter (fun b => b ≠ a) := by
            rw [List.filter_append, hkeep]
        _ = (q.arrived.filter (fun b => b ∉ q.withdrawn)).filter (fun b => b ≠ a) := by
            rw [h.served_append_waiting]
        _ = q.arrived.filter (fun b => b ∉ q.withdrawn ++ [a]) := by
            rw [List.filter_filter]
            refine List.filter_congr fun b _ => ?_
            by_cases hb : b = a <;> by_cases hw : b ∈ q.withdrawn <;> simp [hb, hw]
  | serve a rest hq =>
    refine ⟨h.arrived_nodup, h.withdrawn_subset, ?_⟩
    show q.served ++ [a] ++ rest = _
    rw [← h.served_append_waiting, hq, List.append_assoc, List.singleton_append]

/-- Filtering does not move a surviving entry back. -/
theorem idxOf_filter_le {p : α → Bool} {a : α} (ha : p a = true) (l : List α) :
    (l.filter p).idxOf a ≤ l.idxOf a := by
  induction l with
  | nil => exact Nat.le_refl _
  | cons b l ih =>
    by_cases hba : b = a
    · rw [hba, List.filter_cons_of_pos ha, List.idxOf_cons_self]
      exact Nat.zero_le _
    · rw [List.idxOf_cons_ne l hba]
      by_cases hb : p b = true
      · rw [List.filter_cons_of_pos hb, List.idxOf_cons_ne _ hba]
        exact Nat.succ_le_succ ih
      · rw [List.filter_cons_of_neg hb]
        exact Nat.le_trans ih (Nat.le_succ _)

/-- How many entries of a kind stand before `a`, itself of that kind. -/
theorem countP_takeWhile_ne {p : α → Bool} {a : α} (ha : p a = true) (l : List α) :
    (l.takeWhile (fun b => b ≠ a)).countP p = (l.filter p).idxOf a := by
  induction l with
  | nil => rfl
  | cons b l ih =>
    by_cases hba : b = a
    · rw [hba, List.filter_cons_of_pos ha, List.idxOf_cons_self]
      simp
    · rw [List.takeWhile_cons_of_pos (by simpa using hba)]
      by_cases hb : p b = true
      · rw [List.countP_cons_of_pos hb, List.filter_cons_of_pos hb, List.idxOf_cons_ne _ hba, ih]
      · rw [List.countP_cons_of_neg hb, List.filter_cons_of_neg hb, ih]

/-- **Nobody who is still waiting moves back.** -/
theorem Step.idxOf_le (hstep : Step q q') (h : Orderly q) {a : α} (ha : a ∈ q.waiting)
    (ha' : a ∈ q'.waiting) : q'.waiting.idxOf a ≤ q.waiting.idxOf a := by
  cases hstep with
  | arrive b hb =>
    show (q.waiting ++ [b]).idxOf a ≤ _
    exact Nat.le_of_eq (List.idxOf_append_of_mem ha)
  | withdraw b hb =>
    have hab : a ≠ b := by simpa using (List.mem_filter.mp ha').2
    exact idxOf_filter_le (by simpa using hab) q.waiting
  | serve b rest hq =>
    show rest.idxOf a ≤ _
    rw [hq]
    by_cases hba : b = a
    · subst hba
      have hnd := h.waiting_nodup
      rw [hq] at hnd
      exact absurd ha' (List.nodup_cons.mp hnd).1
    · rw [List.idxOf_cons_ne rest hba]
      exact Nat.le_succ _

end Fifo
