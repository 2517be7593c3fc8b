import Mathlib.Logic.Relation

/-!
# Labelled transition systems with guarded runs

A system is an initial condition and a partial step function.  Everything that
is not determined by the state --- which party moves, what the environment hands
it --- is in the label, so the step itself is a function and a run can be
evaluated.

What is particular here is the *guard*.  A statement about "every run whose
steps all meet a condition" is a statement about the system restricted to the
steps that meet it, so the condition `P : σ → ℓ → Prop` is a parameter of the
reachability predicate and not a separate hypothesis about a list of states.
The unrestricted system is the one with the guard `Always`.

* `ReachableWhen.induction`: an invariant that holds initially and is kept by
  every guarded step holds in every state reached.
* `RunWhen.stable`, `RunWhen.relates`: the two run lemmas --- a stable property,
  and a reflexive transitive relation between the ends of a run.
* `reachable_of_exec`, `reachableWhen_of_execWhen`: a run that was evaluated is a run.
* `joined`: a system together with a party that takes steps of its own and acts
  on the system only through the system's steps.
-/

/-- A transition system: which states are initial, and what a label does. -/
structure TransitionSystem (σ ℓ : Type*) where
  /-- The initial states. -/
  init : σ → Prop
  /-- The step a label takes, when it can be taken. -/
  step : σ → ℓ → Option σ

namespace TransitionSystem

variable {σ ℓ : Type*}

/-- The guard that lets every step through. -/
def Always : σ → ℓ → Prop := fun _ _ => True

/-- A step taken in a state where the guard allows it. -/
def StepWhen (T : TransitionSystem σ ℓ) (P : σ → ℓ → Prop) (s t : σ) : Prop :=
  ∃ a, P s a ∧ T.step s a = some t

/-- A finite run of guarded steps. -/
def RunWhen (T : TransitionSystem σ ℓ) (P : σ → ℓ → Prop) : σ → σ → Prop :=
  Relation.ReflTransGen (T.StepWhen P)

/-- The states reached by guarded runs from an initial state. -/
def ReachableWhen (T : TransitionSystem σ ℓ) (P : σ → ℓ → Prop) (s : σ) : Prop :=
  ∃ s₀, T.init s₀ ∧ T.RunWhen P s₀ s

/-- The reachable states. -/
abbrev Reachable (T : TransitionSystem σ ℓ) : σ → Prop := T.ReachableWhen Always

/-- A finite run. -/
abbrev Run (T : TransitionSystem σ ℓ) : σ → σ → Prop := T.RunWhen Always

variable {T : TransitionSystem σ ℓ}
variable {P Q : σ → ℓ → Prop} {s t u : σ}

/-! ## Building runs -/

theorem StepWhen.mono (hPQ : ∀ s a, P s a → Q s a) (h : T.StepWhen P s t) :
    T.StepWhen Q s t := by
  obtain ⟨a, ha, hst⟩ := h
  exact ⟨a, hPQ s a ha, hst⟩

/-- Weakening the guard keeps the runs. -/
theorem RunWhen.mono (hPQ : ∀ s a, P s a → Q s a) (h : T.RunWhen P s t) :
    T.RunWhen Q s t :=
  Relation.ReflTransGen.mono (fun _ _ hst => StepWhen.mono hPQ hst) _ _ h

theorem ReachableWhen.mono (hPQ : ∀ s a, P s a → Q s a) (h : T.ReachableWhen P s) :
    T.ReachableWhen Q s := by
  obtain ⟨s₀, h₀, hrun⟩ := h
  exact ⟨s₀, h₀, hrun.mono hPQ⟩

/-- A guarded reachable state is reachable. -/
theorem ReachableWhen.reachable (h : T.ReachableWhen P s) : T.Reachable s :=
  h.mono fun _ _ _ => trivial

theorem ReachableWhen.of_init (h : T.init s) : T.ReachableWhen P s :=
  ⟨s, h, Relation.ReflTransGen.refl⟩

theorem ReachableWhen.tail {a : ℓ} (h : T.ReachableWhen P s) (ha : P s a)
    (hst : T.step s a = some t) : T.ReachableWhen P t := by
  obtain ⟨s₀, h₀, hrun⟩ := h
  exact ⟨s₀, h₀, hrun.tail ⟨a, ha, hst⟩⟩

theorem ReachableWhen.run (h : T.ReachableWhen P s) (hrun : T.RunWhen P s t) :
    T.ReachableWhen P t := by
  obtain ⟨s₀, h₀, hrun₀⟩ := h
  exact ⟨s₀, h₀, hrun₀.trans hrun⟩

/-! ## The induction rules -/

/-- **Invariants.**  What holds initially and is kept by every guarded step out
of a reachable state holds in every state reached. -/
theorem ReachableWhen.induction (I : σ → Prop) (hinit : ∀ s, T.init s → I s)
    (hstep : ∀ s a t, T.ReachableWhen P s → I s → P s a → T.step s a = some t → I t)
    (h : T.ReachableWhen P s) : I s := by
  obtain ⟨s₀, h₀, hrun⟩ := h
  induction hrun with
  | refl => exact hinit s₀ h₀
  | tail hrun hst ih =>
    obtain ⟨a, ha, hst⟩ := hst
    exact hstep _ a _ ⟨s₀, h₀, hrun⟩ ih ha hst

/-- **Relations along a run.**  A reflexive and transitive relation that holds
across every guarded step out of a reachable state holds between the two ends of
a run. -/
theorem RunWhen.relates (R : σ → σ → Prop) (hrefl : ∀ s, R s s)
    (htrans : ∀ s t u, R s t → R t u → R s u)
    (hstep : ∀ s a t, T.ReachableWhen P s → P s a → T.step s a = some t → R s t)
    (hs : T.ReachableWhen P s) (h : T.RunWhen P s t) : R s t := by
  induction h with
  | refl => exact hrefl s
  | tail hrun hst ih =>
    obtain ⟨a, ha, hst⟩ := hst
    exact htrans _ _ _ ih (hstep _ a _ (hs.run hrun) ha hst)

/-- **Stable properties.**  A property kept by every guarded step out of a
reachable state is kept by a run. -/
theorem RunWhen.stable (I : σ → Prop)
    (hstep : ∀ s a t, T.ReachableWhen P s → I s → P s a → T.step s a = some t → I t)
    (hs : T.ReachableWhen P s) (h : T.RunWhen P s t) (hI : I s) : I t :=
  RunWhen.relates (fun s t => I s → I t) (fun _ => id) (fun _ _ _ h₁ h₂ h => h₂ (h₁ h))
    (fun s a t hs ha hst hI => hstep s a t hs hI ha hst) hs h hI

/-! ## Evaluated runs -/

/-- Run a list of labels, with the guard checked at each step. -/
def execWhen (T : TransitionSystem σ ℓ) (P : σ → ℓ → Prop) [∀ s a, Decidable (P s a)] :
    σ → List ℓ → Option σ
  | s, [] => some s
  | s, a :: w => if P s a then (T.step s a).bind fun t => T.execWhen P t w else none

/-- Run a list of labels. -/
def exec (T : TransitionSystem σ ℓ) : σ → List ℓ → Option σ
  | s, [] => some s
  | s, a :: w => (T.step s a).bind fun t => T.exec t w

/-- A guarded run that was evaluated is a guarded run. -/
theorem runWhen_of_execWhen [∀ s a, Decidable (P s a)] (w : List ℓ)
    (h : T.execWhen P s w = some t) : T.RunWhen P s t := by
  induction w generalizing s with
  | nil =>
    rw [execWhen, Option.some_inj] at h
    rw [h]
    exact Relation.ReflTransGen.refl
  | cons a w ih =>
    rw [execWhen] at h
    split at h
    · rename_i ha
      rw [Option.bind_eq_some_iff] at h
      obtain ⟨u, hsu, hut⟩ := h
      exact Relation.ReflTransGen.head ⟨a, ha, hsu⟩ (ih hut)
    · exact absurd h (by simp)

/-- A run that was evaluated is a run. -/
theorem run_of_exec (w : List ℓ) (h : T.exec s w = some t) : T.Run s t := by
  induction w generalizing s with
  | nil =>
    rw [exec, Option.some_inj] at h
    rw [h]
    exact Relation.ReflTransGen.refl
  | cons a w ih =>
    rw [exec, Option.bind_eq_some_iff] at h
    obtain ⟨u, hsu, hut⟩ := h
    exact Relation.ReflTransGen.head ⟨a, trivial, hsu⟩ (ih hut)

theorem reachable_of_exec (w : List ℓ) (hs : T.init s) (h : T.exec s w = some t) :
    T.Reachable t :=
  ⟨s, hs, run_of_exec w h⟩

theorem reachableWhen_of_execWhen [∀ s a, Decidable (P s a)] (w : List ℓ) (hs : T.init s)
    (h : T.execWhen P s w = some t) : T.ReachableWhen P t :=
  ⟨s, hs, runWhen_of_execWhen w h⟩

/-! ## A system and a party -/

/-- A party next to a system it does not own: it moves on its own labels, and it
may keep the others from some of the labels of the system. -/
structure Party (σ ℓ : Type) where
  State : Type
  Label : Type
  init : State → Prop
  /-- What the others may do while the party is in this state. -/
  allows : State → ℓ → Bool
  /-- A step of the party, and what it does to the system. -/
  step : σ → State → Label → Option (σ × State)

section Joined

variable {σ ℓ : Type}

/-- **The system with the party**, interleaved. -/
def joined (T : TransitionSystem σ ℓ) (A : Party σ ℓ) :
    TransitionSystem (σ × A.State) (ℓ ⊕ A.Label) where
  init c := T.init c.1 ∧ A.init c.2
  step
    | (s, k), .inl a => if A.allows k a then (T.step s a).map fun t => (t, k) else none
    | (s, k), .inr i => A.step s k i

variable {T : TransitionSystem σ ℓ} {A : Party σ ℓ}
variable {G : σ × A.State → ℓ ⊕ A.Label → Prop} {P : σ → ℓ → Prop}

/-- A step of the others. -/
theorem joined_step_inl {s : σ} {k : A.State} {a : ℓ} {c : σ × A.State}
    (h : (T.joined A).step (s, k) (.inl a) = some c) :
    A.allows k a = true ∧ ∃ t, T.step s a = some t ∧ c = (t, k) := by
  simp only [joined] at h
  split at h
  · rename_i hallow
    obtain ⟨t, ht, rfl⟩ := Option.map_eq_some_iff.mp h
    exact ⟨hallow, t, ht, rfl⟩
  · exact absurd h (by simp)

/-- **What holds of every run of the system holds next to the party**, if the party
acts on the system by runs of it. -/
theorem ReachableWhen.of_joined
    (hothers : ∀ s k a, G (s, k) (.inl a) → P s a)
    (hparty : ∀ s k i t k', T.ReachableWhen P s → G (s, k) (.inr i) →
      A.step s k i = some (t, k') → T.RunWhen P s t)
    {c : σ × A.State} (h : (T.joined A).ReachableWhen G c) : T.ReachableWhen P c.1 := by
  have key : (T.joined A).ReachableWhen G c ∧ T.ReachableWhen P c.1 := by
    refine h.induction (fun c => (T.joined A).ReachableWhen G c ∧ T.ReachableWhen P c.1) ?_ ?_
    · exact fun c hc => ⟨ReachableWhen.of_init hc, ReachableWhen.of_init hc.1⟩
    · rintro ⟨s, k⟩ a c hs ⟨-, ih⟩ hG hst
      refine ⟨hs.tail hG hst, ?_⟩
      cases a with
      | inl a =>
        obtain ⟨-, t, ht, rfl⟩ := joined_step_inl hst
        exact ih.tail (hothers s k a hG) ht
      | inr i => exact ih.run (hparty s k i c.1 c.2 ih hG hst)
  exact key.2

end Joined

end TransitionSystem
