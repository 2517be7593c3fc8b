import Mathlib.Logic.Relation

/-!
# Programs among others

A program makes calls, one after the other, and what it calls next may depend on what came
back.  It is not alone: before a call, between two of them and after the last, others may
have acted on the same state.  What one of them can do in one go is a relation.

So a program does not have *a* run from a state, but runs (`Runs`), and a statement about it
is one about all of them.  A triple says what holds after a run if something held before
it.  It is found call by call, with one obligation more than for a program that is alone:
what is known between two calls must be `Stable`, that is, true after whatever the others
do.

* `Triple.attempt`, `Triple.lookThen`, `Triple.lookFails`: one call, which may change
  something, or only look at it.
* `Triple.bind`: one program after the other.
* `Triple.andThen`, `Triple.recover`: the same for programs that may fail, of which
  something is claimed if they do not.
-/

/-- A program that makes calls, each with a reply of its own type, and returns an `α`. -/
inductive Program (C : Type) (R : C → Type) (α : Type) where
  | done (a : α) : Program C R α
  | call (c : C) (k : R c → Program C R α) : Program C R α

namespace Program

variable {C : Type} {R : C → Type} {α β σ ε : Type}

/-- One program after the other. -/
def bind : Program C R α → (α → Program C R β) → Program C R β
  | .done a, f => f a
  | .call c k, f => .call c fun r => (k r).bind f

instance : Monad (Program C R) where
  pure := .done
  bind := bind

/-- A program that may fail. -/
def Fallible (C : Type) (R : C → Type) (ε α : Type) : Type := Program C R (Except ε α)

namespace Fallible

/-- What follows a result. -/
def branch (f : α → Fallible C R ε β) : Except ε α → Program C R (Except ε β)
  | .ok a => f a
  | .error e => .done (.error e)

/-- One after the other, unless the first one fails. -/
def andThen (m : Fallible C R ε α) (f : α → Fallible C R ε β) : Fallible C R ε β :=
  Program.bind m (branch f)

instance : Monad (Fallible C R ε) where
  pure a := .done (.ok a)
  bind := andThen

/-- Fail. -/
def fail (e : ε) : Fallible C R ε α := .done (.error e)

/-- Fail unless the condition holds. -/
def require (condition : Bool) (e : ε) : Fallible C R ε Unit :=
  if condition then pure () else fail e

/-- A call, with what its reply comes to. -/
def attempt (c : C) (result : R c → Except ε α) : Fallible C R ε α :=
  .call c fun r => .done (result r)

/-- With something to do if it fails. -/
def recover (m : Fallible C R ε α) (f : ε → Fallible C R ε α) : Fallible C R ε α :=
  Program.bind m fun
    | .ok a => .done (.ok a)
    | .error e => f e

end Fallible

open Fallible

/-! ## Runs -/

variable (exec : (c : C) → σ → R c × σ) (others : σ → σ → Prop)

/-- **A run**: `exec` is what a call does, `others` what the others may do in one go. -/
inductive Runs : Program C R α → σ → α → σ → Prop where
  | done {a : α} {s t : σ} (hothers : Relation.ReflTransGen others s t) : Runs (.done a) s a t
  | call {c : C} {k : R c → Program C R α} {s s' t : σ} {a : α}
      (hothers : Relation.ReflTransGen others s s')
      (hrest : Runs (k (exec c s').1) (exec c s').2 a t) : Runs (.call c k) s a t

/-- What the others cannot make false. -/
def Stable (P : σ → Prop) : Prop := ∀ s t, others s t → P s → P t

/-- **A triple**: after every run that began where `P` held, `Q` holds of what was returned. -/
def Triple (P : σ → Prop) (m : Program C R α) (Q : α → σ → Prop) : Prop :=
  ∀ s a t, P s → Runs exec others m s a t → Q a t

variable {exec others} {P P' : σ → Prop} {Q Q' : α → σ → Prop} {T : β → σ → Prop}
  {m : Program C R α} {s s' t : σ} {a : α}

theorem Stable.star (h : Stable others P) (hs : Relation.ReflTransGen others s t) (hP : P s) :
    P t := by
  induction hs with
  | refl => exact hP
  | tail _ hstep ih => exact h _ _ hstep ih

theorem Stable.and (h : Stable others P) (h' : Stable others P') :
    Stable others fun s => P s ∧ P' s :=
  fun s t hst hs => ⟨h s t hst hs.1, h' s t hst hs.2⟩

/-- **A run of two programs is a run of the one and a run of the other.** -/
theorem runs_bind {f : α → Program C R β} {b : β} (h : Runs exec others (m.bind f) s b t) :
    ∃ a s', Runs exec others m s a s' ∧ Runs exec others (f a) s' b t := by
  induction m generalizing s with
  | done a => exact ⟨a, s, .done .refl, h⟩
  | call c k ih =>
    cases h with
    | call hothers hrest =>
      obtain ⟨a, s', hm, hf⟩ := ih _ hrest
      exact ⟨a, s', .call hothers hm, hf⟩

/-- Every call of the program is one of those. -/
def Uses (S : C → Prop) : Program C R α → Prop
  | .done _ => True
  | .call c k => S c ∧ ∀ r, (k r).Uses S

theorem Uses.bind {S : C → Prop} {f : α → Program C R β} (hm : m.Uses S)
    (hf : ∀ a, (f a).Uses S) : (m.bind f).Uses S := by
  induction m with
  | done a => exact hf a
  | call c k ih => exact ⟨hm.1, fun r => ih r (hm.2 r)⟩

theorem Uses.ite {S : C → Prop} (b : Prop) [Decidable b] {m' : Program C R α} (hm : m.Uses S)
    (hm' : m'.Uses S) : (if b then m else m').Uses S := by
  split
  · exact hm
  · exact hm'

theorem Uses.andThen {S : C → Prop} {m : Fallible C R ε α} {f : α → Fallible C R ε β}
    (hm : Program.Uses S m) (hf : ∀ a, Program.Uses S (f a)) : Program.Uses S (m.andThen f) :=
  hm.bind fun
    | .ok a => hf a
    | .error _ => trivial

theorem Uses.recover {S : C → Prop} {m : Fallible C R ε α} {f : ε → Fallible C R ε α}
    (hm : Program.Uses S m) (hf : ∀ e, Program.Uses S (f e)) : Program.Uses S (m.recover f) :=
  hm.bind fun
    | .ok _ => trivial
    | .error e => hf e

/-! ## Triples -/

namespace Triple

theorem mono (h : Triple exec others P m Q) (hP : ∀ s, P' s → P s) (hQ : ∀ a s, Q a s → Q' a s) :
    Triple exec others P' m Q' :=
  fun s a t hs hrun => hQ a t (h s a t (hP s hs) hrun)

theorem done (hP : Stable others P) (h : ∀ s, P s → Q a s) : Triple exec others P (.done a) Q := by
  intro s b t hs hrun
  cases hrun with
  | done hothers => exact h t (hP.star hothers hs)

/-- **One program after the other.** -/
theorem bind {f : α → Program C R β} (hm : Triple exec others P m Q)
    (hf : ∀ a, Triple exec others (Q a) (f a) T) : Triple exec others P (m.bind f) T := by
  intro s b t hs hrun
  obtain ⟨a, s', hrun, hrest⟩ := runs_bind hrun
  exact hf a s' b t (hm s a s' hs hrun) hrest

/-- What is there before, if nothing the program calls takes it away. -/
theorem keeps {S : C → Prop} (hP : Stable others P)
    (hcalls : ∀ c, S c → ∀ s, P s → P (exec c s).2) (hm : m.Uses S) :
    Triple exec others P m fun _ => P := by
  intro s a t hs hrun
  induction hrun with
  | done hothers => exact hP.star hothers hs
  | call hothers _ ih => exact ih (hm.2 _) (hcalls _ hm.1 _ (hP.star hothers hs))

/-- What is claimed of a value, if there is one. -/
def IfOk (Q : α → σ → Prop) (r : Except ε α) (s : σ) : Prop := ∀ a, r = .ok a → Q a s

theorem stable_ifOk (h : ∀ a, Stable others (Q a)) (r : Except ε α) :
    Stable others (IfOk Q r) :=
  fun s t hst hs a ha => h a s t hst (hs a ha)

/-- A program that fails. -/
theorem fail (e : ε) : Triple exec others P (Fallible.fail e : Fallible C R ε α) (IfOk Q) := by
  intro s r t _ hrun
  cases hrun with
  | done => exact fun _ h => absurd h nofun

/-- **One call**: the others act before it and after it. -/
theorem attempt {c : C} {result : R c → Except ε α} (hP : Stable others P)
    (hQ : ∀ a, Stable others (Q a))
    (h : ∀ s, P s → ∀ a, result (exec c s).1 = .ok a → Q a (exec c s).2) :
    Triple exec others P (Fallible.attempt c result) (IfOk Q) := by
  intro s r t hs hrun
  cases hrun with
  | call hothers hrest =>
    cases hrest with
    | done hlast => exact fun a ha => (hQ a).star hlast (h _ (hP.star hothers hs) a ha)

theorem andThen {m : Fallible C R ε α} {f : α → Fallible C R ε β}
    (hm : Triple exec others P m (IfOk Q))
    (hf : ∀ a, Triple exec others (Q a) (f a) (IfOk T)) :
    Triple exec others P (m.andThen f) (IfOk T) := by
  intro s b t hs hrun
  obtain ⟨r, s', hfirst, hrest⟩ := runs_bind hrun
  have hr := hm s r s' hs hfirst
  cases r with
  | ok a => exact hf a s' b t (hr a rfl) hrest
  | error e =>
    cases hrest with
    | done => exact fun _ h => absurd h nofun

/-- What is done if a program fails must not make it succeed. -/
theorem recover {m : Fallible C R ε α} {f : ε → Fallible C R ε α}
    (hstable : ∀ a, Stable others (Q a)) (hm : Triple exec others P m (IfOk Q))
    (hf : ∀ e, Triple exec others (fun _ => True) (f e) (IfOk Q)) :
    Triple exec others P (m.recover f) (IfOk Q) := by
  intro s b t hs hrun
  obtain ⟨r, s', hfirst, hrest⟩ := runs_bind hrun
  cases r with
  | ok a =>
    cases hrest with
    | done hothers => exact (stable_ifOk hstable _).star hothers (hm s _ s' hs hfirst)
  | error e => exact hf e s' b t trivial hrest

/-- What is claimed of a value is something. -/
theorem ifOk_true {m : Fallible C R ε α} :
    Triple exec others P m (IfOk fun _ _ => True) := fun _ _ _ _ _ _ _ => trivial

/-- What is done next is known if what comes back is. -/
theorem andThen_of_eq {m : Fallible C R ε α} {f : α → Fallible C R ε β} {r : Except ε α}
    {S : Except ε β → σ → Prop} (hm : Triple exec others P m fun r' s => r' = r ∧ P' s)
    (hf : Triple exec others P' (branch f r) S) : Triple exec others P (m.andThen f) S := by
  refine Triple.bind hm fun r' s b t hs hrun => ?_
  obtain ⟨rfl, hs⟩ := hs
  exact hf s b t hs hrun

theorem required {condition : Bool} {e : ε} {S : Except ε Unit → σ → Prop}
    (hP : Stable others P) (h : condition = true) (hS : ∀ s, P s → S (.ok ()) s) :
    Triple exec others P (Fallible.require condition e) S := by
  subst h
  exact Triple.done hP hS

theorem requireThen {condition : Bool} {e : ε} {f : Unit → Fallible C R ε β}
    {S : Except ε β → σ → Prop} (h : condition = true) (hf : Triple exec others P (f ()) S) :
    Triple exec others P ((Fallible.require condition e).andThen f) S := by
  subst h
  exact hf

theorem requireFails {condition : Bool} {e : ε} {f : Unit → Fallible C R ε β}
    {S : Except ε β → σ → Prop} (hP : Stable others P) (h : condition = false)
    (hS : ∀ s, P s → S (.error e) s) :
    Triple exec others P ((Fallible.require condition e).andThen f) S := by
  subst h
  exact Triple.done hP hS

/-! ### Calls that only look

What comes back is known, and nothing has changed. -/

variable {c : C} {r : R c} {result : R c → Except ε α} {f : α → Fallible C R ε β}
  {S : Except ε β → σ → Prop}

theorem lookThen (hP : Stable others P) (hlook : ∀ s, P s → exec c s = (r, s))
    (hresult : result r = .ok a) (hf : Triple exec others P (f a) S) :
    Triple exec others P ((Fallible.attempt c result).andThen f) S := by
  intro s b t hs hrun
  cases hrun with
  | call hothers hrest =>
    have hs' := hP.star hothers hs
    rw [hlook _ hs'] at hrest
    have hbranch : Runs exec others (branch f (result r)) _ b t := hrest
    rw [hresult] at hbranch
    exact hf _ b t hs' hbranch

theorem lookFails {e : ε} (hP : Stable others P) (hlook : ∀ s, P s → exec c s = (r, s))
    (hresult : result r = .error e) (hS : ∀ s, P s → S (.error e) s) :
    Triple exec others P ((Fallible.attempt c result).andThen f) S := by
  intro s b t hs hrun
  cases hrun with
  | call hothers hrest =>
    have hs' := hP.star hothers hs
    rw [hlook _ hs'] at hrest
    have hbranch : Runs exec others (branch f (result r)) _ b t := hrest
    rw [hresult] at hbranch
    cases hbranch with
    | done hlast => exact hS t (hP.star hlast hs')

end Triple

/-! ## A program that is left alone -/

/-- What a program does if nobody else does anything. -/
def alone (exec : (c : C) → σ → R c × σ) : Program C R α → σ → α × σ
  | .done a, s => (a, s)
  | .call c k, s => alone exec (k (exec c s).1) (exec c s).2

/-- Being left alone is a run. -/
theorem runs_alone (m : Program C R α) (s : σ) :
    Runs exec others m s (alone exec m s).1 (alone exec m s).2 := by
  induction m generalizing s with
  | done a => exact .done .refl
  | call c k ih => exact .call .refl (ih _ _)

end Program
