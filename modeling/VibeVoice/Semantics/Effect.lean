import Mathlib.Tactic.Common

/-!
# Effects that last

A computation over a state that may fail.  What it did before it failed stays done: a
result is an error or a value, and in either case there is a state.  That is how a
program behaves that writes files and gives up when a call fails.

Two kinds of facts are proved of such a computation.  One holds however it ends, and
relates the state before to the state after (`Keeps`): what it does not touch, what it
never loses.  The other says what must have happened if it has a value
(`bind_eq_ok`).  Both go through a sequence one step at a time.
-/

/-- A computation over states `σ` that may fail with an `ε`. -/
def Effect (ε σ α : Type) : Type := σ → Except ε α × σ

namespace Effect

variable {ε σ α β : Type}

instance : Monad (Effect ε σ) where
  pure a s := (.ok a, s)
  bind m f s :=
    match m s with
    | (.ok a, t) => f a t
    | (.error e, t) => (.error e, t)

/-- Fail. -/
def throw (e : ε) : Effect ε σ α := fun s => (.error e, s)

/-- Fail unless the condition holds. -/
def require (condition : Bool) (e : ε) : Effect ε σ Unit :=
  if condition then pure () else throw e

/-- The state. -/
def get : Effect ε σ σ := fun s => (.ok s, s)

/-- A result that does not depend on the state. -/
def ofExcept (r : Except ε α) : Effect ε σ α := fun s => (r, s)

/-- Change the state, and fail if there is an error. -/
def change (f : σ → σ) (e : Option ε) : Effect ε σ Unit := fun s =>
  (match e with
    | none => .ok ()
    | some e => .error e, f s)

/-- The same with other errors. -/
def mapError {ε' : Type} (f : ε → ε') (m : Effect ε σ α) : Effect ε' σ α := fun s =>
  ((m s).1.mapError f, (m s).2)

/-- Catch some errors. -/
def attempt (catches : ε → Bool) (m : Effect ε σ Unit) : Effect ε σ (Option ε) := fun s =>
  match m s with
  | (.ok (), t) => (.ok none, t)
  | (.error e, t) => if catches e then (.ok (some e), t) else (.error e, t)

variable {m : Effect ε σ α} {f : α → Effect ε σ β} {s t u : σ} {a : α} {b : β}

theorem mapError_of_ok {ε' : Type} {g : ε → ε'} (h : m s = (.ok a, t)) :
    mapError g m s = (.ok a, t) := by
  rw [mapError, h]
  rfl

theorem attempt_of_ok {catches : ε → Bool} {m : Effect ε σ Unit} (h : m s = (.ok (), t)) :
    attempt catches m s = (.ok none, t) := by
  rw [attempt, h]

theorem bind_of_ok (h : m s = (.ok a, t)) : (m >>= f) s = f a t := by
  show (match m s with
    | (.ok a, t) => f a t
    | (.error e, t) => (.error e, t)) = f a t
  rw [h]

theorem bind_of_error {e : ε} (h : m s = (.error e, t)) : (m >>= f) s = (.error e, t) := by
  show (match m s with
    | (.ok a, t) => f a t
    | (.error e, t) => (.error e, t)) = (.error e, t)
  rw [h]

/-- **A sequence has a value if its steps have.** -/
theorem bind_eq_ok : (m >>= f) s = (.ok b, u) ↔
    ∃ a t, m s = (.ok a, t) ∧ f a t = (.ok b, u) := by
  constructor
  · intro h
    rcases hm : m s with ⟨e | a, t⟩
    · rw [bind_of_error hm] at h
      exact absurd (congrArg Prod.fst h) nofun
    · exact ⟨a, t, rfl, (bind_of_ok hm).symm.trans h⟩
  · rintro ⟨a, t, hm, hf⟩
    exact (bind_of_ok hm).trans hf

/-- A sequence fails in its first step or after it. -/
theorem bind_eq_error {e : ε} (h : (m >>= f) s = (.error e, u)) :
    m s = (.error e, u) ∨ ∃ a t, m s = (.ok a, t) ∧ f a t = (.error e, u) := by
  rcases hm : m s with ⟨e' | a, t⟩
  · rw [bind_of_error hm] at h
    obtain ⟨he, rfl⟩ := Prod.mk.inj h
    rw [Except.error.inj he]
    exact Or.inl rfl
  · exact Or.inr ⟨a, t, rfl, (bind_of_ok hm).symm.trans h⟩

theorem ofExcept_eq_ok {r : Except ε α} :
    (ofExcept r : Effect ε σ α) s = (.ok a, t) ↔ r = .ok a ∧ s = t := by
  simp [ofExcept]

theorem get_eq_ok {v : σ} : (get : Effect ε σ σ) s = (.ok v, t) ↔ s = v ∧ s = t := by
  simp [get]

theorem change_eq_ok {g : σ → σ} {e : Option ε} {x : Unit} :
    change g e s = (.ok x, t) ↔ e = none ∧ g s = t := by
  cases e <;> simp [change]

/-! ### First steps -/

theorem ofExcept_bind_eq_ok {x : Except ε α} :
    (ofExcept x >>= f) s = (.ok b, u) ↔ ∃ a, x = .ok a ∧ f a s = (.ok b, u) := by
  rw [bind_eq_ok]
  constructor
  · rintro ⟨a, t, hfirst, hf⟩
    obtain ⟨hx, rfl⟩ := ofExcept_eq_ok.mp hfirst
    exact ⟨a, hx, hf⟩
  · rintro ⟨a, hx, hf⟩
    exact ⟨a, s, ofExcept_eq_ok.mpr ⟨hx, rfl⟩, hf⟩

theorem require_bind_eq_ok {condition : Bool} {e : ε} {g : Unit → Effect ε σ β} :
    (require condition e >>= g) s = (.ok b, u) ↔ condition = true ∧ g () s = (.ok b, u) := by
  cases condition with
  | false => exact ⟨fun h => absurd (congrArg Prod.fst h) nofun, fun h => absurd h.1 nofun⟩
  | true => exact ⟨fun h => ⟨rfl, h⟩, fun h => h.2⟩

theorem get_bind {g : σ → Effect ε σ β} : (get >>= g) s = g s s := rfl

theorem change_bind_eq_ok {g : σ → σ} {e : Option ε} {k : Unit → Effect ε σ β} :
    (change g e >>= k) s = (.ok b, u) ↔ e = none ∧ k () (g s) = (.ok b, u) := by
  cases e with
  | none => exact ⟨fun h => ⟨rfl, h⟩, fun h => h.2⟩
  | some e => exact ⟨fun h => absurd (congrArg Prod.fst h) nofun, fun h => absurd h.1 nofun⟩

/-! ### Results without a state -/

theorem except_bind_eq_ok {x : Except ε α} {g : α → Except ε β} :
    (x >>= g) = .ok b ↔ ∃ a, x = .ok a ∧ g a = .ok b := by
  cases x with
  | error e => exact ⟨fun h => absurd h nofun, fun ⟨_, h, _⟩ => absurd h nofun⟩
  | ok a =>
    refine ⟨fun h => ⟨a, rfl, h⟩, ?_⟩
    rintro ⟨a', ha, h⟩
    rw [Except.ok.inj ha]
    exact h

/-! ## However it ends -/

/-- The state after is related to the state before. -/
def Keeps (r : σ → σ → Prop) (m : Effect ε σ α) : Prop := ∀ s, r s (m s).2

variable {r : σ → σ → Prop}

theorem Keeps.of_eq {x : Except ε α} (hm : Keeps r m) (h : m s = (x, t)) : r s t := by
  have hs := hm s
  rwa [h] at hs

theorem Keeps.pure (hrefl : ∀ s, r s s) : Keeps r (pure a : Effect ε σ α) := hrefl

theorem Keeps.throw (hrefl : ∀ s, r s s) {e : ε} : Keeps r (throw e : Effect ε σ α) := hrefl

theorem Keeps.require (hrefl : ∀ s, r s s) {condition : Bool} {e : ε} :
    Keeps r (require condition e : Effect ε σ Unit) := by
  cases condition <;> exact hrefl

theorem Keeps.get (hrefl : ∀ s, r s s) : Keeps r (get : Effect ε σ σ) := hrefl

theorem Keeps.ofExcept (hrefl : ∀ s, r s s) {x : Except ε α} :
    Keeps r (ofExcept x : Effect ε σ α) := hrefl

theorem Keeps.change {g : σ → σ} {e : Option ε} (h : ∀ s, r s (g s)) :
    Keeps r (change g e) := h

/-- **A sequence keeps what its steps keep.** -/
theorem Keeps.bind (htrans : ∀ s t u, r s t → r t u → r s u) (hm : Keeps r m)
    (hf : ∀ a, Keeps r (f a)) : Keeps r (m >>= f) := by
  intro s
  have hfirst := hm s
  rcases hs : m s with ⟨e | a, t⟩
  · rw [hs] at hfirst
    rw [bind_of_error hs]
    exact hfirst
  · rw [hs] at hfirst
    rw [bind_of_ok hs]
    exact htrans _ _ _ hfirst (hf a t)

end Effect
