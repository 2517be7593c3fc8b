import Mathlib.Tactic.Common

/-!
# Tasks, coroutines and the delivery of cancellation

An event loop runs one coroutine at a time, from one suspension to the next.
What a cancelled coroutine still does is decided in two places, and this file
keeps them apart.

**The task** decides what the coroutine is resumed with.  `cancel` on a task
that is not done leaves a mark; the next resumption consumes the mark and is a
`CancelledError`, whatever the awaited operation had to offer.  A task that
awaits another task hands the request down instead: `cancelAwaiting` marks the
inner task while that one is not done, and marks the outer task only when the
inner one has already ended and there is nothing left to forward to.

**The coroutine** decides what it does with the `CancelledError`.  The
coroutines of this file promise one thing about it: once it has been raised in
them they are *unwinding*, and an unwinding coroutine has only quiet effects
until it ends --- with whatever outcome it likes.

Together they give `Silenced`: from the moment `cancel` is called, no loud
effect of the task is seen again, however the steps are interleaved
(`silenced_cancel`, `silenced_advance`, `quiet_of_silenced`).
-/

/-- How a task ended. -/
inductive Outcome (ε : Type*) where
  | returned : Outcome ε
  | raised : ε → Outcome ε
  | cancelled : Outcome ε
  deriving DecidableEq, Repr

/-- What a suspended coroutine is resumed with: the result of the operation it
awaits, or a `CancelledError`. -/
inductive Resumption (ι : Type*) where
  | value : ι → Resumption ι
  | cancelled : Resumption ι
  deriving DecidableEq, Repr

/-- What a coroutine does at the end of a step: suspend again, or end. -/
inductive Progress (φ ε : Type*) where
  | await : φ → Progress φ ε
  | ended : Outcome ε → Progress φ ε

/-- A task: suspended in a frame, with or without a cancellation request still
to be delivered, or done. -/
inductive AsyncTask (φ ε : Type*) where
  | suspended (frame : φ) (cancelling : Bool) : AsyncTask φ ε
  | done : Outcome ε → AsyncTask φ ε

namespace AsyncTask

variable {φ ε : Type*}

/-- `Task.done()`. -/
def isDone : AsyncTask φ ε → Bool
  | suspended _ _ => false
  | done _ => true

/-- `Task.cancel()`: mark a task that is not done. -/
def cancel : AsyncTask φ ε → AsyncTask φ ε
  | suspended f _ => suspended f true
  | done o => done o

/-- `cancel()` on a task that awaits `inner`; `pending` is the mark on the outer
task itself.  The request is forwarded as long as there is someone to forward it
to. -/
def cancelAwaiting (inner : AsyncTask φ ε) (pending : Bool) : AsyncTask φ ε × Bool :=
  if inner.isDone then (inner, true) else (inner.cancel, pending)

/-- What the task awaiting `inner` is resumed with, once `inner` is done. -/
def seenBy (pending : Bool) : AsyncTask φ ε → Option (Outcome ε)
  | suspended _ _ => none
  | done o => some (if pending then Outcome.cancelled else o)

@[simp] theorem isDone_suspended (f : φ) (c : Bool) :
    (suspended f c : AsyncTask φ ε).isDone = false := rfl

@[simp] theorem isDone_done (o : Outcome ε) : (done o : AsyncTask φ ε).isDone = true := rfl

@[simp] theorem isDone_cancel (t : AsyncTask φ ε) : t.cancel.isDone = t.isDone := by
  cases t <;> rfl

theorem cancel_of_isDone {t : AsyncTask φ ε} (h : t.isDone = true) : t.cancel = t := by
  cases t with
  | suspended f c => exact absurd h (by simp)
  | done o => rfl

@[simp] theorem isDone_cancelAwaiting (t : AsyncTask φ ε) (pending : Bool) :
    (t.cancelAwaiting pending).1.isDone = t.isDone := by
  unfold cancelAwaiting
  split <;> simp

/-- The outer task is marked exactly when it was, or when there was nobody left
to forward the request to. -/
theorem cancelAwaiting_snd (t : AsyncTask φ ε) (pending : Bool) :
    (t.cancelAwaiting pending).2 = (t.isDone || pending) := by
  unfold cancelAwaiting
  cases t.isDone <;> simp

theorem cancelAwaiting_fst (t : AsyncTask φ ε) (pending : Bool) :
    (t.cancelAwaiting pending).1 = t.cancel := by
  unfold cancelAwaiting
  split
  · rename_i h
    exact (cancel_of_isDone h).symm
  · rfl

theorem seenBy_eq_some_iff {t : AsyncTask φ ε} {pending : Bool} {o : Outcome ε} :
    t.seenBy pending = some o ↔
      ∃ o', t = done o' ∧ o = if pending then Outcome.cancelled else o' := by
  cases t with
  | suspended f c => simp [seenBy]
  | done o' => simp [seenBy, eq_comm]

end AsyncTask

/-- **A coroutine that unwinds quietly.**  In one step it reads `ρ` and has a
list of effects `η`; `quiet` are the effects it may still have once a
`CancelledError` has been raised in it. -/
structure Coroutine (ρ η ε : Type) (quiet : η → Prop) where
  /-- The local state between two steps. -/
  Frame : Type
  /-- What the awaited operations hand back. -/
  Input : Type
  /-- The frame of a coroutine that has not taken its first step. -/
  start : Frame
  /-- One step, from a resumption to the next suspension. -/
  resume : Frame → Resumption Input → ρ → List η × Progress Frame ε
  /-- A `CancelledError` has been raised in this frame. -/
  unwinding : Frame → Bool
  /-- Nothing has been raised in a coroutine that has not taken a step. -/
  unwinding_start : unwinding start = false
  /-- The step that receives the `CancelledError` is quiet. -/
  quiet_of_cancelled : ∀ f r, ∀ e ∈ (resume f .cancelled r).1, quiet e
  /-- The step that receives the `CancelledError` leaves the coroutine unwinding. -/
  unwinding_of_cancelled : ∀ f r g, (resume f .cancelled r).2 = .await g → unwinding g = true
  /-- An unwinding coroutine is quiet. -/
  quiet_of_unwinding : ∀ f i r, unwinding f = true → ∀ e ∈ (resume f i r).1, quiet e
  /-- An unwinding coroutine goes on unwinding. -/
  unwinding_of_unwinding : ∀ f i r g, unwinding f = true →
    (resume f i r).2 = .await g → unwinding g = true

namespace Coroutine

variable {ρ η ε : Type} {quiet : η → Prop} (C : Coroutine ρ η ε quiet)

/-- No operation the coroutine awaits raises a `CancelledError` of its own: the
coroutine unwinds, and ends cancelled, only on request. -/
structure CancelledOnlyOnRequest : Prop where
  await : ∀ f i r g, C.unwinding f = false → (C.resume f (.value i) r).2 = .await g →
    C.unwinding g = false
  ended : ∀ f i r, C.unwinding f = false → (C.resume f (.value i) r).2 ≠ .ended .cancelled

/-- The task a step leaves behind. -/
def toTask : Progress C.Frame ε → AsyncTask C.Frame ε
  | .await f => .suspended f false
  | .ended o => .done o

/-- One step of a suspended task: the mark, if there is one, is delivered. -/
def advance (f : C.Frame) (cancelling : Bool) (i : C.Input) (r : ρ) :
    List η × AsyncTask C.Frame ε :=
  let step := C.resume f (if cancelling then .cancelled else .value i) r
  (step.1, C.toTask step.2)

/-- A task that has been asked to stop: it is done, unwinding, or about to be
resumed with a `CancelledError`. -/
def Silenced : AsyncTask C.Frame ε → Prop
  | .suspended f cancelling => cancelling = true ∨ C.unwinding f = true
  | .done _ => True

@[simp] theorem silenced_done (o : Outcome ε) : C.Silenced (.done o) := trivial

theorem silenced_cancel (t : AsyncTask C.Frame ε) : C.Silenced t.cancel := by
  cases t with
  | suspended f c => exact Or.inl rfl
  | done o => trivial

/-- **The effects of a silenced task are quiet.** -/
theorem quiet_of_silenced {f : C.Frame} {c : Bool} (h : C.Silenced (.suspended f c))
    (i : C.Input) (r : ρ) : ∀ e ∈ (C.advance f c i r).1, quiet e := by
  intro e he
  rcases h with rfl | hf
  · exact C.quiet_of_cancelled f r e he
  · exact C.quiet_of_unwinding f _ r hf e he

/-- **A silenced task stays silenced.** -/
theorem silenced_advance {f : C.Frame} {c : Bool} (h : C.Silenced (.suspended f c))
    (i : C.Input) (r : ρ) : C.Silenced (C.advance f c i r).2 := by
  have key : ∀ g, (C.resume f (if c then .cancelled else .value i) r).2 = .await g →
      C.unwinding g = true := by
    intro g hg
    rcases h with rfl | hf
    · exact C.unwinding_of_cancelled f r g hg
    · exact C.unwinding_of_unwinding f _ r g hf hg
  simp only [advance]
  cases hp : (C.resume f (if c then .cancelled else .value i) r).2 with
  | await g => exact Or.inr (key g hp)
  | ended o => trivial

/-- A coroutine that is cancelled only on request, and that nobody asked to stop,
does not start to unwind. -/
theorem CancelledOnlyOnRequest.not_silenced_advance (hC : C.CancelledOnlyOnRequest) {f : C.Frame}
    {c : Bool} (h : ¬ C.Silenced (.suspended f c)) (i : C.Input) (r : ρ) :
    (C.advance f c i r).2 ≠ .done .cancelled ∧
      ∀ g c', (C.advance f c i r).2 = .suspended g c' → ¬ C.Silenced (.suspended g c') := by
  simp only [Silenced, not_or, Bool.not_eq_true] at h
  obtain ⟨rfl, hf⟩ := h
  simp only [advance, Bool.false_eq_true, if_false]
  cases hp : (C.resume f (.value i) r).2 with
  | await g =>
    refine ⟨by simp [toTask], fun g' c' hg => ?_⟩
    simp only [toTask, AsyncTask.suspended.injEq] at hg
    obtain ⟨rfl, rfl⟩ := hg
    simp [Silenced, hC.await f i r g hf hp]
  | ended o =>
    refine ⟨?_, by simp [toTask]⟩
    simp only [toTask, ne_eq, AsyncTask.done.injEq]
    exact fun ho => hC.ended f i r hf (ho ▸ hp)

end Coroutine
