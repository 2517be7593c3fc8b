import Mathlib.Data.Nat.Notation
import Mathlib.Tactic.Common

/-!
# Job statuses and exceptions

`server/models.py`, as far as the queue uses it, and the two facts about a
Python exception that the queue looks at: its text and the name of its type.  A
request handler also tells exceptions apart by what `except` clauses they match.
-/

namespace VibeVoice

/-- `JobStatus`. -/
inductive JobStatus where
  | uploading
  | queued
  | processing
  | streaming
  | completed
  | failed
  | cancelled
  deriving DecidableEq, Repr

namespace JobStatus

/-- The value of the enumeration member. -/
def value : JobStatus → String
  | uploading => "uploading"
  | queued => "queued"
  | processing => "processing"
  | streaming => "streaming"
  | completed => "completed"
  | failed => "failed"
  | cancelled => "cancelled"

/-- The statuses `cancel` does not touch. -/
def isTerminal : JobStatus → Bool
  | completed | failed | cancelled => true
  | _ => false

/-- The statuses `_active_count` counts. -/
def isActive : JobStatus → Bool
  | uploading | queued | processing | streaming => true
  | _ => false

/-- The statuses of a job the worker is busy with. -/
def isRunning : JobStatus → Bool
  | processing | streaming => true
  | _ => false

/-- Active is not terminal: the two sets of the source are complementary. -/
theorem isActive_eq (s : JobStatus) : s.isActive = !s.isTerminal := by
  cases s <;> rfl

/-- Running jobs are not over. -/
theorem isTerminal_of_isRunning {s : JobStatus} (h : s.isRunning = true) :
    s.isTerminal = false := by
  cases s <;> simp_all [isRunning, isTerminal]

/-- How far along a job is.  The statuses only ever move up this scale. -/
def stage : JobStatus → ℕ
  | uploading => 0
  | queued => 1
  | processing | streaming => 2
  | completed | failed | cancelled => 3

theorem stage_le (s : JobStatus) : s.stage ≤ 3 := by
  cases s <;> decide

theorem stage_eq_zero {s : JobStatus} : s.stage = 0 ↔ s = .uploading := by
  cases s <;> decide

theorem stage_eq_one {s : JobStatus} : s.stage = 1 ↔ s = .queued := by
  cases s <;> decide

theorem stage_eq_two {s : JobStatus} : s.stage = 2 ↔ s.isRunning = true := by
  cases s <;> decide

theorem stage_eq_three {s : JobStatus} : s.stage = 3 ↔ s.isTerminal = true := by
  cases s <;> decide

end JobStatus

/-- A Python exception: the name of its type and its text. -/
structure PyException where
  /-- `type(exc).__name__` -/
  typeName : String
  /-- `str(exc)` -/
  text : String
  deriving DecidableEq, Repr

/-- `str(exc) or type(exc).__name__`. -/
def PyException.describe (exc : PyException) : String :=
  if exc.text = "" then exc.typeName else exc.text

/-- What a request handler can be left with, other than a result. -/
inductive RequestError where
  /-- `HTTPException` -/
  | http (statusCode : ℕ) (detail : String) : RequestError
  /-- `OSError` -/
  | osError (exc : PyException) : RequestError
  /-- `ValueError` -/
  | valueError (exc : PyException) : RequestError
  /-- Another `Exception`. -/
  | other (exc : PyException) : RequestError
  /-- `CancelledError` -/
  | cancelled : RequestError
  deriving DecidableEq, Repr

end VibeVoice
