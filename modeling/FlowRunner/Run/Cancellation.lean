import FlowRunner.Value.Basic

/-!
This module contains the requests to cancel executions.
-/

namespace FlowRunner

/-- The ids that are asked to stop, each once. An execution has a text as its id. -/
structure Cancellations where
  requested : List Key := []
  deriving Repr, DecidableEq, Inhabited

namespace Cancellations

def isRequested (c : Cancellations) (id : Key) : Bool :=
  c.requested.any fun other => Key.same other id

def request (c : Cancellations) (id : Key) : Cancellations :=
  if c.isRequested id then c else ⟨c.requested ++ [id]⟩

def contains (c : Cancellations) (id : Value) : Bool :=
  match id with
  | .str id => c.isRequested id
  | _ => false

def discard (c : Cancellations) (id : Key) : Cancellations :=
  ⟨c.requested.filter fun other => !Key.same other id⟩

def size (c : Cancellations) : Nat :=
  c.requested.length

theorem isRequested_str_iff (c : Cancellations) (id : String) :
    c.isRequested (.str id) = true ↔ .str id ∈ c.requested := by
  simp [isRequested, Key.same_str_iff]

theorem isRequested_request (c : Cancellations) (id other : String) :
    (c.request id).isRequested other = (other == id || c.isRequested other) := by
  rw [Bool.eq_iff_iff]
  unfold request
  split
  · next h =>
    rw [isRequested_str_iff] at h
    by_cases same : other = id
    · subst same
      simpa [isRequested_str_iff] using h
    · simp [same]
  · simp [isRequested_str_iff, or_comm]

theorem isRequested_discard (c : Cancellations) (id other : String) :
    (c.discard id).isRequested other = (other != id && c.isRequested other) := by
  rw [Bool.eq_iff_iff]
  unfold discard
  simp only [isRequested_str_iff, List.mem_filter, Key.same_str, Bool.and_eq_true]
  simp [bne, and_comm]

def stopMessage (id : String) : String :=
  "Execution " ++ id ++ " was cancelled"

end Cancellations

end FlowRunner
