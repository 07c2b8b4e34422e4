import Mathlib.Data.ENat.Lattice
import ScopeComposer.Proofs.Server.Classification
import ScopeComposer.Server.Fetch

/-!
# Retries

A fetch makes its call over and over as long as the server fails internally and retries are left. So
the number of its calls can be read off the outcomes alone: one for every internal failure that the
outcomes begin with, up to the number of retries, and one more. The last call is the one whose
result counts; every call before it was an internal failure.
-/

namespace ScopeComposer

variable {α : Type}

/-! ## Kinds of results -/

/-- A result that is an internal failure. -/
def IsInternal (result : Except Failure α) : Prop :=
  ∃ failure, result = .error failure ∧ failure.kind = .internal

theorem Run.isRetryable_iff {result : Except Failure α} :
    Run.isRetryable result = true ↔ IsInternal result := by
  cases result with
  | ok data => simp [isRetryable, IsInternal]
  | error failure => simp [isRetryable, IsInternal]

namespace Failure

end Failure

/-- What a run did that had retries left, given the results that its calls would have: it made some
of them. -/
structure Run.Made (run : Run α) (results : Nat → Except Failure α) (call : Call)
    (left retries : Nat) : Prop where
  /-- No more retries than were left. -/
  le_left : retries ≤ left
  /-- Each retry was due to an internal failure. -/
  internal : ∀ i < retries, IsInternal (results i)
  /-- With retries left, there was no internal failure at the end. -/
  finished : retries < left → ¬ IsInternal (results retries)
  /-- The same call for every retry, and once before. -/
  calls : run.calls = List.replicate (retries + 1) call
  /-- The result of the last call counts. -/
  result : run.result = results retries

namespace Run

/-- A run of one call. -/
theorem Made.single {run : Run α} {results : Nat → Except Failure α} {call : Call} {left : Nat}
    (hcalls : run.calls = [call]) (hresult : run.result = results 0)
    (h : 0 < left → ¬ IsInternal (results 0)) : run.Made results call left 0 where
  le_left := Nat.zero_le left
  internal := nofun
  finished := h
  calls := hcalls
  result := hresult

/-- A run with one more call before it, which ended with an internal failure. -/
theorem Made.step {run later : Run α} {results : Nat → Except Failure α} {call : Call}
    {left retries : Nat} (hcalls : run.calls = call :: later.calls)
    (hresult : run.result = later.result) (hfirst : IsInternal (results 0))
    (h : later.Made (fun i => results (i + 1)) call left retries) :
    run.Made results call (left + 1) (retries + 1) where
  le_left := Nat.succ_le_succ h.le_left
  internal := by
    intro i hi
    cases i with
    | zero => exact hfirst
    | succ i => exact h.internal i (Nat.lt_of_succ_lt_succ hi)
  finished := fun hlt => h.finished (Nat.lt_of_succ_lt_succ hlt)
  calls := by
    rw [hcalls, h.calls]
    rfl
  result := hresult.trans h.result

/-- What the loop does from any retry on; the induction is on the retries that are left. -/
theorem make_made (outcome : Nat → Except Failure α) (base : Duration) (call : Call)
    (left start : Nat) :
    (make outcome base call left start).Made (fun i => outcome (start + i)) call left
      (make outcome base call left start).waits.length := by
  induction left generalizing start with
  | zero => exact .single rfl rfl fun hleft => absurd hleft (Nat.lt_irrefl 0)
  | succ left ih =>
    unfold make
    split
    · next hretry =>
      have hlater := ih (start + 1)
      have hshift : (fun i => outcome (start + 1 + i)) = fun i => outcome (start + (i + 1)) := by
        funext i
        rw [Nat.add_assoc, Nat.add_comm 1 i]
      rw [hshift] at hlater
      exact hlater.step (by rfl) (by rfl) (isRetryable_iff.1 hretry)
    · next hretry => exact .single rfl rfl fun _ h => hretry (isRetryable_iff.2 h)

/-- What a whole run does, which starts with no retry made. -/
theorem make_made_zero (outcome : Nat → Except Failure α) (base : Duration) (call : Call)
    (left : Nat) : (make outcome base call left 0).Made outcome call left
      (make outcome base call left 0).waits.length := by
  simpa using make_made outcome base call left 0

end Run

/-! ## Fetches -/

end ScopeComposer
