import Mathlib.Tactic.Common

/-!
# Results of code that may panic

A call returns a value, returns an error, or panics.  A panic ends the program,
so nothing is said about the state after it.
-/

namespace GvSwitch.Foundation

inductive Outcome (ε α : Type) where
  | ok (value : α)
  | error (reason : ε)
  | panic
  deriving DecidableEq, Repr

namespace Outcome

variable {ε α β : Type}

protected def bind (outcome : Outcome ε α) (next : α → Outcome ε β) : Outcome ε β :=
  match outcome with
  | .ok value => next value
  | .error reason => .error reason
  | .panic => .panic

instance : Monad (Outcome ε) where
  pure := .ok
  bind := Outcome.bind

@[simp] theorem pure_eq_ok (value : α) : (pure value : Outcome ε α) = .ok value := rfl

@[simp] theorem bind_ok (value : α) (next : α → Outcome ε β) :
    (Outcome.ok value >>= next : Outcome ε β) = next value := rfl

@[simp] theorem bind_error (reason : ε) (next : α → Outcome ε β) :
    (Outcome.error reason >>= next : Outcome ε β) = .error reason := rfl

@[simp] theorem bind_panic (next : α → Outcome ε β) :
    (Outcome.panic >>= next : Outcome ε β) = .panic := rfl

theorem bind_eq_ok_iff {outcome : Outcome ε α} {next : α → Outcome ε β} {value : β} :
    (outcome >>= next : Outcome ε β) = .ok value ↔
      ∃ first, outcome = .ok first ∧ next first = .ok value := by
  cases outcome <;> simp

end Outcome

end GvSwitch.Foundation
