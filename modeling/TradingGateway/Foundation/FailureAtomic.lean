import TradingGateway.Foundation.Runs
import TradingGateway.Foundation.Triples

/-! Calls that are all or nothing, and what a run of such calls keeps. -/

set_option autoImplicit false

namespace TradingGateway.Foundation.FailureAtomic

open Triples Runs

variable {State Call Error View : Type}
variable (perform : Call → Action State Error PUnit) (view : State → View) (took : Call → View → Prop)

/-- A failing call leaves what can be seen as it was, a passing one leaves its effect. -/
def AllOrNothing (call : Call) (state : State) : Prop :=
  match (perform call).outcome state with
  | (.ok _, after) => took call (view after)
  | (.error _, after) => view after = view state

def CallStep (allowed : Call → State → Prop) (first : State) (call : Call) (last : State) : Prop :=
  allowed call first ∧ ((perform call).outcome first).2 = last

variable {perform view took}

/-- What holds is lost by no failing call, as long as it can be seen, and passing
calls are asked for it alone. -/
theorem keeps_of_allOrNothing {allowed : Call → State → Prop} {invariant : State → Prop}
    (atomic : ∀ call state, invariant state → allowed call state → AllOrNothing perform view took call state)
    (seen : ∀ first last, view last = view first → invariant first → invariant last)
    (passes : ∀ call first last, invariant first → allowed call first →
      (perform call).outcome first = (.ok (), last) → invariant last)
    {first last : State} {calls : List Call} (run : Run (CallStep perform allowed) first calls last)
    (start : invariant first) : invariant last := by
  induction run with
  | nil => exact start
  | @cons first middle last call calls stepped _ ih =>
      apply ih
      obtain ⟨isAllowed, rfl⟩ := stepped
      have whole := atomic call first start isAllowed
      unfold AllOrNothing at whole
      cases ran : (perform call).outcome first with
      | mk result after =>
          rw [ran] at whole
          cases result with
          | error error => exact seen first after whole start
          | ok value => exact passes call first after start isAllowed ran

/-- Where a call sees all it depends on, one that failed can be made again as if for the first time. -/
theorem retry_of_allOrNothing {call again : Call} {state : State} {error : Error}
    (determined : ∀ left right, view left = view right →
      ((perform again).outcome left).1 = ((perform again).outcome right).1 ∧
        view ((perform again).outcome left).2 = view ((perform again).outcome right).2)
    (whole : AllOrNothing perform view took call state)
    (failed : ((perform call).outcome state).1 = .error error) :
    ((perform again).outcome ((perform call).outcome state).2).1 = ((perform again).outcome state).1 ∧
      view ((perform again).outcome ((perform call).outcome state).2).2 =
        view ((perform again).outcome state).2 := by
  apply determined
  unfold AllOrNothing at whole
  cases ran : (perform call).outcome state with
  | mk result after =>
      rw [ran] at whole failed
      subst failed
      exact whole

end TradingGateway.Foundation.FailureAtomic
