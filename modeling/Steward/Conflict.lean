import Steward.Decimal.Shortest
import Steward.Service

/-! Conflicts of a pull request with its base. The service works them out in its own time, so it is
asked several times. -/

namespace Steward.Conflict

def standardAttempts : Int := 5

def standardDelay : Json := .real (.ofDecimal false 2 0)

def poll (repository : Repository) (number attempts : Int) (delay : Json) :
    (left : Nat) → Job Bool
  | 0 => do
      Job.info "Merge conflict check: mergeable never resolved after retries, assuming no conflicts"
      return false
  | left + 1 => do
      let pull ← Service.getPull repository number
      let mergeable ← pull.field "mergeable"
      if mergeable.isNull then
        if left ≠ 0 then
          Job.info ("Mergeable state not ready, waiting " ++ delay.display ++
            s!"s (attempt {attempts - left}/{attempts})")
          Job.pause delay
        poll repository number attempts delay left
      else
        let state ← pull.field "mergeable_state"
        Job.info ("Merge conflict check: mergeable=" ++ mergeable.display ++ ", state=" ++
          state.display)
        return !mergeable.isTrue

/-- Whether a pull request has conflicts. One that the service never settles counts as having
none. -/
def check (repository : Repository) (number attempts : Int) (delay : Json) : Job Bool :=
  poll repository number attempts delay attempts.toNat

end Steward.Conflict
