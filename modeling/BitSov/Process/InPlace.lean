import Mathlib.Control.Monad.Basic

namespace Process

/-!
# Calls that write in place

A method with a mutable receiver may fail after it has written to it.  Such a
call is compared with a function that returns the next state only if it
succeeds: where the two agree, a failed call has left its state alone.
-/

/-- A call that writes to its state in place: what it has written stays when it fails. -/
abbrev InPlace (Error State : Type) := ExceptT Error (StateM State)

namespace InPlace

variable {Error State Result : Type}

/-- A result and the state to go on with: after a failure, the old one. -/
def landed (state : State) : Except Error (Result × State) → Except Error Result × State
  | .error error => (.error error, state)
  | .ok (result, next) => (.ok result, next)

theorem run_get_bind (call state) :
    (get >>= call : InPlace Error State Result).run.run state = (call state).run.run state := rfl

theorem run_ofExcept_ok_bind {Value : Type} (value)
    (call : Value → InPlace Error State Result) (state) :
    (MonadExcept.ofExcept (.ok value) >>= call : InPlace Error State Result).run.run state =
      (call value).run.run state := rfl

variable {state : State}

/-- A check before the rest of a call leaves the state alone. -/
theorem run_check_bind {Value Next : Type} {check : Except Error Value}
    {call : Value → InPlace Error State Result} {rest : Value → Except Error Next}
    {next : Next → Result × State}
    (continues : ∀ value, (call value).run.run state = landed state ((rest value).map next)) :
    (MonadExcept.ofExcept check >>= call : InPlace Error State Result).run.run state =
      landed state ((check >>= rest).map next) := by
  cases check with
  | error => rfl
  | ok value => exact continues value

theorem run_bind {Value : Type} (first) (call : Value → InPlace Error State Result) (state) :
    (first >>= call).run.run state = match first.run.run state with
      | (.ok value, between) => (call value).run.run between
      | (.error error, between) => (.error error, between) := by
  change (match first.run.run state with
    | (outcome, between) => ExceptT.bindCont call outcome between) = _
  rcases first.run.run state with ⟨_ | _, _⟩ <;> rfl

theorem landed_eq_error {outcome : Except Error (Result × State)} {error : Error}
    (failed : (landed state outcome).1 = .error error) : (landed state outcome).2 = state := by
  cases outcome with
  | error => rfl
  | ok => cases failed

end InPlace

end Process
