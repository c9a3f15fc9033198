import BitSov.Spend.Metering

namespace BitSov.Spend

open Ordered OrderedMap

/-!
# Which reservations a meter may gain

A reservation that is not pending does not become pending again: every call on
a meter makes at most the identifier pending that it was given for a new
reservation.
-/

/-- The identifier a call may make pending. -/
def MeterStep.reserves : MeterStep → Option String
  | .reserveSpend _ _ id _ => some id
  | .reserveCallSpend _ id _ => some id
  | .reserveQuotedReadmission _ id _ => some id
  | .drawCallSpend _ id _ _ => some id
  | _ => none

namespace GrantBudget

variable {budget first second : GrantBudget} {id : String} {opened : Option String}

/-- The first state has every pending reservation of the second but one. -/
def OpensOnly (opened : Option String) (before after : GrantBudget) : Prop :=
  ∀ id, some id ≠ opened → before.pending.get? id = none → after.pending.get? id = none

namespace OpensOnly

theorem refl (budget) : OpensOnly opened budget budget := fun _ _ absent => absent

theorem trans (prior : OpensOnly opened first second) (later : OpensOnly opened second third) :
    OpensOnly opened first third := fun id other absent => later id other (prior id other absent)

theorem of_pending_eq (same : second.pending = first.pending) : OpensOnly opened first second := by
  intro _ _ absent
  rw [same]
  exact absent

theorem of_sameMeter (same : SameMeter first second) :
    OpensOnly opened first second := of_pending_eq same.pending

theorem of_pending_modify (modified : second.pending = first.pending.modify parent change) :
    OpensOnly opened first second := by
  intro _ _ absent
  rw [modified, get?_modify]
  split
  · next same =>
      rw [← same, absent]
      rfl
  · exact absent

theorem of_pending_insert (inserted : second.pending = first.pending.insert id amounts) :
    OpensOnly (some id) first second := by
  intro _ ne absent
  rw [inserted, get?_insert, if_neg fun same => ne (by rw [same])]
  exact absent

theorem of_pending_erase (erased : second.pending = first.pending.erase id) :
    OpensOnly opened first second := by
  intro _ _ absent
  rw [erased, get?_erase]
  split
  · rfl
  · exact absent

end OpensOnly

theorem opensOnly_reserveSpend (budget authority charges id now) :
    OpensOnly (some id) budget (budget.reserveSpend authority charges id now).2 := by
  unfold reserveSpend
  split
  · exact .refl _
  split
  · exact .refl _
  split
  · exact .refl _
  split
  · exact .of_sameMeter (sameMeter_recordBreakerRefusal _ _ _)
  next metered isMetered =>
    have samePending := (reserveForPurpose_ok isMetered).pending
    refine (OpensOnly.of_pending_eq samePending).trans ?_
    unfold keepReservation
    split
    · exact .of_pending_eq rfl
    · exact .of_pending_insert rfl

theorem opensOnly_topUpReservation
    (toppedUp : budget.topUpReservation parent recipient topUp now = .ok reserved) :
    OpensOnly opened budget reserved := by
  rcases topUpReservation_cases toppedUp with rfl | ⟨_, isMetered, rfl⟩
  · exact .refl _
  · have samePending := (reserveBounded_ok isMetered).pending
    exact (OpensOnly.of_pending_eq samePending).trans (.of_pending_modify rfl)

theorem opensOnly_reserveQuotedReadmission (budget request id now) :
    OpensOnly (some id) budget (budget.reserveQuotedReadmission request id now).2 := by
  rcases budget.reserveQuotedReadmission_cases request id now with
    same | ⟨_, _, -, raised, same⟩
  · rw [same]
    exact .refl _
  · rw [same]
    exact (opensOnly_topUpReservation raised).trans (opensOnly_reserveSpend _ _ _ _ _)

theorem opensOnly_closeCall (budget id clock) :
    OpensOnly opened budget (budget.closeCall id clock) := by
  unfold closeCall
  split
  · exact .refl _
  split
  · exact .refl _
  refine OpensOnly.trans (.of_pending_erase (resolve_pending.trans rfl))
    (.of_sameMeter (sameMeter_recordCallOutcome _ id clock))

theorem opensOnly_closeHoldsOverLimit (budget : GrantBudget) (only : Option (String × String))
    (clock : String → ClockReadings) :
    OpensOnly opened budget (budget.closeHoldsOverLimit only clock).1 := by
  unfold closeHoldsOverLimit
  generalize budget.holdsOverLimit only = overLimit
  induction overLimit generalizing budget with
  | nil => exact .refl _
  | cons hold _ ih => exact (opensOnly_closeCall budget hold.1 (clock hold.1)).trans (ih _)

theorem opensOnly_drawCallSpend (budget request id now clock) :
    OpensOnly (some id) budget (budget.drawCallSpend request id now clock).2 := by
  unfold drawCallSpend
  split
  · exact .refl _
  split
  · next _ _ isClosed =>
      have closedOnly := @opensOnly_closeHoldsOverLimit (some id) budget
        (some (request.peer, request.callId)) clock
      rw [isClosed] at closedOnly
      exact closedOnly
  split
  · exact .refl _
  split
  · exact .refl _
  split
  · exact .refl _
  next parent _ _ =>
  split
  · exact .refl _
  next amount _ =>
  have lent : OpensOnly (some id) budget { budget with
    pending := budget.pending.modify parent fun held =>
      held.modify request.peer fun remaining => remaining - amount } :=
    .of_pending_modify rfl
  exact lent.trans (.of_pending_insert rfl)

theorem opensOnly_takePending (isHeld : budget.pending.get? id = some held) :
    OpensOnly opened budget (budget.takePending id recipient held) := by
  unfold takePending
  dsimp only
  split
  · exact .of_pending_erase rfl
  intro _ _ absent
  rw [get?_insert]
  split
  · next same =>
      rw [same, isHeld] at absent
      cases absent
  · exact absent

theorem opensOnly_resolveCallDraw (budget : GrantBudget) (id peer : String)
    (reserved actual : UInt64) (paymentFailed : Bool) (clock : ClockReadings) :
    OpensOnly opened budget
      (budget.resolveCallDraw id peer reserved actual paymentFailed clock).1 := by
  unfold resolveCallDraw
  split
  · exact .refl _
  refine OpensOnly.trans ?_ (.of_sameMeter (sameMeter_recordCallOutcome _ _ _))
  split
  · exact .of_pending_eq resolve_pending
  unfold returnToHold
  split
  · exact .of_pending_modify resolve_pending
  · exact .of_pending_modify rfl

theorem opensOnly_resolveSpendOutcome (budget id recipient)
    (actual paymentFailed clock) : OpensOnly opened budget
      (budget.resolveSpendOutcome id recipient actual paymentFailed clock).2 := by
  unfold resolveSpendOutcome
  split
  · exact .refl _
  split
  · exact .refl _
  next held isHeld =>
  split
  · exact .refl _
  next reserved _ =>
  have taken : OpensOnly opened budget (budget.takePending id recipient held) :=
    opensOnly_takePending isHeld
  have drawn := @opensOnly_resolveCallDraw opened (budget.takePending id recipient held)
    id recipient reserved actual paymentFailed clock.call
  dsimp only
  split
  · next isDrawn =>
      rw [isDrawn] at drawn
      exact taken.trans drawn
  have resolved : OpensOnly opened (budget.takePending id recipient held)
    ((budget.takePending id recipient held).resolve recipient reserved actual) :=
    .of_pending_eq resolve_pending
  exact (taken.trans resolved).trans (.of_sameMeter (sameMeter_recordOutcome _ _ _ _))

end GrantBudget

theorem MeterStep.opensOnly_apply (step : MeterStep) (budget) :
    GrantBudget.OpensOnly step.reserves budget (step.apply budget) := by
  cases step with
  | reserveSpend authority charges id now =>
    exact GrantBudget.opensOnly_reserveSpend budget authority charges id now
  | reserveCallSpend _ id now => exact GrantBudget.opensOnly_reserveSpend budget _ _ id now
  | reserveQuotedReadmission request id now =>
    exact GrantBudget.opensOnly_reserveQuotedReadmission budget request id now
  | drawCallSpend request id now clock =>
    exact GrantBudget.opensOnly_drawCallSpend budget request id now clock
  | resolveSpendOutcome id recipient actualMsat paymentFailed clock =>
    exact GrantBudget.opensOnly_resolveSpendOutcome budget id recipient
      actualMsat paymentFailed clock
  | closeCallSpend id clock =>
    simp only [MeterStep.apply, GrantBudget.closeCallSpend]
    split
    · exact .refl _
    split
    · exact .refl _
    · exact GrantBudget.opensOnly_closeCall budget id clock
  | enforceCallHoldLimit peer callId clock =>
    exact GrantBudget.opensOnly_closeHoldsOverLimit budget (some (peer, callId)) clock
  | pruneCallSpend now clock =>
    exact (GrantBudget.opensOnly_closeHoldsOverLimit budget none clock).trans
      (.of_sameMeter (GrantBudget.sameMeter_pruneCallTombstones _ now))
  | resetBreakers => exact .of_pending_eq rfl

end BitSov.Spend
