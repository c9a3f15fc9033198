import BitSov.Spend.Accounting

namespace BitSov.Spend

/-!
# Runs of a meter

Every sequence of reservations, draws, resolutions, closings and resets of one
meter, and what holds in every state it reaches: the tallies agree with what
was settled and what is pending, and they stay within the grant unless some
payment cost more than was reserved for it.
-/

open Arithmetic Ordered GrantBudget List Option

namespace GrantBudget

def usedFor (budget : GrantBudget) (recipient : String) : UInt64 :=
  (budget.usedByRecipient.get? recipient).getD 0

/-- The meter is within its budget and the budget of each recipient. -/
structure WithinLimits (budget : GrantBudget) : Prop where
  budgetMsat : budget.usedMsat ≤ budget.budgetMsat
  caps : ∀ recipient cap,
    budget.perRecipientMsat.get? recipient = some cap → budget.usedFor recipient ≤ cap

/-- Same terms, and nothing more is used. -/
structure Shrinks (before after : GrantBudget) : Prop where
  budgetMsat : after.budgetMsat = before.budgetMsat
  caps : after.perRecipientMsat = before.perRecipientMsat
  used : after.usedMsat ≤ before.usedMsat
  byRecipient : ∀ recipient, after.usedFor recipient ≤ before.usedFor recipient

section

variable {budget after : GrantBudget} {recipient id : String} {reserved actual : UInt64}

theorem Shrinks.refl (budget) : Shrinks budget budget :=
  ⟨rfl, rfl, UInt64.le_refl _, fun _ => UInt64.le_refl _⟩

theorem Shrinks.trans (before : Shrinks first second) (after : Shrinks second third) :
    Shrinks first third where
  budgetMsat := after.budgetMsat.trans before.budgetMsat
  caps := after.caps.trans before.caps
  used := UInt64.le_trans after.used before.used
  byRecipient recipient := UInt64.le_trans (after.byRecipient recipient)
    (before.byRecipient recipient)

theorem shrinks_of_sameMeter (same : SameMeter first second) : Shrinks first second :=
  { same with
    used := by
      rw [same.used]
      exact UInt64.le_refl _
    byRecipient recipient := by
      rw [usedFor, same.byRecipient]
      exact UInt64.le_refl _ }

theorem WithinLimits.shrinks (within : WithinLimits first) (shrinks : Shrinks first second) :
    WithinLimits second where
  budgetMsat := by
    rw [shrinks.budgetMsat]
    exact UInt64.le_trans shrinks.used within.budgetMsat
  caps recipient cap hasCap := by
    rw [shrinks.caps] at hasCap
    exact UInt64.le_trans (shrinks.byRecipient recipient) (within.caps recipient cap hasCap)

theorem adjustTally_le (below : actual < reserved) : adjustTally reserved actual tally ≤ tally := by
  rw [adjustTally, if_pos below, UInt64.le_iff_toNat_le, toNat_saturatingSub]
  omega

theorem shrinks_resolve (within : actual ≤ reserved) :
    Shrinks budget (budget.resolve recipient reserved actual) := by
  by_cases same : actual = reserved
  · rw [resolve, if_pos same]
    exact .refl budget
  have below : actual < reserved := by
    rw [UInt64.lt_iff_toNat_lt]
    rw [UInt64.le_iff_toNat_le] at within
    have ne : actual.toNat ≠ reserved.toNat := fun equal => same (UInt64.toNat_inj.mp equal)
    omega
  rw [resolve, if_neg same]
  refine ⟨rfl, rfl, adjustTally_le below, fun _ => ?_⟩
  simp only [usedFor, OrderedMap.get?_alter]
  split
  · next isRecipient =>
      subst isRecipient
      split
      · exact UInt64.zero_le
      · exact adjustTally_le below
  · exact UInt64.le_refl _

variable {paymentFailed : Bool}

theorem shrinks_resolveCallDraw {clock : ClockReadings} (within : actual ≤ reserved) :
    Shrinks budget (budget.resolveCallDraw id recipient reserved actual paymentFailed clock).1 := by
  unfold resolveCallDraw
  split
  · exact .refl budget
  next _ _ _ =>
  refine Shrinks.trans ?_ (shrinks_of_sameMeter (sameMeter_recordCallOutcome _ _ _))
  split
  · refine Shrinks.trans ?_ (shrinks_resolve within)
    exact ⟨rfl, rfl, UInt64.le_refl _, fun _ => UInt64.le_refl _⟩
  unfold returnToHold
  rw [if_neg (UInt64.not_lt.mpr within)]
  exact ⟨rfl, rfl, UInt64.le_refl _, fun _ => UInt64.le_refl _⟩

theorem shrinks_resolveSpendOutcome
    (within : ∀ reserved, budget.consumedBy id recipient = some reserved → actual ≤ reserved) :
    Shrinks budget (budget.resolveSpendOutcome id recipient actual paymentFailed clock).2 := by
  cases consumed : budget.consumedBy id recipient with
  | none =>
    rw [resolveSpendOutcome_eq_self consumed]
    exact .refl budget
  | some reserved =>
    have covered := within reserved consumed
    unfold consumedBy at consumed
    unfold resolveSpendOutcome
    split at consumed
    · cases consumed
    next noHold =>
    rw [if_neg noHold]
    rw [bind_eq_some_iff] at consumed
    obtain ⟨held, found, isHeld⟩ := consumed
    simp only [found, isHeld]
    have taken : Shrinks budget (budget.takePending id recipient held) := by
      unfold takePending
      dsimp only
      split <;> exact ⟨rfl, rfl, UInt64.le_refl _, fun _ => UInt64.le_refl _⟩
    refine taken.trans ?_
    split
    · next _ isResolved =>
        have shrinks := @shrinks_resolveCallDraw (budget.takePending id recipient held)
          recipient id reserved actual paymentFailed clock.call covered
        rw [isResolved] at shrinks
        exact shrinks
    · exact (shrinks_resolve covered).trans (shrinks_of_sameMeter (sameMeter_recordOutcome _ _ _ _))

theorem shrinks_closeCall (id clock) : Shrinks budget (budget.closeCall id clock) := by
  unfold closeCall
  split
  · exact .refl budget
  split
  · exact .refl budget
  refine Shrinks.trans ?_ (shrinks_of_sameMeter (sameMeter_recordCallOutcome _ _ _))
  refine Shrinks.trans ?_ (shrinks_resolve UInt64.zero_le)
  exact ⟨rfl, rfl, UInt64.le_refl _, fun _ => UInt64.le_refl _⟩

theorem shrinks_closeHoldsOverLimit (only : Option (String × String))
    (clock : String → ClockReadings) :
    Shrinks budget (budget.closeHoldsOverLimit only clock).1 := by
  unfold closeHoldsOverLimit
  generalize budget.holdsOverLimit only = overLimit
  induction overLimit generalizing budget with
  | nil => exact .refl budget
  | cons hold _ ih => exact (shrinks_closeCall hold.1 (clock hold.1)).trans ih

theorem Reserves.withinLimits (reserves : Reserves budget after charges)
    (accounts : Accounts budget settled) (within : WithinLimits budget) : WithinLimits after where
  budgetMsat := by
    have below := within.budgetMsat
    rw [UInt64.le_iff_toNat_le] at below ⊢
    rw [reserves.budgetMsat]
    exact reserves.withinBudget below
  caps recipient cap hasCap := by
    rw [reserves.caps] at hasCap
    have below := within.caps recipient cap hasCap
    have counted := reserves.balanced accounts (only recipient)
    simp only [heldIn_only] at counted
    rw [UInt64.le_iff_toNat_le] at below ⊢
    simp only [usedFor] at below ⊢
    cases charged : (chargedByRecipient charges).get? recipient with
    | none =>
      simp only [charged, getD_none, UInt64.toNat_zero] at counted
      omega
    | some amount =>
      have room := reserves.withinCaps recipient cap amount hasCap charged
      simp only [charged, getD_some] at counted
      omega

section

variable (within : WithinLimits budget)
include within

section

variable (accounts : Accounts budget settled)
include accounts

theorem WithinLimits.reserveSpend (authority : ReservationAuthority) (charges : List Charge)
    (id : String) (now : Int) : WithinLimits (budget.reserveSpend authority charges id now).2 := by
  unfold GrantBudget.reserveSpend
  split
  · exact within
  split
  · exact within
  split
  · exact within
  split
  · exact within.shrinks (shrinks_of_sameMeter (sameMeter_recordBreakerRefusal _ _ _))
  next _ isReserved =>
    refine ((reserveForPurpose_ok isReserved).withinLimits accounts within).shrinks ?_
    unfold keepReservation
    split <;> exact ⟨rfl, rfl, UInt64.le_refl _, fun _ => UInt64.le_refl _⟩

theorem WithinLimits.topUpReservation
    (toppedUp : budget.topUpReservation parent recipient topUp now = .ok after) :
    WithinLimits after := by
  rcases GrantBudget.topUpReservation_cases toppedUp with rfl | ⟨_, isReserved, rfl⟩
  · exact within
  have reservedWithin := (reserveBounded_ok isReserved).withinLimits accounts within
  refine reservedWithin.shrinks ?_
  exact ⟨rfl, rfl, UInt64.le_refl _, fun _ => UInt64.le_refl _⟩

theorem WithinLimits.reserveQuotedReadmission (request id)
    (now) : WithinLimits (budget.reserveQuotedReadmission request id now).2 := by
  rcases budget.reserveQuotedReadmission_cases request id now with
    same | ⟨_, _, checked, raised, same⟩
  · rw [same]
    exact within
  obtain ⟨_, _, found, isHeld⟩ := checkReadmission_ok checked
  rw [same]
  exact (within.topUpReservation accounts raised).reserveSpend
    (accounts.topUpReservation found isHeld raised) _ _ id now

end

theorem WithinLimits.drawCallSpend (request id now clock) :
    WithinLimits (budget.drawCallSpend request id now clock).2 := by
  refine within.shrinks ?_
  unfold GrantBudget.drawCallSpend
  split
  · exact .refl budget
  split
  · next _ _ isClosed =>
      have released := @shrinks_closeHoldsOverLimit budget
        (some (request.peer, request.callId)) clock
      rw [isClosed] at released
      exact released
  split
  · exact .refl budget
  split
  · exact .refl budget
  split
  · exact .refl budget
  split
  · exact .refl budget
  · exact ⟨rfl, rfl, UInt64.le_refl _, fun _ => UInt64.le_refl _⟩

end

end

end GrantBudget

/-- A call on the meter that leaves it changed or not. -/
inductive MeterStep where
  | reserveSpend (authority : ReservationAuthority) (charges : List Charge) (id : String)
      (now : Int)
  | reserveCallSpend (terms : CallSpendTerms) (id : String) (now : Int)
  | reserveQuotedReadmission (request : GrantBudget.ReadmissionRequest) (id : String) (now : Int)
  | drawCallSpend (request : GrantBudget.DrawRequest) (id : String) (now : Int)
      (clock : String → ClockReadings)
  | resolveSpendOutcome (id recipient : String) (actualMsat : UInt64) (paymentFailed : Bool)
      (clock : GrantBudget.ResolveClock)
  | closeCallSpend (id : String) (clock : ClockReadings)
  | enforceCallHoldLimit (peer callId : String) (clock : String → ClockReadings)
  | pruneCallSpend (now : Int) (clock : String → ClockReadings)
  | resetBreakers

/-- An outcome that a resolution took into account. -/
structure Settlement where
  recipient : String
  (reservedMsat actualMsat : UInt64)
  deriving Repr, DecidableEq

namespace MeterStep

def apply : MeterStep → GrantBudget → GrantBudget
  | .reserveSpend authority charges id now, budget =>
    (budget.reserveSpend authority charges id now).2
  | .reserveCallSpend terms id now, budget => (budget.reserveCallSpend terms id now).2
  | .reserveQuotedReadmission request id now, budget =>
    (budget.reserveQuotedReadmission request id now).2
  | .drawCallSpend request id now clock, budget => (budget.drawCallSpend request id now clock).2
  | .resolveSpendOutcome id recipient actualMsat paymentFailed clock, budget =>
    (budget.resolveSpendOutcome id recipient actualMsat paymentFailed clock).2
  | .closeCallSpend id clock, budget => budget.closeCallSpend id clock
  | .enforceCallHoldLimit peer callId clock, budget =>
    (budget.closeHoldsOverLimit (some (peer, callId)) clock).1
  | .pruneCallSpend now clock, budget => budget.pruneCallSpend now clock
  | .resetBreakers, budget => budget.resetBreakers

/--
New reservations have identifiers of their own, and only `reserveCallSpend`
reserves a hold.
-/
def Allowed : MeterStep → GrantBudget → Prop
  | .reserveSpend authority _ id _, budget => authority.call = none ∧ budget.Unused id
  | .reserveCallSpend _ id _, budget => budget.Unused id
  | .reserveQuotedReadmission _ id _, budget => budget.Unused id
  | .drawCallSpend _ id _ _, budget => budget.Unused id
  | _, _ => True

/-- The outcome a call takes into account. -/
def settles : MeterStep → GrantBudget → Option Settlement
  | .resolveSpendOutcome id recipient actualMsat _ _, budget =>
    (budget.consumedBy id recipient).map fun reservedMsat => { recipient, reservedMsat, actualMsat }
  | _, _ => none

end MeterStep

/-- The sum of the actual amounts a scope sees. -/
def settledIn (settlements : List Settlement) (scope : Scope) : Nat :=
  (settlements.map fun settlement =>
    share scope settlement.recipient settlement.actualMsat.toNat).sum

/-- The sum of all actual amounts. -/
def settledMsat (settlements : List Settlement) : Nat :=
  (settlements.map fun settlement => settlement.actualMsat.toNat).sum

/--
The meters and outcomes that calls reach from a meter, as long as what is
settled and what is pending stay below 2 ^ 64 together.
-/
inductive MeterRun (start : GrantBudget) : GrantBudget → List Settlement → Prop where
  | start : MeterRun start start []
  | step {budget : GrantBudget} {settlements : List Settlement}
      (run : MeterRun start budget settlements) (call : MeterStep) (allowed : call.Allowed budget)
    (bounded : settledMsat (settlements ++ (call.settles budget).toList) +
      (call.apply budget).pendingMsat <
      2 ^ 64) : MeterRun start (call.apply budget) (settlements ++ (call.settles budget).toList)

/-- A meter that has counted nothing yet. -/
structure GrantBudget.IsFresh (budget : GrantBudget) : Prop where
  used : budget.usedMsat = 0
  byRecipient : budget.usedByRecipient = .empty
  pending : budget.pending = .empty
  calls : budget.callReservations = .empty

section

open MeterStep (settles)

variable {start budget : GrantBudget} {settlements : List Settlement}

theorem settledIn_everyone : settledIn settlements everyone = settledMsat settlements := rfl

theorem settledIn_append_singleton (settlement) : settledIn (settlements ++ [settlement]) =
      settledWith (settledIn settlements) settlement.recipient settlement.actualMsat.toNat := by
  funext scope
  simp [settledIn, settledWith]

variable {call : MeterStep}

/-- One call keeps the accounts. -/
theorem Accounts.step
    (accounts : Accounts budget (settledIn settlements)) (allowed : call.Allowed budget)
    (bounded : settledMsat (settlements ++ (call.settles budget).toList) +
      (call.apply budget).pendingMsat < 2 ^ 64) :
    Accounts (call.apply budget) (settledIn (settlements ++ (call.settles budget).toList)) := by
  cases call with
  | reserveSpend _ _ id now =>
    obtain ⟨noCall, unused⟩ := allowed
    simp only [settles, toList_none, append_nil]
    refine accounts.reserveSpend now ?_ unused.pending unused.hold
    intro _ isCall
    rw [noCall] at isCall
    cases isCall
  | reserveCallSpend _ id now =>
    simp only [settles, toList_none, append_nil]
    refine accounts.reserveSpend now ?_ allowed.pending allowed.hold
    intro _ isCall
    cases isCall
    exact ⟨_, rfl⟩
  | reserveQuotedReadmission request id now =>
    simp only [settles, toList_none, append_nil]
    exact accounts.reserveQuotedReadmission request now allowed
  | drawCallSpend request id now clock =>
    simp only [settles, toList_none, append_nil]
    exact accounts.drawCallSpend request now clock allowed
  | resolveSpendOutcome id recipient _ _ clock =>
    cases consumed : budget.consumedBy id recipient with
    | none =>
      simp only [settles, consumed, map_none, toList_none, append_nil, MeterStep.apply]
      rw [resolveSpendOutcome_eq_self consumed]
      exact accounts
    | some =>
      simp only [settles, consumed, map_some, toList_some, MeterStep.apply] at bounded ⊢
      rw [settledIn_append_singleton]
      refine accounts.resolveSpendOutcome consumed ?_
      rw [← settledIn_everyone, settledIn_append_singleton] at bounded
      simp only [settledWith, share_everyone] at bounded
      unfold u64Max
      omega
  | closeCallSpend id clock =>
    simp only [settles, toList_none, append_nil]
    simp only [MeterStep.apply, closeCallSpend]
    split
    · exact accounts
    split
    · exact accounts
    · exact accounts.closeCall id clock
  | enforceCallHoldLimit peer callId clock =>
    simp only [settles, toList_none, append_nil]
    exact accounts.closeHoldsOverLimit (some (peer, callId)) clock
  | pruneCallSpend now clock =>
    simp only [settles, toList_none, append_nil]
    exact (accounts.closeHoldsOverLimit none clock).sameMeter (sameMeter_pruneCallTombstones _ now)
  | resetBreakers =>
    simp only [settles, toList_none, append_nil]
    exact accounts.sameMeter ⟨rfl, rfl, rfl, rfl, rfl, fun _ _ found _ => found⟩

/-- One call without an overrun stays within the limits. -/
theorem WithinLimits.step (within : WithinLimits budget)
    (accounts : Accounts budget (settledIn settlements))
    (noOverrun : ∀ settlement ∈ call.settles budget,
      settlement.actualMsat ≤ settlement.reservedMsat) : WithinLimits (call.apply budget) := by
  cases call with
  | reserveSpend authority charges id now =>
    exact within.reserveSpend accounts authority charges id now
  | reserveCallSpend _ id now => exact within.reserveSpend accounts _ _ id now
  | reserveQuotedReadmission request id now =>
    exact within.reserveQuotedReadmission accounts request id now
  | drawCallSpend request id now clock => exact within.drawCallSpend request id now clock
  | resolveSpendOutcome id recipient actualMsat paymentFailed clock =>
    refine within.shrinks (shrinks_resolveSpendOutcome ?_)
    intro reserved consumed
    have isSettled : ({ recipient, reservedMsat := reserved, actualMsat } : Settlement) ∈
      settles (.resolveSpendOutcome id recipient actualMsat paymentFailed clock) budget := by
      simp [settles, consumed]
    exact noOverrun _ isSettled
  | closeCallSpend id clock =>
    simp only [MeterStep.apply, closeCallSpend]
    split
    · exact within
    split
    · exact within
    · exact within.shrinks (shrinks_closeCall id clock)
  | enforceCallHoldLimit peer callId clock =>
    exact within.shrinks (shrinks_closeHoldsOverLimit (some (peer, callId)) clock)
  | pruneCallSpend now clock =>
    exact (within.shrinks (shrinks_closeHoldsOverLimit none clock)).shrinks
      (shrinks_of_sameMeter (sameMeter_pruneCallTombstones _ now))
  | resetBreakers => exact within.shrinks ⟨rfl, rfl, UInt64.le_refl _, fun _ => UInt64.le_refl _⟩

theorem GrantBudget.IsFresh.accounts (fresh : start.IsFresh) : Accounts start (settledIn []) where
  used := by
    rw [fresh.used, fresh.byRecipient]
    rfl
  balanced scope := by
    rw [pendingIn, fresh.byRecipient, fresh.pending]
    rfl
  backed id call found := by
    rw [fresh.calls] at found
    cases found

theorem MeterRun.accounts (fresh : start.IsFresh) (run : MeterRun start budget settlements) :
    Accounts budget (settledIn settlements) := by
  induction run with
  | start => exact fresh.accounts
  | step run _ allowed bounded ih => exact Accounts.step ih allowed bounded

theorem MeterRun.withinLimits (fresh : start.IsFresh) (run : MeterRun start budget settlements)
    (noOverrun : ∀ settlement ∈ settlements, settlement.actualMsat ≤ settlement.reservedMsat) :
    WithinLimits budget := by
  induction run with
  | start =>
    refine ⟨?_, fun _ _ _ => ?_⟩
    · rw [fresh.used]
      exact UInt64.zero_le
    · rw [usedFor, fresh.byRecipient]
      exact UInt64.zero_le
  | @step budget settlements run call allowed bounded ih =>
    refine WithinLimits.step (ih fun settlement mem => noOverrun settlement (mem_append_left _ mem))
      (run.accounts fresh) ?_
    intro settlement mem
    exact noOverrun settlement (mem_append_right _ (mem_toList.mpr mem))

/--
In every state of every run, what is used is what all recipients used, and
what was settled plus what is pending; and unless an actual amount exceeded
its reservation, it is within the budget and every recipient's budget.
-/
theorem MeterRun.used_eq_settled_add_pending (fresh : start.IsFresh)
    (run : MeterRun start budget settlements) :
    budget.usedMsat.toNat = heldIn everyone budget.usedByRecipient ∧
      budget.usedMsat.toNat = settledMsat settlements + budget.pendingMsat ∧
      ((∀ settlement ∈ settlements, settlement.actualMsat ≤ settlement.reservedMsat) →
        budget.usedMsat ≤ budget.budgetMsat ∧ ∀ recipient cap,
          budget.perRecipientMsat.get? recipient = some cap → budget.usedFor recipient ≤ cap) := by
  have accounts := run.accounts fresh
  refine ⟨accounts.used, accounts.used_eq, fun noOverrun => ?_⟩
  have within := run.withinLimits fresh noOverrun
  exact ⟨within.budgetMsat, within.caps⟩

end

/-- A meter with a cap for one recipient. -/
def cappedMeter : GrantBudget :=
  { budgetMsat := 5000
    perCallMaxMsat := 3000
    perRecipientMsat := .singleton "alice" 2500 }

/-- A message to the capped recipient. -/
def messageToAlice : MeterStep :=
  .reserveSpend {} [{ recipient := "alice", amountMsat := 2000 }] "message" 0

/-- The message settles below what was reserved for it. -/
def messageSettled : MeterStep :=
  .resolveSpendOutcome "message" "alice" 1500 false
    { call := { finished := 1, recorded := 1, pruned := 1 }, recorded := 1 }

/-- The invariant holds after a message was reserved and settled. -/
theorem MeterRun.used_eq_settled_add_pending_cappedMeter :
    (messageSettled.apply (messageToAlice.apply cappedMeter)).usedMsat = 1500 ∧
      (messageSettled.apply (messageToAlice.apply cappedMeter)).usedMsat.toNat = settledMsat
        [{ recipient := "alice"
           reservedMsat := 2000
           actualMsat := 1500 }] +
        (messageSettled.apply (messageToAlice.apply cappedMeter)).pendingMsat := by
  have fresh : cappedMeter.IsFresh := ⟨rfl, rfl, rfl, rfl⟩
  have reserved : MeterRun cappedMeter (messageToAlice.apply cappedMeter) [] :=
    MeterRun.start.step messageToAlice ⟨rfl, rfl, rfl⟩ (by decide)
  have settled := reserved.step messageSettled trivial (by decide)
  exact ⟨by decide, (settled.used_eq_settled_add_pending fresh).2.1⟩

end BitSov.Spend
