import BitSov.Arithmetic.Bounded
import BitSov.Ordered.Map
import Mathlib.Data.String.Basic

namespace BitSov.Spend

/-!
# Metered spend grants

The meter of `spend_budget.rs`: what a grant may spend, what it has reserved
or spent, its circuit breakers, and the reservation of charges.  Amounts are
in millisatoshis and times in Unix seconds.  Fields of the meter that none of
these functions reads or writes (device resets, envelope identities) are left
out.
-/

open Arithmetic Ordered

/-- Owner-selected circuit breakers. -/
structure BreakerLimits where
  maxPaymentsPerMinute : UInt64 := 10
  maxPaymentsPerHour : UInt64 := 60
  maxConsecutiveFailures : UInt64 := 5
  maxMsatPer10Minutes : UInt64 := 1000000
  deriving Repr, DecidableEq

def BreakerLimits.valid (limits : BreakerLimits) : Bool :=
  limits.maxPaymentsPerMinute > 0 && limits.maxPaymentsPerHour > 0 &&
    limits.maxConsecutiveFailures > 0 && limits.maxMsatPer10Minutes > 0

/-- What was reserved within one second. -/
structure BreakerBucket where
  payments : UInt64 := 0
  msat : UInt64 := 0
  deriving Repr, DecidableEq

/-- Durable rolling history of a grant. -/
structure BreakerState where
  buckets : OrderedMap Int BreakerBucket := .empty
  lastAt : Option Int := none
  consecutiveFailures : UInt64 := 0
  paused : Bool := false
  lastRefusal : Option (String × Int) := none
  deriving Repr, DecidableEq

/-- The rolling counters at one time. -/
structure BreakerStatus where
  paymentsLastMinute : UInt64 := 0
  paymentsLastHour : UInt64 := 0
  reservedMsatLast10Minutes : UInt64 := 0
  (consecutiveFailures unresolvedPayments : UInt64)
  paused : Bool
  deriving Repr, DecidableEq

/-- One payment a call intends to make. -/
structure Charge where
  recipient : String
  amountMsat : UInt64
  deriving Repr, DecidableEq

/-- Why a debit was refused. -/
inductive BudgetRefusal where
  | callLiquidity (requiredMsat availableMsat : UInt64)
  | callPriceChanged
  | callClosingAboveLimit (closingMsat maxMsat : UInt64)
  | grantPaused
  | failuresPending
  | rateLimitMinute
  | rateLimitHour
  | velocityLimit
  | duplicatePayment
  | payeeNotAllowed (recipient : String)
  | messagingGrant
  | noGrant
  | perCall (maxMsat : UInt64)
  | total (remainingMsat : UInt64)
  | recipient (recipient : String) (remainingMsat : UInt64)
  | unpriced (reason : String)
  | ledger (reason : String)
  | firstContact (reason : String)
  deriving Repr, DecidableEq

/-- Stable machine-readable reason of a refusal. -/
def BudgetRefusal.reason : BudgetRefusal → String
  | .callLiquidity _ _ => "call_liquidity_insufficient"
  | .callPriceChanged => "call_price_changed"
  | .callClosingAboveLimit _ _ => "call_closing_above_limit"
  | .grantPaused => "grant_paused"
  | .failuresPending => "failure_limit_pending"
  | .rateLimitMinute => "rate_limit_minute"
  | .rateLimitHour => "rate_limit_hour"
  | .velocityLimit => "velocity_limit"
  | .duplicatePayment => "duplicate_payment"
  | .payeeNotAllowed _ => "payee_not_allowed"
  | .messagingGrant => "messaging_grant"
  | .noGrant => "no_grant"
  | .perCall _ => "per_call"
  | .total _ => "total"
  | .recipient _ _ => "recipient"
  | .unpriced _ => "unpriced"
  | .ledger _ => "ledger"
  | .firstContact _ => "first_contact"

def BudgetRefusal.toText : BudgetRefusal → String
  | .callLiquidity requiredMsat availableMsat =>
    "call reservation requires " ++ toString requiredMsat.toNat ++
      " msat but outbound liquidity has " ++
      toString availableMsat.toNat ++
      " msat available; nothing was dispatched"
  | .callPriceChanged =>
    "call block price or routing fee exceeds the reserved ceiling; nothing was dispatched"
  | .callClosingAboveLimit closingMsat maxMsat =>
    "the call's closing signal would cost " ++ toString closingMsat.toNat ++
      " msat, more than the " ++ toString maxMsat.toNat ++
      " msat one call payment may carry; nothing was reserved or paid"
  | .grantPaused => "grant paused after consecutive failures; owner console reset required"
  | .failuresPending =>
    "unresolved payments exhaust the failure allowance; await resolution or ask the owner"
  | .rateLimitMinute => "grant payment rate exceeds the rolling minute limit"
  | .rateLimitHour => "grant payment rate exceeds the rolling hour limit"
  | .velocityLimit => "grant spend velocity exceeds the rolling 10 minute limit"
  | .duplicatePayment =>
    "payment hash or request ID already used within this grant — no new payment dispatched"
  | .payeeNotAllowed payee =>
    "payee " ++ payee ++ " is not on the grant's allowlist — nothing was dispatched"
  | .messagingGrant => "Messaging grants cannot fund payments. Approve a payment separately."
  | .noGrant => "no live spend grant for this client — ask the owner for a new budget"
  | .perCall _ => "This call exceeds the per-call spending limit. Nothing was paid."
  | .total remainingMsat =>
    "the grant's budget has " ++ toString remainingMsat.toNat ++ " msat left"
  | .recipient payee remainingMsat =>
    "the grant's budget for " ++ payee ++ " has " ++ toString remainingMsat.toNat ++ " msat left"
  | .unpriced reason => reason
  | .ledger reason => "the spend ledger could not be written: " ++ reason
  | .firstContact reason => reason

/-- Reconciliation identity of a reservation. -/
structure OperationReservationLink where
  (operationId executionId : String)
  readmission : Bool
  deriving Repr, DecidableEq

/-- What a hold for one call was admitted for. -/
structure CallSpendTerms where
  (peer callId : String)
  (perBlockMsat perBlockFeeMsat : UInt64)
  maxCallMinutes : UInt16
  reservedMsat : UInt64
  closingFeeMsat : UInt64 := 0
  direct : Bool := false
  deriving Repr, DecidableEq

/-- Durable accounting of one call and its block payments. -/
structure CallSpend where
  terms : CallSpendTerms
  spentMsat : UInt64 := 0
  releasedMsat : UInt64 := 0
  closed : Bool := false
  outcomeRecorded : Bool := false
  paymentFailed : Bool := false
  finishedAt : Option Int := none
  draws : OrderedMap String Nat := .empty
  paidSequences : OrderedMap Nat Unit := .empty
  deriving Repr, DecidableEq

/-- The live meter on a grant. -/
structure GrantBudget where
  breakers : BreakerLimits := {}
  breakerState : BreakerState := {}
  breakerResetGeneration : UInt64 := 0
  paymentIds : OrderedMap String Unit := .empty
  payeeAllowlist : Option (OrderedMap String Unit) := none
  allowLiquidityFees : Bool := false
  (budgetMsat perCallMaxMsat : UInt64)
  perRecipientMsat : OrderedMap String UInt64 := .empty
  usedMsat : UInt64 := 0
  usedByRecipient : OrderedMap String UInt64 := .empty
  pending : OrderedMap String (OrderedMap String UInt64) := .empty
  operationLinks : OrderedMap String OperationReservationLink := .empty
  callReservations : OrderedMap String CallSpend := .empty
  recipientsOnly : Bool := false
  perActMaxByRecipient : OrderedMap String UInt64 := .empty
  recipientExpiresAt : OrderedMap String Int := .empty
  deriving Repr, DecidableEq

namespace GrantBudget

def messagingPerCallMaxMsatCeiling : UInt64 :=
  6000

variable (budget : GrantBudget)

/-- Effective limit of a call that is no payment. -/
def messagingPerCallMaxMsat : UInt64 :=
  min budget.perCallMaxMsat messagingPerCallMaxMsatCeiling

def remainingMsat : UInt64 :=
  saturatingSub budget.budgetMsat budget.usedMsat

/-- The most one call payment may carry, unless envelopes bound it. -/
def callPerPaymentMaxMsat : Option UInt64 :=
  if budget.recipientsOnly then none else some budget.perCallMaxMsat

variable (charges : List Charge) (perPaymentMsat : Option UInt64) (now : Int)

/-- Breaker time never runs backwards. -/
def breakerNow : Int :=
  budget.breakerState.lastAt.elim now fun last => max now last

/-- The payments whose outcome is not known yet. -/
def unresolvedPayments : UInt64 :=
  let isHold (id : String) : Bool := budget.callReservations.contains id
  let isDraw (id : String) : Bool :=
    budget.callReservations.entries.any fun call => call.2.draws.contains id
  let plain := budget.pending.entries.filter fun entry => !isHold entry.1 && !isDraw entry.1
  let amounts := plain.flatMap fun entry => entry.2.entries.map Prod.snd
  UInt64.ofNat (amounts.countP fun amount => amount > 0) +
    UInt64.ofNat (budget.callReservations.entries.countP fun call =>
      !call.2.outcomeRecorded && call.2.terms.reservedMsat > 0)

/-- Add one bucket to the rolling counters. -/
def countBucket (status : BreakerStatus) (entry : Int × BreakerBucket) : BreakerStatus :=
  let within (window : Int) : Bool := entry.1 > saturatingSubI64 now window
  { status with
    paymentsLastMinute :=
      if within 60 then saturatingAdd status.paymentsLastMinute entry.2.payments
      else status.paymentsLastMinute
    reservedMsatLast10Minutes :=
      if within 600 then saturatingAdd status.reservedMsatLast10Minutes entry.2.msat
      else status.reservedMsatLast10Minutes
    paymentsLastHour :=
      if within 3600 then saturatingAdd status.paymentsLastHour entry.2.payments
      else status.paymentsLastHour }

/-- The rolling counters of a grant. -/
def breakerStatus : BreakerStatus :=
  budget.breakerState.buckets.entries.foldl
    (countBucket (budget.breakerNow now))
    { consecutiveFailures := budget.breakerState.consecutiveFailures
      unresolvedPayments := budget.unresolvedPayments
      paused := budget.breakerState.paused }

/-- Relation grants pay live envelopes only, at most their maximum an act. -/
def checkEnvelope (entry : String × UInt64) : Except BudgetRefusal Unit :=
  let live := (budget.recipientExpiresAt.get? entry.1).any fun expires => expires > now
  let perAct := (budget.perActMaxByRecipient.get? entry.1).getD 0
  if !live then .error (.recipient entry.1 0)
  else if entry.2 > perAct then .error (.perCall perAct)
  else .ok ()

/-- Hold a relation grant to its envelopes. -/
def checkEnvelopes (perRecipient : OrderedMap String UInt64) (now : Int) :
    Except BudgetRefusal Unit :=
  if budget.recipientsOnly then perRecipient.entries.forM (budget.checkEnvelope now) else .ok ()

def envelopesLive (recipients : List String) (now : Int) : Bool :=
  !budget.recipientsOnly ||
    recipients.all fun recipient =>
      (budget.recipientExpiresAt.get? recipient).any fun expires => expires > now

/-- One call payment must fit the owner's per-payment limit. -/
def checkCallPayment (perPaymentMsat : UInt64) : Except BudgetRefusal Unit :=
  match budget.callPerPaymentMaxMsat with
  | some maxMsat => if perPaymentMsat > maxMsat then .error (.perCall maxMsat) else .ok ()
  | none => .ok ()

def chargedInAct (charges : List Charge) : OrderedMap String UInt64 :=
  charges.foldl (fun perRecipient charge =>
    perRecipient.alter charge.recipient fun old =>
      some (perPaymentMsat.getD (saturatingAdd (old.getD 0) charge.amountMsat)))
    .empty

/-- The sum of the charges, unless it overflows. -/
def checkedTotal : Option UInt64 :=
  charges.foldlM (fun total charge => checkedAdd total charge.amountMsat) 0

/-- Refuse when a circuit breaker has no room for these payments. -/
def checkBreakers (status : BreakerStatus) (count total : UInt64) : Except BudgetRefusal Unit :=
  if !budget.breakers.valid then .error (.ledger "invalid circuit breaker limits")
  else if status.paused then .error .grantPaused
  else if count >
    saturatingSub budget.breakers.maxConsecutiveFailures
      (saturatingAdd status.consecutiveFailures status.unresolvedPayments) then
    .error .failuresPending
  else if count > saturatingSub budget.breakers.maxPaymentsPerMinute status.paymentsLastMinute then
    .error .rateLimitMinute
  else if count > saturatingSub budget.breakers.maxPaymentsPerHour status.paymentsLastHour then
    .error .rateLimitHour
  else if total >
    saturatingSub budget.breakers.maxMsatPer10Minutes status.reservedMsatLast10Minutes then
    .error .velocityLimit
  else .ok ()

/-- Tally one charge that goes to an allowed payee. -/
def tallyCharge (tally : UInt64 × OrderedMap String UInt64)
    (charge : Charge) : Except BudgetRefusal (UInt64 × OrderedMap String UInt64) :=
  if budget.payeeAllowlist.any fun payees => !payees.contains charge.recipient then
    .error (.payeeNotAllowed charge.recipient)
  else
    match checkedAdd tally.1 charge.amountMsat with
    | none => .error (.perCall budget.perCallMaxMsat)
    | some callTotal =>
      match checkedAdd ((tally.2.get? charge.recipient).getD 0) charge.amountMsat with
      | none => .error (.perCall budget.perCallMaxMsat)
      | some entry => .ok (callTotal, tally.2.insert charge.recipient entry)

/-- The total of the charges and what each recipient is charged. -/
def tallyCharges : Except BudgetRefusal (UInt64 × OrderedMap String UInt64) :=
  charges.foldlM budget.tallyCharge (0, .empty)

/-- A charge must fit what is left of its recipient's budget. -/
def checkRecipientCap (entry : String × UInt64) : Except BudgetRefusal Unit :=
  match budget.perRecipientMsat.get? entry.1 with
  | none => .ok ()
  | some cap =>
    let used := (budget.usedByRecipient.get? entry.1).getD 0
    let left := saturatingSub cap used
    if entry.2 > left then .error (.recipient entry.1 left) else .ok ()

/-- Count a charge as used by its recipient. -/
def addUsed (usedByRecipient : OrderedMap String UInt64) (entry : String × UInt64) :
    OrderedMap String UInt64 :=
  if entry.2 > 0 then usedByRecipient.alter entry.1 fun used => some (used.getD 0 + entry.2)
  else usedByRecipient

/-- Check the charges against every bound and reserve all of them or none. -/
def reserveWithin (perCallBound : Bool) : Except BudgetRefusal GrantBudget := do
  let (callTotal, perRecipient) ← budget.tallyCharges charges
  if perCallBound && callTotal > budget.perCallMaxMsat then .error (.perCall budget.perCallMaxMsat)
  else if callTotal > budget.remainingMsat then .error (.total budget.remainingMsat)
  else do
    perRecipient.entries.forM budget.checkRecipientCap
    .ok
      { budget with
        usedMsat := budget.usedMsat + callTotal
        usedByRecipient :=
          perRecipient.entries.foldl addUsed budget.usedByRecipient }

/-- The bucket of a second, after dropping those older than an hour. -/
def addToBucket (state : BreakerState) (now : Int) (add : BreakerBucket → BreakerBucket) :
    BreakerState :=
  { state with
    buckets := (state.buckets.filter fun second _ =>
      second > saturatingSubI64 now 3600).alter
      now fun bucket => some (add (bucket.getD {}))
    lastAt := some now }

/-- Reserve charges within the envelopes, the breakers and the budget. -/
def reserveBounded : Except BudgetRefusal GrantBudget := do
  perPaymentMsat.elim (.ok ()) budget.checkCallPayment
  budget.checkEnvelopes (chargedInAct perPaymentMsat charges) now
  let now := budget.breakerNow now
  let count := UInt64.ofNat (charges.countP fun charge => charge.amountMsat > 0)
  let total ← (checkedTotal charges).elim (.error .velocityLimit) .ok
  budget.checkBreakers (budget.breakerStatus now) count total
  let reserved ← budget.reserveWithin charges perPaymentMsat.isNone
  if count > 0 then
    .ok
      { reserved with
        breakerState := addToBucket reserved.breakerState now fun bucket =>
          { payments := saturatingAdd bucket.payments count
            msat := saturatingAdd bucket.msat total } }
  else .ok reserved

/-- Reserve charges, first holding a relation grant to its envelopes. -/
def reserveAt : Except BudgetRefusal GrantBudget :=
  budget.reserveBounded charges none now

/-- Reserve a call's hold or offer, bounded by its largest payment. -/
def reserveCallAt (perPaymentMsat : UInt64) (now : Int) : Except BudgetRefusal GrantBudget :=
  budget.reserveBounded charges (some perPaymentMsat) now

/-- Count a known outcome against the breakers. -/
def recordOutcome (reserved actual : UInt64) (now : Int) : GrantBudget :=
  if reserved = 0 ∧ actual = 0 then budget
  else
    let state := budget.breakerState
    let counted : BreakerState :=
      if actual = 0 then
        let failures := saturatingAdd state.consecutiveFailures 1
        { state with
          consecutiveFailures := failures
          paused := state.paused || failures ≥ budget.breakers.maxConsecutiveFailures }
      else { state with consecutiveFailures := 0 }
    { budget with
      breakerState :=
          if actual > reserved then
            addToBucket counted (budget.breakerNow now) fun bucket =>
              { payments :=
                if reserved = 0 then saturatingAdd bucket.payments 1 else bucket.payments
                msat := saturatingAdd bucket.msat (actual - reserved) }
        else counted }

/-- Remember a rolling refusal, and tell whether it was news. -/
def recordBreakerRefusal (refusal : BudgetRefusal) (now : Int) : GrantBudget × Bool :=
  let remember (window : Int) : GrantBudget × Bool :=
    let now := budget.breakerNow now
    if budget.breakerState.lastRefusal.any fun last =>
      last.1 = refusal.reason && last.2 > saturatingSubI64 now window then
      (budget, false)
    else
      ({ budget with
        breakerState :=
          { budget.breakerState with lastRefusal := some (refusal.reason, now) } },
        true)
  match refusal with
  | .rateLimitMinute => remember 60
  | .rateLimitHour => remember 3600
  | .velocityLimit => remember 600
  | _ => (budget, false)

/-- The owner resets the breakers; budget and reservations survive. -/
def resetBreakers : GrantBudget :=
  { budget with
    breakerResetGeneration := saturatingAdd budget.breakerResetGeneration 1, breakerState := {} }

/-- A tally that counted the reserved amount, counting the actual one. -/
def adjustTally (reservedMsat actualMsat tally : UInt64) : UInt64 :=
  if actualMsat < reservedMsat then saturatingSub tally (reservedMsat - actualMsat)
  else saturatingAdd tally (actualMsat - reservedMsat)

/-- Move one reserved charge to its known outcome. -/
def resolve (recipient : String) (reservedMsat actualMsat : UInt64) : GrantBudget :=
  if actualMsat = reservedMsat then budget
  else
    let used := adjustTally reservedMsat actualMsat ((budget.usedByRecipient.get? recipient).getD 0)
    { budget with
      usedMsat := adjustTally reservedMsat actualMsat budget.usedMsat
      usedByRecipient := budget.usedByRecipient.alter recipient fun _ =>
        if used = 0 then none else some used }

end GrantBudget

end BitSov.Spend
