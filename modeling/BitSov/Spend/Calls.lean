import BitSov.Spend.Budget
import Mathlib.Data.List.Sort

namespace BitSov.Spend

/-!
# Reservations, call holds and their resolution

What `spend_budget/calls.rs`, `pairing/call_spend.rs` and `pairing.rs` do to
one meter under the lock of the pairing store.  A reservation gets a fresh
identifier, a call hold lends parts of its reservation to draws, and known
outcomes are resolved once.  A write of the store that fails puts the meter
back, so a failed call is one that did not happen.
-/

open Arithmetic Ordered

namespace CallSpendTerms

variable (terms : CallSpendTerms)

/-- The largest single payment a hold funds. -/
def ceiling : UInt64 :=
  saturatingAdd terms.perBlockMsat terms.perBlockFeeMsat

/-- What is left of the reservation for the closing signal. -/
def closingAllowanceMsat : UInt64 :=
  saturatingSub terms.reservedMsat (saturatingMul terms.ceiling terms.maxCallMinutes.toUInt64)

end CallSpendTerms

/-- Whether the accounting of a call is complete. -/
def CallSpend.finished (call : CallSpend) : Bool :=
  call.closed && call.draws.entries.isEmpty && call.outcomeRecorded

/-- The times read while the outcome of a call is recorded. -/
structure ClockReadings where
  (finished recorded pruned : Int)
  deriving Repr, DecidableEq

namespace GrantBudget

variable (budget : GrantBudget) (only : Option (String × String)) (parent id peer : String)

/-- The most one call payment to a peer may carry now. -/
def callPaymentLimit : UInt64 :=
  if budget.recipientsOnly then (budget.perActMaxByRecipient.get? peer).getD 0
  else budget.perCallMaxMsat

/-- A hold above what its grant now allows per payment never pays again. -/
def checkCallHold (terms : CallSpendTerms) : Except BudgetRefusal Unit :=
  let maxMsat := budget.callPaymentLimit terms.peer
  if terms.ceiling > maxMsat then .error (.perCall maxMsat) else .ok ()

/-- The most one call signal to a peer may carry now. -/
def callSignalLimit : UInt64 :=
  min (budget.callPaymentLimit peer) budget.messagingPerCallMaxMsat

/-- The closing allowance of a new hold must fit one call signal. -/
def checkCallClosing (terms : CallSpendTerms) : Except BudgetRefusal Unit :=
  let closingMsat := terms.closingAllowanceMsat
  let maxMsat := budget.callSignalLimit terms.peer
  if closingMsat > maxMsat then .error (.callClosingAboveLimit closingMsat maxMsat) else .ok ()

/-- The finish times of complete calls, oldest first. -/
def finishedCalls (now : Int) : List (Int × String) :=
  let finished := budget.callReservations.entries.filterMap fun entry =>
    if entry.2.finished then some (entry.2.finishedAt.getD now, entry.1) else none
  finished.insertionSort fun first second =>
    first.1 < second.1 ∨ (first.1 = second.1 ∧ first.2 ≤ second.2)

/-- The receipts of complete calls that are too many or too old. -/
def expiredCalls (now : Int) : List String :=
  let finished := budget.finishedCalls now
  let excess := finished.length - 256
  (finished.zipIdx.filter fun item =>
    item.2 < excess || saturatingSubI64 now item.1.1 ≥ 86400).map
    fun item => item.1.2

/-- Keep only small and recent receipts of complete calls. -/
def pruneCallTombstones (now : Int) : GrantBudget :=
  let stamped (call : CallSpend) : CallSpend :=
    if call.finished then
      { call with paidSequences := .empty, finishedAt := some (call.finishedAt.getD now) }
    else call
  { budget with
    callReservations := (budget.expiredCalls now).foldl (fun calls id => calls.erase id)
      (budget.callReservations.mapValues stamped) }

/-- Record the outcome of a call once it is closed and nothing is drawn. -/
def recordCallOutcome (clock : ClockReadings) : GrantBudget :=
  match budget.callReservations.get? id with
  | none => budget
  | some call =>
    if call.closed ∧ call.draws.entries.isEmpty ∧ ¬ call.outcomeRecorded then
      let receipt :=
        { budget with
          callReservations := budget.callReservations.insert id { call with
            outcomeRecorded := true, finishedAt := some clock.finished, paidSequences := .empty } }
      let recorded :=
        if call.spentMsat > 0 ∨ call.paymentFailed then
          receipt.recordOutcome call.terms.reservedMsat call.spentMsat clock.recorded
        else receipt
      recorded.pruneCallTombstones clock.pruned
    else budget

/-- Close a hold and release what it has not paid. -/
def closeCall (clock : ClockReadings) : GrantBudget :=
  match budget.callReservations.get? id with
  | none => budget
  | some call =>
    if call.closed then budget
    else
      let peer := call.terms.peer
      let unused := ((budget.pending.get? id).bind fun held => held.get? peer).getD 0
      let closed :=
        { budget with
          pending := budget.pending.erase id
          callReservations := budget.callReservations.insert id { call with
            closed := true, releasedMsat := saturatingAdd call.releasedMsat unused } }
      (closed.resolve peer unused 0).recordCallOutcome id clock

/-- The open holds that fail the limit, with their refusals. -/
def holdsOverLimit : List (String × BudgetRefusal) :=
  budget.callReservations.entries.filterMap fun entry =>
    if entry.2.closed ||
      only.any fun call => entry.2.terms.peer ≠ call.1 || entry.2.terms.callId ≠ call.2 then
      none
    else
      match budget.checkCallHold entry.2.terms with
      | .error refusal => some (entry.1, refusal)
      | .ok () => none

/-- Close each open hold that fails the limit. -/
def closeHoldsOverLimit (clock : String → ClockReadings) : GrantBudget × Option BudgetRefusal :=
  let overLimit := budget.holdsOverLimit only
  (overLimit.foldl (fun closing hold => closing.closeCall hold.1 (clock hold.1))
    budget,
    overLimit.getLast?.map Prod.snd)

/-- The hold a draw was lent from, if it is one. -/
def parentOfDraw : Option (String × CallSpend) :=
  budget.callReservations.find? fun _ call => call.terms.peer = peer && call.draws.contains id

/-- A call without one of its draws, which paid the actual amount. -/
def settleDraw (call : CallSpend) (id : String) (actual : UInt64) (paymentFailed : Bool) :
    CallSpend :=
  { call with
    draws := call.draws.erase id
    paymentFailed := call.paymentFailed || (paymentFailed && actual = 0)
    paidSequences :=
      if actual > 0 then call.paidSequences.insert ((call.draws.get? id).getD 0) ()
      else call.paidSequences
    spentMsat := saturatingAdd call.spentMsat actual }

variable (drawn : CallSpend) (reserved actual : UInt64)

/-- Once a hold is closed, its draws resolve against the grant. -/
def returnToGrant : GrantBudget :=
  let released :=
    { drawn with releasedMsat := saturatingAdd drawn.releasedMsat (saturatingSub reserved actual) }
  { budget with callReservations := budget.callReservations.insert parent released }.resolve
    peer reserved actual

/-- An open hold gets back what a draw did not pay. -/
def returnToHold : GrantBudget :=
  let returned :=
    { budget with
      callReservations := budget.callReservations.insert parent drawn
      pending := budget.pending.modify parent fun held =>
        held.modify peer fun remaining =>
          saturatingAdd remaining (saturatingSub reserved actual) }
  if actual > reserved then returned.resolve peer 0 (actual - reserved) else returned

/--
Resolve a consumed reservation against the hold it was drawn from.  The second
component tells whether it was a draw.
-/
def resolveCallDraw (reserved actual : UInt64)
    (paymentFailed : Bool) (clock : ClockReadings) : GrantBudget × Bool :=
  match budget.parentOfDraw id peer with
  | none => (budget, false)
  | some (parent, call) =>
    let drawn := settleDraw call id actual paymentFailed
    let returned :=
      if call.closed then budget.returnToGrant parent peer drawn reserved actual
      else budget.returnToHold parent peer drawn reserved actual
    (returned.recordCallOutcome parent clock, true)

end GrantBudget

/-- The part of a reservation's authority that its meter checks. -/
structure ReservationAuthority where
  paymentIds : List String := []
  payment : Bool := false
  operation : Option OperationReservationLink := none
  /-- The terms of the hold this reservation is. -/
  call : Option CallSpendTerms := none
  /-- A call offer: the call and the caller's cap for it, if any. -/
  callOffer : Option (String × Option UInt64) := none
  deriving Repr, DecidableEq

namespace GrantBudget

variable (budget : GrantBudget) (request : DrawRequest) (parent : String)
  (authority : ReservationAuthority) (charges : List Charge) (id : String) (now : Int)
  (clock : String → ClockReadings) (recipient : String)

/-- The limit of an offer under a matching open hold. -/
def offerLimit : Option UInt64 :=
  if authority.call.isSome then none
  else
    authority.callOffer.bind fun offer =>
      (budget.callReservations.find? fun _ call =>
        !call.closed && call.terms.callId = offer.1 &&
          charges.all fun charge => charge.recipient = call.terms.peer).map
        fun hold => offer.2.getD hold.2.terms.ceiling

/-- The limit on a reservation that its purpose sets. -/
def checkPurpose : Except BudgetRefusal Unit :=
  match authority.call with
  | some terms => budget.checkCallClosing terms
  | none =>
    if authority.payment then .ok ()
    else
      let maxMsat := (budget.offerLimit authority charges).getD budget.messagingPerCallMaxMsat
      match charges.foldlM
        (fun total charge =>
          (checkedAdd total charge.amountMsat).filter fun total => total ≤ maxMsat)
        (0 : UInt64) with
      | none => .error (.perCall maxMsat)
      | some _ => .ok ()

/-- Reserve under the limit of the purpose. -/
def reserveForPurpose : Except BudgetRefusal GrantBudget := do
  budget.checkPurpose authority charges
  match authority.call, budget.offerLimit authority charges with
  | some terms, _ => budget.reserveCallAt charges terms.ceiling now
  | none, some _ =>
    budget.reserveCallAt charges
      (charges.foldl (fun total charge => saturatingAdd total charge.amountMsat) 0)
      now
  | none, none => budget.reserveAt charges now

def chargedByRecipient : OrderedMap String UInt64 :=
  charges.foldl (fun recipients charge =>
    recipients.alter charge.recipient fun old => some (old.getD 0 + charge.amountMsat))
    .empty

/-- Keep an accepted reservation under its identifier. -/
def keepReservation : GrantBudget :=
  let consumed :=
    { budget with
      paymentIds := authority.paymentIds.foldl (fun ids id => ids.insert id ()) budget.paymentIds }
  if charges.isEmpty then consumed
  else
    { consumed with
      pending := budget.pending.insert id (chargedByRecipient charges)
      callReservations := authority.call.elim budget.callReservations fun terms =>
        budget.callReservations.insert id { terms }
      operationLinks := authority.operation.elim budget.operationLinks fun link =>
        budget.operationLinks.insert id link }

/-- Reserve charges on a meter, or remember why they were refused. -/
def reserveSpend : Except BudgetRefusal Unit × GrantBudget :=
  if authority.paymentIds.any fun id => budget.paymentIds.contains id then
    (.error .duplicatePayment, budget)
  else if budget.paymentIds.entries.length + authority.paymentIds.length > 4096 then
    (.error (.ledger "payment deduplication ledger is full; ask the owner for a new grant"), budget)
  else if budget.pending.entries.length ≥ 1024 then
    (.error (.ledger "too many unresolved reservations"), budget)
  else
    match budget.reserveForPurpose authority charges now with
    | .error refusal => (.error refusal, (budget.recordBreakerRefusal refusal now).1)
    | .ok reserved => (.ok (), reserved.keepReservation authority charges id)

/-- Reserve the whole of a call's terms for its peer. -/
def reserveCallSpend (terms : CallSpendTerms) (id : String) (now : Int) :
    Except BudgetRefusal Unit × GrantBudget :=
  budget.reserveSpend { call := some terms }
    [{ recipient := terms.peer, amountMsat := terms.reservedMsat }] id now

/-- Add a quoted message's extra cost to its reservation. -/
def topUpReservation (topUp : UInt64) (now : Int) : Except BudgetRefusal GrantBudget :=
  if topUp > 0 then do
    let reserved ← budget.reserveAt [{ recipient, amountMsat := topUp }] now
    .ok
      { reserved with
        pending := reserved.pending.modify parent fun held =>
          held.modify recipient fun amount => amount + topUp }
  else .ok budget

variable {budget recipient parent} in
theorem topUpReservation_cases {topUp : UInt64} {now : Int} {after : GrantBudget}
    (toppedUp : budget.topUpReservation parent recipient topUp now = .ok after) :
    after = budget ∨ ∃ reserved,
      budget.reserveAt [{ recipient, amountMsat := topUp }] now = .ok reserved ∧
      after =
        { reserved with
          pending := reserved.pending.modify parent fun held =>
            held.modify recipient fun amount => amount + topUp } := by
  unfold topUpReservation at toppedUp
  split at toppedUp
  · simp only [bind, Except.bind] at toppedUp
    split at toppedUp
    · cases toppedUp
    · next reserved isReserved => exact .inr ⟨reserved, isReserved, (Except.ok.inj toppedUp).symm⟩
  · exact .inl (Except.ok.inj toppedUp).symm

/-- What an admission that was quoted again asks of its grant. -/
structure ReadmissionRequest where
  (parent recipient : String)
  (quotedMessageAllIn admissionAllIn callReservedMsat : UInt64)
  /-- The owner's one-time confirmation, if this needs one. -/
  confirmed : Option UInt64
  operation : Option OperationReservationLink
  deriving Repr, DecidableEq

/-- The extra cost of the message, if message and admission may be paid. -/
def checkReadmission (request : ReadmissionRequest) : Except BudgetRefusal UInt64 :=
  match (budget.pending.get? request.parent).bind fun held => held.get? request.recipient with
  | none => .error .noGrant
  | some oldMessage =>
    let topUp := saturatingSub request.quotedMessageAllIn oldMessage
    let maxMsat := budget.messagingPerCallMaxMsat
    match checkedAdd topUp request.admissionAllIn with
    | none => .error (.perCall maxMsat)
    | some need =>
      match checkedAdd request.callReservedMsat need with
      | none => .error (.perCall maxMsat)
      | some total =>
        if total > maxMsat then .error (.perCall maxMsat)
        else if request.confirmed.any fun limit => need > limit then
          .error (.firstContact
            ("the recipient asks " ++ toString need.toNat ++
              " msat to admit you again, more than the " ++
              toString (request.confirmed.getD 0).toNat ++
              " msat you confirmed — nothing was paid"))
        else .ok topUp

/-- Reserve an admission and top up its message together, or neither. -/
def reserveQuotedReadmission (request : ReadmissionRequest) (id : String)
    (now : Int) : Except BudgetRefusal Unit × GrantBudget :=
  match budget.checkReadmission request >>= fun topUp =>
    budget.topUpReservation request.parent request.recipient topUp now with
  | .error refusal => (.error refusal, budget)
  | .ok toppedUp =>
    match toppedUp.reserveSpend { operation := request.operation }
      [{ recipient := request.recipient
         amountMsat := request.admissionAllIn }]
      id now with
    | (.error refusal, _) => (.error refusal, budget)
    | (.ok (), reserved) => (.ok (), reserved)

/-- What a draw asks of its hold. -/
structure DrawRequest where
  (peer callId : String)
  /-- The block, or `u32::MAX` for the closing signal. -/
  seq : Nat
  (price fee : UInt64)
  /-- Whether the draw pays the closing signal. -/
  closing : Bool
  link : OperationReservationLink
  deriving Repr, DecidableEq

/-- The amount a hold may lend to a draw, if it may. -/
def checkDraw (call : CallSpend) : Except BudgetRefusal UInt64 :=
  if call.closed || (!request.closing && request.seq ≥ call.terms.maxCallMinutes.toNat) then
    .error (.unpriced "call reservation is closed or duration cap reached")
  else if !request.closing &&
    (request.price > call.terms.perBlockMsat || request.fee > call.terms.perBlockFeeMsat) then
    .error .callPriceChanged
  else if call.paidSequences.contains request.seq ||
    call.draws.entries.any fun draw => draw.2 = request.seq then
    .error .duplicatePayment
  else
    match checkedAdd request.price request.fee with
    | none => .error .callPriceChanged
    | some amount =>
      if request.closing && amount > call.terms.closingAllowanceMsat then .error .callPriceChanged
      else
        match (budget.pending.get? parent).bind fun held => held.get? request.peer with
        | none => .error (.unpriced "call reservation is not available")
        | some remaining =>
          if amount > remaining then .error (.total remaining) else .ok amount

/-- Lend a part of a hold to a draw with its own identifier. -/
def lendDraw (call : CallSpend) (amount : UInt64) (id : String) : GrantBudget :=
  { budget with
    pending := (budget.pending.modify parent fun held =>
      held.modify request.peer fun remaining => remaining - amount).insert
      id (.singleton request.peer amount)
    callReservations := budget.callReservations.insert parent
      { call with draws := call.draws.insert id request.seq }
    operationLinks := budget.operationLinks.insert id request.link }

/-- Transfer a bounded part of a hold to a recoverable operation. -/
def drawCallSpend : Except BudgetRefusal Unit × GrantBudget :=
  if budget.breakerState.paused then (.error .grantPaused, budget)
  else
    match budget.closeHoldsOverLimit (some (request.peer, request.callId)) clock with
    | (closed, some refusal) => (.error refusal, closed)
    | (_, none) =>
      if !budget.envelopesLive [request.peer] now then (.error .noGrant, budget)
      else if request.closing && request.price > budget.callSignalLimit request.peer then
        (.error (.perCall (budget.callSignalLimit request.peer)), budget)
      else
        match budget.callReservations.find? fun _ call =>
          call.terms.peer = request.peer && call.terms.callId = request.callId with
        | none => (.error (.unpriced "call has no spend reservation"), budget)
        | some (parent, call) =>
          match budget.checkDraw request parent call with
          | .error refusal => (.error refusal, budget)
          | .ok amount => (.ok (), budget.lendDraw request parent call amount id)

/-- The error of resolving a hold as if it were a payment. -/
inductive ResolveError where
  | malformed (reason : String)
  deriving Repr, DecidableEq

/-- The times read while an outcome is resolved. -/
structure ResolveClock where
  call : ClockReadings
  recorded : Int
  deriving Repr, DecidableEq

/-- Take the pending amount of one recipient out of a reservation. -/
def takePending (held : OrderedMap String UInt64) : GrantBudget :=
  let rest := held.erase recipient
  if rest.entries.isEmpty then
    { budget with
      pending := budget.pending.erase id, operationLinks := budget.operationLinks.erase id }
  else { budget with pending := budget.pending.insert id rest }

/-- Resolve one recipient's part of a reservation, once. -/
def resolveSpendOutcome (actualMsat : UInt64)
    (paymentFailed : Bool) (clock : ResolveClock) : Except ResolveError Unit × GrantBudget :=
  if budget.callReservations.contains id then
    (.error (.malformed "a call hold must be closed, not resolved as a payment"), budget)
  else
    match budget.pending.get? id with
    | none => (.ok (), budget)
    | some held =>
      match held.get? recipient with
      | none => (.ok (), budget)
      | some reserved =>
        let taken := budget.takePending id recipient held
        match taken.resolveCallDraw id recipient reserved actualMsat paymentFailed clock.call with
        | (resolved, true) => (.ok (), resolved)
        | (_, false) =>
          (.ok (), (taken.resolve recipient reserved actualMsat).recordOutcome
            reserved actualMsat clock.recorded)

/-- Close a call's hold if it is still open. -/
def closeCallSpend (clock : ClockReadings) : GrantBudget :=
  match budget.callReservations.get? id with
  | none => budget
  | some call => if call.closed then budget else budget.closeCall id clock

/-- Close the holds over the limit and drop old receipts. -/
def pruneCallSpend : GrantBudget :=
  (budget.closeHoldsOverLimit none clock).1.pruneCallTombstones now

end GrantBudget

end BitSov.Spend
