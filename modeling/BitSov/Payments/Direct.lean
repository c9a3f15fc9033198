import BitSov.Payments.Calls

namespace BitSov.Payments.Direct

open Core Spend Outbox Process Fallible ApiError

/-!
# Direct Lightning payments

Paying an invoice and pushing a keysend share one program.  It records the
request under the caller's request id, lets only the winner of the insert
reach the budget and the backend, and answers every later request under the
id from the record.
-/

variable {Digest : Type}

inductive Route where
  | pay
  | keysend
  deriving Repr, DecidableEq

/-- The name of a route in operation ids and texts. -/
def Route.name : Route → String
  | .pay => "pay"
  | .keysend => "keysend"

def operationKey (route : Route) (caller : Caller) (requestId : String) : String :=
  route.name ++ ":" ++ caller.scope ++ ":" ++ requestId

/-- How a request and its operation are named. -/
structure Ident where
  route : Route
  (requestId key : String)
  deriving Repr, DecidableEq

/-- Storage failures are not described to the caller. -/
def storage : RouteError :=
  ⟨.storage "payment operation unavailable", none⟩

/-- The text of a payment that has failed for good. -/
def failureText : Route → String
  | .pay => "invoice payment failed before settlement"
  | .keysend => "keysend payment failed before settlement"

/-- The backend's word on a payment is final. -/
def isTerminal (details : PaymentDetails) : Bool :=
  match details.status with
  | .settled => true
  | .failed => true
  | .expired => true
  | .pending => false
  | .inFlight => false

/-- What a caller is told while the outcome is not final. -/
def inFlightMessage : String :=
  "Not settled yet. Repeat this request with the same request_id to learn " ++
    "the outcome, or poll GET /api/v1/payments/\x7bpayment_hash\x7d. " ++
    "Nothing is dispatched again under this request_id."

/-- The actual fee, which only one backend reports. -/
def feePaidMsat (backend : String) (details : PaymentDetails) : Option UInt64 :=
  if backend = "ldk" ∧ details.status = .settled ∧ details.direction = .outgoing then
    details.feeMsat
  else none

/-- The response while nothing more is known than the request. -/
def inFlight (ident : Ident) (op : Dispatch) : DirectPaymentResponse where
  status := .inFlight
  requestId := ident.requestId
  operationId := ident.key
  replayed := false
  maxRoutingFeeMsat := op.maxRoutingFeeMsat
  feePaidMsat := none
  paymentHash := op.paymentHash.getD ""
  amountMsat := op.amountMsat
  preimage := ""
  message := some inFlightMessage

/-- The response from the backend's details; no proof before settlement. -/
def fromDetails (backend : String) (template : DirectPaymentResponse) (details : PaymentDetails) :
    DirectPaymentResponse :=
  let settled := details.status = .settled
  { template with
    paymentHash :=
      if details.paymentHash = "" then template.paymentHash else details.paymentHash
    amountMsat := details.amountMsat
    feePaidMsat := feePaidMsat backend details
    preimage := if settled then details.preimage.getD "" else ""
    status := if settled then .settled else .inFlight
    message := if settled then none else some inFlightMessage }

/-- A successful answer of a direct route. -/
structure Answered where
  /-- Settled is 200, everything else 202. -/
  statusCode : Nat
  body : DirectPaymentResponse
  lastError : Option String := none
  deriving Repr, DecidableEq

def view (body : DirectPaymentResponse) (replayed : Bool) : DirectPaymentResponse :=
  { body with replayed }

/-- The row of an operation id. -/
def getOperation (key : String) : PayM Digest (Option (ChannelOpenOperation Digest)) := do
  match ← ask (PayOp.getOperation key) with
  | .ok row => return row
  | .error _ => known (.error storage)

/-- What an outcome write proved. -/
inductive Recorded where
  | written
  | fenceMissed
  | failed
  deriving Repr, DecidableEq

/-- Record an outcome against the row it was derived from. -/
def record (expected : ChannelOpenOperation Digest) (state : OpenState) (receipt : Option Receipt)
    (lastError : Option String) : PayM Digest Recorded := do
  let write := OutcomeWrite.fenced expected state (receipt.map .direct) lastError
  match ← writeOnce write with
  | some true => return .written
  | some false => return .fenceMissed
  | none => do
    ask (PayOp.spawn write)
    return .failed

/-- Free an id after a proven non-dispatch; never retried. -/
def release (key : String) : PayM Digest Unit := do
  let _ ← ask (PayOp.deletePending key)
  return ()

/-- The backend's final word on an outgoing payment, if it has one. -/
def terminalOutgoing (key paymentHash : String) : PayM Digest (Option PaymentDetails) := do
  match ← ask (PayOp.getPaymentStatus key paymentHash) with
  | some (.ok details) =>
    if details.direction = .outgoing ∧ isTerminal details = true then return some details
    else return none
  | _ => return none

/-- The latest status after one more look at the backend. -/
def latestOf (latest : PaymentDetails) (answer : Option (Except LightningError PaymentDetails)) :
    PaymentDetails :=
  match answer with
  | some (.ok details) => if details.direction = .outgoing then details else latest
  | _ => latest

/-- Look at the backend until the payment is final or the window closes. -/
def pollSettlement (key : String) : Nat → PaymentDetails → PayM Digest PaymentDetails
  | 0, latest => pure latest
  | polls + 1, latest => do
    let answer ← ask (PayOp.getPaymentStatus key latest.paymentHash)
    let latest := latestOf latest answer
    if isTerminal latest then return latest else pollSettlement key polls latest

/-- Give a dispatched payment a short window to settle. -/
def settleBriefly (key : String) (initial : PaymentDetails) : PayM Digest PaymentDetails := do
  if isTerminal initial ∨ initial.paymentHash = "" then return initial
  else
    let polls ← ask PayOp.settleWindow
    pollSettlement key (polls + 1) initial

/-- The stored receipt of a row; another route's bytes are unreadable. -/
def readReceipt (row : ChannelOpenOperation Digest) : Except RouteError (Option Receipt) :=
  match row.result with
  | none => .ok none
  | some (.direct receipt) => .ok (some receipt)
  | some _ => .error storage

/-- Answer a final row; anything else leaves the template of the answer. -/
def replayFinal (ident : Ident) (op : Dispatch) (state : OpenState) (receipt : Option Receipt) :
    Except (Except RouteError Answered) DirectPaymentResponse :=
  match state, receipt with
  | .opened, some (.settled body) => .error (.ok ⟨200, view body true, none⟩)
  | .opened, some (.failed error maxRoutingFeeMsat) =>
    .error (.error (withRoutingFee (.lightning error) maxRoutingFeeMsat))
  | .opened, _ => .error (.error storage)
  | _, some (.inFlight body) => .ok body
  | _, _ => .ok (inFlight ident op)

/-- The answer while the outcome is still open. -/
def stillOpen (row : ChannelOpenOperation Digest) (template : DirectPaymentResponse) :
    Answered where
  statusCode := 202
  body := view { template with status := .inFlight, message := some inFlightMessage } true
  lastError := row.lastError

/-- The operation changed underneath a replay. -/
def changed : RouteError :=
  ⟨.conflict "operation changed concurrently; retry", none⟩

/-- The rows are of one insertion: the same request at the same time. -/
def sameInsertion [DecidableEq Digest] (current expected : ChannelOpenOperation Digest) : Bool :=
  current.requestHash = expected.requestHash ∧ current.createdAt = expected.createdAt

/-- The authoritative row still carries the binding of the expected one. -/
def sameBinding [DecidableEq Digest] (ident : Ident) (expected : ChannelOpenOperation Digest) :
    PayM Digest Unit := do
  match ← getOperation ident.key with
  | some row =>
    if sameInsertion row expected then return () else known (.error changed)
  | none => known (.error changed)

/--
After a lost fence only a final row of the same insertion may answer. The
replay of a final row never asks the backend, so it is `replayFinal`.
-/
def reread [DecidableEq Digest] (ident : Ident) (op : Dispatch)
    (expected : ChannelOpenOperation Digest) : PayM Digest Answered := do
  match ← getOperation ident.key with
  | none => known (.error changed)
  | some current =>
    if !sameInsertion current expected || current.state ≠ .opened then known (.error changed)
    else
      let receipt ← known (readReceipt current)
      match replayFinal ident op .opened receipt with
      | .error answer => known answer
      | .ok _ => known (.error storage)

/-- Keep the snapshot of a payment whose outcome is still open. -/
def recordOpen (expected : ChannelOpenOperation Digest) (body : DirectPaymentResponse) :
    PayM Digest Recorded :=
  if expected.state = .pending then record expected .uncertain (some (.inFlight body)) none
  else pure .written

/-- The answer and the write that follow from the backend's details. -/
def outcomeOf (node : Node Digest) (ident : Ident) (op : Dispatch)
    (expected : ChannelOpenOperation Digest) (details : PaymentDetails) (replayed : Bool) :
    PayM Digest (Recorded × Except RouteError Answered) := do
  let body := fromDetails node.lightningBackend (inFlight ident op) details
  match details.status with
  | .settled =>
    let recorded ← record expected .opened (some (.settled body)) none
    return (recorded, .ok ⟨200, view body replayed, none⟩)
  | .failed | .expired =>
    let error := failureText ident.route
    let recorded ← record expected .opened (some (.failed error op.maxRoutingFeeMsat)) (some error)
    let refusal := withRoutingFee (.lightning error) op.maxRoutingFeeMsat
    return (recorded, .error refusal)
  | .pending | .inFlight =>
    let recorded ← recordOpen expected body
    return (recorded, .ok ⟨202, view body replayed, none⟩)

/-- Report the backend's details and record them against the expected row. -/
def conclude [DecidableEq Digest] (node : Node Digest) (ident : Ident) (op : Dispatch)
    (expected : ChannelOpenOperation Digest) (details : PaymentDetails) (replayed : Bool) :
    PayM Digest Answered := do
  let (recorded, response) ←
    outcomeOf node ident op expected details replayed
  if !replayed then known response
  else
    match recorded with
    | .written => known response
    | .fenceMissed => reread ident op expected
    | .failed => do
      sameBinding ident expected
      known response

/-- The backend's final word on the payment a template names, if it can. -/
def finalWord (key : String) (template : DirectPaymentResponse) :
    PayM Digest (Option PaymentDetails) :=
  if template.paymentHash = "" then pure none else terminalOutgoing key template.paymentHash

/-- Answer a request whose id is already recorded, without dispatching. -/
def replay [DecidableEq Digest] (node : Node Digest) (row : ChannelOpenOperation Digest)
    (ident : Ident) (op : Dispatch) (hash : Digest) : PayM Digest Answered := do
  if row.requestHash ≠ hash then known (.error ⟨.operationConflict "operation_mismatch", none⟩)
  else
    let receipt ← known (readReceipt row)
    match replayFinal ident op row.state receipt with
    | .error answer => known answer
    | .ok template => do
      match ← finalWord ident.key template with
      | some details => conclude node ident op row details true
      | none => return stillOpen row template

/-- Whether a backend call was refused, lost or answered. -/
inductive Guarded (call : MoneyCall) where
  | refused (refusal : BudgetRefusal)
  | unresolved
  | answered (answer : Except LightningError call.Result)

/-- Hand a call over under the authority of its debit and await it. -/
def dispatch (metered : Bool) (binding : Option (Binding Digest)) (call : MoneyCall) :
    PayM Digest (Guarded call) := do
  match ← ask (PayOp.handOver call binding metered) with
  | .error refusal => return .refused refusal
  | .ok () =>
    if metered then
      match ← ask (PayOp.awaitGuarded call binding) with
      | some answer => return .answered answer
      | none => return .unresolved
    else return .answered (← ask (PayOp.awaitCall call binding))

/-- Polled, then lost authority: the backend may have sent. -/
def unresolved : ApiError :=
  .paymentUnresolved
    ("grant invalidated while the provider was pending; " ++ "payment may have dispatched")

/-- What the winner of the insert does. -/
def runFresh [DecidableEq Digest] (node : Node Digest) (ident : Ident) (op : Dispatch)
    (pending : ChannelOpenOperation Digest) (debit : PayM Digest Bool) (call : MoneyCall)
    (details : call.Result → PaymentDetails) : PayM Digest Answered := do
  let cap := op.maxRoutingFeeMsat
  match ← attempt debit with
  | .error refusal => do
    release ident.key
    known (.error { refusal with maxRoutingFeeMsat := some cap })
  | .ok metered => do
    let binding := ⟨ident.key, pending.requestHash, pending.request⟩
    match ← dispatch metered (some binding) call with
    | .refused refusal => do
      ask (PayOp.budget (.released op.recipient))
      release ident.key
      known (.error (withRoutingFee (.budgetExceeded refusal) cap))
    | .unresolved => do
      let _ ← record pending .uncertain none (some unresolved.toText)
      known (.error (withRoutingFee unresolved cap))
    | .answered (.error error) =>
      if notDispatched error then do
        ask (PayOp.budget (.released op.recipient))
        release ident.key
        known (.error (withRoutingFee (apiErrorOf error) cap))
      else do
        let _ ← record pending .uncertain none (some (apiErrorOf error).toText)
        known (.error (withRoutingFee (apiErrorOf error) cap))
    | .answered (.ok result) => do
      let latest ← settleBriefly ident.key (details result)
      ask (PayOp.budget (.resolvePayment op.recipient latest))
      conclude node ident op pending latest false

/-- Saved receipts answer even while the wallet is not money-ready. -/
def readyUnlessRecorded (existing : Option (ChannelOpenOperation Digest)) : PayM Digest Unit :=
  match existing with
  | some _ => pure ()
  | none => requireMoneyReady

/-- Run one direct payment under its request id. -/
def run [DecidableEq Digest] (node : Node Digest) (route : Route) (caller : Caller)
    (requestId : String) (prepare : Except RouteError Dispatch)
    (debit : Dispatch → PayM Digest Bool) (send : Dispatch → MoneyCall)
    (details : (op : Dispatch) → (send op).Result → PaymentDetails) : PayM Digest Answered := do
  let ident : Ident := ⟨route, requestId, operationKey route caller requestId⟩
  let existing ← getOperation ident.key
  readyUnlessRecorded existing
  let op ← known prepare
  let request := op.fingerprint caller.scope
  let hash := node.digest request
  match existing with
  | some row => replay node row ident op hash
  | none => do
    let pending := ChannelOpenOperation.pending ident.key hash request (← ask PayOp.now)
    match ← ask (PayOp.insertOperation pending) with
    | .error _ => known (.error storage)
    | .ok true => runFresh node ident op pending (debit op) (send op) (details op)
    | .ok false => do
      match ← getOperation ident.key with
      | none => known (.error storage)
      | some row => replay node row ident op hash

end BitSov.Payments.Direct
