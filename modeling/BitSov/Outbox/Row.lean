import BitSov.Core.Gate
import BitSov.Spend.Replay

namespace BitSov.Outbox

open Core Spend Arithmetic Encoding

/-!
# Rows of the outbox

One row of the outbox table journals one single-recipient send under the
operation id its caller chose.  The row carries its state, the hashes of its
payments and an encoded recovery record: the encrypted draft, the evidence of
dispatch and settlement, and the budget reservations that still have to be
resolved.  Recovery reads the row and never dispatches money.
-/

inductive OperationState where
  | prepared
  | paying
  | paymentUnknown
  | paid
  | sent
  | acked
  | rejectedRetryable
  | failedPaid
  | released
  | abandoned
  deriving Repr, DecidableEq

inductive ApiError where
  | operation (source : ApiError) (operationId : String) (state : OperationState)
      (paymentHash : Option String) (retryAllowed : Bool)
  | operationConflict (reason : String)
  | notReady
  | notDispatched (reason : String)
  | priceCapExceeded (reason : String)
  | budgetExceeded (refusal : BudgetRefusal)
  | paymentUnresolved (reason : String)
  | paymentProofUnavailable (amountMsat : UInt64) (reason : String)
  | badRequest (reason : String)
  | conflict (reason : String)
  | forbidden (reason : String)
  | storage (reason : String)
  | lightning (reason : String)
  | internal (reason : String)
  | tooManyRequests (reason : String)
  deriving Repr, DecidableEq

def ApiError.toText : ApiError → String
  | .operation source _ _ _ _ => source.toText
  | .operationConflict reason => reason
  | .notReady => "Lightning is offline or synchronizing; retry when money_ready is true"
  | .notDispatched reason => "not dispatched: " ++ reason
  | .priceCapExceeded reason => "price cap exceeded: " ++ reason
  | .budgetExceeded refusal => "budget exceeded: " ++ refusal.toText
  | .paymentUnresolved reason => "payment outcome unknown: " ++ reason
  | .paymentProofUnavailable _ reason => "payment settled but proof unavailable: " ++ reason
  | .badRequest reason => "bad request: " ++ reason
  | .conflict reason => "conflict: " ++ reason
  | .forbidden reason => "forbidden: " ++ reason
  | .storage reason => "storage error: " ++ reason
  | .lightning reason => "lightning error: " ++ reason
  | .internal reason => "internal error: " ++ reason
  | .tooManyRequests reason => "too many requests: " ++ reason

/-- An error of the outbox store. -/
def storage (reason : String) : ApiError :=
  .storage ("outbox operation: " ++ reason)

/-- The Lightning errors an operation tells apart. -/
inductive LightningError where
  | notReady
  | paymentNotDispatched (reason : String)
  | paymentNotFound (hash : String)
  | other (reason : String)
  deriving Repr, DecidableEq

/-- A queued resolution; an unknown amount keeps the full liability. -/
structure BudgetResolution where
  reservation : Reservation
  paymentFailed : Bool := false
  actualMsat : Option UInt64
  deriving Repr, DecidableEq

/-- The recovery record of an operation. -/
structure Recovery where
  callOffer : Option String := none
  callBlock : Option (String × UInt32) := none
  caller : Option String := none
  executionId : Option String := none
  budgetAdmissionMsat : UInt64 := 0
  draft : Option UkmEnvelope := none
  envelopeReady : Bool := false
  dispatched : Bool := false
  expectedMsat : UInt64 := 0
  settlement : Option PaymentDetails := none
  ldkFeeEvidence : Bool := false
  reservation : Option Reservation := none
  feeCeilingMsat : UInt64 := 0
  admissionMsat : UInt64 := 0
  admissionFeeMsat : Option UInt64 := none
  admissionFeePaidMsat : Option UInt64 := none
  readmissionFeePaidMsat : Option UInt64 := none
  compactedFeePaidMsat : Option UInt64 := none
  admissionPending : Bool := false
  admissionExpectedMsat : UInt64 := 0
  admissionIsReadmission : Bool := false
  admissionReservation : Option Reservation := none
  budgetResolutions : List BudgetResolution := []
  deriving Repr, DecidableEq

/--
The recovery bytes of a row.  Bytes of earlier builds may decode to a record
that would be encoded differently now, and bytes may not decode at all.
-/
inductive RecoveryBytes where
  | empty
  | written (data : Recovery)
  | legacy (data : Recovery)
  | unreadable (reason : String)
  deriving Repr, DecidableEq

/-- One row of the outbox table. -/
structure OutboxOperation where
  (operationId recipient : String)
  kind : Int
  requestHash : String
  state : OperationState
  paymentHash : Option String := none
  admissionPaymentHash : Option String := none
  messageId : Option String := none
  settledMsat : Int := 0
  readmissionMsat : Int := 0
  (createdAt updatedAt : Int)
  lastSentAt : Option Int := none
  attempts : Int := 0
  lastError : Option String := none
  version : Int := 0
  recovery : RecoveryBytes := .empty
  accountingPending : Bool := true
  recoveryCompacted : Bool := false
  deriving Repr, DecidableEq

variable (op : OutboxOperation)

/-- Decode the recovery record; rows of the first build have none. -/
def recovery : Except ApiError Recovery :=
  match op.recovery with
  | .empty =>
    if "legacy:".isPrefixOf op.operationId then .ok {}
    else .error (storage "EOF while parsing a value at line 1 column 0")
  | .written data => .ok data
  | .legacy data => .ok data
  | .unreadable reason => .error (storage reason)

variable (data : Recovery)

/-- Encode the recovery record and note whether accounting is open. -/
def encode : OutboxOperation :=
  { op with
    accountingPending := data.reservation.isSome || data.admissionReservation.isSome ||
      data.admissionPending || !data.budgetResolutions.isEmpty
    recovery := .written data }

def failedOrExpired (status : PaymentStatus) : Bool :=
  status = .failed || status = .expired

/-- Whether reported details are the settlement of the row's payment. -/
def settlementMatches (details : PaymentDetails) : Bool :=
  details.status = .settled && details.direction = .outgoing &&
    some details.paymentHash = op.paymentHash &&
    details.amountMsat = data.expectedMsat

def BudgetResolution.resolvesFor (resolution : BudgetResolution) (reservation : Reservation) :
    Bool :=
  resolution.reservation.id = reservation.id && resolution.reservation.opId = reservation.opId

/-- Queue an outcome, or complete the one already queued. -/
def mergeResolution (reservation : Reservation) (actualMsat : Option UInt64)
    (paymentFailed : Bool) : List BudgetResolution → List BudgetResolution
  | [] => [{ reservation, actualMsat, paymentFailed }]
  | existing :: rest =>
    if existing.resolvesFor reservation then
      { existing with
        actualMsat :=
          if existing.actualMsat.isNone then actualMsat else existing.actualMsat
        paymentFailed := existing.paymentFailed || paymentFailed } ::
        rest
    else existing :: mergeResolution reservation actualMsat paymentFailed rest

/-- Whether the recorded evidence shows that the payment failed. -/
def Recovery.paymentFailed : Bool :=
  data.settlement.any fun payment =>
    payment.direction = .outgoing &&
      payment.amountMsat = data.expectedMsat &&
      failedOrExpired payment.status

/-- Queue the outcome of a reservation in the recovery record. -/
def queueResolution (reservation : Reservation) (actualMsat : Option UInt64) : Recovery :=
  let paymentFailed := actualMsat = some 0 && data.paymentFailed
  { data with
    budgetResolutions := mergeResolution reservation actualMsat paymentFailed
      data.budgetResolutions }

/-- What a message cost with its fee and the admission before it. -/
def messageTotal (principal : UInt64) (fee : Option UInt64) : Option UInt64 := do
  let paid ← checkedAdd principal (← fee)
  let withAdmission ← checkedAdd paid data.budgetAdmissionMsat
  checkedAdd withAdmission (← data.admissionFeeMsat)

/-- Queue the outcome of the message's own reservation. -/
def queueMessageResolution (principal : UInt64) (fee : Option UInt64) : Recovery :=
  match data.reservation with
  | none => data
  | some reservation => queueResolution data reservation (messageTotal data principal fee)

/-- The resolutions that the recorded evidence allows to queue. -/
def queueRecovered : Recovery :=
  match data.settlement.filter (settlementMatches op data) with
  | some details => queueMessageResolution data details.amountMsat details.feeMsat
  | none =>
    if op.state = .released ∨
      (!data.dispatched && !data.admissionPending && !data.envelopeReady) ∨
      (data.envelopeReady && !data.dispatched &&
        data.expectedMsat = 0 &&
        data.draft.any fun envelope => envelope.paymentProof.amountMsat = 0) then
      queueMessageResolution data 0 (some 0)
    else data

/-- The queue entries that a drain resolves, in order. -/
def knownOutcomes (resolutions : List BudgetResolution) : List KnownOutcome :=
  resolutions.filterMap fun resolution =>
    resolution.actualMsat.map fun actualMsat =>
      { reservation := resolution.reservation
        actualMsat
        paymentFailed := resolution.paymentFailed }

end BitSov.Outbox
