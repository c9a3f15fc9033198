import BitSov.Admission.Journal

namespace BitSov.Outbox

open Core Spend Admission Process

/-!
# What an operation asks of its node

Composing and recovering an operation are programs over the calls below: the
clock, the outbox table, the delivery store, the grant ledger, the wallet, the
admission journal and the call store.  Every row is saved with the version it
was loaded with, and a save fails if the stored row has moved on.
-/

structure OutboxTable where
  row : String → Option OutboxOperation
  keyed : ∀ id op, row id = some op → op.operationId = id

/-- A stored row with the columns an update writes taken from another. -/
def OutboxOperation.overwrite (stored op : OutboxOperation) : OutboxOperation :=
  { op with
    operationId := stored.operationId, recipient := stored.recipient, kind := stored.kind,
    requestHash := stored.requestHash, createdAt := stored.createdAt,
    version := stored.version + 1 }

namespace OutboxTable

variable (table : OutboxTable) (op : OutboxOperation)

def put : OutboxTable where
  row id := if id = op.operationId then some op else table.row id
  keyed := by
    intro id stored found
    split at found
    · next same => rw [← Option.some.inj found, same]
    · exact table.keyed id stored found

/-- Overwrite a row unless its version has moved on. -/
def updateOutboxOperation : Bool × OutboxTable :=
  match table.row op.operationId with
  | none => (false, table)
  | some stored =>
    if stored.version = op.version then (true, table.put (stored.overwrite op)) else (false, table)

@[simp] theorem row_put_self : (table.put op).row op.operationId = some op := if_pos rfl

theorem row_put_of_ne {table : OutboxTable} {op : OutboxOperation} {id : String}
    (ne : id ≠ op.operationId) : (table.put op).row id = table.row id := if_neg ne

theorem put_eq_self {table : OutboxTable} {op : OutboxOperation}
    (stored : table.row op.operationId = some op) : table.put op = table := by
  have sameRow : (table.put op).row = table.row := by
    funext id
    by_cases same : id = op.operationId
    · rw [same, row_put_self, stored]
    · exact row_put_of_ne same
  cases table
  simp only [put] at sameRow ⊢
  congr

@[simp] theorem put_put (sameId : second.operationId = first.operationId) :
    (table.put first).put second = table.put second := by
  have sameRow : ((table.put first).put second).row = (table.put second).row := by
    funext id
    by_cases same : id = second.operationId
    · rw [same, row_put_self, row_put_self]
    · rw [row_put_of_ne same, row_put_of_ne same, row_put_of_ne (by rwa [← sameId])]
  simp only [put] at sameRow ⊢
  congr

end OutboxTable

/-- The parts of the node's state an operation depends on. -/
structure AppState where
  nodeId : NodeId
  /-- Whether there is a pairing service with grants. -/
  pairing : Bool
  lightningBackend : String
  deriving Repr, DecidableEq

inductive Purpose where
  | message
  | admission
  deriving Repr, DecidableEq

/-- One payment an execution hands to the wallet. -/
structure PaymentRequest where
  (operationId executionId : String)
  purpose : Purpose
  /-- The version of the row that announced the payment. -/
  version : Int
  /-- An invoice's hash; a keysend has none yet. -/
  hash : Option String
  amountMsat : UInt64
  deriving Repr, DecidableEq

/-- Why a payment was refused before it was handed over. -/
inductive DispatchRefusal where
  | budgetExceeded (refusal : BudgetRefusal)
  | notDispatched (reason : String)
  deriving Repr, DecidableEq

/-- The listings of the outbox table. -/
inductive OperationQuery where
  | recoverable
  | failedPrepared
  | compactable (before : Int) (limit : Nat)
  deriving Repr, DecidableEq

/-- The steps of the call store that follow an operation. -/
inductive CallStep where
  | revalidateOutgoingBlock (peer : NodeId) (plaintext : String)
  | settleOperation (op : OutboxOperation) (release : Bool)
  | releaseAbandoned (operationId : String)
  | pending
  deriving Repr, DecidableEq

/-- Calls of an operation on its node. -/
inductive OutboxOp where
  | now
  | newUuid
  | insertOperation (op : OutboxOperation)
  | getOperation (id : String)
  | updateOperation (op : OutboxOperation)
  | commitEnvelope (op : OutboxOperation) (envelope : UkmEnvelope)
  | listOperations (query : OperationQuery)
  | getMessage (id : String)
  | updateMessageWrapper (envelope : UkmEnvelope)
  | deleteMessage (id : String)
  | getPendingForPeer (peer : NodeId)
  | markPendingSent (messageId peer : String)
  | recordOutboxSent (messageId peer : String)
  | recordOutgoingWebRequest (envelope : UkmEnvelope)
  | send (peer : NodeId) (envelope : UkmEnvelope)
  | tryResolveSpendOutcome (reservation : Reservation) (recipient : String) (actualMsat : UInt64)
      (paymentFailed : Bool)
  | pendingOperationReservations
  | getPaymentStatus (hash : String)
  | authorizeDispatch (request : PaymentRequest)
  | handOver (request : PaymentRequest)
  | awaitPayment (request : PaymentRequest)
  | loadAttempt (peer : NodeId)
  | undoUndispatched (peer : NodeId) (hash : String)
  | callStore (step : CallStep)
  | observe (question : String)

@[reducible] def OutboxOp.Answer : OutboxOp → Type
  | .now => Int
  | .newUuid => String
  | .insertOperation _ => Except String Bool
  | .getOperation _ => Except String (Option OutboxOperation)
  | .updateOperation _ => Except String Bool
  | .commitEnvelope _ _ => Except String Bool
  | .listOperations _ => Except String (List OutboxOperation)
  | .getMessage _ => Except String (Option UkmEnvelope)
  | .updateMessageWrapper _ => Except String Unit
  | .deleteMessage _ => Except String Unit
  | .getPendingForPeer _ => Except String (List String)
  | .markPendingSent _ _ => Except String Unit
  | .recordOutboxSent _ _ => Except String Unit
  | .recordOutgoingWebRequest _ => Except String Unit
  | .send _ _ => Bool
  | .tryResolveSpendOutcome _ _ _ _ => Except String Unit
  | .pendingOperationReservations => List (OperationReservationLink × Reservation)
  | .getPaymentStatus _ => Except LightningError PaymentDetails
  | .authorizeDispatch _ => Except DispatchRefusal Unit
  | .handOver _ => Unit
  | .awaitPayment _ => Except ApiError (Except LightningError PaymentDetails)
  | .loadAttempt _ => Except ApiError (Option AttemptFile)
  | .undoUndispatched _ _ => Except ApiError Bool
  | .callStore _ => Except String (List String)
  | .observe _ => String

/-- Programs over these calls. -/
abbrev OutboxM (α : Type) :=
  Fallible ApiError OutboxOp OutboxOp.Answer α

namespace OutboxM

open Fallible

def now : OutboxM Int :=
  ask OutboxOp.now

def ofStore {α : Type} (answer : Except String α) : OutboxM α :=
  known (answer.mapError storage)

/-- Resolve one part of a reservation in the ledger. -/
def tryResolveSpendOutcome (reservation : Reservation) (recipient : String) (actualMsat : UInt64)
    (paymentFailed : Bool) : OutboxM Unit := do
  ofStore (← ask (OutboxOp.tryResolveSpendOutcome reservation recipient actualMsat paymentFailed))

end OutboxM

open Fallible

/-- Save a row over the version it was loaded with. -/
def save (op : OutboxOperation) : OutboxM OutboxOperation := do
  let op := { op with updatedAt := ← OutboxM.now }
  let saved ← OutboxM.ofStore (← ask (OutboxOp.updateOperation op))
  if saved then return { op with version := op.version + 1 }
  else
    known (.error (.conflict "operation changed concurrently; read its current state"))

def stillHeld (resolved : Reservation) (held : Option Reservation) : Option Reservation :=
  if held.any fun other => other.id = resolved.id && other.opId = resolved.opId then none else held

def Recovery.forget (data : Recovery) (resolved : Reservation) : Recovery :=
  { data with
    reservation := stillHeld resolved data.reservation
    admissionReservation := stillHeld resolved data.admissionReservation }

/-- Resolve the queued outcomes that are known. -/
def drainEach (recipient : String) : List BudgetResolution → Recovery → OutboxM Recovery
  | [], data => pure data
  | resolution :: rest, data =>
    match resolution.actualMsat with
    | none => drainEach recipient rest data
    | some actualMsat => do
      OutboxM.tryResolveSpendOutcome resolution.reservation recipient
        actualMsat resolution.paymentFailed
      drainEach recipient rest (data.forget resolution.reservation)

/-- Resolve the known outcomes of a row, then take them off its queue. -/
def drainResolutions (state : AppState) (op : OutboxOperation) : OutboxM OutboxOperation := do
  if !state.pairing then return op
  let data ← known (recovery op)
  let drained ← drainEach op.recipient data.budgetResolutions data
  let remaining := data.budgetResolutions.filter fun resolution => resolution.actualMsat.isNone
  if data.budgetResolutions.length ≠ remaining.length then
    save (encode op { drained with budgetResolutions := remaining })
  else return op

/-- Queue what the recorded evidence settles, then drain the queue. -/
def recoverBudget (state : AppState) (op : OutboxOperation) : OutboxM OutboxOperation := do
  if !op.accountingPending then return op
  let data ← known (recovery op)
  let queued := encode op (queueRecovered op data)
  let saved ←
    if queued.recovery ≠ op.recovery ∨
      queued.accountingPending ≠ op.accountingPending then
      save queued
    else pure queued
  drainResolutions state saved

end BitSov.Outbox
