import BitSov.Outbox.Row

namespace BitSov.Payments

open Outbox

/-!
# The ledger of money operations

Opening a channel, sending on chain, paying an invoice and pushing a keysend
all record an operation under the idempotency id of their caller before they
call the backend.  The four routes share one table.  A row is inserted once,
its outcome is written either while it is still pending or against the exact
row it was derived from, and only a pending row may be deleted again.
-/

inductive OpenState where
  /-- Dispatch is in flight, or its outcome was not recorded. -/
  | pending
  /-- The backend gave an ambiguous answer. -/
  | uncertain
  /-- The outcome is final and stored with the row. -/
  | opened
  deriving Repr, DecidableEq

/-- The preferences for a channel's funding transaction. -/
inductive FundingPriority where
  | economy
  | normal
  | fast
  deriving Repr, DecidableEq

/-- The canonical parameters an idempotency id is bound to. -/
inductive Request where
  | pay (bolt11 : String) (maxRoutingFeeMsat : Option UInt64) (paymentHash caller : String)
  | keysend (destPubkey : String) (amountMsat : UInt64) (memo : Option String)
      (maxRoutingFeeMsat : Option UInt64) (caller : String)
  | sendOnchain (address : String) (amountSats : UInt64) (feeRateBits : Option UInt32)
  | openChannel (peerPubkey peerAddr : String) (amountSats : UInt64)
      (pushSats : Option UInt64) (announce : Bool) (fundingPriority : Option FundingPriority)
      (maxFundingFeeSats : Option UInt64) (feeRateBits : Option UInt32)
  deriving Repr, DecidableEq

/-- The status a direct payment is answered with. -/
inductive PaymentProgress where
  | settled
  | inFlight
  deriving Repr, DecidableEq

/-- The response of both direct payment routes. -/
structure DirectPaymentResponse where
  status : PaymentProgress
  (requestId operationId : String)
  replayed : Bool
  maxRoutingFeeMsat : UInt64
  feePaidMsat : Option UInt64
  paymentHash : String
  amountMsat : UInt64
  preimage : String
  message : Option String
  deriving Repr, DecidableEq

/-- What the ledger stores for a direct payment. -/
inductive Receipt where
  | settled (body : DirectPaymentResponse)
  | inFlight (body : DirectPaymentResponse)
  | failed (error : String) (maxRoutingFeeMsat : UInt64)
  deriving Repr, DecidableEq

/-- The answer to an on-chain send whose transaction is known. -/
structure OnchainBody where
  requestId : Option String
  (txid address : String)
  amountSats : UInt64
  confirmedVisible : Bool
  deriving Repr, DecidableEq

/-- What the ledger stores for an on-chain send. -/
inductive OnchainReceipt where
  | returned (body : OnchainBody)
  | notDispatched (reason : String)
  | notReady
  deriving Repr, DecidableEq

structure OpenedChannel where
  channelId : String
  (userChannelId fundingTxo fundingTxid : Option String)
  status : String
  deriving Repr, DecidableEq

/-- The answer to opening a channel. -/
structure ChannelBody where
  channel : OpenedChannel
  peerPubkey : String
  amountSats : UInt64
  recovered : Bool
  deriving Repr, DecidableEq

/-- The stored result of a row; only the route that wrote it can read it. -/
inductive StoredResult where
  | direct (receipt : Receipt)
  | onchain (receipt : OnchainReceipt)
  | channel (body : ChannelBody)
  deriving Repr, DecidableEq

/-- A recorded operation. The digest type is that of request digests. -/
structure ChannelOpenOperation (Digest : Type) where
  operationId : String
  requestHash : Digest
  state : OpenState
  request : Request
  result : Option StoredResult
  lastError : Option String
  (createdAt updatedAt : Int)
  deriving Repr, DecidableEq

variable {Digest : Type}

/-- The row a request inserts before it dispatches. -/
def ChannelOpenOperation.pending (operationId : String) (requestHash : Digest) (request : Request)
    (now : Int) : ChannelOpenOperation Digest where
  operationId
  requestHash
  state := .pending
  request
  result := none
  lastError := none
  createdAt := now
  updatedAt := now

/-- A row with an outcome written over it. -/
def ChannelOpenOperation.conclude (row : ChannelOpenOperation Digest) (state : OpenState)
    (result : Option StoredResult) (lastError : Option String) (now : Int) :
    ChannelOpenOperation Digest :=
  { row with state, result, lastError, updatedAt := now }

/-- The table, one row for each operation id. -/
structure OperationTable (Digest : Type) where
  row : String → Option (ChannelOpenOperation Digest)
  keyed : ∀ id op, row id = some op → op.operationId = id

namespace OperationTable

def empty : OperationTable Digest where
  row _ := none
  keyed := by simp

variable (table : OperationTable Digest) (op : ChannelOpenOperation Digest)

def put : OperationTable Digest where
  row id := if id = op.operationId then some op else table.row id
  keyed := by
    intro id stored found
    split at found
    · next same => rw [← Option.some.inj found, same]
    · exact table.keyed id stored found

variable (key : String)

def remove : OperationTable Digest where
  row id := if id = key then none else table.row id
  keyed := by
    intro id stored found
    split at found
    · cases found
    · exact table.keyed id stored found

/-- Insert a row unless its id is taken. -/
def insertChannelOpenOperation : Bool × OperationTable Digest :=
  match table.row op.operationId with
  | some _ => (false, table)
  | none => (true, table.put op)

/-- Write an outcome over a row that is still pending. -/
def resolveChannelOpenOperation (id : String) (state : OpenState) (result : Option StoredResult)
    (lastError : Option String) (now : Int) : Bool × OperationTable Digest :=
  match table.row id with
  | none => (false, table)
  | some stored =>
    if stored.state = .pending then (true, table.put (stored.conclude state result lastError now))
    else (false, table)

/-- Write an outcome over the row it was derived from, and no other. -/
def recordChannelOpenOutcome [DecidableEq Digest] (table : OperationTable Digest)
    (expected : ChannelOpenOperation Digest) (state : OpenState) (result : Option StoredResult)
    (lastError : Option String) (now : Int) : Bool × OperationTable Digest :=
  if expected.state = .opened then (false, table)
  else
    match table.row expected.operationId with
    | none => (false, table)
    | some stored =>
      if stored.requestHash = expected.requestHash ∧
        stored.createdAt = expected.createdAt ∧
        stored.state = expected.state then
        (true, table.put (stored.conclude state result lastError now))
      else (false, table)

/-- Delete a row that is still pending. -/
def deletePendingChannelOpenOperation : Bool × OperationTable Digest :=
  match table.row key with
  | none => (false, table)
  | some stored =>
    if stored.state = .pending then (true, table.remove key) else (false, table)

@[simp] theorem row_put_self : (table.put op).row op.operationId = some op := if_pos rfl

theorem row_put_of_ne {table : OperationTable Digest} {op : ChannelOpenOperation Digest}
    {id : String} (ne : id ≠ op.operationId) : (table.put op).row id = table.row id := if_neg ne

theorem row_put_eq_some {table : OperationTable Digest} {op row : ChannelOpenOperation Digest}
    {id : String} (found : (table.put op).row id = some row) :
    row = op ∨ table.row id = some row := by
  by_cases same : id = op.operationId
  · rw [same, row_put_self] at found
    exact .inl (Option.some.inj found).symm
  · rw [row_put_of_ne same] at found
    exact .inr found

@[simp] theorem row_remove_self : (table.remove key).row key = none := if_pos rfl

theorem row_remove_of_ne {table : OperationTable Digest} {key id : String} (ne : id ≠ key) :
    (table.remove key).row id = table.row id := if_neg ne

/-- A row as an outcome write of anybody may leave it. -/
structure Concluded (before after : ChannelOpenOperation Digest) : Prop where
  unfinished : before.state ≠ .opened
  sameId : after.operationId = before.operationId
  sameHash : after.requestHash = before.requestHash
  sameRequest : after.request = before.request
  sameCreation : after.createdAt = before.createdAt

/-- What one statement may do to the row of an id. -/
inductive RowChange :
    Option (ChannelOpenOperation Digest) → Option (ChannelOpenOperation Digest) → Prop
  | keep (row : Option (ChannelOpenOperation Digest)) : RowChange row row
  | conclude {before after : ChannelOpenOperation Digest} :
      Concluded before after → RowChange (some before) (some after)

theorem rowChange_put_conclude {table : OperationTable Digest} {key : String} (state result)
    (lastError now) (found : table.row key = some stored)
    (unfinished : stored.state ≠ .opened) (id) :
    RowChange (table.row id) ((table.put (stored.conclude state result lastError now)).row id) := by
  have sameKey := table.keyed key stored found
  by_cases same : id = key
  · have written : (table.put (stored.conclude state result lastError now)).row id =
    some (stored.conclude state result lastError now) := if_pos (by rw [same, ← sameKey]; rfl)
    rw [written, same, found]
    exact .conclude ⟨unfinished, rfl, rfl, rfl, rfl⟩
  · rw [row_put_of_ne (by rw [← sameKey] at same; exact same)]
    exact .keep _

theorem rowChange_resolve (state result lastError now id) : RowChange (table.row id)
      ((table.resolveChannelOpenOperation key state result lastError now).2.row id) := by
  unfold resolveChannelOpenOperation
  split
  · exact .keep _
  next _ found =>
  split
  · next isPending =>
    exact rowChange_put_conclude state result lastError now found (by rw [isPending]; decide) id
  · exact .keep _

theorem rowChange_record [DecidableEq Digest] (table : OperationTable Digest)
    (expected state result lastError now id) : RowChange (table.row id)
      ((table.recordChannelOpenOutcome expected state result lastError now).2.row id) := by
  unfold recordChannelOpenOutcome
  split
  · exact .keep _
  next notOpened =>
  split
  · exact .keep _
  next _ found =>
  split
  · next fence =>
    exact rowChange_put_conclude state result lastError now found
      (by rw [fence.2.2]; exact notOpened) id
  · exact .keep _

end OperationTable

end BitSov.Payments
