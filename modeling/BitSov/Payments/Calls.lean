import BitSov.Payments.Operations

namespace BitSov.Payments

open Core Spend Outbox Process

/-!
# What a money route asks of its node

The routes are programs over the calls below: the clock, the operation table,
the budget of a metered caller and the Lightning backend.  A backend call
that moves money is handed over and then awaited, since a request may be
dropped between the two.
-/

structure FundingOptions where
  priority : FundingPriority
  maxFundingFeeSats : Option UInt64
  deriving Repr, DecidableEq

/-- The backend calls that move money. -/
inductive MoneyCall where
  | payInvoiceWithFeeLimit (bolt11 : String) (maxFeeMsat : UInt64)
  | keysendWithFeeLimit (destPubkey : String) (amountMsat : UInt64) (memo : Option String)
      (maxFeeMsat : UInt64)
  | sendOnchain (address : String) (amountSats : UInt64) (feeRateBits : Option UInt32)
  | openChannelWithFunding (peerPubkey peerAddr : String) (amountSats : UInt64)
      (announce : Bool) (options : FundingOptions) (pushMsat : Option UInt64)
  | openChannelWithStatus (peerPubkey peerAddr : String) (amountSats : UInt64)
      (announce : Bool) (feeRateBits : Option UInt32)
  deriving Repr, DecidableEq

/-- A broadcast transaction; its visibility may still be unconfirmed. -/
structure Broadcast where
  txid : String
  confirmedVisible : Bool
  deriving Repr, DecidableEq

/-- What a successful backend call returns. -/
@[reducible] def MoneyCall.Result : MoneyCall → Type
  | .payInvoiceWithFeeLimit _ _ => PaymentDetails
  | .keysendWithFeeLimit _ _ _ _ => PaymentDetails
  | .sendOnchain _ _ _ => Broadcast
  | .openChannelWithFunding _ _ _ _ _ _ => OpenedChannel
  | .openChannelWithStatus _ _ _ _ _ => OpenedChannel

/-- A channel in the backend's list. -/
structure ChannelInfo where
  channelId : String
  (userChannelId fundingTxo : Option String)
  peerPubkey : String
  capacityMsat : UInt64
  deriving Repr, DecidableEq

/-- Who a request id belongs to. -/
inductive Caller where
  | owner
  | client (id : String)
  deriving Repr, DecidableEq

/-- The part of the operation id that names the caller. -/
def Caller.scope : Caller → String
  | .owner => "owner"
  | .client id => "client:" ++ id

/-- The operation a backend call is made for. -/
structure Binding (Digest : Type) where
  key : String
  requestHash : Digest
  request : Request
  deriving Repr, DecidableEq

/-- An outcome write that is retried off the lifetime of its request. -/
inductive OutcomeWrite (Digest : Type) where
  /-- Against the exact row the outcome was derived from. -/
  | fenced (expected : ChannelOpenOperation Digest) (state : OpenState)
      (result : Option StoredResult) (lastError : Option String)
  /-- Against whatever row is still pending. -/
  | pendingOnly (id : String) (state : OpenState) (result : Option StoredResult)
      (lastError : Option String)
  deriving Repr, DecidableEq

/-- Everything a direct route knows about a payment before its dispatch. -/
structure Dispatch where
  /-- The canonical parameters, given the scope of the caller. -/
  fingerprint : String → Request
  paymentHash : Option String
  (amountMsat maxRoutingFeeMsat : UInt64)
  recipient : String

/-- Budget steps that follow the outcome of a payment. -/
inductive BudgetStep where
  | released (recipient : String)
  | resolvePayment (recipient : String) (details : PaymentDetails)
  deriving Repr, DecidableEq

/-- Calls of a money route on its node. -/
inductive PayOp (Digest : Type) where
  | now
  | moneyReady
  | getOperation (id : String)
  | insertOperation (op : ChannelOpenOperation Digest)
  | writeOutcome (write : OutcomeWrite Digest)
  | deletePending (id : String)
  | spawn (write : OutcomeWrite Digest)
  | takeSpawned (write : OutcomeWrite Digest)
  | tryLock (id : String)
  | listChannels
  | fundingFeeQuote (options : FundingOptions)
  | debit (caller : Caller) (amountMsat : UInt64) (recipient : String)
  | budget (step : BudgetStep)
  | handOver (call : MoneyCall) (binding : Option (Binding Digest)) (metered : Bool)
  | awaitCall (call : MoneyCall) (binding : Option (Binding Digest))
  | awaitGuarded (call : MoneyCall) (binding : Option (Binding Digest))
  /-- The status of a payment, read on behalf of an operation. -/
  | getPaymentStatus (key hash : String)
  | settleWindow

variable {Digest : Type}

@[reducible] def PayOp.Answer : PayOp Digest → Type
  | .now => Int
  | .moneyReady => Bool
  | .getOperation _ => Except String (Option (ChannelOpenOperation Digest))
  | .insertOperation _ => Except String Bool
  | .writeOutcome _ => Except String Bool
  | .deletePending _ => Except String Bool
  | .spawn _ => Unit
  | .takeSpawned _ => Unit
  | .tryLock _ => Except ApiError Bool
  | .listChannels => Except String (List ChannelInfo)
  | .fundingFeeQuote _ => Except LightningError String
  | .debit _ _ _ => Except BudgetRefusal Bool
  | .budget _ => Unit
  | .handOver _ _ _ => Except BudgetRefusal Unit
  | .awaitCall call _ => Except LightningError call.Result
  | .awaitGuarded call _ => Option (Except LightningError call.Result)
  | .getPaymentStatus _ _ => Option (Except LightningError PaymentDetails)
  | .settleWindow => Nat

/-- An error of a route, with the fee ceiling of its payment if known. -/
structure RouteError where
  error : ApiError
  maxRoutingFeeMsat : Option UInt64 := none
  deriving Repr, DecidableEq

/-- Attach the fee ceiling to an error. -/
def ApiError.withRoutingFee (error : ApiError) (cap : UInt64) : RouteError :=
  ⟨error, some cap⟩

abbrev PayM (Digest α : Type) :=
  Fallible RouteError (PayOp Digest) PayOp.Answer α

structure Invoice where
  amountMsat : Option UInt64
  (payee paymentHash : String)
  deriving Repr, DecidableEq

/-- The parts of the node the routes depend on. -/
structure Node (Digest : Type) where
  lightningBackend : String
  /-- The digest of canonical request parameters. -/
  digest : Request → Digest
  trim : String → String
  parseInvoice : String → Option Invoice
  /-- The routing fee ceiling for an amount and the caller's own limit. -/
  ceiling : UInt64 → Option UInt64 → UInt64
  validFeeRate : UInt32 → Bool
  /-- The canonical form of a version 4 identifier. -/
  uuidV4 : String → Option String

/-- The backend has positively not dispatched anything. -/
def notDispatched : LightningError → Bool
  | .notReady => true
  | .paymentNotDispatched _ => true
  | .paymentNotFound _ => false
  | .other _ => false

def lightningText : LightningError → String
  | .notReady =>
    "not_ready: Lightning is offline or synchronizing; " ++ "retry when money_ready is true"
  | .paymentNotDispatched reason => "payment not dispatched: " ++ reason
  | .paymentNotFound hash => "payment not found: " ++ hash
  | .other reason => reason

/-- A backend error as the API reports it. -/
def apiErrorOf : LightningError → ApiError
  | .notReady => .notReady
  | .paymentNotDispatched reason => .notDispatched reason
  | error => .lightning (lightningText error)

open Fallible

/-- Nothing moves money before the wallet has started safely. -/
def requireMoneyReady : PayM Digest Unit := do
  if ← ask PayOp.moneyReady then return () else known (.error ⟨.notReady, none⟩)

/-- Fail with an error under a condition. -/
def refuseIf (condition : Bool) (error : RouteError) : PayM Digest Unit :=
  if condition then known (.error error) else pure ()

/-- One attempt to write an outcome; nothing is known after an error. -/
def writeOnce (write : OutcomeWrite Digest) : PayM Digest (Option Bool) := do
  match ← ask (PayOp.writeOutcome write) with
  | .ok written => return some written
  | .error _ => return none

/-- The pauses in milliseconds before each further attempt. -/
def retryDelays : List Nat :=
  [100, 500, 1000, 5000, 30000]

/-- Attempt a write again after each pause until storage has answered. -/
def retryAfter (write : OutcomeWrite Digest) : List Nat → PayM Digest Unit
  | [] => pure ()
  | _ :: later => do
    if (← writeOnce write).isSome then return () else retryAfter write later

/-- The detached task that retries an outcome write. -/
def retryOutcome (write : OutcomeWrite Digest) : PayM Digest Unit := do
  ask (PayOp.takeSpawned write)
  retryAfter write retryDelays

end BitSov.Payments
