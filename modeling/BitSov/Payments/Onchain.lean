import BitSov.Payments.Direct

namespace BitSov.Payments

open Spend Outbox Process Fallible PayOp

/-!
# The routes that send on chain and open channels

Both record their operation in the same table as direct payments.  Recovery
only reads: an on-chain send is never inferred from an address or an amount,
and a channel only from a unique match in the backend's own list.
-/

variable {Digest : Type}

def callBackend (binding : Option (Binding Digest)) (call : MoneyCall) :
    PayM Digest (Except LightningError call.Result) := do
  match ← ask (handOver call binding false) with
  | .error refusal => known (.error ⟨.budgetExceeded refusal, none⟩)
  | .ok () => ask (awaitCall call binding)

namespace Onchain

structure SendOnchainRequest where
  requestId : Option String
  address : String
  amountSats : UInt64
  feeRateBits : Option UInt32
  deriving Repr, DecidableEq

/-- A successful answer: the transaction, or that nothing final is known. -/
inductive Answered where
  | returned (body : OnchainBody)
  | unresolved (requestId : String) (uncertain : Bool)
  deriving Repr, DecidableEq

/-- Storage failures are not described to the caller. -/
def storage : RouteError :=
  ⟨.storage "on-chain operation unavailable", none⟩

def response : OnchainReceipt → Except RouteError Answered
  | .returned body => .ok (.returned body)
  | .notDispatched reason => .error ⟨.notDispatched reason, none⟩
  | .notReady => .error ⟨.notReady, none⟩

/-- Answer a request whose id is already recorded. -/
def replay [DecidableEq Digest] (op : ChannelOpenOperation Digest) (id : String) (hash : Digest) :
    Except RouteError Answered :=
  if op.requestHash ≠ hash then .error ⟨.operationConflict "operation_mismatch", none⟩
  else
    match op.result with
    | some (.onchain receipt) => response receipt
    | some _ => .error storage
    | none => .ok (.unresolved id (op.state = .uncertain))

/-- The checks before an operation is recorded. -/
def validate (node : Node Digest) (req : SendOnchainRequest) : PayM Digest Unit := do
  requireMoneyReady
  match req.feeRateBits with
  | none => return ()
  | some rate =>
    if node.validFeeRate rate then return ()
    else known (.error ⟨.notDispatched "invalid fee rate", none⟩)

/-- Call the backend. -/
def dispatch (binding : Option (Binding Digest)) (req : SendOnchainRequest) :
    PayM Digest (Except LightningError OnchainBody) := do
  let answer ←
    callBackend binding (.sendOnchain req.address req.amountSats req.feeRateBits)
  return answer.map fun (sent : Broadcast) =>
    ⟨none, sent.txid, req.address, req.amountSats, sent.confirmedVisible⟩

/-- Write the outcome of a send, and go on writing it after an error. -/
def recordOutcome (write : OutcomeWrite Digest) : PayM Digest Unit := do
  if (← writeOnce write).isSome then return () else ask (spawn write)

variable [DecidableEq Digest] (node : Node Digest) (req : SendOnchainRequest)

/-- Send under a client's request id. -/
def run (requestId : String) : PayM Digest Answered := do
  match node.uuidV4 requestId with
  | none => known (.error ⟨.badRequest "request_id must be a UUIDv4", none⟩)
  | some id => do
    let key := "send-onchain:" ++ id
    let request := Request.sendOnchain req.address req.amountSats req.feeRateBits
    let hash := node.digest request
    match ← ask (getOperation key) with
    | .error _ => known (.error storage)
    | .ok (some op) => known (replay op id hash)
    | .ok none => do
      validate node req
      let pending := ChannelOpenOperation.pending key hash request (← ask now)
      match ← ask (insertOperation pending) with
      | .error _ => known (.error storage)
      | .ok false => do
        match ← ask (getOperation key) with
        | .ok (some op) => known (replay op id hash)
        | _ => known (.error storage)
      | .ok true => do
        match ← dispatch (some ⟨key, hash, request⟩) req with
        | .ok body => do
          let body := { body with requestId := some id }
          recordOutcome (.pendingOnly key .opened (some (.onchain (.returned body))) none)
          known (response (.returned body))
        | .error error =>
          if notDispatched error then do
            let _ ← ask (deletePending key)
            known (.error ⟨apiErrorOf error, none⟩)
          else do
            recordOutcome (.pendingOnly key .uncertain none (some (apiErrorOf error).toText))
            return .unresolved id true

/-- The route; a request without an id has no retry protection. -/
def send : PayM Digest Answered := do
  match req.requestId with
  | some requestId => run node req requestId
  | none => do
    validate node req
    match ← dispatch none req with
    | .ok body => return .returned body
    | .error error => known (.error ⟨apiErrorOf error, none⟩)

end Onchain

namespace ChannelOpen

structure OpenChannelRequest where
  fundingPriority : Option FundingPriority
  dryRun : Bool
  maxFundingFeeSats : Option UInt64
  (peerPubkey peerAddr : String)
  amountSats : UInt64
  pushSats : Option UInt64
  announce : Bool
  feeRateBits : Option UInt32
  operationId : Option String
  deriving Repr, DecidableEq

/-- A successful answer of the route. -/
inductive Answered where
  | preview (quote : String)
  | opened (body : ChannelBody) (operationId : Option String) (replayed : Bool)
  | unfinished (operationId : String) (uncertain : Bool) (lastError : Option String)
      (peerChannels : Option (List ChannelInfo))
  deriving Repr, DecidableEq

/-- An error of the operation store. -/
def storage (reason : String) : RouteError :=
  ⟨.storage ("channel open operation: " ++ reason), none⟩

variable (op : ChannelOpenOperation Digest) (req : OpenChannelRequest)

/-- The canonical record of the parameters an operation id binds. -/
def openChannelFingerprint : Request :=
  .openChannel req.peerPubkey.toLower req.peerAddr req.amountSats
    req.pushSats req.announce req.fundingPriority req.maxFundingFeeSats
    req.feeRateBits

def uniqueChannelMatch (channels : List ChannelInfo) (peer : String) (capacitySats : UInt64) :
    Option ChannelInfo :=
  if capacitySats.toNat * 1000 < 2 ^ 64 then
    match channels.filter fun channel =>
      channel.peerPubkey.toLower = peer.toLower && channel.capacityMsat = capacitySats * 1000 with
    | [only] => some only
    | _ => none
  else none

/-- A channel found in the backend's list as the answer of its opening. -/
def recoveredBody (channel : ChannelInfo) : ChannelBody where
  channel := ⟨channel.channelId, channel.userChannelId, channel.fundingTxo,
    channel.fundingTxo.bind fun txo =>
      match txo.splitOn ":" with
      | txid :: _ :: _ => some txid
      | _ => none,
    "pending_visibility"⟩
  peerPubkey := req.peerPubkey
  amountSats := req.amountSats
  recovered := true

/-- How old a pending row must be before its owner may settle it. -/
def staleAfterMs : Int :=
  10 * 60 * 1000

variable (channels : Option (List ChannelInfo))

/-- Settle a row that a crash left pending, from the backend's channels. -/
def settleStale : PayM Digest (ChannelOpenOperation Digest) := do
  let recovered :=
    (channels.bind fun found =>
      uniqueChannelMatch found req.peerPubkey req.amountSats).map (recoveredBody req)
  let write :=
    match recovered with
    | some body => OutcomeWrite.pendingOnly op.operationId .opened (some (.channel body)) none
    | none =>
      .pendingOnly op.operationId .uncertain none
        (some ("stale pending open has no unique peer/capacity match or " ++
          "channels are unavailable; inspect GET /payments/channels " ++
          "before choosing a new operation_id"))
  match ← ask (writeOutcome write) with
  | .error reason => known (.error (storage reason))
  | .ok _ =>
    match ← ask (getOperation op.operationId) with
    | .error reason => known (.error (storage reason))
    | .ok none => known (.error Direct.changed)
    | .ok (some current) => return current

/-- Answer a recorded operation that has been brought up to date. -/
def answerRecorded : Except RouteError Answered :=
  if op.state = .opened then
    match op.result with
    | some (.channel body) => .ok (.opened body (some op.operationId) true)
    | _ => .error (storage "unreadable result")
  else .ok (.unfinished op.operationId (op.state = .uncertain) op.lastError channels)

/-- Answer a retry without dispatching. -/
def replayChannelOpen [DecidableEq Digest] (op : ChannelOpenOperation Digest) (requestHash : Digest)
    (req : OpenChannelRequest) (ownsOperation : Bool) : PayM Digest Answered := do
  if op.requestHash ≠ requestHash then
    known (.error ⟨.operationConflict "operation_mismatch", none⟩)
  else if op.state = .opened then known (answerRecorded op none)
  else do
    let listed ← ask listChannels
    let channels :=
      listed.toOption.map fun all =>
        all.filter fun channel => channel.peerPubkey.toLower = req.peerPubkey.toLower
    let now ← ask now
    if ownsOperation ∧ op.state = .pending ∧ now - op.createdAt > staleAfterMs then do
      let current ← settleStale op req channels
      known (answerRecorded current channels)
    else known (answerRecorded op channels)

/-- The largest amount in satoshis whose millisatoshis still fit. -/
def maxChannelAmountSats : Nat :=
  (2 ^ 64 - 1) / 1000

/-- Refuse a request before anything is dialed. -/
def refuse (reason : String) : RouteError :=
  ⟨.notDispatched reason, none⟩

/-- Some funding term is given explicitly. -/
def isExplicit : Bool :=
  req.fundingPriority.isSome || req.maxFundingFeeSats.isSome || req.pushSats.isSome

def checkParameters (node : Node Digest) (req : OpenChannelRequest) :
    PayM Digest (Option UInt64) := do
  refuseIf
    (req.amountSats = 0 || maxChannelAmountSats < req.amountSats.toNat)
    (refuse "amount_sats must be between 1 and 18446744073709551")
  requireMoneyReady
  refuseIf
    (req.feeRateBits.any fun rate => !node.validFeeRate rate)
    (refuse "invalid fee rate")
  refuseIf
    (req.maxFundingFeeSats.any fun cap => cap = 0 || 2100000000000000 < cap)
    (refuse "max_funding_fee_sats must be between 1 and 2100000000000000")
  refuseIf
    (req.pushSats.any fun push => req.amountSats / 2 < push)
    (refuse "push_sats must not exceed amount_sats / 2")
  refuseIf
    (req.pushSats.any fun push => 2 ^ 64 ≤ push.toNat * 1000)
    (refuse "push_sats overflows millisatoshis")
  refuseIf
    (req.feeRateBits.isSome && (isExplicit req || req.dryRun))
    (refuse
      ("exact fee_rate_sat_per_vb cannot be combined with funding " ++
        "priority, fee cap, push, or preview"))
  return req.pushSats.map fun push => push * 1000

/-- Open the channel with or without explicit funding terms. -/
def openChannel (binding : Option (Binding Digest)) (req : OpenChannelRequest)
    (options : FundingOptions) (pushMsat : Option UInt64) :
    PayM Digest (Except LightningError OpenedChannel) :=
  if isExplicit req then
    callBackend binding
      (.openChannelWithFunding req.peerPubkey req.peerAddr req.amountSats
        req.announce options pushMsat)
  else
    callBackend binding
      (.openChannelWithStatus req.peerPubkey req.peerAddr req.amountSats
        req.announce req.feeRateBits)

/-- The answer to a channel that has just been opened. -/
def openedBody (channel : OpenedChannel) : ChannelBody where
  channel
  peerPubkey := req.peerPubkey
  amountSats := req.amountSats
  recovered := false

variable (options : FundingOptions) (pushMsat : Option UInt64)

/-- Open a channel for a recorded operation and write its outcome. -/
def openRecorded (binding : Binding Digest) : PayM Digest Answered := do
  match ← openChannel (some binding) req options pushMsat with
  | .error error =>
    if notDispatched error then do
      let _ ← ask (deletePending binding.key)
      known (.error ⟨apiErrorOf error, none⟩)
    else do
      let _ ← ask (writeOutcome
        (.pendingOnly binding.key .uncertain none (some (lightningText error))))
      known (.error ⟨apiErrorOf error, none⟩)
  | .ok channel => do
    let body := openedBody req channel
    let _ ← ask (writeOutcome (.pendingOnly binding.key .opened (some (.channel body)) none))
    return .opened body (some binding.key) false

/-- Open a channel that has no recorded operation. -/
def openUnrecorded : PayM Digest Answered := do
  match ← openChannel none req options pushMsat with
  | .error error => known (.error ⟨apiErrorOf error, none⟩)
  | .ok channel => return .opened (openedBody req channel) none false

/-- Record the operation and open the channel unless the id is taken. -/
def insertAndOpen [DecidableEq Digest] (req : OpenChannelRequest) (options : FundingOptions)
    (pushMsat : Option UInt64) (ownsOperation : Bool) (binding : Binding Digest) :
    PayM Digest Answered := do
  let pending :=
    ChannelOpenOperation.pending binding.key binding.requestHash binding.request (← ask now)
  match ← ask (insertOperation pending) with
  | .error reason => known (.error (storage reason))
  | .ok true => openRecorded req options pushMsat binding
  | .ok false =>
    match ← ask (getOperation binding.key) with
    | .error reason => known (.error (storage reason))
    | .ok none => known (.error Direct.changed)
    | .ok (some op) => replayChannelOpen op binding.requestHash req ownsOperation

variable [DecidableEq Digest] (node : Node Digest) (req : OpenChannelRequest)

def checkAndOpen (operation : Option (Bool × Binding Digest)) : PayM Digest Answered := do
  let pushMsat ← checkParameters node req
  let options : FundingOptions := ⟨req.fundingPriority.getD .normal, req.maxFundingFeeSats⟩
  if req.dryRun then
    match ← ask (fundingFeeQuote options) with
    | .ok quote => return .preview quote
    | .error error => known (.error ⟨apiErrorOf error, none⟩)
  else
    match operation with
    | none => openUnrecorded req options pushMsat
    | some (ownsOperation, binding) => insertAndOpen req options pushMsat ownsOperation binding

/-- Open a channel, under an operation id if the request has one. -/
def runChannelOpen : PayM Digest Answered :=
  match req.operationId with
  | none => checkAndOpen node req none
  | some text =>
    if req.dryRun then known (.error (refuse "operation_id cannot be combined with dry_run"))
    else
      match node.uuidV4 text with
      | none => known (.error ⟨.badRequest "operation_id must be a UUIDv4", none⟩)
      | some id => do
        let request := openChannelFingerprint req
        let hash := node.digest request
        match ← ask (tryLock id) with
        | .error error => known (.error ⟨error, none⟩)
        | .ok ownsOperation =>
          match ← ask (getOperation id) with
          | .error reason => known (.error (storage reason))
          | .ok (some op) => replayChannelOpen op hash req ownsOperation
          | .ok none =>
            -- Another task may still be inserting or deleting.
            if ownsOperation then checkAndOpen node req (some (true, ⟨id, hash, request⟩))
            else known (.error Direct.changed)

end ChannelOpen

end BitSov.Payments
