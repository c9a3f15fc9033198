import BitSov.Core.Envelope
import BitSov.Process.Program

namespace BitSov.Core

/-!
# The payment gate

`gate.rs` and `web_reply.rs` as programs. Every call the gate makes to its
replay store, its pricing engine, its Lightning backend and the clock is one
operation, so a history of a gate program is the list of all answers the gate
acted on. The floating-point trust discount is a parameter of a call; every
other comparison is the source's own.
-/

open Encoding Process Process.Fallible

def kindPageResponse : UInt16 :=
  501

def kindWebManifest : UInt16 :=
  510

/-- A paid outbound page or manifest request awaiting its bound reply. -/
structure OutstandingWebRequest where
  requestId : MessageId
  peer : NodeId
  expectedReplyKind : UInt16
  expiresAtMs : UInt64
  deriving Repr, DecidableEq

/-- Whether an envelope is shaped as a reply bound to a paid request. -/
def isWebServiceReply (envelope : UkmEnvelope) : Bool :=
  (envelope.kind = kindPageResponse || envelope.kind = kindWebManifest) &&
    (envelope.paymentProof.amountMsat = 0 && !envelope.references.isEmpty)

def replyMatchesOutstanding (envelope : UkmEnvelope) (outstanding : OutstandingWebRequest)
    (nowMs : UInt64) : Bool :=
  if nowMs > outstanding.expiresAtMs then false
  else if envelope.sender ≠ outstanding.peer then false
  else if envelope.kind ≠ outstanding.expectedReplyKind then false
  else envelope.references.contains outstanding.requestId

inductive PaymentStatus where
  | pending
  | inFlight
  | settled
  | failed
  | expired
  deriving Repr, DecidableEq

/-- The name of a status in diagnostics. -/
def PaymentStatus.toText : PaymentStatus → String
  | .pending => "Pending"
  | .inFlight => "InFlight"
  | .settled => "Settled"
  | .failed => "Failed"
  | .expired => "Expired"

/-- Direction of a payment from this node's perspective. -/
inductive PaymentDirection where
  | incoming
  | outgoing
  deriving Repr, DecidableEq

/-- The name of a direction in diagnostics. -/
def PaymentDirection.toText : PaymentDirection → String
  | .incoming => "Incoming"
  | .outgoing => "Outgoing"

/-- What the Lightning backend reports about a payment. -/
structure PaymentDetails where
  paymentHash : String
  preimage : Option String
  amountMsat : UInt64
  status : PaymentStatus
  direction : PaymentDirection
  timestamp : UInt64
  memo : Option String := none
  feeMsat : Option UInt64 := none
  deriving Repr, DecidableEq

inductive PricingError where
  | notPriceable (kind : UInt16)
  | chainUnavailable (reason : String)
  | other (reason : String)
  deriving Repr, DecidableEq

def PricingError.toText : PricingError → String
  | .notPriceable kind => "kind " ++ toString kind ++ " is not priceable"
  | .chainUnavailable reason => "chain data unavailable: " ++ reason
  | .other reason => "pricing error: " ++ reason

/-- Why the gate rejected a message. -/
inductive GateRejection where
  | invalidEnvelope (reason : String)
  | notWhitelisted (sender : NodeId)
  | invalidSignature (reason : String)
  | messageTooOld (ageMs maxMs : UInt64)
  | messageFromFuture (aheadMs maxMs : UInt64)
  | replayDetected
  | nonceCheckFailed (reason : String)
  | insufficientPayment (requiredMsat paidMsat : UInt64)
  | pricingFailed (reason : String)
  | paymentNotSettled (reason : String)
  | paymentSettlementMismatch (reason : String)
  | paymentProofReused (paymentHash : String)
  | lightningUnavailable (reason : String)
  | kindNotPriceable (kind : UInt16)
  | recipientMismatch (claimed ours : NodeId)
  | webReplyUnbound
  deriving Repr, DecidableEq

/-- Outcome of the atomic replay transaction of a paid envelope. -/
inductive PaidReplay where
  | accepted
  | nonceReused
  | paymentReused
  deriving Repr, DecidableEq

structure GateConfig where
  maxMessageAgeMs : UInt64 := 5 * 60 * 1000
  maxFutureMs : UInt64 := 5 * 60 * 1000
  verifyLightningSettlement : Bool := false
  minAdmissionCostMsat : UInt64 := 0
  deriving Repr, DecidableEq

/-- The arguments of a gate call besides the envelope and the providers. -/
structure GateCall where
  /-- The federation whitelist, if one is enforced. -/
  whitelist : Option (List NodeId)
  /-- Whether a Lightning backend is supplied. -/
  lightning : Bool
  /-- The price after the sender's trust discount. -/
  discounted : UInt64 → UInt64
  /-- The identity of this node, on the receiving side. -/
  ourNodeId : Option NodeId

/--
The operations the gate performs: the clock, the replay store, the pricing
engine and the Lightning backend. Recording an outgoing web request belongs
to the sending side of the same store.
-/
inductive GateOp where
  | now
  | isPaidEnvelopeAccepted (envelope : UkmEnvelope)
  | takeOutstandingWebRequest (paymentHash : PaymentHash)
  | recordOutgoingWebRequest (paymentHash : PaymentHash) (request : OutstandingWebRequest)
  | deliveryPriceFloor (envelope : UkmEnvelope) (paidAt now : UInt64)
  | checkAndStorePaid (nonce : Nonce) (paymentHash : PaymentHash) (sender : NodeId)
      (messageId : MessageId)
  | getPriceMsat (kind : UInt16)
  | isFundingPayment (paymentHash : String)
  | getPaymentStatus (paymentHash : String)

/-- The answer of each operation; provider errors are carried as their text. -/
@[reducible] def GateOp.Answer : GateOp → Type
  | .now => UInt64
  | .isPaidEnvelopeAccepted _ => Except String Bool
  | .takeOutstandingWebRequest _ => Except String (Option OutstandingWebRequest)
  | .recordOutgoingWebRequest _ _ => Except String Unit
  | .deliveryPriceFloor _ _ _ => Except String (Option UInt64)
  | .checkAndStorePaid _ _ _ _ => Except String PaidReplay
  | .getPriceMsat _ => Except PricingError UInt64
  | .isFundingPayment _ => Except String Bool
  | .getPaymentStatus _ => Except String PaymentDetails

abbrev GateM (α : Type) :=
  Fallible GateRejection GateOp GateOp.Answer α

namespace GateM

/-- Read the clock, in Unix milliseconds. -/
def now : GateM UInt64 :=
  ask GateOp.now

/-- Ask the store whether the exact envelope has been accepted before. -/
def isPaidEnvelopeAccepted (envelope : UkmEnvelope) : GateM (Except String Bool) :=
  ask (GateOp.isPaidEnvelopeAccepted envelope)

/-- Take the outstanding web request of a payment hash out of the store. -/
def takeOutstandingWebRequest (paymentHash : PaymentHash) :
    GateM (Except String (Option OutstandingWebRequest)) :=
  ask (GateOp.takeOutstandingWebRequest paymentHash)

/-- Record a paid outbound web request in the store. -/
def recordOutgoingWebRequest (paymentHash : PaymentHash) (request : OutstandingWebRequest) :
    GateM (Except String Unit) :=
  ask (GateOp.recordOutgoingWebRequest paymentHash request)

/-- The price offer that was valid when an inbound proof settled. -/
def deliveryPriceFloor (envelope : UkmEnvelope) (paidAt now : UInt64) :
    GateM (Except String (Option UInt64)) :=
  ask (GateOp.deliveryPriceFloor envelope paidAt now)

/-- Consume both replay keys in the store, or neither. -/
def checkAndStorePaid (nonce : Nonce) (paymentHash : PaymentHash) (sender : NodeId)
    (messageId : MessageId) : GateM (Except String PaidReplay) :=
  ask (GateOp.checkAndStorePaid nonce paymentHash sender messageId)

/-- The base price of a message kind. -/
def getPriceMsat (kind : UInt16) : GateM (Except PricingError UInt64) :=
  ask (GateOp.getPriceMsat kind)

/-- Whether the backend knows a payment as channel funding. -/
def isFundingPayment (paymentHash : String) : GateM (Except String Bool) :=
  ask (GateOp.isFundingPayment paymentHash)

/-- What the backend reports about a payment. -/
def getPaymentStatus (paymentHash : String) : GateM (Except String PaymentDetails) :=
  ask (GateOp.getPaymentStatus paymentHash)

end GateM

/-- The final price of a paid admission after its discount. -/
def priceWithFloorMsat (discounted minAdmissionCostMsat : UInt64) : UInt64 :=
  max (max discounted minAdmissionCostMsat) 1000

/-- Decode 32 bytes the backend reports in hexadecimal. -/
def decodeHex32 (field value : String) : Except GateRejection (Vector UInt8 32) :=
  match hexDecode value with
  | .error error => .error (.paymentSettlementMismatch (field ++ ": invalid hex: " ++ error.toText))
  | .ok bytes =>
    if length : bytes.length = 32 then .ok ⟨bytes.toArray, by simpa using length⟩
    else .error (.paymentSettlementMismatch (field ++ ": wrong length"))

def saturatingSub (first second : UInt64) : UInt64 :=
  if first ≤ second then 0 else first - second

/-- Fail with `rejection` unless `condition` holds. -/
def require (condition : Prop) [Decidable condition] (rejection : GateRejection) : GateM Unit :=
  known (if condition then .ok () else .error rejection)

/-- An envelope addressed to a node has to be addressed to this one. -/
def checkRecipient (recipient : Recipient) (ourNodeId : Option NodeId) :
    Except GateRejection Unit :=
  match recipient, ourNodeId with
  | .node claimed, some ours =>
    if claimed = ours then .ok () else .error (.recipientMismatch claimed ours)
  | _, _ => .ok ()

/-- A store failure rejects the envelope. -/
def ofStore {α : Type} (answer : Except String α) : GateM α :=
  known (answer.mapError .nonceCheckFailed)

/-- A backend failure rejects the envelope. -/
def ofLightning {α : Type} (answer : Except String α) : GateM α :=
  known (answer.mapError .lightningUnavailable)

namespace GateConfig

variable (crypto : Crypto) (config : GateConfig)

/-- The floor applies to current prices and to earlier delivery quotes. -/
def priceWithFloorMsat (discounted : UInt64) : UInt64 :=
  Core.priceWithFloorMsat discounted config.minAdmissionCostMsat

variable (call : GateCall) (envelope : UkmEnvelope)

/-- Verify the signature over the signable bytes of an envelope. -/
def verifySignature : Except GateRejection Unit := do
  (envelope.sender.toVerifyingKey crypto).mapError fun error =>
    .invalidSignature ("bad sender key: " ++ error.toText)
  (crypto.verifyStrict envelope.sender.bytes envelope.signableBytes
    envelope.signature.bytes).mapError .invalidSignature

/--
Verify settlement of the envelope's payment with the Lightning backend, for
at least `requiredMsat`.
-/
def verifySettlement (requiredMsat : UInt64) (ourNodeId : Option NodeId) :
    GateM PaymentDetails := do
  let paymentHash := hexEncode envelope.paymentProof.paymentHash.toList
  let funding ← ofLightning (← GateM.isFundingPayment paymentHash)
  require (funding = false)
    (.paymentSettlementMismatch "funding payments cannot admit communication")
  let details ← ofLightning (← GateM.getPaymentStatus paymentHash)
  require (details.status = .settled)
    (.paymentNotSettled ("payment status: " ++ details.status.toText))
  let returnedHash ←
    known (decodeHex32 "payment_hash" details.paymentHash)
  require (returnedHash = envelope.paymentProof.paymentHash)
    (.paymentSettlementMismatch "backend returned a different payment hash")
  require (details.direction = .incoming)
    (.paymentSettlementMismatch
      ("payment direction is " ++ details.direction.toText ++ ", expected incoming"))
  known (checkRecipient envelope.recipient ourNodeId)
  require (envelope.paymentProof.amountMsat ≤ details.amountMsat)
    (.paymentSettlementMismatch
      ("settled amount " ++ toString details.amountMsat ++
        " msat is below envelope claim " ++
        toString envelope.paymentProof.amountMsat ++ " msat"))
  require (requiredMsat ≤ details.amountMsat) (.insufficientPayment requiredMsat details.amountMsat)
  let preimageHex ←
    known
      (details.preimage.elim
        (.error (.paymentSettlementMismatch "settled payment has no preimage"))
        .ok)
  let returnedPreimage ← known (decodeHex32 "preimage" preimageHex)
  require (returnedPreimage = envelope.paymentProof.preimage)
    (.paymentSettlementMismatch "backend preimage does not match envelope proof")
  pure details

variable (lightning : Bool)

/--
With settlement checks on, the proof of a web service reply has to be an
outgoing settled payment of this node.
-/
def confirmOutgoingPayment : GateM Bool := do
  if config.verifyLightningSettlement then do
    require lightning
      (.lightningUnavailable
        "web reply binding requires Lightning when settlement verification is on")
    let details ←
      ofLightning (← GateM.getPaymentStatus (hexEncode envelope.paymentProof.paymentHash.toList))
    require
      (details.status = .settled ∧ details.direction = .outgoing)
      .webReplyUnbound
    let preimageHex ←
      known
        (details.preimage.elim
          (.error (.paymentSettlementMismatch "outgoing payment has no preimage"))
          .ok)
    let returnedPreimage ← known (decodeHex32 "preimage" preimageHex)
    require (returnedPreimage = envelope.paymentProof.preimage)
      (.paymentSettlementMismatch "web reply preimage does not match our outgoing payment")
    pure true
  else pure true

variable (receipts : Bool) (nowMs : UInt64)

/--
Accept a web service reply only when it matches and consumes an outstanding
paid request. The result is `false` when there is no outstanding request.
-/
def tryAcceptWebServiceReply : GateM Bool := do
  let taken ← ofStore (← GateM.takeOutstandingWebRequest envelope.paymentProof.paymentHash)
  match taken with
  | none => pure false
  | some outstanding => do
    require (replyMatchesOutstanding envelope outstanding nowMs) .webReplyUnbound
    config.confirmOutgoingPayment envelope lightning

/-- Verify that the payment amount meets the required price. -/
def verifyPrice (discounted : UInt64 → UInt64) : GateM UInt64 := do
  let baseMsat ←
    known
      ((← GateM.getPriceMsat envelope.kind).mapError fun error =>
        match error with
        | .notPriceable kind => .kindNotPriceable kind
        | _ => .pricingFailed error.toText)
  let requiredMsat := config.priceWithFloorMsat (discounted baseMsat)
  let paidMsat := envelope.paymentProof.amountMsat
  require (requiredMsat ≤ paidMsat) (.insufficientPayment requiredMsat paidMsat)
  pure requiredMsat

/--
The checks up to the signed recipient: integrity, whitelist, freshness,
signature and addressee. The result is the clock reading they used.
-/
def authenticate : GateM UInt64 := do
  known
    ((envelope.validate crypto).mapError fun error =>
      .invalidEnvelope error.toText)
  require (∀ allowed ∈ call.whitelist, envelope.sender ∈ allowed) (.notWhitelisted envelope.sender)
  let nowMs ← GateM.now
  let ageMs := saturatingSub nowMs envelope.timestamp
  require (ageMs ≤ config.maxMessageAgeMs) (.messageTooOld ageMs config.maxMessageAgeMs)
  let aheadMs := saturatingSub envelope.timestamp nowMs
  require (aheadMs ≤ config.maxFutureMs) (.messageFromFuture aheadMs config.maxFutureMs)
  known (verifySignature crypto envelope)
  known (checkRecipient envelope.recipient call.ourNodeId)
  pure nowMs

/--
The required price, and whether the settlement has been checked on the way: a
payment below the current price may still meet an earlier delivery quote, for
which the full inbound settlement is authenticated first.
-/
def requiredPrice : GateM (UInt64 × Bool) := do
  match ← attempt (config.verifyPrice envelope call.discounted) with
  | .ok required => pure (required, false)
  | .error (.insufficientPayment requiredMsat paidMsat) => do
    let rejection := GateRejection.insufficientPayment requiredMsat paidMsat
    require (envelope.paymentProof.amountMsat ≠ 0) rejection
    require (receipts ∧ call.lightning ∧ config.verifyLightningSettlement) rejection
    let settled ← verifySettlement envelope 1 call.ourNodeId
    let quoted ← ofStore (← GateM.deliveryPriceFloor envelope settled.timestamp (nowMs / 1000))
    match quoted with
    | none => known (.error rejection)
    | some price => do
      let required := config.priceWithFloorMsat price
      require (required ≤ envelope.paymentProof.amountMsat ∧
        required ≤ settled.amountMsat)
        rejection
      pure (required, true)
  | .error rejection => known (.error rejection)

/-- Price and settlement of an envelope that is not yet known. -/
def checkPaid : GateM Unit := do
  let (requiredMsat, settlementChecked) ←
    config.requiredPrice call envelope receipts nowMs
  if config.verifyLightningSettlement ∧ settlementChecked = false then do
    require call.lightning
      (.lightningUnavailable "settlement verification enabled but no Lightning provider")
    let _ ← verifySettlement envelope requiredMsat call.ourNodeId
    pure ()
  else pure ()

/-- Whether the store, if one is consulted, knows the envelope's receipt. -/
def lookupReceipt : GateM Bool :=
  if receipts then do
    ofStore (← GateM.isPaidEnvelopeAccepted envelope)
  else pure false

/-- Whether the envelope is accepted as a bound web service reply. -/
def bindWebReply : GateM Bool :=
  if isWebServiceReply envelope ∧ receipts then
    config.tryAcceptWebServiceReply envelope call.lightning nowMs
  else pure false

/--
Validate an envelope. The result is `true` for an envelope whose receipt the
store already holds; `receipts` is whether a store is consulted at all.
-/
def validatePaidEnvelopeInner : GateM Bool := do
  let nowMs ← config.authenticate crypto call envelope
  let accepted ← lookupReceipt envelope receipts
  if accepted then pure true
  else do
    let bound ← config.bindWebReply call envelope receipts nowMs
    if bound then pure false
    else do
      config.checkPaid call envelope receipts nowMs
      pure false

/-- Validate a received envelope against the receipts of the store. -/
def validateReceivedPaidEnvelope : GateM Bool :=
  config.validatePaidEnvelopeInner crypto call envelope true

/-- Consume the replay keys of an envelope that has been validated. -/
def consumeReplayKeys : GateM Unit := do
  let replay ← ofStore
    (← GateM.checkAndStorePaid envelope.nonce
      envelope.paymentProof.paymentHash envelope.sender envelope.id)
  match replay with
  | .accepted => pure ()
  | .nonceReused => known (.error .replayDetected)
  | .paymentReused =>
    known (.error (.paymentProofReused (hexEncode envelope.paymentProof.paymentHash.toList)))

/-- Verify an incoming envelope and consume its replay keys. -/
def verify : GateM Unit := do
  let _ ← config.validatePaidEnvelopeInner crypto call envelope true
  consumeReplayKeys envelope

end GateConfig

end BitSov.Core
