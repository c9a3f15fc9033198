import BitSov.Core.Envelope
import BitSov.Relational.Table

namespace BitSov.Storage

/-!
# Paid acceptance in the SQLite store

The tables `messages`, `nonces`, `payment_receipts` and `call_admission_hold`
of `sqlite.rs` and the calls that accept, look up, reject, hold and forget a
paid envelope.  Identifiers and references are kept as values instead of their
hexadecimal and JSON texts, and `recipient_type` and `recipient_id` as one
recipient.  A call runs as one transaction, and what a call reads from the
clock of the database is an argument of it.
-/

open Core Relational

inductive StorageError where
  | conversion (reason : String)
  | database (reason : String)
  deriving Repr, DecidableEq

/-- Outcome of the durable recipient acceptance transaction. -/
inductive PaidAcceptance where
  | accepted
  | alreadyAccepted
  | nonceReused
  | paymentReused
  | withdrawn
  deriving Repr, DecidableEq

/-- The columns of an acceptance that a refreshed wrapper may not change. -/
structure ReceiptMetadata where
  kind : UInt16
  recipient : Recipient
  preimage : Vector UInt8 32
  amountMsat : UInt64
  nonce : Nonce
  references : List MessageId
  deriving Repr, DecidableEq

variable (now : Int) (envelope : UkmEnvelope)

def receiptMetadata : ReceiptMetadata :=
  { envelope with
    preimage := envelope.paymentProof.preimage, amountMsat := envelope.paymentProof.amountMsat }

/-- A row of `messages`, keyed by the message identifier. -/
structure MessageRow where
  sender : NodeId
  timestampMs : UInt64
  ciphertext : List UInt8
  paymentHash : PaymentHash
  signature : Signature
  metadata : ReceiptMetadata
  deriving Repr, DecidableEq

/-- A row of `nonces`, keyed by the nonce. -/
structure NonceRow where
  sender : NodeId
  receivedAt : Int
  deriving Repr, DecidableEq

/-- A row of `payment_receipts`, keyed by the payment hash. -/
structure ReceiptRow where
  messageId : MessageId
  sender : NodeId
  accepted : Int := 0
  metadata : Option ReceiptMetadata := none
  deriving Repr, DecidableEq

/-- A row of `call_admission_hold`, keyed by the message identifier. -/
structure HoldRow where
  sender : NodeId
  heldAtMs : Int
  deriving Repr, DecidableEq

/-- The tables that paid acceptance reads and writes. -/
structure Database where
  messages : Table MessageId MessageRow
  nonces : Table Nonce NonceRow
  paymentReceipts : Table PaymentHash ReceiptRow
  callAdmissionHold : Table MessageId HoldRow

/-- The message row an envelope is stored as. -/
def messageRow : MessageRow :=
  { envelope with
    timestampMs := envelope.timestamp, paymentHash := envelope.paymentProof.paymentHash
    metadata := receiptMetadata envelope }

/-- The largest value of a signed 64-bit column. -/
def i64Max : Nat :=
  2 ^ 63 - 1

/-- A value as a signed 64-bit column. -/
def i64TryFrom (column : String) (value : UInt64) : Except StorageError Int :=
  if value.toNat ≤ i64Max then .ok value.toNat
  else .error (.conversion (column ++ " overflows i64: " ++ toString value.toNat))

variable (id : MessageId) (db : Database) (receipt : ReceiptRow)

/-- Whether a receipt is an acceptance of exactly this envelope. -/
def durableMatch (envelope : UkmEnvelope) : Bool :=
  receipt.messageId = envelope.id && receipt.sender = envelope.sender &&
    receipt.accepted = 1 && receipt.metadata = some (receiptMetadata envelope)

/-- Whether a stored message backs the receipt of exactly this envelope. -/
def messageMatch (envelope : UkmEnvelope) : Bool :=
  receipt.messageId = envelope.id && receipt.sender = envelope.sender &&
    (db.messages.lookup receipt.messageId).any fun message =>
      message.sender = receipt.sender &&
        message.paymentHash = envelope.paymentProof.paymentHash &&
        message.metadata = receiptMetadata envelope

/-- Mark the receipt of a payment hash as accepted with this metadata. -/
def markAccepted (envelope : UkmEnvelope) (selected : ReceiptRow → Bool) : Database :=
  { db with
    paymentReceipts := db.paymentReceipts.updateWhere
      (fun paymentHash receipt =>
        paymentHash = envelope.paymentProof.paymentHash && selected receipt)
      fun receipt =>
        { receipt with accepted := 1, metadata := some (receiptMetadata envelope) } }

/-- Insert the message of a fresh or healed receipt and mark it accepted. -/
def insertAccepted (original db : Database) : Except StorageError PaidAcceptance × Database :=
  if db.messages.contains envelope.id then
    (.error (.database "UNIQUE constraint failed: messages.id"), original)
  else
    (.ok .accepted,
      markAccepted
        { db with messages := db.messages.insertOrIgnore envelope.id (messageRow envelope) }
        envelope fun _ => true)

/-- Claim the nonce, then insert the message. -/
def claimNonce (healing : Bool) (original db : Database) :
    Except StorageError PaidAcceptance × Database :=
  match db.nonces.lookup envelope.nonce with
  | none =>
    insertAccepted envelope original
      { db with
        nonces := db.nonces.insertOrIgnore envelope.nonce
          { sender := envelope.sender, receivedAt := now } }
  | some owner =>
    if healing = false ∨ owner.sender ≠ envelope.sender then (.ok .nonceReused, original)
    else insertAccepted envelope original db

/-- Accept again, refuse or heal an envelope whose hash has a receipt. -/
def acceptBound (db : Database) : Except StorageError PaidAcceptance × Database :=
  if receipt.messageId ≠ envelope.id ∨ receipt.sender ≠ envelope.sender then
    (.ok .paymentReused, db)
  else if receipt.accepted = -1 then (.ok .withdrawn, db)
  else if durableMatch receipt envelope then (.ok .alreadyAccepted, db)
  else if messageMatch db receipt envelope then
    (.ok .alreadyAccepted, markAccepted db envelope fun _ => true)
  else if db.messages.contains envelope.id ∨ receipt.accepted ≠ 0 then (.ok .paymentReused, db)
  else claimNonce now envelope true db db

/-- Commit the replay keys and the envelope together, or write nothing. -/
def acceptPaidEnvelope : Except StorageError PaidAcceptance × Database :=
  match i64TryFrom "timestamp" envelope.timestamp with
  | .error error => (.error error, db)
  | .ok _ =>
    match i64TryFrom "amount_msat" envelope.paymentProof.amountMsat with
    | .error error => (.error error, db)
    | .ok _ =>
      match db.paymentReceipts.lookup envelope.paymentProof.paymentHash with
      | some receipt => acceptBound now envelope receipt db
      | none =>
        claimNonce now envelope false db
          { db with
            paymentReceipts := db.paymentReceipts.insertOrIgnore
              envelope.paymentProof.paymentHash
              { messageId := envelope.id
                sender := envelope.sender } }

/-- Match an acceptance, and keep a legacy one in its receipt. -/
def isPaidEnvelopeAccepted : Except StorageError Bool × Database :=
  match i64TryFrom "amount_msat" envelope.paymentProof.amountMsat with
  | .error error => (.error error, db)
  | .ok _ =>
    match db.paymentReceipts.lookup envelope.paymentProof.paymentHash with
    | none => (.ok false, db)
    | some receipt =>
      let held := db.callAdmissionHold.contains receipt.messageId
      if !held && durableMatch receipt envelope then (.ok true, db)
      else if held || !messageMatch db receipt envelope then (.ok false, db)
      else
        let upgraded := db.paymentReceipts.countWhere fun paymentHash bound =>
          paymentHash = envelope.paymentProof.paymentHash && messageMatch db bound envelope
        let after := markAccepted db envelope fun bound => messageMatch db bound envelope
        if upgraded ≠ 1 then
          (.error (.conversion "legacy acceptance binding changed during lookup"), after)
        else (.ok true, after)

/-- Remove a refused message and mark its receipt as rejected. -/
def rejectAcceptedEnvelope : Except StorageError Unit × Database :=
  (.ok (),
    { db with
      messages := db.messages.deleteWhere fun id message =>
        id = envelope.id && message.sender = envelope.sender
      paymentReceipts := db.paymentReceipts.updateWhere
        (fun paymentHash receipt =>
          paymentHash = envelope.paymentProof.paymentHash && receipt.messageId = envelope.id)
        fun receipt => { receipt with accepted := -1 }
      callAdmissionHold := db.callAdmissionHold.deleteWhere fun id _ => id = envelope.id })

/-- Hold an envelope unless a message with its identifier is stored. -/
def callAdmissionHold (nowMs : UInt64) (db : Database) : Except StorageError Bool × Database :=
  if nowMs.toNat ≤ i64Max then
    if db.messages.contains envelope.id then (.ok false, db)
    else
      (.ok !db.callAdmissionHold.contains envelope.id,
        { db with
          callAdmissionHold := db.callAdmissionHold.insertOrIgnore envelope.id
            { sender := envelope.sender, heldAtMs := nowMs.toNat } })
  else (.error (.conversion "call time overflow"), db)

/-- Forget the hold of a message. -/
def callAdmissionRelease : Except StorageError Unit × Database :=
  (.ok (),
    { db with callAdmissionHold := db.callAdmissionHold.deleteWhere fun held _ => held = id })

/-- Whether a message of this sender is held since before a time. -/
def heldBefore (before : Int) (id : MessageId) (sender : NodeId) : Bool :=
  (db.callAdmissionHold.lookup id).any fun hold => hold.sender = sender && hold.heldAtMs < before

/-- A time as a signed 64-bit column, the largest one when it overflows. -/
def i64Saturating (value : UInt64) : Int :=
  if value.toNat ≤ i64Max then value.toNat else i64Max

/-- Reject every message that has been held since before a time. -/
def callAdmissionWithdraw (heldBeforeMs : UInt64) (db : Database) :
    Except StorageError Nat × Database :=
  let before := i64Saturating heldBeforeMs
  (.ok (db.callAdmissionHold.countWhere fun _ hold => hold.heldAtMs < before),
    { db with
      paymentReceipts := db.paymentReceipts.updateWhere
        (fun _ receipt => heldBefore db before receipt.messageId receipt.sender)
        fun receipt => { receipt with accepted := -1 }
      messages := db.messages.deleteWhere fun id message => heldBefore db before id message.sender
      callAdmissionHold := db.callAdmissionHold.deleteWhere fun _ hold => hold.heldAtMs < before })

def deleteMessage : Except StorageError Bool × Database :=
  (.ok (db.messages.contains id),
    { db with messages := db.messages.deleteWhere fun stored _ => stored = id })

/--
Delete the nonces received before a cutoff.  The database computes the cutoff
from its clock and the maximal age, and has none for ages out of its range.
-/
def cleanupExpiredNonces (cutoff : Option Int) (db : Database) :
    Except StorageError Nat × Database :=
  let expired (row : NonceRow) : Bool := cutoff.any fun oldest => row.receivedAt < oldest
  (.ok (db.nonces.countWhere fun _ row => expired row),
    { db with nonces := db.nonces.deleteWhere fun _ row => expired row })

end BitSov.Storage
