import BitSov.Encoding.Bytes

namespace BitSov.Core

/-!
# The unified message envelope

The identifiers and the envelope of `types.rs` and `envelope.rs`, the bytes an
envelope signature covers, and structural validation. Hash functions and
signatures are taken as given: a `Crypto` supplies them, and nothing is
assumed about it beyond being a collection of functions.
-/

open Encoding Vector

/-- The cryptographic functions the envelope relies on. -/
structure Crypto where
  /-- The BLAKE3 digest of a byte string. -/
  blake3 : List UInt8 → Vector UInt8 32
  /-- The SHA-256 digest of a byte string. -/
  sha256 : List UInt8 → Vector UInt8 32
  /-- Whether bytes are an Ed25519 public key, or why not. -/
  verifyingKey : Vector UInt8 32 → Except String Unit
  /-- Strict Ed25519 verification of a message and a signature. -/
  verifyStrict : Vector UInt8 32 → List UInt8 → Vector UInt8 64 → Except String Unit

/-- Identifier of a message, a digest of its ciphertext and nonce. -/
structure MessageId where
  bytes : Vector UInt8 32
  deriving Repr, DecidableEq

/-- Identity of a node, an Ed25519 public key. -/
@[ext] structure NodeId where
  bytes : Vector UInt8 32
  deriving Repr, DecidableEq

/-- Identifier of a room, the sixteen bytes of a UUID. -/
@[ext] structure RoomId where
  bytes : Vector UInt8 16
  deriving Repr, DecidableEq

/-- Random value for replay protection. -/
@[ext] structure Nonce where
  bytes : Vector UInt8 24
  deriving Repr, DecidableEq

/-- Ed25519 signature over the signable fields of an envelope. -/
structure Signature where
  bytes : Vector UInt8 64
  deriving Repr, DecidableEq

abbrev PaymentHash := Vector UInt8 32

/-- Whom a message is addressed to. -/
inductive Recipient where
  | node (id : NodeId)
  | room (id : RoomId)
  | broadcast
  deriving Repr, DecidableEq

/-- Proof that a Lightning payment was made. -/
@[ext] structure PaymentProof where
  paymentHash : PaymentHash
  preimage : Vector UInt8 32
  amountMsat : UInt64
  deriving Repr, DecidableEq

/-- The envelope that carries every message. -/
structure UkmEnvelope where
  id : MessageId
  kind : UInt16
  sender : NodeId
  recipient : Recipient
  timestamp : UInt64
  ciphertext : List UInt8
  paymentProof : PaymentProof
  signature : Signature
  nonce : Nonce
  references : List MessageId
  deriving Repr, DecidableEq

/-- The errors of envelope validation and key parsing. -/
inductive CoreError where
  | invalidPublicKey (reason : String)
  | envelopeValidation (reason : String)
  | invalidPaymentProof (reason : String)
  deriving Repr, DecidableEq

def CoreError.toText : CoreError → String
  | .invalidPublicKey reason => "invalid public key: " ++ reason
  | .envelopeValidation reason => "envelope validation failed: " ++ reason
  | .invalidPaymentProof reason => "payment proof invalid: " ++ reason

/-- Maximal number of message references in an envelope. -/
def maxMessageReferences : Nat :=
  64

def MessageId.compute (crypto : Crypto) (ciphertext : List UInt8) (nonce : Nonce) : MessageId :=
  ⟨crypto.blake3 (ciphertext ++ nonce.bytes.toList)⟩

/-- The public key of a node, if its bytes are one. -/
def NodeId.toVerifyingKey (crypto : Crypto) (node : NodeId) : Except CoreError Unit :=
  (crypto.verifyingKey node.bytes).mapError .invalidPublicKey

/-- The payment hash has to be the digest of the preimage. -/
def PaymentProof.verifyPreimage (crypto : Crypto) (proof : PaymentProof) : Except CoreError Unit :=
  if crypto.sha256 proof.preimage.toList = proof.paymentHash then .ok ()
  else .error (.invalidPaymentProof "preimage does not match payment hash")

def Recipient.signableBytes : Recipient → List UInt8
  | .node id => 0x01 :: id.bytes.toList
  | .room id => 0x02 :: id.bytes.toList
  | .broadcast => [0x03]

namespace UkmEnvelope

def signableBytes (envelope : UkmEnvelope) : List UInt8 :=
  beBytes 2 envelope.kind.toNat ++
    (envelope.sender.bytes.toList ++
      (envelope.recipient.signableBytes ++
        (beBytes 8 envelope.timestamp.toNat ++
          (envelope.ciphertext ++
            (envelope.nonce.bytes.toList ++
              (envelope.paymentProof.paymentHash.toList ++
                (envelope.paymentProof.preimage.toList ++
                  beBytes 8 envelope.paymentProof.amountMsat.toNat)))))))

/-- Structural validation, without the signature. -/
def validate (crypto : Crypto) (envelope : UkmEnvelope) : Except CoreError Unit := do
  if envelope.id ≠
    MessageId.compute crypto envelope.ciphertext envelope.nonce then
    throw (.envelopeValidation "message id does not match blake3(ciphertext || nonce)")
  if envelope.ciphertext.isEmpty then throw (.envelopeValidation "ciphertext must not be empty")
  envelope.paymentProof.verifyPreimage crypto
  if envelope.references.length > maxMessageReferences then
    throw
      (.envelopeValidation ("references list exceeds maximum of " ++ toString maxMessageReferences))

open List

theorem validate_eq_ok_iff {envelope : UkmEnvelope} : envelope.validate crypto = .ok () ↔
      envelope.id = MessageId.compute crypto envelope.ciphertext envelope.nonce ∧
        envelope.ciphertext ≠ [] ∧
        crypto.sha256 envelope.paymentProof.preimage.toList = envelope.paymentProof.paymentHash ∧
        envelope.references.length ≤ maxMessageReferences := by
  simp only [validate, PaymentProof.verifyPreimage]
  split_ifs <;> simp_all [bind, Except.bind, pure, Except.pure, throw, throwThe,
    MonadExceptOf.throw]

private theorem recipient_append_inj {first second : Recipient} {firstTail secondTail : List UInt8}
    (sameBytes : first.signableBytes ++ firstTail = second.signableBytes ++ secondTail) :
    first = second ∧ firstTail = secondTail := by
  cases first <;> cases second <;> simp only [Recipient.signableBytes, cons_append,
    List.cons.injEq, nil_append] at sameBytes
  case node.node first second =>
    obtain ⟨sameId, sameTail⟩ := append_inj sameBytes.2 (by simp)
    rw [NodeId.ext (toList_inj.mp sameId)]
    exact ⟨rfl, sameTail⟩
  case room.room first second =>
    obtain ⟨sameId, sameTail⟩ := append_inj sameBytes.2 (by simp)
    rw [RoomId.ext (toList_inj.mp sameId)]
    exact ⟨rfl, sameTail⟩
  case broadcast.broadcast => exact ⟨rfl, sameBytes.2⟩
  all_goals exact absurd sameBytes.1 (by decide)

variable {first second : UkmEnvelope}

theorem eq_fields_of_signableBytes_eq (sameBytes : first.signableBytes = second.signableBytes) :
    first.kind = second.kind ∧ first.sender = second.sender ∧ first.recipient = second.recipient ∧
      first.timestamp = second.timestamp ∧ first.ciphertext = second.ciphertext ∧
      first.nonce = second.nonce ∧ first.paymentProof = second.paymentProof := by
  obtain ⟨sameKind, sameBytes⟩ := append_inj sameBytes (by simp)
  obtain ⟨sameSender, sameBytes⟩ := append_inj sameBytes (by simp)
  obtain ⟨sameRecipient, sameBytes⟩ := recipient_append_inj sameBytes
  obtain ⟨sameTimestamp, sameBytes⟩ := append_inj sameBytes (by simp)
  obtain ⟨sameCiphertext, sameBytes⟩ := append_inj' sameBytes (by simp)
  obtain ⟨sameNonce, sameBytes⟩ := append_inj sameBytes (by simp)
  obtain ⟨sameHash, sameBytes⟩ := append_inj sameBytes (by simp)
  obtain ⟨samePreimage, sameAmount⟩ := append_inj sameBytes (by simp)
  refine ⟨?_, ?_, sameRecipient, ?_, sameCiphertext, ?_, ?_⟩
  · exact UInt16.toNat_inj.mp (beBytes_injective first.kind.toNat_lt second.kind.toNat_lt sameKind)
  · exact NodeId.ext (toList_inj.mp sameSender)
  · exact UInt64.toNat_inj.mp
      (beBytes_injective first.timestamp.toNat_lt second.timestamp.toNat_lt sameTimestamp)
  · exact Nonce.ext (toList_inj.mp sameNonce)
  exact PaymentProof.ext (toList_inj.mp sameHash) (toList_inj.mp samePreimage)
    (UInt64.toNat_inj.mp (beBytes_injective first.paymentProof.amountMsat.toNat_lt
      second.paymentProof.amountMsat.toNat_lt sameAmount))

/-- Two envelopes have the same signed bytes exactly if all signed fields agree. -/
theorem signableBytes_eq_iff (first second : UkmEnvelope) :
    first.signableBytes = second.signableBytes ↔ first.kind = second.kind ∧
      first.sender = second.sender ∧ first.recipient = second.recipient ∧
      first.timestamp = second.timestamp ∧ first.ciphertext = second.ciphertext ∧
      first.nonce = second.nonce ∧ first.paymentProof = second.paymentProof := by
  refine ⟨eq_fields_of_signableBytes_eq, ?_⟩
  rintro ⟨kind, sender, recipient, timestamp, ciphertext, nonce, proof⟩
  rw [signableBytes, signableBytes, kind, sender, recipient, timestamp, ciphertext, nonce, proof]

/--
Valid envelopes with the same signed bytes and the same signature differ in
their references at most.
-/
theorem eq_with_references (sameBytes : first.signableBytes = second.signableBytes)
    (sameSignature : first.signature = second.signature)
    (firstValid : first.validate crypto = .ok ()) (secondValid : second.validate crypto = .ok ()) :
    second = { first with references := second.references } := by
  obtain ⟨_, _, _, _, sameCiphertext, sameNonce, _⟩ := eq_fields_of_signableBytes_eq sameBytes
  have firstId := (validate_eq_ok_iff.mp firstValid).1
  have secondId := (validate_eq_ok_iff.mp secondValid).1
  rw [← sameCiphertext, ← sameNonce, ← firstId] at secondId
  cases first
  cases second
  simp_all

end UkmEnvelope

end BitSov.Core
