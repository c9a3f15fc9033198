import BitSov.Core.Envelope
import BitSov.Process.InPlace
import BitSov.Ratchet.Chain

namespace BitSov.Crypto

open Core Process Ratchet

/-!
# Sender keys

A member of a group encrypts its messages with a chain of its own, whose
chain key it distributes to the other members.  A receiver keeps one window
per sender.  Counters are `u32`: they are natural numbers here, and `wrap32`
stands where the source increments them.
-/

/-- A counter of 32 bits. -/
def wrap32 (value : Nat) : Nat :=
  value % 2 ^ 32

theorem wrap32_of_lt (fits : value < 2 ^ 32) : wrap32 value = value := Nat.mod_eq_of_lt fits

inductive SenderKeyError where
  | unknownSender (node : String)
  | decryptionFailed (reason : String)
  | encryptionFailed (reason : String)
  | invalidSignature (reason : String)
  | tooManySkipped (count max : Nat)
  | invalidDistribution (reason : String)
  deriving Repr, DecidableEq

/-- Maximum number of skipped message keys to store per sender. -/
def senderMaxSkip : Nat :=
  256

abbrev Bytes := List UInt8

/-- The context that a group ciphertext is bound to. -/
structure GroupAad where
  groupId : Bytes
  sender : NodeId
  (generation messageNumber : Nat)
  deriving DecidableEq

/-- What the sender of a group message signs. -/
structure SigPayload (Cipher : Type) where
  (generation messageNumber : Nat)
  ciphertext : Cipher
  deriving DecidableEq

/-- The primitives that sender keys are built from. -/
structure GroupPrimitives (Key Cipher Signing Verifying Signature : Type) where
  kdf : ChainKdf Key
  /-- The chain key of an entry that has none yet. -/
  zeroKey : Key
  aeadEncrypt : Key → Bytes → GroupAad → Except String Cipher
  aeadDecrypt : Key → Cipher → GroupAad → Except String Bytes
  verifyingKey : Signing → Verifying
  toBytes : Verifying → Bytes
  fromBytes : Bytes → Except String Verifying
  sign : Signing → SigPayload Cipher → Signature
  verify : Verifying → SigPayload Cipher → Signature → Except String Unit

/-- What is asked of the primitives for messages to arrive. -/
structure GroupPrimitives.Correct {Key Cipher Signing Verifying Signature : Type}
    (prims : GroupPrimitives Key Cipher Signing Verifying Signature) : Prop where
  opens : ∀ key plaintext aad ciphertext,
    prims.aeadEncrypt key plaintext aad = .ok ciphertext →
      prims.aeadDecrypt key ciphertext aad = .ok plaintext
  reads : ∀ signing,
    prims.fromBytes (prims.toBytes (prims.verifyingKey signing)) = .ok (prims.verifyingKey signing)
  verifies : ∀ signing payload,
    prims.verify (prims.verifyingKey signing) payload (prims.sign signing payload) = .ok ()

/-- Primitives without collisions: a ciphertext opens under its own key. -/
structure GroupPrimitives.Ideal {Key Cipher Signing Verifying Signature : Type}
    (prims : GroupPrimitives Key Cipher Signing Verifying Signature) :
    Prop extends prims.Correct where
  authentic : ∀ key plaintext aad ciphertext,
    prims.aeadDecrypt key ciphertext aad = .ok plaintext →
      prims.aeadEncrypt key plaintext aad = .ok ciphertext
  committed : ∀ key plaintext aad otherKey otherPlaintext otherAad ciphertext,
    prims.aeadEncrypt key plaintext aad = .ok ciphertext →
      prims.aeadEncrypt otherKey otherPlaintext otherAad =
        .ok ciphertext →
        key = otherKey ∧ plaintext = otherPlaintext ∧ aad = otherAad
  keyed : ∀ seed first second,
    prims.kdf.keyAt seed first = prims.kdf.keyAt seed second → first = second

/-- What a member needs to decrypt the messages of another one. -/
structure SenderKeyDistribution (Key : Type) where
  groupId : Bytes
  sender : NodeId
  chainKey : Key
  signingKey : Bytes
  generation : Nat

/-- The sender's own key state. -/
structure SenderKeyState (Key Signing : Type) where
  chainKey : Key
  messageCount : Nat
  signingKey : Signing
  generation : Nat

/-- An encrypted group message. -/
structure GroupCiphertext (Cipher Signature : Type) where
  (generation messageNumber : Nat)
  ciphertext : Cipher
  signature : Signature
  deriving DecidableEq

/-- The receiver's state for one sender. -/
structure ReceiverSenderKey (Key Verifying : Type) where
  chainKey : Key
  chainIndex : Nat
  signingKey : Verifying
  generation : Nat
  skippedKeys : Keys Key

/-- The keys of all members of a group, as one of them holds them. -/
structure GroupSession (Key Signing Verifying : Type) where
  groupId : Bytes
  ourNodeId : NodeId
  ourSenderKey : SenderKeyState Key Signing
  memberKeys : AList fun _ : NodeId => ReceiverSenderKey Key Verifying

variable {Key Cipher Signing Verifying Signature : Type}

namespace SenderKeyState

/-- A new key state from random keys. -/
def generate (chainKey : Key) (signingKey : Signing) : SenderKeyState Key Signing :=
  ⟨chainKey, 0, signingKey, 0⟩

variable (prims : GroupPrimitives Key Cipher Signing Verifying Signature)
  (state : SenderKeyState Key Signing)

/-- The distribution of the current chain key. -/
def distribution (groupId : Bytes) (sender : NodeId) : SenderKeyDistribution Key where
  groupId
  sender
  chainKey := state.chainKey
  signingKey := prims.toBytes (prims.verifyingKey state.signingKey)
  generation := state.generation

/-- Encrypt one message; the chain moves on even if that fails. -/
def encrypt (groupId : Bytes) (sender : NodeId) (plaintext : Bytes) :
    Except SenderKeyError (GroupCiphertext Cipher Signature) × SenderKeyState Key Signing :=
  let messageKey := prims.kdf.message state.chainKey
  let next : SenderKeyState Key Signing :=
    { state with
      chainKey := prims.kdf.next state.chainKey, messageCount := wrap32 (state.messageCount + 1) }
  let aad : GroupAad := ⟨groupId, sender, state.generation, state.messageCount⟩
  match prims.aeadEncrypt messageKey plaintext aad with
  | .error reason => (.error (.encryptionFailed reason), next)
  | .ok ciphertext =>
    let signature := prims.sign state.signingKey ⟨state.generation, state.messageCount, ciphertext⟩
    (.ok ⟨state.generation, state.messageCount, ciphertext, signature⟩, next)

/-- Encrypt messages one after the other. -/
def encryptAll (prims : GroupPrimitives Key Cipher Signing Verifying Signature)
    (groupId : Bytes) (sender : NodeId) :
    SenderKeyState Key Signing → List Bytes →
      List (Except SenderKeyError (GroupCiphertext Cipher Signature))
  | _, [] => []
  | state, plaintext :: later =>
    let (message, next) := state.encrypt prims groupId sender plaintext
    message :: encryptAll prims groupId sender next later

end SenderKeyState

namespace ReceiverSenderKey

/-- Decrypt a message of the sender; a failure changes nothing. -/
def decrypt (prims : GroupPrimitives Key Cipher Signing Verifying Signature)
    (entry : ReceiverSenderKey Key Verifying) (groupId : Bytes) (sender : NodeId)
    (message : GroupCiphertext Cipher Signature) :
    Except SenderKeyError (Bytes × ReceiverSenderKey Key Verifying) :=
  if message.generation ≠ entry.generation then
    .error (.decryptionFailed
      ("generation mismatch: expected " ++ toString entry.generation ++
        ", got " ++ toString message.generation))
  else
    match prims.verify entry.signingKey
      ⟨message.generation, message.messageNumber, message.ciphertext⟩
      message.signature
    with
    | .error reason => .error (.invalidSignature reason)
    | .ok () =>
      let aad : GroupAad := ⟨groupId, sender, message.generation, message.messageNumber⟩
      match entry.skippedKeys.lookup message.messageNumber with
      | some messageKey =>
        match prims.aeadDecrypt messageKey message.ciphertext aad with
        | .error reason => .error (.decryptionFailed reason)
        | .ok plaintext =>
          .ok (plaintext, { entry with
            skippedKeys := entry.skippedKeys.erase message.messageNumber })
      | none =>
        if message.messageNumber < entry.chainIndex then
          .error (.decryptionFailed "message number behind chain index with no skipped key")
        else
          let skipCount := message.messageNumber - entry.chainIndex
          if senderMaxSkip < skipCount then .error (.tooManySkipped skipCount senderMaxSkip)
          else
            -- Nothing is written back before the message has opened.
            let staged := prims.kdf.skip skipCount entry.chainIndex entry.chainKey
            match prims.aeadDecrypt (prims.kdf.message staged.2) message.ciphertext aad
            with
            | .error reason => .error (.decryptionFailed reason)
            | .ok plaintext =>
              .ok (plaintext, { entry with
                chainKey := prims.kdf.next staged.2
                chainIndex := wrap32 (message.messageNumber + 1)
                skippedKeys := storeAll entry.skippedKeys staged.1 })

end ReceiverSenderKey

namespace GroupSession

def new (groupId : Bytes) (ourNodeId : NodeId) (ourSenderKey : SenderKeyState Key Signing) :
    GroupSession Key Signing Verifying :=
  ⟨groupId, ourNodeId, ourSenderKey, ∅⟩

variable (prims : GroupPrimitives Key Cipher Signing Verifying Signature)
  (session : GroupSession Key Signing Verifying) (dist : SenderKeyDistribution Key)

/-- The entry of a member after a distribution from it. -/
def register (verifyingKey : Verifying)
    (known : Option (ReceiverSenderKey Key Verifying)) : ReceiverSenderKey Key Verifying :=
  let entry := known.getD ⟨prims.zeroKey, 0, verifyingKey, 0, ∅⟩
  if entry.generation ≤ dist.generation then ⟨dist.chainKey, 0, verifyingKey, dist.generation, ∅⟩
  else entry

/-- Take over the sender key of a member. -/
def processDistribution : Except SenderKeyError (GroupSession Key Signing Verifying) :=
  if dist.groupId ≠ session.groupId then .error (.invalidDistribution "group ID mismatch")
  else
    match prims.fromBytes dist.signingKey with
    | .error reason => .error (.invalidDistribution ("bad signing key: " ++ reason))
    | .ok verifyingKey =>
      .ok
        { session with
          memberKeys := session.memberKeys.insert dist.sender
            (register prims dist verifyingKey (session.memberKeys.lookup dist.sender)) }

/-- Decrypt a message that a member has sent. -/
def decrypt (sender : NodeId) (message : GroupCiphertext Cipher Signature) :
    Except SenderKeyError (Bytes × GroupSession Key Signing Verifying) :=
  match session.memberKeys.lookup sender with
  | none => .error (.unknownSender (Encoding.hexEncode sender.bytes.toList))
  | some entry =>
    match entry.decrypt prims session.groupId sender message with
    | .error error => .error error
    | .ok (plaintext, changed) =>
      .ok (plaintext, { session with memberKeys := session.memberKeys.insert sender changed })

open MonadExcept (ofExcept)

/-- Write the entry of a member. -/
def put (sender : NodeId) (entry : ReceiverSenderKey Key Verifying) :
    InPlace SenderKeyError (GroupSession Key Signing Verifying) Unit :=
  modify fun session => { session with memberKeys := session.memberKeys.insert sender entry }

def decryptInPlace (sender : NodeId) (message : GroupCiphertext Cipher Signature) :
    InPlace SenderKeyError (GroupSession Key Signing Verifying) Bytes := do
  let session ← get
  match session.memberKeys.lookup sender with
  | none => throw (.unknownSender (Encoding.hexEncode sender.bytes.toList))
  | some entry =>
    if message.generation ≠ entry.generation then
      throw (.decryptionFailed
        ("generation mismatch: expected " ++ toString entry.generation ++
          ", got " ++ toString message.generation))
    else
      ofExcept ((prims.verify entry.signingKey
        ⟨message.generation, message.messageNumber, message.ciphertext⟩
        message.signature).mapError .invalidSignature)
      let aad : GroupAad := ⟨session.groupId, sender, message.generation, message.messageNumber⟩
      match entry.skippedKeys.lookup message.messageNumber with
      | some messageKey =>
        let plaintext ← ofExcept
          ((prims.aeadDecrypt messageKey message.ciphertext aad).mapError .decryptionFailed)
        put sender { entry with skippedKeys := entry.skippedKeys.erase message.messageNumber }
        return plaintext
      | none =>
        if message.messageNumber < entry.chainIndex then
          throw (.decryptionFailed "message number behind chain index with no skipped key")
        else
          let skipCount := message.messageNumber - entry.chainIndex
          if senderMaxSkip < skipCount then throw (.tooManySkipped skipCount senderMaxSkip)
          else
            let staged := prims.kdf.skip skipCount entry.chainIndex entry.chainKey
            let plaintext ← ofExcept ((prims.aeadDecrypt (prims.kdf.message staged.2)
              message.ciphertext aad).mapError .decryptionFailed)
            put sender { entry with
              chainKey := prims.kdf.next staged.2, chainIndex := wrap32 (message.messageNumber + 1),
              skippedKeys := storeAll entry.skippedKeys staged.1 }
            return plaintext

theorem decryptInPlace_eq (sender message) : (decryptInPlace prims sender message).run.run session =
      InPlace.landed session (session.decrypt prims sender message) := by
  rw [decryptInPlace, InPlace.run_get_bind, decrypt]
  cases session.memberKeys.lookup sender with
  | none => rfl
  | some entry =>
    dsimp only
    rw [ReceiverSenderKey.decrypt]
    by_cases stale : message.generation ≠ entry.generation
    · simp only [if_pos stale]
      rfl
    simp only [if_neg stale]
    cases prims.verify entry.signingKey _ message.signature with
    | error => rfl
    | ok =>
      rw [Except.mapError, InPlace.run_ofExcept_ok_bind]
      cases entry.skippedKeys.lookup message.messageNumber with
      | some messageKey =>
        dsimp only
        cases prims.aeadDecrypt messageKey message.ciphertext _ <;> rfl
      | none =>
        dsimp only
        split
        · rfl
        split
        · rfl
        cases prims.aeadDecrypt (prims.kdf.message _) message.ciphertext _ <;> rfl

/--
A message that cannot be decrypted leaves the keys of every member as they
were, so it can neither advance nor exhaust the chain of a sender.
-/
theorem failed_decrypt_leaves_members (sender : NodeId)
    (message : GroupCiphertext Cipher Signature) : ∀ error,
    ((decryptInPlace prims sender message).run.run session).1 = .error error →
      ((decryptInPlace prims sender message).run.run session).2 = session := by
  rw [decryptInPlace_eq]
  exact fun _ => InPlace.landed_eq_error

end GroupSession

end BitSov.Crypto
