import BitSov.Crypto.RatchetLineage

namespace BitSov.Crypto

/-!
# Two sides of a session

A dialogue has the two ratchets, what each side has sent and read, and the
stored keys that each side has evicted.  What was sent may be delivered in any
order, any number of times, or never; a delivery that fails changes nothing.
The invariant says on which level of one lineage each side is, and accounts
for every message of the chains that a side has passed.
-/

inductive Side where
  | initiator
  | responder
  deriving Repr, DecidableEq

namespace Side

def other : Side → Side
  | .initiator => .responder
  | .responder => .initiator

def turn : Side → Nat
  | .initiator => 1
  | .responder => 0

@[simp] theorem other_other (side : Side) : side.other.other = side := by
  cases side <;> rfl

theorem other_ne (side : Side) : side.other ≠ side := by
  cases side <;> exact nofun

theorem eq_or_eq_other (side another : Side) : another = side ∨ another = side.other := by
  cases side <;> cases another <;> simp [other]

end Side

def RatchetMessage.id {Public Cipher : Type} (message : RatchetMessage Public Cipher) :
    Public × Nat :=
  (message.header.dhPublic, message.header.messageNumber)

/-- A message with its sender and its plaintext. -/
structure SentMessage (Public Cipher : Type) where
  sender : Side
  message : RatchetMessage Public Cipher
  plaintext : Bytes

/-- The two ratchets and what has happened between them. -/
structure Dialogue (Secret Public Key Cipher : Type) where
  party : Side → DoubleRatchet Secret Public Key
  sent : List (SentMessage Public Cipher)
  read : Side → List (RatchetMessage Public Cipher)
  /-- The stored keys that a side has lost without using them. -/
  evicted : Side → Set (Public × Nat)
  /-- The ratchet keys in the order of their use. -/
  secrets : List Secret

namespace Dialogue

variable {Secret Public Key Cipher : Type}

variable (prims : RatchetPrimitives Secret Public Key Cipher)

/-- Two sides that share a secret and the key pair of the responder. -/
def start (sharedSecret : Key) (ad : Bytes) (responderSecret initiatorSecret : Secret) :
    Dialogue Secret Public Key Cipher where
  party side :=
    match side with
    | .initiator =>
      .initSender prims sharedSecret
        (prims.publicKey responderSecret) ad
        initiatorSecret
    | .responder =>
      .initReceiver sharedSecret responderSecret (prims.publicKey responderSecret) ad
  sent := []
  read _ := []
  evicted _ := ∅
  secrets := [responderSecret, initiatorSecret]

variable (dialogue : Dialogue Secret Public Key Cipher)

def wrote (side : Side) (message : RatchetMessage Public Cipher) (plaintext : Bytes)
    (next : DoubleRatchet Secret Public Key) : Dialogue Secret Public Key Cipher :=
  { dialogue with
    party := Function.update dialogue.party side next
    sent := dialogue.sent ++ [⟨side, message, plaintext⟩] }

/-- The keys that were stored before and are gone without having been used. -/
def lost (before after : DoubleRatchet Secret Public Key) (message : RatchetMessage Public Cipher) :
    Set (Public × Nat) :=
  { id | id ∈ before.skippedKeys ∧ id ∉ after.skippedKeys ∧ id ≠ message.id }

def took [DecidableEq Public] (dialogue : Dialogue Secret Public Key Cipher) (side : Side)
    (message : RatchetMessage Public Cipher) (fresh : Secret)
    (next : DoubleRatchet Secret Public Key) : Dialogue Secret Public Key Cipher where
  party := Function.update dialogue.party side next
  sent := dialogue.sent
  read := Function.update dialogue.read side (dialogue.read side ++ [message])
  evicted := Function.update dialogue.evicted side
    (dialogue.evicted side ∪ lost (dialogue.party side) next message)
  secrets :=
    if next.remoteDhPublic = (dialogue.party side).remoteDhPublic then dialogue.secrets
    else dialogue.secrets ++ [fresh]

/-- The public key of a new secret has not been used. -/
def New (fresh : Secret) : Prop :=
  ∀ secret ∈ dialogue.secrets, prims.publicKey secret ≠ prims.publicKey fresh

/--
The dialogues that can be reached: both sides encrypt whenever they can, and
every message is delivered whenever the network likes.  A message may be sent
under a number only if that is allowed.
-/
inductive Reached [DecidableEq Public] (prims : RatchetPrimitives Secret Public Key Cipher)
    (allowed : Nat → Prop) (sharedSecret : Key) (ad : Bytes) :
    Dialogue Secret Public Key Cipher → Prop
  | start {responderSecret initiatorSecret : Secret}
      (different : prims.publicKey responderSecret ≠ prims.publicKey initiatorSecret) :
    Reached prims allowed sharedSecret ad
      (start prims sharedSecret ad responderSecret initiatorSecret)
  | encrypt {dialogue : Dialogue Secret Public Key Cipher} {side : Side} {plaintext : Bytes}
      {message : RatchetMessage Public Cipher} {next : DoubleRatchet Secret Public Key}
      (reached : Reached prims allowed sharedSecret ad dialogue)
      (numbered : allowed (dialogue.party side).sendCount)
      (encrypted : (dialogue.party side).encrypt prims plaintext = .ok (message, next)) :
      Reached prims allowed sharedSecret ad (dialogue.wrote side message plaintext next)
  | deliver {dialogue : Dialogue Secret Public Key Cipher} {entry : SentMessage Public Cipher}
      {fresh : Secret} {plaintext : Bytes} {next : DoubleRatchet Secret Public Key}
      (reached : Reached prims allowed sharedSecret ad dialogue)
      (member : entry ∈ dialogue.sent) (new : dialogue.New prims fresh)
    (decrypted : (dialogue.party entry.sender.other).decrypt prims fresh
      entry.message =
      .ok (plaintext, next)) :
    Reached prims allowed sharedSecret ad
      (dialogue.took entry.sender.other entry.message fresh next)

end Dialogue

/-! ## A side on a level -/

section

variable {Secret Public Key Cipher : Type} (prims : RatchetPrimitives Secret Public Key Cipher)
  (lineage : Lineage Secret Key) (length : Nat → Nat) (ad : Bytes)

/-- The ratchet key of the other side that a level knows. -/
def remoteOf : Nat → Option Public
  | 0 => none
  | level + 1 => some (lineage.publicKey prims level)

/-- The sending chain of a level. -/
def sendingOf : Nat → Option Key
  | 0 => none
  | level + 1 => some (prims.kdf.chainAt (lineage.seed prims (level + 1)) (length (level + 1)))

/-- The receiving chain of a level at a position. -/
def receivingOf (recvCount : Nat) : Nat → Option Key
  | 0 => none
  | 1 => none
  | level + 2 => some (prims.kdf.chainAt (lineage.seed prims (level + 1)) recvCount)

/-- How many messages were sent on the level two before. -/
def previousOf : Nat → Nat
  | 0 => 0
  | 1 => 0
  | level + 2 => length level

/-- How many messages were sent on the level before. -/
def sentBefore : Nat → Nat
  | 0 => 0
  | level + 1 => length level

/-- A side that has gone so far in the lineage. -/
structure AtLevel (level : Nat) (ratchet : DoubleRatchet Secret Public Key) : Prop where
  dhSecret : ratchet.dhSecret = lineage.secret level
  dhPublic : ratchet.dhPublic = lineage.publicKey prims level
  remote : ratchet.remoteDhPublic = remoteOf prims lineage level
  rootKey : ratchet.rootKey = lineage.root prims level
  sending : ratchet.sendingChain = sendingOf prims lineage length level
  sendCount : ratchet.sendCount = length level
  previous : ratchet.previousChainLength = previousOf length level
  receiving : ratchet.receivingChain = receivingOf prims lineage ratchet.recvCount level
  received : ratchet.recvCount ≤ sentBefore length level
  associatedData : ratchet.associatedData = ad

/-- The message is sealed at its place of a chain. -/
structure WrittenAt (chain : Nat) (entry : SentMessage Public Cipher) : Prop where
  key : entry.message.header.dhPublic = lineage.publicKey prims (chain + 1)
  number : entry.message.header.messageNumber < length (chain + 1)
  previous : entry.message.header.previousChainLength = previousOf length (chain + 1)
  sealing : prims.aeadEncrypt
    (prims.kdf.keyAt (lineage.seed prims (chain + 1)) entry.message.header.messageNumber)
    entry.plaintext ⟨ad, entry.message.header⟩ =
    .ok entry.message.ciphertext

/-- The place of a message in a chain that a side has passed. -/
def Passed (level recvCount chain number : Nat) : Prop :=
  chain + 1 = level ∧ number < recvCount ∨
    chain + 3 ≤ level ∧ chain % 2 ≠ level % 2 ∧ number < length chain

/-- Where the messages are that a side has passed. -/
structure Accounts [DecidableEq Public] (level : Nat) (ratchet : DoubleRatchet Secret Public Key)
    (messages : List (RatchetMessage Public Cipher)) (evicted : Set (Public × Nat)) : Prop where
  stored : ∀ id key stamp,
    ratchet.skippedKeys.lookup id = some (key, stamp) →
      ∃ chain, Passed length level ratchet.recvCount chain id.2 ∧
        id.1 = lineage.publicKey prims chain ∧
        key = prims.kdf.keyAt (lineage.seed prims chain) id.2
  unstored : ∀ message ∈ messages, message.id ∉ ratchet.skippedKeys
  read : ∀ message ∈ messages,
    ∃ chain, Passed length level ratchet.recvCount chain message.id.2 ∧
      message.id.1 = lineage.publicKey prims chain
  passed : ∀ chain number,
    Passed length level ratchet.recvCount chain number →
      (lineage.publicKey prims chain, number) ∈
        ratchet.skippedKeys ∨
        (lineage.publicKey prims chain, number) ∈ evicted ∨
        (lineage.publicKey prims chain, number) ∈ messages.map RatchetMessage.id

/-- What holds between the two sides, the lineage and the chains' lengths. -/
structure Dialogue.Sound [DecidableEq Public] (level : Side → Nat)
    (dialogue : Dialogue Secret Public Key Cipher) : Prop where
  turns : ∀ side, level side % 2 = side.turn
  apart : ∀ side, level side = level side.other + 1 ∨ level side.other = level side + 1
  secrets : ∃ top,
    (∀ side, level side ≤ top) ∧ (∃ side, level side = top) ∧
      dialogue.secrets = (List.range (top + 1)).map lineage.secret ∧
      lineage.Distinct prims top
  fits : ∀ chain, length chain < 2 ^ 32
  silent : length 0 = 0
  unsent : ∀ chain, (∀ side, level side < chain) → length chain = 0
  party : ∀ side, AtLevel prims lineage length ad (level side) (dialogue.party side)
  store : ∀ side, (dialogue.party side).StoreSound
  written : ∀ entry ∈ dialogue.sent,
    ∃ chain, chain + 1 ≤ level entry.sender ∧
      (chain + 1) % 2 = level entry.sender % 2 ∧
      WrittenAt prims lineage length ad chain entry
  once : ∀ first ∈ dialogue.sent,
    ∀ second ∈ dialogue.sent, first.message.id = second.message.id → first = second
  readSent : ∀ side,
    ∀ message ∈ dialogue.read side,
      ∃ entry ∈ dialogue.sent, entry.sender = side.other ∧ entry.message = message
  accounts : ∀ side,
    Accounts prims lineage length (level side) (dialogue.party side)
      (dialogue.read side) (dialogue.evicted side)

end

end BitSov.Crypto
