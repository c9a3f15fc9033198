import BitSov.Ratchet.Stamped
import BitSov.Crypto.SenderKeys

namespace BitSov.Crypto

open Process Ratchet InPlace

/-!
# The double ratchet

A session between two nodes.  Every message of a sending chain has its own
key; a message with a new ratchet key of the peer starts a new receiving and
a new sending chain.  The keys of messages that were passed over are stored
by ratchet key and number, together with a sequence number that says when
they were stored.

What the source draws at random is an argument here: the secret of the new
key pair that a ratchet step makes.
-/

inductive RatchetError where
  | decryptionFailed (reason : String)
  | tooManySkipped (count max : Nat)
  | notInitialized
  | encryptionError (reason : String)
  deriving Repr, DecidableEq

/-- The messages that may be passed over in one chain at once. -/
def maxSkip : Nat :=
  1000

/-- The stored keys of all chains together. -/
def maxTotalSkippedKeys : Nat :=
  2000

def u32Max : Nat :=
  2 ^ 32 - 1

structure MessageHeader (Public : Type) where
  dhPublic : Public
  (previousChainLength messageNumber : Nat)
  deriving DecidableEq

structure RatchetMessage (Public Cipher : Type) where
  header : MessageHeader Public
  ciphertext : Cipher
  deriving DecidableEq

/-- The data that a ciphertext is bound to. -/
structure RatchetAd (Public : Type) where
  associatedData : Bytes
  header : MessageHeader Public
  deriving DecidableEq

structure RatchetPrimitives (Secret Public Key Cipher : Type) where
  publicKey : Secret → Public
  diffieHellman : Secret → Public → Key
  /-- The next root key and a chain key. -/
  kdfRk : (rootKey dhOutput : Key) → Key × Key
  kdf : ChainKdf Key
  aeadEncrypt : Key → Bytes → RatchetAd Public → Except String Cipher
  aeadDecrypt : Key → Cipher → RatchetAd Public → Except String Bytes

/-- Stored keys by ratchet key and number, with the sequence of storing. -/
abbrev SkippedKeys (Public Key : Type) :=
  Stamped (Public × Nat) Key

/-- One side of a session. -/
structure DoubleRatchet (Secret Public Key : Type) where
  dhSecret : Secret
  dhPublic : Public
  remoteDhPublic : Option Public
  rootKey : Key
  (sendingChain receivingChain : Option Key)
  (sendCount recvCount previousChainLength : Nat)
  skippedKeys : SkippedKeys Public Key
  skippedKeySeq : Nat
  associatedData : Bytes

/-- The sending side of a staged ratchet step. -/
structure PendingDhStep (Secret Public Key : Type) where
  remoteDhPublic : Public
  dhSecret : Secret
  dhPublic : Public
  (rootKey sendingChain : Key)
  previousChainLength : Nat

abbrev StagedSkippedKey (Public Key : Type) :=
  (Public × Nat) × Key

/-- What a message changes, once it has been authenticated. -/
structure PendingReceive (Secret Public Key : Type) where
  dhStep : Option (PendingDhStep Secret Public Key)
  receivingChain : Key
  recvCount : Nat
  skipped : List (StagedSkippedKey Public Key)
  messageKey : Key

/-- A receiving chain that has moved on to a message. -/
structure StagedChain (Public Key : Type) where
  chain : Key
  recvCount : Nat
  skipped : List (StagedSkippedKey Public Key)

variable {Secret Public Key Cipher : Type} [DecidableEq Public]

/-- Move a chain on to a number, collecting the keys in between. -/
def stageSkippedKeys (kdf : ChainKdf Key) (chain : Key) (recvCount upTo : Nat)
    (ratchetPublic : Public) : Except RatchetError (StagedChain Public Key) :=
  if min (recvCount + maxSkip) u32Max < upTo then
    .error (.tooManySkipped (upTo - recvCount) maxSkip)
  else
    let skipped := kdf.skip (upTo - recvCount) recvCount chain
    .ok
      { chain := skipped.2
        recvCount := max recvCount upTo
        skipped := skipped.1.map fun entry => ((ratchetPublic, entry.1), entry.2) }

/-- Remove the oldest keys until the store has no more than it may. -/
def evictExcessSkippedKeys (stored : SkippedKeys Public Key) : SkippedKeys Public Key :=
  stored.evictTo maxTotalSkippedKeys

namespace DoubleRatchet

variable (prims : RatchetPrimitives Secret Public Key Cipher)

/-- The side that has initiated the session. -/
def initSender (sharedSecret : Key) (bobSignedPrekey : Public) (associatedData : Bytes)
    (dhSecret : Secret) : DoubleRatchet Secret Public Key :=
  let derived := prims.kdfRk sharedSecret (prims.diffieHellman dhSecret bobSignedPrekey)
  { dhSecret
    dhPublic := prims.publicKey dhSecret
    remoteDhPublic := some bobSignedPrekey
    rootKey := derived.1
    sendingChain := some derived.2
    receivingChain := none
    sendCount := 0
    recvCount := 0
    previousChainLength := 0
    skippedKeys := ∅
    skippedKeySeq := 0
    associatedData }

/-- The side that has answered. -/
def initReceiver (sharedSecret : Key) (bobSignedPrekeySecret : Secret)
    (bobSignedPrekeyPublic : Public) (associatedData : Bytes) :
    DoubleRatchet Secret Public Key where
  dhSecret := bobSignedPrekeySecret
  dhPublic := bobSignedPrekeyPublic
  remoteDhPublic := none
  rootKey := sharedSecret
  sendingChain := none
  receivingChain := none
  sendCount := 0
  recvCount := 0
  previousChainLength := 0
  skippedKeys := ∅
  skippedKeySeq := 0
  associatedData

variable (ratchet : DoubleRatchet Secret Public Key)

def canSend : Bool :=
  ratchet.sendingChain.isSome

variable (fresh : Secret) (header : MessageHeader Public)

/-- The data that a message with this header is bound to. -/
def aeadAd : RatchetAd Public :=
  ⟨ratchet.associatedData, header⟩

/-- Encrypt a message; a failure leaves the chain as it was. -/
def encrypt (plaintext : Bytes) :
    Except RatchetError (RatchetMessage Public Cipher × DoubleRatchet Secret Public Key) :=
  match ratchet.sendingChain with
  | none => .error .notInitialized
  | some chain =>
    let header : MessageHeader Public :=
      ⟨ratchet.dhPublic, ratchet.previousChainLength, ratchet.sendCount⟩
    match prims.aeadEncrypt (prims.kdf.message chain) plaintext (ratchet.aeadAd header)
    with
    | .error reason => .error (.encryptionError reason)
    | .ok ciphertext =>
      .ok (⟨header, ciphertext⟩, { ratchet with
            sendingChain := some (prims.kdf.next chain)
            sendCount := wrap32 (ratchet.sendCount + 1) })

/-- A ratchet step to a new key of the peer: sending side, receiving chain. -/
def stageDhRatchet (remotePub : Public) : PendingDhStep Secret Public Key × Key :=
  let received := prims.kdfRk ratchet.rootKey (prims.diffieHellman ratchet.dhSecret remotePub)
  let sending := prims.kdfRk received.1 (prims.diffieHellman fresh remotePub)
  ({ remoteDhPublic := remotePub
     dhSecret := fresh
     dhPublic := prims.publicKey fresh
     rootKey := sending.1
     sendingChain := sending.2
     previousChainLength := ratchet.sendCount },
    received.2)

/-- The keys that remain in the receiving chain before a ratchet step. -/
def stageRemaining : Except RatchetError (List (StagedSkippedKey Public Key)) :=
  match ratchet.receivingChain, ratchet.remoteDhPublic with
  | some chain, some ratchetPublic =>
    match stageSkippedKeys prims.kdf chain ratchet.recvCount
      header.previousChainLength ratchetPublic
    with
    | .error error => .error error
    | .ok staged => .ok staged.skipped
  | _, _ => .ok []

/-- The key of a message in a chain, and what it passes over. -/
def stageMessage (chain : Key) (recvCount : Nat) (ratchetPublic : Public) (messageNumber : Nat)
    (dhStep : Option (PendingDhStep Secret Public Key))
    (before : List (StagedSkippedKey Public Key)) :
    Except RatchetError (PendingReceive Secret Public Key) :=
  match stageSkippedKeys prims.kdf chain recvCount messageNumber ratchetPublic
  with
  | .error error => .error error
  | .ok staged =>
    .ok
      { dhStep
        receivingChain := prims.kdf.next staged.chain
        recvCount := wrap32 (staged.recvCount + 1)
        skipped := before ++ staged.skipped
        messageKey := prims.kdf.message staged.chain }

/-- Derive everything that a message with this header changes. -/
def stageReceive : Except RatchetError (PendingReceive Secret Public Key) :=
  if ratchet.remoteDhPublic ≠ some header.dhPublic then
    match ratchet.stageRemaining prims header with
    | .error error => .error error
    | .ok remaining =>
      let (step, receivingChain) := ratchet.stageDhRatchet prims fresh header.dhPublic
      stageMessage prims receivingChain 0 header.dhPublic header.messageNumber (some step) remaining
  else
    match ratchet.receivingChain with
    | none => .error .notInitialized
    | some chain =>
      stageMessage prims chain ratchet.recvCount header.dhPublic header.messageNumber none []

/-- The ratchet after a staged step of the sending side. -/
def applyDhStep :
    Option (PendingDhStep Secret Public Key) → DoubleRatchet Secret Public Key
  | none => ratchet
  | some step =>
    { ratchet with
      remoteDhPublic := some step.remoteDhPublic, dhSecret := step.dhSecret,
      dhPublic := step.dhPublic, rootKey := step.rootKey, sendingChain := some step.sendingChain,
      previousChainLength := step.previousChainLength, sendCount := 0 }

/-- Apply what was staged for a message. -/
def commitReceive (pending : PendingReceive Secret Public Key) : DoubleRatchet Secret Public Key :=
  { ratchet.applyDhStep pending.dhStep with
    receivingChain := some pending.receivingChain
    recvCount := pending.recvCount
    skippedKeys := evictExcessSkippedKeys
      (ratchet.skippedKeys.insertAll ratchet.skippedKeySeq pending.skipped)
    skippedKeySeq := ratchet.skippedKeySeq + pending.skipped.length }

/-- Decrypt a message; a failure leaves the session as it was. -/
def decrypt (message : RatchetMessage Public Cipher) :
    Except RatchetError (Bytes × DoubleRatchet Secret Public Key) :=
  let ad := ratchet.aeadAd message.header
  let skipKey := (message.header.dhPublic, message.header.messageNumber)
  match ratchet.skippedKeys.lookup skipKey with
  | some (messageKey, _) =>
    match prims.aeadDecrypt messageKey message.ciphertext ad with
    | .error reason => .error (.decryptionFailed reason)
    | .ok plaintext =>
      .ok (plaintext, { ratchet with skippedKeys := ratchet.skippedKeys.erase skipKey })
  | none =>
    match ratchet.stageReceive prims fresh message.header with
    | .error error => .error error
    | .ok pending =>
      match prims.aeadDecrypt pending.messageKey message.ciphertext ad
      with
      | .error reason => .error (.decryptionFailed reason)
      | .ok plaintext => .ok (plaintext, ratchet.commitReceive pending)

/-! ## Calls in place -/

open MonadExcept (ofExcept)

def encryptInPlace (plaintext : Bytes) :
    InPlace RatchetError (DoubleRatchet Secret Public Key) (RatchetMessage Public Cipher) := do
  let ratchet ← get
  match ratchet.sendingChain with
  | none => throw .notInitialized
  | some chain =>
    let header : MessageHeader Public :=
      ⟨ratchet.dhPublic, ratchet.previousChainLength, ratchet.sendCount⟩
    let ciphertext ← ofExcept ((prims.aeadEncrypt (prims.kdf.message chain) plaintext
      (ratchet.aeadAd header)).mapError .encryptionError)
    modify ({ · with sendingChain := some (prims.kdf.next chain) })
    modify fun session => { session with sendCount := wrap32 (session.sendCount + 1) }
    return ⟨header, ciphertext⟩

def decryptInPlace (fresh : Secret) (message : RatchetMessage Public Cipher) :
    InPlace RatchetError (DoubleRatchet Secret Public Key) Bytes := do
  let ratchet ← get
  let ad := ratchet.aeadAd message.header
  let skipKey := (message.header.dhPublic, message.header.messageNumber)
  match ratchet.skippedKeys.lookup skipKey with
  | some (messageKey, _) =>
    let plaintext ← ofExcept
      ((prims.aeadDecrypt messageKey message.ciphertext ad).mapError .decryptionFailed)
    modify fun session => { session with skippedKeys := session.skippedKeys.erase skipKey }
    return plaintext
  | none =>
    let pending ← ofExcept (ratchet.stageReceive prims fresh message.header)
    let plaintext ← ofExcept
      ((prims.aeadDecrypt pending.messageKey message.ciphertext ad).mapError .decryptionFailed)
    modify (·.commitReceive pending)
    return plaintext

omit [DecidableEq Public] in
theorem encryptInPlace_eq (plaintext) : (encryptInPlace prims plaintext).run.run ratchet =
      landed ratchet (ratchet.encrypt prims plaintext) := by
  rw [encryptInPlace, run_get_bind, encrypt]
  cases ratchet.sendingChain with
  | none => rfl
  | some chain =>
    dsimp only
    cases prims.aeadEncrypt (prims.kdf.message chain) plaintext _ <;> rfl

theorem decryptInPlace_eq (fresh message) : (decryptInPlace prims fresh message).run.run ratchet =
      landed ratchet (ratchet.decrypt prims fresh message) := by
  rw [decryptInPlace, run_get_bind, decrypt]
  dsimp only
  cases ratchet.skippedKeys.lookup (message.header.dhPublic, message.header.messageNumber) with
  | some stored =>
    dsimp only
    cases prims.aeadDecrypt stored.1 message.ciphertext _ <;> rfl
  | none =>
    cases ratchet.stageReceive prims fresh message.header with
    | error => rfl
    | ok pending =>
      rw [run_ofExcept_ok_bind]
      dsimp only
      cases prims.aeadDecrypt pending.messageKey message.ciphertext _ <;> rfl

/-- A call that fails leaves the whole session as it was. -/
theorem failed_call_leaves_session :
    (∀ plaintext error, ((encryptInPlace prims plaintext).run.run ratchet).1 = .error error →
      ((encryptInPlace prims plaintext).run.run ratchet).2 = ratchet) ∧ ∀ fresh message error,
        ((decryptInPlace prims fresh message).run.run ratchet).1 = .error error →
        ((decryptInPlace prims fresh message).run.run ratchet).2 = ratchet := by
  refine ⟨fun _ error => ?_, fun _ _ error => ?_⟩
  · rw [encryptInPlace_eq]
    exact landed_eq_error
  · rw [decryptInPlace_eq]
    exact landed_eq_error

end DoubleRatchet

/-- A stored key as it is exported. -/
structure SkippedKey (Public Key : Type) where
  ratchetPublic : Public
  messageNumber : Nat
  messageKey : Key

/-- The exported state of a session. -/
structure RatchetState (Secret Public Key : Type) where
  dhSecret : Secret
  dhPublic : Public
  remoteDhPublic : Option Public
  rootKey : Key
  (sendingChain receivingChain : Option Key)
  (sendCount recvCount previousChainLength : Nat)
  skippedKeys : List (SkippedKey Public Key)
  associatedData : Bytes

namespace DoubleRatchet

/-- Export a session; stored keys come in the order of their storing. -/
def exportState (ratchet : DoubleRatchet Secret Public Key) : RatchetState Secret Public Key :=
  { ratchet with
    skippedKeys := ratchet.skippedKeys.inOrder.map fun entry => ⟨entry.1.1, entry.1.2, entry.2⟩ }

/-- Restore a session; stored keys are numbered from zero. -/
def fromState (state : RatchetState Secret Public Key) : DoubleRatchet Secret Public Key :=
  { state with
    skippedKeys := Stamped.insertAll ∅ 0
      (state.skippedKeys.map fun stored =>
        ((stored.ratchetPublic, stored.messageNumber), stored.messageKey))
    skippedKeySeq := state.skippedKeys.length }

end DoubleRatchet

end BitSov.Crypto
