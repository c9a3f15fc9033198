import BitSov.Crypto.X3dh

namespace BitSov.Crypto

open Core Encoding

/-!
# The session manager

One session per peer is in use.  A newer one is held aside until the peer has
proven that it holds it, and the one that was replaced can still read for a
while.  Only the session in use is saved.

Calls are modelled by what they do while they hold the lock of the sessions;
saving after a call takes the lock again and is a step of its own.  What the
node draws at random, the clocks and the answers of the store are arguments.
A ratchet is held with the number of its derivation and the role of this node
in it, which no function reads.
-/

/-- A ratchet with the number of its derivation. -/
structure HeldRatchet (Secret Public Key : Type) where
  name : Nat
  initiated : Bool
  ratchet : DoubleRatchet Secret Public Key

structure SavedRatchet (Secret Public Key : Type) where
  name : Nat
  initiated : Bool
  state : RatchetState Secret Public Key

/-- A replaced session, which only reads. -/
structure RetiredSession (Secret Public Key : Type) where
  held : HeldRatchet Secret Public Key
  since : Nat

/-- The session with a peer; instants are in nanoseconds. -/
structure PeerSession (Secret Public Key : Type) where
  held : HeldRatchet Secret Public Key
  establishedAtMs : Option Nat
  unconfirmed : Option (HeldRatchet Secret Public Key)
  unconfirmedInitiated : Bool
  unconfirmedSince : Option Nat
  (awaitingConfirmation needsRenegotiation : Bool)
  retired : Option (RetiredSession Secret Public Key)
  ratchetInitOwed : Bool

/-- What to do with a session that exists when a new one is derived. -/
inductive SessionReplacement where
  | keep
  | afterConfirmation
  deriving Repr, DecidableEq

/-- The clocks at a call: the instant and the time since the epoch. -/
structure Clock where
  instant : Nat
  nowMs : Option Nat
  deriving Repr, DecidableEq

/-- How the store answers; a failed write may have taken effect. -/
inductive StoreAnswer where
  | stored
  | failed (effective : Bool)
  deriving Repr, DecidableEq

/-- Whether a write has taken effect. -/
def StoreAnswer.effective : StoreAnswer → Bool
  | .stored => true
  | .failed effective => effective

/-- The secrets that the ratchets draw which try to read a message. -/
structure ReadDraws (Secret : Type) where
  (current unconfirmed retired : Secret)

/-- How long a replaced session can read. -/
def retiredSessionReadsFor : Nat :=
  60 * 60 * 10 ^ 9

variable {Secret Public Key Cipher Verifying Signature : Type}

namespace HeldRatchet

variable (held : HeldRatchet Secret Public Key)

/-- The same derivation with its ratchet moved on. -/
def withRatchet (ratchet : DoubleRatchet Secret Public Key) : HeldRatchet Secret Public Key :=
  { held with ratchet }

def save : SavedRatchet Secret Public Key :=
  ⟨held.name, held.initiated, held.ratchet.exportState⟩

variable [DecidableEq Public]

def decrypt (prims : RatchetPrimitives Secret Public Key Cipher)
    (held : HeldRatchet Secret Public Key) (fresh : Secret)
    (message : RatchetMessage Public Cipher) :
    Except RatchetError (Bytes × HeldRatchet Secret Public Key) :=
  match held.ratchet.decrypt prims fresh message with
  | .ok (plaintext, next) => .ok (plaintext, held.withRatchet next)
  | .error error => .error error

/-- What was saved, in use again. -/
def restore (saved : SavedRatchet Secret Public Key) : HeldRatchet Secret Public Key :=
  ⟨saved.name, saved.initiated, DoubleRatchet.fromState saved.state⟩

end HeldRatchet

namespace PeerSession

variable (session : PeerSession Secret Public Key) (held : HeldRatchet Secret Public Key)

def new (establishedAtMs : Option Nat)
    (awaitingConfirmation : Bool) : PeerSession Secret Public Key where
  held
  establishedAtMs
  unconfirmed := none
  unconfirmedInitiated := false
  unconfirmedSince := none
  awaitingConfirmation
  needsRenegotiation := false
  retired := none
  ratchetInitOwed := false

variable (clock : Clock)

/-- A session that the peer has proven takes over. -/
def switchTo : PeerSession Secret Public Key :=
  { new held clock.nowMs false with retired := some ⟨session.held, clock.instant⟩ }

/-- The replaced session, as long as it can read. -/
def readable : Option (RetiredSession Secret Public Key) :=
  session.retired.filter fun retired => clock.instant - retired.since ≤ retiredSessionReadsFor

def holdAside (initiator : Bool) (clock : Clock) : PeerSession Secret Public Key :=
  { session with
    unconfirmed := some held, unconfirmedInitiated := initiator,
    unconfirmedSince := some clock.instant }

/-- The peer acknowledges; nothing is changed if nothing was awaited. -/
def confirm : Option (PeerSession Secret Public Key) :=
  match session.unconfirmed with
  | some held =>
    if session.unconfirmedInitiated then some (session.switchTo held clock)
    else if session.awaitingConfirmation then some { session with awaitingConfirmation := false }
    else none
  | none =>
    if session.awaitingConfirmation then some { session with awaitingConfirmation := false }
    else none

variable [DecidableEq Public] (prims : RatchetPrimitives Secret Public Key Cipher)
  (session : PeerSession Secret Public Key) (draws : ReadDraws Secret)
  (message : RatchetMessage Public Cipher) (clock : Clock)

/-- Read with the replaced session, after the others have failed. -/
def readRetired (error : RatchetError) :
    Except RatchetError (Bytes × PeerSession Secret Public Key) :=
  match session.readable clock with
  | none => .error error
  | some retired =>
    match retired.held.decrypt prims draws.retired message with
    | .error _ => .error error
    | .ok (plaintext, next) =>
      .ok (plaintext, { session with
        retired := some { retired with held := next }, ratchetInitOwed := true })

/-- Read a message with the first session that can. -/
def read : Except RatchetError (Bytes × PeerSession Secret Public Key) :=
  match session.held.decrypt prims draws.current message with
  | .ok (plaintext, next) =>
    .ok (plaintext, { session with held := next, needsRenegotiation := false })
  | .error error =>
    match session.unconfirmed with
    | none => session.readRetired prims draws message clock error
    | some held =>
      match held.decrypt prims draws.unconfirmed message with
      | .ok (plaintext, next) => .ok (plaintext, session.switchTo next clock)
      | .error _ => session.readRetired prims draws message clock error

/-- Read a message with copies of the sessions, the first that can. -/
def preview : Except RatchetError Bytes :=
  let reads (held : HeldRatchet Secret Public Key) (fresh : Secret) :=
    ((DoubleRatchet.fromState held.ratchet.exportState).decrypt prims fresh message).map Prod.fst
  let others := (session.unconfirmed.map (·, draws.unconfirmed)).toList ++
    ((session.readable clock).map (·.held, draws.retired)).toList
  match reads session.held draws.current with
  | .ok plaintext => .ok plaintext
  | .error error =>
    match others.findSome? fun (held, fresh) => (reads held fresh).toOption with
    | some plaintext => .ok plaintext
    | none => .error error

end PeerSession

abbrev SessionStore (Secret Public Key : Type) :=
  NodeId → Option (SavedRatchet Secret Public Key)

/-- The manager of all sessions; `derived` numbers the derivations. -/
structure SessionManager (Secret Public Key Signature : Type) where
  identity : NodeIdentity Secret Public Signature
  signedPrekey : SignedPreKey Secret Public
  oneTimePrekeys : List (OneTimePreKey Secret Public)
  nextOpkId : Nat
  sessions : NodeId → Option (PeerSession Secret Public Key)
  store : Option (SessionStore Secret Public Key)
  derived : Nat

namespace SessionManager

variable (prims : SessionPrimitives Secret Public Key Cipher Verifying Signature)

/-- The secrets that a new manager draws. -/
structure BootDraws (Secret : Type) where
  signedPrekey : Secret
  base : UInt32
  oneTime : Nat → Secret

/-- A manager without sessions and with ten one-time pre-keys. -/
def withOptionalStore (identity : NodeIdentity Secret Public Signature)
    (store : Option (SessionStore Secret Public Key)) (draws : BootDraws Secret) (derived : Nat) :
    SessionManager Secret Public Key Signature :=
  let base := draws.base.toNat / 2
  { identity
    signedPrekey := prims.generateSignedPreKey draws.signedPrekey
    oneTimePrekeys := (List.range 10).map fun index =>
      prims.generateOneTimePreKey (base + index) (draws.oneTime index)
    nextOpkId := base + 10
    sessions := fun _ => none
    store
    derived }

variable (manager : SessionManager Secret Public Key Signature) (peer : NodeId)

def put (session : Option (PeerSession Secret Public Key)) :
    SessionManager Secret Public Key Signature :=
  { manager with sessions := Function.update manager.sessions peer session }

/-- Write to the store what is to be kept for a peer. -/
def writeStore (saved : Option (SavedRatchet Secret Public Key)) (answer : StoreAnswer) :
    SessionManager Secret Public Key Signature :=
  if answer.effective then
    { manager with store := manager.store.map fun store => Function.update store peer saved }
  else manager

/-- Save the session that is in use; a failure is logged only. -/
def persistSession (answer : StoreAnswer) : SessionManager Secret Public Key Signature :=
  match manager.sessions peer with
  | none => manager
  | some session => manager.writeStore peer (some session.held.save) answer

/-- Install a derived session, or hold it aside. -/
def installSession (ratchet : DoubleRatchet Secret Public Key) (replacement : SessionReplacement)
    (initiator : Bool) (clock : Clock) :
    Except SessionError Unit × SessionManager Secret Public Key Signature :=
  let held := ⟨manager.derived, initiator, ratchet⟩
  let counted := { manager with derived := manager.derived + 1 }
  match replacement, manager.sessions peer with
  | .keep, some _ => (.error (.sessionExists peer), manager)
  | .afterConfirmation, some existing =>
    (.ok (), counted.put peer (some (existing.holdAside held initiator clock)))
  | _, none => (.ok (), counted.put peer (some (.new held clock.nowMs initiator)))

structure InitiateDraws (Secret : Type) where
  (ephemeral ratchet : Secret)

variable (initData : SerializableSessionInit) (peerBundle : SerializablePrekeyBundle)
  (replacement : SessionReplacement) (draws : InitiateDraws Secret)

def deriveInitiation :
    Except SessionError (X3dhInitiation Public Key × DoubleRatchet Secret Public Key) := do
  let bundle ← prims.deserializePrekeyBundle peerBundle
  let initiation ←
    (prims.initiate manager.identity.x25519Secret
      manager.identity.x25519Public bundle draws.ephemeral).mapError
      .keyAgreement
  .ok
    (initiation,
      .initSender prims.toRatchetPrimitives
        initiation.sharedSecret.secret bundle.signedPrekey
        initiation.sharedSecret.associatedData draws.ratchet)

/-- What is sent to the peer of a session that was initiated. -/
def sessionInit (initiation : X3dhInitiation Public Key)
    (ratchet : DoubleRatchet Secret Public Key) : SerializableSessionInit where
  identityKey := prims.keyText initiation.identityKey
  ephemeralKey := prims.keyText initiation.ephemeralKey
  oneTimePrekeyId := initiation.oneTimePrekeyId
  ratchetKey := prims.keyText ratchet.dhPublic

variable (clock : Clock)

/-- Initiate a session, up to its saving. -/
def initiateWith :
    Except SessionError SerializableSessionInit × SessionManager Secret Public Key Signature :=
  match manager.deriveInitiation prims peerBundle draws with
  | .error error => (.error error, manager)
  | .ok (initiation, ratchet) =>
    match manager.installSession peer ratchet replacement true clock with
    | (.error error, left) => (.error error, left)
    | (.ok (), installed) => (.ok (sessionInit prims initiation ratchet), installed)

/-- The one-time pre-key that an init names, with its place. -/
def namedPrekey (id : Option Nat) :
    Except SessionError (Option (Nat × OneTimePreKey Secret Public)) :=
  match id with
  | none => .ok none
  | some id =>
    match manager.oneTimePrekeys.zipIdx.find? fun entry => entry.1.id == id
    with
    | some (key, index) => .ok (some (index, key))
    | none => .error (.invalidPeerData ("unknown one-time prekey id " ++ toString id))

/-- Remove a one-time pre-key that was used. -/
def consume (named : Option (Nat × OneTimePreKey Secret Public)) :
    SessionManager Secret Public Key Signature :=
  match named with
  | none => manager
  | some (index, _) => { manager with oneTimePrekeys := manager.oneTimePrekeys.eraseIdx index }

/-- The session that an init of the peer derives, and the key it uses. -/
def deriveAcceptance :
    Except SessionError
      (Option (Nat × OneTimePreKey Secret Public) × DoubleRatchet Secret Public Key) := do
  let aliceIdentityKey ← prims.parseX25519Key initData.identityKey
  let aliceEphemeralKey ← prims.parseX25519Key initData.ephemeralKey
  let _ ← prims.parseX25519Key initData.ratchetKey
  let named ← manager.namedPrekey initData.oneTimePrekeyId
  let sharedSecret :=
    prims.respond manager.identity.x25519Secret
      manager.identity.x25519Public manager.signedPrekey
      (named.map Prod.snd) aliceIdentityKey aliceEphemeralKey
  .ok (named, .initReceiver sharedSecret.secret manager.signedPrekey.secret
    manager.signedPrekey.publicKey sharedSecret.associatedData)

/-- Accept a session, up to its saving and the making of new pre-keys. -/
def acceptWith : Except SessionError Unit × SessionManager Secret Public Key Signature :=
  match manager.deriveAcceptance prims initData with
  | .error error => (.error error, manager)
  | .ok (named, ratchet) =>
    match manager.installSession peer ratchet replacement false clock with
    | (.error error, left) => (.error error, left)
    | (.ok (), installed) => (.ok (), installed.consume named)

/-- Make new one-time pre-keys when few are left. -/
def replenishPrekeys (secrets : Nat → Secret) : SessionManager Secret Public Key Signature :=
  if manager.oneTimePrekeys.length < 5 then
    let batchSize := 10 - manager.oneTimePrekeys.length
    { manager with
      oneTimePrekeys := manager.oneTimePrekeys ++
        (List.range batchSize).map fun index =>
          prims.generateOneTimePreKey (wrap32 (manager.nextOpkId + index)) (secrets index)
      nextOpkId := wrap32 (manager.nextOpkId + batchSize) }
  else manager

/-- The peer acknowledges a session, up to its saving. -/
def confirmSession : Bool × SessionManager Secret Public Key Signature :=
  match manager.sessions peer with
  | none => (false, manager)
  | some session =>
    match session.confirm clock with
    | none => (false, manager)
    | some confirmed => (true, manager.put peer (some confirmed))

variable [DecidableEq Public]

/-- Encrypt a message; with a store, save before it is returned. -/
def encrypt (manager : SessionManager Secret Public Key Signature) (peer : NodeId)
    (plaintext : Bytes) (answer : StoreAnswer) :
    Except SessionError (RatchetMessage Public Cipher) ×
      SessionManager Secret Public Key Signature :=
  match manager.sessions peer with
  | none => (.error (.noSession peer), manager)
  | some session =>
    match session.held.ratchet.encrypt prims.toRatchetPrimitives plaintext
    with
    | .error error => (.error (.ratchet error), manager)
    | .ok (message, next) =>
      let advanced := { session with held := session.held.withRatchet next }
      match manager.store with
      | none => (.ok message, manager.put peer (some advanced))
      | some _ =>
        let written := manager.writeStore peer (some advanced.held.save) answer
        match answer with
        | .stored => (.ok message, written.put peer (some advanced))
        | .failed _ =>
          (.error .notPersisted,
            written.put peer
              (some
                { session with
                  held := session.held.withRatchet (.fromState session.held.ratchet.exportState) }))

def removeSession (answer : StoreAnswer) : Bool × SessionManager Secret Public Key Signature :=
  match manager.sessions peer with
  | none => (false, manager)
  | some _ => (true, (manager.put peer none).writeStore peer none answer)

def modifySession (change : PeerSession Secret Public Key → PeerSession Secret Public Key) :
    SessionManager Secret Public Key Signature :=
  manager.put peer ((manager.sessions peer).map change)

/-- The peer has sent something that could not be read. -/
def markNeedsRenegotiation : SessionManager Secret Public Key Signature :=
  manager.modifySession peer fun session => { session with needsRenegotiation := true }

def oweRatchetInit : SessionManager Secret Public Key Signature :=
  manager.modifySession peer fun session => { session with ratchetInitOwed := true }

def takeRatchetInitOwed : Bool × SessionManager Secret Public Key Signature :=
  ((manager.sessions peer).any fun session => session.ratchetInitOwed,
    manager.modifySession peer fun session => { session with ratchetInitOwed := false })

/-- Drop replaced sessions that have read for as long as they may. -/
def expireRetiredSessions : SessionManager Secret Public Key Signature :=
  { manager with
    sessions := fun peer =>
      (manager.sessions peer).map fun session =>
        { session with retired := session.readable clock } }

variable (manager : SessionManager Secret Public Key Signature) (peer : NodeId)
  (message : RatchetMessage Public Cipher) (draws : ReadDraws Secret) (clock : Clock)

/-- Inspect a message without using its keys up. -/
def previewDecrypt : Except SessionError Bytes × SessionManager Secret Public Key Signature :=
  match manager.sessions peer with
  | none => (.error (.noSession peer), manager)
  | some session =>
    ((session.preview prims.toRatchetPrimitives draws message clock).mapError .ratchet, manager)

/-- Decrypt a message, up to the saving of the session. -/
def decrypt : Except SessionError Bytes × SessionManager Secret Public Key Signature :=
  match manager.sessions peer with
  | none => (.error (.noSession peer), manager)
  | some session =>
    match session.read prims.toRatchetPrimitives draws message clock
    with
    | .error error => (.error (.ratchet error), manager)
    | .ok (plaintext, next) => (.ok plaintext, manager.put peer (some next))

/-- A session that the store has and that can be loaded, or the one before. -/
def resumedSession (saved : Option (SavedRatchet Secret Public Key)) (loaded : Bool)
    (before : Option (PeerSession Secret Public Key)) : Option (PeerSession Secret Public Key) :=
  match saved, loaded with
  | some saved, true => some (.new (.restore saved) none false)
  | _, _ => before

/-- Resume the sessions that the store has and that can be loaded. -/
def restoreSessions (manager : SessionManager Secret Public Key Signature) (loads : NodeId → Bool) :
    SessionManager Secret Public Key Signature :=
  match manager.store with
  | none => manager
  | some store =>
    { manager with
      sessions := fun peer => resumedSession (store peer) (loads peer) (manager.sessions peer) }

/-- The node starts again: a new manager, and what the store has. -/
def restart (manager : SessionManager Secret Public Key Signature) (draws : BootDraws Secret)
    (loads : NodeId → Bool) : SessionManager Secret Public Key Signature :=
  (withOptionalStore prims manager.identity manager.store draws
    manager.derived).restoreSessions loads

end SessionManager

end BitSov.Crypto
