import BitSov.Crypto.DoubleRatchet

namespace BitSov.Crypto

open Core Encoding

/-!
# Key agreement

The initiator of a session combines its identity key and an ephemeral key
with the keys of a published bundle; the responder combines its own keys the
other way round.  A one-time pre-key of the responder is part of it if the
bundle names one.
-/

inductive X3dhError where
  | invalidSignature (reason : String)
  deriving Repr, DecidableEq

inductive SessionError where
  | noSession (peer : NodeId)
  | sessionExists (peer : NodeId)
  | keyAgreement (error : X3dhError)
  | ratchet (error : RatchetError)
  | invalidPeerData (reason : String)
  | notPersisted
  deriving Repr, DecidableEq

def toHex (id : NodeId) : String :=
  hexEncode id.bytes.toList

structure SessionPrimitives (Secret Public Key Cipher Verifying Signature : Type)
    extends RatchetPrimitives Secret Public Key Cipher where
  asBytes : Public → Vector UInt8 32
  ofBytes : Vector UInt8 32 → Public
  sharedSecret : List Key → Key
  signatureFromSlice : Bytes → Except String Signature
  signatureBytes : Signature → Bytes
  verifyingKey : NodeId → Except String Verifying
  verify : Verifying → Bytes → Signature → Except String Unit

structure NodeIdentity (Secret Public Signature : Type) where
  nodeId : NodeId
  x25519Secret : Secret
  x25519Public : Public
  sign : Bytes → Signature

structure SignedPreKey (Secret Public : Type) where
  secret : Secret
  publicKey : Public

structure OneTimePreKey (Secret Public : Type) where
  id : Nat
  secret : Secret
  publicKey : Public

structure PrekeyBundle (Public Verifying Signature : Type) where
  (identityKey signedPrekey : Public)
  signedPrekeySig : Signature
  identityVerifyingKey : Verifying
  oneTimePrekey : Option Public
  oneTimePrekeyId : Option Nat

structure SerializablePrekeyBundle where
  (identityKey signedPrekey signedPrekeySig nodeId : String)
  oneTimePrekey : Option String
  oneTimePrekeyId : Option Nat

/-- What the initiator of a session sends. -/
structure SerializableSessionInit where
  (identityKey ephemeralKey : String)
  oneTimePrekeyId : Option Nat
  ratchetKey : String

/-- An agreed secret and what both sides bind their messages to. -/
structure X3dhSharedSecret (Key : Type) where
  secret : Key
  associatedData : Bytes

structure X3dhInitiation (Public Key : Type) where
  sharedSecret : X3dhSharedSecret Key
  (identityKey ephemeralKey : Public)
  oneTimePrekeyId : Option Nat

namespace SessionPrimitives

variable {Secret Public Key Cipher Verifying Signature : Type}
  (prims : SessionPrimitives Secret Public Key Cipher Verifying Signature)

def buildAssociatedData (ikA ikB : Public) : Bytes :=
  (prims.asBytes ikA).toList ++ (prims.asBytes ikB).toList

def generateSignedPreKey (secret : Secret) : SignedPreKey Secret Public :=
  ⟨secret, prims.publicKey secret⟩

def generateOneTimePreKey (id : Nat) (secret : Secret) : OneTimePreKey Secret Public :=
  ⟨id, secret, prims.publicKey secret⟩

/-- The side of the initiator, with the ephemeral secret that it has drawn. -/
def initiate (aliceIdentitySecret : Secret) (aliceIdentityPublic : Public)
    (bobBundle : PrekeyBundle Public Verifying Signature) (ephemeralSecret : Secret) :
    Except X3dhError (X3dhInitiation Public Key) :=
  match prims.verify bobBundle.identityVerifyingKey
    (prims.asBytes bobBundle.signedPrekey).toList
    bobBundle.signedPrekeySig
  with
  | .error reason => .error (.invalidSignature reason)
  | .ok () =>
    let exchanged := [prims.diffieHellman aliceIdentitySecret bobBundle.signedPrekey,
      prims.diffieHellman ephemeralSecret bobBundle.identityKey,
      prims.diffieHellman ephemeralSecret bobBundle.signedPrekey]
    let withOneTime :=
      match bobBundle.oneTimePrekey with
      | some opk => exchanged ++ [prims.diffieHellman ephemeralSecret opk]
      | none => exchanged
    .ok
      { sharedSecret :=
        { secret := prims.sharedSecret withOneTime
          associatedData := prims.buildAssociatedData aliceIdentityPublic bobBundle.identityKey }
        identityKey := aliceIdentityPublic
        ephemeralKey := prims.publicKey ephemeralSecret
        oneTimePrekeyId :=
          if bobBundle.oneTimePrekey.isSome then bobBundle.oneTimePrekeyId
          else none }

def respond (bobIdentitySecret : Secret) (bobIdentityPublic : Public)
    (bobSignedPrekey : SignedPreKey Secret Public)
    (bobOneTimePrekey : Option (OneTimePreKey Secret Public))
    (aliceIdentityKey aliceEphemeralKey : Public) : X3dhSharedSecret Key :=
  let exchanged := [prims.diffieHellman bobSignedPrekey.secret aliceIdentityKey,
    prims.diffieHellman bobIdentitySecret aliceEphemeralKey,
    prims.diffieHellman bobSignedPrekey.secret aliceEphemeralKey]
  let withOneTime :=
    match bobOneTimePrekey with
    | some opk => exchanged ++ [prims.diffieHellman opk.secret aliceEphemeralKey]
    | none => exchanged
  { secret := prims.sharedSecret withOneTime
    associatedData := prims.buildAssociatedData aliceIdentityKey bobIdentityPublic }

def parseX25519Key (text : String) : Except SessionError Public :=
  match hexDecode text with
  | .error error => .error (.invalidPeerData ("invalid hex: " ++ error.toText))
  | .ok bytes =>
    match exactly 32 bytes with
    | some key => .ok (prims.ofBytes key)
    | none => .error (.invalidPeerData "expected 32-byte X25519 key")

def parseSignature (text : String) : Except SessionError Signature :=
  match hexDecode text with
  | .error error => .error (.invalidPeerData ("invalid sig hex: " ++ error.toText))
  | .ok bytes =>
    match prims.signatureFromSlice bytes with
    | .ok signature => .ok signature
    | .error reason => .error (.invalidPeerData ("invalid signature: " ++ reason))

/-- Parse a node id, as its key. -/
def parseVerifyingKey (text : String) : Except SessionError Verifying :=
  match hexDecode text with
  | .error error =>
    .error (.invalidPeerData ("invalid node_id: hex decode error: " ++ error.toText))
  | .ok bytes =>
    match exactly 32 bytes with
    | none =>
      .error (.invalidPeerData
        ("invalid node_id: invalid public key: expected 32 bytes, got " ++ toString bytes.length))
    | some key =>
      match prims.verifyingKey ⟨key⟩ with
      | .ok verifying => .ok verifying
      | .error reason =>
        .error (.invalidPeerData ("invalid verifying key: invalid public key: " ++ reason))

/-- Parse a one-time pre-key, if the bundle has one. -/
def parseOneTimeKey : Option String → Except SessionError (Option Public)
  | none => .ok none
  | some text => some <$> prims.parseX25519Key text

def deserializePrekeyBundle (bundle : SerializablePrekeyBundle) :
    Except SessionError (PrekeyBundle Public Verifying Signature) := do
  let identityKey ← prims.parseX25519Key bundle.identityKey
  let signedPrekey ← prims.parseX25519Key bundle.signedPrekey
  let signedPrekeySig ← prims.parseSignature bundle.signedPrekeySig
  let identityVerifyingKey ← prims.parseVerifyingKey bundle.nodeId
  let oneTimePrekey ← prims.parseOneTimeKey bundle.oneTimePrekey
  return {
    identityKey
    signedPrekey
    signedPrekeySig
    identityVerifyingKey
    oneTimePrekey
    oneTimePrekeyId := bundle.oneTimePrekeyId
  }

def keyText (key : Public) : String :=
  hexEncode (prims.asBytes key).toList

end SessionPrimitives

end BitSov.Crypto
