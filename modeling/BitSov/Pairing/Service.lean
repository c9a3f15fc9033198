import BitSov.Spend.Ledger
import BitSov.Spend.Pending

namespace BitSov.Pairing

open Spend Ordered Arithmetic

/-!
# The pairing service

Paired clients, the spend grants written for them and the epochs that tie the
two together.  Every function below is the part of a call that runs under the
lock of the service, after the expired grants were dropped and before the file
is written.
-/

/-- What a token may be used for. -/
inductive Scope where
  | read
  | receive
  | spend
  | admin
  | identity
  | credential
  | frontDoor
  deriving Repr, DecidableEq

structure PairedClient where
  (clientId name clientPubkey : String)
  remoteTransportPubkey : Option String
  scopes : List Scope
  epoch : UInt64
  identityFingerprint : String
  createdAt : Int
  lastSeen : Option Int
  deriving Repr, DecidableEq

/-- A spend grant with everything that is checked when it authorises. -/
structure SpendGrant extends Spend.SpendGrant where
  scopes : List Scope
  identityFingerprint : String
  epoch : UInt64
  grantedBy : String
  /-- The signed receipt of the owner's approval, encoded. -/
  ownerApproval : Option String
  deriving Repr, DecidableEq

inductive PairingError where
  | closed
  | badProof
  | malformed (reason : String)
  | unknownClient
  | pairingInvalid (reason : String)
  | notGrantable (reason : String)
  deriving Repr, DecidableEq

/-- What is fixed while a service runs, and the cryptography it uses. -/
structure Deployment where
  (ownerControlEnabled localOwnerDevice : Bool)
  (deviceAuthorityOff ownerApprovalKey : Option String)
  receiptVerifies : String → SpendGrant → Bool
  parsePubkey : String → Bool
  /-- A key's signature of a message. -/
  verifyStrict : String → String → String → Bool
  (clientIdFromPubkey toAsciiLowercase : String → String)

structure Service where
  identityFingerprint : String
  clients : List PairedClient
  grants : List SpendGrant
  lastEpoch : OrderedMap String UInt64
  /-- The identifiers of all reservations made so far. -/
  issued : List String
  deriving Repr, DecidableEq

def defaultPairingScopes : List Scope :=
  [.read, .receive]

/-- Scopes a first-run pairing carries. -/
def bootstrapPairingScopes : List Scope :=
  [.read, .receive, .identity]

def Deployment.permitsSpendGrant (deployment : Deployment) (grant : SpendGrant) : Bool :=
  match grant.ownerApproval with
  | some receipt =>
    (deployment.ownerControlEnabled || deployment.localOwnerDevice) &&
      deployment.deviceAuthorityOff.isNone && deployment.receiptVerifies receipt grant
  | none =>
    deployment.ownerControlEnabled ||
      (deployment.localOwnerDevice && deployment.ownerApprovalKey.isSome &&
        grant.grantedBy.startsWith "device:" &&
          grant.budget.any fun budget => budget.recipientsOnly)

/-- A grant without its meter authorises nothing ever again. -/
def SpendGrant.retire (grant : SpendGrant) : SpendGrant :=
  { grant with budget := none }

namespace Service

variable (deployment : Deployment) (service : Service) (clientId : String)

/-- The current record of a client. -/
def client? : Option PairedClient :=
  service.clients.find? fun client => client.clientId = clientId

/-- Drop the grants that can no longer authorise anything. -/
def retainLiveGrants (now : Int) : Service :=
  { service with grants := service.grants.filter fun grant => grant.isLive now }

/-- Retire the grants that satisfy a condition. -/
def retireWhere (retired : SpendGrant → Bool) : Service :=
  { service with
    grants := service.grants.map fun grant =>
      if retired grant then grant.retire else grant }

def revokeGrants (clientId : Option String) : Service :=
  service.retireWhere fun grant => clientId.all fun id => grant.clientId = id

/-- Raise a recorded epoch to at least a value. -/
def trackEpoch (epoch : UInt64) : Service :=
  { service with
    lastEpoch := service.lastEpoch.alter clientId fun last => some (max (last.getD 0) epoch) }

/-- Bump a pairing's epoch, which drops its grants. -/
def bumpEpoch : Except PairingError (UInt64 × Service) :=
  match service.client? clientId with
  | none => .error .unknownClient
  | some record =>
    let epoch := record.epoch + 1
    let bumped :=
      { service with
        clients := service.clients.replaceF fun client =>
          if client.clientId = clientId then some { client with epoch } else none
        lastEpoch := service.lastEpoch.insert clientId epoch }
    .ok (epoch, bumped.revokeGrants (some clientId))

/-- Remove a pairing with its grants, and keep its epoch. -/
def revoke : Except PairingError Service :=
  match service.client? clientId with
  | none => .error .unknownClient
  | some existing =>
    let tracked := service.trackEpoch clientId existing.epoch
    let others := service.clients.filter fun client => client.clientId ≠ clientId
    .ok ({ tracked with clients := others }.revokeGrants (some clientId))

/-- The message that the old key signs for the new one. -/
def rotationMessage (clientId newPubkey : String) : String :=
  "bitsov-pair-rotate-v1:" ++ clientId ++ ":" ++ newPubkey

/-- The epoch above all given ones, if there is one. -/
def epochAbove (epochs : List UInt64) : Except PairingError UInt64 :=
  let highest := epochs.foldl max 0
  if highest.toNat = u64Max then .error .closed else .ok (highest + 1)

/-- Rotate a client key: the new public key is signed by the old one. -/
def rotateClientKey
    (clientId newPubkey signature : String) : Except PairingError (PairedClient × Service) :=
  if !deployment.parsePubkey newPubkey then .error (.malformed "invalid public key")
  else
    match service.client? clientId with
    | none => .error .unknownClient
    | some old =>
      if old.scopes.isEmpty then .error (.pairingInvalid "provisional")
      else if !deployment.verifyStrict old.clientPubkey
        (rotationMessage clientId newPubkey) signature then
        .error .badProof
      else
        let newKey := deployment.toAsciiLowercase newPubkey
        let newId := deployment.clientIdFromPubkey newKey
        let destinationLast := (service.lastEpoch.get? newId).getD 0
        let destinationCurrent := ((service.client? newId).map fun client => client.epoch).getD 0
        match epochAbove [old.epoch, destinationLast, destinationCurrent] with
        | .error error => .error error
        | .ok epoch =>
          let rotated :=
            { old with
              clientId := newId, clientPubkey := newKey, remoteTransportPubkey := none, epoch }
          let tracked := (service.trackEpoch clientId old.epoch).trackEpoch newId epoch
          let others := service.clients.filter fun client =>
            client.clientId ≠ clientId && client.clientId ≠ newId
          let replaced := { tracked with clients := others ++ [rotated] }
          .ok (rotated, replaced.revokeGrants (some clientId))

/-- Bind every pairing to a newly committed identity. -/
def rebindToIdentity (fingerprint : String) : Service :=
  let clients : List PairedClient := service.clients.map fun client => { client with
    identityFingerprint := fingerprint, scopes := defaultPairingScopes }
  { service with identityFingerprint := fingerprint, clients }.revokeGrants none

/-- Record a client under an epoch above its recorded one and a prior one. -/
def enrol (record : PairedClient) (prior : UInt64) : Except PairingError (PairedClient × Service) :=
  let last := (service.lastEpoch.get? record.clientId).getD 0
  match epochAbove [last, prior] with
  | .error error => .error error
  | .ok epoch =>
    let enrolled := { record with epoch }
    .ok (enrolled, { service with
      lastEpoch := service.lastEpoch.insert record.clientId epoch
      clients := service.clients ++ [enrolled] })

/-- Pair a client whose proof was verified, in place of an earlier pairing. -/
def confirmPairing (clientPubkey name : String)
    (scopes : List Scope) (now : Int) : Except PairingError (PairedClient × Service) :=
  let clientId := deployment.clientIdFromPubkey clientPubkey
  if Scope.identity ∈ scopes ∧ service.identityFingerprint ≠ "" then .error .closed
  else
    let prior := ((service.client? clientId).map fun client => client.epoch).getD 0
    let others := service.clients.filter fun client => client.clientId ≠ clientId
    { service with clients := others }.enrol
      { clientId, name, clientPubkey
        remoteTransportPubkey := none
        scopes
        epoch := 0
        identityFingerprint := service.identityFingerprint
        createdAt := now
        lastSeen := none }
      prior

variable (name clientPubkey remoteTransportPubkey : String)

/-- Pair the first client of a node without an identity. -/
def createBootstrapTicketPairing (now : Int) : Except PairingError (PairedClient × Service) :=
  let normalized := deployment.toAsciiLowercase clientPubkey
  if !deployment.parsePubkey normalized then .error (.malformed "invalid public key")
  else if service.identityFingerprint ≠ "" ∨ service.clients ≠ [] then .error .closed
  else
    service.enrol
      { clientId := deployment.clientIdFromPubkey normalized
        name
        clientPubkey := normalized
        remoteTransportPubkey := some remoteTransportPubkey
        scopes := bootstrapPairingScopes
        epoch := 0
        identityFingerprint := ""
        createdAt := now
        lastSeen := none }
      0

/-- Pair a remote client, or bind a transport key to its pairing. -/
def createRemotePairing (now : Int) : Except PairingError (PairedClient × Service) :=
  let normalized := deployment.toAsciiLowercase clientPubkey
  let clientId := deployment.clientIdFromPubkey normalized
  if !deployment.parsePubkey normalized then .error (.malformed "invalid public key")
  else if service.clients.any fun client =>
    client.remoteTransportPubkey = some remoteTransportPubkey && client.clientId ≠ clientId then
    .error .closed
  else if service.identityFingerprint = "" then
    .error (.pairingInvalid "remote access requires a live node identity")
  else
    match service.client? clientId with
    | some existing =>
      if existing.identityFingerprint ≠ service.identityFingerprint then
        .error (.pairingInvalid "identity fingerprint changed")
      else
        match existing.remoteTransportPubkey with
        | some bound =>
          if bound = remoteTransportPubkey then .ok (existing, service) else .error .closed
        | none =>
          let record := { existing with remoteTransportPubkey := some remoteTransportPubkey }
          .ok (record, { service with
            clients := service.clients.replaceF fun client =>
              if client.clientId = clientId then some record else none })
    | none =>
      service.enrol
        { clientId
          name
          clientPubkey := normalized
          remoteTransportPubkey := some remoteTransportPubkey
          scopes := defaultPairingScopes
          epoch := 0
          identityFingerprint := service.identityFingerprint
          createdAt := now
          lastSeen := none }
        0

/-- Pair a second device provisionally, without any scope. -/
def startProvisional (name publicKey transport : String) (now : Int) :
    Except PairingError (PairedClient × Service) :=
  let normalized := deployment.toAsciiLowercase publicKey
  if !deployment.parsePubkey normalized then .error (.malformed "invalid public key")
  else if service.clients.any fun client =>
    client.clientPubkey = normalized || client.remoteTransportPubkey = some transport then
    .error (.pairingInvalid "already_paired")
  else if service.identityFingerprint = "" then .error .closed
  else
    service.enrol
      { clientId := deployment.clientIdFromPubkey normalized
        name
        clientPubkey := normalized
        remoteTransportPubkey := some transport
        scopes := []
        epoch := 0
        identityFingerprint := service.identityFingerprint
        createdAt := now
        lastSeen := none }
      0

/-- Drop a provisional pairing. -/
def removeProvisional : Service :=
  { service with clients := service.clients.filter fun client => client.clientId ≠ clientId }

end Service

end BitSov.Pairing
