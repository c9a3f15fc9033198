import BitSov.Outbox.Row
import BitSov.Pairing.Service
import BitSov.Process.Machine

namespace BitSov.Pairing

open Spend Outbox Ordered Arithmetic Process

/-!
# Authority to dispatch

Grants are written by the owner or by a device key, metered by reservations
and revoked.  A wallet future is polled under the lock of the service, and
every poll checks again that its reservation is pending in a grant that may
still spend.
-/

structure GrantTerms where
  breakers : BreakerLimits := {}
  payeeAllowlist : Option (OrderedMap String Unit) := none
  allowLiquidityFees : Bool := false
  (budgetMsat perCallMaxMsat : UInt64)
  perRecipientMsat : OrderedMap String UInt64 := .empty
  ttlSecs : Int
  deriving Repr, DecidableEq

/-- What a paid call signal is, for its limit at dispatch. -/
inductive CallPayment where
  | media
  | signal
  deriving Repr, DecidableEq

end BitSov.Pairing

namespace BitSov.Spend.GrantBudget

open Pairing Ordered Arithmetic

/-- A new meter with the owner's terms. -/
def fromTerms (terms : GrantTerms) : GrantBudget :=
  { terms with }

/-- An empty relation meter; envelopes are opened in it. -/
def relations : GrantBudget where
  budgetMsat := 0
  perCallMaxMsat := 0
  recipientsOnly := true

variable (budget : GrantBudget)

def openEnvelope (recipient : String) (budgetMsat perActMaxMsat : UInt64)
    (expiresAt : Int) : GrantBudget :=
  let used := (budget.usedByRecipient.get? recipient).getD 0
  let oldLeft := ((budget.perRecipientMsat.get? recipient).map fun cap =>
    saturatingSub cap used).getD 0
  let total := saturatingAdd (saturatingSub budget.budgetMsat oldLeft) budgetMsat
  { budget with
    perRecipientMsat := budget.perRecipientMsat.insert recipient (saturatingAdd used budgetMsat)
    perActMaxByRecipient := budget.perActMaxByRecipient.insert recipient perActMaxMsat
    recipientExpiresAt := budget.recipientExpiresAt.insert recipient expiresAt
    budgetMsat := total
    perCallMaxMsat := min total messagingPerCallMaxMsatCeiling }

/-- The most one paid call signal of a purpose may carry now. -/
def callDebitLimit (peer : String) : CallPayment → UInt64
  | .media => budget.callPaymentLimit peer
  | .signal => budget.callSignalLimit peer

/-- Every charge of a paid call signal fits the grant as it is now. -/
def checkCallDebit (charges : List Charge) (purpose : CallPayment) : Bool :=
  charges.all fun charge => charge.amountMsat ≤ budget.callDebitLimit charge.recipient purpose

end BitSov.Spend.GrantBudget

namespace BitSov.Pairing

open Spend Outbox Ordered Process

/-- A confirmed request of a client for more scopes. -/
structure PendingElevation where
  (opId clientId : String)
  scopes : List Scope
  deriving Repr, DecidableEq

/-- A device's signed approval of a budget. -/
structure BudgetApproval where
  (opId clientId : String)
  epoch : UInt64
  (node keyId receipt : String)
  deriving Repr, DecidableEq

/-- A verified intent of a device key to pay one peer. -/
structure RelationIntent where
  clientId : String
  epoch : UInt64
  (node keyId peer : String)
  (budgetMsat perActMaxMsat : UInt64)
  windowSecs : Int
  deriving Repr, DecidableEq

/-- A live grant of the intent's client, epoch and identity. -/
def RelationIntent.isFor (intent : RelationIntent) (now : Int) (recipientsOnly : Bool)
    (grant : SpendGrant) : Bool :=
  grant.clientId = intent.clientId && grant.epoch = intent.epoch &&
    grant.identityFingerprint = intent.node && grant.isLive now &&
      grant.budget.any fun budget => budget.recipientsOnly = recipientsOnly

/-- A grant with the envelope of an intent, living until its last envelope. -/
def RelationIntent.renew (intent : RelationIntent) (now : Int) (grant : SpendGrant) : SpendGrant :=
  let expires := now + intent.windowSecs
  match grant.budget with
  | none => grant
  | some budget =>
    let opened := budget.openEnvelope intent.peer intent.budgetMsat intent.perActMaxMsat expires
    let deadlines := (opened.recipientExpiresAt.entries.map Prod.snd).filter fun at_ => at_ > now
    { grant with
      budget := some opened, grantedAt := now, expiresAt := (deadlines.max?).getD expires,
      grantedBy := "device:" ++ intent.keyId }

namespace Service

variable (service : Service)

/-- A new budget window replaces the client's old one. -/
def writeGrant (grant : SpendGrant) : Service :=
  let retired := service.retireWhere fun old => old.clientId = grant.clientId
  { retired with grants := retired.grants ++ [grant] }

/-- The owner grants a confirmed request. -/
def grantElevation (op : PendingElevation) (terms : GrantTerms) (now : Int) :
    Except PairingError Service :=
  if .frontDoor ∈ op.scopes then
    .error (.notGrantable
      "this request asks for front_door, which carries no budget; grant it as a front-door grant")
  else
    match service.client? op.clientId with
    | none => .error .unknownClient
    | some client =>
      .ok (service.writeGrant
        { opId := op.opId
          clientId := op.clientId
          scopes := op.scopes
          grantedAt := now
          expiresAt := now + terms.ttlSecs
          identityFingerprint := service.identityFingerprint
          epoch := client.epoch
          grantedBy := "cli"
          budget := some (.fromTerms terms)
          ownerApproval := none })

/-- A device key approves a budget. -/
def approveBudget (op : BudgetApproval) (terms : GrantTerms) (now : Int) : Service :=
  service.writeGrant
    { opId := op.opId
      clientId := op.clientId
      scopes := [.spend]
      grantedAt := now
      expiresAt := now + terms.ttlSecs
      identityFingerprint := op.node
      epoch := op.epoch
      grantedBy := "device:" ++ op.keyId
      budget := some (.fromTerms terms)
      ownerApproval := some op.receipt }

/-- Open an envelope in the client's relation grant, or in a new one. -/
def openRelation (intent : RelationIntent) (opId : String) (now : Int) :
    Except PairingError Service :=
  if service.grants.any (intent.isFor now false) then
    .error (.malformed
      "a live console grant must be revoked through the owner console before opening a relation grant")
  else
    match service.grants.findIdx? (intent.isFor now true) with
    | some index =>
      .ok { service with grants := service.grants.modify index (intent.renew now) }
    | none =>
      .ok (service.writeGrant
        (intent.renew now
          { opId
            clientId := intent.clientId
            scopes := [.spend]
            grantedAt := now
            expiresAt := now + intent.windowSecs
            identityFingerprint := intent.node
            epoch := intent.epoch
            grantedBy := "device:" ++ intent.keyId
            budget := some .relations
            ownerApproval := none }))

/-- Removing a device key ends the relation grants of its client. -/
def endRelationGrants (clientId : String) : Service :=
  service.retireWhere fun grant =>
    grant.clientId = clientId && grant.budget.any fun budget => budget.recipientsOnly

/-- Keep the epoch of a pairing to be removed and revoke its grants. -/
def retirePairing (clientId : String) : Service :=
  match service.client? clientId with
  | none => service.revokeGrants (some clientId)
  | some client => (service.trackEpoch clientId client.epoch).revokeGrants (some clientId)

/-- Remove the pairings of removed owner devices. -/
def removePairings (clientIds : List String) : Service :=
  let removed := clientIds.foldl retirePairing service
  { removed with clients := removed.clients.filter fun client => client.clientId ∉ clientIds }

/-- One call on the meters of the chosen grants. -/
def meter (chosen : Nat → Bool) (step : MeterStep) : Service :=
  { service with
    grants := service.grants.mapIdx fun index grant =>
      if chosen index then { grant with budget := grant.budget.map step.apply } else grant
    issued := service.issued ++ step.reserves.toList }

/-- The check of every poll: may this reservation dispatch now? -/
def authority (deployment : Deployment) (service : Service) (reservation : Reservation)
    (call : Option (String × String)) (purpose : Option CallPayment) (now : Int) :
    Except BudgetRefusal Unit :=
  let purpose := purpose.or (call.map fun _ => .media)
  let valid := service.grants.any fun grant =>
    deployment.permitsSpendGrant grant &&
      grant.opId = reservation.opId &&
      (grant.budget.any fun budget =>
        ((budget.pending.get? reservation.id).any fun recipients =>
          budget.envelopesLive (recipients.entries.map Prod.fst) now) &&
          (call.all fun held =>
            budget.callReservations.entries.any fun entry =>
              entry.2.terms.peer = held.1 && entry.2.terms.callId = held.2 &&
                !entry.2.closed && (budget.checkCallHold entry.2.terms).isOk) &&
          purpose.all fun purpose => budget.checkCallDebit reservation.charges purpose) &&
      grant.clientId = reservation.clientId &&
      grant.identityFingerprint = service.identityFingerprint &&
      grant.scopes.contains .spend &&
      grant.isLive now &&
      service.clients.any fun client =>
        client.clientId = grant.clientId && client.epoch = grant.epoch &&
          client.identityFingerprint = service.identityFingerprint
  if !valid then .error .noGrant
  else if service.grants.any fun grant =>
    grant.opId = reservation.opId &&
      grant.clientId = reservation.clientId &&
        grant.budget.any fun budget => budget.breakerState.paused then
    .error .grantPaused
  else .ok ()

end Service

end BitSov.Pairing
