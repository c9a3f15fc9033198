import BitSov.Pairing.Authority

namespace BitSov.Pairing

open Spend Outbox Ordered Process List

/-!
# Polling a wallet future under the lock

A metered payment polls its future only inside the authority check.  This
module runs any number of such payments against every other call on one
service, and shows that a revocation ends the reservations made before it for
good, whatever is paired and granted afterwards.
-/

inductive Request where
  | revokeGrants (clientId : Option String)
  | revoke (clientId : String)
  | bumpEpoch (clientId : String)
  | rotateClientKey (clientId newPubkey signature : String)
  | rebindToIdentity (fingerprint : String)
  | confirmPairing (clientPubkey name : String) (scopes : List Scope) (now : Int)
  | createBootstrapTicketPairing (name clientPubkey remoteTransportPubkey : String) (now : Int)
  | createRemotePairing (name clientPubkey remoteTransportPubkey : String) (now : Int)
  | startProvisional (name publicKey transport : String) (now : Int)
  | removeProvisional (clientId : String)
  | grantElevation (op : PendingElevation) (terms : GrantTerms) (now : Int)
  | approveBudget (op : BudgetApproval) (terms : GrantTerms) (now : Int)
  | openRelation (intent : RelationIntent) (opId : String) (now : Int)
  | endRelationGrants (clientId : String)
  | removePairings (clientIds : List String)
  | meter (chosen : Nat → Bool) (step : MeterStep)

namespace Request

/-- The change a call makes under the lock. -/
def apply (deployment : Deployment) (service : Service) : Request → Except PairingError Service
  | .revokeGrants clientId => .ok (service.revokeGrants clientId)
  | .revoke clientId => service.revoke clientId
  | .bumpEpoch clientId => (service.bumpEpoch clientId).map Prod.snd
  | .rotateClientKey clientId newPubkey signature =>
    (service.rotateClientKey deployment clientId newPubkey signature).map Prod.snd
  | .rebindToIdentity fingerprint => .ok (service.rebindToIdentity fingerprint)
  | .confirmPairing clientPubkey name scopes now =>
    (service.confirmPairing deployment clientPubkey name scopes now).map Prod.snd
  | .createBootstrapTicketPairing name clientPubkey transport now =>
    (service.createBootstrapTicketPairing deployment name clientPubkey transport now).map Prod.snd
  | .createRemotePairing name clientPubkey transport now =>
    (service.createRemotePairing deployment name clientPubkey transport now).map Prod.snd
  | .startProvisional name publicKey transport now =>
    (service.startProvisional deployment name publicKey transport now).map Prod.snd
  | .removeProvisional clientId => .ok (service.removeProvisional clientId)
  | .grantElevation op terms now => service.grantElevation op terms now
  | .approveBudget op terms now => .ok (service.approveBudget op terms now)
  | .openRelation intent opId now => service.openRelation intent opId now
  | .endRelationGrants clientId => .ok (service.endRelationGrants clientId)
  | .removePairings clientIds => .ok (service.removePairings clientIds)
  | .meter chosen step => .ok (service.meter chosen step)

/-- The reservation a call makes. -/
def reserves : Request → Option String
  | .meter _ step => step.reserves
  | _ => none

/-- Whether a call revokes the authority of a client. -/
def covers (clientId : String) : Request → Bool
  | .revokeGrants covered => covered.all fun id => clientId = id
  | .revoke covered => clientId = covered
  | .bumpEpoch covered => clientId = covered
  | .rotateClientKey covered _ _ => clientId = covered
  | .rebindToIdentity _ => true
  | _ => false

end Request

/--
What the cleanup on every access and a write of the file leave: any number of
times the grants that are dead by then are dropped, none if the file could not
be written.
-/
def Cleans (before after : Service) : Prop :=
  ∃ times : List Int, after = times.foldl Service.retainLiveGrants before

/-- How a call on the service ended. -/
inductive Outcome where
  /-- Nothing was changed, or the change was taken back. -/
  | refused
  | done
  /-- The change was made, but the file could not be written. -/
  | notWritten
  deriving Repr, DecidableEq

/-- One call as an atomic step; a new reservation has a new identifier. -/
def Request.Effect (deployment : Deployment) (before : Service) (request : Request)
    (outcome : Outcome) (after : Service) : Prop :=
  ∃ opened, Cleans before opened ∧
    (∀ id ∈ request.reserves, id ∉ opened.issued) ∧
      match outcome with
      | .refused => after = opened
      | .done => ∃ changed, request.apply deployment opened = .ok changed ∧ Cleans changed after
      | .notWritten => request.apply deployment opened = .ok after

/-- What one poll of a future returns. -/
inductive Poll (Output : Type) where
  | ready (output : Output)
  | pending

/-- The debit a payment is dispatched under. -/
structure Debit where
  held : Option Reservation
  callSpend : Option (String × String)
  callPayment : Option CallPayment
  deriving Repr, DecidableEq

/-- What payments and other callers ask of the service. -/
inductive ServiceOp where
  /-- A poll of the future inside the authority check, with the clock it read. -/
  | guardedPoll (reservation : Reservation) (call : Option (String × String))
      (purpose : Option CallPayment)
  /-- A poll of an unmetered future. -/
  | poll
  | request (request : Request)

@[reducible] def ServiceOp.Answer (Output : Type) : ServiceOp → Type
  | .guardedPoll _ _ _ => Int × Except BudgetRefusal (Poll Output)
  | .poll => Poll Output
  | .request _ => Outcome

/-- The error after a future was polled and its grant was then invalidated. -/
def invalidatedReason : String :=
  "grant invalidated while the provider was pending; payment may have dispatched"

variable {Output : Type}

/-- Programs over these calls. -/
abbrev ServiceM (Output : Type) :=
  Program ServiceOp (ServiceOp.Answer Output) (Option (Except ApiError Output))

/-- Await a future that is not metered. -/
def awaitUnmetered : Nat → ServiceM Output
  | 0 => .done none
  | polls + 1 =>
    .call .poll fun
      | .ready output => .done (some (.ok output))
      | .pending => awaitUnmetered polls

/-- Poll a future under the authority of its reservation until it is ready. -/
def guardPolls (reservation : Reservation) (call : Option (String × String))
    (purpose : Option CallPayment) : Bool → Nat → ServiceM Output
  | _, 0 => .done none
  | polled, polls + 1 =>
    .call (.guardedPoll reservation call purpose) fun
      | (_, .ok (.ready output)) => .done (some (.ok output))
      | (_, .ok .pending) => guardPolls reservation call purpose true polls
      | (_, .error refusal) =>
        if polled then .done (some (.error (.paymentUnresolved invalidatedReason)))
        else .done (some (.error (.budgetExceeded refusal)))

/--
Dispatch a payment under its debit.  A future that is still pending after the
given number of polls is dropped without a result.
-/
def Debit.dispatch (debit : Debit) (polls : Nat) : ServiceM Output :=
  match debit.held with
  | none => awaitUnmetered polls
  | some reservation => guardPolls reservation debit.callSpend debit.callPayment false polls

inductive ServiceJob where
  | dispatch (debit : Debit) (polls : Nat)
  | request (request : Request)

/-- The atomic meaning of the calls. -/
def ServiceOp.Effect (deployment : Deployment) (before : Service) :
    (op : ServiceOp) → op.Answer Output → Service → Prop
  | .guardedPoll reservation call purpose, (now, answer), after =>
    Cleans before after ∧
      match after.authority deployment reservation call purpose now with
      | .error refusal => answer = .error refusal
      | .ok () => ∃ poll, answer = .ok poll
  | .poll, _, after => after = before
  | .request made, outcome, after => made.Effect deployment before outcome after

/-- Any number of payments and other calls on one service. -/
def serviceMachine (deployment : Deployment) (Output : Type) :
    Machine ServiceJob Unit Service ServiceOp (ServiceOp.Answer Output)
      (Option (Except ApiError Output)) where
  code
    | .dispatch debit polls => debit.dispatch polls
    | .request request => .call (.request request) fun _ => .done none
  host _ := ()
  effect _ before op answer after := op.Effect deployment before answer after
  cancel _ before after := after = before
  -- A crash ends the service whose runs these are.
  crash _ _ _ := False
  ambient before after := Cleans before after

/-- The service as it is opened: what its file has pending was issued. -/
def Service.opened (identityFingerprint : String) (clients : List PairedClient)
    (grants : List SpendGrant) (lastEpoch : OrderedMap String UInt64) : Service where
  identityFingerprint
  clients
  grants
  lastEpoch
  issued := grants.flatMap fun grant =>
    match grant.budget with
    | none => []
    | some budget => budget.pending.entries.map Prod.fst

/-!
## What one call can do to the pending reservations
-/

/-- Every meter afterwards is new or goes back to one of the same client. -/
structure Descends (opened : Option String) (before after : Service) : Prop where
  issued : ∀ id ∈ before.issued, id ∈ after.issued
  meters : ∀ grant ∈ after.grants, ∀ budget, grant.budget = some budget →
    (∀ id, some id ≠ opened → budget.pending.get? id = none) ∨
      ∃ former ∈ before.grants,
        former.clientId = grant.clientId ∧
          ∃ earlier, former.budget = some earlier ∧ GrantBudget.OpensOnly opened earlier budget

/-- No grant of the client has the reservation pending, and none ever will. -/
structure Lapsed (reservation : Reservation) (service : Service) : Prop where
  issued : reservation.id ∈ service.issued
  absent : ∀ grant ∈ service.grants,
    grant.clientId = reservation.clientId →
      ∀ budget, grant.budget = some budget → budget.pending.get? reservation.id = none

variable {opened : Option String} {before after service : Service} {grant : SpendGrant}

theorem Lapsed.descends (lapsed : Lapsed reservation before)
    (descends : Descends opened before after) (fresh : ∀ id ∈ opened, id ∉ before.issued) :
    Lapsed reservation after where
  issued := descends.issued _ lapsed.issued
  absent grant member sameClient budget isBudget := by
    have notOpened : some reservation.id ≠ opened := by
      intro isOpened
      exact fresh reservation.id isOpened.symm lapsed.issued
    rcases descends.meters grant member budget isBudget with
      isNew | ⟨old, isFormer, formerClient, prior, isEarlier, opensOnly⟩
    · exact isNew reservation.id notOpened
    · exact opensOnly reservation.id notOpened
        (lapsed.absent old isFormer (formerClient.trans sameClient) prior isEarlier)

theorem descends_of_subset (sameIssued : after.issued = before.issued)
    (old : ∀ grant ∈ after.grants, grant ∈ before.grants) : Descends opened before after where
  issued id member := by
    rw [sameIssued]
    exact member
  meters grant member budget isBudget := .inr
    ⟨grant, old grant member, rfl, budget, isBudget, .refl budget⟩

theorem Descends.trans (prior : Descends opened before service)
    (later : Descends opened service after) : Descends opened before after where
  issued id member := later.issued id (prior.issued id member)
  meters grant member budget isBudget := by
    rcases later.meters grant member budget isBudget with
      isNew | ⟨middle, isMiddle, middleClient, between, isBetween, toBudget⟩
    · exact .inl isNew
    rcases prior.meters middle isMiddle between isBetween with
      isNew | ⟨old, isFormer, formerClient, first, isFirst, toBetween⟩
    · exact .inl fun id other => toBudget id other (isNew id other)
    · exact .inr ⟨old, isFormer, formerClient.trans middleClient, first, isFirst,
        toBetween.trans toBudget⟩

theorem Cleans.descends (cleans : Cleans before after) : Descends opened before after := by
  obtain ⟨times, rfl⟩ := cleans
  induction times generalizing before with
  | nil => exact descends_of_subset rfl fun _ mem => mem
  | cons now _ ih =>
    have retained : ∀ grant ∈ (before.retainLiveGrants now).grants, grant ∈ before.grants :=
      fun grant mem => (mem_filter.mp mem).1
    have first : Descends opened before (before.retainLiveGrants now) :=
      descends_of_subset rfl retained
    exact first.trans ih

theorem mem_retireWhere (mem : grant ∈ (service.retireWhere retired).grants)
    (isBudget : grant.budget = some budget) : grant ∈ service.grants ∧ retired grant = false := by
  obtain ⟨old, isFormer, rfl⟩ := mem_map.mp mem
  by_cases isRetired : retired old
  · rw [if_pos isRetired] at isBudget
    cases isBudget
  · rw [if_neg isRetired]
    exact ⟨isFormer, Bool.eq_false_iff.mpr isRetired⟩

theorem descends_retireWhere (sameGrants : service.grants = before.grants)
    (sameIssued : service.issued = before.issued) :
    Descends opened before (service.retireWhere retired) where
  issued id member := by
    rw [← sameIssued] at member
    exact member
  meters grant member budget isBudget := by
    have isFormer := (mem_retireWhere member isBudget).1
    rw [sameGrants] at isFormer
    exact .inr ⟨grant, isFormer, rfl, budget, isBudget, .refl budget⟩

theorem descends_writeGrant
    (fresh : ∀ budget, grant.budget = some budget → budget.pending = .empty) :
    Descends opened service (service.writeGrant grant) where
  issued _ member := member
  meters written member budget isBudget := by
    rcases mem_append.mp member with isOld | isNew
    · have isFormer := (mem_retireWhere isOld isBudget).1
      exact .inr ⟨written, isFormer, rfl, budget, isBudget, .refl budget⟩
    obtain rfl := mem_singleton.mp isNew
    refine .inl fun id _ => ?_
    rw [fresh budget isBudget]
    exact OrderedMap.get?_empty id

theorem descends_of_grants_eq (sameGrants : after.grants = before.grants)
    (sameIssued : after.issued = before.issued) : Descends opened before after :=
  descends_of_subset sameIssued fun grant mem => by
    rw [← sameGrants]
    exact mem

theorem map_snd_ok {α : Type} {result : Except PairingError (α × Service)}
    (mapped : result.map Prod.snd = .ok after) : ∃ value, result = .ok (value, after) := by
  cases result with
  | error => cases mapped
  | ok pair =>
    obtain ⟨value, _⟩ := pair
    cases mapped
    exact ⟨value, rfl⟩

section

variable (isEnrolled : service.enrol record prior = .ok (enrolled, after))
include isEnrolled

theorem enrol_ok : after.grants = service.grants ∧ after.issued = service.issued := by
  unfold Service.enrol at isEnrolled
  dsimp only at isEnrolled
  split at isEnrolled
  · cases isEnrolled
  · cases isEnrolled
    exact ⟨rfl, rfl⟩

theorem descends_enrol (sameGrants : service.grants = before.grants)
    (sameIssued : service.issued = before.issued) : Descends opened before after :=
  descends_of_grants_eq ((enrol_ok isEnrolled).1.trans sameGrants)
    ((enrol_ok isEnrolled).2.trans sameIssued)

end

theorem bumpEpoch_ok (bumped : service.bumpEpoch clientId = .ok (epoch, after)) :
    ∃ changed : Service, after = changed.revokeGrants (some clientId) ∧
      changed.grants = service.grants ∧ changed.issued = service.issued := by
  unfold Service.bumpEpoch at bumped
  split at bumped
  · cases bumped
  · cases bumped
    exact ⟨_, rfl, rfl, rfl⟩

theorem revoke_ok (revoked : service.revoke clientId = .ok after) :
    ∃ changed : Service, after = changed.revokeGrants (some clientId) ∧
      changed.grants = service.grants ∧ changed.issued = service.issued := by
  unfold Service.revoke at revoked
  split at revoked
  · cases revoked
  · cases revoked
    exact ⟨_, rfl, rfl, rfl⟩

theorem rotateClientKey_ok
    (isRotated : service.rotateClientKey deployment clientId newPubkey signature =
      .ok (rotated, after)) : ∃ changed : Service, after = changed.revokeGrants (some clientId) ∧
      changed.grants = service.grants ∧ changed.issued = service.issued := by
  unfold Service.rotateClientKey at isRotated
  split at isRotated
  · cases isRotated
  split at isRotated
  · cases isRotated
  split at isRotated
  · cases isRotated
  split at isRotated
  · cases isRotated
  dsimp only at isRotated
  split at isRotated
  · cases isRotated
  · cases isRotated
    exact ⟨_, rfl, rfl, rfl⟩

theorem descends_createBootstrapTicketPairing
    (created : before.createBootstrapTicketPairing deployment name clientPubkey
      transport now = .ok (record, after)) : Descends opened before after := by
  unfold Service.createBootstrapTicketPairing at created
  dsimp only at created
  split at created
  · cases created
  split at created
  · cases created
  · exact descends_enrol created rfl rfl

theorem descends_createRemotePairing
    (created : before.createRemotePairing deployment name clientPubkey transport now =
      .ok (record, after)) : Descends opened before after := by
  unfold Service.createRemotePairing at created
  dsimp only at created
  split at created
  · cases created
  split at created
  · cases created
  split at created
  · cases created
  split at created
  · split at created
    · cases created
    split at created
    · split at created
      · cases created
        exact descends_of_grants_eq rfl rfl
      · cases created
    · cases created
      exact descends_of_grants_eq rfl rfl
  · exact descends_enrol created rfl rfl

theorem descends_startProvisional
    (started : before.startProvisional deployment name publicKey transport now =
      .ok (record, after)) : Descends opened before after := by
  unfold Service.startProvisional at started
  dsimp only at started
  split at started
  · cases started
  split at started
  · cases started
  split at started
  · cases started
  · exact descends_enrol started rfl rfl

theorem descends_grantElevation (granted : before.grantElevation op terms now = .ok after) :
    Descends opened before after := by
  unfold Service.grantElevation at granted
  split at granted
  · cases granted
  split at granted
  · cases granted
  cases granted
  refine descends_writeGrant fun _ isBudget => ?_
  cases isBudget
  rfl

variable {intent : RelationIntent}

theorem RelationIntent.renew_budget (isBudget : (intent.renew now grant).budget = some budget) :
    ∃ old, grant.budget = some old ∧ budget.pending = old.pending := by
  unfold RelationIntent.renew at isBudget
  split at isBudget
  · next noBudget =>
      rw [noBudget] at isBudget
      cases isBudget
  next old isFormer =>
    cases isBudget
    exact ⟨old, isFormer, rfl⟩

theorem RelationIntent.renew_clientId (intent : RelationIntent) (now grant) :
    (intent.renew now grant).clientId = grant.clientId := by
  unfold RelationIntent.renew
  split <;> rfl

theorem descends_openRelation (opened_ : before.openRelation intent opId now = .ok after) :
    Descends opened before after := by
  unfold Service.openRelation at opened_
  split at opened_
  · cases opened_
  split at opened_
  · next _ _ =>
      cases opened_
      refine ⟨fun _ mem => mem, fun grant mem budget isBudget => ?_⟩
      obtain ⟨_, found⟩ := mem_iff_getElem?.mp mem
      rw [List.getElem?_modify] at found
      split at found
      · obtain ⟨old, isFormer, rfl⟩ := Option.map_eq_some_iff.mp found
        obtain ⟨prior, isEarlier, samePending⟩ := RelationIntent.renew_budget isBudget
        exact .inr ⟨old, mem_of_getElem? isFormer,
          (intent.renew_clientId now old).symm, prior, isEarlier,
          .of_pending_eq samePending⟩
      · rw [id_map'] at found
        exact .inr ⟨grant, mem_of_getElem? found, rfl, budget, isBudget, .refl budget⟩
  · cases opened_
    refine descends_writeGrant fun budget isBudget => ?_
    obtain ⟨prior, isEarlier, samePending⟩ := RelationIntent.renew_budget isBudget
    cases isEarlier
    exact samePending

variable (service : Service)

theorem descends_retirePairing (clientId) :
    Descends opened service (service.retirePairing clientId) := by
  unfold Service.retirePairing
  split <;> exact descends_retireWhere rfl rfl

theorem descends_meter (chosen) (step : MeterStep) :
    Descends step.reserves service (service.meter chosen step) where
  issued _ member := mem_append_left _ member
  meters grant member budget isBudget := by
    obtain ⟨_, within, rfl⟩ := mem_mapIdx.mp member
    have isFormer := List.getElem_mem within
    refine .inr ⟨_, isFormer, ?_⟩
    split at isBudget
    · next isChosen =>
        obtain ⟨prior, isEarlier, rfl⟩ := Option.map_eq_some_iff.mp isBudget
        rw [if_pos isChosen]
        exact ⟨rfl, prior, isEarlier, step.opensOnly_apply prior⟩
    next notChosen =>
      rw [if_neg notChosen]
      exact ⟨rfl, budget, isBudget, .refl budget⟩

/-- Every call descends from the service before it. -/
theorem descends_apply {request : Request} (applied : request.apply deployment before = .ok after) :
    Descends request.reserves before after := by
  cases request with
  | revokeGrants | rebindToIdentity | endRelationGrants =>
    cases applied
    exact descends_retireWhere rfl rfl
  | revoke =>
    obtain ⟨_, rfl, sameGrants, sameIssued⟩ := revoke_ok applied
    exact descends_retireWhere sameGrants sameIssued
  | bumpEpoch =>
    obtain ⟨_, bumped⟩ := map_snd_ok applied
    obtain ⟨_, rfl, sameGrants, sameIssued⟩ := bumpEpoch_ok bumped
    exact descends_retireWhere sameGrants sameIssued
  | rotateClientKey =>
    obtain ⟨_, isRotated⟩ := map_snd_ok applied
    obtain ⟨_, rfl, sameGrants, sameIssued⟩ := rotateClientKey_ok isRotated
    exact descends_retireWhere sameGrants sameIssued
  | confirmPairing =>
    obtain ⟨_, confirmed⟩ := map_snd_ok applied
    unfold Service.confirmPairing at confirmed
    split at confirmed
    · cases confirmed
    · exact descends_enrol confirmed rfl rfl
  | createBootstrapTicketPairing =>
    obtain ⟨_, created⟩ := map_snd_ok applied
    exact descends_createBootstrapTicketPairing created
  | createRemotePairing =>
    obtain ⟨_, created⟩ := map_snd_ok applied
    exact descends_createRemotePairing created
  | startProvisional =>
    obtain ⟨_, started⟩ := map_snd_ok applied
    exact descends_startProvisional started
  | removeProvisional =>
    cases applied
    exact descends_of_grants_eq rfl rfl
  | grantElevation => exact descends_grantElevation applied
  | approveBudget =>
    cases applied
    refine descends_writeGrant fun _ isBudget => ?_
    cases isBudget
    rfl
  | openRelation => exact descends_openRelation applied
  | removePairings clientIds =>
    cases applied
    have retired : Descends none before (clientIds.foldl Service.retirePairing before) := by
      induction clientIds generalizing before with
      | nil => exact descends_of_grants_eq rfl rfl
      | cons clientId _ ih => exact (descends_retirePairing before clientId).trans ih
    exact retired.trans (descends_of_grants_eq rfl rfl)
  | meter chosen step =>
    cases applied
    exact descends_meter before chosen step

end BitSov.Pairing
