import BitSov.Pairing.Dispatch

namespace BitSov.Pairing

open Spend Outbox Ordered Process Machine

/-!
# Revoked reservations are never polled again

The authority check finds a reservation only where it is pending, and a
revocation takes the meters of the client away.  Later pairings and grants
start with new meters, and a new reservation has a new identifier, so nothing
brings an old reservation back.
-/

/-- What a guarded poll requires. -/
def Authorized (deployment : Deployment) (service : Service) (reservation : Reservation)
    (now : Int) : Prop :=
  ∃ grant ∈ service.grants,
    deployment.permitsSpendGrant grant = true ∧
      grant.opId = reservation.opId ∧
      grant.clientId = reservation.clientId ∧
      grant.identityFingerprint = service.identityFingerprint ∧
      Scope.spend ∈ grant.scopes ∧
      grant.isLive now = true ∧
      (∃ budget, grant.budget = some budget ∧
        (budget.pending.get? reservation.id).isSome = true ∧
        budget.breakerState.paused = false) ∧
      ∃ client ∈ service.clients,
        client.clientId = grant.clientId ∧ client.epoch = grant.epoch ∧
          client.identityFingerprint = service.identityFingerprint

variable {Output : Type} {deployment : Deployment} {before after service : Service}
  {reservation : Reservation} {call : Option (String × String)} {purpose : Option CallPayment}
  {now : Int}

/-- The check passes only for a reservation that may be spent. -/
theorem authority_ok (passed : service.authority deployment reservation call purpose now = .ok ()) :
    Authorized deployment service reservation now := by
  unfold Service.authority at passed
  dsimp only at passed
  split at passed
  · cases passed
  next isValid =>
  split at passed
  · cases passed
  next notPaused =>
  rw [Bool.not_eq_true', Bool.not_eq_false, List.any_eq_true] at isValid
  obtain ⟨grant, mem, checks⟩ := isValid
  simp only [Bool.and_eq_true, decide_eq_true_eq, List.contains_iff_mem, List.any_eq_true] at checks
  obtain ⟨⟨⟨⟨⟨⟨⟨permits, sameOp⟩, metered⟩, sameClient⟩, sameIdentity⟩,
    spends⟩, live⟩, client, isClient, ⟨clientId, epoch⟩, clientIdentity⟩ :=
    checks
  obtain ⟨budget, isBudget, held, -⟩ : ∃ budget, grant.budget = some budget ∧
    (budget.pending.get? reservation.id).isSome ∧ True := by
    cases isBudget : grant.budget with
    | none =>
      rw [isBudget] at metered
      cases metered
    | some budget =>
      rw [isBudget, Option.any_some, Bool.and_eq_true, Bool.and_eq_true] at metered
      refine ⟨budget, rfl, ?_, trivial⟩
      cases isHeld : budget.pending.get? reservation.id with
      | none =>
        rw [isHeld] at metered
        cases metered.1.1
      | some => rfl
  have unpaused : budget.breakerState.paused = false := by
    rw [Bool.not_eq_true, List.any_eq_false] at notPaused
    have notThis := notPaused grant mem
    simpa [sameOp, sameClient, isBudget] using notThis
  exact ⟨grant, mem, permits, sameOp, sameClient, sameIdentity, spends, live,
    ⟨budget, isBudget, held, unpaused⟩, client, isClient, clientId, epoch,
    clientIdentity⟩

theorem lapsed_revokeGrants (isCovered : (covered.all fun id => reservation.clientId = id))
    (issued : reservation.id ∈ service.issued) :
    Lapsed reservation (service.revokeGrants covered) where
  issued
  absent grant member sameClient budget isBudget := by
    have notRetired := (mem_retireWhere member isBudget).2
    rw [sameClient, isCovered] at notRetired
    cases notRetired

variable {request : Request}

theorem lapsed_of_covers (applied : request.apply deployment before = .ok after)
    (covers : request.covers reservation.clientId)
    (issued : reservation.id ∈ before.issued) : Lapsed reservation after := by
  have self {clientId : String} (same : decide (reservation.clientId = clientId)) :
    ((some clientId).all fun id => reservation.clientId = id) :=
    same
  cases request with
  | revokeGrants =>
    cases applied
    exact lapsed_revokeGrants covers issued
  | revoke clientId =>
    obtain ⟨_, rfl, -, sameIssued⟩ := revoke_ok applied
    exact lapsed_revokeGrants (self covers) (by rwa [sameIssued])
  | bumpEpoch clientId =>
    obtain ⟨_, bumped⟩ := map_snd_ok applied
    obtain ⟨_, rfl, -, sameIssued⟩ := bumpEpoch_ok bumped
    exact lapsed_revokeGrants (self covers) (by rwa [sameIssued])
  | rotateClientKey clientId =>
    obtain ⟨_, isRotated⟩ := map_snd_ok applied
    obtain ⟨_, rfl, -, sameIssued⟩ := rotateClientKey_ok isRotated
    exact lapsed_revokeGrants (self covers) (by rwa [sameIssued])
  | rebindToIdentity =>
    cases applied
    exact lapsed_revokeGrants rfl issued
  | _ => cases covers

theorem Lapsed.cleans (lapsed : Lapsed reservation before) (cleaned : Cleans before after) :
    Lapsed reservation after :=
  lapsed.descends (@Cleans.descends none before after cleaned) fun _ isNone =>
    by cases isNone

variable {outcome : Outcome}

theorem Lapsed.effect (lapsed : Lapsed reservation before)
    (effect : request.Effect deployment before outcome after) : Lapsed reservation after := by
  obtain ⟨_, cleaned, fresh, changed⟩ := effect
  have opened' := lapsed.cleans cleaned
  cases outcome with
  | refused =>
    rw [changed]
    exact opened'
  | done =>
    obtain ⟨_, isApplied, written⟩ := changed
    exact (opened'.descends (descends_apply isApplied) fresh).cleans written
  | notWritten => exact opened'.descends (descends_apply changed) fresh

theorem lapsed_of_effect (effect : request.Effect deployment before outcome after)
    (changes : outcome ≠ .refused) (covers : request.covers reservation.clientId)
    (issued : reservation.id ∈ before.issued) : Lapsed reservation after := by
  obtain ⟨opened, cleaned, -, changed⟩ := effect
  have openedIssued := (@Cleans.descends none _ _ cleaned).issued _ issued
  cases outcome with
  | refused => exact absurd rfl changes
  | done =>
    obtain ⟨_, isApplied, written⟩ := changed
    exact (lapsed_of_covers isApplied covers openedIssued).cleans written
  | notWritten => exact lapsed_of_covers changed covers openedIssued

theorem lapsed_kept : (serviceMachine deployment Output).KeepsShared (Lapsed reservation) where
  effect _ before op _ after lapsed effect := by
    cases op with
    | guardedPoll => exact lapsed.cleans effect.1
    | poll =>
      rw [show after = before from effect]
      exact lapsed
    | request => exact lapsed.effect effect
  cancel _ _ _ lapsed same := by
    rw [show _ = _ from same]
    exact lapsed
  crash _ _ _ _ crashed := crashed.elim
  ambient _ _ lapsed cleaned := lapsed.cleans cleaned

theorem authorized_of_polled {now : Int} {poll : Poll Output}
    (effect : ServiceOp.Effect deployment before (.guardedPoll reservation call purpose)
      (now, .ok poll) after) :
    Authorized deployment after reservation now := by
  obtain ⟨-, checked⟩ := effect
  split at checked
  · cases checked
  · next passed => exact authority_ok passed

/-- Whether an operation ran a metered future. -/
def RanFuture (event : Event ServiceOp (ServiceOp.Answer Output)) : Prop :=
  match event with
  | ⟨.guardedPoll _ _ _, (_, .ok _)⟩ => True
  | _ => False

variable {polls : Nat} {history : List (Event ServiceOp (ServiceOp.Answer Output))}
  {refusal : BudgetRefusal}

theorem guardPolls_polled :
    ¬ Program.Reaches (guardPolls reservation call purpose true polls) history
      (.done (some (.error (.budgetExceeded refusal)))) := by
  induction polls generalizing history with
  | zero =>
    intro reached
    simp [guardPolls] at reached
  | succ polls ih =>
    intro reached
    rw [guardPolls, Program.reaches_call_done_iff] at reached
    obtain ⟨answer, _, rfl, reached⟩ := reached
    match answer with
    | (_, .ok (.ready output)) => simp at reached
    | (_, .ok .pending) => exact ih reached
    | (_, .error refusal) => simp at reached

theorem guardPolls_budgetExceeded
    (reached : Program.Reaches (guardPolls reservation call purpose false polls) history
      (.done (some (.error (.budgetExceeded refusal))))) :
    ∀ event ∈ history, ¬ RanFuture event := by
  cases polls with
  | zero => simp [guardPolls] at reached
  | succ polls =>
    rw [guardPolls, Program.reaches_call_done_iff] at reached
    obtain ⟨answer, _, rfl, reached⟩ := reached
    match answer with
    | (_, .ok (.ready output)) => simp at reached
    | (_, .ok .pending) => exact absurd reached guardPolls_polled
    | (_, .error refusal) =>
      simp only [Bool.false_eq_true, if_false, Program.reaches_done_iff] at reached
      rw [reached.1]
      intro _ mem ran
      obtain rfl := List.mem_singleton.mp mem
      exact ran

/--
A metered future is polled only while its reservation is pending in a grant of
the current identity that is unpaused and live at the clock of the poll, and
whose client is paired at the grant's epoch.  Once a revocation that covers
the client has changed the service, no future of an earlier reservation of
that client is polled again.  A payment is reported as over budget only if its
future was never polled.
-/
theorem dispatch_polls_authorized {identityFingerprint : String} {clients : List PairedClient}
    {grants : List SpendGrant} {lastEpoch : OrderedMap String UInt64}
    {config : Config ServiceJob Service ServiceOp (ServiceOp.Answer Output)
      (Option (Except ApiError Output))} (steps : (serviceMachine deployment Output).Steps
      (idle (.opened identityFingerprint clients grants lastEpoch)) config) :
    (∀ next index reservation call purpose now poll,
      (serviceMachine deployment Output).Step config next → next.log =
        config.log ++ [⟨index, ⟨.guardedPoll reservation call purpose, (now, .ok poll)⟩⟩] →
        Authorized deployment next.shared reservation now) ∧
      (∀ revoked later next caller request outcome index reservation call purpose now poll,
        (serviceMachine deployment Output).Step config revoked →
        revoked.log = config.log ++ [⟨caller, ⟨.request request, outcome⟩⟩] → outcome ≠ .refused →
        request.covers reservation.clientId → reservation.id ∈ config.shared.issued →
        (serviceMachine deployment Output).Steps revoked later →
        (serviceMachine deployment Output).Step later next → next.log ≠
            later.log ++ [⟨index, ⟨.guardedPoll reservation call purpose, (now, .ok poll)⟩⟩]) ∧
        ∀ task ∈ config.tasks, ∀ debit polls reservation refusal, task.job = .dispatch debit polls →
          debit.held = some reservation →
          task.rest = .done (some (.error (.budgetExceeded refusal))) →
            ∀ event ∈ task.past, ¬ RanFuture event := by
  refine ⟨?_, ?_, ?_⟩
  · intro next index reservation _ purpose now poll step logged
    exact authorized_of_polled (step.effect_of_logged logged)
  · intro revoked _ next _ _ _ index reservation _
      purpose now poll revokes loggedRequest changes covers issued more step logged
    have lapsed := lapsed_of_effect (revokes.effect_of_logged loggedRequest) changes covers issued
    have effect := step.effect_of_logged logged
    have stillLapsed := (lapsed_kept.of_steps lapsed more).cleans effect.1
    obtain ⟨grant, mem, -, -, sameClient, -, -, -, ⟨budget, isBudget, held, -⟩, -⟩ :=
      authorized_of_polled effect
    rw [stillLapsed.absent grant mem sameClient budget isBudget] at held
    cases held
  · intro task member _ _ reservation _ isDispatch isHeld isDone
    obtain ⟨index, found⟩ := List.mem_iff_getElem?.mp member
    have reached := (coherent_of_steps steps).reaches index task found
    rw [isDispatch, isDone] at reached
    simp only [serviceMachine, Debit.dispatch, isHeld] at reached
    exact guardPolls_budgetExceeded reached

/-- A node its owner runs, with trivial cryptography. -/
def ownerDeployment : Deployment where
  ownerControlEnabled := true
  localOwnerDevice := false
  deviceAuthorityOff := none
  ownerApprovalKey := none
  receiptVerifies _ _ := false
  parsePubkey _ := true
  verifyStrict _ _ _ := true
  clientIdFromPubkey pubkey := pubkey
  toAsciiLowercase text := text

def aliceClient : PairedClient where
  clientId := "alice"
  name := "Alice"
  clientPubkey := "alice"
  remoteTransportPubkey := none
  scopes := defaultPairingScopes
  epoch := 1
  identityFingerprint := "node"
  createdAt := 0
  lastSeen := none

/-- One payment of the client in progress. -/
def aliceReservation : Reservation where
  id := "reservation"
  clientId := "alice"
  opId := "grant"
  charges := [{ recipient := "bob", amountMsat := 5 }]

/-- A service with the client's grant, which the payment was reserved in. -/
def aliceService : Service :=
  .opened "node" [aliceClient]
    [{ opId := "grant"
       clientId := "alice"
       grantedAt := 0
       expiresAt := 100
       budget := some
         { budgetMsat := 10
           perCallMaxMsat := 10
           usedMsat := 5
           pending := .singleton "reservation" (.singleton "bob" 5) }
       scopes := [.spend]
       identityFingerprint := "node"
       epoch := 1
       grantedBy := "cli"
       ownerApproval := none }]
    (.singleton "alice" 1)

/-- The payment is awaited at most twice. -/
def aliceDispatch : ServiceJob :=
  .dispatch { held := some aliceReservation, callSpend := none, callPayment := none } 2

/-- The machine of the example, for payments without a result. -/
abbrev aliceMachine :=
  serviceMachine ownerDeployment Unit

/-- The payment has started and was not polled yet. -/
def aliceStarted :=
  ({ shared := aliceService
     tasks := [aliceMachine.start aliceDispatch]
     log := [] } :
    Config ServiceJob Service ServiceOp (ServiceOp.Answer Unit) (Option (Except ApiError Unit)))

/-- The payment and then the revocation of its client have started. -/
def aliceRevoking :=
  ({ aliceStarted with
     tasks := aliceStarted.tasks ++ [aliceMachine.start (.request (.revoke "alice"))] } :
    Config ServiceJob Service ServiceOp (ServiceOp.Answer Unit) (Option (Except ApiError Unit)))

/-- The payment is polled with authority, and never after the revocation. -/
theorem dispatch_polls_authorized_alice :
    Authorized ownerDeployment aliceService aliceReservation 50 ∧
      ∃ revoked, aliceMachine.Step aliceRevoking revoked ∧ ∀ later next index now poll,
        aliceMachine.Steps revoked later → aliceMachine.Step later next → next.log ≠
          later.log ++ [⟨index, ⟨.guardedPoll aliceReservation none none, (now, .ok poll)⟩⟩] := by
  have started : aliceMachine.Steps (idle aliceService) aliceStarted :=
    .single (.start aliceDispatch)
  have revoking : aliceMachine.Steps (idle aliceService) aliceRevoking := started.tail (.start _)
  constructor
  · have effect : aliceMachine.effect 0 aliceService
      (.guardedPoll aliceReservation none none) (50, .ok .pending)
      aliceService := by
      exact ⟨⟨[], rfl⟩, .pending, rfl⟩
    exact (dispatch_polls_authorized started).1 _ 0 aliceReservation none none
      50 .pending (.perform rfl rfl rfl effect) rfl
  obtain ⟨after, revoked⟩ : ∃ after, aliceService.revoke "alice" = .ok after := ⟨_, rfl⟩
  have effect : aliceMachine.effect 1 aliceService (.request (.revoke "alice"))
    Outcome.done after :=
    ⟨aliceService, ⟨[], rfl⟩, nofun, after, revoked, [], rfl⟩
  have step : aliceMachine.Step aliceRevoking _ :=
    .perform (show aliceRevoking.tasks[1]? = _ from rfl) rfl rfl effect
  refine ⟨_, step, fun later next index now poll more onward => ?_⟩
  exact (dispatch_polls_authorized revoking).2.1 _ later next 1
    (.revoke "alice") .done index aliceReservation none none now poll step rfl
    (by decide) rfl (by decide) more onward

end BitSov.Pairing
