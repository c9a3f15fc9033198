import BitSov.Sponsor.Approval

namespace BitSov.Sponsor

open Edit (Makes)

open Core Outbox Process Fallible View Ledger Payments

/-!
# The operations keep their custody

Each edit of an operation is a path of its licence, and each operation is safe
under the discipline `custody`: what it knows about its kit holds until its
next critical section, whatever others do.
-/

variable {reports : PaymentDetails → Prop} {task : Nat}

variable {world : World} {ledger : Ledger}
  {candidate : Candidate} {body : ApproveRequest} {kit : Option Kit} {claim : Claim}

theorem World.Sound.eq_of_found (sound : world.Sound) {found kit : Kit}
    (isFound : (world.ledger.observe wallNow).kit introId = .ok found)
    (mem : kit ∈ world.ledger.kits) (sent : kit.isDispatched)
    (sameId : kit.introId = introId) : found = kit := by
  obtain ⟨foundMember, foundId⟩ := mem_of_kit_eq_ok isFound
  exact (sound.ledger.observe wallNow).eq_of_introId foundMember
    (mem_observe_of_dispatched mem sent wallNow)
    (foundId.trans sameId.symm)

theorem World.Sound.mine_of_pending (sound : world.Sound)
    (isFound : (world.ledger.observe wallNow).kit introId = .ok found)
    (pending : found.isPending) : (world.licence reports task).mine introId := by
  obtain ⟨mem, sameId⟩ := mem_of_kit_eq_ok isFound
  intro _ active same
  have sent := sound.dispatched_of_active active (mem_of_mem_observe_of_pending mem pending)
    (sameId.trans same.symm)
  rw [Kit.isDispatched_of_isPending pending] at sent
  cases sent

theorem path_pushKit (unused : world.Unused task introId)
    (applied : (Edit.pushKit introId expiresAt).Makes node world wallNow kit ledger) :
    LedgerPath (world.licence reports task) (world.ledger.observe wallNow) ledger := by
  simp only [Makes, Edit.apply, bind_eq_ok_iff, require_eq_ok_iff, decide_eq_true_eq,
    pure, Except.pure, Except.ok.injEq, Prod.mk.injEq] at applied
  obtain ⟨_, checked, _, inTime, _, rfl⟩ := applied
  refine .single (.push introId expiresAt checked inTime ?_ unused.1)
  intro _ mem
  obtain ⟨old, formerMem, rfl⟩ := List.mem_map.mp mem
  exact Kit.observe_introId old _ ▸ unused.2 old formerMem

section

variable (sound : world.Sound)
include sound

theorem path_freeze
    (applied : (Edit.freeze request network candidate).Makes node world wallNow kit ledger) :
    LedgerPath (world.licence reports task) (world.ledger.observe wallNow) ledger := by
  simp only [Makes, Edit.apply, bind_eq_ok_iff, require_eq_ok_iff, decide_eq_true_eq,
    pure, Except.pure, Except.ok.injEq, Prod.mk.injEq] at applied
  obtain ⟨_, _, _, valid, kit, isFound, _, inTime, _, _, _, free, _, rfl⟩ := applied
  have pending : kit.state = .offered ∨ kit.state = .candidate := by
    unfold Kit.checkFreeze at free
    cases state : kit.state <;> simp [state] at free ⊢
  exact path_setKit isFound (sound.mine_of_pending isFound (Kit.isPending_of_state pending))
    (.freeze candidate pending inTime valid)

theorem path_cancel (applied : (Edit.cancel introId).Makes node world wallNow kit ledger) :
    LedgerPath (world.licence reports task) (world.ledger.observe wallNow) ledger := by
  simp only [Makes, Edit.apply, bind_eq_ok_iff, require_eq_ok_iff, decide_eq_true_eq,
    pure, Except.pure, Except.ok.injEq, Prod.mk.injEq] at applied
  obtain ⟨_, isFound, _, pending, _, rfl⟩ := applied
  exact path_setKit isFound (sound.mine_of_pending isFound (Kit.isPending_of_state pending))
    (.cancel pending)

theorem path_record {result : Except LightningError PaymentDetails} {fromDispatch : Bool}
    {known : Kit} (mem : known ∈ world.ledger.kits)
    (sent : known.isDispatched) (sameId : known.introId = introId)
    (mine : (world.licence reports task).mine introId)
    (reported : ∀ details, result = .ok details → reports details)
    (evidence : known.Releases fromDispatch result → (world.licence reports task).evidence known)
    (applied : (Edit.record introId result fromDispatch).Makes node world wallNow kit ledger) :
    LedgerPath (world.licence reports task) (world.ledger.observe wallNow) ledger := by
  simp only [Makes, Edit.apply, bind_eq_ok_iff, pure, Except.pure, Except.ok.injEq,
    Prod.mk.injEq] at applied
  obtain ⟨_, isFound, _, rfl⟩ := applied
  have same := sound.eq_of_found isFound mem sent sameId
  subst same
  exact path_setKit isFound mine (.record result fromDispatch sent reported evidence)

theorem holding_markFresh (holding : world.Holding task body claim)
    (proven : FreshProven world.backend claim.candidate.paymentHash body.introId)
    (applied : (Edit.markFresh body.introId).Makes node world wallNow kit ledger) :
    LedgerPath (world.licence reports task) (world.ledger.observe wallNow) ledger ∧
      ({ world with ledger } : World).Holding task body claim := by
  simp only [Makes, Edit.apply, bind_eq_ok_iff, pure, Except.pure, Except.ok.injEq,
    Prod.mk.injEq] at applied
  obtain ⟨_, isFound, _, rfl⟩ := applied
  obtain ⟨_, mem, sameId, paying, reserved, frozen, fee⟩ := holding.kit
  have same := sound.eq_of_found isFound mem (Kit.isDispatched_of_paying paying) sameId
  subst same
  refine ⟨?_, holding.active, holding.claimed, ?_⟩
  · exact path_setKit isFound (sound.mine_of_active holding.active)
      (.markFresh paying ⟨_, frozen, sameId ▸ proven⟩)
  · exact ⟨_, mem_setKit isFound _, sameId, paying, reserved, frozen, fee⟩

end

theorem triple_op {α : Type} (op : SponsorOp)
    (middle : op.Answer → World → Prop) {cont : op.Answer → SponsorM α}
    {post : Except SponsorError α → World → Prop}
    (stable : ((custody node reports restarts).view task job).Stable pre)
    (performed : ∀ world answer after, world.Sound → pre world →
      op.Effect node reports task world answer after →
        Move reports task world after ∧ middle answer after)
    (next : ∀ answer, ((custody node reports restarts).view task job).Triple
      (middle answer) (cont answer).run post) :
    ((custody node reports restarts).view task job).Triple pre (ask op >>= cont).run post := by
  refine triple_call stable ?_ next
  intro world answer after sound holds effect
  obtain ⟨move, reached⟩ := performed world answer after sound holds effect
  exact ⟨World.Sound.move sound move, move, reached⟩

theorem triple_return {α : Type} {value : Except SponsorError α} :
    ((custody node reports restarts).view task job).Triple pre
      (known value : SponsorM α).run fun _ _ => True := triple_known fun _ _ _ => trivial

theorem safely_createOffer :
    Safely node reports restarts task job (fun _ => True) (createOffer node) := by
  refine triple_op .policy (fun _ _ => True) stable_trivial ?_ fun policy => ?_
  · rintro world answer after _ _ ⟨_, rfl⟩
    exact ⟨.refl _, trivial⟩
  refine triple_withLedger (fun _ _ => True) stable_trivial ?_ (fun _ _ => trivial) fun _ => ?_
  · intro world _ _ _ kit _ applied
    simp only [Makes, Edit.apply, bind_eq_ok_iff, pure, Except.pure, Except.ok.injEq,
      Prod.mk.injEq] at applied
    obtain ⟨_, _, _, rfl⟩ := applied
    exact ⟨.refl, fun _ _ _ => trivial⟩
  refine triple_op .issueCard
    (fun answer world => ∀ card, answer = .ok card → world.Unused task card.introId)
    stable_trivial ?_ fun answer => ?_
  · intro world answer after sound _ issued
    cases answer with
    | error error =>
      obtain rfl : after = world := issued
      exact ⟨.refl _, nofun⟩
    | ok card =>
      obtain ⟨unissued, rfl⟩ := issued
      refine ⟨.issue card.introId unissued, ?_⟩
      rintro _ ⟨⟩
      refine ⟨by simp, ?_⟩
      intro kit mem same
      obtain ⟨_, old⟩ := sound.kitsIssued kit mem
      exact unissued _ old same
  refine triple_known_bind ?_
  rintro card rfl
  refine triple_known_bind fun _ _ => ?_
  refine (triple_withLedger (fun _ _ => True) (stable_unused card.introId) ?_
    (fun _ _ => trivial) fun _ => triple_return).of_pre
    fun world _ holds => holds card rfl
  intro world _ unused _ kit _ applied
  exact ⟨path_pushKit unused applied, fun _ _ _ => trivial⟩

theorem safely_addCandidate (text) :
    Safely node reports restarts task job (fun _ => True) (addCandidate node text) := by
  refine triple_withLedger (fun _ _ => True) stable_trivial ?_ (fun _ _ => trivial) fun _ => ?_
  · intro _ _ _ _ _ _ applied
    simp only [Makes, Edit.apply, Except.ok.injEq, Prod.mk.injEq] at applied
    obtain ⟨_, rfl⟩ := applied
    exact ⟨.refl, fun _ _ _ => trivial⟩
  refine triple_known_bind ?_
  rintro ⟨_, _, _⟩ _
  refine triple_withLedger (fun _ _ => True) stable_trivial ?_ (fun _ _ => trivial) fun _ => ?_
  · intro _ sound _ _ _ _ applied
    exact ⟨path_freeze sound applied, fun _ _ _ => trivial⟩
  exact triple_known_bind fun _ _ => triple_return

theorem safely_cancel (introId) :
    Safely node reports restarts task job (fun _ => True) (cancel introId) := by
  refine triple_withLedger (fun _ _ => True) stable_trivial ?_ (fun _ _ => trivial) fun _ => ?_
  · intro _ sound _ _ _ _ applied
    exact ⟨path_cancel sound applied, fun _ _ _ => trivial⟩
  exact triple_known_bind fun _ _ => triple_return

theorem safely_status : Safely node reports restarts task job (fun _ => True) status := by
  refine triple_op .policy (fun _ _ => True) stable_trivial ?_ fun policy => ?_
  · rintro _ _ _ _ _ ⟨_, rfl⟩
    exact ⟨.refl _, trivial⟩
  refine triple_op .observe (fun _ _ => True) stable_trivial ?_ fun _ => ?_
  · rintro _ _ _ sound _ ⟨_, _, loads, rfl, _⟩
    exact ⟨.ledger (observed_of_loadsObserved sound.ledger loads).1.path, trivial⟩
  refine triple_known_bind ?_
  rintro ⟨_, ledger⟩ _
  exact triple_return

theorem Candidate.isRecord_of_isRecordOf {kit : Kit} (frozen : kit.candidate = some candidate)
    (isRecord : kit.isRecordOf details) : candidate.IsRecord details := by
  simp only [Kit.isRecordOf, frozen, Option.any_some, Bool.and_eq_true,
    decide_eq_true_eq] at isRecord
  exact ⟨isRecord.1, isRecord.2.symm⟩

theorem World.Unpaid.not_pays (unpaid : world.Unpaid introId) (mem : event ∈ world.backend) :
    event.pays introId = false := by
  simpa using List.countP_eq_zero.mp unpaid event mem

structure World.Concluded (world : World) (reports : PaymentDetails → Prop) (task : Nat)
    (body : ApproveRequest) (claim : Claim) (paid : Except LightningError PaymentDetails) :
    Prop where
  holding : world.Holding task body claim
  reported : ∀ details, paid = .ok details → reports details
  answered : (world.Unpaid body.introId ∧
    ∃ error, paid = .error error ∧ notDispatched error = true) ∨
    .answered body.introId paid ∈ world.backend

theorem stable_concluded (body claim paid) :
    ((custody node reports restarts).view task job).Stable fun world =>
      world.Concluded reports task body claim paid := by
  refine stable_of_move fun _ _ _ ne sound move concluded => ?_
  refine ⟨concluded.holding.move sound ne move, concluded.reported, ?_⟩
  rcases concluded.answered with ⟨unpaid, refused⟩ | answered
  · exact .inl ⟨concluded.holding.unpaid_move sound ne move unpaid, refused⟩
  obtain ⟨_, extended⟩ := move.backend_append
  rw [extended]
  exact .inr (List.mem_append_left _ answered)

theorem World.Concluded.evidence {kit : Kit}
    (concluded : world.Concluded reports task body claim paid) (sameId : kit.introId = body.introId)
    (frozen : kit.candidate = some claim.candidate) (releases : kit.Releases true paid) :
    (world.licence reports task).evidence kit := by
  rintro ⟨_, mem, pays⟩
  rcases concluded.answered with ⟨unpaid, _⟩ | answered
  · rw [sameId, unpaid.not_pays mem] at pays
    cases pays
  rw [← sameId] at answered
  refine ⟨claim.candidate, frozen, ?_⟩
  cases paid with
  | error error => exact .notDispatched error answered releases
  | ok details =>
    obtain ⟨isRecord, outcome⟩ := releases
    have recorded := Candidate.isRecord_of_isRecordOf frozen isRecord
    rcases outcome with ⟨status, amount, fee, known, within⟩ | ⟨status, _⟩
    · exact .settled details fee (.inl answered) recorded status amount known within
    · exact .failedDispatch details answered recorded status

theorem World.Holding.observed (holding : world.Holding task body claim)
    (observed : world.ledger.Observed ledger) :
    ({ world with ledger } : World).Holding task body claim := by
  obtain ⟨kit, mem, sameId, paying, terms⟩ := holding.kit
  refine ⟨holding.active, holding.claimed, kit, ?_, sameId, paying, terms⟩
  rcases observed with rfl | ⟨wallNow, rfl⟩
  · exact mem
  · exact mem_observe_of_dispatched mem (Kit.isDispatched_of_paying paying) wallNow

/-- Before the dispatch the kit is held and unpaid, or nothing follows. -/
theorem triple_establishFresh (body claim) :
    ((custody node reports restarts).view task job).Triple (World.Unsent · task body claim)
      (establishFresh body.introId claim.candidate.paymentHash).run
      fun outcome world => ∀ preflight, outcome = .ok preflight → world.Unsent task body claim ∧
          ∀ error, preflight = .error error → notDispatched error := by
  refine triple_op (.getPaymentStatus claim.candidate.paymentHash) (fun answer world =>
    world.Unsent task body claim ∧ ∀ reason, answer = .error (.paymentNotFound reason) →
        FreshProven world.backend claim.candidate.paymentHash body.introId)
    (stable_holding_unpaid body claim) ?_ fun answer => ?_
  · rintro world answer _ _ ⟨holding, unpaid⟩ ⟨_, rfl⟩
    refine ⟨.lookup _ answer, ⟨⟨holding.active, holding.claimed, holding.kit⟩, ?_⟩, ?_⟩
    · simpa [World.Unpaid, BackendEvent.pays] using unpaid
    · rintro reason rfl
      exact ⟨world.backend, [], reason, rfl, fun _ mem => unpaid.not_pays mem⟩
  split
  · next reason =>
    suffices marked : ((custody node reports restarts).view task job).Triple
      (fun world => world.Unsent task body claim ∧
        FreshProven world.backend claim.candidate.paymentHash body.introId) _ _ from
      marked.of_pre fun world _ holds => ⟨holds.1, holds.2 reason rfl⟩
    refine triple_withLedger (fun _ world => world.Unsent task body claim)
      ?stable ?edited ?failed fun _ => ?continues
    case stable =>
      refine stable_of_move fun _ _ _ ne sound move holds => ?_
      obtain ⟨⟨holding, unpaid⟩, proven⟩ := holds
      obtain ⟨more, extended⟩ := move.backend_append
      refine ⟨⟨holding.move sound ne move, holding.unpaid_move sound ne move unpaid⟩, ?_⟩
      rw [extended]
      exact proven.append more
    case edited =>
      rintro world sound ⟨⟨holding, unpaid⟩, proven⟩ _ kit _ applied
      obtain ⟨path, held⟩ := holding_markFresh sound holding proven applied
      exact ⟨path, fun _ _ _ => ⟨held, unpaid⟩⟩
    case failed =>
      rintro _ _ _ ⟨⟩
    case continues =>
      refine triple_pure ?_
      rintro world _ holds _ ⟨⟩
      exact ⟨holds, by rintro _ ⟨⟩⟩
  · refine triple_pure ?_
    rintro world _ holds _ ⟨⟩
    refine ⟨holds.1, ?_⟩
    rintro _ ⟨⟩
    rfl
  · refine triple_pure ?_
    rintro world _ holds _ ⟨⟩
    refine ⟨holds.1, ?_⟩
    rintro _ ⟨⟩
    rfl

/-- The one call of the backend, for the terms of the held kit. -/
theorem triple_dispatchGift (body claim) : ((custody node reports restarts).view task job).Triple
      (World.Unsent · task body claim)
      (dispatchGift body.introId claim).run fun outcome world => ∀ paid, outcome = .ok paid →
        world.Concluded reports task body claim paid := by
  refine triple_transact (fun _ world => world.Unsent task body claim)
    (stable_holding_unpaid body claim) ?_ ?_ fun answer => ?_
  · rintro world _ ⟨holding, unpaid⟩ ledger error observed
    exact ⟨holding.observed observed, unpaid⟩
  · rintro world _ ⟨holding, unpaid⟩ wallNow kit ledger applied
    simp only [Makes, Edit.apply, Except.ok.injEq, Prod.mk.injEq] at applied
    obtain ⟨_, rfl⟩ := applied
    have held := holding.observed (.inr ⟨wallNow, rfl⟩)
    exact ⟨.refl, fun _ => ⟨held, unpaid⟩, fun _ _ _ => ⟨held, unpaid⟩⟩
  -- Without a dispatch the answer is one that positively excludes it.
  have refused : ∀ reason, ((custody node reports restarts).view task job).Triple
    (World.Unsent · task body claim)
    (pure (.error (.paymentNotDispatched reason)) :
      SponsorM (Except LightningError PaymentDetails)).run
    fun outcome world => ∀ paid, outcome = .ok paid →
      world.Concluded reports task body claim paid := by
    intro reason
    refine triple_pure ?_
    rintro world _ ⟨holding, unpaid⟩ _ ⟨⟩
    refine ⟨holding, ?_, .inl ⟨unpaid, _, rfl, rfl⟩⟩
    exact nofun
  cases answer with
  | error error => exact refused _
  | ok =>
    simp only
    split
    · exact refused _
    refine triple_op (.payInvoiceWithFeeLimit body.introId claim.candidate.bolt11 claim.feeMsat)
      (fun _ world => world.Holding task body claim)
      (stable_holding_unpaid body claim) ?_ fun _ => ?_
    · rintro world answer _ sound ⟨holding, unpaid⟩ rfl
      obtain ⟨kit, mem, sameId, paying, reserved, frozen, fee⟩ := holding.kit
      obtain ⟨claimed, claimedMem, _, candidate, sameFrozen, approves⟩ :=
        sound.claimed _ holding.claimed
      have same := sound.ledger.eq_of_introId claimedMem mem
        (approves.1.symm.trans sameId.symm)
      subst same
      have sameCandidate := Option.some.inj (sameFrozen.symm.trans frozen)
      subst sameCandidate
      refine ⟨.pay ⟨body, claimed, claim.candidate, holding.claimed, mem, sameId,
        paying, reserved, frozen, approves, rfl, fee⟩
        unpaid, ?_⟩
      exact ⟨holding.active, holding.claimed, holding.kit⟩
    · refine triple_ask ?_ ?_
      · exact stable_of_move fun _ _ _ ne sound move holding => holding.move sound ne move
      rintro world answer _ sound holding ⟨reported, rfl⟩
      have move : Move reports task world _ := .answered body.introId answer
      refine ⟨World.Sound.move sound move, move, ?_⟩
      rintro _ ⟨⟩
      exact ⟨⟨holding.active, holding.claimed, holding.kit⟩, reported, .inr (by simp)⟩

theorem triple_payIfFresh (body claim preflight) :
    ((custody node reports restarts).view task job).Triple
      (fun world => world.Unsent task body claim ∧
        ∀ error, preflight = .error error → notDispatched error)
      (payIfFresh body.introId claim preflight).run
      fun outcome world => ∀ paid, outcome = .ok paid →
        world.Concluded reports task body claim paid := by
  cases preflight with
  | error error =>
    refine triple_pure ?_
    rintro _ _ ⟨⟨holding, unpaid⟩, refused⟩ _ ⟨⟩
    refine ⟨holding, ?_, .inl ⟨unpaid, error, rfl, refused error rfl⟩⟩
    exact nofun
  | ok => exact (triple_dispatchGift body claim).of_pre fun _ _ holds => holds.1

theorem triple_then {α β : Type} {middle : α → World → Prop}
    {first : SponsorM α} {cont : α → SponsorM β}
    (specified : ((custody node reports restarts).view task job).Triple pre first.run
      fun outcome world => ∀ result, outcome = .ok result → middle result world)
    (next : ∀ result, ((custody node reports restarts).view task job).Triple
      (middle result) (cont result).run fun _ _ => True) :
    ((custody node reports restarts).view task job).Triple pre
      (first >>= cont).run fun _ _ => True := by
  refine triple_bind (specified.weaken (fun _ _ holds => holds) ?_) next
  intro outcome _ _ reached
  cases outcome with
  | ok result => exact reached result rfl
  | error error => trivial

theorem safely_payGift (body claim) : Safely node reports restarts task job
      (World.Unsent · task body claim) (payGift body.introId claim) := by
  refine triple_then (triple_establishFresh body claim) fun preflight => ?_
  refine triple_then (triple_payIfFresh body claim preflight) fun paid => ?_
  refine triple_withLedger (fun _ _ => True) (stable_concluded body claim paid)
    ?_ (fun _ _ => trivial) fun _ => triple_known_bind fun _ _ => triple_return
  intro _ sound concluded _ kit _ applied
  obtain ⟨_, mem, sameId, paying, _, frozen, _⟩ := concluded.holding.kit
  refine ⟨?_, fun _ _ _ => trivial⟩
  exact path_record sound mem (Kit.isDispatched_of_paying paying) sameId
    (sound.mine_of_active concluded.holding.active) concluded.reported
    (concluded.evidence sameId frozen) applied

theorem safely_payClaimed (body claim) : Safely node reports restarts task job
      (World.Unsent · task body claim) (payClaimed body.introId claim) := by
  have paid : ((custody node reports restarts).view task job).Triple
    (World.Unsent · task body claim)
    (payGift body.introId claim).run fun _ _ => True :=
    safely_payGift body claim
  refine triple_then
    (triple_attempt (paid.weaken (fun _ _ holds => holds) fun _ _ _ _ _ _ => trivial))
    fun _ => ?_
  refine triple_op .dropMarker (fun _ _ => True) stable_trivial ?_ fun _ => triple_return
  rintro world _ _ _ _ rfl
  exact ⟨.drop world, trivial⟩

/-- A claim of a candidate is a move, and its kit is held afterwards. -/
theorem move_claim {after : World} {answer : Except SponsorError Claim} (sound : world.Sound)
    (effect : (SponsorOp.claim body).Effect node reports task world answer after) :
    Move reports task world after ∧
      ∀ claim, answer = .ok claim → after.Holding task body claim ∧ after.Unpaid body.introId := by
  obtain ⟨ledger, claims, outcome⟩ := effect
  rcases claims.cases sound.ledger with
    ⟨observed, error, rfl⟩ | ⟨wallNow, kit, claim, approved, rfl, granted⟩
  · obtain rfl := outcome
    exact ⟨.ledger observed.path, nofun⟩
  have pending := Kit.isPending_of_state (.inr approved.frozen)
  have whole : LedgerPath (world.licence reports task) world.ledger
    ((world.ledger.observe wallNow).setKit body.introId
      (kit.claimed (world.ledger.observe wallNow).lastObservedTime)) :=
    .head (.observe world.ledger wallNow) (path_setKit approved.found
      (sound.mine_of_pending approved.found pending)
      (.claim approved.enabled approved.frozen approved.room approved.inTime))
  cases answer with
  | error error =>
    obtain rfl := outcome
    exact ⟨.ledger whole, nofun⟩
  | ok answered =>
    obtain rfl := granted answered rfl
    obtain rfl := outcome
    obtain ⟨mem, sameId⟩ := mem_of_kit_eq_ok approved.found
    have old := mem_of_mem_observe_of_pending mem pending
    have unclaimed :
      ∀ other ∈ world.ledger.kits, other.introId = body.introId → other.isDispatched = false := by
      intro other otherMem same
      rw [sound.ledger.eq_of_introId otherMem old (same.trans sameId.symm)]
      exact Kit.isDispatched_of_isPending pending
    have claimedMem := mem_setKit approved.found
      (kit.claimed (world.ledger.observe wallNow).lastObservedTime)
    refine ⟨.claim body whole unclaimed
      ⟨_, claimedMem, rfl, answered.candidate, approved.candidate, approved.approves⟩, ?_⟩
    rintro _ ⟨⟩
    refine ⟨⟨by simp, by simp, _, claimedMem, sameId, rfl, rfl,
      approved.candidate, approved.fee⟩, ?_⟩
    -- A payment would have been claimed before.
    refine List.countP_eq_zero.mpr fun event paid => ?_
    intro pays
    cases event with
    | lookup | answered => cases pays
    | paid payer introId bolt11 feeMsat =>
      obtain ⟨_, paidClaim, paidId⟩ := sound.paidClaimed payer introId bolt11 feeMsat paid
      obtain ⟨paidKit, paidMem, sent, _, _, approves⟩ := sound.claimed _ paidClaim
      have same : introId = body.introId := by
        simpa [BackendEvent.pays] using pays
      rw [unclaimed paidKit paidMem ((approves.1.symm.trans paidId).trans same)] at sent
      cases sent

theorem safely_approveOwner (metered body) :
    Safely node reports restarts task job (fun _ => True) (approveOwner metered body) := by
  refine triple_op .moneyReady (fun _ _ => True) stable_trivial ?_ fun _ => ?_
  · rintro world answer _ _ _ rfl
    exact ⟨.refl _, trivial⟩
  refine triple_known_bind fun _ _ => ?_
  refine triple_known_bind fun _ _ => ?_
  refine triple_op (.claim body) (fun answer world =>
    ∀ claim, answer = .ok claim → world.Unsent task body claim)
    stable_trivial ?_ fun answer => ?_
  · intro world answer _ sound _ effect
    exact move_claim sound effect
  refine triple_known_bind ?_
  rintro claim rfl
  exact (safely_payClaimed body claim).of_pre fun _ _ holds => holds claim rfl

theorem evidence_of_lookup (sound : world.Sound) {kit : Kit} (mem : kit ∈ world.ledger.kits)
    (frozen : kit.candidate = some candidate)
    (lookedUp : .lookup candidate.paymentHash answer ∈ world.backend)
    (releases : kit.Releases false (answer.mapError fun error =>
      .other ("lightning backend error: " ++ lightningText error))) :
    (world.licence reports task).evidence kit := by
  intro _
  refine ⟨candidate, frozen, ?_⟩
  cases answer with
  | error error => cases releases
  | ok details =>
    obtain ⟨isRecord, outcome⟩ := releases
    have recorded := Candidate.isRecord_of_isRecordOf frozen isRecord
    rcases outcome with
      ⟨status, amount, fee, known, within⟩ | ⟨status, fromDispatch | fresh⟩
    · exact .settled details fee (.inr lookedUp) recorded status amount known within
    · cases fromDispatch
    obtain ⟨_, sameFrozen, proven⟩ := sound.fresh kit mem fresh
    rw [frozen] at sameFrozen
    cases sameFrozen
    exact .failedFresh details lookedUp recorded status proven

theorem safely_reconcileWith (introId candidate) :
    Safely node reports restarts task job (fun world => world.Abandoned introId candidate)
      (reconcileWith introId candidate) := by
  refine triple_op (.getPaymentStatus candidate.paymentHash) (fun answer world =>
    world.Abandoned introId candidate ∧ .lookup candidate.paymentHash answer ∈ world.backend ∧
      ∀ details, answer = .ok details → reports details)
    (stable_of_move fun _ _ _ _ sound move abandoned =>
      abandoned.move sound move) ?_ fun answer => ?_
  · rintro world answer _ sound abandoned ⟨reported, rfl⟩
    have move : Move reports task world _ := .lookup candidate.paymentHash answer
    exact ⟨move, abandoned.move sound move, by simp, reported⟩
  refine triple_withLedger (fun _ _ => True) ?stable ?edited (fun _ _ => trivial)
    fun _ => triple_known_bind fun _ _ => triple_return
  case stable =>
    refine stable_of_move fun _ _ _ _ sound move holds => ?_
    obtain ⟨abandoned, lookedUp, reported⟩ := holds
    obtain ⟨_, extended⟩ := move.backend_append
    refine ⟨abandoned.move sound move, ?_, reported⟩
    rw [extended]
    exact List.mem_append_left _ lookedUp
  case edited =>
    rintro world sound ⟨⟨⟨_, mem, sameId, sent, frozen⟩, unmarked⟩,
      lookedUp, reported⟩ _ _ _ applied
    refine ⟨?_, fun _ _ _ => trivial⟩
    refine path_record sound mem sent sameId ?mine ?reported
      (evidence_of_lookup sound mem frozen lookedUp) applied
    case mine =>
      intro marker active same
      exact absurd same (unmarked marker active)
    case reported =>
      intro details same
      cases answer with
      | error error => cases same
      | ok => exact reported details same

theorem safely_reconcile (introId) :
    Safely node reports restarts task job (fun _ => True) (reconcile introId) := by
  refine triple_withLedger (fun seen world => ∀ kit candidate, seen.kit = some kit →
    kit.candidate = some candidate → seen.active = false → world.Abandoned introId candidate)
    stable_trivial ?_ (fun _ _ => trivial) fun seen => ?_
  · intro world _ _ _ kit _ applied
    simp only [Makes, Edit.apply, bind_eq_ok_iff, require_eq_ok_iff,
      decide_eq_true_eq, pure, Except.pure, Except.ok.injEq, Prod.mk.injEq]
      at applied
    obtain ⟨found, isFound, _, state, rfl, rfl⟩ := applied
    refine ⟨.refl, ?_⟩
    intro seen sameKit active snapshot candidate isSnapshot frozen inactive
    rw [sameKit] at isSnapshot
    cases isSnapshot
    obtain ⟨mem, sameId⟩ := mem_of_kit_eq_ok isFound
    have sent : found.isDispatched := by
      rcases state with same | same | same | same <;> simp [Kit.isDispatched, same]
    refine ⟨⟨found, mem, sameId, sent, frozen⟩, ?_⟩
    intro marker isActive same
    rw [active introId rfl, List.any_eq_false] at inactive
    exact inactive marker isActive (by simpa using same)
  refine triple_known_bind ?_
  intro snapshot isSnapshot
  split
  · exact triple_return
  next notSettled =>
  refine triple_known_bind ?_
  intro candidate isCandidate
  refine (safely_reconcileWith introId candidate).of_pre ?_
  intro world _ holds
  refine holds snapshot candidate ?_ ?_ ?_
  · unfold Seen.requireKit at isSnapshot
    split at isSnapshot
    · next same =>
      cases isSnapshot
      exact same
    · cases isSnapshot
  · unfold Kit.requireCandidate at isCandidate
    split at isCandidate
    · next same =>
      cases isCandidate
      exact same
    · cases isCandidate
  cases isActive : seen.active with
  | false => rfl
  | true => exact absurd (.inl isActive) notSettled

theorem custody_kept : (custody node reports restarts).Kept where
  cancel index before after sound dropped := by
    obtain rfl : after = before.dropMarkers index := dropped
    have move : Move reports index before _ := .drop before
    exact ⟨World.Sound.move sound move, move⟩
  crash host before after sound crashed := by
    obtain ⟨config, restarted, rfl⟩ := crashed
    exact ⟨World.Sound.restart sound config, config, restarted, rfl⟩
  ambient before after _ moved := moved.elim
  fresh _ _ _ _ _ _ _ _ := trivial
  result _ _ _ _ _ _ _ _ _ := trivial
  code index job := by
    cases job with
    | createOffer => exact safely_createOffer
    | addCandidate request => exact safely_addCandidate request
    | approveOwner metered body => exact safely_approveOwner metered body
    | cancel introId => exact safely_cancel introId
    | reconcile introId => exact safely_reconcile introId
    | status => exact safely_status

theorem holds_custody_of_steps (steps : (sponsorMachine node reports restarts).Steps
      (Machine.idle (World.initial config)) snapshot) :
    (custody node reports restarts).Holds snapshot :=
  Discipline.holds_of_steps custody_kept
    (Discipline.holds_idle (World.sound_initial config) fun _ => trivial)
    steps

end BitSov.Sponsor
