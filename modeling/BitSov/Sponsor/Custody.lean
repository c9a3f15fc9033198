import BitSov.Process.Safety
import BitSov.Sponsor.Transitions

namespace BitSov.Sponsor

open Core Outbox Arithmetic Process List

/-!
# Who may touch a kit

An approval that has claimed its kit holds a marker until it returns or is
dropped.  While it does, nobody else changes the kit: a reconciliation only
records what it has looked up for a kit without a marker, and a kit that was
claimed once is never claimed again.  `Move` lists what a task may do to the
world, and `World.Sound` is what every move keeps.
-/

def BackendEvent.pays (introId : String) : BackendEvent → Bool
  | .paid _ paidId _ _ => paidId = introId
  | .lookup _ _ | .answered _ _ => false

/-- A lookup without a record that was made before any payment of the kit. -/
def FreshProven (backend : List BackendEvent) (hash introId : String) : Prop :=
  ∃ earlier later reason,
    backend = earlier ++ .lookup hash (.error (.paymentNotFound reason)) :: later ∧
      ∀ event ∈ earlier, event.pays introId = false

theorem FreshProven.append {backend : List BackendEvent} {hash introId : String}
    (proven : FreshProven backend hash introId) (more) :
    FreshProven (backend ++ more) hash introId := by
  obtain ⟨prior, later, reason, split, unpaid⟩ := proven
  refine ⟨prior, later ++ more, reason, ?_, unpaid⟩
  rw [split, append_assoc, cons_append]

def Candidate.IsRecord (candidate : Candidate) (details : PaymentDetails) : Prop :=
  details.direction = .outgoing ∧ details.paymentHash = candidate.paymentHash

/-- What the backend has said when the reservation of a kit is released. -/
inductive ReleaseEvidence (backend : List BackendEvent) (kit : Kit) (candidate : Candidate) :
    Prop where
  | settled (details : PaymentDetails) (fee : UInt64)
    (reported : .answered kit.introId (.ok details) ∈ backend ∨
      .lookup candidate.paymentHash (.ok details) ∈ backend)
      (isRecord : candidate.IsRecord details) (status : details.status = .settled)
      (amount : details.amountMsat = kit.giftMsat) (known : details.feeMsat = some fee)
      (within : fee ≤ kit.feeMsat)
  | failedDispatch (details : PaymentDetails)
      (reported : .answered kit.introId (.ok details) ∈ backend)
      (isRecord : candidate.IsRecord details)
      (status : details.status = .failed ∨ details.status = .expired)
  | failedFresh (details : PaymentDetails)
      (reported : .lookup candidate.paymentHash (.ok details) ∈ backend)
      (isRecord : candidate.IsRecord details)
      (status : details.status = .failed ∨ details.status = .expired)
      (fresh : FreshProven backend candidate.paymentHash kit.introId)
  | notDispatched (error : LightningError)
      (reported : .answered kit.introId (.error error) ∈ backend)
      (refused : Payments.notDispatched error = true)

/-- The approval is of exactly this kit and its frozen candidate. -/
def ApproveRequest.Approves (body : ApproveRequest) (kit : Kit) (candidate : Candidate) : Prop :=
  body.introId = kit.introId ∧ body.newcomer = candidate.newcomer ∧
    body.paymentHash = candidate.paymentHash ∧
    body.giftMsat = kit.giftMsat ∧ body.feeMaxMsat = kit.feeMsat ∧
    body.code = candidate.code

theorem Configuration.bounds (config : Configuration) (enabled : config.policy.enabled) :
    config.policy.giftMsat ≠ 0 ∧
      config.policy.giftMsat.toNat + config.policy.feeMsat.toNat ≤ maxKitMsat.toNat ∧
      config.policy.purseMsat ≤ maxPurseMsat := by
  have accepted := config.accepted
  unfold SponsorPolicy.new at accepted
  rw [enabled] at accepted
  simp only [Bool.not_true, Bool.false_eq_true, if_false] at accepted
  split at accepted
  · cases accepted
  next kit =>
  split at accepted
  · cases accepted
  split at accepted
  · cases accepted
  next purse =>
  rw [not_or, gt_iff_lt, UInt64.not_lt] at kit purse
  rw [UInt64.le_iff_toNat_le, toNat_saturatingAdd_eq_min] at kit
  have below : maxKitMsat.toNat < u64Max := by decide
  exact ⟨kit.1, by omega, purse.1⟩

/-- What a task may do to the ledger. -/
def World.licence (world : World) (reports : PaymentDetails → Prop) (task : Nat) : Licence where
  policy := world.config.policy
  accepted := world.config.bounds
  reports
  issued introId := (task, introId) ∈ world.issued
  mine introId := ∀ marker ∈ world.active, marker.2 = introId → marker.1 = task
  proven kit := ∃ candidate,
    kit.candidate = some candidate ∧ FreshProven world.backend candidate.paymentHash kit.introId
  evidence kit := (∃ event ∈ world.backend, event.pays kit.introId = true) →
    ∃ candidate, kit.candidate = some candidate ∧ ReleaseEvidence world.backend kit candidate
  proven_congr := by
    rintro first second ⟨sameId, _, _, sameCandidate, _⟩ ⟨candidate, frozen, proven⟩
    exact ⟨candidate, sameCandidate ▸ frozen, sameId ▸ proven⟩
  evidence_congr := by
    rintro first second ⟨sameId, sameGift, sameFee, sameCandidate, _⟩ evidence paid
    obtain ⟨candidate, frozen, released⟩ := evidence (sameId ▸ paid)
    refine ⟨candidate, sameCandidate ▸ frozen, ?_⟩
    cases released with
    | settled details fee reported isRecord status amount known within =>
      exact .settled details fee (sameId ▸ reported) isRecord status
        (sameGift ▸ amount) known (sameFee ▸ within)
    | failedDispatch details reported isRecord status =>
      exact .failedDispatch details (sameId ▸ reported) isRecord status
    | failedFresh details reported isRecord status fresh =>
      exact .failedFresh details reported isRecord status (sameId ▸ fresh)
    | notDispatched error reported refused => exact .notDispatched error (sameId ▸ reported) refused

/-- What holds between any two steps. -/
structure World.Sound (world : World) : Prop where
  ledger : world.ledger.Sound
  issuedOnce : (world.issued.map Prod.snd).Nodup
  kitsIssued : ∀ kit ∈ world.ledger.kits, ∃ task, (task, kit.introId) ∈ world.issued
  activeClaimed :
    ∀ marker ∈ world.active, ∃ body, (marker.1, body) ∈ world.claims ∧ body.introId = marker.2
  claimedOnce : (world.claims.map fun claim => claim.2.introId).Nodup
  claimed : ∀ claim ∈ world.claims,
    ∃ kit ∈ world.ledger.kits,
      kit.isDispatched = true ∧
        ∃ candidate, kit.candidate = some candidate ∧ claim.2.Approves kit candidate
  paidClaimed : ∀ task introId bolt11 feeMsat,
    .paid task introId bolt11 feeMsat ∈ world.backend →
      ∃ body, (task, body) ∈ world.claims ∧ body.introId = introId
  paidOnce : ∀ introId, world.backend.countP (BackendEvent.pays introId) ≤ 1
  fresh : ∀ kit ∈ world.ledger.kits,
    kit.freshPaymentHash = true →
      ∃ candidate, kit.candidate = some candidate ∧
        FreshProven world.backend candidate.paymentHash kit.introId

/-- A payment of a durably claimed kit on the terms the owner has approved. -/
def World.PaysApproved (world : World) (task : Nat) (introId bolt11 : String) (feeMsat : UInt64) :
    Prop :=
  ∃ body kit candidate,
    (task, body) ∈ world.claims ∧ kit ∈ world.ledger.kits ∧
      kit.introId = introId ∧ kit.state = .paying ∧
      kit.reservedMsat = saturatingAdd kit.giftMsat kit.feeMsat ∧
      kit.candidate = some candidate ∧ body.Approves kit candidate ∧
      bolt11 = candidate.bolt11 ∧ feeMsat = kit.feeMsat

/-- What a task may do to the world. -/
inductive Move (reports : PaymentDetails → Prop) (task : Nat) : World → World → Prop where
  | ledger {before : World} {ledger : Ledger}
    (path : LedgerPath (before.licence reports task) before.ledger ledger) :
    Move reports task before { before with ledger }
  | claim {before : World} {ledger : Ledger} (body : ApproveRequest)
    (path : LedgerPath (before.licence reports task) before.ledger ledger)
    (unclaimed : ∀ kit ∈ before.ledger.kits, kit.introId = body.introId → kit.isDispatched = false)
    (claimed : ∃ kit ∈ ledger.kits,
      kit.isDispatched = true ∧
        ∃ candidate, kit.candidate = some candidate ∧ body.Approves kit candidate) :
    Move reports task before
      { before with
        ledger, active := before.active ++ [(task, body.introId)],
        claims := before.claims ++ [(task, body)] }
  | issue {before : World} (introId : String)
    (unissued : ∀ issued ∈ before.issued, issued.2 ≠ introId) :
    Move reports task before { before with issued := before.issued ++ [(task, introId)] }
  | lookup {before : World} (hash : String) (answer : Except LightningError PaymentDetails) :
    Move reports task before { before with backend := before.backend ++ [.lookup hash answer] }
  | pay {before : World} {introId bolt11 : String} {feeMsat : UInt64}
    (approved : before.PaysApproved task introId bolt11 feeMsat)
    (unpaid : before.backend.countP (BackendEvent.pays introId) = 0) :
    Move reports task before
      { before with backend := before.backend ++ [.paid task introId bolt11 feeMsat] }
  | answered {before : World} (introId : String) (answer : Except LightningError PaymentDetails) :
    Move reports task before { before with backend := before.backend ++ [.answered introId answer] }
  | drop (before : World) : Move reports task before (before.dropMarkers task)

namespace World

open World (initial)

variable {world : World}

theorem Sound.claim_unique (sound : world.Sound) (firstMem : first ∈ world.claims)
    (secondMem : second ∈ world.claims) (same : first.2.introId = second.2.introId) :
    first = second := inj_on_of_nodup_map sound.claimedOnce firstMem secondMem same

section

variable (sound : world.Sound)
include sound

theorem Sound.marker_unique (firstActive : (first, introId) ∈ world.active)
    (secondActive : (second, introId) ∈ world.active) : first = second := by
  obtain ⟨_, firstClaim, firstId⟩ := sound.activeClaimed _ firstActive
  obtain ⟨_, secondClaim, secondId⟩ := sound.activeClaimed _ secondActive
  have same := sound.claim_unique firstClaim secondClaim (firstId.trans secondId.symm)
  exact congrArg Prod.fst same

theorem Sound.mine_of_active (active : (task, introId) ∈ world.active) :
    (world.licence reports task).mine introId := by
  rintro ⟨_, _⟩ mem rfl
  exact sound.marker_unique mem active

theorem Sound.dispatched_of_active (active : marker ∈ world.active)
    (mem : kit ∈ world.ledger.kits) (same : kit.introId = marker.2) : kit.isDispatched := by
  obtain ⟨_, claim, bodyId⟩ := sound.activeClaimed marker active
  obtain ⟨claimed, claimedMem, sent, _, _, approves⟩ := sound.claimed _ claim
  have isKit := sound.ledger.eq_of_introId claimedMem mem
    ((approves.1.symm.trans bodyId).trans same.symm)
  exact isKit ▸ sent

theorem Sound.with_ledger {ledger : Ledger}
    (advances : Ledger.Advances (world.licence reports task) world.ledger ledger) :
    ({ world with ledger } : World).Sound :=
  { sound with
    ledger := advances.sound
    kitsIssued later member := by
      rcases advances.former later member with ⟨kit, kitMem, same⟩ | issued
      · exact same ▸ sound.kitsIssued kit kitMem
      · exact ⟨task, issued⟩
    claimed claim member := by
      obtain ⟨kit, kitMem, sent, candidate, frozen, approves⟩ := sound.claimed claim member
      obtain ⟨later, laterMem, laterDispatched, terms⟩ := advances.dispatched kit kitMem sent
      obtain ⟨sameId, sameGift, sameFee, sameCandidate, _⟩ := terms
      refine ⟨later, laterMem, laterDispatched, candidate, sameCandidate.trans frozen, ?_⟩
      unfold ApproveRequest.Approves at approves ⊢
      rw [sameId, sameGift, sameFee]
      exact approves
    fresh later member fresh := by
      rcases advances.fresh later member fresh with
        ⟨kit, kitMem, terms, wasFresh⟩ | proven
      · obtain ⟨candidate, frozen, proven⟩ := sound.fresh kit kitMem wasFresh
        exact ⟨candidate, terms.2.2.2.1.trans frozen, terms.1.symm ▸ proven⟩
      · exact proven }

theorem Sound.with_event (noPayment : ∀ introId, event.pays introId = false) :
    ({ world with backend := world.backend ++ [event] } : World).Sound :=
  { sound with
    paidClaimed payer introId bolt11 feeMsat paid := by
      rcases mem_append.mp paid with old | new
      · exact sound.paidClaimed payer introId bolt11 feeMsat old
      rw [mem_singleton] at new
      have silent := noPayment introId
      simp [← new, BackendEvent.pays] at silent
    paidOnce introId := by
      simpa [countP_append, noPayment introId] using sound.paidOnce introId
    fresh kit member fresh := by
      obtain ⟨candidate, frozen, proven⟩ := sound.fresh kit member fresh
      exact ⟨candidate, frozen, proven.append _⟩ }

end

/-- Every move keeps the world sound. -/
theorem Sound.move {before after : World} (sound : before.Sound)
    (move : Move reports task before after) : after.Sound := by
  cases move with
  | ledger path => exact sound.with_ledger (path.advances sound.ledger)
  | @claim ledger body path unclaimed claimed =>
    have advanced := sound.with_ledger (path.advances sound.ledger)
    refine
      { advanced with
        activeClaimed := ?activeClaimed, claimedOnce := ?claimedOnce, claimed := ?claimed,
        paidClaimed := ?paidClaimed }
    case activeClaimed =>
      intro marker active
      rcases mem_append.mp active with old | new
      · obtain ⟨formerBody, claim, same⟩ := sound.activeClaimed marker old
        exact ⟨formerBody, mem_append_left _ claim, same⟩
      · rw [mem_singleton.mp new]
        exact ⟨body, by simp, rfl⟩
    case claimedOnce =>
      rw [map_append, map_singleton, nodup_append_comm, singleton_append, nodup_cons]
      refine ⟨?_, sound.claimedOnce⟩
      intro mem
      obtain ⟨claim, claimMember, same⟩ := mem_map.mp mem
      obtain ⟨kit, kitMem, sent, _, _, approves⟩ := sound.claimed claim claimMember
      rw [unclaimed kit kitMem (approves.1.symm.trans same)] at sent
      cases sent
    case claimed =>
      intro claim mem
      rcases mem_append.mp mem with old | new
      · exact advanced.claimed claim old
      · rw [mem_singleton.mp new]
        exact claimed
    case paidClaimed =>
      intro payer introId bolt11 feeMsat paid
      obtain ⟨paidBody, claim, same⟩ := sound.paidClaimed payer introId bolt11 feeMsat paid
      exact ⟨paidBody, mem_append_left _ claim, same⟩
  | issue introId unissued =>
    refine { sound with issuedOnce := ?issuedOnce, kitsIssued := ?kitsIssued }
    case issuedOnce =>
      rw [map_append, map_singleton, nodup_append_comm, singleton_append, nodup_cons]
      refine ⟨?_, sound.issuedOnce⟩
      intro mem
      obtain ⟨issued, issuedMem, same⟩ := mem_map.mp mem
      exact unissued issued issuedMem same
    case kitsIssued =>
      intro kit mem
      obtain ⟨issuer, issued⟩ := sound.kitsIssued kit mem
      exact ⟨issuer, mem_append_left _ issued⟩
  | lookup => exact sound.with_event fun _ => rfl
  | @pay introId bolt11 feeMsat approved unpaid =>
    refine { sound with paidClaimed := ?paidClaimed, paidOnce := ?paidOnce, fresh := ?fresh }
    case paidClaimed =>
      intro payer paidId invoice fee paid
      rcases mem_append.mp paid with old | new
      · exact sound.paidClaimed payer paidId invoice fee old
      rw [mem_singleton] at new
      cases new
      obtain ⟨body, kit, _, claim, _, same, _, _, _, approves, _⟩ := approved
      exact ⟨body, claim, approves.1.trans same⟩
    case paidOnce =>
      intro paidId
      rw [countP_append, countP_singleton]
      by_cases same : introId = paidId
      · rw [← same, unpaid]
        split <;> omega
      have other : (BackendEvent.paid task introId bolt11 feeMsat).pays paidId = false := by
        simp [BackendEvent.pays, same]
      simpa [other] using sound.paidOnce paidId
    case fresh =>
      intro kit mem fresh
      obtain ⟨candidate, frozen, proven⟩ := sound.fresh kit mem fresh
      exact ⟨candidate, frozen, proven.append _⟩
  | answered introId => exact sound.with_event fun _ => rfl
  | drop =>
    exact
      { sound with
        activeClaimed := fun marker active =>
          sound.activeClaimed marker (mem_of_mem_filter active) }

theorem Sound.restart (sound : world.Sound) (config) :
    ({ world with config, active := [] } : World).Sound :=
  { sound with activeClaimed marker active := by cases active }

theorem sound_initial (config) : (initial config).Sound where
  ledger := ⟨by simp [initial, Ledger.empty], by
    simp [initial, Ledger.empty]⟩
  issuedOnce := by simp [initial]
  kitsIssued := by simp [initial, Ledger.empty]
  activeClaimed := by simp [initial]
  claimedOnce := by simp [initial]
  claimed := by simp [initial]
  paidClaimed := by simp [initial]
  paidOnce := by simp [initial]
  fresh := by simp [initial, Ledger.empty]

end World

end BitSov.Sponsor
