import BitSov.Sponsor.Gifts

namespace BitSov.Sponsor

open Core Arithmetic Process Fallible List Machine SponsorOp World

/-!
# A gift is paid at most once

Every operation keeps its custody, so over every interleaving a gift is paid
at most once, for a kit that is durably claimed, on the terms the owner has
approved; an outcome that is final stays, and a reservation is released only on
evidence of the backend.
-/

variable {node : Node} {task : Nat} {job : Job}

section

open Program

def ClaimsFor (job : Job) (op : SponsorOp) : Prop :=
  ∀ body, op = .claim body → job = .approveOwner false body

theorem performs_withLedger_bind {cont : Seen → SponsorM α}
    (next : ∀ seen, Performs (ClaimsFor job) (cont seen).run) :
    Performs (ClaimsFor job) (withLedger edit >>= cont).run :=
  performs_bind (performs_ask_bind_iff.mpr ⟨nofun, fun answer => performs_known answer⟩) next

theorem performs_payClaimed (introId claim) :
    Performs (ClaimsFor job) (payClaimed introId claim).run := by
  have fresh : Performs (ClaimsFor job)
    (establishFresh introId claim.candidate.paymentHash).run := by
    refine performs_ask_bind_iff.mpr ⟨nofun, fun answer => ?_⟩
    split
    · exact performs_withLedger_bind fun _ => trivial
    · trivial
    · trivial
  have dispatch :
    ∀ preflight, Performs (ClaimsFor job) (payIfFresh introId claim preflight).run := by
    intro preflight
    cases preflight with
    | error error => trivial
    | ok fresh =>
      refine performs_ask_bind_iff.mpr ⟨nofun, fun answer => ?_⟩
      cases answer with
      | error error => trivial
      | ok =>
        simp only
        split
        · trivial
        · refine performs_ask_bind_iff.mpr ⟨nofun, fun _ => ?_⟩
          exact performs_ask_iff.mpr nofun
  refine performs_bind (performs_attempt ?_) fun _ => ?_
  · refine performs_bind fresh fun preflight => ?_
    refine performs_bind (dispatch preflight) fun _ => ?_
    refine performs_withLedger_bind fun _ => ?_
    exact performs_bind (performs_known _) fun _ => performs_known _
  · exact performs_ask_bind_iff.mpr ⟨nofun, fun _ => performs_known _⟩

theorem performs_code (node job) : Performs (ClaimsFor job) (job.code node).run := by
  cases job with
  | createOffer =>
    refine performs_ask_bind_iff.mpr ⟨nofun, fun _ => ?_⟩
    refine performs_withLedger_bind fun _ => ?_
    refine performs_ask_bind_iff.mpr ⟨nofun, fun _ => ?_⟩
    refine performs_bind (performs_known _) fun _ => ?_
    refine performs_bind (performs_known _) fun _ => ?_
    exact performs_withLedger_bind fun _ => trivial
  | addCandidate =>
    refine performs_withLedger_bind fun _ => ?_
    refine performs_bind (performs_known _) fun _ => ?_
    refine performs_withLedger_bind fun _ => ?_
    exact performs_bind (performs_known _) fun _ => trivial
  | approveOwner _ body =>
    refine performs_ask_bind_iff.mpr ⟨nofun, fun _ => ?_⟩
    refine performs_bind (performs_known _) fun _ => ?_
    refine performs_known_bind_iff.mpr fun _ unmetered => ?_
    rw [require_eq_ok_iff] at unmetered
    refine performs_ask_bind_iff.mpr ⟨?_, fun _ => ?_⟩
    · rintro _ ⟨⟩
      simp only [Bool.not_eq_true'] at unmetered
      rw [unmetered]
    · exact performs_bind (performs_known _) fun claim => performs_payClaimed body.introId claim
  | cancel introId =>
    refine performs_withLedger_bind fun _ => ?_
    exact performs_bind (performs_known _) fun _ => trivial
  | reconcile introId =>
    refine performs_withLedger_bind fun _ => ?_
    refine performs_bind (performs_known _) fun _ => ?_
    split
    · trivial
    refine performs_bind (performs_known _) fun _ => ?_
    refine performs_ask_bind_iff.mpr ⟨nofun, fun _ => ?_⟩
    refine performs_withLedger_bind fun _ => ?_
    exact performs_bind (performs_known _) fun _ => trivial
  | status =>
    refine performs_ask_bind_iff.mpr ⟨nofun, fun _ => ?_⟩
    refine performs_ask_bind_iff.mpr ⟨nofun, fun _ => ?_⟩
    exact performs_bind (performs_known _) fun _ => trivial

end

/-- Every claim belongs to the approval that has made it. -/
def ClaimsOwned
    (snapshot : Config Job World SponsorOp SponsorOp.Answer (Except SponsorError Response)) :
    Prop :=
  ∀ claim ∈ snapshot.shared.claims,
    (snapshot.tasks[claim.1]?).map Task.job = some (.approveOwner false claim.2)

theorem claims_of_effect {op : SponsorOp} {before after : World} {answer : op.Answer}
    (effect : op.Effect node reports task before answer after) : after.claims = before.claims ∨
      ∃ body, op = .claim body ∧ after.claims = before.claims ++ [(task, body)] := by
  cases op with
  | policy => exact .inl (by rw [effect.2])
  | moneyReady | dropMarker | payInvoiceWithFeeLimit =>
    obtain rfl := effect
    exact .inl rfl
  | transact =>
    obtain ⟨_, _, rfl⟩ := effect
    exact .inl rfl
  | observe =>
    obtain ⟨_, _, _, rfl, _⟩ := effect
    exact .inl rfl
  | claim body =>
    obtain ⟨_, _, outcome⟩ := effect
    cases answer with
    | ok claim =>
      obtain rfl := outcome
      exact .inr ⟨body, rfl, rfl⟩
    | error error =>
      obtain rfl := outcome
      exact .inl rfl
  | issueCard =>
    cases answer with
    | ok =>
      obtain ⟨_, rfl⟩ := effect
      exact .inl rfl
    | error error => exact .inl (congrArg claims effect)
  | getPaymentStatus hash | awaitPayment introId =>
    obtain ⟨_, rfl⟩ := effect
    exact .inl rfl

theorem claimsOwned_of_steps {initial : World}
    {snapshot : Config Job World SponsorOp SponsorOp.Answer (Except SponsorError Response)}
    (unclaimed : initial.claims = [])
    (steps : (sponsorMachine node reports restarts).Steps (idle initial) snapshot) :
    ClaimsOwned snapshot := by
  induction steps with
  | refl =>
    intro claim mem
    rw [show (idle initial).shared.claims = [] from unclaimed] at mem
    cases mem
  | @tail before after prior step ih =>
    have coherent := coherent_of_steps prior
    cases step with
    | start job =>
      intro claim mem
      have old := ih claim mem
      obtain ⟨_, found, same⟩ := Option.map_eq_some_iff.mp old
      have bound := (List.getElem?_eq_some_iff.mp found).1
      rw [List.getElem?_append_left bound]
      exact old
    | @perform index performer op next answer shared found live pending effect =>
      have sameJob : ∀ other : Nat, ((before.tasks.set index
        (performer.advance ⟨op, answer⟩ (next answer)))[other]?).map
        Task.job =
        (before.tasks[other]?).map Task.job := by
        intro other
        rw [List.getElem?_set]
        split
        · next same =>
          subst same
          have bound := (List.getElem?_eq_some_iff.mp found).1
          rw [if_pos bound, found]
          rfl
        · rfl
      intro claim mem
      rw [sameJob]
      rcases claims_of_effect effect with same | ⟨body, rfl, extended⟩
      · exact ih claim (same ▸ mem)
      rw [extended] at mem
      rcases mem_append.mp mem with old | new
      · exact ih claim old
      rw [mem_singleton.mp new, found, Option.map_some]
      have allowed := (performs_code node performer.job).of_reaches
        (coherent.reaches index performer found)
      rw [pending] at allowed
      rw [allowed.1 body rfl]
    | @cancel index dropped shared found live cancelled =>
      obtain rfl : shared = before.shared.dropMarkers index := cancelled
      intro claim mem
      have old := ih claim mem
      rw [List.getElem?_set]
      split
      · next same =>
        subst same
        have bound := (List.getElem?_eq_some_iff.mp found).1
        rw [found] at old
        simpa [bound] using old
      · exact old
    | crash _ crashed =>
      obtain ⟨_, _, rfl⟩ := crashed
      intro claim mem
      have old := ih claim mem
      rw [List.getElem?_map]
      obtain ⟨_, found, same⟩ := Option.map_eq_some_iff.mp old
      rw [found, Option.map_some, Option.map_some, ← same]
      unfold survive
      split <;> rfl
    | ambient moved => exact moved.elim

variable {before after : World}

theorem Move.path (move : Move reports task before after) :
    LedgerPath (before.licence reports task) before.ledger after.ledger := by
  cases move with
  | ledger path | claim _ path => exact path
  | issue | lookup | pay | answered | drop => exact .refl

theorem advances_of_moves (sound : before.Sound)
    (moved : (custody node reports restarts).moves mover before after) :
    ∃ task, Ledger.Advances (before.licence reports task) before.ledger after.ledger := by
  cases mover with
  | task task => exact ⟨task, (Move.path moved).advances sound.ledger⟩
  | crash =>
    obtain ⟨_, _, rfl⟩ := moved
    exact ⟨0, sound.ledger.advances_refl⟩
  | surroundings => exact moved.elim

theorem paysApproved_of_moves (moved : (custody node reports restarts).moves mover before after)
    (paid : after.backend = before.backend ++ [.paid payer introId bolt11 feeMsat]) :
    before.PaysApproved payer introId bolt11 feeMsat := by
  cases mover with
  | task task =>
    cases moved with
    | ledger | claim | issue | drop =>
      have none := append_right_eq_self.mp paid.symm
      cases none
    | lookup | answered =>
      have same := append_cancel_left paid
      cases same
    | pay approved =>
      have same := append_cancel_left paid
      cases same
      exact approved
  | crash =>
    obtain ⟨_, _, rfl⟩ := moved
    have none := append_right_eq_self.mp paid.symm
    cases none
  | surroundings => exact moved.elim

theorem Ledger.Advances.kit_eq_ok {licence : Licence} {before after : Ledger}
    (advances : Ledger.Advances licence before after) {kit : Kit}
    (found : before.kit introId = .ok kit) (isFinal : kit.isFinal) :
    after.kit introId = .ok kit := by
  obtain ⟨mem, sameId⟩ := Ledger.mem_of_kit_eq_ok found
  exact advances.sound.kit_eq_ok_iff.mpr ⟨advances.isFinal kit mem isFinal, sameId⟩

/--
Over every interleaving of the sponsor operations, with cancelled callers,
crashes, failing writes, any clock and any answers of the backend: a gift is
paid at most once for an introduction; it is paid by the approval of the owner
that has claimed the kit, while the file holds the kit as paying with the gift
and the fee reserved, and exactly for the frozen candidate that was approved; a
kit that has failed, or was funded without a reservation, never changes; and the
reservation of a kit that was paid is released only on the backend's evidence.
-/
theorem gift_paid_at_most_once (node : Node) (config : Configuration)
    {snapshot : Config Job World SponsorOp SponsorOp.Answer (Except SponsorError Response)}
    (steps : (sponsorMachine node (fun _ => True) (fun _ _ => True)).Steps
      (idle (initial config)) snapshot) :
    (∀ introId, snapshot.shared.backend.countP (BackendEvent.pays introId) ≤ 1) ∧
      ∀ next, (sponsorMachine node (fun _ => True) (fun _ _ => True)).Step snapshot next →
        (∀ task introId bolt11 feeMsat, next.shared.backend =
          snapshot.shared.backend ++ [.paid task introId bolt11 feeMsat] →
          ∃ body kit candidate, (snapshot.tasks[task]?).map Task.job =
            some (.approveOwner false body) ∧ snapshot.shared.ledger.kit introId = .ok kit ∧
            kit.state = .paying ∧ kit.reservedMsat.toNat = kit.giftMsat.toNat + kit.feeMsat.toNat ∧
            kit.candidate = some candidate ∧ body.Approves kit candidate ∧
            bolt11 = candidate.bolt11 ∧ feeMsat = kit.feeMsat) ∧
        (∀ introId kit, snapshot.shared.ledger.kit introId = .ok kit → (kit.state = .failed ∨
          (kit.state = .funded ∧ kit.reservedMsat = 0)) →
          next.shared.ledger.kit introId = .ok kit) ∧
        ∀ introId kit later, snapshot.shared.ledger.kit introId = .ok kit →
          next.shared.ledger.kit introId = .ok later → (∃ event ∈ snapshot.shared.backend,
            event.pays introId) → kit.reservedMsat ≠ 0 → later.reservedMsat = 0 →
              ∃ candidate, kit.candidate = some candidate ∧
                ReleaseEvidence snapshot.shared.backend kit candidate := by
  have holds := holds_custody_of_steps steps
  have sound := holds.invariant
  have owned := claimsOwned_of_steps rfl steps
  refine ⟨sound.paidOnce, ?_⟩
  intro next step
  have advanced : ∃ task, Ledger.Advances (snapshot.shared.licence (fun _ => True) task)
    snapshot.shared.ledger next.shared.ledger := by
    rcases (holds.step custody_kept step).2 with same | ⟨_, moved⟩
    · rw [same]
      exact ⟨0, sound.ledger.advances_refl⟩
    · exact advances_of_moves sound moved
  obtain ⟨_, advances⟩ := advanced
  refine ⟨?payment, ?final, ?release⟩
  case payment =>
    intro task introId bolt11 feeMsat paid
    have approved : snapshot.shared.PaysApproved task introId bolt11 feeMsat := by
      rcases (holds.step custody_kept step).2 with same | ⟨_, moved⟩
      · rw [same] at paid
        have none := append_right_eq_self.mp paid.symm
        cases none
      · exact paysApproved_of_moves moved paid
    obtain ⟨body, kit, candidate, claimed, member, sameId, paying, reserved,
      frozen, approves, invoice, fee⟩ := approved
    refine ⟨body, kit, candidate, owned _ claimed,
      sound.ledger.kit_eq_ok_iff.mpr ⟨member, sameId⟩, paying, ?_, frozen,
      approves, invoice, fee⟩
    have bounded := (sound.ledger.kits kit member).bounded
    have below : maxKitMsat.toNat ≤ u64Max := by decide
    rw [reserved, toNat_saturatingAdd (bounded.trans below)]
  case final =>
    intro introId kit found outcome
    refine advances.kit_eq_ok found ?_
    rcases outcome with failed | ⟨funded, released⟩
    · simp [Kit.isFinal, failed]
    · simp [Kit.isFinal, funded, released]
  case release =>
    intro introId kit later found foundLater paid held released
    obtain ⟨member, sameId⟩ := Ledger.mem_of_kit_eq_ok found
    obtain ⟨laterMember, laterId⟩ := Ledger.mem_of_kit_eq_ok foundLater
    exact advances.released kit member later laterMember
      (laterId.trans sameId.symm) held released (sameId ▸ paid)

theorem exists_loadsObserved (ledger wallNow) :
    ∃ file, LoadsObserved ledger file (some (ledger.load.observe wallNow)) := by
  by_cases same : ledger.load.observe wallNow = ledger.load
  · exact ⟨ledger, wallNow, rfl, by rw [if_pos same]⟩
  · exact ⟨ledger.load.observe wallNow, wallNow, rfl, by rw [if_neg same]⟩

variable {world : World}

theorem effect_transact (reports : PaymentDetails → Prop) (task : Nat) (world : World) (edit : Edit)
    (wallNow kit edited)
    (applied : edit.apply node world.config.policy (world.ledger.load.observe wallNow)
      (world.ledger.load.observe wallNow).lastObservedTime = .ok (kit, edited))
    (noInspection : ∀ introId, edit ≠ .inspect introId := by exact fun _ => nofun) :
    (transact edit).Effect node reports task world
      (.ok ⟨(world.ledger.load.observe wallNow).lastObservedTime, kit, false⟩)
      { world with ledger := edited } := by
  obtain ⟨file, loads⟩ := exists_loadsObserved world.ledger wallNow
  refine ⟨edited, ⟨file, some _, loads, ?_⟩, rfl⟩
  simp only [applied]
  exact ⟨trivial, trivial, trivial, fun introId same => absurd same (noInspection introId)⟩

section

def giftInvoice : Invoice where
  currency := .regtest
  payee := "ln"
  amountMsat := some 20000
  paymentHash := "h"
  expiresAt := 400

/-- A newcomer's request for the gift. -/
def giftRequest : FundingRequest where
  sponsor := "s"
  introId := "i"
  newcomer := "n"
  newcomerLn := "ln"
  paymentHash := "h"
  amountMsat := 20000
  bolt11 := "b"
  expiresAt := 400
  comparisonCode := "123456"

/-- The candidate that is frozen for the request. -/
def giftCandidate : Candidate where
  newcomer := "n"
  newcomerLn := "ln"
  paymentHash := "h"
  bolt11 := "b"
  code := "123456"
  expiresAt := 400

/-- The owner's approval of the request. -/
def giftApproval : ApproveRequest where
  introId := "i"
  newcomer := "n"
  paymentHash := "h"
  giftMsat := 20000
  feeMaxMsat := 1000
  code := "123456"

/-- A node that knows one request and one invoice. -/
def giftNode : Node where
  nodeId := "s"
  network := some "regtest"
  trim := id
  parseRequest _ := .ok giftRequest
  verifyRequest _ _ _ := .ok ()
  parseInvoice _ := .ok giftInvoice
  signOffer _ _ _ := .ok "offer"

/-- Two gifts of twenty sats a day. -/
def giftConfiguration : Configuration where
  policy := ⟨true, 20000, 1000, 100000, 2⟩
  accepted := by decide

/-- The ledger at time 10 with the given kits. -/
def giftLedger (kits : List Kit) : Ledger where
  lastObservedTime := 10
  kits

def offeredGift : Kit :=
  offeredKit giftConfiguration.policy "i" 500 10

def frozenGift : Kit :=
  { offeredGift with state := .candidate, candidate := some giftCandidate }

def freshGift : Kit :=
  { frozenGift.claimed 10 with freshPaymentHash := true }

/-- The world in which an offer was made and a candidate was frozen. -/
def frozenWorld : World where
  config := giftConfiguration
  ledger := giftLedger [frozenGift]
  issued := [(0, "i")]
  active := []
  claims := []
  backend := []

/-- The world in which the gift is about to be paid. -/
def claimedWorld : World where
  config := giftConfiguration
  ledger := giftLedger [freshGift]
  issued := [(0, "i")]
  active := [(2, "i")]
  claims := [(2, giftApproval)]
  backend := [.lookup "h" (.error (.paymentNotFound "h"))]

/-- The offer and the candidate may be made one after the other. -/
theorem steps_frozenWorld (reports restarts) :
    ∃ snapshot, (sponsorMachine giftNode reports restarts).Steps
      (idle (initial giftConfiguration)) snapshot ∧
      snapshot.tasks.length = 2 ∧ snapshot.shared = frozenWorld := by
  let machine := sponsorMachine giftNode reports restarts
  let initial : World := initial giftConfiguration
  let noted : World := { initial with ledger := giftLedger [] }
  let issued : World := { noted with issued := [(0, "i")] }
  let pushed : World := { issued with ledger := giftLedger [offeredGift] }
  let offerHistory : List (Event SponsorOp SponsorOp.Answer) :=
    [⟨.policy, giftConfiguration.policy⟩, ⟨.transact .checkNewKit, .ok ⟨10, none, false⟩⟩,
      ⟨.issueCard, .ok ⟨"i", 500⟩⟩,
      ⟨.transact (.pushKit "i" 500), .ok ⟨10, none, false⟩⟩]
  let candidateHistory : List (Event SponsorOp SponsorOp.Answer) :=
    [⟨.transact .read, .ok ⟨10, none, false⟩⟩,
      ⟨.transact (.freeze giftRequest "regtest" giftCandidate), .ok ⟨10, some frozenGift, false⟩⟩]
  have offerReached : ∃ rest, Program.Reaches (machine.code .createOffer) offerHistory rest :=
    ⟨_, .call (.call (.call (.call (.refl _))))⟩
  have candidateReached :
    ∃ rest, Program.Reaches (machine.code (.addCandidate "r")) candidateHistory rest :=
    ⟨_, .call (.call (.refl _))⟩
  obtain ⟨_, offerReached⟩ := offerReached
  obtain ⟨_, candidateReached⟩ := candidateReached
  have offerSteps := @Machine.steps_run _ _ _ _ _ _ _ machine (idle initial) _ _ _ pushed
    offerReached
    (.cons ⟨rfl, rfl⟩ (.cons
      (effect_transact reports 0 initial .checkNewKit 10 none (giftLedger []) (by decide))
      (.cons ⟨nofun, rfl⟩ (.cons (effect_transact reports 0 issued (.pushKit "i" 500) 10 none
        (giftLedger [offeredGift]) (by decide)) (.nil _)))))
  refine ⟨_, offerSteps.trans (steps_run candidateReached ?performed), rfl, rfl⟩
  exact .cons
    (effect_transact reports 1 pushed .read 10 none (giftLedger [offeredGift]) (by decide))
    (.cons (effect_transact reports 1 pushed (.freeze giftRequest "regtest" giftCandidate) 10
      (some frozenGift) (giftLedger [frozenGift]) (by decide)) (.nil _))

/-- The approval of the candidate reaches its payment. -/
theorem steps_claimedWorld (reports restarts) :
    ∃ snapshot next, (sponsorMachine giftNode reports restarts).Steps
      (idle (initial giftConfiguration)) snapshot ∧
      (sponsorMachine giftNode reports restarts).Step snapshot next ∧
      snapshot.shared = claimedWorld ∧
      next.shared.backend = claimedWorld.backend ++ [.paid 2 "i" "b" 1000] := by
  let machine := sponsorMachine giftNode reports restarts
  obtain ⟨⟨_, tasks, log⟩, prior, count, rfl⟩ := steps_frozenWorld reports restarts
  let claimed : World :=
    { claimedWorld with ledger := giftLedger [frozenGift.claimed 10], backend := [] }
  let lookedUp : World := { claimedWorld with ledger := giftLedger [frozenGift.claimed 10] }
  let history : List (Event SponsorOp SponsorOp.Answer) := [⟨.moneyReady, true⟩,
    ⟨.claim giftApproval, .ok ⟨giftCandidate, 1000, 400⟩⟩,
    ⟨.getPaymentStatus "h", .error (.paymentNotFound "h")⟩,
    ⟨.transact (.markFresh "i"), .ok ⟨10, some freshGift, false⟩⟩,
    ⟨.transact .read, .ok ⟨10, none, false⟩⟩]
  have claim : (claim giftApproval).Effect giftNode reports 2
    frozenWorld (.ok ⟨giftCandidate, 1000, 400⟩) claimed :=
    ⟨giftLedger [frozenGift.claimed 10], by
      obtain ⟨file, loads⟩ := exists_loadsObserved frozenWorld.ledger 10
      exact ⟨file, some _, loads, rfl, rfl⟩, rfl⟩
  have lookup : (getPaymentStatus "h").Effect giftNode reports 2
    claimed (.error (.paymentNotFound "h")) lookedUp :=
    ⟨nofun, rfl⟩
  have reached : ∃ next, Program.Reaches (machine.code (.approveOwner false giftApproval))
    history (.call (.payInvoiceWithFeeLimit "i" "b" 1000) next) :=
    ⟨_, .call (.call (.call (.call (.call (.refl _)))))⟩
  obtain ⟨next, reached⟩ := reached
  have performed : Program.Performed (machine.effect tasks.length) frozenWorld history
    claimedWorld := by
    rw [show tasks.length = 2 from count]
    exact .cons rfl (.cons claim (.cons lookup (.cons
      (effect_transact reports 2 lookedUp (.markFresh "i") 10 (some freshGift)
        (giftLedger [freshGift]) (by decide))
      (.cons (effect_transact reports 2 claimedWorld .read 10 none (giftLedger [freshGift])
        (by decide)) (.nil _)))))
  have payment : machine.effect tasks.length claimedWorld (.payInvoiceWithFeeLimit "i" "b" 1000) ()
    { claimedWorld with
      backend := claimedWorld.backend ++ [.paid 2 "i" "b" 1000] } := by
    rw [show tasks.length = 2 from count]
    exact rfl
  obtain ⟨before, after, steps, step, sharedBefore, sharedAfter⟩ :=
    exists_step_of_run ⟨frozenWorld, tasks, log⟩ reached performed payment
  exact ⟨before, after, prior.trans steps, step, sharedBefore, by
    rw [sharedAfter]⟩

end

/-- The gift that is about to be paid is paid as the owner has approved it. -/
theorem gift_paid_at_most_once_gift : ∃ snapshot next body kit candidate,
      (sponsorMachine giftNode (fun _ => True) (fun _ _ => True)).Steps
        (idle (initial giftConfiguration)) snapshot ∧
        (sponsorMachine giftNode (fun _ => True) (fun _ _ => True)).Step snapshot next ∧
        next.shared.backend = snapshot.shared.backend ++ [.paid 2 "i" "b" 1000] ∧
        snapshot.shared.ledger.kit "i" = .ok kit ∧ kit.state = .paying ∧
        kit.candidate = some candidate ∧ ApproveRequest.Approves body kit candidate ∧
        snapshot.shared.backend.countP (BackendEvent.pays "i") ≤ 1 := by
  obtain ⟨snapshot, next, steps, step, same, paid⟩ :=
    steps_claimedWorld (fun _ => True) (fun _ _ => True)
  rw [← same] at paid
  obtain ⟨once, afterwards⟩ := gift_paid_at_most_once giftNode giftConfiguration steps
  obtain ⟨body, kit, candidate, _, found, paying, _, frozen, approves, _⟩ :=
    (afterwards next step).1 2 "i" "b" 1000 paid
  exact ⟨snapshot, next, body, kit, candidate, steps, step, paid, found, paying,
    frozen, approves, once "i"⟩

end BitSov.Sponsor
