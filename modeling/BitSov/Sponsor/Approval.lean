import BitSov.Sponsor.Sections

namespace BitSov.Sponsor

open Core Arithmetic Process Fallible List BackendEvent

/-!
# Every operation stays within its custody

Under the discipline `custody` each task only makes the moves of
`Move`.  An approval knows that its kit stays as it has claimed it until its
own outcome is recorded; a reconciliation knows that the kit it looks up is
dispatched and that nobody has a marker of it.
-/

section

variable (node : Node) (reports : PaymentDetails → Prop)
  (restarts : Configuration → Configuration → Prop)

def custody : Discipline (sponsorMachine node reports restarts) where
  invariant := World.Sound
  moves
    | .task task => Move reports task
    | .crash _ => fun before after =>
      ∃ config, restarts before.config config ∧ after = { before with config, active := [] }
    | .surroundings => fun _ _ => False
  fresh _ _ := True
  result _ _ _ _ := True

end

variable {node : Node} {reports : PaymentDetails → Prop}
  {restarts : Configuration → Configuration → Prop} {task : Nat} {job : Job} {α : Type}
  {before after : World} {body : ApproveRequest} {other : Nat} {claim : Claim}

variable (world : World)

theorem Move.refl : Move reports task world world := .ledger .refl

theorem stable_of_move (kept : ∀ other before after, other ≠ task → before.Sound →
      Move reports other before after → assertion before → assertion after) :
    ((custody node reports restarts).view task job).Stable assertion := by
  rintro before after sound _ ⟨mover, notOwn, notHost, moved⟩ holds
  cases mover with
  | task other =>
    refine kept other before after ?_ sound moved holds
    rintro rfl
    exact notOwn rfl
  | crash => exact absurd rfl notHost
  | surroundings => cases moved

theorem stable_trivial : ((custody node reports restarts).view task job).Stable fun _ => True :=
  fun _ _ _ _ _ _ => trivial

/-- The task has issued this introduction and no kit uses it yet. -/
def World.Unused (task : Nat) (introId : String) : Prop :=
  (task, introId) ∈ world.issued ∧ ∀ kit ∈ world.ledger.kits, kit.introId ≠ introId

variable {introId : String} {ledger : Ledger}

theorem World.Unused.advance (sound : before.Sound) (ne : other ≠ task)
    (path : LedgerPath (before.licence reports other) before.ledger ledger)
    (unused : before.Unused task introId) : ∀ kit ∈ ledger.kits, kit.introId ≠ introId := by
  rintro kit mem rfl
  rcases (path.advances sound.ledger).former kit mem with
    ⟨old, formerMem, same⟩ | issued
  · exact unused.2 old formerMem same
  · have sameIssue := inj_on_of_nodup_map sound.issuedOnce issued unused.1 rfl
    exact ne (congrArg Prod.fst sameIssue)

variable (introId : String)

theorem stable_unused : ((custody node reports restarts).view task job).Stable fun world =>
      world.Unused task introId := by
  refine stable_of_move fun _ _ _ ne sound move unused => ?_
  cases move with
  | ledger path | claim _ path => exact ⟨unused.1, unused.advance sound ne path⟩
  | issue => exact ⟨mem_append_left _ unused.1, unused.2⟩
  | lookup | pay | answered | drop => exact unused

/-- The task has claimed the kit and nobody has touched it since. -/
structure World.Holding (world : World) (task : Nat) (body : ApproveRequest) (claim : Claim) :
    Prop where
  active : (task, body.introId) ∈ world.active
  claimed : (task, body) ∈ world.claims
  kit : ∃ kit ∈ world.ledger.kits,
    kit.introId = body.introId ∧ kit.state = .paying ∧
      kit.reservedMsat = saturatingAdd kit.giftMsat kit.feeMsat ∧
      kit.candidate = some claim.candidate ∧ claim.feeMsat = kit.feeMsat

theorem Kit.isDispatched_of_paying {kit : Kit} (paying : kit.state = .paying) :
    kit.isDispatched := by
  simp [Kit.isDispatched, paying]

theorem World.Holding.advance (sound : before.Sound) (ne : other ≠ task)
    (path : LedgerPath (before.licence reports other) before.ledger ledger)
    (holding : before.Holding task body claim) :
    ∃ kit ∈ ledger.kits, kit.introId = body.introId ∧ kit.state = .paying ∧
      kit.reservedMsat = saturatingAdd kit.giftMsat kit.feeMsat ∧
      kit.candidate = some claim.candidate ∧ claim.feeMsat = kit.feeMsat := by
  obtain ⟨kit, mem, sameId, paying, terms⟩ := holding.kit
  refine ⟨kit, ?_, sameId, paying, terms⟩
  refine (path.advances sound.ledger).kept kit mem (Kit.isDispatched_of_paying paying) ?_
  intro mine
  exact ne (mine _ holding.active sameId.symm).symm

theorem World.Holding.move (sound : before.Sound) (ne : other ≠ task)
    (move : Move reports other before after) (holding : before.Holding task body claim) :
    after.Holding task body claim := by
  cases move with
  | ledger path => exact ⟨holding.active, holding.claimed, holding.advance sound ne path⟩
  | claim _ path =>
    exact ⟨mem_append_left _ holding.active, mem_append_left _ holding.claimed,
      holding.advance sound ne path⟩
  | issue | lookup | pay | answered => exact ⟨holding.active, holding.claimed, holding.kit⟩
  | drop =>
    refine ⟨?_, holding.claimed, holding.kit⟩
    refine mem_filter.mpr ⟨holding.active, ?_⟩
    rw [decide_eq_true_eq]
    intro otherActive
    exact ne (sound.marker_unique otherActive holding.active)

/-- The backend was not asked to pay for the introduction. -/
def World.Unpaid : Prop :=
  world.backend.countP (pays introId) = 0

theorem World.Holding.unpaid_move (sound : before.Sound) (ne : other ≠ task)
    (move : Move reports other before after) (holding : before.Holding task body claim)
    (unpaid : before.Unpaid body.introId) : after.Unpaid body.introId := by
  unfold World.Unpaid at unpaid ⊢
  cases move with
  | ledger | claim | issue | drop => exact unpaid
  | lookup | answered => simpa [pays] using unpaid
  | @pay introId bolt11 feeMsat approved =>
    obtain ⟨_, _, _, otherClaim, _, sameId, _, _, _, approves, _⟩ := approved
    have otherId : introId ≠ body.introId := by
      rintro same
      exact ne (congrArg Prod.fst
        (sound.claim_unique otherClaim holding.claimed ((approves.1.trans sameId).trans same)))
    simpa [pays, otherId] using unpaid

theorem Move.backend_append (move : Move reports task before after) :
    ∃ more, after.backend = before.backend ++ more := by
  cases move with
  | ledger | claim | issue | drop => exact ⟨[], (append_nil _).symm⟩
  | lookup | pay | answered => exact ⟨_, rfl⟩

/-- The task holds the claim of a gift that is not paid. -/
abbrev World.Unsent (world : World) (task : Nat) (body : ApproveRequest) (claim : Claim) : Prop :=
  world.Holding task body claim ∧ world.Unpaid body.introId

theorem stable_holding_unpaid (body claim) :
    ((custody node reports restarts).view task job).Stable (World.Unsent · task body claim) :=
  stable_of_move fun _ _ _ ne sound move holds =>
    ⟨holds.1.move sound ne move, holds.1.unpaid_move sound ne move holds.2⟩

/-- A kit that was approved and that nobody is paying for. -/
def World.Abandoned (candidate : Candidate) : Prop :=
  (∃ kit ∈ world.ledger.kits,
    kit.introId = introId ∧ kit.isDispatched = true ∧ kit.candidate = some candidate) ∧
    ∀ marker ∈ world.active, marker.2 ≠ introId

theorem World.Abandoned.move {introId : String} {candidate : Candidate} (sound : before.Sound)
    (move : Move reports other before after) (abandoned : before.Abandoned introId candidate) :
    after.Abandoned introId candidate := by
  obtain ⟨⟨kit, mem, sameId, sent, frozen⟩, unmarked⟩ := abandoned
  have advanced : ∀ ledger, LedgerPath (before.licence reports other) before.ledger ledger →
    ∃ kit ∈ ledger.kits,
      kit.introId = introId ∧ kit.isDispatched ∧ kit.candidate = some candidate := by
    intro ledger path
    obtain ⟨later, laterMem, laterDispatched, terms⟩ :=
      (path.advances sound.ledger).dispatched kit mem sent
    exact ⟨later, laterMem, terms.1.trans sameId, laterDispatched, terms.2.2.2.1.trans frozen⟩
  cases move with
  | ledger path => exact ⟨advanced _ path, unmarked⟩
  | claim _ path unclaimed =>
    refine ⟨advanced _ path, ?_⟩
    intro marker active
    rcases mem_append.mp active with old | new
    · exact unmarked marker old
    rw [mem_singleton.mp new]
    intro same
    rw [unclaimed kit mem (sameId.trans same.symm)] at sent
    cases sent
  | issue | lookup | pay | answered => exact ⟨⟨kit, mem, sameId, sent, frozen⟩, unmarked⟩
  | drop =>
    exact ⟨⟨kit, mem, sameId, sent, frozen⟩, fun marker active =>
      unmarked marker (mem_of_mem_filter active)⟩

/-- An edit at an observed time gives the kit and the ledger. -/
abbrev Edit.Makes (edit : Edit) (node : Node) (world : World) (wallNow : UInt64)
    (kit : Option Kit) (ledger : Ledger) : Prop :=
  edit.apply node world.config.policy (world.ledger.observe wallNow)
    (world.ledger.observe wallNow).lastObservedTime = .ok (kit, ledger)

/-- The specifications of programs that only have to stay in custody. -/
abbrev Safely (node : Node) (reports : PaymentDetails → Prop)
    (restarts : Configuration → Configuration → Prop) (task : Nat) (job : Job) (pre : World → Prop)
    (program : SponsorM Response) : Prop :=
  ((custody node reports restarts).view task job).Triple pre program.run fun _ _ => True

variable {pre : World → Prop} {edit : Edit} {post : Except SponsorError α → World → Prop}

/-- The rule of a critical section. -/
theorem triple_transact (middle : Except SponsorError Seen → World → Prop)
    {cont : Except SponsorError Seen → SponsorM α}
    (stable : ((custody node reports restarts).view task job).Stable pre)
    (observed : ∀ world, world.Sound → pre world → ∀ ledger error,
      world.ledger.Observed ledger → middle (.error error) { world with ledger })
    (edited : ∀ world, world.Sound → pre world → ∀ wallNow kit ledger,
      edit.Makes node world wallNow kit ledger →
      LedgerPath (world.licence reports task) (world.ledger.observe wallNow) ledger ∧
        (∀ error, middle (.error error) { world with ledger }) ∧
        ∀ seen, seen.kit = kit → (∀ introId, edit = .inspect introId →
          seen.active = world.active.any fun marker => marker.2 = introId) →
          middle (.ok seen) { world with ledger })
    (next : ∀ answer, ((custody node reports restarts).view task job).Triple
      (middle answer) (cont answer).run post) :
    ((custody node reports restarts).view task job).Triple pre
      (ask (SponsorOp.transact edit) >>= cont).run post := by
  refine View.triple_call stable ?_ next
  rintro world answer _ sound holds ⟨ledger, transacts, rfl⟩
  rcases transacts.cases sound.ledger with
    ⟨onlyObserved, error, rfl⟩ | ⟨wallNow, kit, applied, answered⟩
  · have path : LedgerPath (world.licence reports task) world.ledger ledger := onlyObserved.path
    exact ⟨sound.move (.ledger path), .ledger path,
      observed world sound holds ledger error onlyObserved⟩
  obtain ⟨path, failed, succeeded⟩ := edited world sound holds wallNow kit ledger applied
  have whole : LedgerPath (world.licence reports task) world.ledger ledger :=
    .head (.observe world.ledger wallNow) path
  refine ⟨sound.move (.ledger whole), .ledger whole, ?_⟩
  cases answer with
  | error error => exact failed error
  | ok seen =>
    obtain ⟨_, sameKit, active⟩ := answered seen rfl
    exact succeeded seen sameKit active

/-- The rule of a critical section whose refusal ends the operation. -/
theorem triple_withLedger (middle : Seen → World → Prop)
    (stable : ((custody node reports restarts).view task job).Stable pre)
    (edited : ∀ world, world.Sound → pre world → ∀ wallNow kit ledger,
      edit.Makes node world wallNow kit ledger →
      LedgerPath (world.licence reports task) (world.ledger.observe wallNow) ledger ∧
        ∀ seen, seen.kit = kit → (∀ introId, edit = .inspect introId →
          seen.active = world.active.any fun marker => marker.2 = introId) →
          middle seen { world with ledger }) (failed : ∀ error world, post (.error error) world)
    (next : ∀ seen, ((custody node reports restarts).view task job).Triple (middle seen)
      (cont seen).run post) : ((custody node reports restarts).view task job).Triple pre
      (withLedger edit >>= cont).run post := by
  unfold withLedger
  rw [bind_assoc]
  refine triple_transact (fun answer world => ∀ seen, answer = .ok seen → middle seen world)
    stable ?observed ?edited ?next
  case observed =>
    intro world sound holds ledger error _ seen same
    cases same
  case edited =>
    intro world sound holds wallNow kit ledger applied
    obtain ⟨path, reached⟩ := edited world sound holds wallNow kit ledger applied
    refine ⟨path, ?_, ?_⟩
    · intro error seen same
      cases same
    · rintro seen sameKit active _ ⟨⟩
      exact reached seen sameKit active
  case next =>
    intro answer
    refine View.triple_known_bind ?_ fun error _ world _ _ => failed error world
    rintro seen rfl
    exact (next seen).of_pre fun world _ holds => holds seen rfl

end BitSov.Sponsor
