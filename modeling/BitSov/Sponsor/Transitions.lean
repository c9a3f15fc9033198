import BitSov.Sponsor.Operations

namespace BitSov.Sponsor

open Core Outbox Arithmetic Kit List

/-!
# What a critical section may do to the ledger

Every critical section observes the time and then adds one kit or changes one
kit.  A `Licence` collects what the caller may do there: the policy in force,
the kits it may touch, what the backend may report to it, and what it must be
able to show for a mark of freshness and for a release.  `LedgerStep` lists the
changes, and the facts below hold after any number of them.
-/

namespace Kit

variable {kit : Kit}

def isDispatched (kit : Kit) : Bool :=
  match kit.state with
  | .paying | .funded | .failed | .unknown => true
  | .offered | .candidate | .cancelled | .expired => false

/-- A kit that waits for a candidate or for its approval. -/
def isPending (kit : Kit) : Bool :=
  match kit.state with
  | .offered | .candidate => true
  | .paying | .funded | .failed | .unknown | .cancelled | .expired => false

/-- What holds of every kit that the operations have written. -/
structure Sound (kit : Kit) : Prop where
  gift : kit.giftMsat ≠ 0
  bounded : kit.giftMsat.toNat + kit.feeMsat.toNat ≤ maxKitMsat.toNat
  untouched : kit.isDispatched = false →
    kit.reservedMsat = 0 ∧ kit.settledAt = none ∧ kit.approvedAt = none ∧
      kit.freshPaymentHash = false
  settled : kit.settledAt ≠ none → kit.state = .funded ∧ kit.reservedMsat = 0
  unsettled : kit.settledAt = none → kit.feePaidMsat = 0
  failed : kit.state = .failed → kit.reservedMsat = 0
  held : kit.state = .funded →
    kit.settledAt = none →
      saturatingAdd kit.giftMsat kit.feeMsat ≤ kit.reservedMsat ∧ kit.paidMsat ≤ kit.reservedMsat

/-- The same gift for the same candidate, approved at the same time. -/
def SameTerms (first second : Kit) : Prop :=
  first.introId = second.introId ∧ first.giftMsat = second.giftMsat ∧
    first.feeMsat = second.feeMsat ∧ first.candidate = second.candidate ∧
    first.approvedAt = second.approvedAt

theorem SameTerms.symm {first second : Kit} (same : first.SameTerms second) :
    second.SameTerms first :=
  ⟨same.1.symm, same.2.1.symm, same.2.2.1.symm, same.2.2.2.1.symm, same.2.2.2.2.symm⟩

theorem SameTerms.trans {first second third : Kit} (same : first.SameTerms second)
    (next : second.SameTerms third) : first.SameTerms third :=
  ⟨same.1.trans next.1, same.2.1.trans next.2.1, same.2.2.1.trans next.2.2.1,
    same.2.2.2.1.trans next.2.2.2.1, same.2.2.2.2.trans next.2.2.2.2⟩

theorem isPending_of_state (state : kit.state = .offered ∨ kit.state = .candidate) :
    kit.isPending := by
  unfold isPending
  rcases state with same | same <;> rw [same]

theorem isDispatched_of_isPending (pending : kit.isPending) : kit.isDispatched = false := by
  unfold isPending at pending
  unfold isDispatched
  cases state : kit.state <;> simp [state] at pending ⊢

theorem isPending_of_isDispatched (sent : kit.isDispatched) : kit.isPending = false := by
  unfold isDispatched at sent
  unfold isPending
  cases state : kit.state <;> simp [state] at sent ⊢

theorem isPending_of_isFinal (isFinal : kit.isFinal) : kit.isPending = false := by
  unfold Kit.isFinal at isFinal
  unfold isPending
  cases state : kit.state <;> simp [state] at isFinal ⊢

theorem observe_eq_self (notPending : kit.isPending = false) (now) : kit.observe now = kit := by
  unfold observe
  rw [if_neg]
  rintro ⟨state, _⟩
  rw [isPending_of_state state] at notPending
  cases notPending

theorem observe_cases (kit : Kit) (now) : kit.observe now = kit ∨
      (kit.isPending ∧ kit.observe now = { kit with state := .expired }) := by
  unfold observe
  split
  · next expires => exact .inr ⟨isPending_of_state expires.1, rfl⟩
  · exact .inl rfl

@[simp] theorem observe_introId (kit : Kit) (now) : (kit.observe now).introId = kit.introId := by
  unfold observe
  split <;> rfl

theorem Sound.of_pending {changed : Kit} (sound : kit.Sound) (pending : kit.isPending)
    (notDispatched : changed.isDispatched = false)
    (same : changed = { kit with state := changed.state, candidate := changed.candidate }) :
    changed.Sound := by
  obtain ⟨reserved, settledAt, approvedAt, fresh⟩ :=
    sound.untouched (isDispatched_of_isPending pending)
  have unsettled := sound.unsettled settledAt
  have state : changed.state ≠ .funded ∧ changed.state ≠ .failed := by
    constructor <;> intro isState <;> simp [isDispatched, isState] at notDispatched
  rw [same]
  exact
    { sound with
      untouched := fun _ => ⟨reserved, settledAt, approvedAt, fresh⟩
      settled := fun isSettled => absurd settledAt isSettled
      unsettled := fun _ => unsettled
      failed := fun isFailed => absurd isFailed state.2
      held := fun isFunded => absurd isFunded state.1 }

theorem sound_observe (sound : kit.Sound) (now) : (kit.observe now).Sound := by
  rcases kit.observe_cases now with same | ⟨pending, expired⟩
  · rw [same]
    exact sound
  · rw [expired]
    exact sound.of_pending pending rfl rfl

theorem Sound.migrate_eq_self (sound : kit.Sound) : kit.migrate = kit := by
  unfold migrate
  split
  · next old =>
    obtain ⟨allowed, paid⟩ := sound.held old.1 old.2
    rw [sound.unsettled old.2, saturatingAdd_zero, u64_max_eq_left allowed,
      u64_max_eq_left paid, ← sound.unsettled old.2]
  · rfl

theorem Sound.claimed (sound : kit.Sound) (pending : kit.isPending) (now) :
    (kit.claimed now).Sound :=
  { sound with
    untouched := nofun
    settled := fun isSettled =>
      absurd (sound.untouched (isDispatched_of_isPending pending)).2.1 isSettled
    failed := nofun
    held := nofun }

/-- What the backend's answer must be for a reservation to be released. -/
def Releases (kit : Kit) (fromDispatch : Bool) : Except LightningError PaymentDetails → Prop
  | .ok details =>
    kit.isRecordOf details = true ∧
      ((details.status = .settled ∧ details.amountMsat = kit.giftMsat ∧
        ∃ fee, details.feeMsat = some fee ∧ fee ≤ kit.feeMsat) ∨
        ((details.status = .failed ∨ details.status = .expired) ∧
          (fromDispatch = true ∨ kit.freshPaymentHash = true)))
  | .error error => Payments.notDispatched error = true

/-- The possible outcomes of a record. -/
theorem recordOutcome_cases (kit : Kit) (result) (now fromDispatch) :
    kit.recordOutcome result now fromDispatch = kit ∨ kit.isFinal = false ∧
      ((∃ details, result = .ok details ∧ kit.isRecordOf details ∧
        details.status = .settled ∧ details.amountMsat = kit.giftMsat ∧
        kit.recordOutcome result now fromDispatch = kit.settle details now) ∨
        (kit.state ≠ .funded ∧ kit.Releases fromDispatch result ∧
          kit.recordOutcome result now fromDispatch = kit.fail) ∨ (kit.state ≠ .funded ∧
          kit.recordOutcome result now fromDispatch = { kit with state := .unknown })) := by
  cases isFinal : kit.isFinal with
  | true => exact .inl (by simp [recordOutcome, isFinal])
  | false =>
    have leaveOpen : kit.leaveOpen = kit ∨
      (kit.state ≠ .funded ∧ kit.leaveOpen = { kit with state := .unknown }) := by
      unfold leaveOpen
      split
      · exact .inl rfl
      · next notFunded => exact .inr ⟨notFunded, rfl⟩
    cases result with
    | ok details =>
      simp only [recordOutcome, isFinal, Bool.false_eq_true, if_false]
      split
      · next settled =>
        exact .inr ⟨trivial, .inl ⟨details, rfl, settled.1, settled.2.1, settled.2.2, rfl⟩⟩
      split
      · next failed =>
        exact .inr ⟨trivial, .inr
          (.inl ⟨failed.2.2.1, ⟨failed.1, .inr ⟨failed.2.1, failed.2.2.2⟩⟩, rfl⟩)⟩
      rcases leaveOpen with same | unknown
      · exact .inl same
      · exact .inr ⟨trivial, .inr (.inr unknown)⟩
    | error error =>
      have refused : Payments.notDispatched error →
        (if kit.state = .funded then kit else kit.fail) = kit ∨ (kit.state ≠ .funded ∧
          kit.Releases fromDispatch (.error error) ∧
          (if kit.state = .funded then kit else kit.fail) = kit.fail) := by
        intro notDispatched
        split
        · exact .inl rfl
        · next notFunded => exact .inr ⟨notFunded, notDispatched, rfl⟩
      cases error with
      | paymentNotDispatched | notReady =>
        simp only [recordOutcome, isFinal, Bool.false_eq_true, if_false]
        rcases refused rfl with same | failed
        · exact .inl same
        · exact .inr ⟨trivial, .inr (.inl failed)⟩
      | paymentNotFound | other =>
        simp only [recordOutcome, isFinal, Bool.false_eq_true, if_false]
        rcases leaveOpen with same | unknown
        · exact .inl same
        · exact .inr ⟨trivial, .inr (.inr unknown)⟩

theorem settle_cases (kit : Kit) (details : PaymentDetails) (now) :
    (∃ fee, details.feeMsat = some fee ∧ fee ≤ kit.feeMsat ∧ kit.settle details now =
      { kit with
        state := .funded, paidMsat := details.amountMsat, feePaidMsat := fee, reservedMsat := 0,
        settledAt := some (max now (kit.approvedAt.getD now)) }) ∨
      (∀ fee, details.feeMsat = some fee → ¬ fee ≤ kit.feeMsat) ∧ kit.settle details now =
        { kit with
          state := .funded
          paidMsat := details.amountMsat
          reservedMsat :=
            max (saturatingAdd kit.giftMsat kit.feeMsat) (saturatingAdd details.amountMsat
              (details.feeMsat.getD 0)) } := by
  unfold settle
  split
  · next fee known =>
    split
    · next within => exact .inl ⟨fee, known, within, rfl⟩
    next excessive =>
    refine .inr ⟨?_, rfl⟩
    intro _ same
    rw [known] at same
    cases same
    exact excessive
  · next missing =>
    refine .inr ⟨?_, rfl⟩
    intro fee known
    rw [missing] at known
    cases known

theorem Sound.settledAt_eq_none (sound : kit.Sound) (notFinal : kit.isFinal = false) :
    kit.settledAt = none := by
  by_contra settled
  obtain ⟨funded, reserved⟩ := sound.settled settled
  simp [isFinal, funded, reserved] at notFinal

theorem Sound.allowed_pos (sound : kit.Sound) : 0 < saturatingAdd kit.giftMsat kit.feeMsat := by
  have gift := UInt64.pos_iff_ne_zero.mpr sound.gift
  exact UInt64.lt_of_lt_of_le gift (le_saturatingAdd_left _ _)

theorem Sound.settle (sound : kit.Sound) (notFinal : kit.isFinal = false) (details)
    (now) : (kit.settle details now).Sound := by
  have unsettled := sound.settledAt_eq_none notFinal
  rcases kit.settle_cases details now with
    ⟨_, _, _, settled⟩ | ⟨_, held⟩
  · rw [settled]
    exact
      { sound with
        untouched := nofun
        settled := fun _ => ⟨rfl, rfl⟩
        unsettled := nofun
        failed := nofun
        held := nofun }
  · rw [held]
    refine
      { sound with
        untouched := nofun
        settled := fun isSettled => absurd unsettled isSettled
        unsettled := fun _ => sound.unsettled unsettled
        failed := nofun
        held := fun _ _ => ⟨le_u64_max_left _ _, ?paid⟩ }
    case paid => exact UInt64.le_trans (le_saturatingAdd_left _ _) (le_u64_max_right _ _)

/-- What a record keeps of a dispatched kit, and what a release proves. -/
structure Recorded (kit recorded : Kit) (result : Except LightningError PaymentDetails)
    (fromDispatch : Bool) : Prop where
  sound : recorded.Sound
  dispatched : recorded.isDispatched = true
  terms : recorded.SameTerms kit
  fresh : recorded.freshPaymentHash = kit.freshPaymentHash
  isFinal : kit.isFinal = true → recorded = kit
  releases : kit.reservedMsat ≠ 0 → recorded.reservedMsat = 0 → kit.Releases fromDispatch result

theorem recorded_recordOutcome (sound : kit.Sound) (dispatched : kit.isDispatched)
    (result now fromDispatch) :
    kit.Recorded (kit.recordOutcome result now fromDispatch) result fromDispatch := by
  rcases kit.recordOutcome_cases result now fromDispatch with
    same | ⟨notFinal, outcome⟩
  · rw [same]
    exact ⟨sound, dispatched, ⟨rfl, rfl, rfl, rfl, rfl⟩, rfl, fun _ => rfl,
      fun held released => absurd released held⟩
  have never : kit.isFinal → False := by simp [notFinal]
  have unsettled := sound.settledAt_eq_none notFinal
  rcases outcome with
    ⟨details, rfl, isRecord, status, amount, settled⟩ | ⟨_, releases, failed⟩ | ⟨_, unknown⟩
  · have soundAfter := sound.settle notFinal details now
    rw [settled]
    refine
      { sound := soundAfter
        dispatched := ?_
        terms := ?_
        fresh := ?_
        isFinal := fun isFinal => (never isFinal).elim
        releases := ?_ }
    all_goals
      rcases kit.settle_cases details now with
        ⟨fee, known, within, same⟩ | ⟨_, same⟩ <;> rw [same]
    · rfl
    · rfl
    · exact ⟨rfl, rfl, rfl, rfl, rfl⟩
    · exact ⟨rfl, rfl, rfl, rfl, rfl⟩
    · intro _ _
      exact ⟨isRecord, .inl ⟨status, amount, fee, known, within⟩⟩
    intro _ released
    -- An unknown fee holds at least the gift, which is not zero.
    have positive := UInt64.lt_of_lt_of_le sound.allowed_pos (le_u64_max_left _
      (saturatingAdd details.amountMsat (details.feeMsat.getD 0)))
    exact absurd released (UInt64.pos_iff_ne_zero.mp positive)
  · rw [failed]
    exact
      { sound :=
        { sound with
          untouched := nofun
          settled := fun isSettled => absurd unsettled isSettled
          failed := fun _ => rfl
          held := nofun }
        dispatched := rfl
        terms := ⟨rfl, rfl, rfl, rfl, rfl⟩
        fresh := rfl
        isFinal := fun isFinal => (never isFinal).elim
        releases := fun _ _ => releases }
  · rw [unknown]
    exact
      { sound :=
        { sound with
          untouched := nofun
          settled := fun isSettled => absurd unsettled isSettled
          failed := nofun
          held := nofun }
        dispatched := rfl
        terms := ⟨rfl, rfl, rfl, rfl, rfl⟩
        fresh := rfl
        isFinal := fun isFinal => (never isFinal).elim
        releases := fun held released => absurd released held }

end Kit

namespace Ledger

variable {ledger : Ledger} {introId : String} {kit : Kit}

theorem mem_of_mem_replaced (mem : kit ∈ left ++ changed :: right) :
    kit = changed ∨ kit ∈ left ++ old :: right := by
  rw [mem_append, mem_cons] at mem ⊢
  rcases mem with inLeft | same | inRight
  · exact .inr (.inl inLeft)
  · exact .inl same
  · exact .inr (.inr (.inr inRight))

theorem forall_mem_replaced {holds : Kit → Prop} (split : whole = left ++ old :: right)
    (others : ∀ kit ∈ whole, holds kit) (new : holds changed) :
    ∀ kit ∈ left ++ changed :: right, holds kit := by
  subst split
  intro kit mem
  rcases mem_of_mem_replaced mem with rfl | former
  · exact new
  · exact others kit former

/-- What holds of every ledger that the operations have written. -/
structure Sound (ledger : Ledger) : Prop where
  ids : (ledger.kits.map Kit.introId).Nodup
  kits : ∀ kit ∈ ledger.kits, kit.Sound

theorem Sound.load_eq_self (sound : ledger.Sound) : ledger.load = ledger := by
  have same : ledger.kits.map migrate = ledger.kits := by
    refine (map_congr_left fun kit mem => ?_).trans (map_id _)
    exact (sound.kits kit mem).migrate_eq_self
  unfold load
  rw [same]

theorem Sound.eq_of_introId (sound : ledger.Sound) (firstMem : first ∈ ledger.kits)
    (secondMem : second ∈ ledger.kits) (same : first.introId = second.introId) : first = second :=
  inj_on_of_nodup_map sound.ids firstMem secondMem same

theorem kit_eq_ok_iff_find : ledger.kit introId = .ok kit ↔
      ledger.kits.find? (fun kit => kit.introId = introId) = some kit := by
  unfold Ledger.kit
  split
  · next found => simp [found]
  · next missing => simp [missing]

theorem mem_of_kit_eq_ok (found : ledger.kit introId = .ok kit) :
    kit ∈ ledger.kits ∧ kit.introId = introId := by
  rw [kit_eq_ok_iff_find] at found
  exact ⟨mem_of_find?_eq_some found, by simpa using find?_some found⟩

theorem Sound.kit_eq_ok_iff (sound : ledger.Sound) :
    ledger.kit introId = .ok kit ↔ kit ∈ ledger.kits ∧ kit.introId = introId := by
  refine ⟨mem_of_kit_eq_ok, ?_⟩
  rintro ⟨mem, rfl⟩
  cases found : ledger.kit kit.introId with
  | ok =>
    obtain ⟨otherMem, same⟩ := mem_of_kit_eq_ok found
    rw [sound.eq_of_introId otherMem mem same]
  | error =>
    unfold Ledger.kit at found
    split at found
    · cases found
    next missing =>
    rw [find?_eq_none] at missing
    exact absurd (by simp) (missing kit mem)

theorem setKit_split (found : ledger.kit introId = .ok kit) :
    ∃ left right, ledger.kits = left ++ kit :: right ∧
      ∀ changed, (ledger.setKit introId changed).kits = left ++ changed :: right := by
  rw [kit_eq_ok_iff_find, find?_eq_some_iff_append] at found
  obtain ⟨isKit, left, right, kits, others⟩ := found
  refine ⟨left, right, kits, fun changed => ?_⟩
  unfold setKit
  simp only [kits]
  clear kits
  induction left with
  | nil =>
    have replaced : (if kit.introId = introId then some changed else none) = some changed := by
      simpa using isKit
    rw [nil_append, replaceF_cons_of_some _ replaced, nil_append]
  | cons old _ ih =>
    rw [cons_append, replaceF_cons_of_none, cons_append,
      ih fun other mem => others other (mem_cons_of_mem old mem)]
    simpa using others old mem_cons_self

end Ledger

/-- What a caller may do in its critical sections. -/
structure Licence where
  policy : SponsorPolicy
  /-- A kit can only be offered under an accepted policy. -/
  accepted : policy.enabled = true →
      policy.giftMsat ≠ 0 ∧
        policy.giftMsat.toNat + policy.feeMsat.toNat ≤ maxKitMsat.toNat ∧
        policy.purseMsat ≤ maxPurseMsat
  reports : PaymentDetails → Prop
  /-- The introductions this caller has issued. -/
  issued : String → Prop
  /-- The kits that nobody else has claimed. -/
  mine : String → Prop
  /-- The invoice of a kit is known to be fresh. -/
  proven : Kit → Prop
  /-- There is evidence for the release of a kit's reservation. -/
  evidence : Kit → Prop
  proven_congr : ∀ {first second : Kit}, first.SameTerms second → proven first → proven second
  evidence_congr : ∀ {first second : Kit}, first.SameTerms second → evidence first → evidence second

/-- The ways in which a kit changes. -/
inductive KitChange (licence : Licence) (ledger : Ledger) : Kit → Kit → Prop where
  | freeze {kit : Kit} (candidate : Candidate)
      (pending : kit.state = .offered ∨ kit.state = .candidate)
      (inTime : ledger.lastObservedTime < kit.expiresAt)
      (valid : ledger.lastObservedTime < candidate.expiresAt) :
      KitChange licence ledger kit { kit with state := .candidate, candidate := some candidate }
  | claim {kit : Kit} (enabled : licence.policy.enabled = true) (frozen : kit.state = .candidate)
    (room : ledger.checkRoom licence.policy
      (saturatingAdd kit.giftMsat kit.feeMsat)
      ledger.lastObservedTime = .ok ()) (inTime : ledger.lastObservedTime < kit.expiresAt) :
      KitChange licence ledger kit (kit.claimed ledger.lastObservedTime)
  | markFresh {kit : Kit} (paying : kit.state = .paying) (proven : licence.proven kit) :
      KitChange licence ledger kit { kit with freshPaymentHash := true }
  | record {kit : Kit} (result : Except LightningError PaymentDetails) (fromDispatch : Bool)
      (dispatched : kit.isDispatched = true)
      (reported : ∀ details, result = .ok details → licence.reports details)
      (evidence : kit.Releases fromDispatch result → licence.evidence kit) :
      KitChange licence ledger kit (kit.recordOutcome result ledger.lastObservedTime fromDispatch)
  | cancel {kit : Kit} (pending : kit.state = .offered ∨ kit.state = .candidate) :
      KitChange licence ledger kit { kit with state := .cancelled }

/-- The ways in which the ledger changes. -/
inductive LedgerStep (licence : Licence) : Ledger → Ledger → Prop where
  | observe (ledger : Ledger) (wallNow : UInt64) :
    LedgerStep licence ledger (ledger.observe wallNow)
  | push {ledger : Ledger} (introId : String) (expiresAt : UInt64)
    (checked : ledger.checkNewKit licence.policy ledger.lastObservedTime = .ok ())
    (inTime : ledger.lastObservedTime < expiresAt)
    (unused : ∀ kit ∈ ledger.kits, kit.introId ≠ introId) (issued : licence.issued introId) :
    LedgerStep licence ledger
      { ledger with
        kits := ledger.kits ++
          [offeredKit licence.policy introId expiresAt ledger.lastObservedTime] }
  | change {ledger : Ledger} {left right : List Kit} {kit changed : Kit}
    (split : ledger.kits = left ++ kit :: right) (mine : licence.mine kit.introId)
    (changes : KitChange licence ledger kit changed) :
    LedgerStep licence ledger { ledger with kits := left ++ changed :: right }

/-- The changes of one critical section. -/
abbrev LedgerPath (licence : Licence) : Ledger → Ledger → Prop :=
  Relation.ReflTransGen (LedgerStep licence)

namespace KitChange

variable {licence : Licence} {kit changed : Kit}

section

variable (sound : kit.Sound)
include sound

section

variable (changes : KitChange licence ledger kit changed)
include changes

theorem introId_eq : changed.introId = kit.introId := by
  cases changes with
  | freeze | claim | markFresh | cancel => rfl
  | record result fromDispatch sent =>
    exact (recorded_recordOutcome sound sent result _ fromDispatch).terms.1

theorem sound_changed : changed.Sound := by
  cases changes with
  | freeze _ pending => exact sound.of_pending (isPending_of_state pending) rfl rfl
  | claim _ frozen => exact sound.claimed (isPending_of_state (.inr frozen)) _
  | markFresh paying =>
    exact
      { sound with
        untouched := fun notDispatched => by
          simp [isDispatched, paying] at notDispatched }
  | record result fromDispatch sent =>
    exact (recorded_recordOutcome sound sent result _ fromDispatch).sound
  | cancel pending => exact sound.of_pending (isPending_of_state pending) rfl rfl

theorem dispatched_changed (sent : kit.isDispatched) :
    changed.isDispatched ∧ changed.SameTerms kit := by
  have notPending := isPending_of_isDispatched sent
  cases changes with
  | freeze _ pending | cancel pending =>
    rw [isPending_of_state pending] at notPending
    cases notPending
  | claim _ frozen =>
    rw [isPending_of_state (.inr frozen)] at notPending
    cases notPending
  | markFresh => exact ⟨sent, rfl, rfl, rfl, rfl, rfl⟩
  | record result fromDispatch =>
    have recorded := recorded_recordOutcome sound sent result ledger.lastObservedTime fromDispatch
    exact ⟨recorded.dispatched, recorded.terms⟩

theorem eq_of_isFinal (isFinal : kit.isFinal) : changed = kit := by
  have notPending := isPending_of_isFinal isFinal
  cases changes with
  | freeze _ pending | cancel pending =>
    rw [isPending_of_state pending] at notPending
    cases notPending
  | claim _ frozen =>
    rw [isPending_of_state (.inr frozen)] at notPending
    cases notPending
  | markFresh paying => simp [Kit.isFinal, paying] at isFinal
  | record result fromDispatch sent =>
    exact (recorded_recordOutcome sound sent result _ fromDispatch).isFinal isFinal

theorem fresh_changed (fresh : changed.freshPaymentHash) :
    changed.SameTerms kit ∧ (kit.freshPaymentHash ∨ licence.proven kit) := by
  have stale : kit.isPending → kit.freshPaymentHash = false := fun pending =>
    (sound.untouched (isDispatched_of_isPending pending)).2.2.2
  cases changes with
  | freeze _ pending | cancel pending =>
    have notFresh := stale (isPending_of_state pending)
    simp [notFresh] at fresh
  | claim _ frozen =>
    have notFresh := stale (isPending_of_state (.inr frozen))
    simp [claimed, notFresh] at fresh
  | markFresh _ proven => exact ⟨⟨rfl, rfl, rfl, rfl, rfl⟩, .inr proven⟩
  | record result fromDispatch sent =>
    have recorded := recorded_recordOutcome sound sent result ledger.lastObservedTime fromDispatch
    exact ⟨recorded.terms, .inl (recorded.fresh ▸ fresh)⟩

end

end

end KitChange

/-- What the changes of a critical section keep. -/
structure Ledger.Advances (licence : Licence) (before after : Ledger) : Prop where
  sound : after.Sound
  time : before.lastObservedTime ≤ after.lastObservedTime
  isFinal : ∀ kit ∈ before.kits, kit.isFinal = true → kit ∈ after.kits
  dispatched : ∀ kit ∈ before.kits,
    kit.isDispatched = true → ∃ later ∈ after.kits, later.isDispatched = true ∧ later.SameTerms kit
  kept : ∀ kit ∈ before.kits,
    kit.isDispatched = true → ¬ licence.mine kit.introId → kit ∈ after.kits
  former : ∀ later ∈ after.kits,
    (∃ kit ∈ before.kits, kit.introId = later.introId) ∨ licence.issued later.introId
  released : ∀ kit ∈ before.kits,
    ∀ later ∈ after.kits,
      later.introId = kit.introId →
        kit.reservedMsat ≠ 0 → later.reservedMsat = 0 → licence.evidence kit
  fresh : ∀ later ∈ after.kits,
    later.freshPaymentHash = true →
      (∃ kit ∈ before.kits,
        later.SameTerms kit ∧ kit.freshPaymentHash = true) ∨
        licence.proven later

namespace Ledger

variable {licence : Licence} {ledger : Ledger} {kit : Kit}

theorem Sound.dispatched_of_held (sound : ledger.Sound) (mem : kit ∈ ledger.kits)
    (held : kit.reservedMsat ≠ 0) : kit.isDispatched := by
  by_contra notDispatched
  exact held ((sound.kits kit mem).untouched (by simpa using notDispatched)).1

theorem Sound.advances_refl (sound : ledger.Sound) : Advances licence ledger ledger where
  sound
  time := UInt64.le_refl _
  isFinal _ member _ := member
  dispatched kit member dispatched := ⟨kit, member, dispatched, rfl, rfl, rfl, rfl, rfl⟩
  kept _ member _ _ := member
  former later member := .inl ⟨later, member, rfl⟩
  released kit member later laterMember same held released := by
    rw [sound.eq_of_introId laterMember member same] at released
    exact absurd released held
  fresh later member fresh := .inl ⟨later, member, ⟨rfl, rfl, rfl, rfl, rfl⟩, fresh⟩

theorem Advances.trans {first second third : Ledger} (sound : first.Sound)
    (prior : Advances licence first second) (later : Advances licence second third) :
    Advances licence first third where
  sound := later.sound
  time := UInt64.le_trans prior.time later.time
  isFinal kit member isFinal := later.isFinal kit (prior.isFinal kit member isFinal) isFinal
  dispatched kit member dispatched := by
    obtain ⟨middle, middleMem, middleDispatched, terms⟩ := prior.dispatched kit member dispatched
    obtain ⟨last, lastMember, lastDispatched, lastTerms⟩ :=
      later.dispatched middle middleMem middleDispatched
    exact ⟨last, lastMember, lastDispatched, lastTerms.trans terms⟩
  kept kit member dispatched notMine :=
    later.kept kit (prior.kept kit member dispatched notMine) dispatched notMine
  former last lastMember := by
    rcases later.former last lastMember with ⟨middle, member, same⟩ | issued
    · rcases prior.former middle member with ⟨kit, kitMem, former⟩ | issued
      · exact .inl ⟨kit, kitMem, former.trans same⟩
      · exact .inr (same ▸ issued)
    · exact .inr issued
  released kit member last lastMember same held released := by
    obtain ⟨middle, middleMem, _, terms⟩ :=
      prior.dispatched kit member (sound.dispatched_of_held member held)
    by_cases middleHeld : middle.reservedMsat = 0
    · exact prior.released kit member middle middleMem terms.1 held middleHeld
    · exact licence.evidence_congr terms (later.released middle middleMem last lastMember
        (same.trans terms.1.symm) middleHeld released)
  fresh last lastMember fresh := by
    rcases later.fresh last lastMember fresh with
      ⟨middle, middleMem, terms, middleFresh⟩ | proven
    · rcases prior.fresh middle middleMem middleFresh with
      ⟨kit, member, former, kitFresh⟩ | proven
      · exact .inl ⟨kit, member, terms.trans former, kitFresh⟩
      · exact .inr (licence.proven_congr terms.symm proven)
    · exact .inr proven

/-- A look at the clock changes only pending kits. -/
theorem Sound.advances_observe (sound : ledger.Sound) (wallNow) :
    Advances licence ledger (ledger.observe wallNow) := by
  have unchanged : ∀ kit ∈ ledger.kits,
    kit.isPending = false → kit ∈ (ledger.observe wallNow).kits :=
    fun kit mem notPending => mem_map.mpr ⟨kit, mem, observe_eq_self notPending _⟩
  have soundAfter : (ledger.observe wallNow).Sound := by
    refine ⟨?ids, ?kits⟩
    case ids => simpa [observe, Function.comp_def] using sound.ids
    case kits =>
      intro _ mem
      obtain ⟨kit, kitMem, rfl⟩ := mem_map.mp mem
      exact sound_observe (sound.kits kit kitMem) _
  refine
    { sound := soundAfter
      time := le_u64_max_left _ _
      isFinal := fun kit mem isFinal =>
        unchanged kit mem (isPending_of_isFinal isFinal)
      dispatched := fun kit mem dispatched =>
        ⟨kit, unchanged kit mem (isPending_of_isDispatched dispatched),
          dispatched, rfl, rfl, rfl, rfl, rfl⟩
      kept := fun kit mem dispatched _ =>
        unchanged kit mem (isPending_of_isDispatched dispatched)
      former := ?former
      released := ?released
      fresh := ?fresh }
  case former =>
    intro _ mem
    obtain ⟨kit, kitMem, rfl⟩ := mem_map.mp mem
    exact .inl ⟨kit, kitMem, (observe_introId _ _).symm⟩
  case released =>
    intro kit mem _ laterMem same held released
    have still := unchanged kit mem (isPending_of_isDispatched (sound.dispatched_of_held mem held))
    rw [soundAfter.eq_of_introId laterMem still same] at released
    exact absurd released held
  case fresh =>
    intro _ mem fresh
    obtain ⟨kit, kitMem, rfl⟩ := mem_map.mp mem
    rcases kit.observe_cases (max ledger.lastObservedTime wallNow) with
      same | ⟨_, expired⟩
    · rw [same] at fresh ⊢
      exact .inl ⟨kit, kitMem, ⟨rfl, rfl, rfl, rfl, rfl⟩, fresh⟩
    · rw [expired] at fresh ⊢
      exact .inl ⟨kit, kitMem, ⟨rfl, rfl, rfl, rfl, rfl⟩, fresh⟩

/-- A new kit leaves all others alone. -/
theorem Sound.advances_push (sound : ledger.Sound) (kitSound : kit.Sound)
    (stale : kit.freshPaymentHash = false)
    (unused : ∀ other ∈ ledger.kits, other.introId ≠ kit.introId)
    (issued : licence.issued kit.introId) :
    Advances licence ledger { ledger with kits := ledger.kits ++ [kit] } := by
  have kept : ∀ other ∈ ledger.kits, other ∈ ledger.kits ++ [kit] :=
    fun other mem => mem_append_left _ mem
  have split : ∀ later ∈ ledger.kits ++ [kit], later ∈ ledger.kits ∨ later = kit := by
    intro later mem
    simpa using mem
  have soundAfter : ({ ledger with kits := ledger.kits ++ [kit] } : Ledger).Sound := by
    refine ⟨?ids, ?kits⟩
    case ids =>
      rw [map_append, map_singleton, nodup_append_comm, singleton_append, nodup_cons]
      refine ⟨?_, sound.ids⟩
      intro mem
      obtain ⟨other, otherMem, same⟩ := mem_map.mp mem
      exact unused other otherMem same
    case kits =>
      intro later mem
      rcases split later mem with former | rfl
      · exact sound.kits later former
      · exact kitSound
  refine
    { sound := soundAfter
      time := UInt64.le_refl _
      isFinal := fun other mem _ => kept other mem
      dispatched := fun other mem dispatched =>
        ⟨other, kept other mem, dispatched, rfl, rfl, rfl, rfl, rfl⟩
      kept := fun other mem _ _ => kept other mem
      former := ?former
      released := ?released
      fresh := ?fresh }
  case former =>
    intro later mem
    rcases split later mem with former | rfl
    · exact .inl ⟨later, former, rfl⟩
    · exact .inr issued
  case released =>
    intro other mem later laterMem same held released
    rw [soundAfter.eq_of_introId laterMem (kept other mem) same] at released
    exact absurd released held
  case fresh =>
    intro later mem fresh
    rcases split later mem with former | rfl
    · exact .inl ⟨later, former, ⟨rfl, rfl, rfl, rfl, rfl⟩, fresh⟩
    · rw [stale] at fresh
      cases fresh

/-- The change of one kit leaves all others alone. -/
theorem Sound.advances_change (sound : ledger.Sound) {left right : List Kit} {changed : Kit}
    (split : ledger.kits = left ++ kit :: right) (mine : licence.mine kit.introId)
    (changes : KitChange licence ledger kit changed) :
    Advances licence ledger { ledger with kits := left ++ changed :: right } := by
  have mem : kit ∈ ledger.kits := by simp [split]
  have kitSound := sound.kits kit mem
  have sameId := changes.introId_eq kitSound
  have kept : ∀ other ∈ ledger.kits, other ≠ kit → other ∈ left ++ changed :: right := by
    intro other otherMem ne
    rw [split] at otherMem
    exact (mem_of_mem_replaced otherMem).resolve_left ne
  have present : changed ∈ left ++ changed :: right := by simp
  have soundAfter : ({ ledger with kits := left ++ changed :: right } : Ledger).Sound := by
    refine ⟨?ids, ?kits⟩
    case ids =>
      have ids := sound.ids
      rw [split] at ids
      simpa [sameId] using ids
    case kits => exact forall_mem_replaced split sound.kits (changes.sound_changed kitSound)
  refine
    { sound := soundAfter
      time := UInt64.le_refl _
      isFinal := ?isFinal
      dispatched := ?dispatched
      kept := ?kept
      former := ?former
      released := ?released
      fresh := ?fresh }
  case isFinal =>
    intro other otherMem isFinal
    obtain rfl | ne := eq_or_ne other kit
    · rw [changes.eq_of_isFinal kitSound isFinal] at present ⊢
      exact present
    · exact kept other otherMem ne
  case dispatched =>
    intro other otherMem dispatched
    obtain rfl | ne := eq_or_ne other kit
    · exact ⟨changed, present, changes.dispatched_changed kitSound dispatched⟩
    · exact ⟨other, kept other otherMem ne, dispatched, rfl, rfl, rfl, rfl, rfl⟩
  case kept =>
    intro other otherMem _ notMine
    refine kept other otherMem ?_
    rintro rfl
    exact notMine mine
  case former =>
    refine forall_mem_replaced split ?_ (.inl ⟨kit, mem, sameId.symm⟩)
    exact fun later old => .inl ⟨later, old, rfl⟩
  case released =>
    intro other otherMem later laterMem same held released
    obtain rfl | ne := eq_or_ne other kit
    · have isChanged := soundAfter.eq_of_introId laterMem present (same.trans sameId.symm)
      rw [isChanged] at released
      cases changes with
      | freeze | cancel | markFresh => exact absurd released held
      | claim => exact absurd released (UInt64.pos_iff_ne_zero.mp kitSound.allowed_pos)
      | record result fromDispatch sent _ evidence =>
        exact evidence ((recorded_recordOutcome kitSound sent result _
          fromDispatch).releases held released)
    have isOther := soundAfter.eq_of_introId laterMem (kept other otherMem ne) same
    rw [isOther] at released
    exact absurd released held
  case fresh =>
    refine forall_mem_replaced split ?_ ?_
    · exact fun later old fresh => .inl ⟨later, old, ⟨rfl, rfl, rfl, rfl, rfl⟩, fresh⟩
    intro fresh
    obtain ⟨terms, wasFresh | proven⟩ := changes.fresh_changed kitSound fresh
    · exact .inl ⟨kit, mem, terms, wasFresh⟩
    · exact .inr (licence.proven_congr terms.symm proven)

end Ledger

variable {policy : SponsorPolicy}

theorem sound_offeredKit (gift : policy.giftMsat ≠ 0)
    (bounded : policy.giftMsat.toNat + policy.feeMsat.toNat ≤ maxKitMsat.toNat) (introId)
    (expiresAt now) : (offeredKit policy introId expiresAt now).Sound where
  gift
  bounded
  untouched _ := ⟨rfl, rfl, rfl, rfl⟩
  settled := fun isSettled => absurd rfl isSettled
  unsettled _ := rfl
  failed := nofun
  held := nofun

variable {before after : Ledger}

theorem LedgerStep.advances (sound : before.Sound) (step : LedgerStep licence before after) :
    Ledger.Advances licence before after := by
  cases step with
  | observe wallNow => exact sound.advances_observe wallNow
  | push _ _ checked _ unused issued =>
    unfold Ledger.checkNewKit at checked
    split at checked
    · cases checked
    next enabled =>
    have accepted := licence.accepted (by simpa using enabled)
    exact sound.advances_push (sound_offeredKit accepted.1 accepted.2.1 _ _ _) rfl unused issued
  | change split mine changes => exact sound.advances_change split mine changes

theorem LedgerPath.advances (sound : before.Sound) (path : LedgerPath licence before after) :
    Ledger.Advances licence before after := by
  induction path with
  | refl => exact sound.advances_refl
  | tail _ step ih => exact ih.trans sound (step.advances ih.sound)

end BitSov.Sponsor
