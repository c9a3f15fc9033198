import BitSov.Sponsor.Payouts

namespace BitSov.Sponsor

open Core Outbox Arithmetic Process Kit List World Machine

/-!
# The rolling purse

The limits are checked when a kit is offered and when it is approved.  They
hold at every instant in between: what a kit holds against the purse never
grows after its approval, time only lets approvals and charges fall out of the
last day, and a kit that is not open is never open again.
-/

namespace Kit

variable {kit : Kit}

def allowed (kit : Kit) : UInt64 :=
  saturatingAdd kit.giftMsat kit.feeMsat

/-- What a kit has taken of its allowance. -/
structure Metered (kit : Kit) : Prop where
  held : kit.isDispatched = true → kit.isFinal = false → kit.reservedMsat = kit.allowed
  settled : kit.state = .funded →
    kit.reservedMsat = 0 → saturatingAdd kit.paidMsat kit.feePaidMsat ≤ kit.allowed

/-- Whether a kit was approved in the day that starts at a time. -/
def approvedIn (start : Nat) (kit : Kit) : Bool :=
  kit.approvedAt.any fun at_ => start ≤ at_.toNat ∧ at_.toNat < start + daySecs.toNat

theorem charge_of_not_dispatched (notDispatched : kit.isDispatched = false) (now) :
    kit.charge now = 0 := by
  unfold isDispatched at notDispatched
  unfold charge
  cases state : kit.state <;> simp [state] at notDispatched ⊢

theorem charge_of_not_final (sent : kit.isDispatched) (notFinal : kit.isFinal = false)
    (now) : kit.charge now = kit.reservedMsat := by
  unfold isDispatched at sent
  unfold isFinal at notFinal
  unfold charge
  cases state : kit.state <;> simp [state] at sent notFinal ⊢
  intro released
  exact absurd released notFinal

theorem isOpen_of_not_final (sent : kit.isDispatched) (notFinal : kit.isFinal = false)
    (now) : kit.isOpen now := by
  unfold isDispatched at sent
  unfold isFinal at notFinal
  unfold isOpen
  cases state : kit.state <;> simp [state] at sent notFinal ⊢
  exact UInt64.pos_iff_ne_zero.mpr notFinal

theorem Metered.charge_le (metered : kit.Metered) (now) : kit.charge now ≤ kit.allowed := by
  cases sent : kit.isDispatched with
  | false =>
    rw [charge_of_not_dispatched sent]
    exact UInt64.zero_le
  | true =>
    cases isFinal : kit.isFinal with
    | false =>
      rw [charge_of_not_final sent isFinal, metered.held sent isFinal]
      exact UInt64.le_refl _
    | true =>
      unfold Kit.charge
      cases state : kit.state <;>
        simp only [Kit.isFinal, state, decide_eq_true_eq, Bool.false_eq_true] at isFinal ⊢
      case funded =>
        rw [if_neg (by rw [isFinal]; decide)]
        split
        · exact metered.settled state isFinal
        · exact UInt64.zero_le
      all_goals exact UInt64.zero_le

theorem charge_observe_le (kit : Kit) (passed : earlier ≤ later) :
    (kit.observe later).charge later ≤ kit.charge earlier := by
  rcases kit.observe_cases later with same | ⟨_, expired⟩
  · rw [same]
    unfold charge
    cases kit.state with
    | paying | unknown => exact UInt64.le_refl _
    | funded =>
      simp only
      split
      · exact UInt64.le_refl _
      split
      · next within =>
        rw [Option.any_eq_true] at within
        obtain ⟨_, isTime, inDay⟩ := within
        rw [if_pos]
        · exact UInt64.le_refl _
        · rw [isTime, Option.any_some]
          unfold within24h at inDay ⊢
          simp only [decide_eq_true_eq] at inDay ⊢
          exact UInt64.lt_of_le_of_lt passed inDay
      · exact UInt64.zero_le
    | offered | candidate | failed | cancelled | expired => exact UInt64.le_refl _
  · rw [expired]
    exact UInt64.zero_le

theorem isOpen_of_observe (passed : earlier ≤ later)
    (isOpen : (kit.observe later).isOpen later) : kit.isOpen earlier := by
  rcases kit.observe_cases later with same | ⟨_, expired⟩
  · rw [same] at isOpen
    unfold Kit.isOpen at isOpen ⊢
    cases state : kit.state <;> simp [state] at isOpen ⊢
    · exact UInt64.lt_of_le_of_lt passed isOpen
    · exact UInt64.lt_of_le_of_lt passed isOpen
    · exact isOpen
  · rw [expired] at isOpen
    cases isOpen

theorem approvedAt_observe (kit : Kit) (now) : (kit.observe now).approvedAt = kit.approvedAt := by
  unfold observe
  split <;> rfl

theorem metered_observe (metered : kit.Metered) (now) : (kit.observe now).Metered := by
  rcases kit.observe_cases now with same | ⟨_, expired⟩
  · rw [same]
    exact metered
  rw [expired]
  constructor
  · exact nofun
  · intro funded
    cases funded

end Kit

/-- A settled payment has not cost more than its fee limit. -/
def FeeWithin (limit : UInt64) (details : PaymentDetails) : Prop :=
  details.direction = .outgoing →
    details.status = .settled → ∀ fee, details.feeMsat = some fee → fee ≤ limit

namespace Kit

/-- A record within the fee limit keeps a kit metered. -/
theorem Metered.recordOutcome {kit : Kit} (sound : kit.Sound) (metered : kit.Metered)
    (sent : kit.isDispatched) {result : Except LightningError PaymentDetails}
    (reported : ∀ details, result = .ok details → FeeWithin kit.feeMsat details) (now)
    (fromDispatch) : (kit.recordOutcome result now fromDispatch).Metered := by
  rcases kit.recordOutcome_cases result now fromDispatch with
    same | ⟨notFinal, outcome⟩
  · rw [same]
    exact metered
  have held := metered.held sent notFinal
  rcases outcome with
    ⟨details, rfl, isRecord, status, amount, settled⟩ | ⟨_, _, failed⟩ | ⟨_, unknown⟩
  · rw [settled]
    simp only [isRecordOf, Bool.and_eq_true, decide_eq_true_eq] at isRecord
    have limited := reported details rfl isRecord.1 status
    rcases kit.settle_cases details now with
      ⟨fee, known, within, same⟩ | ⟨excessive, same⟩
    · rw [same]
      constructor
      · rintro _ ⟨⟩
      intro _ _
      change saturatingAdd details.amountMsat fee ≤ saturatingAdd kit.giftMsat kit.feeMsat
      rw [amount]
      exact saturatingAdd_le_saturatingAdd (UInt64.le_refl _) within
    · -- A fee within the limit is never excessive, so it was missing.
      have missing : details.feeMsat = none := by
        cases known : details.feeMsat with
        | none => rfl
        | some fee => exact absurd (limited fee known) (excessive fee known)
      have reserved : max (saturatingAdd kit.giftMsat kit.feeMsat)
        (saturatingAdd details.amountMsat (details.feeMsat.getD 0)) =
        kit.allowed := by
        rw [missing, Option.getD_none, saturatingAdd_zero, amount]
        exact u64_max_eq_left (le_saturatingAdd_left _ _)
      rw [same, reserved]
      refine ⟨fun _ _ => rfl, ?_⟩
      intro _ released
      exact absurd released (UInt64.pos_iff_ne_zero.mp sound.allowed_pos)
  · rw [failed]
    constructor
    · rintro _ ⟨⟩
    · intro funded
      cases funded
  · rw [unknown]
    refine ⟨fun _ _ => held, ?_⟩
    rintro ⟨⟩

end Kit

namespace Ledger

variable {policy : SponsorPolicy} {ledger : Ledger} {now : UInt64} {kit : Kit}

/-- What all kits hold against the purse. -/
def spent (kits : List Kit) (now : UInt64) : Nat :=
  (kits.map fun kit => (kit.charge now).toNat).sum

theorem spent_append (left right now) :
    spent (left ++ right) now = spent left now + spent right now := by
  simp [spent]

theorem spent_cons (kit rest now) :
    spent (kit :: rest) now = (kit.charge now).toNat + spent rest now := by
  simp [spent]

theorem toNat_foldl_charge (kits : List Kit) (now used) :
    (kits.foldl (fun used kit => saturatingAdd used (kit.charge now)) used).toNat =
      min (used.toNat + spent kits now) u64Max := by
  induction kits generalizing used with
  | nil =>
    have bound := toNat_le_u64Max used
    simp only [foldl_nil, spent, map_nil, sum_nil]
    omega
  | cons _ _ ih =>
    rw [foldl_cons, ih, toNat_saturatingAdd_eq_min, spent_cons]
    omega

theorem toNat_purseUsed (ledger : Ledger) : (ledger.purseUsed ledger.lastObservedTime).toNat =
      min (spent ledger.kits ledger.lastObservedTime) u64Max := by
  unfold purseUsed
  rw [u64_max_self, toNat_foldl_charge]
  simp

/-- What holds of the limits at every instant. -/
structure Bounded (policy : SponsorPolicy) (ledger : Ledger) : Prop where
  terms : ∀ kit ∈ ledger.kits, kit.giftMsat = policy.giftMsat ∧ kit.feeMsat = policy.feeMsat
  metered : ∀ kit ∈ ledger.kits, kit.Metered
  approved : ∀ kit ∈ ledger.kits, ∀ at_, kit.approvedAt = some at_ → at_ ≤ ledger.lastObservedTime
  purse : spent ledger.kits ledger.lastObservedTime ≤ policy.purseMsat.toNat
  days : ∀ start, ledger.kits.countP (Kit.approvedIn start) ≤ policy.kitsPerDay.toNat
  openKits : ledger.kits.countP (fun kit => kit.isOpen ledger.lastObservedTime) ≤
    maxActiveKits.toNat

theorem bounded_empty (policy) : empty.Bounded policy where
  terms := by rintro _ ⟨⟩
  metered := by rintro _ ⟨⟩
  approved := by rintro _ ⟨⟩
  purse := Nat.zero_le _
  days _ := Nat.zero_le _
  openKits := Nat.zero_le _

theorem Bounded.observe (bounded : ledger.Bounded policy) (wallNow) :
    (ledger.observe wallNow).Bounded policy := by
  have passed : ledger.lastObservedTime ≤ max ledger.lastObservedTime wallNow := le_u64_max_left _ _
  refine ⟨?terms, ?metered, ?approved, ?purse, ?days, ?openKits⟩
  case terms =>
    intro _ mem
    obtain ⟨kit, kitMem, rfl⟩ := mem_map.mp mem
    unfold Kit.observe
    split <;> exact bounded.terms kit kitMem
  case metered =>
    intro _ mem
    obtain ⟨kit, kitMem, rfl⟩ := mem_map.mp mem
    exact metered_observe (bounded.metered kit kitMem) _
  case approved =>
    intro _ mem at_ approvedAt
    obtain ⟨kit, kitMem, rfl⟩ := mem_map.mp mem
    rw [approvedAt_observe] at approvedAt
    exact UInt64.le_trans (bounded.approved kit kitMem at_ approvedAt) passed
  case purse =>
    refine le_trans ?_ bounded.purse
    simp only [spent, Ledger.observe, map_map]
    refine sum_le_sum fun kit _ => ?_
    exact UInt64.le_iff_toNat_le.mp (kit.charge_observe_le passed)
  case days =>
    intro start
    simp only [Ledger.observe, countP_map, Function.comp_def, approvedIn, approvedAt_observe]
    exact bounded.days start
  case openKits =>
    refine le_trans ?_ bounded.openKits
    simp only [Ledger.observe, countP_map]
    refine countP_mono_left fun kit _ isOpen => ?_
    exact isOpen_of_observe passed isOpen

/-- A kit is offered only while none is open. -/
theorem Bounded.push (bounded : ledger.Bounded policy)
    (checked : ledger.checkNewKit policy ledger.lastObservedTime = .ok ()) (introId : String)
    (expiresAt : UInt64) :
    ({ ledger with
      kits := ledger.kits ++ [offeredKit policy introId expiresAt ledger.lastObservedTime] } :
      Ledger).Bounded policy := by
  have noneOpen : ledger.kits.countP (fun kit => kit.isOpen ledger.lastObservedTime) = 0 := by
    unfold checkNewKit at checked
    split at checked
    · cases checked
    split at checked
    · cases checked
    next few =>
    have atMostOne := bounded.openKits
    rw [ge_iff_le, UInt32.not_le, UInt32.lt_iff_toNat_lt] at few
    simp only [active, u64_max_self, UInt32.toNat_ofNat'] at few
    have one : maxActiveKits.toNat = 1 := rfl
    rw [one] at few atMostOne
    omega
  refine ⟨?terms, ?metered, ?approved, ?purse, ?days, ?openKits⟩
  case terms =>
    intro kit mem
    rcases mem_append.mp mem with old | new
    · exact bounded.terms kit old
    · rw [mem_singleton.mp new]
      exact ⟨rfl, rfl⟩
  case metered =>
    intro kit mem
    rcases mem_append.mp mem with old | new
    · exact bounded.metered kit old
    rw [mem_singleton.mp new]
    constructor
    · exact nofun
    · intro funded
      cases funded
  case approved =>
    intro kit mem at_ approvedAt
    rcases mem_append.mp mem with old | new
    · exact bounded.approved kit old at_ approvedAt
    · rw [mem_singleton.mp new] at approvedAt
      cases approvedAt
  case purse =>
    rw [spent_append, spent_cons, charge_of_not_dispatched rfl]
    simpa [spent] using bounded.purse
  case days =>
    intro start
    simpa [countP_append, approvedIn, offeredKit] using bounded.days start
  case openKits =>
    rw [countP_append, noneOpen, Nat.zero_add]
    exact countP_le_length

variable {changed : Kit}

/-- A change that does not charge, approve or open keeps the limits. -/
theorem Bounded.replace (bounded : ledger.Bounded policy)
    (split : ledger.kits = left ++ kit :: right)
    (terms : changed.giftMsat = kit.giftMsat ∧ changed.feeMsat = kit.feeMsat)
    (metered : changed.Metered) (approvedAt : changed.approvedAt = kit.approvedAt)
    (charge : changed.charge ledger.lastObservedTime ≤ kit.charge ledger.lastObservedTime)
    (opened : changed.isOpen ledger.lastObservedTime → kit.isOpen ledger.lastObservedTime) :
    ({ ledger with kits := left ++ changed :: right } : Ledger).Bounded policy := by
  have mem : kit ∈ ledger.kits := by simp [split]
  refine ⟨?terms, ?metered, ?approved, ?purse, ?days, ?openKits⟩
  case terms =>
    refine forall_mem_replaced split bounded.terms ?_
    rw [terms.1, terms.2]
    exact bounded.terms kit mem
  case metered => exact forall_mem_replaced split bounded.metered metered
  case approved =>
    refine forall_mem_replaced split bounded.approved ?_
    rw [approvedAt]
    exact bounded.approved kit mem
  case purse =>
    have before := bounded.purse
    rw [split, spent_append, spent_cons] at before
    rw [spent_append, spent_cons]
    have less := UInt64.le_iff_toNat_le.mp charge
    simp only
    omega
  case days =>
    intro start
    have before := bounded.days start
    rw [split, countP_append, countP_cons] at before
    rw [countP_append, countP_cons]
    have same : changed.approvedIn start = kit.approvedIn start := by
      simp only [approvedIn, approvedAt]
    rw [same]
    exact before
  case openKits =>
    have before := bounded.openKits
    rw [split, countP_append, countP_cons] at before
    rw [countP_append, countP_cons]
    refine le_trans ?_ before
    gcongr
    by_cases isOpen : changed.isOpen ledger.lastObservedTime
    · rw [if_pos isOpen, if_pos (opened isOpen)]
    · rw [if_neg isOpen]
      exact Nat.zero_le _

theorem room_of_checkRoom (room : ledger.checkRoom policy kitMsat now = .ok ()) :
    ledger.kitsToday now < policy.kitsPerDay ∧
      saturatingAdd (ledger.purseUsed now) kitMsat ≤ policy.purseMsat := by
  unfold checkRoom at room
  split at room
  · cases room
  next today =>
  split at room
  · cases room
  · next purse => exact ⟨UInt32.not_le.mp today, UInt64.not_lt.mp purse⟩

theorem inDay_iff (approvedAt : kit.approvedAt = some at_)
    (before : now.toNat < u64Max) : kit.inDay now ↔ now.toNat < at_.toNat + daySecs.toNat := by
  unfold inDay within24h
  rw [approvedAt, Option.any_some, decide_eq_true_eq, gt_iff_lt, UInt64.lt_iff_toNat_lt,
    toNat_saturatingAdd_eq_min]
  omega

variable {start : Nat}

theorem approvedIn_of_inDay (past : ∀ at_, kit.approvedAt = some at_ → at_ ≤ now)
    (before : now.toNat < u64Max) (within : now.toNat < start + daySecs.toNat)
    (latest : start = 0 ∨ start + daySecs.toNat = now.toNat + 1) (inDay : kit.inDay now) :
    kit.approvedIn start := by
  cases approvedAt : kit.approvedAt with
  | none => simp [Kit.inDay, approvedAt] at inDay
  | some at_ =>
    rw [inDay_iff approvedAt before] at inDay
    have notAfter := UInt64.le_iff_toNat_le.mp (past at_ approvedAt)
    simp only [Kit.approvedIn, approvedAt, Option.any_some, decide_eq_true_eq]
    omega

theorem inDay_of_approvedIn (before : now.toNat < u64Max)
    (within : now.toNat < start + daySecs.toNat) (approved : kit.approvedIn start) :
    kit.inDay now := by
  cases approvedAt : kit.approvedAt with
  | none => simp [approvedIn, approvedAt] at approved
  | some =>
    simp only [approvedIn, approvedAt, Option.any_some, decide_eq_true_eq] at approved
    rw [inDay_iff approvedAt before]
    omega

theorem Bounded.countP_inDay_lt (bounded : ledger.Bounded policy)
    (before : ledger.lastObservedTime.toNat < u64Max)
    (today : ledger.kitsToday ledger.lastObservedTime < policy.kitsPerDay) :
    ledger.kits.countP (fun kit => kit.inDay ledger.lastObservedTime) <
      policy.kitsPerDay.toNat := by
  have window : ∃ start, ledger.lastObservedTime.toNat < start + daySecs.toNat ∧
    (start = 0 ∨ start + daySecs.toNat = ledger.lastObservedTime.toNat + 1) := by
    by_cases early : ledger.lastObservedTime.toNat < daySecs.toNat
    · exact ⟨0, by omega, .inl rfl⟩
    · obtain ⟨start, _⟩ := Nat.exists_eq_add_of_le (Nat.le_of_not_lt early)
      exact ⟨start + 1, by omega, .inr (by omega)⟩
  obtain ⟨start, within, latest⟩ := window
  have few := le_trans (countP_mono_left fun kit mem inDay =>
      approvedIn_of_inDay (bounded.approved kit mem) before within latest inDay)
      (bounded.days start)
  have small := policy.kitsPerDay.toNat_lt
  rw [UInt32.lt_iff_toNat_lt] at today
  simp only [kitsToday, u64_max_self, UInt32.toNat_ofNat'] at today
  omega

/-- An approval with room keeps the limits. -/
theorem Bounded.claim {policy : SponsorPolicy} {ledger : Ledger} (bounded : ledger.Bounded policy)
    (purseBound : policy.purseMsat ≤ maxPurseMsat) {kit : Kit} (sound : kit.Sound)
    (split : ledger.kits = left ++ kit :: right) (frozen : kit.state = .candidate)
    (room : ledger.checkRoom policy kit.allowed ledger.lastObservedTime = .ok ())
    (inTime : ledger.lastObservedTime < kit.expiresAt) :
    ({ ledger with kits := left ++ kit.claimed ledger.lastObservedTime :: right } :
      Ledger).Bounded policy := by
  have mem : kit ∈ ledger.kits := by simp [split]
  have notDispatched : kit.isDispatched = false := by
    simp [isDispatched, frozen]
  have unapproved := (sound.untouched notDispatched).2.2.1
  have beforeEnd :=
    Nat.lt_of_lt_of_le (UInt64.lt_iff_toNat_lt.mp inTime) (toNat_le_u64Max kit.expiresAt)
  obtain ⟨today, purse⟩ := room_of_checkRoom room
  refine ⟨?terms, ?metered, ?approved, ?purse, ?days, ?openKits⟩
  case terms => exact forall_mem_replaced split bounded.terms (bounded.terms kit mem)
  case metered =>
    refine forall_mem_replaced split bounded.metered ⟨fun _ _ => rfl, ?_⟩
    rintro ⟨⟩
  case approved =>
    refine forall_mem_replaced split bounded.approved ?_
    rintro _ ⟨⟩
    exact UInt64.le_refl _
  case purse =>
    have charge : (kit.claimed ledger.lastObservedTime).charge
      ledger.lastObservedTime = kit.allowed :=
      rfl
    have nothing := charge_of_not_dispatched notDispatched ledger.lastObservedTime
    have ceiling : maxPurseMsat.toNat < u64Max := by decide
    rw [UInt64.le_iff_toNat_le] at purse purseBound
    rw [toNat_saturatingAdd_eq_min, toNat_purseUsed, split, spent_append,
      spent_cons, nothing, UInt64.toNat_zero] at purse
    rw [spent_append, spent_cons, charge]
    simp only
    omega
  case days =>
    intro start
    have few := bounded.countP_inDay_lt beforeEnd today
    have before := bounded.days start
    have outOfDay : kit.approvedIn start = false := by
      simp [approvedIn, unapproved]
    have notToday : kit.inDay ledger.lastObservedTime = false := by
      simp [inDay, unapproved]
    rw [split, countP_append, countP_cons, notToday] at few
    rw [split, countP_append, countP_cons, outOfDay] at before
    rw [countP_append, countP_cons]
    simp only [Bool.false_eq_true, if_false, Nat.add_zero] at few before
    by_cases within :
      start ≤ ledger.lastObservedTime.toNat ∧ ledger.lastObservedTime.toNat < start + daySecs.toNat
    · -- The other approvals of the window are approvals of the last day.
      have others : ∀ kits : List Kit, kits.countP (approvedIn start) ≤
        kits.countP fun kit => kit.inDay ledger.lastObservedTime :=
        fun kits => countP_mono_left fun _ _ approved =>
          inDay_of_approvedIn beforeEnd within.2 approved
      have leftFew := others left
      have rightFew := others right
      split <;> omega
    · have outside : (kit.claimed ledger.lastObservedTime).approvedIn start = false := by
        simp only [approvedIn, claimed, Option.any_some, decide_eq_false_iff_not]
        exact within
      rw [outside]
      simpa using before
  case openKits =>
    have before := bounded.openKits
    have wasOpen : kit.isOpen ledger.lastObservedTime := by
      simp only [isOpen, frozen, decide_eq_true_eq]
      exact inTime
    rw [split, countP_append, countP_cons, if_pos wasOpen] at before
    rw [countP_append, countP_cons]
    dsimp only
    split <;> omega

/-- A change of a kit keeps the limits. -/
theorem Bounded.change {licence : Licence} (bounded : ledger.Bounded licence.policy)
    (limited : ∀ details, licence.reports details → FeeWithin licence.policy.feeMsat details)
    (sound : kit.Sound) (split : ledger.kits = left ++ kit :: right)
    (changes : KitChange licence ledger kit changed) :
    ({ ledger with kits := left ++ changed :: right } : Ledger).Bounded licence.policy := by
  have mem : kit ∈ ledger.kits := by simp [split]
  have metered := bounded.metered kit mem
  cases changes with
  | freeze _ pending inTime =>
    refine bounded.replace split ⟨rfl, rfl⟩ ⟨?_, ?_⟩ rfl ?_ ?_
    · exact nofun
    · intro funded
      cases funded
    · exact UInt64.zero_le
    · intro _
      rcases pending with same | same <;> simpa [isOpen, same] using inTime
  | claim enabled frozen room inTime =>
    exact bounded.claim (licence.accepted enabled).2.2 sound split frozen room inTime
  | markFresh =>
    exact bounded.replace split ⟨rfl, rfl⟩ ⟨metered.held, metered.settled⟩ rfl
      (UInt64.le_refl _) fun isOpen => isOpen
  | record result fromDispatch sent reported =>
    have recorded := recorded_recordOutcome sound sent result ledger.lastObservedTime fromDispatch
    have meteredAfter := metered.recordOutcome sound sent (fun details same => by
      rw [(bounded.terms kit mem).2]
      exact limited details (reported details same))
      ledger.lastObservedTime fromDispatch
    cases isFinal : kit.isFinal with
    | true =>
      rw [recorded.isFinal isFinal]
      exact bounded.replace split ⟨rfl, rfl⟩ metered rfl (UInt64.le_refl _) fun isOpen => isOpen
    | false =>
      obtain ⟨_, sameGift, sameFee, _, sameApproval⟩ := recorded.terms
      refine bounded.replace split ⟨sameGift, sameFee⟩ meteredAfter sameApproval ?_
        fun _ => isOpen_of_not_final sent isFinal _
      have limit := meteredAfter.charge_le ledger.lastObservedTime
      rw [charge_of_not_final sent isFinal, metered.held sent isFinal]
      simpa [allowed, sameGift, sameFee] using limit
  | cancel pending =>
    refine bounded.replace split ⟨rfl, rfl⟩ ⟨?_, ?_⟩ rfl ?_ ?_
    · exact nofun
    · intro funded
      cases funded
    · exact UInt64.zero_le
    · exact nofun

end Ledger

theorem LedgerPath.bounded {licence : Licence} {before after : Ledger}
    (limited : ∀ details, licence.reports details → FeeWithin licence.policy.feeMsat details)
    (sound : before.Sound) (bounded : before.Bounded licence.policy)
    (path : LedgerPath licence before after) : after.Bounded licence.policy := by
  induction path with
  | refl => exact bounded
  | tail earlier step ih =>
    have soundNow := (LedgerPath.advances sound earlier).sound
    cases step with
    | observe wallNow => exact ih.observe wallNow
    | push introId expiresAt checked => exact ih.push checked introId expiresAt
    | change split _ changes =>
      exact ih.change limited (soundNow.kits _ (by simp [split])) split changes

theorem Move.config_eq {before after : World} (move : Move reports task before after) :
    after.config = before.config := by
  cases move <;> rfl

variable {node : Node} {config : Configuration}

theorem bounded_of_steps (steps : (sponsorMachine node (FeeWithin config.policy.feeMsat)
      fun before after => after = before).Steps (idle (initial config)) snapshot) :
    snapshot.shared.config = config ∧ snapshot.shared.ledger.Bounded config.policy := by
  induction steps with
  | refl => exact ⟨rfl, Ledger.bounded_empty config.policy⟩
  | tail earlier step ih =>
    obtain ⟨sameConfig, bounded⟩ := ih
    have holds := holds_custody_of_steps earlier
    rcases (holds.step custody_kept step).2 with same | ⟨mover, moved⟩
    · rw [same]
      exact ⟨sameConfig, bounded⟩
    cases mover with
    | task task =>
      refine ⟨(Move.config_eq moved).trans sameConfig, ?_⟩
      rw [← sameConfig] at bounded ⊢
      refine LedgerPath.bounded ?_ (World.Sound.ledger holds.invariant) bounded (Move.path moved)
      intro _ reported
      rw [show (licence _ _ task).policy = config.policy from
        congrArg Configuration.policy sameConfig]
      exact reported
    | crash =>
      obtain ⟨_, rfl, same⟩ := moved
      rw [same]
      exact ⟨sameConfig, bounded⟩
    | surroundings => exact moved.elim

theorem advances_of_steps (earlier : (sponsorMachine node reports restarts).Steps
      (idle (initial config)) snapshot)
    (steps : (sponsorMachine node reports restarts).Steps snapshot later) :
    snapshot.shared.ledger.lastObservedTime ≤ later.shared.ledger.lastObservedTime ∧
      ∀ introId kit, snapshot.shared.ledger.kit introId = .ok kit →
        kit.isFinal → later.shared.ledger.kit introId = .ok kit := by
  induction steps with
  | refl => exact ⟨UInt64.le_refl _, fun _ _ found _ => found⟩
  | tail run step ih =>
    have holds := holds_custody_of_steps (earlier.trans run)
    rcases (holds.step custody_kept step).2 with same | ⟨_, moved⟩
    · rw [same]
      exact ih
    obtain ⟨_, advances⟩ := advances_of_moves holds.invariant moved
    refine ⟨UInt64.le_trans ih.1 advances.time, ?_⟩
    intro introId kit found isFinal
    exact advances.kit_eq_ok (ih.2 introId kit found isFinal) isFinal

/--
Under a fixed policy, with a backend that never charges more than the fee
limit, over every run with any clock, refused operations, failing writes and
restarts, in the highest time that was observed: the purse is never exceeded, a
window of a day never has more approvals than allowed, at most one kit is open,
that time never decreases, and a kit that has expired, was cancelled or has
failed stays as it is.
-/
theorem sponsor_limits_hold (node : Node) (config : Configuration)
    {snapshot : Config Job World SponsorOp SponsorOp.Answer (Except SponsorError Response)}
    (steps : (sponsorMachine node (FeeWithin config.policy.feeMsat)
      fun before after => after = before).Steps (idle (initial config)) snapshot) :
    snapshot.shared.ledger.purseUsed
      snapshot.shared.ledger.lastObservedTime ≤ config.policy.purseMsat ∧
      (∀ start : Nat, (snapshot.shared.ledger.kits.countP fun kit =>
        kit.approvedAt.any fun at_ => start ≤ at_.toNat ∧ at_.toNat < start + daySecs.toNat) ≤
        config.policy.kitsPerDay.toNat) ∧ (snapshot.shared.ledger.kits.countP fun kit =>
        kit.isOpen snapshot.shared.ledger.lastObservedTime) ≤ maxActiveKits.toNat ∧
      ∀ later, (sponsorMachine node (FeeWithin config.policy.feeMsat)
        fun before after => after = before).Steps snapshot later →
        snapshot.shared.ledger.lastObservedTime ≤ later.shared.ledger.lastObservedTime ∧
          ∀ introId kit, snapshot.shared.ledger.kit introId = .ok kit →
            (kit.state = .expired ∨ kit.state = .cancelled ∨ kit.state = .failed) →
              later.shared.ledger.kit introId = .ok kit := by
  obtain ⟨_, bounded⟩ := bounded_of_steps steps
  refine ⟨?purse, bounded.days, bounded.openKits, ?later⟩
  case purse =>
    rw [UInt64.le_iff_toNat_le, Ledger.toNat_purseUsed]
    exact (Nat.min_le_left _ _).trans bounded.purse
  case later =>
    intro later further
    obtain ⟨time, isFinal⟩ := advances_of_steps steps further
    refine ⟨time, ?_⟩
    intro introId kit found closed
    refine isFinal introId kit found ?_
    rcases closed with same | same | same <;> simp [Kit.isFinal, same]

/-- While the gift of the example is being paid, its whole price is held. -/
theorem sponsor_limits_hold_gift :
    ∃ snapshot, (sponsorMachine giftNode (FeeWithin giftConfiguration.policy.feeMsat)
      fun before after => after = before).Steps (idle (initial giftConfiguration)) snapshot ∧
      snapshot.shared.ledger.purseUsed snapshot.shared.ledger.lastObservedTime = 21000 ∧
      (21000 : UInt64) ≤ giftConfiguration.policy.purseMsat ∧
      (snapshot.shared.ledger.kits.countP fun kit =>
        kit.isOpen snapshot.shared.ledger.lastObservedTime) ≤ maxActiveKits.toNat := by
  obtain ⟨snapshot, _, steps, _, same, _⟩ :=
    steps_claimedWorld (FeeWithin giftConfiguration.policy.feeMsat)
      fun before after => after = before
  obtain ⟨purse, _, openKits, _⟩ := sponsor_limits_hold giftNode giftConfiguration steps
  have used : snapshot.shared.ledger.purseUsed snapshot.shared.ledger.lastObservedTime = 21000 := by
    rw [same]
    decide
  exact ⟨snapshot, steps, used, used ▸ purse, openKits⟩

end BitSov.Sponsor
