import BitSov.Process.InPlace
import BitSov.Spend.Calls
import Mathlib.Algebra.Order.BigOperators.Group.List

namespace BitSov.Spend

/-!
# What the meter adds up to

Every tally of the meter is read for a set of recipients: the whole of a map
for all of them, the entry of one recipient for that one.  Reserving, drawing,
closing and resolving move amounts between the tallies, and in every run what
is used equals what was settled plus what is pending.
-/

open Arithmetic Ordered OrderedMap Option

/-- The recipients that are counted. -/
abbrev Scope := String → Bool

def share (scope : Scope) (recipient : String) (amount : Nat) : Nat :=
  if scope recipient then amount else 0

/-- What a scope sees of the amounts by recipient. -/
def heldIn (scope : Scope) (held : OrderedMap String UInt64) : Nat :=
  held.total fun recipient amount => share scope recipient amount.toNat

def everyone : Scope :=
  fun _ => true

def only (recipient : String) : Scope :=
  fun other => other = recipient

namespace GrantBudget

/-- What a scope sees of the pending reservations. -/
def pendingIn (budget : GrantBudget) (scope : Scope) : Nat :=
  budget.pending.total fun _ held => heldIn scope held

/-- The sum of all amounts in `pending`. -/
def pendingMsat (budget : GrantBudget) : Nat :=
  budget.pendingIn everyone

end GrantBudget

section

theorem share_everyone (recipient amount) : share everyone recipient amount = amount := rfl

@[simp] theorem share_zero : share scope recipient 0 = 0 := by
  unfold share
  split <;> rfl

theorem share_add (first second) : share scope recipient (first + second) =
      share scope recipient first + share scope recipient second := by
  unfold share
  split <;> rfl

theorem heldIn_alter (scope) (held : OrderedMap String UInt64) (recipient)
    (change) : heldIn scope (held.alter recipient change) +
      share scope recipient ((held.get? recipient).getD 0).toNat =
      heldIn scope held + share scope recipient ((change (held.get? recipient)).getD 0).toNat := by
  have exchanged := held.total_alter recipient change
    fun recipient amount => share scope recipient amount.toNat
  have read (value : Option UInt64) : weightOf
    (fun recipient amount => share scope recipient amount.toNat)
    recipient value =
    share scope recipient (value.getD 0).toNat := by
    cases value with
    | none => simp [weightOf, share]
    | some value => rfl
  rw [read, read] at exchanged
  exact exchanged

theorem share_le_heldIn (scope) (held : OrderedMap String UInt64) (recipient) :
    share scope recipient ((held.get? recipient).getD 0).toNat ≤ heldIn scope held := by
  have exchanged := heldIn_alter scope held recipient fun _ => none
  simp only [getD_none, UInt64.toNat_zero, share_zero] at exchanged
  omega

@[simp] theorem heldIn_empty : heldIn scope .empty = 0 := rfl

@[simp] theorem heldIn_singleton :
    heldIn scope (.singleton recipient amount) = share scope recipient amount.toNat := by
  have exchanged := heldIn_alter scope .empty recipient fun _ => some amount
  simpa [OrderedMap.singleton, OrderedMap.insert] using exchanged

theorem heldIn_only (held recipient) :
    heldIn (only recipient) held = ((held.get? recipient).getD 0).toNat := by
  have erased : heldIn (only recipient) (held.erase recipient) = 0 := by
    refine List.sum_eq_zero fun _ mem => ?_
    obtain ⟨entry, isEntry, rfl⟩ := List.mem_map.mp mem
    have notErased : entry.1 ≠ recipient := by
      intro same
      have absent : (held.erase recipient).get? entry.1 = none := by
        rw [same, get?_erase, if_pos rfl]
      rw [get?_eq_some_of_mem isEntry] at absent
      cases absent
    simp [share, only, notErased]
  have exchanged := heldIn_alter (only recipient) held recipient fun _ => none
  rw [show held.alter recipient (fun _ => none) = held.erase recipient
    from rfl, erased] at exchanged
  simpa [share, only] using exchanged.symm

end

/-- Two meters with the same terms, tallies and open holds. -/
structure SameMeter (before after : GrantBudget) : Prop where
  used : after.usedMsat = before.usedMsat
  byRecipient : after.usedByRecipient = before.usedByRecipient
  pending : after.pending = before.pending
  budgetMsat : after.budgetMsat = before.budgetMsat
  caps : after.perRecipientMsat = before.perRecipientMsat
  openHolds : ∀ id call,
    after.callReservations.get? id = some call →
      call.closed = false → before.callReservations.get? id = some call

namespace SameMeter

theorem refl (budget) : SameMeter budget budget where
  used := rfl
  byRecipient := rfl
  pending := rfl
  budgetMsat := rfl
  caps := rfl
  openHolds _ _ found _ := found

theorem trans (before : SameMeter first second) (after : SameMeter second third) :
    SameMeter first third where
  used := after.used.trans before.used
  byRecipient := after.byRecipient.trans before.byRecipient
  pending := after.pending.trans before.pending
  budgetMsat := after.budgetMsat.trans before.budgetMsat
  caps := after.caps.trans before.caps
  openHolds id call found isOpen :=
    before.openHolds id call (after.openHolds id call found isOpen) isOpen

end SameMeter

namespace GrantBudget

variable {budget : GrantBudget}

theorem sameMeter_recordOutcome (budget reserved actual now) :
    SameMeter budget (budget.recordOutcome reserved actual now) := by
  unfold recordOutcome
  split
  · exact .refl budget
  · exact ⟨rfl, rfl, rfl, rfl, rfl, fun _ _ found _ => found⟩

theorem sameMeter_recordBreakerRefusal (budget refusal)
    (now) : SameMeter budget (budget.recordBreakerRefusal refusal now).1 := by
  unfold recordBreakerRefusal
  dsimp only
  split
  all_goals first
    | exact .refl budget
    | split
      · exact .refl budget
      · exact ⟨rfl, rfl, rfl, rfl, rfl, fun _ _ found _ => found⟩

theorem get?_of_foldl_erase {calls : OrderedMap String CallSpend} {ids : List String} {id : String}
    {call : CallSpend}
    (found : (ids.foldl (fun calls id => calls.erase id) calls).get? id = some call) :
    calls.get? id = some call := by
  induction ids generalizing calls with
  | nil => exact found
  | cons _ _ ih =>
    have erased := ih found
    rw [get?_erase] at erased
    split at erased
    · cases erased
    · exact erased

theorem sameMeter_pruneCallTombstones (budget now) :
    SameMeter budget (budget.pruneCallTombstones now) where
  used := rfl
  byRecipient := rfl
  pending := rfl
  budgetMsat := rfl
  caps := rfl
  openHolds id call found isOpen := by
    have kept := get?_of_foldl_erase found
    rw [get?_mapValues, map_eq_some_iff] at kept
    obtain ⟨old, isOld, stamped⟩ := kept
    split at stamped
    · next finished =>
      rw [← stamped] at isOpen
      have isClosed : old.closed := by
        simp only [CallSpend.finished, Bool.and_eq_true] at finished
        exact finished.1.1
      exact absurd (isClosed.symm.trans isOpen) (by decide)
    · rw [← stamped]
      exact isOld

theorem sameMeter_recordCallOutcome (budget id clock) :
    SameMeter budget (budget.recordCallOutcome id clock) := by
  unfold recordCallOutcome
  split
  · exact .refl budget
  next call _ =>
  split
  · next complete =>
    have receipt : SameMeter budget { budget with
      callReservations := budget.callReservations.insert id { call with
        outcomeRecorded := true
        finishedAt := some clock.finished
        paidSequences := .empty } } := by
      refine ⟨rfl, rfl, rfl, rfl, rfl, ?_⟩
      intro _ _ foundOther isOpen
      rw [get?_insert] at foundOther
      split at foundOther
      · rw [← some.inj foundOther, complete.1] at isOpen
        cases isOpen
      · exact foundOther
    refine receipt.trans (SameMeter.trans ?_ (sameMeter_pruneCallTombstones _ _))
    split
    · exact sameMeter_recordOutcome _ _ _ _
    · exact .refl _
  · exact .refl budget

section

variable {reserved actual : UInt64}

@[simp] theorem resolve_pending :
    (budget.resolve recipient reserved actual).pending = budget.pending := by
  unfold resolve
  split <;> rfl

@[simp] theorem resolve_callReservations :
    (budget.resolve recipient reserved actual).callReservations = budget.callReservations := by
  unfold resolve
  split <;> rfl

theorem toNat_adjustTally (covered : reserved.toNat ≤ tally.toNat)
    (fits : tally.toNat + actual.toNat ≤ u64Max + reserved.toNat) :
    (adjustTally reserved actual tally).toNat + reserved.toNat = tally.toNat + actual.toNat := by
  unfold adjustTally
  split
  · next below =>
    have difference := UInt64.toNat_sub_of_le _ _ (UInt64.le_of_lt below)
    rw [UInt64.lt_iff_toNat_lt] at below
    rw [toNat_saturatingSub, difference]
    omega
  next notBelow =>
  have above := UInt64.not_lt.mp notBelow
  have difference := UInt64.toNat_sub_of_le _ _ above
  rw [UInt64.le_iff_toNat_le] at above
  rw [toNat_saturatingAdd]
  · omega
  · omega

theorem resolve_tallies (usedEq : budget.usedMsat.toNat = heldIn everyone budget.usedByRecipient)
    (covered : reserved.toNat ≤ ((budget.usedByRecipient.get? recipient).getD 0).toNat)
    (fits : budget.usedMsat.toNat + actual.toNat ≤ u64Max + reserved.toNat) :
    (budget.resolve recipient reserved actual).usedMsat.toNat + reserved.toNat =
      budget.usedMsat.toNat + actual.toNat ∧
      ∀ scope, heldIn scope (budget.resolve recipient reserved actual).usedByRecipient +
        share scope recipient reserved.toNat =
        heldIn scope budget.usedByRecipient + share scope recipient actual.toNat := by
  have entryBelow : ((budget.usedByRecipient.get? recipient).getD 0).toNat ≤
    budget.usedMsat.toNat := by
    rw [usedEq]
    exact share_le_heldIn everyone budget.usedByRecipient recipient
  by_cases same : actual = reserved
  · simp [resolve, same]
  rw [resolve, if_neg same]
  refine ⟨toNat_adjustTally (by omega) fits, fun scope => ?_⟩
  have entry := toNat_adjustTally covered (by omega : _ + actual.toNat ≤ u64Max + reserved.toNat)
  have read (value : UInt64) : ((if value = 0 then none else some value).getD 0) = value := by
    split
    · next zero => rw [zero]; rfl
    · rfl
  have exchanged := heldIn_alter scope budget.usedByRecipient recipient fun _ =>
    let used := adjustTally reserved actual ((budget.usedByRecipient.get? recipient).getD 0)
    if used = 0 then none else some used
  simp only [read] at exchanged
  by_cases covers : scope recipient
  · simp only [share, covers, if_true] at exchanged ⊢
    omega
  · simpa [share, covers] using exchanged

end

/-- The meter agrees with what was settled and what is pending. -/
structure Accounts (budget : GrantBudget) (settled : Scope → Nat) : Prop where
  used : budget.usedMsat.toNat = heldIn everyone budget.usedByRecipient
  balanced : ∀ scope, heldIn scope budget.usedByRecipient = settled scope + budget.pendingIn scope
  backed : ∀ id call,
    budget.callReservations.get? id = some call →
      call.closed = false →
        ∃ amount, budget.pending.get? id = some (.singleton call.terms.peer amount)

def settledWith (settled : Scope → Nat) (recipient : String) (amount : Nat) : Scope → Nat :=
  fun scope => settled scope + share scope recipient amount

theorem settledWith_zero (settled recipient) : settledWith settled recipient 0 = settled := by
  funext scope
  simp [settledWith]

section

variable {budget after : GrantBudget} {settled : Scope → Nat} {recipient id : String}
  {reserved actual : UInt64}
  {held : OrderedMap String UInt64} {charges : List Charge} {call : CallSpend}
  {amount topUp : UInt64} {now : Int}

theorem Accounts.used_eq (accounts : Accounts budget settled) :
    budget.usedMsat.toNat = settled everyone + budget.pendingMsat :=
  accounts.used.trans (accounts.balanced everyone)

theorem Accounts.sameMeter (accounts : Accounts budget settled) (same : SameMeter budget after) :
    Accounts after settled where
  used := by
    rw [same.used, same.byRecipient]
    exact accounts.used
  balanced scope := by
    rw [same.byRecipient, pendingIn, same.pending]
    exact accounts.balanced scope
  backed id call found isOpen := by
    rw [same.pending]
    exact accounts.backed id call (same.openHolds id call found isOpen) isOpen

theorem Accounts.resolve (accounts : Accounts budget (settledWith settled recipient reserved.toNat))
    (fits : settled everyone + actual.toNat + budget.pendingMsat ≤ u64Max) :
    Accounts (budget.resolve recipient reserved actual)
      (settledWith settled recipient actual.toNat) := by
  have covered : reserved.toNat ≤ ((budget.usedByRecipient.get? recipient).getD 0).toNat := by
    rw [← heldIn_only, accounts.balanced]
    simp only [settledWith, share, only, decide_true, if_true]
    omega
  have usedEq := accounts.used_eq
  simp only [settledWith, share_everyone] at usedEq
  have fitsUsed : budget.usedMsat.toNat + actual.toNat ≤ u64Max + reserved.toNat := by
    omega
  obtain ⟨_, balancedAfter⟩ := resolve_tallies accounts.used covered fitsUsed
  have everyoneAfter := balancedAfter everyone
  have usedBefore := accounts.used
  simp only [share_everyone] at everyoneAfter
  refine ⟨by omega, fun scope => ?_, ?_⟩
  · have before := accounts.balanced scope
    have moved := balancedAfter scope
    rw [pendingIn, resolve_pending]
    simp only [settledWith, pendingIn] at before ⊢
    omega
  intro id call found isOpen
  rw [resolve_pending]
  rw [resolve_callReservations] at found
  exact accounts.backed id call found isOpen

theorem Accounts.replaceCall (accounts : Accounts budget settled)
    (found : budget.callReservations.get? id = some call) (sameTerms : changed.terms = call.terms)
    (staysClosed : changed.closed = false → call.closed = false) :
    Accounts { budget with callReservations := budget.callReservations.insert id changed }
      settled :=
  { accounts with
    backed other otherCall foundOther isOpen := by
      rw [get?_insert] at foundOther
      split at foundOther
      · next same =>
        cases foundOther
        rw [same, sameTerms]
        exact accounts.backed id call found (staysClosed isOpen)
      · exact accounts.backed other otherCall foundOther isOpen }

theorem pendingIn_alter (scope) (pending : OrderedMap String (OrderedMap String UInt64))
    (id change) : (pending.alter id change).total (fun _ held => heldIn scope held) +
      heldIn scope ((pending.get? id).getD .empty) =
      pending.total (fun _ held => heldIn scope held) +
        heldIn scope ((change (pending.get? id)).getD .empty) := by
  have exchanged := pending.total_alter id change fun _ held => heldIn scope held
  have read (value : Option (OrderedMap String UInt64)) :
    weightOf (fun _ held => heldIn scope held) id value = heldIn scope (value.getD .empty) := by
    cases value <;> rfl
  rw [read, read] at exchanged
  exact exchanged

theorem pendingIn_modify (scope) (pending : OrderedMap String (OrderedMap String UInt64))
    (id change) : (pending.modify id change).total (fun _ held => heldIn scope held) +
      heldIn scope ((pending.get? id).getD .empty) =
      pending.total (fun _ held => heldIn scope held) +
        heldIn scope (((pending.get? id).map change).getD .empty) :=
  pendingIn_alter scope pending id (Option.map change)

theorem pendingIn_takePending (found : budget.pending.get? id = some held)
    (isHeld : held.get? recipient = some reserved) (scope) :
    (budget.takePending id recipient held).pendingIn scope + share scope recipient reserved.toNat =
      budget.pendingIn scope := by
  have erased := heldIn_alter scope held recipient fun _ => none
  rw [isHeld] at erased
  simp only [getD_some, getD_none, UInt64.toNat_zero, share_zero] at erased
  unfold takePending
  dsimp only
  split
  · next isEmpty =>
    have nothing : heldIn scope (held.erase recipient) = 0 := by
      rw [List.isEmpty_iff] at isEmpty
      simp [heldIn, OrderedMap.total, OrderedMap.totalEntries, isEmpty]
    have exchanged := pendingIn_alter scope budget.pending id fun _ => none
    rw [found] at exchanged
    simp only [getD_some, getD_none, heldIn_empty] at exchanged
    simp only [pendingIn, OrderedMap.erase] at nothing exchanged ⊢
    omega
  · have exchanged := pendingIn_alter scope budget.pending id fun _ => some (held.erase recipient)
    rw [found] at exchanged
    simp only [getD_some] at exchanged
    simp only [pendingIn, OrderedMap.insert, OrderedMap.erase] at exchanged ⊢
    omega

@[simp] theorem takePending_usedMsat :
    (budget.takePending id recipient held).usedMsat = budget.usedMsat := by
  unfold takePending
  dsimp only
  split <;> rfl

@[simp] theorem takePending_usedByRecipient :
    (budget.takePending id recipient held).usedByRecipient = budget.usedByRecipient := by
  unfold takePending
  dsimp only
  split <;> rfl

@[simp] theorem takePending_callReservations :
    (budget.takePending id recipient held).callReservations = budget.callReservations := by
  unfold takePending
  dsimp only
  split <;> rfl

theorem Accounts.takePending (accounts : Accounts budget settled)
    (noHold : budget.callReservations.get? id = none) (found : budget.pending.get? id = some held)
    (isHeld : held.get? recipient = some reserved) : Accounts (budget.takePending id recipient held)
      (settledWith settled recipient reserved.toNat) where
  used := by
    rw [takePending_usedMsat, takePending_usedByRecipient]
    exact accounts.used
  balanced scope := by
    have taken := pendingIn_takePending found isHeld scope
    have before := accounts.balanced scope
    rw [takePending_usedByRecipient]
    simp only [settledWith]
    omega
  backed other call foundCall isOpen := by
    rw [takePending_callReservations] at foundCall
    have ne : other ≠ id := by
      rintro rfl
      rw [noHold] at foundCall
      cases foundCall
    obtain ⟨amount, backed⟩ := accounts.backed other call foundCall isOpen
    refine ⟨amount, Eq.trans ?_ backed⟩
    unfold GrantBudget.takePending
    dsimp only
    split
    · rw [get?_erase, if_neg ne]
    · rw [get?_insert, if_neg ne]

/-- Returning part of a consumed draw to its open hold. -/
theorem Accounts.returnPart {owed unused : UInt64}
    (accounts : Accounts budget (settledWith settled call.terms.peer owed.toNat))
    (found : budget.callReservations.get? parent = some call) (isOpen : call.closed = false)
    (part : unused.toNat ≤ owed.toNat) :
    Accounts
      { budget with
        pending := budget.pending.modify parent fun held =>
          held.modify call.terms.peer fun remaining => saturatingAdd remaining unused }
      (settledWith settled call.terms.peer (owed.toNat - unused.toNat)) := by
  obtain ⟨amount, holds⟩ := accounts.backed parent call found isOpen
  have usedEq := accounts.used_eq
  simp only [settledWith, share_everyone] at usedEq
  have amountPending : amount.toNat ≤ budget.pendingMsat := by
    have below := budget.pending.weightOf_le_total parent fun _ held => heldIn everyone held
    rw [holds] at below
    simpa [weightOf, share_everyone, pendingMsat, pendingIn] using below
  have fits : amount.toNat + unused.toNat ≤ u64Max := by
    have bound := toNat_le_u64Max budget.usedMsat
    omega
  refine ⟨accounts.used, fun scope => ?_, ?_⟩
  · have exchanged := pendingIn_modify scope budget.pending parent fun held =>
    held.modify call.terms.peer fun remaining => saturatingAdd remaining unused
    rw [holds] at exchanged
    simp only [map_some, getD_some, modify_singleton, heldIn_singleton,
      toNat_saturatingAdd fits, share_add] at exchanged
    have before := accounts.balanced scope
    have split : share scope call.terms.peer owed.toNat =
      share scope call.terms.peer (owed.toNat - unused.toNat) +
        share scope call.terms.peer unused.toNat := by
      rw [← share_add]
      congr 1
      omega
    simp only [settledWith, pendingIn] at before ⊢
    omega
  · intro other otherCall foundOther isOpenOther
    rw [get?_modify]
    split
    · next same =>
      rw [same, found] at foundOther
      cases foundOther
      rw [holds, map_some, modify_singleton]
      exact ⟨_, rfl⟩
    · exact accounts.backed other otherCall foundOther isOpenOther

theorem settledWith_settledWith (settled recipient first second) :
    settledWith (settledWith settled recipient first) recipient second =
      settledWith settled recipient (first + second) := by
  funext scope
  simp only [settledWith, share_add]
  omega

theorem pendingMsat_of_sameMeter (same : SameMeter budget after) :
    after.pendingMsat = budget.pendingMsat := by
  simp only [pendingMsat, pendingIn, same.pending]

variable {drawn : CallSpend}

section

variable (accounts : Accounts budget (settledWith settled call.terms.peer reserved.toNat))
include accounts

theorem Accounts.returnToGrant
    (found : budget.callReservations.get? parent = some call) (sameTerms : drawn.terms = call.terms)
    (isClosed : drawn.closed) (fits : settled everyone + actual.toNat +
      (budget.returnToGrant parent call.terms.peer drawn reserved actual).pendingMsat ≤ u64Max) :
    Accounts (budget.returnToGrant parent call.terms.peer drawn reserved actual)
      (settledWith settled call.terms.peer actual.toNat) := by
  unfold GrantBudget.returnToGrant at fits ⊢
  refine Accounts.resolve (accounts.replaceCall found sameTerms ?_) ?_
  · intro isOpen
    exact absurd (isClosed.symm.trans isOpen) (by decide)
  · simpa only [GrantBudget.pendingMsat, pendingIn, resolve_pending] using fits

/-- A draw of an open hold settles and returns the rest to it. -/
theorem Accounts.returnToHold
    (found : budget.callReservations.get? parent = some call) (sameTerms : drawn.terms = call.terms)
    (isOpen : call.closed = false) (stillOpen : drawn.closed = false)
    (fits : settled everyone + actual.toNat +
      (budget.returnToHold parent call.terms.peer drawn reserved actual).pendingMsat ≤ u64Max) :
    Accounts (budget.returnToHold parent call.terms.peer drawn reserved actual)
      (settledWith settled call.terms.peer actual.toNat) := by
  have drawnAccounts := accounts.replaceCall found sameTerms fun _ => isOpen
  rw [← sameTerms] at drawnAccounts fits ⊢
  have part : (saturatingSub reserved actual).toNat ≤ reserved.toNat := by
    rw [toNat_saturatingSub]
    omega
  have returned := drawnAccounts.returnPart (by rw [get?_insert, if_pos rfl]) stillOpen part
  rw [toNat_saturatingSub] at returned
  unfold GrantBudget.returnToHold at fits ⊢
  by_cases overrun : actual > reserved
  · rw [if_pos overrun] at fits ⊢
    have difference := UInt64.toNat_sub_of_le _ _ (UInt64.le_of_lt overrun)
    rw [gt_iff_lt, UInt64.lt_iff_toNat_lt] at overrun
    have whole : reserved.toNat - (reserved.toNat - actual.toNat) = reserved.toNat := by
      omega
    have total : reserved.toNat + (actual - reserved).toNat = actual.toNat := by
      omega
    rw [whole, ← settledWith_zero (settledWith _ _ _)] at returned
    rw [← total, ← settledWith_settledWith]
    refine Accounts.resolve returned ?_
    simp only [GrantBudget.pendingMsat, pendingIn, resolve_pending] at fits ⊢
    simp only [settledWith, share_everyone]
    omega
  · rw [if_neg overrun] at fits ⊢
    rw [gt_iff_lt, UInt64.lt_iff_toNat_lt] at overrun
    have paid : reserved.toNat - (reserved.toNat - actual.toNat) = actual.toNat := by
      omega
    rw [paid] at returned
    exact returned

end

theorem Accounts.resolveCallDraw {clock : ClockReadings}
    (accounts : Accounts budget (settledWith settled peer reserved.toNat))
    (isDraw : budget.parentOfDraw id peer = some (parent, call))
    (fits : settled everyone + actual.toNat +
      (budget.resolveCallDraw id peer reserved actual paymentFailed clock).1.pendingMsat ≤ u64Max) :
    Accounts (budget.resolveCallDraw id peer reserved actual paymentFailed clock).1
      (settledWith settled peer actual.toNat) := by
  obtain ⟨found, selected⟩ := get?_of_find?_eq_some isDraw
  simp only [Bool.and_eq_true, decide_eq_true_eq] at selected
  obtain ⟨rfl, -⟩ := selected
  unfold GrantBudget.resolveCallDraw at fits ⊢
  simp only [isDraw] at fits ⊢
  have recorded := sameMeter_recordCallOutcome
  rw [pendingMsat_of_sameMeter (recorded _ _ _)] at fits
  refine Accounts.sameMeter ?_ (recorded _ _ _)
  cases isClosed : call.closed with
  | true =>
    simp only [isClosed, if_true] at fits ⊢
    exact accounts.returnToGrant found rfl isClosed fits
  | false =>
    simp only [isClosed, Bool.false_eq_true, if_false] at fits ⊢
    exact accounts.returnToHold found rfl isClosed isClosed fits

/-- What a resolution consumes: the amount reserved for the recipient. -/
def consumedBy (budget : GrantBudget) (id recipient : String) : Option UInt64 :=
  if budget.callReservations.contains id then none
  else (budget.pending.get? id).bind fun held => held.get? recipient

theorem resolveSpendOutcome_eq_self (nothing : budget.consumedBy id recipient = none) :
    (budget.resolveSpendOutcome id recipient actual paymentFailed clock).2 = budget := by
  unfold consumedBy at nothing
  unfold resolveSpendOutcome
  split
  · rfl
  next noHold =>
  rw [if_neg noHold] at nothing
  split
  · rfl
  next _ found =>
  rw [found, bind_some] at nothing
  rw [nothing]

section

variable (accounts : Accounts budget settled)
include accounts

/-- A resolution settles the actual amount of what it consumes. -/
theorem Accounts.resolveSpendOutcome (consumed : budget.consumedBy id recipient = some reserved)
    (fits : settled everyone + actual.toNat +
      (budget.resolveSpendOutcome id recipient actual paymentFailed clock).2.pendingMsat ≤ u64Max) :
    Accounts (budget.resolveSpendOutcome id recipient actual paymentFailed clock).2
      (settledWith settled recipient actual.toNat) := by
  unfold consumedBy at consumed
  unfold GrantBudget.resolveSpendOutcome at fits ⊢
  split at consumed
  · cases consumed
  next noHold =>
  rw [if_neg noHold] at fits ⊢
  rw [bind_eq_some_iff] at consumed
  obtain ⟨held, found, isHeld⟩ := consumed
  simp only [found, isHeld] at fits ⊢
  have noCall : budget.callReservations.get? id = none := by
    simpa [contains] using noHold
  have taken := accounts.takePending noCall found isHeld
  cases isDraw : (budget.takePending id recipient held).parentOfDraw id recipient with
  | none =>
    have same : (budget.takePending id recipient held).resolveCallDraw id recipient
      reserved actual paymentFailed clock.call =
      (budget.takePending id recipient held, false) := by
      simp only [GrantBudget.resolveCallDraw, isDraw]
    simp only [same] at fits ⊢
    have recorded := sameMeter_recordOutcome
    rw [pendingMsat_of_sameMeter (recorded _ _ _ _)] at fits
    refine Accounts.sameMeter (taken.resolve ?_) (recorded _ _ _ _)
    simpa only [GrantBudget.pendingMsat, pendingIn, resolve_pending] using fits
  | some =>
    have isTrue : ((budget.takePending id recipient held).resolveCallDraw id
      recipient reserved actual paymentFailed clock.call).2 := by
      simp only [GrantBudget.resolveCallDraw, isDraw]
    generalize resolved : (budget.takePending id recipient held).resolveCallDraw id recipient
      reserved actual paymentFailed clock.call = answer
      at fits isTrue ⊢
    obtain ⟨_, flag⟩ := answer
    obtain rfl : flag := isTrue
    have settles := taken.resolveCallDraw isDraw (by rw [resolved]; exact fits)
    rw [resolved] at settles
    exact settles

/-- Closing a hold releases what it has not paid. -/
theorem Accounts.closeCall (id clock) : Accounts (budget.closeCall id clock) settled := by
  unfold GrantBudget.closeCall
  split
  · exact accounts
  next call found =>
  split
  · exact accounts
  next isOpen =>
  have isOpen : call.closed = false := by simpa using isOpen
  obtain ⟨amount, holds⟩ := accounts.backed id call found isOpen
  have unused : ((budget.pending.get? id).bind fun held =>
    held.get? call.terms.peer).getD 0 = amount := by
    simp [holds]
  simp only [unused]
  refine Accounts.sameMeter ?_ (sameMeter_recordCallOutcome _ _ _)
  have erasedPending (scope : Scope) :
    (budget.pending.erase id).total (fun _ held => heldIn scope held) +
      share scope call.terms.peer amount.toNat =
      budget.pendingIn scope := by
    have exchanged := pendingIn_alter scope budget.pending id fun _ => none
    rw [holds] at exchanged
    simpa [erase, pendingIn] using exchanged
  rw [← settledWith_zero settled call.terms.peer]
  refine Accounts.resolve ⟨accounts.used, fun scope => ?_, ?_⟩ ?_
  · have before := accounts.balanced scope
    have erased := erasedPending scope
    simp only [settledWith, pendingIn] at before erased ⊢
    omega
  · intro other otherCall foundOther otherOpen
    rw [get?_insert] at foundOther
    split at foundOther
    · rw [← some.inj foundOther] at otherOpen
      cases otherOpen
    next ne =>
    rw [get?_erase, if_neg ne]
    exact accounts.backed other otherCall foundOther otherOpen
  · have erased := erasedPending everyone
    have usedEq := accounts.used_eq
    have bound := toNat_le_u64Max budget.usedMsat
    simp only [pendingMsat, pendingIn] at usedEq erased ⊢
    simp only [UInt64.toNat_zero]
    omega

theorem Accounts.closeHoldsOverLimit (only clock) :
    Accounts (budget.closeHoldsOverLimit only clock).1 settled := by
  unfold GrantBudget.closeHoldsOverLimit
  generalize budget.holdsOverLimit only = overLimit
  induction overLimit generalizing budget with
  | nil => exact accounts
  | cons hold _ ih => exact ih (accounts.closeCall hold.1 (clock hold.1))

end

theorem tallyCharge_ok (tallied : budget.tallyCharge tally charge = .ok result)
    (totals : tally.1.toNat = heldIn everyone tally.2) :
    result.1.toNat = heldIn everyone result.2 ∧ (∀ scope, heldIn scope result.2 =
      heldIn scope tally.2 + share scope charge.recipient charge.amountMsat.toNat) ∧
      result.2 = tally.2.alter charge.recipient fun old =>
        some (old.getD 0 + charge.amountMsat) := by
  unfold tallyCharge at tallied
  split at tallied
  · cases tallied
  split at tallied
  · cases tallied
  next _ isTotal =>
  split at tallied
  · cases tallied
  next entry isEntry =>
  cases tallied
  have wrapped : entry = (tally.2.get? charge.recipient).getD 0 + charge.amountMsat := by
    unfold checkedAdd at isEntry
    split at isEntry
    · exact (some.inj isEntry).symm
    · cases isEntry
  rw [checkedAdd_eq_some_iff] at isTotal isEntry
  have charged (scope : Scope) : heldIn scope (tally.2.insert charge.recipient entry) =
    heldIn scope tally.2 + share scope charge.recipient charge.amountMsat.toNat := by
    have exchanged := heldIn_alter scope tally.2 charge.recipient fun _ => some entry
    rw [getD_some, isEntry, share_add] at exchanged
    simp only [OrderedMap.insert]
    omega
  refine ⟨?_, charged, ext_get? fun _ => ?_⟩
  · rw [charged, share_everyone, ← totals]
    exact isTotal
  · rw [get?_insert, get?_alter, wrapped]

theorem tallyCharges_ok (tallied : budget.tallyCharges charges = .ok result) :
    result.1.toNat = heldIn everyone result.2 ∧ (∀ scope, heldIn scope result.2 =
      (charges.map fun charge => share scope charge.recipient charge.amountMsat.toNat).sum) ∧
      result.2 = chargedByRecipient charges := by
  have general (charges : List Charge) : ∀ tally : UInt64 × OrderedMap String UInt64,
    tally.1.toNat = heldIn everyone tally.2 → charges.foldlM budget.tallyCharge tally = .ok result →
      result.1.toNat = heldIn everyone result.2 ∧
        (∀ scope, heldIn scope result.2 = heldIn scope tally.2 +
          (charges.map fun charge => share scope charge.recipient charge.amountMsat.toNat).sum) ∧
        result.2 = charges.foldl (fun recipients charge =>
          recipients.alter charge.recipient fun old => some (old.getD 0 + charge.amountMsat))
          tally.2 := by
    induction charges with
    | nil =>
      intro tally totals done
      cases done
      exact ⟨totals, fun _ => rfl, rfl⟩
    | cons charge _ ih =>
      intro tally totals continued
      rw [List.foldlM_cons] at continued
      cases first : budget.tallyCharge tally charge with
      | error =>
        rw [first] at continued
        cases continued
      | ok next =>
        rw [first] at continued
        obtain ⟨nextTotals, charged, isNext⟩ := tallyCharge_ok first totals
        obtain ⟨isTotal, later, isResult⟩ := ih next nextTotals continued
        refine ⟨isTotal, fun scope => ?_, ?_⟩
        · rw [later, charged, List.map_cons, List.sum_cons, Nat.add_assoc]
        · rw [List.foldl_cons, ← isNext, isResult]
  obtain ⟨totals, charged, isCharged⟩ := general charges (0, .empty) rfl tallied
  exact ⟨totals, fun scope => (charged scope).trans (Nat.zero_add _), isCharged⟩

theorem heldIn_foldl_addUsed (scope) (entries : List (String × UInt64)) (used)
    (fits : heldIn everyone used + (entries.map fun entry => entry.2.toNat).sum ≤ u64Max) :
    heldIn scope (entries.foldl addUsed used) =
      heldIn scope used + (entries.map fun entry => share scope entry.1 entry.2.toNat).sum := by
  have one (entry : String × UInt64) (used : OrderedMap String UInt64) (scope : Scope)
    (fitsOne : heldIn everyone used + entry.2.toNat ≤ u64Max) :
    heldIn scope (addUsed used entry) = heldIn scope used + share scope entry.1 entry.2.toNat := by
    unfold addUsed
    split
    · have exchanged := heldIn_alter scope used entry.1 fun old => some (old.getD 0 + entry.2)
      have below := share_le_heldIn everyone used entry.1
      simp only [share_everyone] at below
      simp only [getD_some] at exchanged
      rw [toNat_add_of_le (by omega), share_add] at exchanged
      omega
    next zero =>
    have isZero : entry.2.toNat = 0 := by
      simpa [UInt64.lt_iff_toNat_lt] using zero
    rw [isZero, share_zero, Nat.add_zero]
  induction entries generalizing used with
  | nil => simp
  | cons head _ ih =>
    simp only [List.map_cons, List.sum_cons] at fits
    have headScope := one head used scope (by omega)
    have headEveryone := one head used everyone (by omega)
    simp only [share_everyone] at headEveryone
    rw [List.foldl_cons, ih _ (by omega), headScope, List.map_cons, List.sum_cons]
    omega

/-- What an accepted reservation does to the meter. -/
structure Reserves (before after : GrantBudget) (charges : List Charge) : Prop where
  fits : before.usedMsat.toNat + heldIn everyone (chargedByRecipient charges) ≤ u64Max
  withinBudget : before.usedMsat.toNat ≤ before.budgetMsat.toNat →
    after.usedMsat.toNat ≤ before.budgetMsat.toNat
  withinCaps : ∀ recipient cap amount,
    before.perRecipientMsat.get? recipient = some cap →
      (chargedByRecipient charges).get? recipient = some amount →
        amount.toNat ≤ cap.toNat - ((before.usedByRecipient.get? recipient).getD 0).toNat
  used : after.usedMsat.toNat = before.usedMsat.toNat + heldIn everyone (chargedByRecipient charges)
  byRecipient : after.usedByRecipient =
    (chargedByRecipient charges).entries.foldl addUsed before.usedByRecipient
  pending : after.pending = before.pending
  calls : after.callReservations = before.callReservations
  budgetMsat : after.budgetMsat = before.budgetMsat
  caps : after.perRecipientMsat = before.perRecipientMsat

theorem forM_ok {α : Type} {items : List α} {check : α → Except BudgetRefusal Unit}
    (passed : items.forM check = .ok ()) : ∀ item ∈ items, check item = .ok () := by
  induction items with
  | nil => simp
  | cons head _ ih =>
    unfold List.forM at passed
    cases first : check head with
    | error =>
      rw [first] at passed
      cases passed
    | ok =>
      rw [first] at passed
      intro item mem
      rcases List.mem_cons.mp mem with rfl | later
      · exact first
      · exact ih passed item later

theorem reserveWithin_ok {perCallBound : Bool}
    (reserved : budget.reserveWithin charges perCallBound = .ok after) :
    Reserves budget after charges := by
  unfold reserveWithin at reserved
  cases tallied : budget.tallyCharges charges with
  | error =>
    rw [tallied] at reserved
    cases reserved
  | ok tally =>
    obtain ⟨callTotal, _⟩ := tally
    obtain ⟨totals, -, rfl⟩ := tallyCharges_ok tallied
    rw [tallied] at reserved
    simp only [bind, Except.bind] at reserved
    split at reserved
    · cases reserved
    split at reserved
    · cases reserved
    next withinRemaining =>
    cases capped : (chargedByRecipient charges).entries.forM budget.checkRecipientCap with
    | error =>
      rw [capped] at reserved
      cases reserved
    | ok =>
      rw [capped] at reserved
      cases reserved
      rw [UInt64.not_lt, UInt64.le_iff_toNat_le, remainingMsat,
        toNat_saturatingSub] at withinRemaining
      have usedBound := toNat_le_u64Max budget.usedMsat
      have budgetBound := toNat_le_u64Max budget.budgetMsat
      dsimp only at totals
      have fits : budget.usedMsat.toNat + callTotal.toNat ≤ u64Max := by
        omega
      refine
        { fits := by omega
          withinBudget := ?_
          withinCaps := ?_
          used := ?_
          byRecipient := rfl
          pending := rfl
          calls := rfl
          budgetMsat := rfl
          caps := rfl }
      · intro _
        rw [toNat_add_of_le fits]
        omega
      · intro recipient _ amount hasCap isCharged
        have checked := forM_ok capped (recipient, amount) (get?_eq_some_iff.mp isCharged)
        simp only [checkRecipientCap, hasCap] at checked
        split at checked
        · cases checked
        next within =>
        rw [UInt64.not_lt, UInt64.le_iff_toNat_le, toNat_saturatingSub] at within
        exact within
      · rw [toNat_add_of_le fits, totals]

theorem reserveBounded_within
    (reserved : budget.reserveBounded charges perPaymentMsat now = .ok after) :
    ∃ metered, budget.reserveWithin charges perPaymentMsat.isNone = .ok metered ∧
      after = { metered with breakerState := after.breakerState } := by
  unfold reserveBounded at reserved
  simp only [bind, Except.bind] at reserved
  split at reserved
  · cases reserved
  split at reserved
  · cases reserved
  split at reserved
  · cases reserved
  split at reserved
  · cases reserved
  split at reserved
  · cases reserved
  next metered isMetered =>
  refine ⟨metered, isMetered, ?_⟩
  split at reserved <;> cases reserved <;> rfl

theorem reserveBounded_ok
    (reserved : budget.reserveBounded charges perPaymentMsat now = .ok after) :
    Reserves budget after charges := by
  obtain ⟨_, isMetered, isAfter⟩ := reserveBounded_within reserved
  rw [isAfter]
  exact { reserveWithin_ok isMetered with }

theorem heldIn_charged (reserved : budget.reserveBounded charges perPaymentMsat now = .ok after)
    (scope) : heldIn scope (chargedByRecipient charges) =
      (charges.map fun charge => share scope charge.recipient charge.amountMsat.toNat).sum := by
  obtain ⟨_, isMetered, -⟩ := reserveBounded_within reserved
  cases tallied : budget.tallyCharges charges with
  | error =>
    rw [reserveWithin, tallied] at isMetered
    cases isMetered
  | ok =>
    obtain ⟨-, charged, isCharged⟩ := tallyCharges_ok tallied
    rw [← isCharged, charged]

section

variable (reserves : Reserves budget after charges)
include reserves

theorem Reserves.counted (within : heldIn everyone budget.usedByRecipient ≤ budget.usedMsat.toNat)
    (scope) : heldIn scope after.usedByRecipient =
      heldIn scope budget.usedByRecipient + heldIn scope (chargedByRecipient charges) := by
  rw [reserves.byRecipient]
  exact heldIn_foldl_addUsed scope _ _ (Nat.le_trans (Nat.add_le_add_right within _) reserves.fits)

theorem Reserves.balanced (accounts : Accounts budget settled) (scope) :
    heldIn scope after.usedByRecipient =
      heldIn scope budget.usedByRecipient + heldIn scope (chargedByRecipient charges) :=
  reserves.counted (Nat.le_of_eq accounts.used.symm) scope

theorem Reserves.used_eq (accounts : Accounts budget settled) :
    after.usedMsat.toNat = heldIn everyone after.usedByRecipient := by
  rw [reserves.used, reserves.balanced accounts, accounts.used]

theorem Reserves.accounts_insert (accounts : Accounts budget settled)
    (fresh : budget.pending.get? id = none) (noHold : budget.callReservations.get? id = none) :
    Accounts { after with pending := after.pending.insert id (chargedByRecipient charges) }
      settled where
  used := reserves.used_eq accounts
  balanced scope := by
    have exchanged := pendingIn_alter scope budget.pending id fun _ =>
      some (chargedByRecipient charges)
    rw [fresh] at exchanged
    simp only [getD_none, getD_some, heldIn_empty] at exchanged
    have before := accounts.balanced scope
    have counted := reserves.balanced accounts scope
    simp only [pendingIn, OrderedMap.insert, reserves.pending] at before ⊢
    omega
  backed other call found isOpen := by
    rw [reserves.calls] at found
    have ne : other ≠ id := by
      rintro rfl
      rw [noHold] at found
      cases found
    rw [get?_insert, if_neg ne, reserves.pending]
    exact accounts.backed other call found isOpen

end

theorem Accounts.openHold (accounts : Accounts budget settled)
    (holds : budget.pending.get? id = some (.singleton terms.peer amount)) : Accounts
      { budget with callReservations := budget.callReservations.insert id { terms } } settled :=
  { accounts with
    backed other call found isOpen := by
      rw [get?_insert] at found
      split at found
      · next same =>
        cases found
        rw [same]
        exact ⟨amount, holds⟩
      · exact accounts.backed other call found isOpen }

theorem reserveForPurpose_ok
    (reserved : budget.reserveForPurpose authority charges now = .ok after) :
    Reserves budget after charges := by
  unfold reserveForPurpose at reserved
  simp only [bind, Except.bind] at reserved
  split at reserved
  · cases reserved
  split at reserved <;> exact reserveBounded_ok reserved

theorem Reserves.accounts_nil (reserves : Reserves budget after [])
    (accounts : Accounts budget settled) : Accounts after settled where
  used := reserves.used_eq accounts
  balanced scope := by
    have before := accounts.balanced scope
    have counted := reserves.balanced accounts scope
    have nothing : heldIn scope (chargedByRecipient []) = 0 := rfl
    simp only [pendingIn, reserves.pending] at before ⊢
    omega
  backed id call found isOpen := by
    rw [reserves.calls] at found
    rw [reserves.pending]
    exact accounts.backed id call found isOpen

def ChargesPeer (authority : ReservationAuthority) (charges : List Charge) : Prop :=
  ∀ terms, authority.call = some terms →
    ∃ amount, charges = [{ recipient := terms.peer, amountMsat := amount }]

theorem Reserves.accounts_keepReservation (reserves : Reserves budget after charges)
    (accounts : Accounts budget settled)
    (chargesPeer : ChargesPeer authority charges) (fresh : budget.pending.get? id = none)
    (noHold : budget.callReservations.get? id = none) :
    Accounts (after.keepReservation authority charges id) settled := by
  unfold keepReservation
  split
  · next isEmpty =>
    rw [List.isEmpty_iff] at isEmpty
    subst isEmpty
    have kept := reserves.accounts_nil accounts
    exact ⟨kept.used, kept.balanced, kept.backed⟩
  have kept := reserves.accounts_insert accounts fresh noHold
  cases isCall : authority.call with
  | none => exact ⟨kept.used, kept.balanced, kept.backed⟩
  | some terms =>
    obtain ⟨amount, rfl⟩ := chargesPeer terms isCall
    have holds : (after.pending.insert id (chargedByRecipient
      [{ recipient := terms.peer, amountMsat := amount }])).get? id =
      some (.singleton terms.peer amount) := by
      rw [get?_insert, if_pos rfl, Option.some.injEq]
      refine ext_get? fun _ => ?_
      simp [chargedByRecipient, get?_alter]
    have opened := kept.openHold holds
    exact ⟨opened.used, opened.balanced, opened.backed⟩

theorem Accounts.reserveSpend (accounts : Accounts budget settled)
    {authority : ReservationAuthority} {charges : List Charge} (now : Int)
    (chargesPeer : ChargesPeer authority charges) (fresh : budget.pending.get? id = none)
    (noHold : budget.callReservations.get? id = none) :
    Accounts (budget.reserveSpend authority charges id now).2 settled := by
  unfold GrantBudget.reserveSpend
  split
  · exact accounts
  split
  · exact accounts
  split
  · exact accounts
  split
  · exact accounts.sameMeter (sameMeter_recordBreakerRefusal _ _ _)
  next _ isReserved =>
  exact (reserveForPurpose_ok isReserved).accounts_keepReservation accounts chargesPeer fresh noHold

/-- Topping up a message adds to its pending amount. -/
theorem Accounts.topUpReservation (accounts : Accounts budget settled)
    (found : budget.pending.get? parent = some held) (isHeld : held.get? recipient = some old)
    (toppedUp : budget.topUpReservation parent recipient topUp now = .ok after) :
    Accounts after settled := by
  rcases GrantBudget.topUpReservation_cases toppedUp with rfl | ⟨_, isReserved, rfl⟩
  · exact accounts
  have reserves := reserveBounded_ok isReserved
  have charged (scope : Scope) : heldIn scope (chargedByRecipient
    [{ recipient, amountMsat := topUp }]) =
    share scope recipient topUp.toNat := by
    have single : chargedByRecipient [{ recipient, amountMsat := topUp }] =
      .singleton recipient topUp := by
      refine ext_get? fun other => ?_
      simp [chargedByRecipient, get?_alter]
    rw [single, heldIn_singleton]
  have fits : old.toNat + topUp.toNat ≤ u64Max := by
    have room := reserves.fits
    rw [charged, share_everyone, accounts.used_eq] at room
    have below := budget.pending.weightOf_le_total parent fun _ held => heldIn everyone held
    have inside := share_le_heldIn everyone held recipient
    rw [found] at below
    rw [isHeld] at inside
    simp only [weightOf, Option.elim] at below
    simp only [share_everyone, getD_some] at inside
    simp only [pendingMsat, pendingIn] at room
    omega
  refine ⟨reserves.used_eq accounts, fun scope => ?_, ?_⟩
  · have exchanged := pendingIn_modify scope budget.pending parent fun held =>
    held.modify recipient fun amount => amount + topUp
    have inner := heldIn_alter scope held recipient (Option.map fun amount => amount + topUp)
    rw [found] at exchanged
    rw [isHeld] at inner
    simp only [map_some, getD_some] at exchanged inner
    rw [toNat_add_of_le fits, share_add] at inner
    have before := accounts.balanced scope
    have counted := reserves.balanced accounts scope
    rw [charged] at counted
    simp only [pendingIn, reserves.pending] at before ⊢
    change heldIn scope (held.modify recipient fun amount => amount + topUp) + _ = _ at inner
    omega
  · intro other call foundCall isOpen
    rw [reserves.calls] at foundCall
    rw [reserves.pending, get?_modify]
    obtain ⟨amount, holds⟩ := accounts.backed other call foundCall isOpen
    split
    · next same =>
      rw [← same, holds, Option.some.injEq] at found
      rw [← found, get?_singleton] at isHeld
      split at isHeld
      · next isPeer =>
        rw [← same, holds, map_some, isPeer, modify_singleton]
        exact ⟨_, rfl⟩
      · cases isHeld
    · exact ⟨amount, holds⟩

/-- An identifier that no reservation of the meter has used. -/
structure Unused (budget : GrantBudget) (id : String) : Prop where
  pending : budget.pending.get? id = none
  hold : budget.callReservations.get? id = none

theorem checkReadmission_ok {request : ReadmissionRequest}
    (checked : budget.checkReadmission request = .ok topUp) :
    ∃ held old, budget.pending.get? request.parent = some held ∧
      held.get? request.recipient = some old := by
  unfold checkReadmission at checked
  split at checked
  · cases checked
  next old isOld =>
  rw [bind_eq_some_iff] at isOld
  obtain ⟨held, found, isHeld⟩ := isOld
  exact ⟨held, old, found, isHeld⟩

theorem Unused.topUpReservation (unused : Unused budget id)
    (found : budget.pending.get? parent = some held)
    (toppedUp : budget.topUpReservation parent recipient topUp now = .ok after) :
    Unused after id := by
  rcases GrantBudget.topUpReservation_cases toppedUp with rfl | ⟨_, isReserved, rfl⟩
  · exact unused
  have reserves := reserveBounded_ok isReserved
  have ne : id ≠ parent := by
    rintro rfl
    rw [unused.pending] at found
    cases found
  constructor
  · rw [get?_modify, if_neg ne, reserves.pending]
    exact unused.pending
  rw [reserves.calls]
  exact unused.hold

/-- A readmission changes nothing, or tops up its parent and reserves. -/
theorem reserveQuotedReadmission_cases (budget : GrantBudget) (request id now) :
    (budget.reserveQuotedReadmission request id now).2 = budget ∨ ∃ topUp toppedUp,
      budget.checkReadmission request = .ok topUp ∧
      budget.topUpReservation request.parent request.recipient topUp now = .ok toppedUp ∧
      (budget.reserveQuotedReadmission request id now).2 =
        (toppedUp.reserveSpend { operation := request.operation }
          [{ recipient := request.recipient
             amountMsat := request.admissionAllIn }] id now).2 := by
  unfold GrantBudget.reserveQuotedReadmission
  cases checked : budget.checkReadmission request with
  | error => exact .inl rfl
  | ok topUp =>
    simp only [bind, Except.bind]
    cases raised : budget.topUpReservation request.parent request.recipient topUp now with
    | error => exact .inl rfl
    | ok toppedUp =>
      dsimp only
      split
      · exact .inl rfl
      · next reserved => exact .inr ⟨topUp, toppedUp, rfl, raised, by rw [reserved]⟩

theorem Accounts.reserveQuotedReadmission (accounts : Accounts budget settled)
    (request now) (unused : Unused budget id) :
    Accounts (budget.reserveQuotedReadmission request id now).2 settled := by
  rcases budget.reserveQuotedReadmission_cases request id now with
    same | ⟨_, toppedUp, checked, raised, same⟩
  · rw [same]
    exact accounts
  obtain ⟨_, _, found, isHeld⟩ := checkReadmission_ok checked
  have raisedAccounts := accounts.topUpReservation found isHeld raised
  have stillUnused := unused.topUpReservation found raised
  rw [same]
  exact raisedAccounts.reserveSpend now nofun stillUnused.pending stillUnused.hold

variable {request : DrawRequest}

theorem checkDraw_ok (checked : budget.checkDraw request parent call = .ok amount) :
    call.closed = false ∧ ∃ held remaining, budget.pending.get? parent = some held ∧
      held.get? request.peer = some remaining ∧ amount ≤ remaining := by
  unfold checkDraw at checked
  split at checked
  · cases checked
  next isOpen =>
  split at checked
  · cases checked
  split at checked
  · cases checked
  split at checked
  · cases checked
  split at checked
  · cases checked
  split at checked
  · cases checked
  next remaining isRemaining =>
  split at checked
  · cases checked
  next within =>
  cases checked
  rw [bind_eq_some_iff] at isRemaining
  obtain ⟨held, found, isHeld⟩ := isRemaining
  refine ⟨?_, held, remaining, found, isHeld, UInt64.not_lt.mp within⟩
  simp only [Bool.or_eq_true, not_or] at isOpen
  simpa using isOpen.1

/-- Lending to a draw moves a part of the hold's pending amount. -/
theorem Accounts.lendDraw (accounts : Accounts budget settled)
    (found : budget.callReservations.get? parent = some call)
    (samePeer : call.terms.peer = request.peer)
    (checked : budget.checkDraw request parent call = .ok amount) (unused : Unused budget id) :
    Accounts (budget.lendDraw request parent call amount id) settled := by
  obtain ⟨isOpen, held, remaining, isPending, isHeld, within⟩ := checkDraw_ok checked
  obtain ⟨whole, holds⟩ := accounts.backed parent call found isOpen
  rw [samePeer] at holds
  rw [holds, Option.some.injEq] at isPending
  rw [← isPending, get?_singleton, if_pos rfl, Option.some.injEq] at isHeld
  rw [← isHeld] at within
  have difference := UInt64.toNat_sub_of_le _ _ within
  rw [UInt64.le_iff_toNat_le] at within
  have ne : parent ≠ id := by
    rintro rfl
    rw [unused.hold] at found
    cases found
  let lent : OrderedMap String UInt64 → OrderedMap String UInt64 :=
    fun held => held.modify request.peer fun remaining => remaining - amount
  refine ⟨accounts.used, fun scope => ?_, ?_⟩
  · have parted := pendingIn_modify scope budget.pending parent lent
    have inserted := pendingIn_alter scope (budget.pending.modify parent lent) id fun _ =>
      some (.singleton request.peer amount)
    rw [holds] at parted
    rw [get?_modify, if_neg ne.symm, unused.pending] at inserted
    simp only [map_some, getD_some, getD_none,
      heldIn_empty, heldIn_singleton, lent, modify_singleton]
      at parted inserted
    have split : share scope request.peer whole.toNat =
      share scope request.peer (whole - amount).toNat + share scope request.peer amount.toNat := by
      rw [← share_add]
      congr 1
      omega
    have before := accounts.balanced scope
    simp only [GrantBudget.lendDraw, pendingIn] at before ⊢
    change _ = settled scope + total (alter _ _ _) _
    omega
  · intro other otherCall foundOther otherOpen
    simp only [GrantBudget.lendDraw] at foundOther ⊢
    rw [get?_insert] at foundOther
    split at foundOther
    · next same =>
      cases foundOther
      rw [same, get?_insert, if_neg ne, get?_modify, if_pos rfl, holds, samePeer,
        map_some, modify_singleton]
      exact ⟨_, rfl⟩
    next elsewhere =>
    have notId : other ≠ id := by
      rintro rfl
      rw [unused.hold] at foundOther
      cases foundOther
    rw [get?_insert, if_neg notId, get?_modify, if_neg elsewhere]
    exact accounts.backed other otherCall foundOther otherOpen

theorem Accounts.drawCallSpend (accounts : Accounts budget settled) (request)
    (now clock) (unused : Unused budget id) :
    Accounts (budget.drawCallSpend request id now clock).2 settled := by
  unfold GrantBudget.drawCallSpend
  split
  · exact accounts
  split
  · next _ _ isClosed =>
    have released := accounts.closeHoldsOverLimit (some (request.peer, request.callId)) clock
    rw [isClosed] at released
    exact released
  split
  · exact accounts
  split
  · exact accounts
  split
  · exact accounts
  next _ _ isCall =>
  split
  · exact accounts
  next _ checked =>
  obtain ⟨found, selected⟩ := get?_of_find?_eq_some isCall
  simp only [Bool.and_eq_true, decide_eq_true_eq] at selected
  exact accounts.lendDraw found selected.1 checked unused

end

/-! ## Writing in place -/

section

open Process (InPlace)
open MonadExcept (ofExcept)

variable (charges : List Charge) (perPaymentMsat : Option UInt64) (now : Int)

/-- `reserve_within`, which writes to the meter once every check has passed. -/
def reserveWithinInPlace (perCallBound : Bool) : InPlace BudgetRefusal GrantBudget Unit := do
  let budget ← get
  let (callTotal, perRecipient) ← ofExcept (budget.tallyCharges charges)
  if perCallBound && callTotal > budget.perCallMaxMsat then
    throw (.perCall budget.perCallMaxMsat)
  else if callTotal > budget.remainingMsat then throw (.total budget.remainingMsat)
  else
    ofExcept (perRecipient.entries.forM budget.checkRecipientCap)
    modify fun budget => { budget with usedMsat := budget.usedMsat + callTotal }
    perRecipient.entries.forM fun entry => modify fun budget =>
      { budget with usedByRecipient := addUsed budget.usedByRecipient entry }

/-- `reserve_bounded`, which counts the payments after `reserve_within` has written. -/
def reserveBoundedInPlace : InPlace BudgetRefusal GrantBudget Unit := do
  let budget ← get
  ofExcept (perPaymentMsat.elim (.ok ()) budget.checkCallPayment)
  ofExcept (budget.checkEnvelopes (chargedInAct perPaymentMsat charges) now)
  let now := budget.breakerNow now
  let count := UInt64.ofNat (charges.countP fun charge => charge.amountMsat > 0)
  let total ← ofExcept ((checkedTotal charges).elim (.error .velocityLimit) .ok)
  ofExcept (budget.checkBreakers (budget.breakerStatus now) count total)
  reserveWithinInPlace charges perPaymentMsat.isNone
  if count > 0 then
    modify fun budget => { budget with
      breakerState := addToBucket budget.breakerState now fun bucket =>
        { payments := saturatingAdd bucket.payments count
          msat := saturatingAdd bucket.msat total } }

variable {charges perPaymentMsat now}

theorem run_forM_addUsed (entries : List (String × UInt64)) :
    ∀ budget : GrantBudget, (entries.forM fun entry => modify fun budget =>
      { budget with usedByRecipient := addUsed budget.usedByRecipient entry } :
        InPlace BudgetRefusal GrantBudget Unit).run.run budget =
      (.ok (),
        { budget with usedByRecipient := entries.foldl addUsed budget.usedByRecipient }) := by
  induction entries with
  | nil => exact fun _ => rfl
  | cons _ _ ih => exact fun _ => ih _

theorem reserveWithinInPlace_eq (perCallBound) :
    (reserveWithinInPlace charges perCallBound).run.run budget =
      InPlace.landed budget ((budget.reserveWithin charges perCallBound).map ((), ·)) := by
  rw [reserveWithinInPlace, InPlace.run_get_bind]
  refine InPlace.run_check_bind fun _ => ?_
  dsimp only
  split
  · rfl
  split
  · rfl
  exact InPlace.run_check_bind fun _ => run_forM_addUsed _ _

theorem reserveBoundedInPlace_eq :
    (reserveBoundedInPlace charges perPaymentMsat now).run.run budget =
      InPlace.landed budget ((budget.reserveBounded charges perPaymentMsat now).map ((), ·)) := by
  rw [reserveBoundedInPlace, InPlace.run_get_bind]
  refine InPlace.run_check_bind fun _ => InPlace.run_check_bind fun _ => ?_
  refine InPlace.run_check_bind fun _ => InPlace.run_check_bind fun _ => ?_
  rw [InPlace.run_bind, reserveWithinInPlace_eq]
  cases budget.reserveWithin charges perPaymentMsat.isNone with
  | error => rfl
  | ok =>
    dsimp only [Except.map, InPlace.landed, bind, Except.bind]
    split <;> rfl

/--
A refused reservation leaves the whole meter as it was.  An accepted one adds
the sums of its charges, which never wrap: to what is used, and to the use of
each recipient where those add up to no more than what is used.
-/
theorem reserve_all_or_nothing (budget charges) (perPaymentMsat now) :
    match (reserveBoundedInPlace charges perPaymentMsat now).run.run budget with
    | (.error _, after) => after = budget
    | (.ok (), after) => after.usedMsat.toNat =
        budget.usedMsat.toNat + (charges.map fun charge => charge.amountMsat.toNat).sum ∧
      (heldIn everyone budget.usedByRecipient ≤ budget.usedMsat.toNat → ∀ recipient,
        ((after.usedByRecipient.get? recipient).getD 0).toNat =
          ((budget.usedByRecipient.get? recipient).getD 0).toNat + (charges.map fun charge =>
            if charge.recipient = recipient then charge.amountMsat.toNat else 0).sum) := by
  rw [reserveBoundedInPlace_eq]
  cases reserved : budget.reserveBounded charges perPaymentMsat now with
  | error => rfl
  | ok =>
    have reserves := reserveBounded_ok reserved
    have charged := heldIn_charged reserved
    refine ⟨reserves.used.trans (congrArg _ (charged everyone)), fun within recipient => ?_⟩
    have counted := reserves.counted within (only recipient)
    rw [charged, heldIn_only, heldIn_only] at counted
    simpa [share, only] using counted

/-- A grant on which a recipient has used more than is used in all. -/
def overused : GrantBudget where
  budgetMsat := 10
  perCallMaxMsat := 10
  usedByRecipient := .singleton "r" 18446744073709551615

/-- The use of such a recipient wraps. -/
theorem reserve_wraps_recipient :
    ∃ after, (reserveBoundedInPlace [⟨"r", 1⟩] none 0).run.run overused = (.ok (), after) ∧
      after.usedByRecipient.get? "r" = some 0 := by
  refine ⟨_, rfl, ?_⟩
  decide +kernel

end

end GrantBudget

end BitSov.Spend
