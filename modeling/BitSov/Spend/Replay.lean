import BitSov.Spend.Ledger

namespace BitSov.Spend

open Ordered Arithmetic OrderedMap Option

/-!
# Replayed resolutions

A queue of resolutions is drained from its start after every interruption.
This module proves that a queue whose prefix was drained before is drained as
if there had been no interruption: a resolution that is repeated finds nothing
pending and changes nothing, and the cleanup of dead grants in between is that
of a later access.
-/

namespace GrantBudget

def pendingFor (budget : GrantBudget) (id recipient : String) : Option UInt64 :=
  (budget.pending.get? id).bind fun held => held.get? recipient

/--
A change that reserves nothing: what is not pending stays so, reservations
other than holds keep what they have, and there is no new hold.
-/
structure ReservesNothing (before after : GrantBudget) : Prop where
  absent : ∀ id recipient,
    before.pendingFor id recipient = none → after.pendingFor id recipient = none
  same : ∀ id recipient,
    before.callReservations.get? id = none →
      after.pendingFor id recipient = before.pendingFor id recipient
  holds : ∀ id, before.callReservations.get? id = none → after.callReservations.get? id = none

namespace ReservesNothing

variable {first second : GrantBudget}

theorem refl (budget) : ReservesNothing budget budget :=
  ⟨fun _ _ absent => absent, fun _ _ _ => rfl, fun _ noHold => noHold⟩

theorem trans (earlier : ReservesNothing first second) (later : ReservesNothing second third) :
    ReservesNothing first third where
  absent id recipient absent := later.absent id recipient (earlier.absent id recipient absent)
  same id recipient noHold := (later.same id recipient (earlier.holds id noHold)).trans
    (earlier.same id recipient noHold)
  holds id noHold := later.holds id (earlier.holds id noHold)

theorem of_pending_eq (samePending : second.pending = first.pending) (noHold : ∀ id,
      first.callReservations.get? id = none → second.callReservations.get? id = none) :
    ReservesNothing first second where
  absent id recipient absent := by
    rw [pendingFor, samePending]
    exact absent
  same id recipient _ := by
    rw [pendingFor, samePending, pendingFor]
  holds := noHold

end ReservesNothing

variable {budget : GrantBudget} {id : String}

theorem reservesNothing_resolve :
    ReservesNothing budget (budget.resolve recipient reserved actual) := by
  refine .of_pending_eq resolve_pending fun _ noHold => ?_
  rw [resolve_callReservations]
  exact noHold

theorem reservesNothing_recordOutcome (budget reserved actual)
    (now) : ReservesNothing budget (budget.recordOutcome reserved actual now) := by
  unfold recordOutcome
  split
  · exact .refl budget
  · exact .of_pending_eq rfl fun _ noHold => noHold

theorem reservesNothing_pruneCallTombstones (budget now) :
    ReservesNothing budget (budget.pruneCallTombstones now) := by
  refine .of_pending_eq rfl fun _ noHold => ?_
  rw [eq_none_iff_forall_ne_some]
  intro _ found
  have kept := get?_of_foldl_erase found
  rw [get?_mapValues, noHold] at kept
  cases kept

theorem get?_insert_eq_none {calls : OrderedMap String CallSpend} {replaced : CallSpend}
    {other : String} (found : calls.get? parent = some call) (noHold : calls.get? other = none) :
    (calls.insert parent replaced).get? other = none := by
  rw [get?_insert]
  split
  · next same =>
    rw [same, found] at noHold
    cases noHold
  · exact noHold

theorem reservesNothing_recordCallOutcome (budget id)
    (clock) : ReservesNothing budget (budget.recordCallOutcome id clock) := by
  unfold recordCallOutcome
  split
  · exact .refl budget
  next call found =>
  split
  · have receipt : ReservesNothing budget { budget with
      callReservations := budget.callReservations.insert id { call with
        outcomeRecorded := true, finishedAt := some clock.finished, paidSequences := .empty } } :=
      .of_pending_eq rfl fun _ noHold => get?_insert_eq_none found noHold
    refine receipt.trans (ReservesNothing.trans ?_ (reservesNothing_pruneCallTombstones _ _))
    split
    · exact reservesNothing_recordOutcome _ _ _ _
    · exact .refl _
  · exact .refl budget

/-- An open hold gets something back only where it has something. -/
theorem reservesNothing_returnToHold (drawn)
    (found : budget.callReservations.get? parent = some call) :
    ReservesNothing budget (budget.returnToHold parent peer drawn reserved actual) := by
  have returned : ReservesNothing budget
    { budget with
      callReservations := budget.callReservations.insert parent drawn
      pending := budget.pending.modify parent fun held => held.modify peer fun remaining =>
        saturatingAdd remaining (saturatingSub reserved actual) } := by
    refine ⟨?_, ?_, fun other noHold => get?_insert_eq_none found noHold⟩
    · intro other _ absent
      unfold pendingFor at absent ⊢
      rw [get?_modify]
      split
      · next same =>
        subst same
        cases held : budget.pending.get? other with
        | none => rfl
        | some =>
          rw [held, bind_some] at absent
          rw [map_some, bind_some, get?_modify]
          split
          · next sameRecipient =>
            subst sameRecipient
            rw [absent, map_none]
          · exact absent
      · exact absent
    · intro other _ noHold
      unfold pendingFor
      rw [get?_modify]
      split
      · next same =>
        rw [same, found] at noHold
        cases noHold
      · rfl
  unfold returnToHold
  split
  · exact returned.trans reservesNothing_resolve
  · exact returned

theorem reservesNothing_resolveCallDraw (budget id peer)
    (reserved actual paymentFailed clock) : ReservesNothing budget
      (budget.resolveCallDraw id peer reserved actual paymentFailed clock).1 := by
  unfold resolveCallDraw
  split
  · exact .refl budget
  next _ _ isParent =>
  have found := (get?_of_find?_eq_some isParent).1
  refine ReservesNothing.trans ?_ (reservesNothing_recordCallOutcome _ _ _)
  split
  · refine ReservesNothing.trans ?_ reservesNothing_resolve
    exact .of_pending_eq rfl fun _ noHold => get?_insert_eq_none found noHold
  · exact reservesNothing_returnToHold _ found

theorem pendingFor_takePending (isHeld : budget.pending.get? id = some held)
    (other otherRecipient) :
    (budget.takePending id recipient held).pendingFor other otherRecipient =
      if other = id ∧ otherRecipient = recipient then none
      else budget.pendingFor other otherRecipient := by
  unfold takePending pendingFor
  dsimp only
  have rest := held.get?_erase recipient otherRecipient
  by_cases same : other = id
  · subst same
    rw [isHeld, bind_some]
    by_cases isEmpty : (held.erase recipient).entries.isEmpty
    · rw [if_pos isEmpty]
      have nothing : (held.erase recipient).get? otherRecipient = none := by
        rw [get?, List.isEmpty_iff.mp isEmpty]
        rfl
      rw [get?_erase, if_pos rfl, bind_none]
      rw [rest] at nothing
      split
      · rfl
      next ne =>
      rw [if_neg fun same => ne ⟨rfl, same⟩] at nothing
      exact nothing.symm
    · rw [if_neg isEmpty, get?_insert, if_pos rfl, bind_some, rest]
      simp only [true_and]
  · have notBoth : ¬ (other = id ∧ otherRecipient = recipient) := fun both => same both.1
    rw [if_neg notBoth]
    split
    · rw [get?_erase, if_neg same]
    · rw [get?_insert, if_neg same]

theorem reservesNothing_afterTaking (consumed : budget.consumedBy id recipient = some reserved) :
    ∃ held, budget.pending.get? id = some held ∧
      ReservesNothing (budget.takePending id recipient held)
        (budget.resolveSpendOutcome id recipient actual paymentFailed clock).2 := by
  unfold consumedBy at consumed
  split at consumed
  · cases consumed
  next noHold =>
  obtain ⟨held, isHeld, isReserved⟩ := bind_eq_some_iff.mp consumed
  refine ⟨held, isHeld, ?_⟩
  unfold resolveSpendOutcome
  rw [if_neg noHold, isHeld]
  dsimp only
  rw [isReserved]
  dsimp only
  have drawn := reservesNothing_resolveCallDraw (budget.takePending id recipient held) id
    recipient reserved actual paymentFailed clock.call
  generalize (budget.takePending id recipient held).resolveCallDraw id recipient
    reserved actual paymentFailed clock.call = answered at drawn ⊢
  obtain ⟨_, isDraw⟩ := answered
  cases isDraw with
  | true => exact drawn
  | false => exact reservesNothing_resolve.trans (reservesNothing_recordOutcome _ _ _ _)

section

theorem pendingFor_resolveSpendOutcome_eq_none
    (absent : budget.pendingFor other otherRecipient = none) :
    (budget.resolveSpendOutcome id recipient actual paymentFailed
      clock).2.pendingFor other otherRecipient = none := by
  cases consumed : budget.consumedBy id recipient with
  | none =>
    rw [resolveSpendOutcome_eq_self consumed]
    exact absent
  | some =>
    obtain ⟨_, isHeld, reservesNothing⟩ := reservesNothing_afterTaking consumed
    apply reservesNothing.absent
    rw [pendingFor_takePending isHeld]
    split
    · rfl
    · exact absent

theorem pendingFor_resolveSpendOutcome_of_ne {other : String} (ne : other ≠ id)
    (noHold : budget.callReservations.get? other = none) (otherRecipient : String) :
    (budget.resolveSpendOutcome id recipient actual paymentFailed
      clock).2.pendingFor other otherRecipient = budget.pendingFor other otherRecipient ∧
      (budget.resolveSpendOutcome id recipient actual paymentFailed
        clock).2.callReservations.get? other = none := by
  cases consumed : budget.consumedBy id recipient with
  | none =>
    rw [resolveSpendOutcome_eq_self consumed]
    exact ⟨rfl, noHold⟩
  | some =>
    obtain ⟨held, isHeld, reservesNothing⟩ := reservesNothing_afterTaking consumed
    have stillNoHold : (budget.takePending id recipient held).callReservations.get? other =
      none := by
      rw [takePending_callReservations]
      exact noHold
    refine ⟨?_, reservesNothing.holds other stillNoHold⟩
    rw [reservesNothing.same other otherRecipient stillNoHold,
      pendingFor_takePending isHeld, if_neg fun both => ne both.1]

theorem resolveSpendOutcome_eq_ok_iff :
    (budget.resolveSpendOutcome id recipient actual paymentFailed clock).1 = .ok () ↔
      budget.callReservations.contains id = false := by
  unfold resolveSpendOutcome
  split
  · next isHold => simp [isHold]
  next noHold =>
  rw [Bool.not_eq_true] at noHold
  simp only [noHold, iff_true]
  split
  · rfl
  split
  · rfl
  split <;> rfl

end

end GrantBudget

/-- A resolution whose actual amount is known. -/
structure KnownOutcome where
  reservation : Reservation
  actualMsat : UInt64
  paymentFailed : Bool
  deriving Repr, DecidableEq

def Reservation.sameEntry (first second : Reservation) : Prop :=
  first.opId = second.opId ∧ first.clientId = second.clientId ∧ first.id = second.id

instance (first second : Reservation) : Decidable (first.sameEntry second) :=
  inferInstanceAs (Decidable (_ ∧ _))

def firstOutcomes : List KnownOutcome → List KnownOutcome
  | [] => []
  | outcome :: rest =>
    outcome :: (firstOutcomes rest).filter fun later =>
      ¬ later.reservation.sameEntry outcome.reservation

namespace PairingFile

/-- A reservation of which nothing is pending for a recipient. -/
def Resolved (file : PairingFile) (reservation : Reservation) (recipient : String) : Prop :=
  ∀ budget, file.debited reservation = some budget →
    budget.pendingFor reservation.id recipient = none

/-- One successful resolution, whatever the clock says. -/
def Resolves (recipient : String) (before : PairingFile) (outcome : KnownOutcome)
    (after : PairingFile) : Prop :=
  ∃ clock, before.tryResolveSpendOutcome outcome.reservation recipient
    outcome.actualMsat outcome.paymentFailed clock =
    (.ok (), after)

/-- Successful resolutions, one after the other. -/
inductive ResolvesAll (recipient : String) : PairingFile → List KnownOutcome → PairingFile → Prop
  | nil (file : PairingFile) : ResolvesAll recipient file [] file
  | cons {before between after : PairingFile} {outcome : KnownOutcome}
      {outcomes : List KnownOutcome} :
    Resolves recipient before outcome between →
    ResolvesAll recipient between outcomes after →
    ResolvesAll recipient before (outcome :: outcomes) after

section

variable {recipient : String} {before between after file : PairingFile} {outcome : KnownOutcome}
  {reservation : Reservation} {outcomes : List KnownOutcome}

/-- A resolution finds nothing, or consumes what is pending. -/
theorem resolves_iff : Resolves recipient before outcome after ↔ ∃ now, ((∀ budget,
      (before.retainLiveGrants now).debited outcome.reservation = some budget →
        budget.callReservations.contains outcome.reservation.id = false ∧
          budget.pendingFor outcome.reservation.id recipient = none) ∧
      after = before.retainLiveGrants now) ∨ ∃ budget reserved clock latest,
        (before.retainLiveGrants now).debited outcome.reservation = some budget ∧
          budget.consumedBy outcome.reservation.id recipient = some reserved ∧
          after = ((before.retainLiveGrants now).setDebited outcome.reservation
            (budget.resolveSpendOutcome outcome.reservation.id
              recipient outcome.actualMsat outcome.paymentFailed clock).2).retainLiveGrants
            latest := by
  constructor
  · rintro ⟨clock, answered⟩
    obtain ⟨now, opened⟩ := before.exists_lock_eq clock.lock
    refine ⟨now, ?_⟩
    unfold tryResolveSpendOutcome at answered
    dsimp only at answered
    rw [opened] at answered
    cases found : (before.retainLiveGrants now).debited outcome.reservation with
    | none =>
      rw [found] at answered
      refine .inl ⟨?_, (congrArg Prod.snd answered).symm⟩
      rintro _ ⟨⟩
    | some budget =>
      rw [found] at answered
      dsimp only at answered
      generalize isResolved : budget.resolveSpendOutcome outcome.reservation.id recipient
        outcome.actualMsat outcome.paymentFailed clock.outcome = result at answered
      obtain ⟨verdict, resolved⟩ := result
      cases verdict with
      | error error => simp at answered
      | ok =>
        have noHold : budget.callReservations.contains outcome.reservation.id = false :=
          GrantBudget.resolveSpendOutcome_eq_ok_iff.mp (congrArg Prod.fst isResolved)
        cases consumed : budget.consumedBy outcome.reservation.id recipient with
        | none =>
          rw [consumed] at answered
          refine .inl ⟨?_, (congrArg Prod.snd answered).symm⟩
          rintro _ ⟨⟩
          rw [GrantBudget.consumedBy, noHold] at consumed
          exact ⟨noHold, consumed⟩
        | some reserved =>
          rw [consumed] at answered
          obtain ⟨latest, written⟩ := exists_persist_eq
            ((before.retainLiveGrants now).setDebited outcome.reservation resolved)
            clock.first clock.more
          refine .inr ⟨budget, reserved, clock.outcome, latest, rfl, consumed, ?_⟩
          rw [isResolved]
          exact (congrArg Prod.snd answered).symm.trans written
  · rintro ⟨now, ⟨idle, rfl⟩ | ⟨budget, reserved, outcomeClock, latest, found, consumed, rfl⟩⟩
    · refine
      ⟨{ lock := { now, first := now }
         outcome :=
           { call := { finished := now, recorded := now, pruned := now }
             recorded := now }
         first := now }, ?_⟩
      unfold tryResolveSpendOutcome
      dsimp only
      rw [lock_eq]
      cases found : (before.retainLiveGrants now).debited outcome.reservation with
      | none => rfl
      | some budget =>
        obtain ⟨noHold, absent⟩ := idle budget found
        have consumed : budget.consumedBy outcome.reservation.id recipient = none := by
          rw [GrantBudget.consumedBy, noHold]
          exact absent
        dsimp only
        generalize isResolved : budget.resolveSpendOutcome outcome.reservation.id recipient
          outcome.actualMsat outcome.paymentFailed
          { call := { finished := now, recorded := now, pruned := now }
            recorded := now } = result
        obtain ⟨verdict, resolved⟩ := result
        have succeeded : verdict = .ok () := (congrArg Prod.fst isResolved).symm.trans
          (GrantBudget.resolveSpendOutcome_eq_ok_iff.mpr noHold)
        rw [succeeded, consumed]
        rfl
    · refine
      ⟨{ lock := { now, first := now }
         outcome := outcomeClock
         first := latest }, ?_⟩
      unfold tryResolveSpendOutcome
      dsimp only
      rw [lock_eq, found]
      dsimp only
      have noHold : budget.callReservations.contains outcome.reservation.id = false := by
        unfold GrantBudget.consumedBy at consumed
        split at consumed
        · cases consumed
        · next noHold => exact Bool.not_eq_true _ ▸ noHold
      generalize isResolved : budget.resolveSpendOutcome outcome.reservation.id recipient
        outcome.actualMsat outcome.paymentFailed outcomeClock = result
      obtain ⟨verdict, resolved⟩ := result
      have succeeded : verdict = .ok () := (congrArg Prod.fst isResolved).symm.trans
        (GrantBudget.resolveSpendOutcome_eq_ok_iff.mpr noHold)
      rw [succeeded, consumed]
      rfl

theorem Resolves.of_retainLiveGrants
    (resolves : Resolves recipient (before.retainLiveGrants now) outcome after) :
    Resolves recipient before outcome after := by
  rw [resolves_iff] at resolves ⊢
  obtain ⟨later, resolves⟩ := resolves
  rw [retainLiveGrants_retainLiveGrants] at resolves
  exact ⟨max now later, resolves⟩

theorem Resolves.retainLiveGrants (resolves : Resolves recipient before outcome after) (now) :
    Resolves recipient before outcome (after.retainLiveGrants now) := by
  rw [resolves_iff] at resolves ⊢
  obtain ⟨opened, ⟨idle, rfl⟩ | ⟨budget, reserved, clock, latest, found, consumed, rfl⟩⟩ := resolves
  · refine ⟨max opened now, .inl ?_⟩
    rw [retainLiveGrants_retainLiveGrants]
    refine ⟨fun budget found => ?_, rfl⟩
    rw [← retainLiveGrants_retainLiveGrants] at found
    exact idle budget (debited_of_retainLiveGrants found)
  · refine ⟨opened, .inr ⟨budget, reserved, clock, max latest now, found, consumed, ?_⟩⟩
    rw [retainLiveGrants_retainLiveGrants]

theorem Resolved.retainLiveGrants (resolved : Resolved file reservation recipient) (now) :
    Resolved (file.retainLiveGrants now) reservation recipient :=
  fun budget found => resolved budget (debited_of_retainLiveGrants found)

theorem Resolves.resolved (resolves : Resolves recipient before outcome after) :
    Resolved after outcome.reservation recipient := by
  rw [resolves_iff] at resolves
  obtain ⟨_, ⟨idle, rfl⟩ | ⟨budget, _, _, _, found, consumed, rfl⟩⟩ := resolves
  · exact fun budget found => (idle budget found).2
  apply Resolved.retainLiveGrants
  intro _ isResolved
  rw [debited_setDebited_self found] at isResolved
  rw [← some.inj isResolved]
  obtain ⟨_, isHeld, reservesNothing⟩ := GrantBudget.reservesNothing_afterTaking consumed
  apply reservesNothing.absent
  rw [GrantBudget.pendingFor_takePending isHeld, if_pos ⟨rfl, rfl⟩]

theorem Resolved.step (resolved : Resolved before reservation recipient)
    (resolves : Resolves recipient before outcome after) :
    Resolved after reservation recipient := by
  rw [resolves_iff] at resolves
  obtain ⟨now, ⟨_, rfl⟩ | ⟨_, _, _, _, found, _, rfl⟩⟩ := resolves
  · exact resolved.retainLiveGrants now
  apply Resolved.retainLiveGrants
  have opened := resolved.retainLiveGrants now
  by_cases sameGrant : reservation.opId = outcome.reservation.opId ∧
    reservation.clientId = outcome.reservation.clientId
  · intro _ isReplaced
    rw [debited_congr sameGrant.1 sameGrant.2, debited_setDebited_self found] at isReplaced
    rw [← some.inj isReplaced]
    apply GrantBudget.pendingFor_resolveSpendOutcome_eq_none
    apply opened
    rw [debited_congr sameGrant.1 sameGrant.2]
    exact found
  · intro other isOther
    rw [not_and_or] at sameGrant
    rw [debited_setDebited_of_ne sameGrant] at isOther
    exact opened other isOther

theorem Resolved.resolves_eq (resolved : Resolved before outcome.reservation recipient)
    (resolves : Resolves recipient before outcome after) :
    ∃ now, after = before.retainLiveGrants now := by
  rw [resolves_iff] at resolves
  obtain ⟨now, ⟨_, rfl⟩ | ⟨budget, _, _, _, found, consumed, rfl⟩⟩ := resolves
  · exact ⟨now, rfl⟩
  have absent := resolved.retainLiveGrants now budget found
  unfold GrantBudget.consumedBy at consumed
  split at consumed
  · cases consumed
  · rw [GrantBudget.pendingFor, consumed] at absent
    cases absent

theorem resolvesAll_nil_iff : ResolvesAll recipient before [] after ↔ after = before := by
  constructor
  · rintro ⟨⟩
    rfl
  · rintro rfl
    exact .nil _

theorem resolvesAll_cons_iff : ResolvesAll recipient before (outcome :: outcomes) after ↔
      ∃ between, Resolves recipient before outcome between ∧
        ResolvesAll recipient between outcomes after := by
  constructor
  · rintro (_ | ⟨resolves, rest⟩)
    exact ⟨_, resolves, rest⟩
  · rintro ⟨_, resolves, rest⟩
    exact .cons resolves rest

theorem ResolvesAll.of_retainLiveGrants
    (all : ResolvesAll recipient (before.retainLiveGrants now) outcomes after)
    (nonempty : outcomes ≠ []) : ResolvesAll recipient before outcomes after := by
  cases all with
  | nil => exact absurd rfl nonempty
  | cons resolves rest => exact .cons resolves.of_retainLiveGrants rest

/--
The first outcomes of a queue have been resolved.  An attempt at the next one
may have dropped dead grants.
-/
inductive PartlyResolves (recipient : String) : PairingFile → List KnownOutcome → PairingFile → Prop
  | refl (file : PairingFile) (outcomes : List KnownOutcome) :
      PartlyResolves recipient file outcomes file
  | retainLiveGrants (file : PairingFile) {outcomes : List KnownOutcome} (nonempty : outcomes ≠ [])
      (now : Int) : PartlyResolves recipient file outcomes (file.retainLiveGrants now)
  | cons {before between after : PairingFile} {outcome : KnownOutcome}
      {outcomes : List KnownOutcome} :
    Resolves recipient before outcome between →
    PartlyResolves recipient between outcomes after →
    PartlyResolves recipient before (outcome :: outcomes) after

theorem PartlyResolves.of_resolvesAll (all : ResolvesAll recipient before outcomes after) :
    PartlyResolves recipient before outcomes after := by
  induction all with
  | nil file => exact .refl file []
  | cons resolves _ ih => exact .cons resolves ih

theorem PartlyResolves.eq_of_nil (partly : PartlyResolves recipient before [] after) :
    after = before := by
  cases partly with
  | refl => rfl
  | retainLiveGrants _ nonempty => exact absurd rfl nonempty

theorem Resolved.partly (resolved : Resolved before reservation recipient)
    (partly : PartlyResolves recipient before outcomes after) :
    Resolved after reservation recipient := by
  induction partly with
  | refl => exact resolved
  | retainLiveGrants _ _ now => exact resolved.retainLiveGrants now
  | cons resolves _ ih => exact ih (resolved.step resolves)

/--
A queue of which a part was resolved and that is then resolved from its start
is resolved as if there had been no interruption.
-/
theorem PartlyResolves.replay (prior : PartlyResolves recipient before outcomes between)
    (all : ResolvesAll recipient between outcomes after) :
    ResolvesAll recipient before outcomes after := by
  induction prior with
  | refl => exact all
  | retainLiveGrants _ nonempty => exact all.of_retainLiveGrants nonempty
  | @cons before opened between outcome outcomes resolves partly ih =>
    obtain ⟨_, again, rest⟩ := resolvesAll_cons_iff.mp all
    -- The outcome was resolved before, so only dead grants are dropped.
    obtain ⟨now, rfl⟩ := (resolves.resolved.partly partly).resolves_eq again
    cases outcomes with
    | nil =>
      obtain rfl := partly.eq_of_nil
      obtain rfl := resolvesAll_nil_iff.mp rest
      exact .cons (resolves.retainLiveGrants now) (.nil _)
    | cons _ outcomes => exact .cons resolves (ih (rest.of_retainLiveGrants (by simp)))

theorem Resolved.congr (resolved : Resolved file reservation recipient)
    (same : other.sameEntry reservation) : Resolved file other recipient := by
  intro budget found
  rw [debited_congr same.1 same.2.1] at found
  rw [same.2.2]
  exact resolved budget found

theorem ResolvesAll.filter_resolved (resolved : Resolved before reservation recipient)
    (all : ResolvesAll recipient before outcomes after) :
    ∃ opened, (opened = before ∨ ∃ now, opened = before.retainLiveGrants now) ∧
      ResolvesAll recipient opened
        (outcomes.filter fun later => ¬ later.reservation.sameEntry reservation) after := by
  induction all with
  | nil file => exact ⟨file, .inl rfl, .nil file⟩
  | @cons before between after outcome outcomes resolves rest ih =>
    obtain ⟨opened, isOpened, remaining⟩ := ih (resolved.step resolves)
    by_cases same : outcome.reservation.sameEntry reservation
    · obtain ⟨now, rfl⟩ := (resolved.congr same).resolves_eq resolves
      rw [List.filter_cons_of_neg (by simpa using same)]
      refine ⟨opened, .inr ?_, remaining⟩
      rcases isOpened with rfl | ⟨latest, rfl⟩
      · exact ⟨now, rfl⟩
      · exact ⟨_, retainLiveGrants_retainLiveGrants _ _ _⟩
    rw [List.filter_cons_of_pos (by simpa using same)]
    refine ⟨before, .inl rfl, .cons ?_ remaining⟩
    rcases isOpened with rfl | ⟨latest, rfl⟩
    · exact resolves
    · exact resolves.retainLiveGrants latest

theorem ResolvesAll.firstOutcomes (all : ResolvesAll recipient before outcomes after) :
    ResolvesAll recipient before (firstOutcomes outcomes) after := by
  induction all with
  | nil file => exact .nil file
  | cons resolves _ ih =>
    obtain ⟨_, isOpened, remaining⟩ := ih.filter_resolved resolves.resolved
    refine .cons ?_ remaining
    rcases isOpened with rfl | ⟨latest, rfl⟩
    · exact resolves
    · exact resolves.retainLiveGrants latest

/-- Resolutions of other reservations leave one as it is. -/
theorem ResolvesAll.pendingFor_eq (all : ResolvesAll recipient before outcomes after)
    (unnamed : ∀ outcome ∈ outcomes, ¬ reservation.sameEntry outcome.reservation)
    (found : after.debited reservation = some budget) :
    ∃ old, before.debited reservation = some old ∧
      (old.callReservations.get? reservation.id = none →
        budget.pendingFor reservation.id recipient = old.pendingFor reservation.id recipient ∧
          budget.callReservations.get? reservation.id = none) := by
  induction all with
  | nil => exact ⟨budget, found, fun noHold => ⟨rfl, noHold⟩⟩
  | @cons before between after outcome outcomes resolves rest ih =>
    obtain ⟨middle, foundMiddle, sameMiddle⟩ := ih
      (fun later mem => unnamed later (List.mem_cons_of_mem _ mem))
      found
    rw [resolves_iff] at resolves
    obtain ⟨_, ⟨_, rfl⟩ | ⟨debited, _, clock, _, foundDebited, _, rfl⟩⟩ := resolves
    · exact ⟨middle, debited_of_retainLiveGrants foundMiddle, sameMiddle⟩
    have replaced := debited_of_retainLiveGrants foundMiddle
    by_cases sameGrant : reservation.opId = outcome.reservation.opId ∧
      reservation.clientId = outcome.reservation.clientId
    · rw [debited_congr sameGrant.1 sameGrant.2, debited_setDebited_self foundDebited] at replaced
      cases replaced
      refine ⟨debited, ?_, fun noHold => ?_⟩
      · apply debited_of_retainLiveGrants
        rw [debited_congr sameGrant.1 sameGrant.2]
        exact foundDebited
      have ne : reservation.id ≠ outcome.reservation.id := fun sameId =>
      unnamed outcome List.mem_cons_self ⟨sameGrant.1, sameGrant.2, sameId⟩
      have untouched := @GrantBudget.pendingFor_resolveSpendOutcome_of_ne debited
        outcome.reservation.id recipient outcome.actualMsat
        outcome.paymentFailed clock reservation.id ne noHold
        recipient
      obtain ⟨samePending, stillNoHold⟩ := sameMiddle untouched.2
      exact ⟨samePending.trans untouched.1, stillNoHold⟩
    · rw [not_and_or] at sameGrant
      rw [debited_setDebited_of_ne sameGrant] at replaced
      exact ⟨middle, debited_of_retainLiveGrants replaced, sameMiddle⟩

end

end PairingFile

end BitSov.Spend
