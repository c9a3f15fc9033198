import BitSov.Outbox.Store

namespace BitSov.Outbox

open Spend BudgetResolution List

variable {reservation : Reservation} {queue : List BudgetResolution} {data : Recovery}

/-!
# The queue of budget resolutions

A recovery queues what the recorded evidence proves and later takes the known
entries off the queue.  Both are stable: queueing from the same evidence again
changes nothing, neither on the queue it has made nor on what a drain leaves of
that queue.  A row that was saved at either point is therefore one that the
next recovery takes as it is.
-/

theorem mergeResolution_mergeResolution (reservation actualMsat)
    (paymentFailed queue) : mergeResolution reservation actualMsat paymentFailed
      (mergeResolution reservation actualMsat paymentFailed queue) =
      mergeResolution reservation actualMsat paymentFailed queue := by
  induction queue with
  | nil => cases actualMsat <;> simp [mergeResolution, resolvesFor]
  | cons existing _ ih =>
    by_cases same : existing.resolvesFor reservation
    · have stillSame : existing.reservation.id = reservation.id ∧
        existing.reservation.opId = reservation.opId := by
        simpa [resolvesFor] using same
      cases known : existing.actualMsat <;> cases actualMsat <;>
        simp [mergeResolution, resolvesFor, stillSame, known]
    · simp [mergeResolution, same, ih]

variable {actualMsat : Option UInt64} {paymentFailed : Bool}

theorem mergeResolution_filter_unknown
    (unresolved : ∀ resolution ∈ mergeResolution reservation actualMsat paymentFailed queue,
      resolution.resolvesFor reservation → resolution.actualMsat = none) :
    mergeResolution reservation actualMsat paymentFailed
      ((mergeResolution reservation actualMsat paymentFailed queue).filter
        fun resolution => resolution.actualMsat.isNone) =
      (mergeResolution reservation actualMsat paymentFailed queue).filter
        fun resolution => resolution.actualMsat.isNone := by
  induction queue with
  | nil =>
    have unknown : actualMsat = none := by
      apply unresolved ⟨reservation, paymentFailed, actualMsat⟩
      · simp [mergeResolution]
      · simp [resolvesFor]
    simp [unknown, mergeResolution, resolvesFor]
  | cons existing _ ih =>
    by_cases same : existing.resolvesFor reservation
    · have stillSame : existing.reservation.id = reservation.id ∧
        existing.reservation.opId = reservation.opId := by
        simpa [resolvesFor] using same
      simp only [mergeResolution, same, if_true] at unresolved ⊢
      have unknown := unresolved _ mem_cons_self (by simp [resolvesFor, stillSame])
      have bothUnknown : existing.actualMsat = none ∧ actualMsat = none := by
        cases known : existing.actualMsat with
        | none => simpa [known] using unknown
        | some => simp [known] at unknown
      simp [bothUnknown, mergeResolution, resolvesFor, stillSame]
    · simp only [mergeResolution, same] at unresolved ⊢
      have restUnchanged := ih fun resolution mem => unresolved resolution (mem_cons_of_mem _ mem)
      cases known : existing.actualMsat with
      | none => simp [known, mergeResolution, same, restUnchanged]
      | some => simp [known, restUnchanged]

variable (op : OutboxOperation)

/-- The charge that the recorded evidence proves, if it proves one. -/
def recoveredCharge (data : Recovery) : Option (UInt64 × Option UInt64) :=
  match data.settlement.filter (settlementMatches op data) with
  | some details => some (details.amountMsat, details.feeMsat)
  | none =>
    if op.state = .released ∨
      (!data.dispatched && !data.admissionPending && !data.envelopeReady) ∨
      (data.envelopeReady && !data.dispatched &&
        data.expectedMsat = 0 &&
        data.draft.any fun envelope => envelope.paymentProof.amountMsat = 0) then
      some (0, some 0)
    else none

theorem queueRecovered_eq (data) : queueRecovered op data = match recoveredCharge op data with
      | none => data
      | some charge => queueMessageResolution data charge.1 charge.2 := by
  unfold queueRecovered recoveredCharge
  cases data.settlement.filter (settlementMatches op data) with
  | some => rfl
  | none =>
    dsimp only
    split <;> rfl

theorem queueMessageResolution_of_held (held : data.reservation = some reservation)
    (principal fee) : queueMessageResolution data principal fee =
      queueResolution data reservation (messageTotal data principal fee) := by
  simp only [queueMessageResolution, held]

theorem queueMessageResolution_of_none (held : data.reservation = none) (principal)
    (fee) : queueMessageResolution data principal fee = data := by
  simp only [queueMessageResolution, held]

theorem queueMessageResolution_queueMessageResolution (data principal fee) :
    queueMessageResolution (queueMessageResolution data principal fee) principal fee =
      queueMessageResolution data principal fee := by
  cases held : data.reservation with
  | none => simp only [queueMessageResolution_of_none held]
  | some reservation =>
    rw [queueMessageResolution_of_held held]
    rw [queueMessageResolution_of_held
      (show (queueResolution data reservation _).reservation = _ from held)]
    exact congrArg (fun queue => { data with budgetResolutions := queue })
      (mergeResolution_mergeResolution reservation _ _ _)

theorem recoveredCharge_queueMessageResolution (data principal fee) :
    recoveredCharge op (queueMessageResolution data principal fee) = recoveredCharge op data := by
  cases held : data.reservation with
  | none => rw [queueMessageResolution_of_none held]
  | some reservation =>
    rw [queueMessageResolution_of_held held]
    rfl

theorem queueRecovered_queueRecovered (data) :
    queueRecovered op (queueRecovered op data) = queueRecovered op data := by
  rw [queueRecovered_eq op data]
  cases charged : recoveredCharge op data with
  | none => rw [queueRecovered_eq, charged]
  | some =>
    rw [queueRecovered_eq, recoveredCharge_queueMessageResolution, charged]
    exact queueMessageResolution_queueMessageResolution _ _ _

/-- A record with other reservations and another queue. -/
def Recovery.holding (data : Recovery) (reservation admissionReservation : Option Reservation)
    (queue : List BudgetResolution) : Recovery :=
  { data with reservation, admissionReservation, budgetResolutions := queue }

/-- Forget the reservations that have been resolved. -/
def Recovery.forgetAll (data : Recovery) (outcomes : List KnownOutcome) : Recovery :=
  outcomes.foldl (fun kept outcome => kept.forget outcome.reservation) data

theorem Recovery.forgetAll_eq (data : Recovery) (outcomes) :
    data.forgetAll outcomes = data.holding (data.forgetAll outcomes).reservation
      (data.forgetAll outcomes).admissionReservation data.budgetResolutions := by
  induction outcomes generalizing data with
  | nil => rfl
  | cons outcome _ ih => exact ih (data.forget outcome.reservation)

theorem stillHeld_eq_some_iff :
    stillHeld resolved held = some reservation ↔ held = some reservation ∧
      ¬ (reservation.id = resolved.id ∧ reservation.opId = resolved.opId) := by
  unfold stillHeld
  cases held with
  | none => simp
  | some other =>
    obtain rfl | ne := eq_or_ne other reservation
    · simp
    · simp [ne]

theorem Recovery.reservation_forgetAll :
    (data.forgetAll outcomes).reservation = some reservation ↔ data.reservation = some reservation ∧
      ∀ outcome ∈ outcomes, ¬ (reservation.id = outcome.reservation.id ∧
        reservation.opId = outcome.reservation.opId) := by
  induction outcomes generalizing data with
  | nil => simp [forgetAll]
  | cons _ _ ih =>
    rw [forall_mem_cons, ← and_assoc, ← stillHeld_eq_some_iff]
    exact ih

theorem Recovery.admissionReservation_forgetAll :
    (data.forgetAll outcomes).admissionReservation = some reservation ↔
      data.admissionReservation = some reservation ∧ ∀ outcome ∈ outcomes,
        ¬ (reservation.id = outcome.reservation.id ∧
          reservation.opId = outcome.reservation.opId) := by
  induction outcomes generalizing data with
  | nil => simp [forgetAll]
  | cons _ _ ih =>
    rw [forall_mem_cons, ← and_assoc, ← stillHeld_eq_some_iff]
    exact ih

/-- What a drain leaves in the recovery record. -/
def Recovery.drained (data : Recovery) : Recovery :=
  { data.forgetAll (knownOutcomes data.budgetResolutions) with
    budgetResolutions := data.budgetResolutions.filter fun resolution =>
      resolution.actualMsat.isNone }

theorem mem_knownOutcomes_iff : outcome ∈ knownOutcomes queue ↔
      ⟨outcome.reservation, outcome.paymentFailed, some outcome.actualMsat⟩ ∈ queue := by
  simp only [knownOutcomes, mem_filterMap, Option.map_eq_some_iff]
  constructor
  · rintro ⟨⟨_, _, _⟩, mem, _, rfl, rfl⟩
    exact mem
  · intro mem
    exact ⟨_, mem, _, rfl, rfl⟩

theorem Recovery.drained_eq (data : Recovery) :
    data.drained = data.holding data.drained.reservation data.drained.admissionReservation
      (data.budgetResolutions.filter fun resolution => resolution.actualMsat.isNone) :=
  congrArg (fun kept => { kept with
    budgetResolutions := data.budgetResolutions.filter fun resolution =>
      resolution.actualMsat.isNone })
    (data.forgetAll_eq _)

theorem queueMessageResolution_drained (data principal fee) :
    queueMessageResolution (queueMessageResolution data principal fee).drained principal fee =
      (queueMessageResolution data principal fee).drained := by
  cases held : (queueMessageResolution data principal fee).drained.reservation with
  | none => exact queueMessageResolution_of_none held _ _
  | some reservation =>
    obtain ⟨heldQueued, notResolved⟩ := Recovery.reservation_forgetAll.mp held
    rw [queueMessageResolution_of_held held]
    cases heldFirst : data.reservation with
    | none =>
      rw [queueMessageResolution_of_none heldFirst, heldFirst] at heldQueued
      cases heldQueued
    | some first =>
      rw [queueMessageResolution_of_held heldFirst] at heldQueued ⊢
      obtain rfl : first = reservation := Option.some.inj (heldFirst.symm.trans heldQueued)
      have unresolved : ∀ resolution ∈ (queueResolution data first
        (messageTotal data principal fee)).budgetResolutions,
        resolution.resolvesFor first → resolution.actualMsat = none := by
        intro resolution mem same
        rw [queueMessageResolution_of_held heldFirst] at notResolved
        by_contra known
        obtain ⟨actual, isActual⟩ := Option.ne_none_iff_exists'.mp known
        apply notResolved ⟨resolution.reservation, actual, resolution.paymentFailed⟩
        · rw [mem_knownOutcomes_iff, ← isActual]
          exact mem
        · simp only [resolvesFor, Bool.and_eq_true, decide_eq_true_eq] at same
          exact ⟨same.1.symm, same.2.symm⟩
      rw [Recovery.drained_eq]
      exact congrArg (Recovery.holding _ _ _) (mergeResolution_filter_unknown unresolved)

theorem recoveredCharge_drained (data : Recovery) :
    recoveredCharge op data.drained = recoveredCharge op data := by
  rw [data.drained_eq]
  rfl

theorem queueRecovered_drained (data) :
    queueRecovered op (queueRecovered op data).drained = (queueRecovered op data).drained := by
  rw [queueRecovered_eq op (Recovery.drained _), recoveredCharge_drained]
  rw [queueRecovered_eq op data]
  cases charged : recoveredCharge op data with
  | none => rw [charged]
  | some =>
    rw [recoveredCharge_queueMessageResolution, charged]
    exact queueMessageResolution_drained _ _ _

def Recovery.References (data : Recovery) (reservation : Reservation) : Prop :=
  data.reservation = some reservation ∨
    data.admissionReservation = some reservation ∨
    ∃ resolution ∈ data.budgetResolutions, resolution.reservation = reservation

theorem exists_mem_mergeResolution
    (referred : ∃ resolution ∈ queue, resolution.reservation = other) :
    ∃ resolution ∈ mergeResolution reservation actualMsat paymentFailed queue,
      resolution.reservation = other := by
  induction queue with
  | nil => simp at referred
  | cons _ _ ih =>
    unfold mergeResolution
    rw [exists_mem_cons_iff] at referred
    split
    · rw [exists_mem_cons_iff]
      exact referred
    · rw [exists_mem_cons_iff]
      exact referred.imp_right ih

theorem Recovery.References.queueRecovered (refs : data.References reservation)
    (op) : (queueRecovered op data).References reservation := by
  rw [queueRecovered_eq]
  split
  · exact refs
  next _ _ =>
  cases held : data.reservation with
  | none =>
    rw [queueMessageResolution_of_none held]
    exact refs
  | some =>
    rw [queueMessageResolution_of_held held]
    rcases refs with isHeld | isHeld | isQueued
    · exact .inl isHeld
    · exact .inr (.inl isHeld)
    · exact .inr (.inr (exists_mem_mergeResolution isQueued))

theorem Recovery.References.drained (refs : data.References reservation)
    (unknown : ∀ outcome ∈ knownOutcomes data.budgetResolutions,
      ¬ (reservation.id = outcome.reservation.id ∧ reservation.opId = outcome.reservation.opId)) :
    data.drained.References reservation := by
  rcases refs with isHeld | isHeld | ⟨resolution, mem, rfl⟩
  · exact .inl (reservation_forgetAll.mpr ⟨isHeld, unknown⟩)
  · exact .inr (.inl (admissionReservation_forgetAll.mpr ⟨isHeld, unknown⟩))
  refine .inr (.inr ⟨resolution, mem_filter.mpr ⟨mem, ?_⟩, rfl⟩)
  cases known : resolution.actualMsat with
  | none => rfl
  | some actual =>
    have isKnown : ⟨resolution.reservation, actual, resolution.paymentFailed⟩ ∈
      knownOutcomes data.budgetResolutions := by
      rw [mem_knownOutcomes_iff, ← known]
      exact mem
    exact absurd ⟨rfl, rfl⟩ (unknown _ isKnown)

end BitSov.Outbox
