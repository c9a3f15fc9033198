import BitSov.Process.Execution
import BitSov.Outbox.BudgetQueue

namespace BitSov.Outbox

open Core Spend Process Process.Fallible
open PairingFile (PartlyResolves Resolves ResolvesAll)

/-!
# Recovering the budget of an interrupted operation

The queue of resolutions lives in the outbox row and the reservations in the
grant ledger, and no transaction spans the two.  A recovery first saves the
queue, then resolves its known entries in the ledger, and last takes them off
the queue.  A run that is interrupted anywhere leaves a row from which the next
run resumes; this module proves that the run that completes ends where one
uninterrupted run would have ended.
-/

@[ext] structure Desk where
  table : OutboxTable
  ledger : PairingFile

/--
What the calls of a recovery do to its stores.  A store call that reports an
error may have taken effect or not, and a failed resolution may still have
dropped dead grants.
-/
def Desk.effect (before : Desk) : (operation : OutboxOp) → operation.Answer → Desk → Prop
  | .now, _, after => after = before
  | .updateOperation op, .ok saved, after =>
    before.table.updateOutboxOperation op = (saved, after.table) ∧ after.ledger = before.ledger
  | .updateOperation op, .error _, after =>
    after = before ∨ after = { before with table := (before.table.updateOutboxOperation op).2 }
  | .tryResolveSpendOutcome reservation recipient actualMsat paymentFailed,
    .ok (), after =>
    after.table = before.table ∧
      Resolves recipient before.ledger
        ⟨reservation, actualMsat, paymentFailed⟩ after.ledger
  | .tryResolveSpendOutcome reservation recipient actualMsat paymentFailed,
    .error _, after =>
    after.table = before.table ∧
      (after.ledger = before.ledger ∨
        (∃ now, after.ledger = before.ledger.retainLiveGrants now) ∨
        Resolves recipient before.ledger
          ⟨reservation, actualMsat, paymentFailed⟩ after.ledger)
  -- A recovery makes no other call.
  | _, _, _ => False

open Desk (effect ext)

/-- A row as it is stored after a save. -/
def OutboxOperation.saved (op : OutboxOperation) (now : Int) : OutboxOperation :=
  { op with updatedAt := now, version := op.version + 1 }

/-- A row that was loaded and changed in the columns an update writes. -/
structure OutboxOperation.Revises (op stored : OutboxOperation) : Prop where
  operationId : op.operationId = stored.operationId
  recipient : op.recipient = stored.recipient
  kind : op.kind = stored.kind
  requestHash : op.requestHash = stored.requestHash
  createdAt : op.createdAt = stored.createdAt
  version : op.version = stored.version

theorem revises_encode (op data) : (encode op data).Revises op := ⟨rfl, rfl, rfl, rfl, rfl, rfl⟩

variable {table : OutboxTable} {op stored : OutboxOperation}

theorem OutboxTable.updateOutboxOperation_of_revises
    (found : table.row stored.operationId = some stored) (revises : op.Revises stored) :
    table.updateOutboxOperation op = (true, table.put { op with version := op.version + 1 }) := by
  have overwritten : stored.overwrite op = { op with version := op.version + 1 } := by
    simp only [OutboxOperation.overwrite, ← revises.operationId,
      ← revises.recipient, ← revises.kind, ← revises.requestHash,
      ← revises.createdAt, ← revises.version]
  have foundOp : table.row op.operationId = some stored := by
    rw [revises.operationId]
    exact found
  rw [updateOutboxOperation, foundOp]
  dsimp only
  rw [if_pos revises.version.symm, overwritten]

theorem updateOutboxOperation_of_stamped (found : table.row stored.operationId = some stored)
    (revises : op.Revises stored) (now : Int) :
    table.updateOutboxOperation { op with updatedAt := now } = (true, table.put (op.saved now)) :=
  OutboxTable.updateOutboxOperation_of_revises found
    ⟨revises.1, revises.2, revises.3, revises.4, revises.5, revises.6⟩

section

variable {state : AppState} {before : Desk} {op stored : OutboxOperation}
  {data : Recovery} {resolution : BudgetResolution} {queue : List BudgetResolution}

theorem completes_save_iff (found : before.table.row stored.operationId = some stored)
    (revises : op.Revises stored) : Completes effect (save op) before after result ↔
      ∃ now, result = op.saved now ∧ after = { before with table := before.table.put result } := by
  have updated (now : Int) := updateOutboxOperation_of_stamped found revises now
  unfold save OutboxM.now OutboxM.ofStore
  rw [completes_ask_bind_iff]
  constructor
  · rintro ⟨_, now, rfl, completes⟩
    rw [completes_ask_bind_iff] at completes
    obtain ⟨_, answer, effective, completes⟩ := completes
    rw [completes_known_bind_iff] at completes
    obtain ⟨saved, answered, completes⟩ := completes
    cases answer with
    | error => cases answered
    | ok isSaved =>
      obtain rfl : isSaved = saved := Except.ok.inj answered
      obtain ⟨effective, sameLedger⟩ := effective
      rw [updated now, Prod.mk.injEq] at effective
      obtain ⟨rfl, sameTable⟩ := effective
      rw [if_pos rfl, completes_pure_iff] at completes
      obtain ⟨rfl, rfl⟩ := completes
      exact ⟨now, rfl, ext sameTable.symm sameLedger⟩
  · rintro ⟨now, rfl, rfl⟩
    refine ⟨before, now, rfl, ?_⟩
    rw [completes_ask_bind_iff]
    refine ⟨{ before with table := before.table.put (op.saved now) }, .ok true,
      ⟨updated now, rfl⟩, ?_⟩
    rw [completes_known_bind_iff]
    refine ⟨true, rfl, ?_⟩
    rw [if_pos rfl, completes_pure_iff]
    exact ⟨rfl, rfl⟩

theorem leaves_save (found : before.table.row stored.operationId = some stored)
    (revises : op.Revises stored) (leaves : Leaves effect (save op) before after) :
    after = before ∨ ∃ result, Completes effect (save op) before after result := by
  have updated (now : Int) := updateOutboxOperation_of_stamped found revises now
  simp only [completes_save_iff found revises]
  unfold save OutboxM.now OutboxM.ofStore at leaves
  rw [leaves_ask_bind_iff] at leaves
  rcases leaves with same | ⟨_, now, rfl, leaves⟩
  · exact .inl same
  rw [leaves_ask_bind_iff] at leaves
  rcases leaves with same | ⟨written, answer, effective, leaves⟩
  · exact .inl same
  have sameAfter : after = written := by
    rw [leaves_known_bind_iff] at leaves
    rcases leaves with same | ⟨_, -, leaves⟩
    · exact same
    split at leaves
    · exact leaves_pure_iff.mp leaves
    · exact leaves_known_iff.mp leaves
  subst sameAfter
  cases answer with
  | error =>
    rcases effective with same | applied
    · exact .inl same
    · refine .inr ⟨_, now, rfl, ?_⟩
      rw [applied, updated now]
  | ok =>
    obtain ⟨effective, sameLedger⟩ := effective
    rw [updated now, Prod.mk.injEq] at effective
    exact .inr ⟨_, now, rfl, ext effective.2.symm sameLedger⟩

theorem completes_tryResolveSpendOutcome_iff : Completes effect
      (OutboxM.tryResolveSpendOutcome reservation recipient actualMsat paymentFailed)
      before after () ↔ after.table = before.table ∧ Resolves recipient before.ledger
        ⟨reservation, actualMsat, paymentFailed⟩ after.ledger := by
  unfold OutboxM.tryResolveSpendOutcome OutboxM.ofStore
  rw [completes_ask_bind_iff]
  constructor
  · rintro ⟨_, answer, effective, completes⟩
    obtain ⟨answered, rfl⟩ := completes_known_iff.mp completes
    cases answer with
    | error => cases answered
    | ok => exact effective
  · intro resolves
    exact ⟨after, .ok (), resolves, completes_known_iff.mpr ⟨rfl, rfl⟩⟩

theorem leaves_tryResolveSpendOutcome (leaves : Leaves effect
      (OutboxM.tryResolveSpendOutcome reservation recipient actualMsat paymentFailed)
      before after) : after.table = before.table ∧ (after.ledger = before.ledger ∨
      (∃ now, after.ledger = before.ledger.retainLiveGrants now) ∨ Resolves recipient before.ledger
        ⟨reservation, actualMsat, paymentFailed⟩ after.ledger) := by
  unfold OutboxM.tryResolveSpendOutcome OutboxM.ofStore at leaves
  rw [leaves_ask_bind_iff] at leaves
  rcases leaves with rfl | ⟨_, answer, effective, leaves⟩
  · exact ⟨rfl, .inl rfl⟩
  obtain rfl := leaves_known_iff.mp leaves
  cases answer with
  | error => exact effective
  | ok => exact ⟨effective.1, .inr (.inr effective.2)⟩

theorem knownOutcomes_cons_unknown (unknown : resolution.actualMsat = none)
    (rest) : knownOutcomes (resolution :: rest) = knownOutcomes rest := by
  simp [knownOutcomes, unknown]

theorem knownOutcomes_cons_known (known : resolution.actualMsat = some actual)
    (rest) : knownOutcomes (resolution :: rest) =
      ⟨resolution.reservation, actual, resolution.paymentFailed⟩ :: knownOutcomes rest := by
  simp [knownOutcomes, known]

theorem drainEach_cons_known (known : resolution.actualMsat = some actual) (rest) :
    drainEach recipient (resolution :: rest) data = (do
      OutboxM.tryResolveSpendOutcome resolution.reservation recipient actual
        resolution.paymentFailed
      drainEach recipient rest (data.forget resolution.reservation)) := by
  rw [drainEach, known]

theorem drainEach_cons_unknown (unknown : resolution.actualMsat = none) (rest) :
    drainEach recipient (resolution :: rest) data = drainEach recipient rest data := by
  rw [drainEach, unknown]

theorem completes_drainEach_iff :
    Completes effect (drainEach recipient queue data) before after kept ↔
      kept = data.forgetAll (knownOutcomes queue) ∧ after.table = before.table ∧
        ResolvesAll recipient before.ledger (knownOutcomes queue) after.ledger := by
  induction queue generalizing data before with
  | nil =>
    rw [drainEach, completes_pure_iff, show knownOutcomes [] = [] from rfl,
      PairingFile.resolvesAll_nil_iff]
    constructor
    · rintro ⟨rfl, rfl⟩
      exact ⟨rfl, rfl, rfl⟩
    · rintro ⟨rfl, sameTable, sameLedger⟩
      exact ⟨rfl, ext sameTable sameLedger⟩
  | cons resolution _ ih =>
    cases known : resolution.actualMsat with
    | none =>
      rw [knownOutcomes_cons_unknown known, drainEach_cons_unknown known]
      exact ih
    | some =>
      rw [knownOutcomes_cons_known known, drainEach_cons_known known,
        completes_bind_iff, PairingFile.resolvesAll_cons_iff]
      constructor
      · rintro ⟨between, _, resolves, drains⟩
        obtain ⟨sameTable, resolves⟩ := completes_tryResolveSpendOutcome_iff.mp resolves
        obtain ⟨rfl, sameRest, resolvesRest⟩ := ih.mp drains
        exact ⟨rfl, sameRest.trans sameTable, between.ledger, resolves, resolvesRest⟩
      rintro ⟨rfl, sameTable, ledger, resolves, resolvesRest⟩
      exact ⟨⟨before.table, ledger⟩, (), completes_tryResolveSpendOutcome_iff.mpr ⟨rfl, resolves⟩,
        ih.mpr ⟨rfl, sameTable, resolvesRest⟩⟩

theorem leaves_drainEach (leaves : Leaves effect (drainEach recipient queue data) before after) :
    after.table = before.table ∧
      PartlyResolves recipient before.ledger (knownOutcomes queue) after.ledger := by
  induction queue generalizing data before with
  | nil =>
    rw [drainEach, leaves_pure_iff] at leaves
    subst leaves
    exact ⟨rfl, .refl _ _⟩
  | cons resolution _ ih =>
    cases known : resolution.actualMsat with
    | none =>
      rw [drainEach_cons_unknown known] at leaves
      rw [knownOutcomes_cons_unknown known]
      exact ih leaves
    | some =>
      rw [drainEach_cons_known known, leaves_bind_iff] at leaves
      rw [knownOutcomes_cons_known known]
      rcases leaves with leaves | ⟨_, _, resolves, leaves⟩
      · obtain ⟨sameTable, same | ⟨now, pruned⟩ | resolves⟩ := leaves_tryResolveSpendOutcome leaves
        · rw [same]
          exact ⟨sameTable, .refl _ _⟩
        · rw [pruned]
          exact ⟨sameTable, .retainLiveGrants _ (by simp) now⟩
        · exact ⟨sameTable, .cons resolves (.refl _ _)⟩
      obtain ⟨sameTable, resolves⟩ := completes_tryResolveSpendOutcome_iff.mp resolves
      obtain ⟨sameRest, partly⟩ := ih leaves
      exact ⟨sameRest.trans sameTable, .cons resolves partly⟩

theorem length_unknown_ne_iff (queue : List BudgetResolution) :
    queue.length ≠ (queue.filter fun resolution => resolution.actualMsat.isNone).length ↔
      knownOutcomes queue ≠ [] := by
  rw [not_iff_not, eq_comm, List.length_filter_eq_length_iff, knownOutcomes,
    List.filterMap_eq_nil_iff]
  simp

def drainable (state : AppState) (data : Recovery) : List KnownOutcome :=
  if state.pairing then knownOutcomes data.budgetResolutions else []

theorem drainable_eq (someDrainable : drainable state data ≠ []) :
    drainable state data = knownOutcomes data.budgetResolutions := by
  unfold drainable at someDrainable ⊢
  split at someDrainable
  · next paired => exact if_pos paired
  · exact absurd rfl someDrainable

theorem drainEach_eq_pure (noneKnown : knownOutcomes queue = []) :
    drainEach recipient queue data = pure data := by
  induction queue with
  | nil => rfl
  | cons resolution _ ih =>
    cases known : resolution.actualMsat with
    | none =>
      rw [knownOutcomes_cons_unknown known] at noneKnown
      rw [drainEach_cons_unknown known]
      exact ih noneKnown
    | some =>
      rw [knownOutcomes_cons_known known] at noneKnown
      cases noneKnown

theorem drainResolutions_eq (decoded : recovery op = .ok data) : drainResolutions state op =
      if drainable state data = [] then pure op
      else
        drainEach op.recipient data.budgetResolutions data >>= fun drained =>
          save (encode op { drained with
            budgetResolutions :=
              data.budgetResolutions.filter fun resolution => resolution.actualMsat.isNone }) := by
  unfold drainResolutions drainable
  rw [decoded]
  cases state.pairing with
  | false => rfl
  | true =>
    simp only [Bool.not_true, Bool.false_eq_true, if_false, if_true,
      known_ok_bind, length_unknown_ne_iff]
    by_cases noneKnown : knownOutcomes data.budgetResolutions = []
    · rw [drainEach_eq_pure noneKnown, pure_bind, if_pos noneKnown,
        if_neg (not_not_intro noneKnown)]
    · simp only [noneKnown, ne_eq, not_false_eq_true, if_true, if_false]

/--
A completed drain has resolved the known outcomes and has taken them off the
queue, or there were none.
-/
theorem completes_drainResolutions_iff (found : before.table.row op.operationId = some op)
    (decoded : recovery op = .ok data) :
    Completes effect (drainResolutions state op) before after result ↔
      if drainable state data = [] then result = op ∧ after = before
      else ∃ now, result = (encode op data.drained).saved now ∧
        after.table = before.table.put result ∧
        ResolvesAll op.recipient before.ledger (drainable state data) after.ledger := by
  rw [drainResolutions_eq decoded]
  split
  · exact completes_pure_iff
  next someDrainable =>
  rw [drainable_eq someDrainable, completes_bind_iff]
  constructor
  · rintro ⟨_, _, drains, saves⟩
    obtain ⟨rfl, sameTable, resolves⟩ := completes_drainEach_iff.mp drains
    rw [← sameTable] at found
    obtain ⟨now, rfl, rfl⟩ := (completes_save_iff found (revises_encode op _)).mp saves
    refine ⟨now, rfl, ?_, resolves⟩
    rw [sameTable]
  rintro ⟨now, rfl, newTable, resolves⟩
  refine ⟨⟨before.table, after.ledger⟩, _, completes_drainEach_iff.mpr ⟨rfl, rfl, resolves⟩, ?_⟩
  have stillFound : (Desk.mk before.table after.ledger).table.row op.operationId = some op := found
  rw [completes_save_iff stillFound (revises_encode op _)]
  exact ⟨now, rfl, ext newTable rfl⟩

/--
A drain that was given up has resolved the first known outcomes, unless it has
completed.
-/
theorem leaves_drainResolutions (found : before.table.row op.operationId = some op)
    (decoded : recovery op = .ok data)
    (leaves : Leaves effect (drainResolutions state op) before after) :
    (after.table = before.table ∧
      PartlyResolves op.recipient before.ledger (drainable state data) after.ledger) ∨
      ∃ result, Completes effect (drainResolutions state op) before after result := by
  rw [drainResolutions_eq decoded] at leaves ⊢
  split at leaves
  · obtain rfl := leaves_pure_iff.mp leaves
    exact .inl ⟨rfl, .refl _ _⟩
  next someDrainable =>
  rw [if_neg someDrainable]
  rw [drainable_eq someDrainable]
  rcases leaves_bind_iff.mp leaves with
    drains | ⟨between, drained, drains, saves⟩
  · exact .inl (leaves_drainEach drains)
  have stillFound : between.table.row op.operationId = some op := by
    rw [(completes_drainEach_iff.mp drains).2.1]
    exact found
  rcases leaves_save stillFound (revises_encode op _) saves with
    rfl | ⟨result, saved⟩
  · obtain ⟨-, sameTable, resolves⟩ := completes_drainEach_iff.mp drains
    exact .inl ⟨sameTable, .of_resolvesAll resolves⟩
  · exact .inr ⟨result, completes_bind_iff.mpr ⟨between, drained, drains, saved⟩⟩

/-- A row whose queue is saved and has nothing to be added to it. -/
structure IsQueued (op : OutboxOperation) (data : Recovery) : Prop where
  encoded : encode op data = op
  queued : queueRecovered op data = data

theorem IsQueued.recovery_eq (isQueued : IsQueued op data) : recovery op = .ok data := by
  rw [← isQueued.encoded]
  rfl

theorem isQueued_queueRecovered (op data) :
    IsQueued (encode op (queueRecovered op data)) (queueRecovered op data) where
  encoded := rfl
  queued := queueRecovered_queueRecovered op data

theorem IsQueued.saved (isQueued : IsQueued op data) (now) : IsQueued (op.saved now) data where
  encoded := congrArg (fun row => row.saved now) isQueued.encoded
  queued := isQueued.queued

theorem IsQueued.drained (isQueued : IsQueued op data) :
    IsQueued (encode op data.drained) data.drained where
  encoded := rfl
  queued := by
    have same := queueRecovered_drained op data
    rw [isQueued.queued] at same
    exact same

theorem drainable_drained (state) (data : Recovery) : drainable state data.drained = [] := by
  unfold drainable
  split
  · rw [data.drained_eq]
    simp only [Recovery.holding, knownOutcomes, List.filterMap_eq_nil_iff, List.mem_filter]
    rintro _ ⟨-, unknown⟩
    rw [Option.isNone_iff_eq_none.mp unknown, Option.map_none]
  · rfl

theorem IsQueued.drainable_eq_nil (isQueued : IsQueued op data)
    (settled : op.accountingPending = false) : drainable state data = [] := by
  rw [← isQueued.encoded] at settled
  simp only [encode, Bool.or_eq_false_iff, Bool.not_eq_false', List.isEmpty_iff] at settled
  unfold drainable
  rw [settled.2]
  exact ite_self _

/-- Save the queue if it has changed. -/
def saveQueued (op : OutboxOperation) (data : Recovery) : OutboxM OutboxOperation :=
  let queued := encode op (queueRecovered op data)
  if queued.recovery ≠ op.recovery ∨ queued.accountingPending ≠ op.accountingPending then
    save queued
  else pure queued

theorem recoverBudget_of_settled (settled : op.accountingPending = false) :
    recoverBudget state op = pure op := by
  unfold recoverBudget
  simp [settled]

theorem recoverBudget_of_pending (pending : op.accountingPending)
    (decoded : recovery op = .ok data) :
    recoverBudget state op = saveQueued op data >>= drainResolutions state := by
  unfold recoverBudget saveQueued
  simp only [pending, Bool.not_true, Bool.false_eq_true, if_false, decoded, known_ok_bind]
  split <;> rfl

theorem IsQueued.recoverBudget_eq (isQueued : IsQueued op data) :
    recoverBudget state op = drainResolutions state op := by
  cases pending : op.accountingPending with
  | false =>
    rw [recoverBudget_of_settled pending, drainResolutions_eq isQueued.recovery_eq,
      if_pos (isQueued.drainable_eq_nil pending)]
  | true =>
    rw [recoverBudget_of_pending pending isQueued.recovery_eq]
    unfold saveQueued
    simp only [isQueued.queued, isQueued.encoded, ne_eq, not_true_eq_false,
      or_self, if_false, pure_bind]

theorem completes_saveQueued (found : before.table.row op.operationId = some op)
    (saves : Completes effect (saveQueued op data) before after result) :
    IsQueued result (queueRecovered op data) ∧ result.operationId = op.operationId ∧
      result.recipient = op.recipient ∧
      after = { before with table := before.table.put result } := by
  unfold saveQueued at saves
  dsimp only at saves
  split at saves
  · obtain ⟨now, rfl, rfl⟩ := (completes_save_iff found (revises_encode op _)).mp saves
    exact ⟨(isQueued_queueRecovered op data).saved now, rfl, rfl, rfl⟩
  next unchanged =>
  obtain ⟨rfl, rfl⟩ := completes_pure_iff.mp saves
  have same : encode op (queueRecovered op data) = op := by
    simp only [not_or, not_not] at unchanged
    rw [encode] at unchanged ⊢
    simp only at unchanged
    rw [unchanged.1, unchanged.2]
  refine ⟨isQueued_queueRecovered op data, rfl, rfl, ?_⟩
  rw [same, OutboxTable.put_eq_self found]

theorem leaves_saveQueued (found : before.table.row op.operationId = some op)
    (leaves : Leaves effect (saveQueued op data) before after) :
    after = before ∨ ∃ result, Completes effect (saveQueued op data) before after result := by
  unfold saveQueued at leaves ⊢
  dsimp only at leaves ⊢
  split at leaves
  · next changed =>
    rw [if_pos changed]
    exact leaves_save found (revises_encode op _) leaves
  · exact .inl (leaves_pure_iff.mp leaves)

end

variable (state : AppState) (id : String) (before after : Desk)

/-- A run on the stored row that was given up at any point. -/
def Attempted : Prop :=
  ∃ op, before.table.row id = some op ∧ Leaves effect (recoverBudget state op) before after

/-- A run on the stored row that returned the row it left. -/
def Completed (result : OutboxOperation) : Prop :=
  ∃ op, before.table.row id = some op ∧
    Completes effect (recoverBudget state op) before after result

section

variable {state : AppState} {id : String} {before after : Desk}
  {op result : OutboxOperation} {data : Recovery}

/-- A drain that is resumed ends like one that was not interrupted. -/
theorem resumed_drainResolutions (isQueued : IsQueued queued data)
    (found : before.table.row queued.operationId = some queued)
    (leaves : Leaves effect (drainResolutions state queued) before between)
    (completed : Completed state queued.operationId between after result) :
    Completes effect (drainResolutions state queued) before after result := by
  have decoded := isQueued.recovery_eq
  obtain ⟨_, isCurrent, completes⟩ := completed
  rcases leaves_drainResolutions found decoded leaves with
    ⟨sameTable, partly⟩ | ⟨drained, drains⟩
  · -- The queue is still saved, so the next run drains it from its start.
    rw [sameTable, found] at isCurrent
    cases isCurrent
    rw [← sameTable] at found
    rw [isQueued.recoverBudget_eq, completes_drainResolutions_iff found decoded] at completes
    rw [sameTable] at found
    rw [completes_drainResolutions_iff found decoded]
    split at completes
    · next noneDrainable =>
      obtain ⟨rfl, rfl⟩ := completes
      rw [if_pos noneDrainable]
      rw [noneDrainable] at partly
      exact ⟨rfl, ext sameTable partly.eq_of_nil⟩
    next someDrainable =>
    obtain ⟨now, rfl, newTable, resolves⟩ := completes
    rw [if_neg someDrainable]
    rw [sameTable] at newTable
    exact ⟨now, rfl, newTable, partly.replay resolves⟩
  · -- The drained row is saved, so the next run finds nothing to do.
    have drainsAgain := drains
    rw [completes_drainResolutions_iff found decoded] at drains
    split at drains
    · obtain ⟨rfl, rfl⟩ := drains
      cases found.symm.trans isCurrent
      rw [isQueued.recoverBudget_eq] at completes
      exact completes
    obtain ⟨now, rfl, newTable, -⟩ := drains
    have isDrained := isQueued.drained.saved now
    have stored : between.table.row queued.operationId =
      some ((encode queued data.drained).saved now) := by
      rw [newTable]
      exact OutboxTable.row_put_self _ _
    cases stored.symm.trans isCurrent
    rw [isDrained.recoverBudget_eq, drainResolutions_eq isDrained.recovery_eq,
      if_pos (drainable_drained state data), completes_pure_iff] at completes
    obtain ⟨rfl, rfl⟩ := completes
    exact drainsAgain

/-- A run after an interrupted one ends like one from the start. -/
theorem Attempted.completed (attempted : Attempted state id before between)
    (completed : Completed state id between after result) :
    Completed state id before after result := by
  obtain ⟨op, found, leaves⟩ := attempted
  obtain rfl := before.table.keyed id op found
  refine ⟨op, found, ?_⟩
  have unchanged (same : between = before) :
    Completes effect (recoverBudget state op) before after result := by
    subst same
    obtain ⟨_, isCurrent, completes⟩ := completed
    cases found.symm.trans isCurrent
    exact completes
  cases pending : op.accountingPending with
  | false =>
    rw [recoverBudget_of_settled pending] at leaves
    exact unchanged (leaves_pure_iff.mp leaves)
  | true =>
    cases decoded : recovery op with
    | error error =>
      have fails : recoverBudget state op = known (.error error) := by
        unfold recoverBudget
        simp only [pending, decoded]
        rfl
      rw [fails] at leaves
      exact unchanged (leaves_known_iff.mp leaves)
    | ok data =>
      rw [recoverBudget_of_pending pending decoded] at leaves ⊢
      rw [recoverBudget_of_pending pending decoded] at unchanged
      have resumed {opened : Desk} {queued : OutboxOperation}
        (saves : Completes effect (saveQueued op data) before opened queued)
        (drains : Leaves effect (drainResolutions state queued) opened between) :
        Completes effect (saveQueued op data >>= drainResolutions state) before after result := by
        obtain ⟨isQueued, sameId, -, rfl⟩ := completes_saveQueued found saves
        rw [← sameId] at completed
        exact completes_bind_iff.mpr ⟨_, queued, saves,
          resumed_drainResolutions isQueued (OutboxTable.row_put_self _ _) drains completed⟩
      rcases leaves_bind_iff.mp leaves with
        saves | ⟨opened, queued, saves, drains⟩
      · rcases leaves_saveQueued found saves with same | ⟨queued, saved⟩
        · exact unchanged same
        · exact resumed saved (leaves_refl _ _)
      · exact resumed saves drains

theorem completed_of_attempts (attempts : Relation.ReflTransGen (Attempted state id) before between)
    (completed : Completed state id between after result) :
    Completed state id before after result := by
  induction attempts using Relation.ReflTransGen.head_induction_on with
  | refl => exact completed
  | head attempted _ ih => exact attempted.completed ih

/-- The outcomes that a recovery of a row resolves, in order. -/
def dueOutcomes (state : AppState) (op : OutboxOperation) : List KnownOutcome :=
  match recovery op with
  | .error _ => []
  | .ok data =>
    if op.accountingPending then drainable state (queueRecovered op data) else []

/-- A reservation that none of the outcomes is about. -/
def Unnamed (reservation : Reservation) (outcomes : List KnownOutcome) : Prop :=
  ∀ outcome ∈ outcomes,
    ¬ (reservation.id = outcome.reservation.id ∧ reservation.opId = outcome.reservation.opId)

theorem completes_drainResolutions_spec (isQueued : IsQueued queued data)
    (found : before.table.row queued.operationId = some queued)
    (drains : Completes effect (drainResolutions state queued) before after result) :
    after.table = before.table.put result ∧ result.operationId = queued.operationId ∧
      ResolvesAll queued.recipient before.ledger (drainable state data) after.ledger ∧
      ∀ reservation, data.References reservation → Unnamed reservation (drainable state data) →
        ∃ kept, recovery result = .ok kept ∧ kept.References reservation := by
  rw [completes_drainResolutions_iff found isQueued.recovery_eq] at drains
  split at drains
  · next noneDrainable =>
    obtain ⟨rfl, rfl⟩ := drains
    refine ⟨(OutboxTable.put_eq_self found).symm, rfl, ?_, ?_⟩
    · rw [noneDrainable]
      exact .nil _
    · intro _ refs _
      exact ⟨data, isQueued.recovery_eq, refs⟩
  · next someDrainable =>
    obtain ⟨_, rfl, newTable, resolves⟩ := drains
    refine ⟨newTable, rfl, resolves, ?_⟩
    intro _ refs unnamed
    rw [drainable_eq someDrainable] at unnamed
    exact ⟨data.drained, rfl, refs.drained unnamed⟩

/-- What a completed recovery has done to the row and to the ledger. -/
theorem Completed.spec (found : before.table.row id = some op)
    (completed : Completed state id before after result) : after.table = before.table.put result ∧
      ResolvesAll op.recipient before.ledger (dueOutcomes state op) after.ledger ∧
      ∀ data reservation, recovery op = .ok data → data.References reservation →
        Unnamed reservation (dueOutcomes state op) →
          ∃ kept, recovery result = .ok kept ∧ kept.References reservation := by
  obtain rfl := before.table.keyed id op found
  obtain ⟨_, isCurrent, completes⟩ := completed
  cases found.symm.trans isCurrent
  cases pending : op.accountingPending with
  | false =>
    have noneDue : dueOutcomes state op = [] := by
      unfold dueOutcomes
      split
      · rfl
      · rw [pending]
        rfl
    rw [recoverBudget_of_settled pending, completes_pure_iff] at completes
    obtain ⟨rfl, rfl⟩ := completes
    rw [noneDue]
    refine ⟨(OutboxTable.put_eq_self found).symm, .nil _, ?_⟩
    intro data reservation decoded refs _
    exact ⟨data, decoded, refs⟩
  | true =>
    cases decoded : recovery op with
    | error error =>
      unfold recoverBudget at completes
      simp only [pending, decoded, Bool.not_true, Bool.false_eq_true,
        if_false, completes_known_bind_iff, reduceCtorEq, false_and,
        exists_false] at completes
    | ok data =>
      have due : dueOutcomes state op = drainable state (queueRecovered op data) := by
        simp [dueOutcomes, decoded, pending]
      rw [recoverBudget_of_pending pending decoded, completes_bind_iff] at completes
      obtain ⟨_, _, saves, drains⟩ := completes
      obtain ⟨isQueued, _, sameRecipient, rfl⟩ := completes_saveQueued found saves
      obtain ⟨newTable, resultId, resolves, kept⟩ := completes_drainResolutions_spec isQueued
        (OutboxTable.row_put_self _ _) drains
      rw [due]
      refine ⟨?_, ?_, ?_⟩
      · rw [newTable]
        exact OutboxTable.put_put _ resultId
      · rw [← sameRecipient]
        exact resolves
      · rintro _ reservation ⟨⟩ refs unnamed
        exact kept reservation (refs.queueRecovered op) unnamed

/--
Interrupted recoveries, however many and wherever they stopped, followed by one
that completes: the row and the ledger are those of a single recovery from the
start, with the clock readings at which its effects took place.  Each
reservation with a known outcome is resolved once, with the first one; any
other reservation the row referred to is still referred to, and what it holds
for the recipient is untouched as long as its grant lives.
-/
theorem recoverBudget_resumed {interrupted : Desk} (found : before.table.row id = some op)
    (attempts : Relation.ReflTransGen (Attempted state id) before interrupted)
    (completed : Completed state id interrupted after result) :
    Completed state id before after result ∧ after.table = before.table.put result ∧
      ResolvesAll op.recipient before.ledger (firstOutcomes (dueOutcomes state op)) after.ledger ∧
      ∀ data reservation, recovery op = .ok data → data.References reservation →
        Unnamed reservation (dueOutcomes state op) → (∃ kept, recovery result = .ok kept ∧
          kept.References reservation) ∧ ∀ budget, after.ledger.debited reservation = some budget →
            ∃ former, before.ledger.debited reservation = some former ∧
              (former.callReservations.get? reservation.id = none →
                budget.pendingFor reservation.id op.recipient =
                  former.pendingFor reservation.id op.recipient) := by
  have fromStart := completed_of_attempts attempts completed
  obtain ⟨newTable, resolves, kept⟩ := fromStart.spec found
  refine ⟨fromStart, newTable, resolves.firstOutcomes, ?_⟩
  intro data reservation decoded references unnamed
  refine ⟨kept data reservation decoded references unnamed, ?_⟩
  intro _ isDebited
  have otherEntries :
    ∀ outcome ∈ dueOutcomes state op, ¬ reservation.sameEntry outcome.reservation :=
    fun outcome member same => unnamed outcome member ⟨same.2.2, same.1⟩
  obtain ⟨former, wasDebited, samePending⟩ := resolves.pendingFor_eq otherEntries isDebited
  exact ⟨former, wasDebited, fun noHold => (samePending noHold).1⟩

end

/-- A closed call with one payment that is not resolved yet. -/
def closedCall (callId draw : String) : CallSpend where
  terms :=
    { peer := "peer"
      callId
      perBlockMsat := 5
      perBlockFeeMsat := 0
      maxCallMinutes := 1
      reservedMsat := 5 }
  closed := true
  draws := .singleton draw 0

/-- A ledger with two such calls in one grant. -/
def twoCalls : PairingFile where
  grants :=
    [{ opId := "grant"
       clientId := "client"
       grantedAt := 0
       expiresAt := 1000
       budget := some
         { budgetMsat := 100
           perCallMaxMsat := 100
           usedMsat := 10
           pending := (Ordered.OrderedMap.singleton "draw1"
             (.singleton "peer" 5)).insert
             "draw2" (.singleton "peer" 5)
           callReservations := (Ordered.OrderedMap.singleton "hold1"
             (closedCall "call1" "draw1")).insert
             "hold2" (closedCall "call2" "draw2") } }]
  frontDoorGrants := []
  distinct := List.pairwise_singleton _ _

def drawOutcome (draw : String) : KnownOutcome where
  reservation := ⟨draw, "client", "grant", [⟨"peer", 5⟩]⟩
  actualMsat := 5
  paymentFailed := false

/-- A resolution whose clock readings are all the same. -/
def resolvedAt (now : Int) (draw : String) (file : PairingFile) :
    Except GrantBudget.ResolveError Unit × PairingFile :=
  file.tryResolveSpendOutcome (drawOutcome draw).reservation "peer" 5 false
    { lock := { now, first := now }
      outcome :=
        { call := { finished := now, recorded := now, pruned := now }
          recorded := now }
      first := now }

/-- The recovery record of an operation that queued both outcomes. -/
def twoCallsRecovery : Recovery where
  dispatched := true
  budgetResolutions := [⟨(drawOutcome "draw1").reservation, false, some 5⟩,
    ⟨(drawOutcome "draw2").reservation, false, some 5⟩]

def twoCallsRow : OutboxOperation where
  operationId := "operation"
  recipient := "peer"
  kind := 400
  requestHash := "request"
  state := .paymentUnknown
  createdAt := 0
  updatedAt := 0
  recovery := .written twoCallsRecovery

/-- Its outbox table next to a ledger. -/
def twoCallsDesk (ledger : PairingFile) : Desk where
  table := OutboxTable.put ⟨fun _ => none, by simp⟩ twoCallsRow
  ledger

def pairedNode : AppState where
  nodeId := ⟨.replicate 32 0⟩
  pairing := true
  lightningBackend := "ldk"

/-- The grants of a ledger but for the state of their breakers. -/
def withoutBreakers (file : PairingFile) : List SpendGrant :=
  file.grants.map fun grant =>
    { grant with budget := grant.budget.map fun budget => { budget with breakerState := {} } }

theorem isQueued_twoCallsRow : IsQueued twoCallsRow twoCallsRecovery := ⟨rfl, rfl⟩

theorem completed_twoCalls (first second : Int)
    (resolvesFirst : (resolvedAt first "draw1" ledger).1 = .ok ())
    (resolvesSecond : (resolvedAt second "draw2" (resolvedAt first "draw1" ledger).2).1 = .ok ()) :
    Completed pairedNode "operation" (twoCallsDesk ledger) ⟨(twoCallsDesk ledger).table.put
      ((encode twoCallsRow twoCallsRecovery.drained).saved second),
      (resolvedAt second "draw2" (resolvedAt first "draw1" ledger).2).2⟩
      ((encode twoCallsRow twoCallsRecovery.drained).saved second) := by
  refine ⟨twoCallsRow, rfl, ?_⟩
  rw [isQueued_twoCallsRow.recoverBudget_eq,
    completes_drainResolutions_iff rfl isQueued_twoCallsRow.recovery_eq,
    if_neg (by decide)]
  exact ⟨second, rfl, rfl,
    .cons ⟨_, Prod.ext resolvesFirst rfl⟩ (.cons ⟨_, Prod.ext resolvesSecond rfl⟩ (.nil _))⟩

theorem attempted_twoCalls (first) (resolvesFirst : (resolvedAt first "draw1" ledger).1 = .ok ()) :
    Attempted pairedNode "operation" (twoCallsDesk ledger)
      (twoCallsDesk (resolvedAt first "draw1" ledger).2) := by
  refine ⟨twoCallsRow, rfl, ?_⟩
  rw [isQueued_twoCallsRow.recoverBudget_eq, drainResolutions_eq isQueued_twoCallsRow.recovery_eq,
    if_neg (by decide)]
  refine leaves_bind_iff.mpr (.inl ?_)
  refine leaves_bind_iff.mpr (.inr ⟨_, (), ?_, leaves_refl _ _⟩)
  exact completes_tryResolveSpendOutcome_iff.mpr ⟨rfl, _, Prod.ext resolvesFirst rfl⟩

/--
The time of an interruption shows in more than the breakers: of two calls that
are resolved before and after a crash, each receipt carries the time of its own
resolution, while an uninterrupted recovery at either time stamps both alike.
-/
theorem recoverBudget_interrupted_differs : ∃ interrupted after result,
      Attempted pairedNode "operation" (twoCallsDesk twoCalls) interrupted ∧
        Completed pairedNode "operation" interrupted after result ∧ ∀ now ∈ ([100, 200] : List Int),
          ∃ whole saved, Completed pairedNode "operation" (twoCallsDesk twoCalls) whole saved ∧
            whole.ledger = (resolvedAt now "draw2" (resolvedAt now "draw1" twoCalls).2).2 ∧
            withoutBreakers whole.ledger ≠ withoutBreakers after.ledger := by
  refine ⟨_, _, _, attempted_twoCalls 100 rfl, completed_twoCalls 200 200 rfl rfl, ?_⟩
  intro _ member
  simp only [List.mem_cons, List.not_mem_nil, or_false] at member
  rcases member with rfl | rfl
  · exact ⟨_, _, completed_twoCalls 100 100 rfl rfl, rfl, by decide +kernel⟩
  · exact ⟨_, _, completed_twoCalls 200 200 rfl rfl, rfl, by decide +kernel⟩

/-- The recovery that was interrupted at 100 and resumed at 200. -/
theorem recoverBudget_resumed_twoCalls :
    ∃ after result, Completed pairedNode "operation" (twoCallsDesk twoCalls) after result ∧
      ResolvesAll "peer" twoCalls [drawOutcome "draw1", drawOutcome "draw2"] after.ledger := by
  have resumed := recoverBudget_resumed rfl (.single (attempted_twoCalls 100 rfl))
    (@completed_twoCalls (resolvedAt 100 "draw1" twoCalls).2 200 200 rfl rfl)
  exact ⟨_, _, resumed.1, resumed.2.2.1⟩

end BitSov.Outbox
