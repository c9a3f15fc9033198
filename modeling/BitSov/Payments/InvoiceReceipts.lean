import BitSov.Payments.InvoiceLedger

namespace BitSov.Payments

open Spend Outbox Process Fallible Program List
open OperationTable InvoiceLedger

/-!
# What a receipt of an invoice payment rests on

A request that answers from the backend holds evidence: that the hash was
reported as settled, or that an attempt of its own operation has failed.
Evidence is never lost, so a receipt that was written with it, be it much
later by a retry, still rests on it.
-/

variable {Digest : Type} (ledger : InvoiceLedger)

def OwnFailed (key : String) : Prop :=
  ∃ attempt ∈ ledger.attempts, attempt.key = some key ∧ failedOrExpired attempt.status = true

/-- The operation has an attempt, which has failed if it paid this invoice. -/
def Doomed (key hash : String) : Prop :=
  ∃ attempt ∈ ledger.attempts,
    attempt.key = some key ∧ (attempt.hash = hash → failedOrExpired attempt.status = true)

/-- What a receipt for an invoice rests on. -/
def ReceiptOk (hash : String) (failure : Prop) : Receipt → Prop
  | .settled _ => hash ∈ ledger.reported
  | .inFlight body => body.paymentHash = hash
  | .failed _ _ => failure

/-- The stored receipt of a row for an invoice rests on evidence. -/
structure RowOk (node : Node Digest) (guarded : Bool) (ledger : InvoiceLedger)
    (row : ChannelOpenOperation Digest) : Prop where
  digested : row.requestHash = node.digest row.request
  receipt : ∀ receipt hash,
    row.result = some (.direct receipt) →
      row.request.invoiceHash = some hash →
        ReceiptOk ledger hash (guarded = true → OwnFailed ledger row.operationId) receipt

/-- What an outcome write must rest on before it is attempted. -/
def WriteOk (node : Node Digest) (guarded : Bool) (ledger : InvoiceLedger) :
    OutcomeWrite Digest → Prop
  | .fenced expected _ result _ =>
    expected.requestHash = node.digest expected.request ∧
      ∀ receipt hash,
        result = some (.direct receipt) →
          expected.request.invoiceHash = some hash →
            ReceiptOk ledger hash (guarded = true → Doomed ledger expected.operationId hash) receipt
  | .pendingOnly _ _ result _ => ∀ receipt, result ≠ some (.direct receipt)

section

variable {before after : InvoiceLedger} {key : String}

theorem InvoiceLedger.Extends.attempt {attempt : Attempt} (extends_ : Extends before after)
    (mem : attempt ∈ before.attempts) : ∃ status, { attempt with status } ∈ after.attempts ∧
      (failedOrExpired attempt.status → status = attempt.status) := by
  obtain ⟨index, found⟩ := mem_iff_getElem?.mp mem
  obtain ⟨status, foundAfter, final⟩ := extends_.attempts index attempt found
  exact ⟨status, mem_of_getElem? foundAfter, final⟩

theorem OwnFailed.extends (failed : OwnFailed before key) (extends_ : Extends before after) :
    OwnFailed after key := by
  obtain ⟨attempt, mem, sameKey, isFailed⟩ := failed
  obtain ⟨_, memberAfter, final⟩ := extends_.attempt mem
  exact ⟨_, memberAfter, sameKey, by rw [final isFailed]; exact isFailed⟩

variable {hash : String}

theorem Doomed.extends (doomed : Doomed before key hash) (extends_ : Extends before after) :
    Doomed after key hash := by
  obtain ⟨attempt, mem, sameKey, failed⟩ := doomed
  obtain ⟨_, memberAfter, final⟩ := extends_.attempt mem
  refine ⟨_, memberAfter, sameKey, fun sameHash => ?_⟩
  have isFailed := failed sameHash
  rw [final isFailed]
  exact isFailed

theorem ReceiptOk.extends {failure later : Prop} (ok : ReceiptOk before hash failure receipt)
    (extends_ : Extends before after)
    (kept : failure → later) : ReceiptOk after hash later receipt := by
  cases receipt with
  | settled => exact extends_.reported hash ok
  | inFlight => exact ok
  | failed error => exact kept ok

variable {node : Node Digest} {guarded : Bool}

theorem RowOk.extends {row : ChannelOpenOperation Digest} (ok : RowOk node guarded before row)
    (extends_ : Extends before after) : RowOk node guarded after row where
  digested := ok.digested
  receipt receipt hash found isFor := (ok.receipt receipt hash found isFor).extends extends_
    fun failed isGuarded => (failed isGuarded).extends extends_

theorem WriteOk.extends (ok : WriteOk node guarded before write)
    (extends_ : Extends before after) : WriteOk node guarded after write := by
  cases write with
  | fenced =>
    exact ⟨ok.1, fun receipt hash found isFor => (ok.2 receipt hash found isFor).extends extends_
      fun doomed isGuarded => (doomed isGuarded).extends extends_⟩
  | pendingOnly => exact ok

end

/-- Attempts, calls, rows and retries fit together. -/
structure Consistent (node : Node Digest) (guarded : Bool)
    (world : World Digest (invoiceWallet node guarded)) : Prop where
  attempted : ∀ attempt ∈ world.wallet.attempts,
    ∀ key, attempt.key = some key →
      ∃ made ∈ world.calls, made.task = attempt.task ∧ made.IsFor key ∧ ¬ made.Undispatched
  bound : ∀ attempt ∈ world.wallet.attempts,
    ∀ key, attempt.key = some key →
      ∃ row, world.table.row key = some row ∧ row.request.invoiceHash = some attempt.hash
  single : ∀ (i j : Nat) (first second : Attempt),
    i < j → world.wallet.attempts[i]? = some first →
      world.wallet.attempts[j]? = some second → first.key = second.key → first.key = none
  ordered : ∀ (i j : Nat) (first second : Attempt),
    i < j → world.wallet.attempts[i]? = some first →
      world.wallet.attempts[j]? = some second →
        first.hash = second.hash → failedOrExpired first.status = true
  rows : ∀ key row, world.table.row key = some row → RowOk node guarded world.wallet row
  spawned : ∀ write ∈ world.spawned, WriteOk node guarded world.wallet write

section

variable {node : Node Digest} {guarded : Bool}
  {before after : World Digest (invoiceWallet node guarded)}

variable {key : String}

theorem Consistent.attempt_unique (consistent : Consistent node guarded world)
    (firstMem : first ∈ world.wallet.attempts)
    (secondMem : second ∈ world.wallet.attempts) (firstKey : first.key = some key)
    (secondKey : second.key = some key) : first = second := by
  obtain ⟨i, foundFirst⟩ := mem_iff_getElem?.mp firstMem
  obtain ⟨j, foundSecond⟩ := mem_iff_getElem?.mp secondMem
  have sameKey := firstKey.trans secondKey.symm
  rcases Nat.lt_trichotomy i j with less | rfl | greater
  · have none := consistent.single i j _ _ less foundFirst foundSecond sameKey
    rw [firstKey] at none
    cases none
  · rw [foundFirst] at foundSecond
    exact Option.some.inj foundSecond
  have none := consistent.single j i _ _ greater foundSecond foundFirst sameKey.symm
  rw [secondKey] at none
  cases none

theorem Consistent.failed_of_latest {hash : String} {latest attempt : Attempt}
    (consistent : Consistent node guarded world)
    (isLatest : InvoiceLedger.latest world.wallet hash = some latest)
    (failed : failedOrExpired latest.status) (mem : attempt ∈ world.wallet.attempts)
    (sameHash : attempt.hash = hash) : failedOrExpired attempt.status := by
  have pairwise : (world.wallet.attempts.filter fun attempt => attempt.hash = hash).Pairwise
    fun first _ => failedOrExpired first.status := by
    rw [pairwise_filter, pairwise_iff_getElem]
    intro i j boundI boundJ less isHash otherIsHash
    simp only [decide_eq_true_eq] at isHash otherIsHash
    exact consistent.ordered i j _ _ less (List.getElem?_eq_getElem boundI)
      (List.getElem?_eq_getElem boundJ) (isHash.trans otherIsHash.symm)
  have filtered : attempt ∈ world.wallet.attempts.filter fun attempt => attempt.hash = hash := by
    simp [mem, sameHash]
  obtain ⟨_, split⟩ := getLast?_eq_some_iff.mp isLatest
  rw [split] at pairwise filtered
  rcases mem_append.mp filtered with prior | last
  · exact (pairwise_append.mp pairwise).2.2 attempt prior latest (mem_singleton_self latest)
  · rw [mem_singleton.mp last]
    exact failed

variable {ledger : InvoiceLedger}

/-- Statuses may become final without any other change. -/
theorem Consistent.status (consistent : Consistent node guarded before)
    (extends_ : Extends before.wallet ledger)
    (sameLength : ledger.attempts.length = before.wallet.attempts.length) :
    Consistent node guarded { before with wallet := ledger } := by
  have former {index : Nat} {attempt : Attempt} (found : ledger.attempts[index]? = some attempt) :
    ∃ old, before.wallet.attempts[index]? = some old ∧ attempt.key = old.key ∧
      attempt.task = old.task ∧
      attempt.hash = old.hash ∧
      (failedOrExpired old.status → attempt.status = old.status) := by
    have bound := (List.getElem?_eq_some_iff.mp found).1
    rw [sameLength] at bound
    obtain ⟨status, foundAfter, final⟩ := extends_.attempts index _ (List.getElem?_eq_getElem bound)
    rw [found] at foundAfter
    cases foundAfter
    exact ⟨_, List.getElem?_eq_getElem bound, rfl, rfl, rfl, final⟩
  refine ⟨?attempted, ?bound, ?single, ?ordered, ?rows, ?spawned⟩
  case attempted =>
    intro attempt mem key hasKey
    obtain ⟨index, found⟩ := mem_iff_getElem?.mp mem
    obtain ⟨old, foundOld, sameKey, sameTask, _⟩ := former found
    rw [sameTask]
    exact consistent.attempted old (mem_of_getElem? foundOld) key (sameKey ▸ hasKey)
  case bound =>
    intro attempt mem key hasKey
    obtain ⟨index, found⟩ := mem_iff_getElem?.mp mem
    obtain ⟨old, foundOld, sameKey, _, sameHash, _⟩ := former found
    rw [sameHash]
    exact consistent.bound old (mem_of_getElem? foundOld) key (sameKey ▸ hasKey)
  case single =>
    intro i j _ _ less foundFirst foundSecond same
    obtain ⟨_, foundOldFirst, firstKey, _⟩ := former foundFirst
    obtain ⟨_, foundOldSecond, secondKey, _⟩ := former foundSecond
    rw [firstKey]
    exact consistent.single i j _ _ less foundOldFirst foundOldSecond
      (by rw [← firstKey, ← secondKey, same])
  case ordered =>
    intro i j _ _ less foundFirst foundSecond same
    obtain ⟨_, foundOldFirst, _, _, firstHash, final⟩ := former foundFirst
    obtain ⟨_, foundOldSecond, _, _, secondHash, _⟩ := former foundSecond
    have failed := consistent.ordered i j _ _ less foundOldFirst foundOldSecond
      (by rw [← firstHash, ← secondHash, same])
    rw [final failed]
    exact failed
  case rows =>
    intro key row found
    exact (consistent.rows key row found).extends extends_
  case spawned =>
    intro write mem
    exact (consistent.spawned write mem).extends extends_

theorem Consistent.table (consistent : Consistent node guarded before)
    (sameCalls : after.calls = before.calls) (sameWallet : after.wallet = before.wallet)
    (sameSpawned : after.spawned = before.spawned)
    (kept : ∀ attempt ∈ before.wallet.attempts, ∀ key row, attempt.key = some key →
      before.table.row key = some row →
        ∃ current, after.table.row key = some current ∧ current.request = row.request)
    (rows : ∀ key row, after.table.row key = some row →
      before.table.row key = some row ∨ RowOk node guarded before.wallet row) :
    Consistent node guarded after := by
  refine ⟨?attempted, ?bound, ?single, ?ordered, ?rows, ?spawned⟩
  case attempted =>
    rw [sameCalls, sameWallet]
    exact consistent.attempted
  case bound =>
    rw [sameWallet]
    intro attempt mem key hasKey
    obtain ⟨row, found, isFor⟩ := consistent.bound attempt mem key hasKey
    obtain ⟨current, foundAfter, sameRequest⟩ := kept attempt mem key row hasKey found
    exact ⟨current, foundAfter, by rw [sameRequest]; exact isFor⟩
  case single =>
    rw [sameWallet]
    exact consistent.single
  case ordered =>
    rw [sameWallet]
    exact consistent.ordered
  case rows =>
    rw [sameWallet]
    intro key row found
    rcases rows key row found with old | ok
    · exact consistent.rows key row old
    · exact ok
  case spawned =>
    rw [sameWallet, sameSpawned]
    exact consistent.spawned

variable {row : ChannelOpenOperation Digest}

theorem Consistent.ownFailed {key hash : String} (consistent : Consistent node guarded before)
    (doomed : Doomed before.wallet key hash) (found : before.table.row key = some row)
    (isFor : row.request.invoiceHash = some hash) : OwnFailed before.wallet key := by
  obtain ⟨attempt, mem, sameKey, failed⟩ := doomed
  obtain ⟨_, storedFound, storedFor⟩ := consistent.bound attempt mem key sameKey
  rw [found] at storedFound
  cases storedFound
  rw [isFor] at storedFor
  exact ⟨attempt, mem, sameKey, failed (Option.some.inj storedFor).symm⟩

section

variable [DecidableEq Digest] (inj : Function.Injective node.digest)

include inj

variable {stored expected : ChannelOpenOperation Digest}

omit [DecidableEq Digest] in
/-- The row a fenced write has found is one of the expected request. -/
theorem request_eq_of_fence (ok : RowOk node guarded ledger stored)
    (digested : expected.requestHash = node.digest expected.request)
    (fence : stored.requestHash = expected.requestHash) : stored.request = expected.request :=
  inj (by rw [← ok.digested, fence, digested])

omit [DecidableEq Digest] in
/-- A fenced write that rests on evidence leaves a row that does. -/
theorem Consistent.rowOk_fenced {state : OpenState} {result : Option StoredResult}
    {lastError : Option String} (now) (consistent : Consistent node guarded before)
    (ok : WriteOk node guarded before.wallet (.fenced expected state result lastError))
    (found : before.table.row expected.operationId = some stored)
    (fence : stored.requestHash = expected.requestHash) :
    RowOk node guarded before.wallet (stored.conclude state result lastError now) := by
  have storedOk := consistent.rows _ _ found
  have sameRequest := request_eq_of_fence inj storedOk ok.1 fence
  have sameId := before.table.keyed _ _ found
  refine ⟨storedOk.digested, fun receipt hash isResult isFor => ?_⟩
  have isForStored := isFor
  refine (ok.2 receipt hash isResult (sameRequest ▸ isForStored)).extends
    (.refl _) fun doomed isGuarded => ?_
  rw [show (stored.conclude state result lastError now).operationId =
    expected.operationId from sameId]
  exact consistent.ownFailed (doomed isGuarded) found isForStored

/-- An outcome write that rests on evidence keeps everything consistent. -/
theorem Consistent.write {write : OutcomeWrite Digest} (now)
    (consistent : Consistent node guarded before) (ok : WriteOk node guarded before.wallet write) :
    Consistent node guarded (before.write now write).2 := by
  have quiet := quiet_write before now write
  refine consistent.table quiet.calls (by cases write <;> rfl) (by cases write <;> rfl) ?_ ?_
  · intro _ _ key row _ found
    have change := quiet.rows key
    rw [found] at change
    generalize stored : (before.write now write).2.table.row key = current at change
    cases change with
    | keep => exact ⟨row, rfl, rfl⟩
    | conclude concluded => exact ⟨_, rfl, concluded.sameRequest⟩
  · intro key row found
    cases write with
    | fenced =>
      simp only [World.write, recordChannelOpenOutcome] at found
      split at found
      · exact .inl found
      split at found
      · exact .inl found
      next stored storedFound =>
      split at found
      · next fence =>
        rcases row_put_eq_some found with rfl | old
        · exact .inr (consistent.rowOk_fenced inj now ok storedFound fence.1)
        · exact .inl old
      · exact .inl found
    | pendingOnly =>
      simp only [World.write, resolveChannelOpenOperation] at found
      split at found
      · exact .inl found
      next stored storedFound =>
      split at found
      · rcases row_put_eq_some found with rfl | old
        · exact .inr ⟨(consistent.rows _ _ storedFound).digested,
            fun receipt _ isResult _ => absurd isResult (ok receipt)⟩
        · exact .inl old
      · exact .inl found

end

variable {binding : Option (Binding Digest)} {task : Nat} {call : MoneyCall}

/-- A row that is inserted has no receipt yet. -/
structure InsertOk (node : Node Digest) (op : ChannelOpenOperation Digest) : Prop where
  digested : op.requestHash = node.digest op.request
  empty : op.result = none

theorem Consistent.insert (consistent : Consistent node guarded before) (ok : InsertOk node op) :
    Consistent node guarded (before.insert task op).2 := by
  cases absent : before.table.row op.operationId with
  | some =>
    have same : (before.insert task op).2 = before := by
      simp [World.insert, insertChannelOpenOperation, absent]
    rw [same]
    exact consistent
  | none =>
    have table : (before.insert task op).2.table = before.table.put op := by
      simp [World.insert, insertChannelOpenOperation, absent]
    refine consistent.table rfl rfl rfl ?_ ?_
    · intro _ _ key row _ found
      have elsewhere : key ≠ op.operationId := by
        rintro rfl
        rw [absent] at found
        cases found
      rw [table, row_put_of_ne elsewhere]
      exact ⟨row, found, rfl⟩
    · intro key row found
      rw [table] at found
      rcases row_put_eq_some found with rfl | old
      · refine .inr ⟨ok.digested, fun _ _ isResult _ => ?_⟩
        rw [ok.empty] at isResult
        cases isResult
      · exact .inl old

theorem taskMove_removed {wallet : Wallet Digest} {first second : World Digest wallet}
    (move : TaskMove task first second) (found : first.table.row key = some row)
    (gone : second.table.row key = none) : first.owner key = some task ∧ Refused task first := by
  cases move with
  | quiet quiet =>
    have absent := (rowChange_eq_none_iff (quiet.rows key)).mp gone
    rw [found] at absent
    cases absent
  | insert op absent =>
    by_cases same : key = op.operationId
    · rw [same] at gone
      simp at gone
    · rw [row_put_of_ne same, found] at gone
      cases gone
  | delete id _ owner refused =>
    by_cases same : key = id
    · exact ⟨same ▸ owner, refused⟩
    · rw [row_remove_of_ne same, found] at gone
      cases gone
  | handOver _ _ _ sameTable | answer _ sameTable =>
    rw [sameTable, found] at gone
    cases gone

theorem Consistent.delete {id : String} (consistent : Consistent node guarded before)
    (sound : Sound before) (move : TaskMove task before (before.delete id).2) :
    Consistent node guarded (before.delete id).2 := by
  have rowOf (key : String) : (before.delete id).2.table.row key = before.table.row key ∨
    (before.delete id).2.table.row key = none := by
    cases found : before.table.row id with
    | none =>
      left
      simp [World.delete, deletePendingChannelOpenOperation, found]
    | some stored =>
      by_cases isPending : stored.state = .pending
      · by_cases same : key = id
        · right
          simp [World.delete, deletePendingChannelOpenOperation, found, isPending, same]
        left
        simp [World.delete, deletePendingChannelOpenOperation, found,
          isPending, row_remove_of_ne same]
      · left
        simp [World.delete, deletePendingChannelOpenOperation, found, isPending]
  refine consistent.table rfl rfl rfl ?_ ?_
  · intro attempt mem key row hasKey found
    rcases rowOf key with same | gone
    · exact ⟨row, by rw [same]; exact found, rfl⟩
    obtain ⟨owner, refused⟩ := taskMove_removed move found gone
    obtain ⟨made, madeMem, _, isFor, unproven⟩ := consistent.attempted attempt mem key hasKey
    have owned := sound.unproven made madeMem key isFor unproven
    rw [owner] at owned
    exact absurd (refused made madeMem (Option.some.inj owned).symm) unproven
  · intro key row found
    rcases rowOf key with same | gone
    · exact .inl (same ▸ found)
    · rw [gone] at found
      cases found

/-- A call that is coherent with the request it is made for. -/
def CallOk (node : Node Digest) (call : MoneyCall) (binding : Option (Binding Digest)) : Prop :=
  ∀ bolt11 maxFeeMsat bound hash,
    call = .payInvoiceWithFeeLimit bolt11 maxFeeMsat →
      binding = some bound → hashOf node bolt11 = some hash → bound.request.invoiceHash = some hash

/-- A new attempt is the first of its operation. -/
theorem Consistent.handOver (consistent : Consistent node guarded before)
    (coherent : CallOk node call binding)
    (permitted : ∀ bound, binding = some bound → Permitted before bound)
    (handed : HandsOver node before.wallet task call binding ledger) :
    Consistent node guarded
      { before with
        calls := before.calls ++ [⟨task, binding, call, none⟩]
        wallet := ledger } := by
  have extends_ := handed.extends
  have attemptedBefore : ∀ attempt ∈ before.wallet.attempts, ∀ key, attempt.key = some key →
    ∃ made ∈ before.calls ++ [⟨task, binding, call, none⟩],
      made.task = attempt.task ∧ made.IsFor key ∧ ¬ made.Undispatched := by
    intro attempt mem key hasKey
    obtain ⟨made, madeMem, facts⟩ := consistent.attempted attempt mem key hasKey
    exact ⟨made, mem_append_left _ madeMem, facts⟩
  rcases handed with rfl | ⟨bolt11, maxFeeMsat, hash, isPay, isHash, failed, rfl⟩
  · exact ⟨attemptedBefore, consistent.bound, consistent.single,
      consistent.ordered, consistent.rows, consistent.spawned⟩
  have keyOf {key : String} (hasKey : binding.map Binding.key = some key) :
    ∃ bound, binding = some bound ∧ bound.key = key ∧ Permitted before bound := by
    obtain ⟨bound, isBound, sameKey⟩ := Option.map_eq_some_iff.mp hasKey
    exact ⟨bound, isBound, sameKey, permitted bound isBound⟩
  refine ⟨?attempted, ?bound, ?single, ?ordered, ?rows, ?spawned⟩
  case attempted =>
    intro attempt mem key hasKey
    rcases mem_append.mp mem with old | new
    · exact attemptedBefore attempt old key hasKey
    rw [mem_singleton.mp new] at hasKey ⊢
    obtain ⟨bound, isBound, sameKey, _⟩ := keyOf hasKey
    refine ⟨_, mem_append_right _ (mem_singleton_self _), rfl, ⟨bound, isBound, sameKey⟩, ?_⟩
    rintro ⟨error, replied, _⟩
    cases replied
  case bound =>
    intro attempt mem key hasKey
    rcases mem_append.mp mem with old | new
    · exact consistent.bound attempt old key hasKey
    rw [mem_singleton.mp new] at hasKey ⊢
    obtain ⟨bound, isBound, rfl, permittedBound⟩ := keyOf hasKey
    obtain ⟨row, found, _, sameRequest⟩ := permittedBound.recorded
    refine ⟨row, found, ?_⟩
    rw [sameRequest]
    exact coherent bolt11 maxFeeMsat bound hash isPay isBound isHash
  case single =>
    intro i j first _ less foundFirst foundSecond same
    rcases getElem?_concat_eq_some foundSecond with old | ⟨_, rfl⟩
    · have bound := (List.getElem?_eq_some_iff.mp old).1
      rw [List.getElem?_append_left (by omega)] at foundFirst
      exact consistent.single i j _ _ less foundFirst old same
    rcases getElem?_concat_eq_some foundFirst with old | ⟨rfl, _⟩
    · -- An earlier attempt would be an earlier call that may have paid.
      cases hasKey : first.key with
      | none => rfl
      | some key =>
        rw [hasKey] at same
        obtain ⟨bound, _, rfl, permittedBound⟩ := keyOf same.symm
        obtain ⟨made, madeMem, _, isFor, unproven⟩ :=
          consistent.attempted first (mem_of_getElem? old) _ hasKey
        exact absurd (permittedBound.undispatched made madeMem isFor) unproven
    · omega
  case ordered =>
    intro i j first _ less foundFirst foundSecond same
    rcases getElem?_concat_eq_some foundSecond with old | ⟨_, rfl⟩
    · have bound := (List.getElem?_eq_some_iff.mp old).1
      rw [List.getElem?_append_left (by omega)] at foundFirst
      exact consistent.ordered i j _ _ less foundFirst old same
    rcases getElem?_concat_eq_some foundFirst with old | ⟨rfl, _⟩
    · exact failed first (mem_of_getElem? old) same
    · omega
  case rows =>
    intro key row found
    exact (consistent.rows key row found).extends extends_
  case spawned =>
    intro write mem
    exact (consistent.spawned write mem).extends extends_

variable {answer : Except LightningError call.Result}

theorem InvoiceLedger.Answers.attempts
    (answered : Answers node first task call binding answer second) :
    second.attempts = first.attempts := by
  unfold Answers at answered
  split at answered
  · obtain ⟨rfl, _⟩ := answered
    rfl
  · obtain ⟨_, _, _, _, _, _, _, _, rfl⟩ := answered
    exact attempts_report _ _ _
  · obtain rfl := answered
    rfl

theorem Consistent.answered (consistent : Consistent node guarded before)
    (answered : World.Answered before task call binding answer after) :
    Consistent node guarded after := by
  obtain ⟨_, answers, rfl⟩ := answered
  have sameAttempts := InvoiceLedger.Answers.attempts answers
  have settled := consistent.status (InvoiceLedger.Answers.extends answers) (by rw [sameAttempts])
  refine ⟨?_, settled.bound, settled.single, settled.ordered, settled.rows, settled.spawned⟩
  intro attempt mem key hasKey
  obtain ⟨made, madeMem, sameTask, ⟨bound, isBound, sameKey⟩, unproven⟩ :=
    settled.attempted attempt mem key hasKey
  refine ⟨made.answered task (replyOf answer), mem_map_of_mem madeMem,
    by rw [answered_task, sameTask],
    ⟨bound, by rw [answered_binding]; exact isBound, sameKey⟩, ?_⟩
  rintro ⟨error, replied, harmless⟩
  unfold MadeCall.answered at replied
  split at replied
  · next own =>
    -- The backend says nothing was dispatched, but there is an attempt.
    have isError : answer = .error error := by
      cases answer with
      | ok => cases replied
      | error => cases replied; rfl
    subst isError
    have noAttempt : ∀ attempt ∈ before.wallet.attempts, attempt.task ≠ task := by
      cases call <;> exact answers.2.2 harmless
    exact noAttempt attempt (sameAttempts ▸ mem) (sameTask.symm.trans own.1)
  · exact unproven ⟨error, replied, harmless⟩

end

end BitSov.Payments
