import BitSov.Payments.InvoiceOutcomes

namespace BitSov.Payments

open InvoiceLedger (HandsOver Progresses)

open Core Spend Outbox Process Fallible Program Direct View.Growth ChannelOpen Machine
open OperationTable InvoiceLedger

/-!
# The pay route tells the truth about invoices

Sends on chain, channel opens and keysends share the table but write no
receipt for an invoice. Together with the direct payments this makes every
answer of the pay route rest on what the backend has reported.
-/

variable {Digest : Type}

section

variable {node : Node Digest} (binding : Option (Binding Digest))

theorem groundless_callBackend (call)
    (noInvoice : ∀ bolt11 cap, call ≠ .payInvoiceWithFeeLimit bolt11 cap) :
    Performs (Groundless node guarded) (callBackend binding call).run := by
  refine performs_ask_bind (fun _ bolt11 cap _ _ same => absurd same (noInvoice bolt11 cap))
    fun answer => ?_
  cases answer with
  | error => trivial
  | ok => exact performs_ask_iff.mpr fun _ => trivial

variable {id : String}

/-- The result of another route is no receipt for an invoice. -/
theorem groundless_write (noReceipt : ∀ receipt, result ≠ some (.direct receipt)) :
    Groundless node guarded (.writeOutcome (.pendingOnly id state result lastError)) :=
  fun _ => noReceipt

theorem groundless_recordOutcome (noReceipt : ∀ receipt, result ≠ some (.direct receipt)) :
    Performs (Groundless node guarded) (Onchain.recordOutcome
      (.pendingOnly id state result lastError)).run := by
  refine performs_bind (performs_ask_bind (groundless_write noReceipt) fun written => ?_)
    fun written => ?_
  · cases written <;> trivial
  split
  · trivial
  · exact performs_ask_iff.mpr fun _ => noReceipt

section

variable (req : Onchain.SendOnchainRequest)
include req

theorem groundless_dispatch :
    Performs (Groundless node guarded) (Onchain.dispatch binding req).run :=
  performs_bind (groundless_callBackend binding _ nofun) fun _ => trivial

theorem groundless_onchainRun [DecidableEq Digest] (requestId) :
    Performs (Groundless node guarded) (Onchain.run node req requestId).run := by
  unfold Onchain.run
  split
  · trivial
  refine performs_ask_bind (fun _ => trivial) fun found => ?_
  rcases found with _ | (- | _)
  · trivial
  · refine performs_bind (performs_validate (fun _ => trivial) node req) fun _ => ?_
    refine performs_ask_bind (fun _ => trivial) fun _ => ?_
    refine performs_ask_bind (fun _ => ⟨rfl, rfl⟩) fun inserted => ?_
    rcases inserted with _ | (- | -)
    · trivial
    · refine performs_ask_bind (fun _ => trivial) fun again => ?_
      rcases again with _ | (- | _) <;> trivial
    refine performs_bind (groundless_dispatch _ req) fun reply => ?_
    cases reply with
    | ok =>
      exact performs_bind (groundless_recordOutcome nofun) fun _ => trivial
    | error error =>
      dsimp only
      split
      · exact performs_ask_bind (fun _ => trivial) fun _ => trivial
      · exact performs_bind (groundless_recordOutcome nofun) fun _ => trivial
  · trivial

theorem groundless_onchainSend [DecidableEq Digest] :
    Performs (Groundless node guarded) (Onchain.send node req).run := by
  unfold Onchain.send
  split
  · exact groundless_onchainRun req _
  refine performs_bind (performs_validate (fun _ => trivial) node req) fun _ => ?_
  refine performs_bind (groundless_dispatch none req) fun reply => ?_
  cases reply <;> trivial

end

variable (req : ChannelOpen.OpenChannelRequest)

theorem groundless_openChannel (options pushMsat) :
    Performs (Groundless node guarded) (openChannel binding req options pushMsat).run := by
  unfold openChannel
  split <;> exact groundless_callBackend binding _ nofun

theorem groundless_openRecorded (options pushMsat binding) :
    Performs (Groundless node guarded) (openRecorded req options pushMsat binding).run := by
  refine performs_bind (groundless_openChannel _ req options pushMsat) ?_
  intro reply
  cases reply with
  | ok =>
    exact performs_ask_bind (groundless_write nofun) fun _ => trivial
  | error error =>
    dsimp only
    split
    · exact performs_ask_bind (fun _ => trivial) fun _ => trivial
    · exact performs_ask_bind (groundless_write nofun) fun _ => trivial

theorem groundless_checkAndOpen [DecidableEq Digest] (operation) (digested : ∀ owns binding,
      operation = some (owns, binding) → binding.requestHash = node.digest binding.request) :
    Performs (Groundless node guarded) (checkAndOpen node req operation).run := by
  refine performs_bind (performs_checkParameters (fun _ => trivial) node req) fun pushMsat => ?_
  split
  · refine performs_ask_bind (fun _ => trivial) fun quote => ?_
    cases quote <;> trivial
  rcases operation with - | ⟨_, binding⟩
  · refine performs_bind (groundless_openChannel none req _ pushMsat) fun reply => ?_
    cases reply <;> trivial
  refine performs_ask_bind (fun _ => trivial) fun _ => ?_
  refine performs_ask_bind (fun _ => ⟨digested _ _ rfl, rfl⟩) fun inserted => ?_
  rcases inserted with _ | (- | -)
  · trivial
  · refine performs_ask_bind (fun _ => trivial) fun found => ?_
    rcases found with _ | (- | _)
    · trivial
    · trivial
    · exact performs_replayChannelOpen _ _ _ _ (fun _ => trivial)
        ⟨fun _ => trivial, fun _ _ => trivial⟩ fun _ _ _ _ => groundless_write
  · exact groundless_openRecorded req _ pushMsat binding

theorem groundless_runChannelOpen [DecidableEq Digest] :
    Performs (Groundless node guarded) (runChannelOpen node req).run := by
  unfold runChannelOpen
  split
  · exact groundless_checkAndOpen req none nofun
  split
  · trivial
  split
  · trivial
  refine performs_ask_bind (fun _ => trivial) fun locked => ?_
  cases locked with
  | error error => trivial
  | ok =>
    refine performs_ask_bind (fun _ => trivial) fun found => ?_
    rcases found with _ | (- | _)
    · trivial
    · dsimp only
      split
      · refine groundless_checkAndOpen req _ fun _ _ same => ?_
        cases same
        rfl
      · trivial
    · exact performs_replayChannelOpen _ _ _ _ (fun _ => trivial)
        ⟨fun _ => trivial, fun _ _ => trivial⟩ fun _ _ _ _ => groundless_write

end

theorem preparePay_ok {node : Node Digest} {req : PayInvoiceRequest}
    {op : Dispatch} (prepared : preparePay node caller req = .ok op) :
    ∃ hash, hashOf node req.bolt11 = some hash ∧ op.paymentHash = some hash ∧
      ∀ scope, (op.fingerprint scope).invoiceHash = some hash := by
  unfold preparePay invoiceTerms at prepared
  unfold hashOf
  cases parsed : node.parseInvoice (node.trim req.bolt11) with
  | none =>
    rw [parsed] at prepared
    cases prepared
  | some invoice =>
    rw [parsed] at prepared
    cases amount : invoice.amountMsat with
    | some amountMsat =>
      simp only [amount] at prepared
      cases prepared
      exact ⟨invoice.paymentHash, rfl, rfl, fun _ => rfl⟩
    | none =>
      simp only [amount] at prepared
      cases metered : caller.isMetered <;> rw [metered] at prepared <;> cases prepared

theorem noVerdict_preparePay {node : Node Digest} {req : PayInvoiceRequest}
    (failed : preparePay node caller req = .error refusal) : NoVerdict refusal := by
  unfold preparePay invoiceTerms at failed
  cases parsed : node.parseInvoice (node.trim req.bolt11) with
  | none =>
    rw [parsed] at failed
    cases failed
    exact nofun
  | some invoice =>
    rw [parsed] at failed
    cases amount : invoice.amountMsat with
    | some amountMsat =>
      simp only [amount] at failed
      cases failed
    | none =>
      simp only [amount] at failed
      cases metered : caller.isMetered <;> rw [metered] at failed <;> cases failed <;>
        exact nofun

section

variable [DecidableEq Digest] {node : Node Digest} {guarded : Bool} {task : Nat}
  {job : Nat × Job Digest} {since : World Digest (invoiceWallet node guarded)}
  (inj : Function.Injective node.digest)

omit [DecidableEq Digest] in
/-- The details of a call are those of its own attempt. -/
theorem detailsOk_of_answers {bolt11 : String} {cap : UInt64} {bound : Binding Digest}
    {before after : InvoiceLedger} {details : PaymentDetails} {hash : String}
    (isHash : hashOf node bolt11 = some hash)
    (answers : Answers node before task (.payInvoiceWithFeeLimit bolt11 cap)
      (some bound) (.ok details) after) :
    DetailsOk guarded after bound.key hash details ∧ Dispatched after bound.key hash := by
  obtain ⟨attempt, mem, _, hasKey, sameHash, _, sameStatus, named, rfl⟩ := answers
  rw [isHash] at sameHash
  cases sameHash
  have memberAfter : attempt ∈ (before.report attempt.hash details.status).attempts := by
    rw [attempts_report]
    exact mem
  refine ⟨⟨named, fun isSettled => ?_, fun isFailed _ => ?_⟩, ?_⟩
  · rw [isSettled]
    exact mem_reported_report _ _
  · rw [sameStatus] at isFailed
    exact ⟨attempt, memberAfter, hasKey, fun _ => isFailed⟩
  · exact ⟨attempt, memberAfter, hasKey, rfl⟩

omit [DecidableEq Digest] in
/-- The pay route pays the invoice it has prepared. -/
theorem payable_pay {caller : Caller} {req : PayInvoiceRequest} {op : Dispatch}
    (prepared : preparePay node caller req = .ok op) :
    Payable node guarded task (op.fingerprint caller.scope) op
      (.payInvoiceWithFeeLimit req.bolt11 op.maxRoutingFeeMsat) fun details => details := by
  obtain ⟨_, isHash, isPayment, isInvoice⟩ := preparePay_ok prepared
  refine ⟨fun _ isFor => ?_, fun _ isRequest => ?_, ?_⟩
  · rw [isInvoice] at isFor
    rw [isPayment]
    exact isFor
  · intro _ _ _ _ isCall isBound isPaid
    cases isCall
    cases isBound
    rw [isRequest, isInvoice, ← isHash]
    exact isPaid
  intro _ _ _ _ _ isFor answers
  rw [isInvoice] at isFor
  rw [isFor] at isHash
  exact detailsOk_of_answers isHash answers

include inj

theorem secure_payInvoice (caller req) :
    Secures node guarded task job since (payInvoice node caller req).run
      fun answer world => JobOk node guarded world.wallet (.pay caller req) (.direct answer) := by
  have malformed (reason : String) (world : World Digest (invoiceWallet node guarded)) :
    JobOk node guarded world.wallet (.pay caller req) (.direct (.error (badRequest reason))) :=
    fun _ _ _ _ => NoVerdict.answerOk nofun
  unfold payInvoice
  split
  · exact secure_known fun world _ _ => malformed _ world
  split
  · exact secure_known fun world _ _ => malformed _ world
  refine secure_known_bind (fun _ world failed _ _ _ hash hasId => ?_) fun _ hasId => ?_
  · rw [failed] at hasId
    cases hasId
  refine (secure_run inj (fun _ failed => noVerdict_preparePay failed)
    fun _ prepared => payable_pay prepared).weaken fun _ world _ _ ok _ hash hasGiven isHash => ?_
  rw [hasId] at hasGiven
  cases hasGiven
  refine ok hash fun _ prepared => ?_
  obtain ⟨paid, isPaid, _, isInvoice⟩ := preparePay_ok prepared
  rw [isInvoice, isHash paid isPaid]

theorem secure_keysend (caller req) : Secures node guarded task job since
      (keysend node caller req).run fun _ _ => True := by
  unfold keysend
  split
  · exact secure_known fun _ _ _ => trivial
  split
  · exact secure_known fun _ _ _ => trivial
  split
  · exact secure_known fun _ _ _ => trivial
  split
  · exact secure_known fun _ _ _ => trivial
  refine secure_known_bind (fun _ _ _ _ _ => trivial) fun _ _ => ?_
  refine (secure_run inj (fun _ failed => (by cases failed))
    fun _ prepared => ?_).weaken fun _ _ _ _ _ => trivial
  cases prepared
  refine ⟨fun _ isFor => ?_, fun _ _ _ _ _ _ same => ?_, fun _ _ _ _ _ isFor => ?_⟩
  · cases isFor
  · cases same
  · cases isFor

theorem secure_retryAfter (ok : WriteOk node guarded since.wallet write) (delays) :
    Secures node guarded task job since (retryAfter write delays).run fun _ _ => True := by
  induction delays generalizing since with
  | nil => exact secure_pure fun _ _ _ => trivial
  | cons _ _ ih =>
    refine secure_bind (secure_writeOnce inj ok) (fun _ _ _ _ _ => trivial) fun _ _ _ above _ => ?_
    split
    · exact secure_pure fun _ _ _ => trivial
    · exact ih (ok.extends above)

theorem secure_retryOutcome (write) :
    Secures node guarded task job since (retryOutcome write).run fun _ _ => True := by
  refine secure_ask inj trivial fun _ _ _ consistent _ _ grown effect => ?_
  exact secure_retryAfter inj ((consistent.spawned write effect.1).extends grown) retryDelays

theorem secure_code (job) :
    Secures node guarded task job since ((ownedRoutes node guarded).code job)
      fun returned world => JobOk node guarded world.wallet job.2 returned := by
  obtain ⟨_, request⟩ := job
  cases request with
  | pay caller req => exact (secure_payInvoice inj caller req).bind fun _ _ _ _ ok => ok
  | keysend caller req => exact (secure_keysend inj caller req).bind fun _ _ _ _ _ => trivial
  | sendOnchain req =>
    exact (secure_of_groundless inj (groundless_onchainSend req)
      fun _ _ => trivial).bind fun _ _ _ _ _ => trivial
  | openChannel req =>
    exact (secure_of_groundless inj (groundless_runChannelOpen req)
      fun _ _ => trivial).bind fun _ _ _ _ _ => trivial
  | retry write => exact (secure_retryOutcome inj write).bind fun _ _ _ _ _ => trivial

end

section

variable [DecidableEq Digest] {node : Node Digest} {guarded : Bool}

theorem evidence_kept (inj : Function.Injective node.digest) : (evidence node guarded).Kept where
  cancel index before after consistent dropped := by
    obtain ⟨rfl, _⟩ := dropped
    exact ⟨consistent, .refl _⟩
  crash process before after consistent crashed := by
    obtain ⟨⟨spawned, old, rfl⟩, _⟩ := crashed
    exact ⟨consistent.respawn fun write mem => consistent.spawned write (old write mem), .refl _⟩
  ambient before after consistent moved := by
    obtain ⟨⟨_, progresses, rfl⟩, _⟩ := moved
    have extends_ := Progresses.extends progresses
    refine ⟨consistent.status extends_ ?_, extends_⟩
    obtain ⟨index, _, status, _, _, rfl⟩ := progresses
    exact List.length_set
  fresh _ _ _ _ _ _ _ _ := trivial
  result _ _ _ _ _ _ _ grown ok := JobOk.extends ok grown
  code index job world consistent _ := secure_code inj job world consistent (.refl _)

/-- The snapshots the routes can reach with an empty ledger. -/
def LedgerReachable (node : Node Digest) (guarded : Bool)
    (config : Config (Nat × Job Digest) (World Digest (invoiceWallet node guarded))
      (PayOp Digest) PayOp.Answer RouteAnswer) :
    Prop :=
  (routes node (invoiceWallet node guarded)).Steps
    (idle (@World.initial Digest (invoiceWallet node guarded) empty))
    config

variable {config : Config (Nat × Job Digest) (World Digest (invoiceWallet node guarded))
  (PayOp Digest) PayOp.Answer RouteAnswer}

theorem LedgerReachable.holds (inj : Function.Injective node.digest)
    (reachable : LedgerReachable node guarded config) : (evidence node guarded).Holds config := by
  have idle : (discipline node (invoiceWallet node guarded)).Holds
    (idle (@World.initial Digest (invoiceWallet node guarded) empty)) :=
    Reachable.holds ⟨empty, .refl⟩
  refine Discipline.holds_of_steps (evidence_kept inj) (Discipline.holds_idle ?_ fun _ => trivial)
    (Discipline.steps_enforced discipline_kept idle reachable)
  refine ⟨?_, ?_, ?_, ?_, ?_, ?_⟩
  · exact nofun
  · intro _ mem
    cases mem
  · exact nofun
  · intro _ _ _ _ _ found
    cases found
  · intro _ _ found
    cases found
  · intro _ mem
    cases mem

def PayAnswered (config : Config (Nat × Job Digest) (World Digest (invoiceWallet node guarded))
      (PayOp Digest) PayOp.Answer RouteAnswer) (caller : Caller) (requestId : String)
    (req : PayInvoiceRequest) (answer : Except RouteError Direct.Answered) :
    Prop :=
  ∃ (index process : Nat)
    (task : Task (Nat × Job Digest) (PayOp Digest) PayOp.Answer RouteAnswer),
    config.tasks[index]? = some task ∧
      task.job = (process, .pay caller req) ∧
      requiredRequestId req.requestId = .ok requestId ∧
      task.rest = .done (.direct answer)

theorem PayAnswered.answerOk {requestId : String} {req : PayInvoiceRequest}
    (answered : PayAnswered config caller requestId req answer)
    (holds : (evidence node guarded).Holds config) :
    AnswerOk guarded config.shared.wallet (operationKey .pay caller requestId)
      ((hashOf node req.bolt11).getD "") answer := by
  obtain ⟨index, _, task, found, isPay, hasId, finished⟩ := answered
  have ok := holds.result index task _ found finished
  simp only [evidence, isPay] at ok
  refine ok requestId _ hasId fun _ isGiven => ?_
  rw [isGiven]
  rfl

/--
In every run of the pay route over a backend that keeps one status for a
payment hash: a request is answered as settled only if the backend has
reported an outgoing settled payment for its hash. If moreover a failure is
reported only to an operation that has an attempt of its own, then a request
under an id whose attempt settles is never answered with a failed payment, and
the receipt recorded for the id is never a failure.
-/
theorem pay_answers_settled_failed (node : Node Digest) (inj : Function.Injective node.digest)
    (guarded : Bool) (config : Config (Nat × Job Digest) (World Digest (invoiceWallet node guarded))
      (PayOp Digest) PayOp.Answer RouteAnswer) (reachable : LedgerReachable node guarded config)
    (caller : Caller) (requestId : String) :
    (∀ req hash answered, PayAnswered config caller requestId req (.ok answered) →
      hashOf node req.bolt11 = some hash →
        answered.body.status = .settled → hash ∈ config.shared.wallet.reported) ∧
      (guarded → ∀ attempt ∈ config.shared.wallet.attempts,
        attempt.key = some (operationKey .pay caller requestId) →
          attempt.status = .settled → (∀ req refusal,
            PayAnswered config caller requestId req (.error refusal) →
              refusal.error ≠ .lightning (failureText .pay)) ∧
            ∀ row text maxRoutingFeeMsat, config.shared.table.row
              (operationKey .pay caller requestId) = some row →
              row.result ≠ some (.direct (.failed text maxRoutingFeeMsat))) := by
  have holds := reachable.holds inj
  constructor
  · intro _ _ answered returned isHash isSettled
    have ok := (returned.answerOk holds).settled answered rfl isSettled
    rw [isHash] at ok
    exact ok
  intro isGuarded attempt member hasKey isSettled
  -- No attempt that has settled is one that has failed.
  have notFailed : ¬ OwnFailed config.shared.wallet (operationKey .pay caller requestId) := by
    rintro ⟨_, failedMember, failedKey, isFailed⟩
    rw [holds.invariant.attempt_unique failedMember member failedKey hasKey, isSettled] at isFailed
    cases isFailed
  constructor
  · intro _ refusal returned isFailed
    exact notFailed ((returned.answerOk holds).failed refusal rfl isFailed isGuarded)
  intro row _ _ found isFailure
  obtain ⟨_, storedFound, isFor⟩ := holds.invariant.bound attempt member _ hasKey
  rw [found] at storedFound
  cases storedFound
  have failed := (holds.invariant.rows _ row found).receipt _ _ isFailure isFor isGuarded
  rw [config.shared.table.keyed _ row found] at failed
  exact notFailed failed

end

variable {guarded : Bool} (world : World Request (invoiceWallet plainNode guarded))
  (requestId : String)

/-- The owner's request to pay the invoice `inv` under an id. -/
def invoiceRequest : PayInvoiceRequest where
  requestId := some requestId
  maxRoutingFeeMsat := none
  bolt11 := "inv"

def invoiceBinding : Binding Request where
  key := operationKey .pay .owner requestId
  requestHash := .pay "inv".toLower none "inv" "owner"
  request := .pay "inv".toLower none "inv" "owner"

def invoiceRow : ChannelOpenOperation Request :=
  .pending (invoiceBinding requestId).key (invoiceBinding requestId).requestHash
    (invoiceBinding requestId).request 7

/-- The backend call of the request. -/
def invoiceCall : MoneyCall :=
  .payInvoiceWithFeeLimit "inv" 10

def invoiceDetails (status : PaymentStatus) : PaymentDetails where
  paymentHash := "inv"
  preimage := none
  amountMsat := 1000
  status
  direction := .outgoing
  timestamp := 7

/-- The calls of a request that finds no row, up to its hand-over. -/
def freshHistory : List (Event (PayOp Request) PayOp.Answer) :=
  [⟨.getOperation (invoiceBinding requestId).key, .ok none⟩,
    ⟨.moneyReady, true⟩, ⟨.now, (7 : Int)⟩,
    ⟨.insertOperation (invoiceRow requestId), .ok true⟩]

theorem requiredRequestId_a : requiredRequestId (some "a") = .ok "a" := by
  simp [requiredRequestId]
  decide

theorem requiredRequestId_b : requiredRequestId (some "b") = .ok "b" := by
  simp [requiredRequestId]
  decide

theorem payInvoice_eq_run {requestId : String}
    (hasId : requiredRequestId (some requestId) = .ok requestId) :
    payInvoice plainNode .owner (invoiceRequest requestId) = run plainNode .pay .owner requestId
      (preparePay plainNode .owner (invoiceRequest requestId)) (debit .owner)
      (fun op => .payInvoiceWithFeeLimit "inv" op.maxRoutingFeeMsat)
      (fun _ details => details) := by
  have given : "inv".isEmpty = false := by decide
  have short : ¬ maxBolt11Len < "inv".utf8ByteSize := by decide
  simp [payInvoice, invoiceRequest, given, short, hasId, known_ok_bind]

theorem reaches_handOver {requestId : String}
    (hasId : requiredRequestId (some requestId) = .ok requestId) :
    ∃ next, Reaches ((routes plainNode (invoiceWallet plainNode guarded)).code
      (0, .pay .owner (invoiceRequest requestId))) (freshHistory requestId)
      (.call (.handOver invoiceCall (some (invoiceBinding requestId)) false) next) := by
  simp only [routes, Job.code, payInvoice_eq_run hasId]
  exact ⟨_, .call (.call (.call (.call (.refl _))))⟩

theorem performed_freshHistory {world : World Request (invoiceWallet plainNode guarded)}
    {requestId : String} (task)
    (absent : world.table.row (invoiceRow requestId).operationId = none) :
    Performed ((routes plainNode (invoiceWallet plainNode guarded)).effect task) world
      (freshHistory requestId) (world.insert task (invoiceRow requestId)).2 := by
  refine .cons ⟨rfl, ?_⟩ (.cons rfl (.cons rfl (.cons ⟨?_, rfl⟩ (.nil _))))
  · intro _ same
    cases same
    exact absent.symm
  · simp [World.insert, insertChannelOpenOperation, absent]

/-- What is known about the payment before its dispatch. -/
def invoiceDispatch : Dispatch where
  fingerprint := .pay "inv".toLower none "inv"
  paymentHash := some "inv"
  amountMsat := 1000
  maxRoutingFeeMsat := 10
  recipient := "payee"

/-- The write of a failure against the row. -/
def failureWrite : OutcomeWrite Request :=
  .fenced (invoiceRow requestId) .opened
    (some (.direct (.failed (failureText .pay) 10)))
    (some (failureText .pay))

theorem reaches_failure {requestId : String}
    (hasId : requiredRequestId (some requestId) = .ok requestId) :
    Reaches ((routes plainNode (invoiceWallet plainNode guarded)).code
      (0, .pay .owner (invoiceRequest requestId)))
      [⟨.getOperation (invoiceBinding requestId).key, .ok (some (invoiceRow requestId))⟩,
        ⟨.getPaymentStatus (invoiceBinding requestId).key "inv",
          some (.ok (invoiceDetails .failed))⟩, ⟨.writeOutcome (failureWrite requestId), .ok true⟩]
      (.done (.direct (.error (ApiError.withRoutingFee (.lightning (failureText .pay)) 10)))) := by
  simp only [routes, Job.code, payInvoice_eq_run hasId]
  refine .call ?_
  show Reaches ((replay plainNode (invoiceRow requestId)
    ⟨.pay, requestId, (invoiceBinding requestId).key⟩
    invoiceDispatch (invoiceBinding requestId).requestHash).run >>=
    fun answer => .done (RouteAnswer.direct answer))
    _ _
  have sameHash : ¬ (invoiceRow requestId).requestHash ≠ (invoiceBinding requestId).requestHash :=
    not_not.mpr rfl
  rw [replay, if_neg sameHash]
  exact .call (.call (.refl _))

/-- An attempt on the invoice for the operation of an id. -/
def invoiceAttempt (task : Nat) (status : PaymentStatus) : Attempt :=
  ⟨some (invoiceBinding requestId).key, task, "inv", status⟩

/-- The world after a request has handed its call over. -/
def handedOver (task : Nat) : World Request (invoiceWallet plainNode guarded) :=
  { world with
    calls := world.calls ++ [⟨task, some (invoiceBinding requestId), invoiceCall, none⟩]
    wallet :=
      { world.wallet with
        attempts := world.wallet.attempts ++ [invoiceAttempt requestId task .inFlight] } }

/-- The world after an attempt has got a status. -/
def withStatus
    (index : Nat) (attempt : Attempt) : World Request (invoiceWallet plainNode guarded) :=
  { world with
    wallet := { world.wallet with attempts := world.wallet.attempts.set index attempt } }

theorem write_invoiceRow {world : World Request (invoiceWallet plainNode guarded)}
    {requestId : String} (now result lastError)
    (found : world.table.row (invoiceRow requestId).operationId = some (invoiceRow requestId)) :
    world.write now (.fenced (invoiceRow requestId) .opened result lastError) = (true,
      { world with
        table := world.table.put
          ((invoiceRow requestId).conclude .opened result lastError now) }) := by
  have pending : (invoiceRow requestId).state ≠ .opened := by
    exact nofun
  simp [World.write, recordChannelOpenOutcome, found, pending]

/--
The first attempt on the invoice, made under the id `a`, has failed. A request
under `b` has inserted its row but not yet handed its call over when a replay
of `b` reads the failure, records it and answers with it. Then the first
request under `b` goes on, and its attempt settles.
-/
theorem pay_answered_failed_then_settles :
    ∃ config req refusal attempt row, LedgerReachable plainNode false config ∧
      attempt ∈ config.shared.wallet.attempts ∧
      attempt.key = some (operationKey .pay .owner "b") ∧ attempt.status = .settled ∧
      PayAnswered config .owner "b" req (.error refusal) ∧
      refusal.error = .lightning (failureText .pay) ∧
      config.shared.table.row (operationKey .pay .owner "b") = some row ∧
      row.result = some (.direct (.failed (failureText .pay) 10)) := by
  let machine := routes plainNode (invoiceWallet plainNode false)
  let start : World Request (invoiceWallet plainNode false) := World.initial empty
  let insertedA := (start.insert 0 (invoiceRow "a")).2
  let failedA := withStatus (handedOver insertedA "a" 0) 0 (invoiceAttempt "a" 0 .failed)
  let insertedB := (failedA.insert 1 (invoiceRow "b")).2
  let answered := (insertedB.write 8 (failureWrite "b")).2
  let settled := withStatus (handedOver answered "b" 1) 1 (invoiceAttempt "b" 1 .settled)
  obtain ⟨nextA, reachedA⟩ := @reaches_handOver false "a" requiredRequestId_a
  obtain ⟨nextB, reachedB⟩ := @reaches_handOver false "b" requiredRequestId_b
  have keysDiffer : (invoiceRow "b").operationId ≠ (invoiceRow "a").operationId := by
    decide
  have absentB : failedA.table.row (invoiceRow "b").operationId = none := row_put_of_ne keysDiffer
  have foundB : insertedB.table.row (invoiceBinding "b").key = some (invoiceRow "b") := by
    simp only [insertedB, World.insert, insertChannelOpenOperation, absentB]
    exact row_put_self _ _
  have writtenB := write_invoiceRow 8 (some (.direct (.failed (failureText .pay) 10)))
    (some (failureText .pay)) foundB
  have performedReplay : Performed (machine.effect 2) insertedB
    [⟨.getOperation (invoiceBinding "b").key, .ok (some (invoiceRow "b"))⟩,
      ⟨.getPaymentStatus (invoiceBinding "b").key "inv", some (.ok (invoiceDetails .failed))⟩,
      ⟨.writeOutcome (failureWrite "b"), .ok true⟩]
    answered := by
    refine .cons ⟨rfl, ?_⟩ (.cons ⟨insertedB.wallet, ?_, rfl⟩ (.cons ⟨8, ?_, rfl⟩ (.nil _)))
    · intro _ same
      cases same
      exact foundB.symm
    · refine ⟨rfl, invoiceAttempt "a" 0 .failed, by decide, rfl, by rintro ⟨⟩, rfl⟩
    · exact (congrArg Prod.fst writtenB).symm
  have handsA : HandsOver plainNode insertedA.wallet 0 invoiceCall
    (some (invoiceBinding "a")) (handedOver insertedA "a" 0).wallet :=
    .inr ⟨"inv", 10, "inv", rfl, rfl, fun _ member => (by cases member), rfl⟩
  have handsB : HandsOver plainNode answered.wallet 1 invoiceCall
    (some (invoiceBinding "b")) (handedOver answered "b" 1).wallet := by
    have attempts : answered.wallet.attempts = [invoiceAttempt "a" 0 .failed] :=
      congrArg (fun outcome => outcome.2.wallet.attempts) writtenB
    refine .inr ⟨"inv", 10, "inv", rfl, rfl, fun _ member _ => ?_, rfl⟩
    rw [attempts, List.mem_singleton] at member
    rw [member]
    rfl
  have failsA : Progresses (handedOver insertedA "a" 0).wallet failedA.wallet :=
    ⟨0, invoiceAttempt "a" 0 .inFlight, .failed, rfl, .inr rfl, rfl⟩
  have settlesB : Progresses (handedOver answered "b" 1).wallet settled.wallet := by
    have attempts : (handedOver answered "b" 1).wallet.attempts =
      [invoiceAttempt "a" 0 .failed, invoiceAttempt "b" 1 .inFlight] :=
      congrArg (fun outcome => (handedOver outcome.2 "b" 1).wallet.attempts) writtenB
    exact ⟨1, invoiceAttempt "b" 1 .inFlight, .settled, by rw [attempts]; rfl, .inr rfl, rfl⟩
  have insertsA := @Machine.steps_run _ _ _ _ _ _ _ machine (idle start) _ _ _ _
    reachedA (performed_freshHistory 0 rfl)
  have handedA := insertsA.tail (@Machine.Step.perform _ _ _ _ _ _ _ machine _ 0 _
    (.handOver invoiceCall (some (invoiceBinding "a")) false) nextA
    (.ok ()) _ rfl rfl rfl ⟨_, handsA, rfl⟩)
  have insertsB := (handedA.tail (.ambient ⟨_, failsA, rfl⟩)).trans
    (steps_run reachedB (performed_freshHistory 1 absentB))
  have replayed := insertsB.trans
    (steps_run (reaches_failure requiredRequestId_b) performedReplay)
  have handedB := replayed.tail (@Machine.Step.perform _ _ _ _ _ _ _ machine _ 1 _
    (.handOver invoiceCall (some (invoiceBinding "b")) false) nextB
    (.ok ()) _ rfl rfl rfl ⟨_, handsB, rfl⟩)
  have steps := handedB.tail (.ambient ⟨_, settlesB, rfl⟩)
  have attempts :
    settled.wallet.attempts = [invoiceAttempt "a" 0 .failed, invoiceAttempt "b" 1 .settled] :=
    congrArg (fun outcome =>
      (withStatus (handedOver outcome.2 "b" 1) 1 (invoiceAttempt "b" 1 .settled)).wallet.attempts)
      writtenB
  have row : settled.table.row (operationKey .pay .owner "b") =
    some ((invoiceRow "b").conclude .opened (some (.direct (.failed (failureText .pay) 10)))
      (some (failureText .pay)) 8) := by
    have stored : answered.table = _ := congrArg (fun outcome => outcome.2.table) writtenB
    show answered.table.row _ = _
    rw [stored]
    exact row_put_self _ _
  refine ⟨_, invoiceRequest "b", _, invoiceAttempt "b" 1 .settled, _, steps, ?_, rfl,
    rfl, ⟨2, 0, _, rfl, rfl, requiredRequestId_b, rfl⟩, rfl, row, rfl⟩
  show _ ∈ settled.wallet.attempts
  rw [attempts]
  simp

/-- The answer to a request whose payment has settled. -/
def settledBody : DirectPaymentResponse :=
  fromDetails "ldk"
    (inFlight ⟨.pay, "a", (invoiceBinding "a").key⟩ invoiceDispatch)
    (invoiceDetails .settled)

/-- The write of that answer against the row. -/
def settledWrite : OutcomeWrite Request :=
  .fenced (invoiceRow "a") .opened (some (.direct (.settled settledBody))) none

theorem reaches_settled : ∃ next, Reaches ((routes plainNode (invoiceWallet plainNode true)).code
      (0, .pay .owner (invoiceRequest "a"))) (freshHistory "a")
      (.call (.handOver invoiceCall (some (invoiceBinding "a")) false) next) ∧
      Reaches (next (.ok ())) [⟨.awaitCall invoiceCall (some (invoiceBinding "a")),
        .ok (invoiceDetails .settled)⟩,
        ⟨.budget (.resolvePayment "payee" (invoiceDetails .settled)), ()⟩,
        ⟨.writeOutcome settledWrite, .ok true⟩]
        (.done (.direct (.ok ⟨200, view settledBody false, none⟩))) := by
  simp only [routes, Job.code, payInvoice_eq_run requiredRequestId_a]
  exact ⟨_, .call (.call (.call (.call (.refl _)))), .call (.call (.call (.refl _)))⟩

/-- The request is answered as settled, and the backend has reported so. -/
theorem pay_answers_settled_failed_invoiceRequest :
    ∃ config answered row, LedgerReachable plainNode true config ∧
      PayAnswered config .owner "a" (invoiceRequest "a") (.ok answered) ∧
      answered.body.status = .settled ∧ "inv" ∈ config.shared.wallet.reported ∧
      config.shared.table.row (operationKey .pay .owner "a") = some row ∧
      row.result ≠ some (.direct (.failed "" 0)) := by
  let machine := routes plainNode (invoiceWallet plainNode true)
  let start : World Request (invoiceWallet plainNode true) := World.initial empty
  let inserted := (start.insert 0 (invoiceRow "a")).2
  let settled := withStatus (handedOver inserted "a" 0) 0 (invoiceAttempt "a" 0 .settled)
  let known : World Request (invoiceWallet plainNode true) :=
    { settled with
      calls := settled.calls.map (MadeCall.answered 0 .succeeded)
      wallet := settled.wallet.report "inv" .settled }
  let recorded := (known.write 8 settledWrite).2
  obtain ⟨next, reached, rest⟩ := reaches_settled
  have hands : HandsOver plainNode inserted.wallet 0 invoiceCall
    (some (invoiceBinding "a")) (handedOver inserted "a" 0).wallet :=
    .inr ⟨"inv", 10, "inv", rfl, rfl, fun _ member => (by cases member), rfl⟩
  have settles : Progresses (handedOver inserted "a" 0).wallet settled.wallet :=
    ⟨0, invoiceAttempt "a" 0 .inFlight, .settled, rfl, .inr rfl, rfl⟩
  have answers : InvoiceLedger.Answers plainNode settled.wallet 0 invoiceCall
    (some (invoiceBinding "a")) (.ok (invoiceDetails .settled))
    known.wallet :=
    ⟨invoiceAttempt "a" 0 .settled, List.mem_singleton_self _, rfl, rfl, rfl,
      rfl, rfl, .inl rfl, rfl⟩
  have found : known.table.row (invoiceRow "a").operationId = some (invoiceRow "a") :=
    row_put_self _ _
  have written := write_invoiceRow 8 (some (.direct (.settled settledBody))) none found
  have performedRest : Performed (machine.effect 0) settled
    [⟨.awaitCall invoiceCall (some (invoiceBinding "a")), .ok (invoiceDetails .settled)⟩,
      ⟨.budget (.resolvePayment "payee" (invoiceDetails .settled)), ()⟩,
      ⟨.writeOutcome settledWrite, .ok true⟩]
    recorded := by
    refine .cons ⟨_, answers, rfl⟩ (.cons rfl (.cons ⟨8, ?_, rfl⟩ (.nil _)))
    exact (congrArg Prod.fst written).symm
  have inserts := @Machine.steps_run _ _ _ _ _ _ _ machine (idle start) _ _ _ _
    reached (performed_freshHistory 0 rfl)
  have handed := inserts.tail (@Machine.Step.perform _ _ _ _ _ _ _ machine _ 0 _
    (.handOver invoiceCall (some (invoiceBinding "a")) false) next
    (.ok ()) _ rfl rfl rfl ⟨_, hands, rfl⟩)
  have steps := (handed.tail (.ambient ⟨_, settles, rfl⟩)).trans
    (@Machine.steps_resume _ _ _ _ _ _ _ machine _ 0 _ _ _ _ rfl rfl rest performedRest)
  have row : recorded.table.row (operationKey .pay .owner "a") =
    some ((invoiceRow "a").conclude .opened (some (.direct (.settled settledBody))) none 8) := by
    have stored : recorded.table = _ := congrArg (fun outcome => outcome.2.table) written
    rw [stored]
    exact row_put_self _ _
  have attempts : recorded.wallet.attempts = [invoiceAttempt "a" 0 .settled] :=
    congrArg (fun outcome => outcome.2.wallet.attempts) written
  have run : ∃ config answered, LedgerReachable plainNode true config ∧ config.shared = recorded ∧
    PayAnswered config .owner "a" (invoiceRequest "a") (.ok answered) ∧
    answered.body.status = .settled :=
    ⟨_, ⟨200, view settledBody false, none⟩, steps, rfl,
      ⟨0, 0, _, rfl, rfl, requiredRequestId_a, rfl⟩, by decide⟩
  obtain ⟨config, answered, reachable, shared, returned, isSettled⟩ := run
  obtain ⟨isReported, notFailed⟩ :=
    pay_answers_settled_failed plainNode Function.injective_id true config reachable .owner "a"
  rw [← shared] at row attempts
  refine ⟨config, answered, _, reachable, returned, isSettled,
    isReported _ "inv" answered returned rfl isSettled, row, ?_⟩
  refine (notFailed rfl (invoiceAttempt "a" 0 .settled) ?_ rfl rfl).2 _ _ _ row
  rw [attempts]
  exact List.mem_singleton_self _

end BitSov.Payments
