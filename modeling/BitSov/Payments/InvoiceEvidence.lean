import BitSov.Payments.InvoiceReceipts
import BitSov.Process.Growth

namespace BitSov.Payments

open Core Outbox Process Fallible Program View.Growth
open InvoiceLedger

/-!
# Evidence along a run

What the backend has reported and which attempts have failed is never lost,
so the routes run over a ledger that only grows. Every call of a request that
rests on evidence keeps the attempts, rows and retries consistent.
-/

variable {Digest : Type}

theorem InvoiceLedger.Extends.trans (before : Extends first second) (after : Extends second third) :
    Extends first third where
  reported hash member := after.reported hash (before.reported hash member)
  attempts index attempt found := by
    obtain ⟨_, foundSecond, final⟩ := before.attempts index attempt found
    obtain ⟨last, foundThird, finalThird⟩ := after.attempts index _ foundSecond
    refine ⟨last, foundThird, fun failed => ?_⟩
    have same := final failed
    have lastSame := finalThird (by rw [same]; exact failed)
    exact lastSame.trans same

def OpOk (node : Node Digest) (guarded : Bool) (ledger : InvoiceLedger) : PayOp Digest → Prop
  | .insertOperation op => InsertOk node op
  | .writeOutcome write => WriteOk node guarded ledger write
  | .spawn write => WriteOk node guarded ledger write
  | .handOver handed binding _ => CallOk node handed binding
  | _ => True

variable {node : Node Digest} {guarded : Bool} {before after : InvoiceLedger}

theorem OpOk.extends (ok : OpOk node guarded before operation)
    (extends_ : Extends before after) : OpOk node guarded after operation := by
  cases operation with
  | writeOutcome | spawn => exact WriteOk.extends ok extends_
  | _ => exact ok

section

variable {node : Node Digest} {guarded : Bool}
  {before after : World Digest (invoiceWallet node guarded)}

theorem Consistent.respawn {spawned : List (OutcomeWrite Digest)}
    (consistent : Consistent node guarded before)
    (ok : ∀ write ∈ spawned, WriteOk node guarded before.wallet write) :
    Consistent node guarded { before with spawned } :=
  ⟨consistent.attempted, consistent.bound, consistent.single,
    consistent.ordered, consistent.rows, ok⟩

theorem InvoiceLedger.Reports.attempts {first second : InvoiceLedger} {key hash : String}
    {answer : Except LightningError PaymentDetails}
    (reports : Reports guarded first key hash answer second) :
    second.attempts = first.attempts := by
  unfold Reports at reports
  split at reports
  · obtain rfl := reports
    rfl
  obtain ⟨_, reports⟩ := reports
  split at reports
  · obtain rfl := reports
    rfl
  · obtain ⟨_, _, _, _, rfl⟩ := reports
    exact attempts_report _ _ _

section

variable [DecidableEq Digest] (inj : Function.Injective node.digest) {task : Nat}

theorem Consistent.handedOver {call : MoneyCall} {binding : Option (Binding Digest)}
    {ledger : InvoiceLedger} (consistent : Consistent node guarded before)
    (coherent : CallOk node call binding)
    (handed : HandsOver node before.wallet task call binding ledger)
    (move : TaskMove task before { before with
      calls := before.calls ++ [⟨task, binding, call, none⟩], wallet := ledger }) :
    Consistent node guarded
      { before with
        calls := before.calls ++ [⟨task, binding, call, none⟩]
        wallet := ledger } := by
  have moved : (discipline node (invoiceWallet node guarded)).moves (.task task) before
    { before with calls := before.calls ++ [⟨task, binding, call, none⟩], wallet := ledger } := move
  exact consistent.handOver coherent (calls_of_moves moved rfl) handed

include inj in
/-- A call that rests on evidence keeps everything consistent. -/
theorem Consistent.effect {operation : PayOp Digest} {answer : operation.Answer}
    (consistent : Consistent node guarded before) (ok : OpOk node guarded before.wallet operation)
    (sound : Sound before) (move : TaskMove task before after)
    (effect : World.effect task before operation answer after) :
    Consistent node guarded after ∧ Extends before.wallet after.wallet := by
  have unchanged (same : after = before) :
    Consistent node guarded after ∧ Extends before.wallet after.wallet := by
    rw [same]
    exact ⟨consistent, .refl _⟩
  -- A statement may have been executed or not.
  have executed
    {statement : Bool × World Digest (invoiceWallet node guarded)}
    {reply : Except String Bool}
    (executes : World.Executes before after statement reply)
    (sameWallet : statement.2.wallet = before.wallet)
    (kept : after = statement.2 → Consistent node guarded statement.2) :
    Consistent node guarded after ∧ Extends before.wallet after.wallet := by
    have done (same : after = statement.2) : Consistent node guarded after ∧
        Extends before.wallet after.wallet := by
      have keptAfter := kept same
      rw [same, sameWallet]
      exact ⟨keptAfter, .refl _⟩
    cases reply with
    | ok => exact done executes.2
    | error => exact executes.elim unchanged done
  cases operation with
  | insertOperation =>
    exact executed effect rfl fun _ => consistent.insert ok
  | writeOutcome write =>
    obtain ⟨now, executes⟩ := effect
    exact executed executes (by cases write <;> rfl) fun _ =>
        consistent.write inj now ok
  | deletePending =>
    refine executed effect rfl fun same => ?_
    exact consistent.delete sound (same ▸ move)
  | spawn write =>
    obtain rfl := effect
    refine ⟨consistent.respawn fun given mem => ?_, .refl _⟩
    rcases List.mem_cons.mp mem with rfl | old
    · exact ok
    · exact consistent.spawned given old
  | takeSpawned write =>
    obtain ⟨_, rfl⟩ := effect
    exact ⟨consistent.respawn fun given mem =>
        consistent.spawned given (List.mem_of_mem_erase mem),
        .refl _⟩
  | handOver =>
    cases answer with
    | error => exact unchanged effect.2
    | ok done =>
      obtain ⟨_, handed, rfl⟩ := effect
      exact ⟨consistent.handedOver ok handed move, InvoiceLedger.HandsOver.extends handed⟩
  | awaitCall =>
    have answered := consistent.answered effect
    obtain ⟨_, answers, rfl⟩ := effect
    exact ⟨answered, InvoiceLedger.Answers.extends answers⟩
  | awaitGuarded =>
    cases answer with
    | none => exact unchanged effect
    | some reply =>
      have answered := consistent.answered effect
      obtain ⟨_, answers, rfl⟩ := effect
      exact ⟨answered, InvoiceLedger.Answers.extends answers⟩
  | getPaymentStatus =>
    cases answer with
    | none => exact unchanged effect
    | some reply =>
      obtain ⟨_, reports, rfl⟩ := effect
      have extends_ := InvoiceLedger.Reports.extends reports
      exact ⟨consistent.status extends_ (by rw [InvoiceLedger.Reports.attempts reports]), extends_⟩
  | getOperation => exact unchanged effect.1
  | now | moneyReady | tryLock | listChannels | fundingFeeQuote | debit | budget
  | settleWindow => exact unchanged effect

end

end

/-- What the caller of a direct payment of an invoice may be told. -/
structure AnswerOk (guarded : Bool) (ledger : InvoiceLedger) (key hash : String)
    (answer : Except RouteError Direct.Answered) : Prop where
  settled : ∀ answered,
    answer = .ok answered → answered.body.status = .settled → hash ∈ ledger.reported
  failed : ∀ refusal,
    answer = .error refusal →
      refusal.error = .lightning (Direct.failureText .pay) → guarded = true → OwnFailed ledger key

theorem AnswerOk.extends {key hash : String} {answer : Except RouteError Direct.Answered}
    (ok : AnswerOk guarded before key hash answer) (extends_ : Extends before after) :
    AnswerOk guarded after key hash answer where
  settled answered same isSettled := extends_.reported hash (ok.settled answered same isSettled)
  failed refusal same isFailed isGuarded :=
    (ok.failed refusal same isFailed isGuarded).extends extends_

/-- What a job may return. -/
def JobOk (node : Node Digest) (guarded : Bool) (ledger : InvoiceLedger) :
    Job Digest → RouteAnswer → Prop
  | .pay caller req, .direct answer =>
    ∀ requestId hash,
      requiredRequestId req.requestId = .ok requestId →
        (∀ given, hashOf node req.bolt11 = some given → given = hash) →
          AnswerOk guarded ledger (Direct.operationKey .pay caller requestId) hash answer
  | _, _ => True

theorem JobOk.extends {job : Job Digest} (ok : JobOk node guarded before job returned)
    (extends_ : Extends before after) : JobOk node guarded after job returned := by
  cases job with
  | pay =>
    cases returned with
    | direct =>
      intro requestId hash hasId isHash
      exact (ok requestId hash hasId isHash).extends extends_
    | _ => trivial
  | _ => trivial

section

variable [DecidableEq Digest] (node : Node Digest) (guarded : Bool)

/-- The routes, of which it is already known who owns which row. -/
def ownedRoutes :
    Machine (Nat × Job Digest) Nat (World Digest (invoiceWallet node guarded))
      (PayOp Digest) PayOp.Answer RouteAnswer :=
  (discipline node (invoiceWallet node guarded)).enforced

/-- Everybody keeps the evidence, and answers rest on it. -/
def evidence : Discipline (ownedRoutes node guarded) where
  invariant := Consistent node guarded
  moves _ before after := Extends before.wallet after.wallet
  fresh _ _ := True
  result _ job returned world := JobOk node guarded world.wallet job.2 returned

def ledgerGrowth (task : Nat) (job : Nat × Job Digest) :
    ((evidence node guarded).view task job).Growth where
  le before after := Extends before.wallet after.wallet
  refl world := .refl world.wallet
  trans before after := before.trans after
  rely := by
    rintro before after ⟨_, _, _, grown⟩
    exact grown
  guarantee _ _ grown := grown

/-- A part of a task does as it is specified, on the evidence since a moment. -/
abbrev Secures (task : Nat) (job : Nat × Job Digest)
    (since : World Digest (invoiceWallet node guarded)) {α : Type} :=
  (ledgerGrowth node guarded task job).Secure since (α := α)

end

section

variable [DecidableEq Digest] {node : Node Digest} {guarded : Bool} {task : Nat}
  {job : Nat × Job Digest} {since : World Digest (invoiceWallet node guarded)} {α β : Type}

theorem secure_ask {op : PayOp Digest} {cont : op.Answer → PayM Digest β}
    {post : Except RouteError β → World Digest (invoiceWallet node guarded) → Prop}
    (inj : Function.Injective node.digest) (ok : OpOk node guarded since.wallet op)
    (next : ∀ before answer after, Consistent node guarded before →
      Consistent node guarded after → Extends since.wallet before.wallet →
        Extends before.wallet after.wallet → World.effect task before op answer after →
          (ledgerGrowth node guarded task job).Secure after (cont answer).run post) :
    Secures node guarded task job since (ask op >>= cont).run post := by
  refine secure_call fun before answer after consistent above => ?_
  rintro ⟨effect, sound, _, move⟩
  obtain ⟨consistentAfter, grown⟩ :=
    Consistent.effect inj consistent (ok.extends above) sound move effect
  exact ⟨consistentAfter, grown,
    next before answer after consistent consistentAfter above grown effect⟩

/-- Calls that rest on nothing the backend has said. -/
def Groundless (node : Node Digest) (guarded : Bool) (operation : PayOp Digest) : Prop :=
  ∀ ledger, OpOk node guarded ledger operation

theorem secure_of_groundless {program : Program (PayOp Digest) PayOp.Answer α}
    {post : α → World Digest (invoiceWallet node guarded) → Prop}
    (inj : Function.Injective node.digest) (groundless : Performs (Groundless node guarded) program)
    (returned : ∀ result world, post result world) :
    Secures node guarded task job since program post := by
  induction program generalizing since with
  | done result => exact secure_done fun world _ _ => returned result world
  | call _ _ ih =>
    refine secure_call fun before answer _ consistent _ => ?_
    rintro ⟨effect, sound, _, move⟩
    obtain ⟨consistentAfter, grown⟩ :=
      Consistent.effect inj consistent (groundless.1 before.wallet) sound move effect
    exact ⟨consistentAfter, grown, ih answer (groundless.2 answer)⟩

end

end BitSov.Payments
