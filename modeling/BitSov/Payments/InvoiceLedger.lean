import BitSov.Payments.AtMostOnce

namespace BitSov.Payments

open Core Outbox Process Fallible Program

/-!
# A backend that keeps one status for a payment hash

The backend lets an invoice be tried again once every earlier attempt on it
has failed, and reports for a payment hash the status of the latest attempt.
A hash may therefore be shared by several idempotency ids, and what a request
reads about its hash may be the outcome of somebody else's attempt.
-/

structure Attempt where
  key : Option String
  task : Nat
  hash : String
  status : PaymentStatus
  deriving Repr, DecidableEq

/-- What the backend keeps. -/
structure InvoiceLedger where
  attempts : List Attempt
  /-- The hashes it has reported as outgoing and settled. -/
  reported : List String
  deriving Repr, DecidableEq

def Request.invoiceHash : Request → Option String
  | .pay _ _ paymentHash _ => some paymentHash
  | .keysend _ _ _ _ _ => none
  | .sendOnchain _ _ _ => none
  | .openChannel _ _ _ _ _ _ _ _ => none

variable {Digest : Type}

/-- The payment hash of an invoice text. -/
def hashOf (node : Node Digest) (bolt11 : String) : Option String :=
  (node.parseInvoice (node.trim bolt11)).map fun invoice => invoice.paymentHash

namespace InvoiceLedger

def empty : InvoiceLedger :=
  ⟨[], []⟩

def latest (ledger : InvoiceLedger) (hash : String) : Option Attempt :=
  (ledger.attempts.filter fun attempt => attempt.hash = hash).getLast?

def report (ledger : InvoiceLedger) (hash : String) (status : PaymentStatus) : InvoiceLedger :=
  if status = .settled then { ledger with reported := hash :: ledger.reported } else ledger

variable (node : Node Digest) (before : InvoiceLedger) (task : Nat) (call : MoneyCall)
  (binding : Option (Binding Digest))

/-- A call is handed over: it becomes an attempt or is not accepted. -/
def HandsOver (after : InvoiceLedger) : Prop :=
  after = before ∨
    ∃ bolt11 maxFeeMsat hash,
      call = .payInvoiceWithFeeLimit bolt11 maxFeeMsat ∧
        hashOf node bolt11 = some hash ∧
        (∀ attempt ∈ before.attempts, attempt.hash = hash → failedOrExpired attempt.status = true) ∧
        after =
          { before with
            attempts := before.attempts ++ [⟨binding.map Binding.key, task, hash, .inFlight⟩] }

/--
A call is answered: details describe the own attempt of the call, an error
that says so means there was no attempt, and no backend error has the text
of a payment that has failed for good.
-/
def Answers (answer : Except LightningError call.Result) (after : InvoiceLedger) : Prop :=
  match call, answer with
  | _, .error error =>
    after = before ∧
      lightningText error ≠ Direct.failureText .pay ∧
      (notDispatched error = true → ∀ attempt ∈ before.attempts, attempt.task ≠ task)
  | .payInvoiceWithFeeLimit bolt11 _, .ok details =>
    ∃ attempt ∈ before.attempts,
      attempt.task = task ∧
        attempt.key = binding.map Binding.key ∧
        hashOf node bolt11 = some attempt.hash ∧
        details.direction = .outgoing ∧
        details.status = attempt.status ∧
        (details.paymentHash = attempt.hash ∨ details.paymentHash = "") ∧
        after = before.report attempt.hash details.status
  | _, .ok _ => after = before

/--
The status of a hash is reported to an operation. With `guarded` a failure is
reported only to an operation that has an attempt of its own.
-/
def Reports (guarded : Bool) (before : InvoiceLedger) (key hash : String)
    (answer : Except LightningError PaymentDetails) (after : InvoiceLedger) : Prop :=
  match answer with
  | .error _ => after = before
  | .ok details =>
    details.paymentHash = hash ∧
      match details.direction with
      | .incoming => after = before
      | .outgoing =>
        ∃ attempt, before.latest hash = some attempt ∧
          details.status = attempt.status ∧
          (guarded = true →
            failedOrExpired attempt.status = true → ∃ own ∈ before.attempts, own.key = some key) ∧
          after = before.report hash details.status

/-- An attempt that is not final gets a status. -/
def Progresses (before after : InvoiceLedger) : Prop :=
  ∃ (index : Nat) (attempt : Attempt) (status : PaymentStatus),
    before.attempts[index]? = some attempt ∧
      (attempt.status = .pending ∨ attempt.status = .inFlight) ∧
      after = { before with attempts := before.attempts.set index { attempt with status } }

end InvoiceLedger

/-- The backend as the routes see it. -/
def invoiceWallet (node : Node Digest) (guarded : Bool) : Wallet Digest where
  State := InvoiceLedger
  handOver := InvoiceLedger.HandsOver node
  answers := InvoiceLedger.Answers node
  reports := InvoiceLedger.Reports guarded
  moves := InvoiceLedger.Progresses

namespace InvoiceLedger

/-- What a ledger knows is not lost. -/
structure Extends (before after : InvoiceLedger) : Prop where
  reported : ∀ hash ∈ before.reported, hash ∈ after.reported
  attempts : ∀ (index : Nat) (attempt : Attempt),
    before.attempts[index]? = some attempt →
      ∃ status, after.attempts[index]? = some { attempt with status } ∧
        (failedOrExpired attempt.status = true → status = attempt.status)

variable (ledger : InvoiceLedger)

theorem Extends.refl : Extends ledger ledger :=
  ⟨fun _ mem => mem, fun _ attempt found => ⟨attempt.status, found, fun _ => rfl⟩⟩

variable (hash : String)

theorem extends_report (status) : Extends ledger (ledger.report hash status) := by
  unfold report
  split
  · exact ⟨fun _ mem => List.mem_cons_of_mem _ mem,
      fun _ attempt found => ⟨attempt.status, found, fun _ => rfl⟩⟩
  · exact .refl ledger

@[simp] theorem attempts_report (status) :
    (ledger.report hash status).attempts = ledger.attempts := by
  unfold report
  split <;> rfl

theorem mem_reported_report : hash ∈ (ledger.report hash .settled).reported := by
  simp [report]

variable {node : Node Digest} {before after : InvoiceLedger} {call : MoneyCall}
  {binding : Option (Binding Digest)}

theorem HandsOver.extends (handed : HandsOver node before task call binding after) :
    Extends before after := by
  rcases handed with rfl | ⟨_, _, _, _, _, _, rfl⟩
  · exact .refl _
  refine ⟨fun _ mem => mem, fun _ attempt found => ⟨attempt.status, ?_, fun _ => rfl⟩⟩
  have bound := (List.getElem?_eq_some_iff.mp found).1
  rw [List.getElem?_append_left bound]
  exact found

theorem Answers.extends (answered : Answers node before task call binding answer after) :
    Extends before after := by
  unfold Answers at answered
  split at answered
  · obtain ⟨rfl, _⟩ := answered
    exact .refl _
  · obtain ⟨_, _, _, _, _, _, _, _, rfl⟩ := answered
    exact extends_report _ _ _
  · obtain rfl := answered
    exact .refl _

theorem Reports.extends {guarded : Bool} {key hash : String}
    {answer : Except LightningError PaymentDetails}
    (reports : Reports guarded before key hash answer after) : Extends before after := by
  unfold Reports at reports
  split at reports
  · obtain rfl := reports
    exact .refl _
  obtain ⟨_, reports⟩ := reports
  split at reports
  · obtain rfl := reports
    exact .refl _
  · obtain ⟨_, _, _, _, rfl⟩ := reports
    exact extends_report _ _ _

theorem Progresses.extends (progresses : Progresses before after) : Extends before after := by
  obtain ⟨index, _, status, found, unfinished, rfl⟩ := progresses
  refine ⟨fun _ mem => mem, fun other given foundOther => ?_⟩
  rw [List.getElem?_set]
  obtain rfl | ne := eq_or_ne index other
  · rw [found] at foundOther
    cases foundOther
    refine ⟨status, ?_, fun failed => ?_⟩
    · simp [(List.getElem?_eq_some_iff.mp found).1]
    · rcases unfinished with is | is <;> rw [is] at failed <;> cases failed
  · exact ⟨given.status, by simpa [ne] using foundOther, fun _ => rfl⟩

end InvoiceLedger

end BitSov.Payments
