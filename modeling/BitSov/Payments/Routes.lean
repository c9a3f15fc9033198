import BitSov.Payments.Onchain
import BitSov.Process.Safety

namespace BitSov.Payments

open Core Spend Outbox Process Fallible

/-!
# The money routes as one system

Requests of all four routes and the detached retries of their outcome writes
run interleaved on one operation table.  Every storage call may fail, also
after it took effect, every request may be dropped between two calls, and a
process may crash with all of its requests.  The backend is arbitrary.
-/

variable {Digest : Type}

structure PayInvoiceRequest where
  requestId : Option String
  maxRoutingFeeMsat : Option UInt64
  bolt11 : String
  deriving Repr, DecidableEq

structure KeysendRequest where
  requestId : Option String
  maxRoutingFeeMsat : Option UInt64
  destPubkey : String
  amountMsat : UInt64
  memo : Option String
  deriving Repr, DecidableEq

def badRequest (reason : String) : RouteError :=
  ⟨.badRequest reason, none⟩

/-- The client's idempotency key is required and must be well formed. -/
def requiredRequestId : Option String → Except RouteError String
  | none =>
    .error (badRequest
      ("request_id is required: send a client-generated idempotency " ++
        "key (1–128 printable ASCII bytes, no spaces) and repeat it " ++
        "unchanged on every retry of this payment; nothing was paid"))
  | some id =>
    if id.isEmpty ∨ 128 < id.utf8ByteSize ∨ !id.all fun c => '!' ≤ c && c ≤ '~' then
      .error (badRequest "request_id must be 1–128 printable ASCII bytes without spaces")
    else .ok id

/-- Whether the caller spends from a budget grant. -/
def Caller.isMetered : Caller → Bool
  | .owner => false
  | .client _ => true

variable (node : Node Digest) (caller : Caller)

/-- The amount and payee of an invoice, for a metered debit. -/
def invoiceTerms (bolt11 : String) : Except RouteError (UInt64 × Invoice) :=
  match node.parseInvoice (node.trim bolt11) with
  | none => .error (badRequest "invalid bolt11 invoice")
  | some invoice =>
    match invoice.amountMsat with
    | some amountMsat => .ok (amountMsat, invoice)
    | none =>
      if caller.isMetered then
        .error ⟨.budgetExceeded
          (.unpriced ("this invoice has no amount; a budget grant only pays " ++
            "amounts known before dispatch — nothing was paid")),
          none⟩
      else
        .error (badRequest
          ("amountless invoices are not supported; " ++ "request an invoice with an amount"))

/-- Everything known about an invoice before it is paid. -/
def preparePay (req : PayInvoiceRequest) : Except RouteError Dispatch := do
  let (principal, invoice) ← invoiceTerms node caller req.bolt11
  return {
    fingerprint :=
      .pay (node.trim req.bolt11).toLower req.maxRoutingFeeMsat invoice.paymentHash
    paymentHash := some invoice.paymentHash
    amountMsat := principal
    maxRoutingFeeMsat := node.ceiling principal req.maxRoutingFeeMsat
    recipient := invoice.payee
  }

/-- Everything known about a keysend before it is pushed. -/
def prepareKeysend (req : KeysendRequest) : Dispatch :=
  let dest := (node.trim req.destPubkey).toLower
  { fingerprint :=
    .keysend dest req.amountMsat req.memo req.maxRoutingFeeMsat
    paymentHash := none
    amountMsat := req.amountMsat
    maxRoutingFeeMsat := node.ceiling req.amountMsat req.maxRoutingFeeMsat
    recipient := dest }

/-- Debit a metered caller with the payment and its fee ceiling. -/
def debit (op : Dispatch) : PayM Digest Bool :=
  if caller.isMetered then
    if op.amountMsat.toNat + op.maxRoutingFeeMsat.toNat < 2 ^ 64 then do
      match ← ask (PayOp.debit caller (op.amountMsat + op.maxRoutingFeeMsat) op.recipient) with
      | .ok metered => return metered
      | .error refusal => known (.error ⟨.budgetExceeded refusal, none⟩)
    else known (.error (badRequest "payment debit overflow"))
  else pure false

/-- The largest accepted invoice text in bytes. -/
def maxBolt11Len : Nat :=
  2048

variable [DecidableEq Digest] (node : Node Digest)

def payInvoice (caller : Caller) (req : PayInvoiceRequest) : PayM Digest Direct.Answered :=
  if req.bolt11.isEmpty then known (.error (badRequest "bolt11 invoice string is required"))
  else if maxBolt11Len < req.bolt11.utf8ByteSize then
    known (.error (badRequest ("bolt11 string too long: " ++ toString req.bolt11.utf8ByteSize ++
      " bytes (max " ++ toString maxBolt11Len ++ ")")))
  else do
    let requestId ← known (requiredRequestId req.requestId)
    Direct.run node .pay caller requestId (preparePay node caller req)
      (debit caller)
      (fun op => .payInvoiceWithFeeLimit req.bolt11 op.maxRoutingFeeMsat)
      (fun _ details => details)

/-- The largest accepted public key text in bytes. -/
def maxLnPubkeyLen : Nat :=
  70

def keysend (caller : Caller) (req : KeysendRequest) : PayM Digest Direct.Answered :=
  if req.destPubkey.isEmpty then known (.error (badRequest "dest_pubkey is required"))
  else if maxLnPubkeyLen < req.destPubkey.utf8ByteSize then
    known (.error (badRequest ("dest_pubkey too long: " ++
      toString req.destPubkey.utf8ByteSize ++ " chars (max " ++
      toString maxLnPubkeyLen ++ ")")))
  else if req.amountMsat < 1000 then
    known (.error (badRequest "amount_msat must be at least 1000 (1 sat)"))
  else if 100000000000 < req.amountMsat then
    known (.error (badRequest "amount_msat exceeds maximum 100000000000"))
  else do
    let requestId ← known (requiredRequestId req.requestId)
    Direct.run node .keysend caller requestId
      (.ok (prepareKeysend node req))
      (debit caller)
      (fun op => .keysendWithFeeLimit req.destPubkey req.amountMsat req.memo op.maxRoutingFeeMsat)
      (fun _ details => details)

/-- What may be started on a node. -/
inductive Job (Digest : Type) where
  | pay (caller : Caller) (req : PayInvoiceRequest)
  | keysend (caller : Caller) (req : KeysendRequest)
  | sendOnchain (req : Onchain.SendOnchainRequest)
  | openChannel (req : ChannelOpen.OpenChannelRequest)
  | retry (write : OutcomeWrite Digest)
  deriving Repr, DecidableEq

inductive RouteAnswer where
  | direct (answer : Except RouteError Direct.Answered)
  | onchain (answer : Except RouteError Onchain.Answered)
  | channel (answer : Except RouteError ChannelOpen.Answered)
  | retried

def Job.code : Job Digest → Program (PayOp Digest) PayOp.Answer RouteAnswer
  | .pay caller req => (payInvoice node caller req).run >>= fun answer => .done (.direct answer)
  | .keysend caller req =>
    (BitSov.Payments.keysend node caller req).run >>= fun answer => .done (.direct answer)
  | .sendOnchain req => (Onchain.send node req).run >>= fun answer => .done (.onchain answer)
  | .openChannel req =>
    (ChannelOpen.runChannelOpen node req).run >>= fun answer => .done (.channel answer)
  | .retry write => (retryOutcome write).run >>= fun _ => .done .retried

/-- How a backend call was answered. -/
inductive Reply where
  | succeeded
  | failed (error : LightningError)
  deriving Repr, DecidableEq

/-- The kind of an answer. -/
def replyOf {α : Type} : Except LightningError α → Reply
  | .ok _ => .succeeded
  | .error error => .failed error

/-- A backend call that has been made, and its answer once there is one. -/
structure MadeCall (Digest : Type) where
  task : Nat
  binding : Option (Binding Digest)
  call : MoneyCall
  reply : Option Reply
  deriving Repr, DecidableEq

namespace MadeCall

def IsFor (made : MadeCall Digest) (key : String) : Prop :=
  ∃ binding, made.binding = some binding ∧ binding.key = key

/-- The backend has answered that nothing was dispatched. -/
def Undispatched (made : MadeCall Digest) : Prop :=
  ∃ error, made.reply = some (.failed error) ∧ notDispatched error = true

def answered (task : Nat) (reply : Reply) (made : MadeCall Digest) : MadeCall Digest :=
  if made.task = task ∧ made.reply = none then { made with reply := some reply } else made

end MadeCall

/-- A backend, as far as the routes can see it. -/
structure Wallet (Digest : Type) where
  State : Type
  handOver : State → Nat → MoneyCall → Option (Binding Digest) → State → Prop
  answers : State → Nat → (call : MoneyCall) → Option (Binding Digest) →
      Except LightningError call.Result → State → Prop
  /-- The status of a payment hash is reported to an operation. -/
  reports : State → String → String → Except LightningError PaymentDetails → State → Prop
  /-- The backend goes on by itself. -/
  moves : State → State → Prop

/-- The shared state of all requests. -/
structure World (Digest : Type) (wallet : Wallet Digest) where
  table : OperationTable Digest
  /-- The request whose insert created the row of an id. -/
  owner : String → Option Nat
  calls : List (MadeCall Digest)
  spawned : List (OutcomeWrite Digest)
  wallet : wallet.State

namespace World

variable {wallet : Wallet Digest}

/-- A statement of the table; after an error it may have taken effect. -/
def Executes (before after : World Digest wallet) (statement : Bool × World Digest wallet)
    (answer : Except String Bool) : Prop :=
  match answer with
  | .ok done => done = statement.1 ∧ after = statement.2
  | .error _ => after = before ∨ after = statement.2

def insert (world : World Digest wallet) (task : Nat) (op : ChannelOpenOperation Digest) :
    Bool × World Digest wallet :=
  let (inserted, table) := world.table.insertChannelOpenOperation op
  (inserted,
    { world with
      table
      owner := fun key =>
        if inserted ∧ key = op.operationId then some task else world.owner key })

def delete (world : World Digest wallet) (id : String) : Bool × World Digest wallet :=
  let (deleted, table) := world.table.deletePendingChannelOpenOperation id
  (deleted,
    { world with
      table
      owner := fun key =>
        if deleted ∧ key = id then none else world.owner key })

def write [DecidableEq Digest] (world : World Digest wallet) (now : Int) :
    OutcomeWrite Digest → Bool × World Digest wallet
  | .fenced expected state result lastError =>
    let (written, table) := world.table.recordChannelOpenOutcome expected state result lastError now
    (written, { world with table })
  | .pendingOnly id state result lastError =>
    let (written, table) := world.table.resolveChannelOpenOperation id state result lastError now
    (written, { world with table })

/-- The answer of a backend call arrives at its task. -/
def Answered (before : World Digest wallet) (task : Nat) (call : MoneyCall)
    (binding : Option (Binding Digest)) (answer : Except LightningError call.Result)
    (after : World Digest wallet) : Prop :=
  ∃ state, wallet.answers before.wallet task call binding answer state ∧ after = { before with
    calls := before.calls.map (MadeCall.answered task (replyOf answer)), wallet := state }

/-- One call of a task as an atomic step. -/
def effect [DecidableEq Digest] (task : Nat) (before : World Digest wallet) :
    (operation : PayOp Digest) → operation.Answer → World Digest wallet → Prop
  | .now, _, after => after = before
  | .moneyReady, _, after => after = before
  | .getOperation id, answer, after =>
    after = before ∧ ∀ row, answer = .ok row → row = before.table.row id
  | .insertOperation op, answer, after => Executes before after (before.insert task op) answer
  | .writeOutcome write, answer, after =>
    ∃ now, Executes before after (before.write now write) answer
  | .deletePending id, answer, after => Executes before after (before.delete id) answer
  | .spawn write, _, after => after = { before with spawned := write :: before.spawned }
  | .takeSpawned write, _, after =>
    write ∈ before.spawned ∧ after = { before with spawned := before.spawned.erase write }
  | .tryLock _, _, after => after = before
  | .listChannels, _, after => after = before
  | .fundingFeeQuote _, _, after => after = before
  | .debit _ _ _, _, after => after = before
  | .budget _, _, after => after = before
  | .handOver call binding metered, answer, after =>
    match answer with
    | .error _ => metered = true ∧ after = before
    | .ok () =>
      ∃ state, wallet.handOver before.wallet task call binding state ∧ after = { before with
        calls := before.calls ++ [⟨task, binding, call, none⟩], wallet := state }
  | .awaitCall call binding, answer, after => Answered before task call binding answer after
  | .awaitGuarded call binding, answer, after =>
    match answer with
    | some answer => Answered before task call binding answer after
    | none => after = before
  | .getPaymentStatus key hash, answer, after =>
    match answer with
    | some answer =>
      ∃ state, wallet.reports before.wallet key hash answer state ∧
        after = { before with wallet := state }
    | none => after = before
  | .settleWindow, _, after => after = before

end World

/-- All routes on one table, with any number of processes. -/
def routes (wallet : Wallet Digest) :
    Machine (Nat × Job Digest) Nat (World Digest wallet) (PayOp Digest)
      PayOp.Answer RouteAnswer where
  code := fun (_, job) => job.code node
  host := fun (process, _) => process
  effect := World.effect
  cancel _ before after := after = before
  -- The retries of a crashed process are lost with it.
  crash _ before after := ∃ spawned,
    (∀ write ∈ spawned, write ∈ before.spawned) ∧ after = { before with spawned }
  ambient before after := ∃ state,
    wallet.moves before.wallet state ∧ after = { before with wallet := state }

/-- A node whose request digests are the requests themselves. -/
def plainNode : Node Request where
  lightningBackend := "ldk"
  digest := id
  trim := id
  parseInvoice := fun bolt11 => some ⟨some 1000, "payee", bolt11⟩
  ceiling := fun _ limit => limit.getD 10
  validFeeRate := fun _ => true
  uuidV4 := some

end BitSov.Payments
