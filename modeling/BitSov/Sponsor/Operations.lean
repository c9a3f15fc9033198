import BitSov.Process.Machine
import BitSov.Payments.Calls
import BitSov.Sponsor.Ledger

namespace BitSov.Sponsor

open Core Outbox Arithmetic Process Fallible Payments

/-!
# The sponsor operations

Every change of the ledger is one critical section: the file is loaded, the
clock is observed and written down, and the edited ledger is saved.  Each of
these may fail, a save also after it took effect.  Approving a kit claims it in
one section, looks its invoice up, pays it and records the outcome; between
these the caller may be dropped and the process may crash.
-/

inductive Currency where
  | bitcoin
  | bitcoinTestnet
  | signet
  | regtest
  | simnet
  deriving Repr, DecidableEq

structure Invoice where
  currency : Currency
  payee : String
  amountMsat : Option UInt64
  paymentHash : String
  expiresAt : UInt64
  deriving Repr, DecidableEq

/-- A newcomer's signed request. -/
structure FundingRequest where
  (sponsor introId newcomer newcomerLn paymentHash : String)
  amountMsat : UInt64
  bolt11 : String
  expiresAt : UInt64
  comparisonCode : String
  deriving Repr, DecidableEq

/-- The owner's approval of one candidate. -/
structure ApproveRequest where
  (introId newcomer paymentHash : String)
  (giftMsat feeMaxMsat : UInt64)
  code : String
  deriving Repr, DecidableEq

/-- A fresh introduction card. -/
structure Card where
  introId : String
  expiresAt : UInt64
  deriving Repr, DecidableEq

/-- The parts of the node that sponsoring depends on. -/
structure Node where
  nodeId : String
  network : Option String
  trim : String → String
  parseRequest : String → Except String FundingRequest
  /-- A request's own check of its time, network and signature. -/
  verifyRequest : FundingRequest → UInt64 → String → Except String Unit
  parseInvoice : String → Except String Invoice
  /-- The signature of an offer of a gift until a time. -/
  signOffer : Card → UInt64 → UInt64 → Except String String

/-- A malformed or mismatching request. -/
def invalid (reason : String) : SponsorError :=
  .badRequest ("sponsor_invalid: " ++ reason)

variable (node : Node)

def Node.requireNetwork : Except SponsorError String :=
  match node.network with
  | some network => .ok network
  | none =>
    .error (.conflict
      "sponsor_unavailable: this node's Lightning backend does not state a Bitcoin network")

def invoiceCurrency (network : String) : Except SponsorError Currency :=
  if network = "bitcoin" then .ok .bitcoin
  else if network = "testnet" then .ok .bitcoinTestnet
  else if network = "signet" then .ok .signet
  else if network = "regtest" then .ok .regtest
  else .error (invalid "unsupported sponsor network")

/-- The amount and the payee of an invoice. -/
def Node.invoiceTerms (bolt11 : String) : Except SponsorError (UInt64 × String) := do
  let invoice ← (node.parseInvoice (node.trim bolt11)).mapError fun reason =>
    .badRequest ("invalid bolt11 invoice: " ++ reason)
  match invoice.amountMsat with
  | some amountMsat => .ok (amountMsat, invoice.payee)
  | none =>
    .error (.budgetExceeded
      (.unpriced ("this invoice has no amount; a budget grant only pays amounts " ++
        "known before dispatch — nothing was paid")))

/-- The edits of the ledger that run under its lock. -/
inductive Edit where
  | read
  | checkNewKit
  | pushKit (introId : String) (expiresAt : UInt64)
  | freeze (request : FundingRequest) (network : String) (candidate : Candidate)
  | markFresh (introId : String)
  | record (introId : String) (result : Except LightningError PaymentDetails) (fromDispatch : Bool)
  | cancel (introId : String)
  | inspect (introId : String)

/-- Fail unless a condition holds. -/
def require (condition : Bool) (error : SponsorError) : Except SponsorError Unit :=
  if condition then .ok () else .error error

theorem require_eq_ok_iff : require condition error = .ok value ↔ condition := by
  unfold require
  cases condition <;> simp

variable (policy : SponsorPolicy)

def offeredKit (introId : String) (expiresAt now : UInt64) : Kit where
  introId
  giftMsat := policy.giftMsat
  feeMsat := policy.feeMsat
  createdAt := now
  expiresAt
  state := .offered
  candidate := none
  approvedAt := none
  settledAt := none
  freshPaymentHash := false
  reservedMsat := 0
  paidMsat := 0
  feePaidMsat := 0

variable (kit : Kit)

/-- Whether a candidate may be frozen in a kit. -/
def Kit.checkFreeze (candidate : Candidate) : Except SponsorError Unit :=
  match kit.state with
  | .offered => .ok ()
  | .candidate =>
    require (kit.candidate = some candidate)
      (.conflict
        "sponsor_candidate_exists: this kit already has a candidate; cancel and reissue if it is wrong")
  | .paying | .funded | .failed | .unknown | .cancelled | .expired =>
    .error (.conflict "sponsor_kit_closed: this introduction's gift is already used")

/-- The kit an edit returns and the ledger it leaves. -/
def Edit.apply (ledger : Ledger) (now : UInt64) :
    Edit → Except SponsorError (Option Kit × Ledger)
  | .read => .ok (none, ledger)
  | .checkNewKit => do
    ledger.checkNewKit policy now
    return (none, ledger)
  | .pushKit introId expiresAt => do
    ledger.checkNewKit policy now
    require (now < expiresAt) (.conflict "sponsor_kit_expired: introduction has expired")
    let kit := offeredKit policy introId expiresAt now
    return (none, { ledger with kits := ledger.kits ++ [kit] })
  | .freeze request network candidate => do
    (node.verifyRequest request now network).mapError invalid
    require (now < candidate.expiresAt) (invalid "the invoice has expired")
    let kit ← ledger.kit request.introId
    require (now < kit.expiresAt) (.conflict "sponsor_kit_expired: make a new offer")
    require (request.amountMsat = kit.giftMsat) (invalid "the request is not for the offered gift")
    kit.checkFreeze candidate
    let frozen := { kit with state := .candidate, candidate := some candidate }
    return (some frozen, ledger.setKit request.introId frozen)
  | .markFresh introId => do
    let kit ← ledger.kit introId
    let fresh := { kit with freshPaymentHash := true }
    return (some fresh, ledger.setKit introId fresh)
  | .record introId result fromDispatch => do
    let kit ← ledger.kit introId
    let recorded := kit.recordOutcome result now fromDispatch
    return (some recorded, ledger.setKit introId recorded)
  | .cancel introId => do
    let kit ← ledger.kit introId
    require (kit.state = .offered ∨ kit.state = .candidate)
      (.conflict "sponsor_kit_dispatched: only an undispatched kit can be cancelled")
    let cancelled := { kit with state := .cancelled }
    return (some cancelled, ledger.setKit introId cancelled)
  | .inspect introId => do
    let kit ← ledger.kit introId
    require (kit.state = .unknown ∨ kit.state = .paying ∨ kit.state = .funded ∨
      kit.state = .failed)
      (.conflict "sponsor_kit_not_dispatched: nothing to reconcile")
    return (some kit, ledger)

/-- What a successful claim hands to the payment. -/
structure Claim where
  candidate : Candidate
  (feeMsat deadline : UInt64)
  deriving Repr, DecidableEq

def isSixDigits (code : String) : Bool :=
  let bytes := code.toUTF8.data.toList
  bytes.length = 6 && bytes.all fun byte => 48 ≤ byte && byte ≤ 57

def Kit.requireCandidate : Except SponsorError Candidate :=
  match kit.candidate with
  | some candidate => .ok candidate
  | none => .error (.internal "candidate")

def Kit.claimed (now : UInt64) : Kit :=
  { kit with
    state := .paying, approvedAt := some now,
    reservedMsat := saturatingAdd kit.giftMsat kit.feeMsat }

def checkApproval (ledger : Ledger) (now : UInt64) (body : ApproveRequest) :
    Except SponsorError (Kit × Claim) := do
  require policy.enabled (.conflict "sponsor_disabled: the owner has turned sponsoring off")
  let kit ← ledger.kit body.introId
  require (kit.state = .candidate)
    (.conflict "sponsor_kit_not_ready: no candidate waiting on this kit")
  require (kit.giftMsat ≤ policy.giftMsat ∧ kit.feeMsat ≤ policy.feeMsat)
    (.conflict
      "sponsor_policy_changed: this candidate exceeds the current owner policy; make a new offer")
  require (ledger.active now ≤ maxActiveKits) (.conflict "sponsor_kit_open: another kit is active")
  ledger.checkRoom policy (saturatingAdd kit.giftMsat kit.feeMsat) now
  let candidate ← kit.requireCandidate
  require (body.newcomer = candidate.newcomer ∧
    body.paymentHash = candidate.paymentHash ∧
    body.giftMsat = kit.giftMsat ∧ body.feeMaxMsat = kit.feeMsat)
    (invalid "approval differs from the frozen funding intent")
  let invoice ← (node.parseInvoice candidate.bolt11).mapError invalid
  let network ← node.requireNetwork
  let currency ← invoiceCurrency network
  require (invoice.currency = currency) (invalid "invoice network differs from this sponsor")
  let deadline := min (min kit.expiresAt candidate.expiresAt) invoice.expiresAt
  require (now < deadline)
    (.conflict "sponsor_kit_expired: the request or invoice dispatch window has passed")
  require (isSixDigits body.code ∧ body.code = candidate.code)
    (.badRequest "sponsor_code_mismatch: the code does not match this candidate; nothing was paid")
  let _ ← node.invoiceTerms candidate.bolt11
  return (kit, ⟨candidate, kit.feeMsat, deadline⟩)

/-- What a critical section returns. -/
structure Seen where
  now : UInt64
  kit : Option Kit
  active : Bool

/-- Calls of the sponsor operations. -/
inductive SponsorOp where
  | policy
  | moneyReady
  /-- One edit of the ledger under its lock. -/
  | transact (edit : Edit)
  /-- A read of the ledger under its lock, which still observes the time. -/
  | observe
  /-- The critical section of an approval. -/
  | claim (body : ApproveRequest)
  | issueCard
  | getPaymentStatus (hash : String)
  | payInvoiceWithFeeLimit (introId bolt11 : String) (feeMsat : UInt64)
  /-- The answer of the payment that was handed to the backend. -/
  | awaitPayment (introId : String)
  /-- The marker of a dispatch in this process is dropped. -/
  | dropMarker

@[reducible] def SponsorOp.Answer : SponsorOp → Type
  | .policy => SponsorPolicy
  | .moneyReady => Bool
  | .transact _ => Except SponsorError Seen
  | .observe => Except SponsorError (UInt64 × Ledger)
  | .claim _ => Except SponsorError Claim
  | .issueCard => Except SponsorError Card
  | .getPaymentStatus _ => Except LightningError PaymentDetails
  | .payInvoiceWithFeeLimit _ _ _ => Unit
  | .awaitPayment _ => Except LightningError PaymentDetails
  | .dropMarker => Unit

abbrev SponsorM (α : Type) :=
  Fallible SponsorError SponsorOp SponsorOp.Answer α

/-- One critical section, whose refusal ends the operation. -/
def withLedger (edit : Edit) : SponsorM Seen := do
  known (← ask (SponsorOp.transact edit))

/-- The policy, the rolling purse and the latest kits. -/
structure StatusResponse where
  enabled : Bool
  (giftMsat feeMsat purseMsat purseUsedMsat : UInt64)
  (kitsPerDay kitsToday : UInt32)
  kits : List Kit
  deriving Repr, DecidableEq

/-- What the operations return. -/
inductive Response where
  | offer (introId : String) (giftMsat feeMsat expiresAt : UInt64)
  | candidate (introId newcomer paymentHash : String)
      (giftMsat feeMaxMsat : UInt64) (code : String) (expiresAt : UInt64)
  | approve (introId : String) (state : KitState) (paidMsat feePaidMsat : UInt64)
      (paymentHash : String)
  | kit (kit : Kit)
  | status (status : StatusResponse)

/-- The kit a critical section returned. -/
def Seen.requireKit (seen : Seen) : Except SponsorError Kit :=
  match seen.kit with
  | some kit => .ok kit
  | none => .error (.internal "kit")

/-- Offer a gift on a fresh introduction card. -/
def createOffer : SponsorM Response := do
  let policy ← ask SponsorOp.policy
  -- Checked first, so that a refused offer signs nothing.
  let checked ← withLedger .checkNewKit
  let card ← known (← ask SponsorOp.issueCard)
  let expiresAt := min card.expiresAt (checked.now + offerLifetimeSecs)
  let _ ←
    known
      ((node.signOffer card policy.giftMsat expiresAt).mapError fun reason =>
        .internal ("offer: " ++ reason))
  let _ ← withLedger (.pushKit card.introId expiresAt)
  return .offer card.introId policy.giftMsat policy.feeMsat expiresAt

/-- The candidate of a request whose invoice is exactly what it says. -/
def checkCandidate (now : UInt64) (text : String) :
    Except SponsorError (FundingRequest × String × Candidate) := do
  let request ← (node.parseRequest text).mapError invalid
  let network ← node.requireNetwork
  (node.verifyRequest request now network).mapError invalid
  require (request.sponsor = node.nodeId) (invalid "this request is for another sponsor")
  let invoice ←
    (node.parseInvoice request.bolt11).mapError fun reason =>
      invalid ("invoice: " ++ reason)
  let currency ← invoiceCurrency network
  require (invoice.currency = currency) (invalid "invoice network differs from this sponsor")
  require (invoice.payee = request.newcomerLn)
    (invalid "the invoice is not payable to the key the request names")
  require (invoice.amountMsat = some request.amountMsat)
    (invalid "the invoice amount differs from the request")
  require (invoice.paymentHash = request.paymentHash)
    (invalid "the invoice hash differs from the request")
  require (now < invoice.expiresAt) (invalid "the invoice has expired")
  return (request, network,
    { request with
      code := request.comparisonCode
      expiresAt := min request.expiresAt invoice.expiresAt })

/-- Freeze a newcomer's request as the only candidate of its kit. -/
def addCandidate (text : String) : SponsorM Response := do
  let seen ← withLedger .read
  let (request, network, candidate) ←
    known (checkCandidate node seen.now text)
  let frozen ← withLedger (.freeze request network candidate)
  let kit ← known frozen.requireKit
  return .candidate request.introId candidate.newcomer candidate.paymentHash
    kit.giftMsat kit.feeMsat candidate.code
    (min kit.expiresAt candidate.expiresAt)

variable (introId : String)

/-- Only an invoice without a payment record may be dispatched. -/
def establishFresh (hash : String) : SponsorM (Except LightningError Unit) := do
  match ← ask (SponsorOp.getPaymentStatus hash) with
  | .error (.paymentNotFound _) => do
    let _ ← withLedger (.markFresh introId)
    return .ok ()
  | .ok _ =>
    return .error (.paymentNotDispatched
      "sponsor invoice already has a payment record; request a fresh invoice")
  | .error error =>
    return .error (.paymentNotDispatched
      ("cannot establish a fresh sponsor invoice: " ++ lightningText error))

variable (claim : Claim)

/-- Call the backend once, before the deadline. -/
def dispatchGift : SponsorM (Except LightningError PaymentDetails) := do
  match ← ask (SponsorOp.transact .read) with
  | .error error => return .error (.paymentNotDispatched error.toText)
  | .ok seen =>
    if claim.deadline ≤ seen.now then
      return .error (.paymentNotDispatched "sponsor request expired before dispatch")
    else do
      ask (SponsorOp.payInvoiceWithFeeLimit introId claim.candidate.bolt11 claim.feeMsat)
      ask (SponsorOp.awaitPayment introId)

/-- A backend error as the API reports it. -/
def errorOf : LightningError → SponsorError
  | .notReady => .notReady
  | .paymentNotDispatched reason => .notDispatched reason
  | error => .lightning (lightningText error)

/-- The answer of an approval whose outcome was recorded. -/
def approveResponse (outcome : Kit) (hash : String) (paid : Except LightningError PaymentDetails) :
    Except SponsorError Response :=
  match outcome.state, paid with
  | .failed, .error error => .error (errorOf error)
  | .failed, .ok _ => .error (.lightning "the gift was definitively not paid")
  | .unknown, .error error =>
    .error (.paymentUnresolved
      ("sponsor payment outcome unknown: " ++ lightningText error))
  | _, _ => .ok (.approve outcome.introId outcome.state outcome.paidMsat outcome.feePaidMsat hash)

/-- What is left of a dispatch after the freshness of its invoice is known. -/
def payIfFresh : Except LightningError Unit → SponsorM (Except LightningError PaymentDetails)
  | .error error => return .error error
  | .ok () => dispatchGift introId claim

/-- Pay a claimed gift and record its outcome. -/
def payGift : SponsorM Response := do
  let preflight ← establishFresh introId claim.candidate.paymentHash
  let paid ← payIfFresh introId claim preflight
  let recorded ← withLedger (.record introId paid true)
  let outcome ← known recorded.requireKit
  known (approveResponse outcome claim.candidate.paymentHash paid)

/-- Pay a claimed gift; the marker is dropped however that ends. -/
def payClaimed : SponsorM Response := do
  let outcome ← attempt (payGift introId claim)
  ask SponsorOp.dropMarker
  known outcome

/--
The owner approves exactly one candidate and its gift is paid.  A metered
caller spends a delegated budget and cannot give this approval.
-/
def approveOwner (metered : Bool) (body : ApproveRequest) : SponsorM Response := do
  let ready ← ask SponsorOp.moneyReady
  known (require ready .notReady)
  known (require (!metered) (.conflict "sponsor_owner_approval_required"))
  let claim ← known (← ask (SponsorOp.claim body))
  payClaimed body.introId claim

/-- Withdraw an offer or a candidate before its dispatch. -/
def cancel : SponsorM Response := do
  let cancelled ← withLedger (.cancel introId)
  return .kit (← known cancelled.requireKit)

/-- Record what the backend has on the gift of a kit. -/
def reconcileWith (candidate : Candidate) : SponsorM Response := do
  let answer ← ask (SponsorOp.getPaymentStatus candidate.paymentHash)
  -- A lookup error says nothing definitive about dispatch.
  let details :=
    answer.mapError fun error =>
      .other ("lightning backend error: " ++ lightningText error)
  let recorded ← withLedger (.record introId details false)
  return .kit (← known recorded.requireKit)

/-- Settle an unknown outcome from the backend's own record. -/
def reconcile : SponsorM Response := do
  let seen ← withLedger (.inspect introId)
  let snapshot ← known seen.requireKit
  if seen.active ∨ snapshot.state = .failed ∨
    (snapshot.state = .funded ∧ snapshot.reservedMsat = 0) then
    return .kit snapshot
  else reconcileWith introId (← known snapshot.requireCandidate)

def Kit.withoutInvoice : Kit :=
  { kit with candidate := kit.candidate.map fun candidate => { candidate with bolt11 := "" } }

/-- The policy, the rolling purse and the latest kits. -/
def status : SponsorM Response := do
  let policy ← ask SponsorOp.policy
  let (now, ledger) ← known (← ask SponsorOp.observe)
  return .status
    { policy with
      purseUsedMsat := ledger.purseUsed now
      kitsToday := ledger.kitsToday now
      kits := (ledger.kits.reverse.take 20).map Kit.withoutInvoice }

/-- What may be asked of a sponsor. -/
inductive Job where
  | createOffer
  | addCandidate (request : String)
  | approveOwner (metered : Bool) (body : ApproveRequest)
  | cancel (introId : String)
  | reconcile (introId : String)
  | status
  deriving Repr, DecidableEq

def Job.code : Job → SponsorM Response
  | .createOffer => Sponsor.createOffer node
  | .addCandidate request => Sponsor.addCandidate node request
  | .approveOwner metered body => Sponsor.approveOwner metered body
  | .cancel introId => Sponsor.cancel introId
  | .reconcile introId => Sponsor.reconcile introId
  | .status => Sponsor.status

/-- What the backend was asked and what it has answered. -/
inductive BackendEvent where
  | lookup (hash : String) (answer : Except LightningError PaymentDetails)
  | paid (task : Nat) (introId bolt11 : String) (feeMsat : UInt64)
  | answered (introId : String) (answer : Except LightningError PaymentDetails)

/-- The shared state of all operations. -/
structure World where
  config : Configuration
  ledger : Ledger
  /-- The introduction cards, with the task that has issued each. -/
  issued : List (Nat × String)
  /-- The dispatches in progress in this process. -/
  active : List (Nat × String)
  claims : List (Nat × ApproveRequest)
  /-- The calls of the backend and its answers, oldest first. -/
  backend : List BackendEvent

/-- A node that has sponsored nobody. -/
def World.initial (config : Configuration) : World where
  config
  ledger := .empty
  issued := []
  active := []
  claims := []
  backend := []

/-- Dropping the marker of a task drops every marker of the same kit. -/
def World.dropMarkers (world : World) (task : Nat) : World :=
  { world with active := world.active.filter fun marker => (task, marker.2) ∉ world.active }

/--
The file after it was loaded and the time was observed, and the ledger in
memory if that has succeeded; it is only saved if the time has changed it.
-/
def LoadsObserved (before after : Ledger) : Option Ledger → Prop
  | none => after = before ∨ ∃ wallNow, after = before.load.observe wallNow
  | some observed =>
    ∃ wallNow, observed = before.load.observe wallNow ∧
      if observed = before.load then after = before else after = observed

/-- One critical section over the ledger file. -/
def Transacts (before : World) (edit : Edit) (answer : Except SponsorError Seen)
    (after : Ledger) : Prop :=
  ∃ file loaded, LoadsObserved before.ledger file loaded ∧
    match loaded with
    | none => answer.isOk = false ∧ after = file
    | some observed =>
      match edit.apply node before.config.policy observed observed.lastObservedTime with
      | .error error => answer = .error error ∧ after = file
      | .ok (kit, edited) =>
        match answer with
        | .ok seen =>
          after = edited ∧ seen.now = observed.lastObservedTime ∧
            seen.kit = kit ∧
            ∀ introId, edit = .inspect introId →
              seen.active = before.active.any fun marker => marker.2 = introId
        | .error _ => after = file ∨ after = edited

/--
The critical section of an approval.  If the claim is not saved, the candidate
is restored; either write may take effect although it fails.
-/
def Claims (before : World) (body : ApproveRequest)
    (answer : Except SponsorError Claim) (after : Ledger) : Prop :=
  ∃ file loaded, LoadsObserved before.ledger file loaded ∧
    match loaded with
    | none => answer.isOk = false ∧ after = file
    | some observed =>
      match checkApproval node before.config.policy observed observed.lastObservedTime body with
      | .error error => answer = .error error ∧ after = file
      | .ok (kit, claim) =>
        let claimed := observed.setKit body.introId (kit.claimed observed.lastObservedTime)
        match answer with
        | .ok granted => granted = claim ∧ after = claimed
        | .error _ => after = file ∨ after = claimed ∨ after = claimed.setKit body.introId kit

variable (reports : PaymentDetails → Prop)

/-- One call as an atomic step; the backend reports what it may report. -/
def SponsorOp.Effect (task : Nat) (before : World) :
    (op : SponsorOp) → op.Answer → World → Prop
  | .policy, answer, after => answer = before.config.policy ∧ after = before
  | .moneyReady, _, after => after = before
  | .transact edit, answer, after =>
    ∃ ledger, Transacts node before edit answer ledger ∧ after = { before with ledger }
  | .observe, answer, after =>
    ∃ file loaded, LoadsObserved before.ledger file loaded ∧
      after = { before with ledger := file } ∧
      ∀ now ledger, answer = .ok (now, ledger) → loaded = some ledger
  | .claim body, answer, after =>
    ∃ ledger, Claims node before body answer ledger ∧
      match answer with
      | .ok _ =>
        after =
          { before with
            ledger, active := before.active ++ [(task, body.introId)],
            claims := before.claims ++ [(task, body)] }
      | .error _ => after = { before with ledger }
  | .issueCard, answer, after =>
    match answer with
    | .error _ => after = before
    | .ok card =>
      (∀ issued ∈ before.issued, issued.2 ≠ card.introId) ∧
        after = { before with issued := before.issued ++ [(task, card.introId)] }
  | .getPaymentStatus hash, answer, after =>
    (∀ details, answer = .ok details → reports details) ∧
      after = { before with backend := before.backend ++ [.lookup hash answer] }
  | .payInvoiceWithFeeLimit introId bolt11 feeMsat, _, after =>
    after = { before with backend := before.backend ++ [.paid task introId bolt11 feeMsat] }
  | .awaitPayment introId, answer, after =>
    (∀ details, answer = .ok details → reports details) ∧
      after = { before with backend := before.backend ++ [.answered introId answer] }
  | .dropMarker, _, after => after = before.dropMarkers task

/--
The sponsor operations on one ledger.  Dropping a request drops its marker; a
crash stops all requests, drops all markers and restarts the node, possibly
with another policy.
-/
def sponsorMachine (restarts : Configuration → Configuration → Prop) :
    Machine Job Unit World SponsorOp SponsorOp.Answer (Except SponsorError Response) where
  code job := (job.code node).run
  host _ := ()
  effect := SponsorOp.Effect node reports
  cancel task before after := after = before.dropMarkers task
  crash _ before after := ∃ config,
    restarts before.config config ∧ after = { before with config, active := [] }
  ambient _ _ := False

end BitSov.Sponsor
