import BitSov.Core.GateWebReply

namespace BitSov.Core

/-!
# What the signature leaves open

Envelopes with the same signed bytes and the same signature can differ in
their references. Run to completion on the same store and the same providers,
`verify` tells them apart: the receipt of an accepted message and the binding
of a web reply both read the references.
-/

open Encoding Process Program Fallible GateConfig ExceptT GateM
open Except (mapError)

/-- The providers of a gate call besides the store, each in a fixed state. -/
structure Backends where
  nowMs : UInt64
  getPriceMsat : UInt16 → Except PricingError UInt64
  isFundingPayment : String → Except String Bool
  getPaymentStatus : String → Except String PaymentDetails

/-- The methods of a replay store as functions of its state. -/
structure StoreMethods (Store : Type) where
  isPaidEnvelopeAccepted : UkmEnvelope → Store → Except String Bool × Store
  takeOutstandingWebRequest :
    PaymentHash → Store → Except String (Option OutstandingWebRequest) × Store
  recordOutgoingWebRequest :
    PaymentHash → OutstandingWebRequest → Store → Except String Unit × Store
  deliveryPriceFloor : UkmEnvelope → UInt64 → UInt64 → Store → Except String (Option UInt64) × Store
  checkAndStorePaid :
    Nonce → PaymentHash → NodeId → MessageId → Store → Except String PaidReplay × Store

def StoreMethods.handle {Store : Type} (store : StoreMethods Store) (backends : Backends) :
    (operation : GateOp) → Store → operation.Answer × Store
  | .now, state => (backends.nowMs, state)
  | .isPaidEnvelopeAccepted envelope, state => store.isPaidEnvelopeAccepted envelope state
  | .takeOutstandingWebRequest paymentHash, state =>
    store.takeOutstandingWebRequest paymentHash state
  | .recordOutgoingWebRequest paymentHash request, state =>
    store.recordOutgoingWebRequest paymentHash request state
  | .deliveryPriceFloor envelope paidAt now, state =>
    store.deliveryPriceFloor envelope paidAt now state
  | .checkAndStorePaid nonce paymentHash sender messageId, state =>
    store.checkAndStorePaid nonce paymentHash sender messageId state
  | .getPriceMsat kind, state => (backends.getPriceMsat kind, state)
  | .isFundingPayment paymentHash, state => (backends.isFundingPayment paymentHash, state)
  | .getPaymentStatus paymentHash, state => (backends.getPaymentStatus paymentHash, state)

open StoreMethods (handle)

/-- The verdict of `verify` and the store it leaves behind. -/
def verdict {Store : Type} (crypto : Crypto) (config : GateConfig) (args : GateCall)
    (backends : Backends) (store : StoreMethods Store) (state : Store) (envelope : UkmEnvelope) :
    Except GateRejection Unit × Store :=
  (config.verify crypto args envelope).run.runWith (store.handle backends) state

theorem runWith_authenticate {Store : Type} {crypto : Crypto} {config : GateConfig}
    {args : GateCall} (backends : Backends) (store : StoreMethods Store) (state : Store)
    (envelope : UkmEnvelope) : (Authentic crypto config args envelope backends.nowMs ∧
      (config.authenticate crypto args envelope).run.runWith (store.handle backends) state =
        (.ok backends.nowMs, state)) ∨ (¬ Authentic crypto config args envelope backends.nowMs ∧
        ∃ rejection, ((config.authenticate crypto args envelope).run.runWith
          (store.handle backends) state).1 = .error rejection) := by
  by_cases authentic : Authentic crypto config args envelope backends.nowMs
  · refine .inl ⟨authentic, ?_⟩
    exact (reaches_authenticate_ok_iff.mpr ⟨rfl, authentic⟩).runWith_eq (.cons (.nil state))
  refine .inr ⟨authentic, ?_⟩
  obtain ⟨_, reached, answers⟩ := exists_reaches_runWith (store.handle backends)
    (config.authenticate crypto args envelope).run state
  generalize ((config.authenticate crypto args envelope).run.runWith
    (store.handle backends) state) = outcome at reached answers
  obtain ⟨verdict, _⟩ := outcome
  cases verdict with
  | error rejection => exact ⟨rejection, rfl⟩
  | ok nowMs =>
    obtain ⟨rfl, reallyAuthentic⟩ := reaches_authenticate_ok_iff.mp reached
    cases answers
    exact (authentic reallyAuthentic).elim

section

variable {Store : Type} {crypto : Crypto} {config : GateConfig} {args : GateCall}
  {backends : Backends} {store : StoreMethods Store} {state : Store}

/-- What remains of `verify` for an envelope without a known receipt. -/
private def admitNew (config : GateConfig) (args : GateCall) (envelope : UkmEnvelope)
    (nowMs : UInt64) : GateM Unit := do
  let bound ← config.bindWebReply args envelope true nowMs
  if bound then consumeReplayKeys envelope
  else do
    config.checkPaid args envelope true nowMs
    consumeReplayKeys envelope

/-- What remains of `verify` after authentication. -/
private def afterAuthentication (config : GateConfig) (args : GateCall) (envelope : UkmEnvelope)
    (nowMs : UInt64) : GateM Unit := do
  let accepted ← lookupReceipt envelope true
  if accepted then consumeReplayKeys envelope else admitNew config args envelope nowMs

private theorem verify_eq_authenticate_bind (envelope) :
    config.verify crypto args envelope = config.authenticate crypto args envelope >>=
      afterAuthentication config args envelope := by
  simp only [verify, validatePaidEnvelopeInner, bind_assoc]
  congr
  funext nowMs
  congr
  funext accepted
  cases accepted
  · simp only [Bool.false_eq_true, if_false, bind_assoc, admitNew]
    congr
    funext bound
    cases bound <;> simp
  · simp

private theorem verdict_of_authentic {envelope : UkmEnvelope}
    (authentic : Authentic crypto config args envelope backends.nowMs) :
    verdict crypto config args backends store state envelope =
      (afterAuthentication config args envelope
        backends.nowMs).run.runWith (store.handle backends) state := by
  rcases runWith_authenticate backends store state envelope with
    ⟨-, clock⟩ | ⟨notAuthentic, -⟩
  · unfold verdict
    rw [verify_eq_authenticate_bind, run_bind, runWith_bind, clock]
  · exact (notAuthentic authentic).elim

private theorem verdict_eq_of_not_authentic {first second : UkmEnvelope} (sameAuthentication :
      config.authenticate crypto args second = config.authenticate crypto args first)
    (notAuthentic : ¬ Authentic crypto config args first backends.nowMs) :
    verdict crypto config args backends store state first =
      verdict crypto config args backends store state second := by
  rcases @runWith_authenticate Store crypto config args backends store state first with
    ⟨authentic, -⟩ | ⟨-, _, rejected⟩
  · exact (notAuthentic authentic).elim
  unfold verdict
  simp only [verify_eq_authenticate_bind, sameAuthentication, run_bind, runWith_bind, rejected]

end

/-- The parts of the gate an admission of a free envelope can fail in. -/
inductive Stage where
  | price
  | replay
  | binding
  | other
  deriving Repr, DecidableEq

/-- The part of the gate a rejection comes from. -/
def GateRejection.stage : GateRejection → Stage
  | .kindNotPriceable _ | .pricingFailed _ | .insufficientPayment _ _ => .price
  | .nonceCheckFailed _ | .replayDetected | .paymentProofReused _ => .replay
  | .lightningUnavailable _ | .paymentSettlementMismatch _
  | .webReplyUnbound => .binding
  | _ => .other

/-- How the price check rejects an envelope that pays nothing. -/
def freeRejection (config : GateConfig) (args : GateCall) (backends : Backends) (kind : UInt16) :
    GateRejection :=
  match backends.getPriceMsat kind with
  | .error (.notPriceable unpriced) => .kindNotPriceable unpriced
  | .error error => .pricingFailed error.toText
  | .ok baseMsat =>
    .insufficientPayment (config.priceWithFloorMsat (args.discounted baseMsat)) 0

section

variable {Store : Type} {config : GateConfig} {args : GateCall} {backends : Backends}
  {store : StoreMethods Store}

theorem freeRejection_stage (kind : UInt16) :
    (freeRejection config args backends kind).stage = .price := by
  unfold freeRejection
  split <;> rfl

variable {envelope : UkmEnvelope}

private theorem runWith_verifyPrice_free (free : envelope.paymentProof.amountMsat = 0)
    (state : Store) :
    (config.verifyPrice envelope args.discounted).run.runWith (store.handle backends) state =
      (.error (freeRejection config args backends envelope.kind), state) := by
  simp only [verifyPrice, getPriceMsat, run_ask_bind,
    runWith_call, handle, freeRejection, run_known_bind, require]
  cases priced : backends.getPriceMsat envelope.kind with
  | error error => cases error <;> rfl
  | ok baseMsat =>
    have unmet : ¬ config.priceWithFloorMsat (args.discounted baseMsat) ≤ 0 := by
      intro met
      have floor := UInt64.le_trans (config.le_priceWithFloorMsat _) met
      exact absurd floor (by decide)
    simp [mapError, free, unmet]

theorem runWith_checkPaid_free (free : envelope.paymentProof.amountMsat = 0) (nowMs : UInt64)
    (state : Store) :
    (config.checkPaid args envelope true nowMs).run.runWith (store.handle backends) state =
      (.error (freeRejection config args backends envelope.kind), state) := by
  have price := @runWith_verifyPrice_free Store config args backends store envelope free state
  have required : (config.requiredPrice args envelope true nowMs).run.runWith
    (store.handle backends) state =
    (.error (freeRejection config args backends envelope.kind), state) := by
    simp only [requiredPrice, run_bind, runWith_bind, run_attempt, price, runWith_done]
    cases rejection : freeRejection config args backends envelope.kind
    case insufficientPayment requiredMsat paidMsat => simp [require, free, run_known_bind]
    all_goals rfl
  simp only [checkPaid, run_bind, runWith_bind, required]
  rfl

variable {rejection : GateRejection}

theorem consumeReplayKeys_stage {state : Store}
    (rejected : ((consumeReplayKeys envelope).run.runWith
      (store.handle backends) state).1 = .error rejection) : rejection.stage = .replay := by
  simp only [consumeReplayKeys, checkAndStorePaid, ofStore,
    run_ask_bind, runWith_call, handle, run_known_bind]
    at rejected
  generalize store.checkAndStorePaid envelope.nonce
    envelope.paymentProof.paymentHash envelope.sender envelope.id state = checked at rejected
  obtain ⟨_ | _ | _ | _, _⟩ := checked <;> simp [mapError] at rejected <;>
    rw [← rejected] <;>
    rfl

/-- The failure of a reply whose payment is known but not settled by us. -/
def ReportsUnbound (config : GateConfig) (args : GateCall) (backends : Backends)
    (paymentHash : PaymentHash) : Prop :=
  config.verifyLightningSettlement = true ∧
    args.lightning = true ∧
    ∃ details, backends.getPaymentStatus (hexEncode paymentHash.toList) =
      .ok details ∧
      ¬ (details.status = .settled ∧ details.direction = .outgoing)

/-- Lightning is not asked about replies, or it answers. -/
def LightningAnswers (config : GateConfig) (args : GateCall) (backends : Backends)
    (paymentHash : PaymentHash) : Prop :=
  config.verifyLightningSettlement = true →
    args.lightning = true ∧
      ∃ details, backends.getPaymentStatus (hexEncode paymentHash.toList) = .ok details

/--
Confirming an outgoing payment only reads; it succeeds or fails as a binding,
as an unbound reply exactly when the payment is reported otherwise, and for
want of Lightning exactly when that does not answer.
-/
theorem runWith_confirmOutgoingPayment (envelope : UkmEnvelope) (state : Store) :
    ∃ outcome, (config.confirmOutgoingPayment envelope
      args.lightning).run.runWith (store.handle backends) state = (outcome, state) ∧
      (outcome = .ok true ∨ ∃ rejection, outcome = .error rejection ∧ rejection.stage = .binding) ∧
      (outcome = .error .webReplyUnbound ↔
        ReportsUnbound config args backends envelope.paymentProof.paymentHash) ∧
      ((∃ reason, outcome = .error (.lightningUnavailable reason)) ↔
        ¬ LightningAnswers config args backends envelope.paymentProof.paymentHash) := by
  unfold confirmOutgoingPayment ReportsUnbound LightningAnswers
  by_cases checks : config.verifyLightningSettlement
  · by_cases connected : args.lightning
    · simp only [checks, connected, if_true, require, ofLightning,
        getPaymentStatus, run_known_bind, run_ask_bind, runWith_call,
        handle, true_and, forall_const]
      cases reported :
        backends.getPaymentStatus (hexEncode envelope.paymentProof.paymentHash.toList) with
      | error => exact ⟨_, rfl, .inr ⟨_, rfl, rfl⟩, by simp, by simp⟩
      | ok details =>
        have answers : ¬ ¬ ∃ other, Except.ok (ε := String) details = .ok other :=
          not_not.mpr ⟨details, rfl⟩
        by_cases ours : details.status = .settled ∧ details.direction = .outgoing
        · have bound : ¬ ∃ other, Except.ok (ε := String) details = .ok other ∧
            ¬ (other.status = .settled ∧ other.direction = .outgoing) := by
            rintro ⟨other, same, notOurs⟩
            cases same
            exact notOurs ours
          simp only [mapError, if_pos ours, bound, iff_false, answers]
          cases preimage : details.preimage with
          | none => exact ⟨_, rfl, .inr ⟨_, rfl, rfl⟩, by simp, by simp⟩
          | some text =>
            simp only [Option.elim]
            cases decoded : decodeHex32 "preimage" text with
            | error =>
              unfold decodeHex32 at decoded
              split at decoded
              · cases decoded
                exact ⟨_, rfl, .inr ⟨_, rfl, rfl⟩, by simp, by simp⟩
              · split at decoded <;> cases decoded
                exact ⟨_, rfl, .inr ⟨_, rfl, rfl⟩, by simp, by simp⟩
            | ok returned =>
              by_cases same : returned = envelope.paymentProof.preimage
              · exact ⟨.ok true, by simp [same], by simp, by simp, by simp⟩
              · refine ⟨_, by simp only [if_neg same]; rfl, .inr ⟨_, rfl, rfl⟩, by simp, by simp⟩
        · have unbound : ∃ other, Except.ok (ε := String) details = .ok other ∧
            ¬ (other.status = .settled ∧ other.direction = .outgoing) :=
            ⟨details, rfl, ours⟩
          simp only [mapError, if_neg ours, unbound, iff_true, answers, iff_false]
          exact ⟨_, rfl, .inr ⟨_, rfl, rfl⟩, rfl, by simp⟩
    · simp only [checks, connected, if_true, require, run_known_bind]
      exact ⟨_, rfl, .inr ⟨_, rfl, rfl⟩, by simp, by simp⟩
  · exact ⟨.ok true, by simp [checks], by simp, by simp [checks], by simp [checks]⟩

end

/--
The store answers both envelopes alike: it knows the receipt of both or of
neither, quotes the same prices, and a failed take changes nothing.
-/
structure AnswersAlike {Store : Type} (store : StoreMethods Store) (state : Store)
    (first second : UkmEnvelope) : Prop where
  receipts : store.isPaidEnvelopeAccepted second state = store.isPaidEnvelopeAccepted first state
  quotes : store.deliveryPriceFloor second = store.deliveryPriceFloor first
  noRequest : ∀ paymentHash before,
    (store.takeOutstandingWebRequest paymentHash before).1 = .ok none →
      (store.takeOutstandingWebRequest paymentHash before).2 = before

section

variable {Store : Type} {config : GateConfig} {args : GateCall} {backends : Backends}
  {store : StoreMethods Store} {envelope : UkmEnvelope} {references : List MessageId}

private theorem runWith_checkPaid_congr
    (quotes : store.deliveryPriceFloor { envelope with references } =
      store.deliveryPriceFloor envelope) (nowMs state) :
    (config.checkPaid args { envelope with references } true
      nowMs).run.runWith (store.handle backends) state =
      (config.checkPaid args envelope true nowMs).run.runWith (store.handle backends) state := by
  refine runWith_bind_congr (fun before => ?_) (fun _ _ => rfl) state
  refine runWith_bind_congr (fun _ => rfl) (fun _ after => ?_) before
  split
  · rfl
  · refine runWith_bind_congr (fun _ => rfl) (fun _ _ => ?_) after
    refine runWith_bind_congr (fun _ => rfl) (fun _ _ => ?_) _
    refine runWith_bind_congr (fun _ => rfl) (fun _ _ => ?_) _
    refine runWith_bind_congr (fun _ => ?_) (fun _ _ => rfl) _
    simp only [deliveryPriceFloor, run_ask, runWith_call, handle, quotes]
  · rfl

end

variable {Store : Type} (config : GateConfig) (args : GateCall) (backends : Backends)
  (store : StoreMethods Store) (state : Store)

/-- The outcome for a web reply that is not a known receipt. -/
private def replyOutcome (envelope : UkmEnvelope) : Except GateRejection Unit × Store :=
  match store.takeOutstandingWebRequest envelope.paymentProof.paymentHash state with
  | (.error reason, after) => (.error (.nonceCheckFailed reason), after)
  | (.ok none, after) => (.error (freeRejection config args backends envelope.kind), after)
  | (.ok (some outstanding), after) =>
    if replyMatchesOutstanding envelope outstanding backends.nowMs then
      (config.confirmOutgoingPayment envelope args.lightning >>=
        fun _ => consumeReplayKeys envelope).run.runWith (store.handle backends) after
    else (.error .webReplyUnbound, after)

/-- What decides whether references that differ make a difference. -/
def ReferencesInert (first second : UkmEnvelope) : Prop :=
  if isWebServiceReply first = isWebServiceReply second then
    isWebServiceReply first = true →
      ∀ outstanding, (store.takeOutstandingWebRequest first.paymentProof.paymentHash
        state).1 = .ok (some outstanding) →
        replyMatchesOutstanding first outstanding backends.nowMs =
          replyMatchesOutstanding second outstanding backends.nowMs ∨
          ReportsUnbound config args backends first.paymentProof.paymentHash
  else (store.takeOutstandingWebRequest first.paymentProof.paymentHash state).1 = .ok none

section

variable {Store : Type} {crypto : Crypto} {config : GateConfig} {args : GateCall}
  {backends : Backends} {store : StoreMethods Store} {state : Store} {envelope : UkmEnvelope}
  {references : List MessageId}

theorem amountMsat_of_isWebServiceReply (isReply : isWebServiceReply envelope) :
    envelope.paymentProof.amountMsat = 0 := by
  simp only [isWebServiceReply, Bool.and_eq_true, decide_eq_true_eq] at isReply
  exact isReply.2.1

private theorem runWith_admitNew_reply (isReply : isWebServiceReply envelope) :
    (admitNew config args envelope backends.nowMs).run.runWith (store.handle backends) state =
      replyOutcome config args backends store state envelope := by
  have free := amountMsat_of_isWebServiceReply isReply
  unfold admitNew bindWebReply replyOutcome
  rw [if_pos ⟨isReply, rfl⟩]
  simp only [tryAcceptWebServiceReply, takeOutstandingWebRequest, ofStore, bind_assoc, run_ask_bind,
    runWith_call, handle, run_known_bind]
  generalize store.takeOutstandingWebRequest envelope.paymentProof.paymentHash state = taken
  obtain ⟨_ | _ | outstanding, after⟩ := taken
  · rfl
  · have unpaid := @runWith_checkPaid_free Store config args backends store envelope
      free backends.nowMs after
    simp only [mapError, pure_bind, Bool.false_eq_true, if_false, run_bind, runWith_bind, unpaid]
    rfl
  by_cases isMatch : replyMatchesOutstanding envelope outstanding backends.nowMs
  · simp only [mapError, require, if_pos isMatch, bind_assoc, run_known_bind]
    obtain ⟨_, confirmed, succeeds | ⟨_, fails, -⟩, -⟩ :=
      @runWith_confirmOutgoingPayment Store config args backends store envelope after
    · simp only [run_bind, runWith_bind, confirmed, succeeds, if_true]
    · simp only [run_bind, runWith_bind, confirmed, fails]
  · simp only [mapError, require, if_neg isMatch, bind_assoc, run_known_bind]
    rfl

private theorem runWith_admitNew_congr
    (quotes : store.deliveryPriceFloor { envelope with references } =
      store.deliveryPriceFloor envelope) (noReply : isWebServiceReply envelope = false)
    (otherNoReply : isWebServiceReply { envelope with references } = false) :
    (admitNew config args { envelope with references }
      backends.nowMs).run.runWith (store.handle backends) state =
      (admitNew config args envelope backends.nowMs).run.runWith (store.handle backends) state := by
  unfold admitNew bindWebReply
  rw [if_neg (by simp [otherNoReply]), if_neg (by simp [noReply]), pure_bind, pure_bind]
  exact runWith_bind_congr (runWith_checkPaid_congr quotes _) (fun _ _ => rfl) state

private theorem runWith_admitNew_free (noReply : isWebServiceReply envelope = false)
    (free : envelope.paymentProof.amountMsat = 0) :
    (admitNew config args envelope backends.nowMs).run.runWith (store.handle backends) state =
      (.error (freeRejection config args backends envelope.kind), state) := by
  have unpaid := @runWith_checkPaid_free Store config args backends store envelope
    free backends.nowMs state
  unfold admitNew bindWebReply
  rw [if_neg (by simp [noReply]), pure_bind]
  simp only [Bool.false_eq_true, if_false, run_bind, runWith_bind, unpaid]
  rfl

private theorem confirmed_stage {rejection : GateRejection}
    (rejected : ((config.confirmOutgoingPayment envelope args.lightning >>=
      fun _ => consumeReplayKeys envelope).run.runWith
        (store.handle backends) state).1 = .error rejection) : rejection.stage ≠ .price := by
  obtain ⟨_, confirmed, succeeds | ⟨_, fails, isBinding⟩, -⟩ :=
    @runWith_confirmOutgoingPayment Store config args backends store envelope state
  · simp only [run_bind, runWith_bind, confirmed, succeeds] at rejected
    rw [consumeReplayKeys_stage rejected]
    simp
  simp only [run_bind, runWith_bind, confirmed, fails,
    pure_eq_done, runWith_done, Except.error.injEq] at rejected
  rw [← rejected, isBinding]
  simp

private theorem confirmed_eq_unbound_iff :
    (config.confirmOutgoingPayment envelope args.lightning >>=
      fun _ => consumeReplayKeys envelope).run.runWith (store.handle backends) state =
      (.error .webReplyUnbound, state) ↔
      ReportsUnbound config args backends envelope.paymentProof.paymentHash := by
  obtain ⟨_, confirmed, result, unbound, -⟩ :=
    @runWith_confirmOutgoingPayment Store config args backends store envelope state
  rw [← unbound]
  rcases result with succeeds | ⟨_, fails, _⟩
  · simp only [run_bind, runWith_bind, confirmed, succeeds]
    refine iff_of_false (fun rejected => ?_) (by simp)
    have isReplay := consumeReplayKeys_stage (congrArg Prod.fst rejected)
    cases isReplay
  · simp [run_bind, confirmed, fails]

private theorem replyOutcome_eq_free_iff (noRequest : ∀ paymentHash before,
      (store.takeOutstandingWebRequest paymentHash before).1 = .ok none →
        (store.takeOutstandingWebRequest paymentHash before).2 = before) :
    replyOutcome config args backends store state envelope =
      (.error (freeRejection config args backends envelope.kind), state) ↔
      (store.takeOutstandingWebRequest envelope.paymentProof.paymentHash state).1 = .ok none := by
  have isPrice := @freeRejection_stage config args backends envelope.kind
  have unchanged := noRequest envelope.paymentProof.paymentHash state
  unfold replyOutcome
  generalize store.takeOutstandingWebRequest envelope.paymentProof.paymentHash
    state = taken at unchanged ⊢
  obtain ⟨_ | _ | _, _⟩ := taken
  · refine iff_of_false (fun same => ?_) (by simp)
    simp only [Prod.mk.injEq, Except.error.injEq] at same
    rw [← same.1] at isPrice
    cases isPrice
  · simpa using unchanged rfl
  refine iff_of_false (fun same => ?_) (by simp)
  dsimp only at same
  split at same
  · exact confirmed_stage (congrArg Prod.fst same) isPrice
  simp only [Prod.mk.injEq, Except.error.injEq] at same
  rw [← same.1] at isPrice
  cases isPrice

/-- Two replies that find the same request differ only in how they match. -/
private theorem replyOutcome_eq_iff : replyOutcome config args backends store state envelope =
      replyOutcome config args backends store state { envelope with references } ↔
      ∀ outstanding, (store.takeOutstandingWebRequest envelope.paymentProof.paymentHash
        state).1 = .ok (some outstanding) →
        replyMatchesOutstanding envelope outstanding backends.nowMs = replyMatchesOutstanding
          { envelope with references } outstanding backends.nowMs ∨
          ReportsUnbound config args backends envelope.paymentProof.paymentHash := by
  unfold replyOutcome
  generalize store.takeOutstandingWebRequest envelope.paymentProof.paymentHash state = taken
  obtain ⟨_ | _ | outstanding, after⟩ := taken
  · simp
  · simp
  have unboundIff := @confirmed_eq_unbound_iff Store config args backends store after envelope
  have sameConfirmation : (config.confirmOutgoingPayment
    { envelope with references } args.lightning >>=
    fun _ => consumeReplayKeys { envelope with references }) =
    (config.confirmOutgoingPayment envelope args.lightning >>=
      fun _ => consumeReplayKeys envelope) :=
    rfl
  simp only [sameConfirmation, Except.ok.injEq, Option.some.injEq, forall_eq']
  generalize (config.confirmOutgoingPayment envelope args.lightning >>=
    fun _ => consumeReplayKeys envelope).run.runWith
      (store.handle backends) after = confirmed at unboundIff ⊢
  generalize replyMatchesOutstanding envelope outstanding backends.nowMs = bound
  generalize replyMatchesOutstanding { envelope with references }
    outstanding backends.nowMs = otherBound
  cases bound <;> cases otherBound
  · simp
  · simpa [eq_comm] using unboundIff
  · simpa using unboundIff
  · simp

private theorem runWith_admitNew_eq_iff
    (alike : AnswersAlike store state envelope { envelope with references }) (after) :
    (admitNew config args envelope backends.nowMs).run.runWith (store.handle backends) after =
      (admitNew config args { envelope with references }
        backends.nowMs).run.runWith (store.handle backends) after ↔
      ReferencesInert config args backends store after envelope { envelope with references } := by
  have taken := @replyOutcome_eq_free_iff Store config args backends store after
  unfold ReferencesInert
  cases reply : isWebServiceReply envelope <;>
    cases otherReply : isWebServiceReply { envelope with references }
  · rw [runWith_admitNew_congr alike.quotes reply otherReply]
    simp
  · have free := amountMsat_of_isWebServiceReply otherReply
    rw [runWith_admitNew_reply otherReply, runWith_admitNew_free reply free, eq_comm]
    simpa using taken alike.noRequest
  · have free := amountMsat_of_isWebServiceReply reply
    rw [runWith_admitNew_reply reply, runWith_admitNew_free otherReply free]
    simpa using taken alike.noRequest
  · rw [runWith_admitNew_reply reply, runWith_admitNew_reply otherReply, replyOutcome_eq_iff]
    simp

/-- The store has the request of a new reply, and hands it out once. -/
structure HandsOutOnce (store : StoreMethods Store) (state : Store) (envelope : UkmEnvelope)
    (outstanding : OutstandingWebRequest) : Prop where
  unknown : store.isPaidEnvelopeAccepted envelope state = (.ok false, state)
  recorded : (store.takeOutstandingWebRequest envelope.paymentProof.paymentHash state).1 =
    .ok (some outstanding)
  stillUnknown :
    let taken := (store.takeOutstandingWebRequest envelope.paymentProof.paymentHash state).2
    store.isPaidEnvelopeAccepted envelope taken = (.ok false, taken)
  gone :
    let taken := (store.takeOutstandingWebRequest envelope.paymentProof.paymentHash state).2
    (store.takeOutstandingWebRequest envelope.paymentProof.paymentHash taken).1 = .ok none

/-- The verdict on an authentic reply that is not a known receipt. -/
private theorem verdict_eq_replyOutcome (isReply : isWebServiceReply envelope)
    (authentic : Authentic crypto config args envelope backends.nowMs)
    (unknown : store.isPaidEnvelopeAccepted envelope state = (.ok false, state)) :
    verdict crypto config args backends store state envelope =
      replyOutcome config args backends store state envelope := by
  rw [verdict_of_authentic authentic, ← runWith_admitNew_reply isReply]
  simp only [afterAuthentication, lookupReceipt, if_true, isPaidEnvelopeAccepted, ofStore,
    bind_assoc, run_ask_bind, runWith_call, run_known_bind, handle, unknown]
  rfl

/-- Without its request a reply is rejected, whatever the providers answer. -/
private theorem verdict_of_gone (isReply : isWebServiceReply envelope)
    (unknown : store.isPaidEnvelopeAccepted envelope state = (.ok false, state))
    (gone : (store.takeOutstandingWebRequest envelope.paymentProof.paymentHash state).1 =
      .ok none) : (verdict crypto config args backends store state envelope).1 ≠ .ok () := by
  by_cases authentic : Authentic crypto config args envelope backends.nowMs
  · rw [verdict_eq_replyOutcome isReply authentic unknown, replyOutcome]
    generalize store.takeOutstandingWebRequest envelope.paymentProof.paymentHash state = taken
      at gone
    obtain ⟨_, _⟩ := taken
    cases gone
    nofun
  · rcases runWith_authenticate backends store state envelope with ⟨isAuthentic, -⟩ | ⟨-, _, failed⟩
    · exact absurd isAuthentic authentic
    · unfold verdict
      rw [verify_eq_authenticate_bind, run_bind, runWith_bind, failed]
      nofun

/-- A matching reply takes its request, and then Lightning decides. -/
private theorem verdict_unavailable_iff (isReply : isWebServiceReply envelope)
    (authentic : Authentic crypto config args envelope backends.nowMs)
    (once : HandsOutOnce store state envelope outstanding)
    (isMatch : replyMatchesOutstanding envelope outstanding backends.nowMs) (after : Store) :
    (∃ reason, verdict crypto config args backends store state envelope =
      (.error (.lightningUnavailable reason), after)) ↔
      ¬ LightningAnswers config args backends envelope.paymentProof.paymentHash ∧
        after = (store.takeOutstandingWebRequest envelope.paymentProof.paymentHash state).2 := by
  have recorded := once.recorded
  rw [verdict_eq_replyOutcome isReply authentic once.unknown, replyOutcome]
  generalize store.takeOutstandingWebRequest envelope.paymentProof.paymentHash state = taken
    at recorded ⊢
  obtain ⟨_, rest⟩ := taken
  cases recorded
  obtain ⟨_, confirmed, succeeds | ⟨rejection, fails, -⟩, -, unavailable⟩ :=
    @runWith_confirmOutgoingPayment Store config args backends store envelope rest
  · simp only [if_pos isMatch, run_bind, runWith_bind, confirmed, succeeds]
    refine iff_of_false (fun ⟨_, rejected⟩ => ?_) fun ⟨silent, _⟩ => ?_
    · cases consumeReplayKeys_stage (congrArg Prod.fst rejected)
    · obtain ⟨_, failed⟩ := unavailable.mpr silent
      cases succeeds.symm.trans failed
  · simp only [if_pos isMatch, run_bind, runWith_bind, confirmed, fails, ← unavailable,
      pure_eq_done, runWith_done, Prod.mk.injEq, Except.error.injEq, exists_and_right]
    exact and_congr_right fun _ => eq_comm

/--
A matching reply leaves its request in the store, when it is rejected because
Lightning is unavailable, exactly if that never happens: if Lightning is not
asked, or answers.  Otherwise the request is taken, and the same reply is
rejected whenever it comes again.
-/
theorem reply_survives_iff (crypto : Crypto) (config : GateConfig) (args : GateCall)
    (backends : Backends) (store : StoreMethods Store) (state : Store) (envelope : UkmEnvelope)
    (outstanding : OutstandingWebRequest) (isReply : isWebServiceReply envelope)
    (authentic : Authentic crypto config args envelope backends.nowMs)
    (once : HandsOutOnce store state envelope outstanding)
    (isMatch : replyMatchesOutstanding envelope outstanding backends.nowMs) :
    ((∀ reason after, verdict crypto config args backends store state envelope =
        (.error (.lightningUnavailable reason), after) →
      (store.takeOutstandingWebRequest envelope.paymentProof.paymentHash after).1 =
        .ok (some outstanding)) ↔
      LightningAnswers config args backends envelope.paymentProof.paymentHash) ∧
    (¬ LightningAnswers config args backends envelope.paymentProof.paymentHash →
      ∃ reason after, verdict crypto config args backends store state envelope =
        (.error (.lightningUnavailable reason), after) ∧
        ∀ laterConfig laterArgs later,
          (verdict crypto laterConfig laterArgs later store after envelope).1 ≠ .ok ()) := by
  have unavailable := verdict_unavailable_iff isReply authentic once isMatch
  refine ⟨⟨fun survives => ?_, fun answers reason after rejected => ?_⟩, fun silent => ?_⟩
  · by_contra silent
    obtain ⟨reason, rejected⟩ := (unavailable _).mpr ⟨silent, rfl⟩
    exact absurd ((survives reason _ rejected).symm.trans once.gone) nofun
  · exact absurd answers ((unavailable after).mp ⟨reason, rejected⟩).1
  · obtain ⟨reason, rejected⟩ := (unavailable _).mpr ⟨silent, rfl⟩
    exact ⟨reason, _, rejected, fun _ _ _ => verdict_of_gone isReply once.stillUnknown once.gone⟩

/--
From a store that answers both envelopes alike, an authentic envelope gets
another verdict with other references exactly when it is new and its
references bind.
-/
theorem verdict_eq_iff_referencesInert
    (authentic : Authentic crypto config args envelope backends.nowMs) (otherAuthentic :
      Authentic crypto config args { envelope with references } backends.nowMs)
    (alike : AnswersAlike store state envelope { envelope with references }) :
    verdict crypto config args backends store state envelope =
      verdict crypto config args backends store state { envelope with references } ↔
      (store.isPaidEnvelopeAccepted envelope state).1 ≠ .ok false ∨
        ReferencesInert config args backends store
          (store.isPaidEnvelopeAccepted envelope state).2 envelope
          { envelope with references } := by
  rw [verdict_of_authentic authentic, verdict_of_authentic otherAuthentic]
  simp only [afterAuthentication, lookupReceipt, if_true,
    isPaidEnvelopeAccepted, ofStore, bind_assoc, run_ask_bind,
    runWith_call, run_known_bind, handle, alike.receipts]
  generalize store.isPaidEnvelopeAccepted envelope state = looked
  obtain ⟨_ | _ | _, after⟩ := looked
  · simp [mapError]
  · simpa [mapError] using runWith_admitNew_eq_iff alike after
  simp only [mapError, if_true, ne_eq, Except.ok.injEq,
    Bool.true_eq_false, not_false_eq_true, true_or, iff_true]
  rfl

end

/-- The store that knows one receipt and backfills it when it is asked. -/
private def oneReceipt (known : UkmEnvelope) : StoreMethods Bool where
  isPaidEnvelopeAccepted envelope state := (.ok (envelope = known), state || envelope = known)
  takeOutstandingWebRequest _ state := (.ok none, state)
  recordOutgoingWebRequest _ _ state := (.ok (), state)
  deliveryPriceFloor _ _ _ state := (.ok none, state)
  checkAndStorePaid _ _ _ _ state := (.ok .paymentReused, state)

variable {known envelope : UkmEnvelope} {backends : Backends}

private theorem oneReceipt_unchanged
    {history : GateHistory} {state last : Bool} (other : envelope ≠ known)
    (asks : ∀ event ∈ history, ∀ asked,
      event.operation = .isPaidEnvelopeAccepted asked → asked = envelope)
    (answers : Answers ((oneReceipt known).handle backends) state history last) : last = state := by
  induction answers with
  | nil state => rfl
  | @cons state last op history later ih =>
    rw [ih fun event mem => asks event (List.mem_cons_of_mem _ mem)]
    cases op with
    | isPaidEnvelopeAccepted asked =>
      obtain rfl := asks _ List.mem_cons_self asked rfl
      simp [handle, oneReceipt, other]
    | _ => rfl

variable {config : GateConfig} {crypto : Crypto} {args : GateCall}

private theorem oneReceipt_backfilled {envelope : UkmEnvelope}
    (authentic : Authentic crypto config args envelope backends.nowMs) :
    (verdict crypto config args backends (oneReceipt envelope) false envelope).2 := by
  rw [verdict_of_authentic authentic]
  simp only [afterAuthentication, lookupReceipt, if_true,
    isPaidEnvelopeAccepted, ofStore, bind_assoc, run_ask_bind,
    runWith_call, run_known_bind, handle, oneReceipt,
    decide_true, mapError, consumeReplayKeys,
    checkAndStorePaid, run_known, runWith_done, Bool.or_true]

private theorem oneReceipt_not_backfilled (other : envelope ≠ known) :
    (verdict crypto config args backends (oneReceipt known) false envelope).2 = false := by
  obtain ⟨_, reached, answers⟩ := exists_reaches_runWith ((oneReceipt known).handle backends)
    (config.verify crypto args envelope).run false
  refine oneReceipt_unchanged other ?_ answers
  have asks := (config.performs_verify crypto args envelope).mem_history reached
  intro event mem _ isLookup
  have read := asks event mem
  rw [isLookup] at read
  exact read

section

variable {crypto : Crypto} {config : GateConfig} {args : GateCall} {backends : Backends}
  {envelope : UkmEnvelope} {references : List MessageId}

private theorem not_authentic_or_references_eq
    (agree : ∀ (Store : Type) (store : StoreMethods Store) (state : Store),
      verdict crypto config args backends store state envelope =
        verdict crypto config args backends store state { envelope with references }) :
    ¬ Authentic crypto config args envelope backends.nowMs ∨ envelope.references = references := by
  by_contra neither
  simp only [not_or, not_not] at neither
  obtain ⟨authentic, ne⟩ := neither
  have other : { envelope with references } ≠ envelope :=
    fun same => ne (congrArg UkmEnvelope.references same).symm
  have sameStore := congrArg Prod.snd (agree Bool (oneReceipt envelope) false)
  rw [oneReceipt_backfilled authentic, oneReceipt_not_backfilled other] at sameStore
  cases sameStore

end

/--
When two valid envelopes with the same signed bytes and signature get the same
verdict and leave the same store.  From every state of every replay store they
do exactly when the gate rejects them before it consults the store, or when
they carry the same references.  From one state of a store that answers both
alike they do exactly when the gate rejects them so, when the lookup of the
receipt decides, or when the references bind neither or both of them.
-/
theorem verdict_eq_iff_references_eq {crypto : Crypto} {config : GateConfig} {args : GateCall}
    {backends : Backends} {first second : UkmEnvelope}
    (sameBytes : first.signableBytes = second.signableBytes)
    (sameSignature : first.signature = second.signature)
    (firstValid : first.validate crypto = .ok ()) (secondValid : second.validate crypto = .ok ()) :
    ((∀ (Store : Type) (store : StoreMethods Store) (state : Store),
      verdict crypto config args backends store state first =
        verdict crypto config args backends store state second) ↔
      ¬ Authentic crypto config args first backends.nowMs ∨ first.references = second.references) ∧
    ∀ (Store : Type) (store : StoreMethods Store) (state : Store),
      AnswersAlike store state first second →
        (verdict crypto config args backends store state first =
          verdict crypto config args backends store state second ↔
          ¬ Authentic crypto config args first backends.nowMs ∨
            (store.isPaidEnvelopeAccepted first state).1 ≠ .ok false ∨
            ReferencesInert config args backends store
              (store.isPaidEnvelopeAccepted first state).2 first second) := by
  have sameButReferences := UkmEnvelope.eq_with_references sameBytes sameSignature firstValid
    secondValid
  rw [sameButReferences] at secondValid ⊢
  have sameAuthentication :
      config.authenticate crypto args { first with references := second.references } =
        config.authenticate crypto args first := by
    unfold authenticate
    rw [firstValid, secondValid]
    rfl
  refine ⟨⟨not_authentic_or_references_eq, ?_⟩, ?_⟩
  · rintro (notAuthentic | sameReferences) Store store state
    · exact verdict_eq_of_not_authentic sameAuthentication notAuthentic
    · rw [← sameReferences]
  intro Store store state alike
  by_cases authentic : Authentic crypto config args first backends.nowMs
  · have exact := verdict_eq_iff_referencesInert authentic
      { authentic with valid := secondValid } alike
    simpa [authentic] using exact
  have rejectedAlike := @verdict_eq_of_not_authentic Store crypto config args backends
    store state first _ sameAuthentication authentic
  simpa [authentic] using rejectedAlike

namespace MemoryStore

def methods : StoreMethods MemoryStore where
  isPaidEnvelopeAccepted _ store := (.ok false, store)
  takeOutstandingWebRequest paymentHash store := (.ok (store.outstandingWeb paymentHash),
    { store with outstandingWeb := Function.update store.outstandingWeb paymentHash none })
  recordOutgoingWebRequest paymentHash request store := (.ok (), { store with
    outstandingWeb := Function.update store.outstandingWeb paymentHash (some request) })
  deliveryPriceFloor _ _ _ store := (.ok store.quotedPriceMsat, store)
  checkAndStorePaid nonce paymentHash _ _ store := (.ok (store.replay nonce paymentHash),
    store.checkAndStorePaid nonce paymentHash)

theorem methods_answersAlike {store : MemoryStore} {envelope : UkmEnvelope}
    {references : List MessageId} :
    AnswersAlike methods store envelope { envelope with references } where
  receipts := rfl
  quotes := rfl
  noRequest paymentHash before missing := by
    have absent := Except.ok.inj missing
    simp only [methods, ← absent, Function.update_eq_self]

/-- The store after the manifest request has been recorded. -/
def awaitingManifest : MemoryStore :=
  { empty with
    outstandingWeb := Function.update empty.outstandingWeb (.replicate 32 0)
      (some manifestRequest) }

/-- The manifest reply with its references taken away. -/
def strippedReply : UkmEnvelope :=
  { manifestReply with references := [] }

/-- A clock and a price of one sat, without Lightning. -/
def oneSatBackends : Backends where
  nowMs := 7
  getPriceMsat _ := .ok 1000
  isFundingPayment _ := .error "not asked"
  getPaymentStatus _ := .error "not asked"

theorem references_decide_admission : manifestReply.signableBytes = strippedReply.signableBytes ∧
      manifestReply.signature = strippedReply.signature ∧
      manifestReply.validate constantCrypto = .ok () ∧
      strippedReply.validate constantCrypto = .ok () ∧ (verdict constantCrypto {} zeroCall
        oneSatBackends methods awaitingManifest manifestReply).1 = .ok () ∧
      (verdict constantCrypto {} zeroCall oneSatBackends methods awaitingManifest strippedReply).1 =
        .error (.insufficientPayment 1000 0) := ⟨rfl, rfl, rfl, rfl, rfl, rfl⟩

theorem verdict_eq_iff_references_eq_manifestReply :
    ((∀ (Store : Type) (store : StoreMethods Store) (state : Store),
      verdict constantCrypto {} zeroCall oneSatBackends store state manifestReply =
        verdict constantCrypto {} zeroCall oneSatBackends store state strippedReply) ↔
      ¬ Authentic constantCrypto {} zeroCall
        manifestReply oneSatBackends.nowMs ∨ manifestReply.references = strippedReply.references) ∧
    (verdict constantCrypto {} zeroCall oneSatBackends methods awaitingManifest manifestReply =
      verdict constantCrypto {} zeroCall oneSatBackends methods awaitingManifest strippedReply ↔
      ¬ Authentic constantCrypto {} zeroCall manifestReply oneSatBackends.nowMs ∨
        (methods.isPaidEnvelopeAccepted manifestReply awaitingManifest).1 ≠ .ok false ∨
        ReferencesInert {} zeroCall oneSatBackends methods
          (methods.isPaidEnvelopeAccepted manifestReply
            awaitingManifest).2 manifestReply strippedReply) :=
  have both := @verdict_eq_iff_references_eq constantCrypto {}
    zeroCall oneSatBackends manifestReply strippedReply rfl rfl
    rfl rfl
  ⟨both.1, both.2 _ _ _ methods_answersAlike⟩

/-- Backends whose Lightning node does not answer. -/
def silentBackends : Backends :=
  { oneSatBackends with getPaymentStatus _ := .error "offline" }

/-- Backends whose Lightning node knows our payment of the request. -/
def settledBackends : Backends :=
  { oneSatBackends with getPaymentStatus _ := .ok { zeroPayment with direction := .outgoing } }

/-- The gate asks Lightning about settlements. -/
def settling : GateConfig :=
  { verifyLightningSettlement := true }

/-- Lightning that answers nothing loses the request, and one that answers accepts the reply. -/
theorem reply_survives_iff_manifestReply : ∃ reason after,
    verdict constantCrypto settling zeroCall silentBackends methods awaitingManifest
        manifestReply = (.error (.lightningUnavailable reason), after) ∧
      (∀ laterConfig laterArgs later, (verdict constantCrypto laterConfig laterArgs later methods
        after manifestReply).1 ≠ .ok ()) ∧
      (verdict constantCrypto settling zeroCall settledBackends methods awaitingManifest
        manifestReply).1 = .ok () := by
  have authentic : Authentic constantCrypto settling zeroCall manifestReply silentBackends.nowMs :=
    ⟨rfl, by simp [zeroCall], by decide, by decide, rfl, by rintro _ _ ⟨⟩ ⟨⟩; rfl⟩
  obtain ⟨-, lost⟩ := reply_survives_iff constantCrypto settling zeroCall silentBackends methods
    awaitingManifest manifestReply manifestRequest rfl authentic ⟨rfl, rfl, rfl, rfl⟩ rfl
  have silent : ¬ LightningAnswers settling zeroCall silentBackends
      manifestReply.paymentProof.paymentHash := by
    intro answers
    obtain ⟨-, _, reported⟩ := answers rfl
    cases reported
  obtain ⟨reason, after, rejected, never⟩ := lost silent
  exact ⟨reason, after, rejected, never, rfl⟩

theorem unavailable_lightning_loses_request : ∃ after,
    verdict constantCrypto settling zeroCall silentBackends methods awaitingManifest manifestReply =
      (.error (.lightningUnavailable "offline"), after) ∧
      after.outstandingWeb (.replicate 32 0) = none ∧
      (verdict constantCrypto settling zeroCall settledBackends methods awaitingManifest
        manifestReply).1 = .ok () ∧
      (verdict constantCrypto settling zeroCall settledBackends methods after manifestReply).1 =
        .error (.insufficientPayment 1000 0) := ⟨_, rfl, rfl, rfl, rfl⟩

end MemoryStore

end BitSov.Core
