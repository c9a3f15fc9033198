import BitSov.Core.Gate

namespace BitSov.Core

/-!
# What an admitted envelope has been checked for

One inversion lemma for each part of the gate says which answers a successful
history contains and what has been compared with them. They combine into the
guarantee of `validateReceivedPaidEnvelope`: an envelope that is admitted on
its own payment has been authenticated, and the Lightning backend has reported
a matching settled inbound payment of at least the required price.
-/

open Encoding Process Program Fallible GateM

abbrev GateHistory :=
  List (Event GateOp GateOp.Answer)

@[simp] theorem mapError_eq_ok_iff {α ε δ : Type} {rename : ε → δ} {value : Except ε α}
    {result : α} : value.mapError rename = .ok result ↔ value = .ok result := by
  cases value <;> simp [Except.mapError]

theorem reaches_require_bind_ok_iff {condition : Prop} [Decidable condition]
    {rejection : GateRejection} {β : Type} {cont : Unit → GateM β} {history : GateHistory}
    {result : β} : Reaches (require condition rejection >>= cont).run history (.done (.ok result)) ↔
      condition ∧ Reaches (cont ()).run history (.done (.ok result)) := by
  unfold require
  rw [reaches_known_bind_ok_iff]
  by_cases holds : condition
  · rw [if_pos holds]
    constructor
    · rintro ⟨_, _, reached⟩
      exact ⟨holds, reached⟩
    · rintro ⟨_, reached⟩
      exact ⟨(), rfl, reached⟩
  · simp [holds]

variable {ourNodeId : Option NodeId}

theorem checkRecipient_eq_ok_iff {recipient : Recipient} :
    checkRecipient recipient ourNodeId = .ok () ↔
      ∀ claimed ours, recipient = .node claimed → ourNodeId = some ours → claimed = ours := by
  unfold checkRecipient
  split
  · simp
  next unaddressed =>
  refine ⟨fun _ claimed ours isNode isOurs => ?_, fun _ => rfl⟩
  exact (unaddressed claimed ours isNode isOurs).elim

theorem saturatingSub_le_iff {first second bound : UInt64} :
    saturatingSub first second ≤ bound ↔ first.toNat ≤ second.toNat + bound.toNat := by
  unfold saturatingSub
  split
  · next smaller =>
    rw [UInt64.le_iff_toNat_le] at smaller ⊢
    simp only [UInt64.toNat_zero]
    omega
  next larger =>
  rw [UInt64.le_iff_toNat_le] at larger ⊢
  rw [UInt64.toNat_sub_of_le _ _ (UInt64.le_iff_toNat_le.mpr (by omega))]
  omega

/-- What the gate establishes before it consults the store. -/
structure Authentic (crypto : Crypto) (config : GateConfig) (call : GateCall)
    (envelope : UkmEnvelope) (nowMs : UInt64) : Prop where
  valid : envelope.validate crypto = .ok ()
  whitelisted : ∀ allowed ∈ call.whitelist, envelope.sender ∈ allowed
  notOld : nowMs.toNat ≤ envelope.timestamp.toNat + config.maxMessageAgeMs.toNat
  notFuture : envelope.timestamp.toNat ≤ nowMs.toNat + config.maxFutureMs.toNat
  signed : GateConfig.verifySignature crypto envelope = .ok ()
  addressed : ∀ claimed ours,
    envelope.recipient = .node claimed → call.ourNodeId = some ours → claimed = ours

/-- What the gate establishes about the payment the backend reports. -/
structure SettlesFor (envelope : UkmEnvelope) (requiredMsat : UInt64)
    (details : PaymentDetails) : Prop where
  settled : details.status = .settled
  incoming : details.direction = .incoming
  sameHash : decodeHex32 "payment_hash" details.paymentHash = .ok envelope.paymentProof.paymentHash
  samePreimage : ∃ text,
    details.preimage = some text ∧ decodeHex32 "preimage" text = .ok envelope.paymentProof.preimage
  coversClaim : envelope.paymentProof.amountMsat ≤ details.amountMsat
  coversPrice : requiredMsat ≤ details.amountMsat

namespace GateConfig

variable {envelope : UkmEnvelope} {history : GateHistory} {config : GateConfig} {call : GateCall}
  {nowMs : UInt64} {crypto : Crypto}

theorem reaches_authenticate_ok_iff :
    Reaches (config.authenticate crypto call envelope).run history (.done (.ok nowMs)) ↔
      history = [⟨.now, nowMs⟩] ∧ Authentic crypto config call envelope nowMs := by
  simp only [authenticate, now, reaches_known_bind_ok_iff,
    mapError_eq_ok_iff, reaches_require_bind_ok_iff, reaches_ask_bind_iff,
    reaches_pure_iff, saturatingSub_le_iff, Except.ok.injEq]
  constructor
  · rintro ⟨_, valid, whitelisted, _, _, rfl, notOld, notFuture, _, signed, _, addressed, rfl, rfl⟩
    exact ⟨rfl, valid, whitelisted, notOld, notFuture, signed,
      checkRecipient_eq_ok_iff.mp addressed⟩
  rintro ⟨rfl, authentic⟩
  exact ⟨(), authentic.valid, authentic.whitelisted, nowMs, [], rfl,
    authentic.notOld, authentic.notFuture, (), authentic.signed,
    (), checkRecipient_eq_ok_iff.mpr authentic.addressed, rfl, rfl⟩

variable {details : PaymentDetails}

theorem settlesFor_of_reaches
    (reached : Reaches (verifySettlement envelope requiredMsat ourNodeId).run history
      (.done (.ok details))) :
    history = [⟨.isFundingPayment (hexEncode envelope.paymentProof.paymentHash.toList), .ok false⟩,
      ⟨.getPaymentStatus (hexEncode envelope.paymentProof.paymentHash.toList), .ok details⟩] ∧
      SettlesFor envelope requiredMsat details := by
  simp only [verifySettlement, isFundingPayment,
    getPaymentStatus, ofLightning, reaches_ask_bind_iff,
    reaches_known_bind_ok_iff, mapError_eq_ok_iff,
    reaches_require_bind_ok_iff, reaches_pure_iff, Except.ok.injEq]
    at reached
  obtain ⟨_, _, rfl, _, rfl, rfl, _, _, rfl, _, rfl, settled,
    _, decodedHash, rfl, incoming, _, _, coversClaim, coversPrice,
    preimageHex, hasPreimage, _, decodedPreimage, rfl, rfl,
    rfl⟩ := reached
  refine ⟨rfl, settled, incoming, decodedHash, ⟨preimageHex, ?_, decodedPreimage⟩,
    coversClaim, coversPrice⟩
  cases preimage : details.preimage with
  | none => simp [preimage] at hasPreimage
  | some => simpa [preimage] using hasPreimage

theorem verifyPrice_ok {discounted : UInt64 → UInt64}
    (reached : Reaches (config.verifyPrice envelope discounted).run history
      (.done (.ok requiredMsat))) :
    ∃ baseMsat, history = [⟨.getPriceMsat envelope.kind, .ok baseMsat⟩] ∧
      requiredMsat = config.priceWithFloorMsat (discounted baseMsat) ∧
      requiredMsat ≤ envelope.paymentProof.amountMsat := by
  simp only [verifyPrice, getPriceMsat, reaches_ask_bind_iff,
    reaches_known_bind_ok_iff, mapError_eq_ok_iff,
    reaches_require_bind_ok_iff, reaches_pure_iff, Except.ok.injEq]
    at reached
  obtain ⟨_, _, rfl, baseMsat, rfl, met, rfl, rfl⟩ := reached
  exact ⟨baseMsat, rfl, rfl, met⟩

/--
Where the required price comes from: the current price of the kind, or a
delivery quote for the time at which a verified settlement took place.
-/
theorem requiredPrice_ok {settlementChecked : Bool}
    (reached : Reaches (config.requiredPrice call envelope receipts nowMs).run history
      (.done (.ok (requiredMsat, settlementChecked)))) :
    requiredMsat ≤ envelope.paymentProof.amountMsat ∧ ((settlementChecked = false ∧
      ∃ baseMsat, history = [⟨.getPriceMsat envelope.kind, .ok baseMsat⟩] ∧
        requiredMsat = config.priceWithFloorMsat (call.discounted baseMsat)) ∨
      ∃ priced prior details quoteMsat,
        Reaches (verifySettlement envelope 1 call.ourNodeId).run prior (.done (.ok details)) ∧
          history = priced ++ (prior ++ [⟨.deliveryPriceFloor envelope details.timestamp
            (nowMs / 1000), .ok (some quoteMsat)⟩]) ∧
          requiredMsat = config.priceWithFloorMsat quoteMsat ∧
          requiredMsat ≤ details.amountMsat) := by
  obtain ⟨priced, _, _, rfl, reachedPrice, reachedRest⟩ := reaches_bind_ok reached
  have reachedPrice := reaches_attempt_ok reachedPrice
  split at reachedRest
  · next required _ =>
    obtain ⟨rfl, samePrice⟩ := reaches_pure_iff.mp reachedRest
    obtain ⟨rfl, rfl⟩ : requiredMsat = required ∧ settlementChecked = false := by
      simpa using samePrice
    obtain ⟨baseMsat, rfl, priceEquation, met⟩ := verifyPrice_ok reachedPrice
    exact ⟨met, .inl ⟨rfl, baseMsat, rfl, priceEquation⟩⟩
  · rw [reaches_require_bind_ok_iff, reaches_require_bind_ok_iff]
    at reachedRest
    obtain ⟨-, -, reachedRest⟩ := reachedRest
    obtain ⟨prior, _, details, rfl, reachedSettlement, reachedQuote⟩ := reaches_bind_ok reachedRest
    simp only [deliveryPriceFloor, ofStore, reaches_ask_bind_iff,
      reaches_known_bind_ok_iff, mapError_eq_ok_iff] at reachedQuote
    obtain ⟨_, _, rfl, quoted, rfl, reachedQuote⟩ := reachedQuote
    cases quoted with
    | none => simp at reachedQuote
    | some quoteMsat =>
      rw [reaches_require_bind_ok_iff, reaches_pure_iff] at reachedQuote
      obtain ⟨⟨coversClaim, coversPrice⟩, rfl, sameOutcome⟩ := reachedQuote
      obtain ⟨rfl, -⟩ : requiredMsat = config.priceWithFloorMsat quoteMsat ∧ settlementChecked := by
        simpa using sameOutcome
      exact ⟨coversClaim, .inr ⟨priced, prior, details, quoteMsat, reachedSettlement, rfl,
        rfl, coversPrice⟩⟩
  · simp at reachedRest

theorem le_priceWithFloorMsat (config : GateConfig) (discounted) :
    1000 ≤ config.priceWithFloorMsat discounted := by
  unfold GateConfig.priceWithFloorMsat Core.priceWithFloorMsat
  generalize max discounted config.minAdmissionCostMsat = price
  change 1000 ≤ if price ≤ 1000 then (1000 : UInt64) else price
  split
  · exact UInt64.le_refl 1000
  next above =>
  rw [UInt64.le_iff_toNat_le] at above ⊢
  omega

/-- The price a settled payment has been compared with, and its origin. -/
structure PaidFor (config : GateConfig) (call : GateCall) (envelope : UkmEnvelope) (nowMs : UInt64)
    (history : GateHistory) (details : PaymentDetails) (priceMsat : UInt64) : Prop where
  notFunding : ⟨.isFundingPayment
    (hexEncode envelope.paymentProof.paymentHash.toList),
    .ok false⟩ ∈ history
  reported : ⟨.getPaymentStatus
    (hexEncode envelope.paymentProof.paymentHash.toList),
    .ok details⟩ ∈ history
  origin : (∃ baseMsat,
    ⟨.getPriceMsat envelope.kind, .ok baseMsat⟩ ∈ history ∧ priceMsat = call.discounted baseMsat) ∨
    ⟨.deliveryPriceFloor envelope details.timestamp (nowMs / 1000), .ok (some priceMsat)⟩ ∈ history
  settles : SettlesFor envelope (config.priceWithFloorMsat priceMsat) details
  claimed : config.priceWithFloorMsat priceMsat ≤ envelope.paymentProof.amountMsat

theorem le_amountMsat_of_checkPaid
    (reached : Reaches (config.checkPaid call envelope receipts nowMs).run history
      (.done (.ok ()))) : 1000 ≤ envelope.paymentProof.amountMsat := by
  obtain ⟨_, _, ⟨requiredMsat, _⟩, rfl, reachedPrice, -⟩ := reaches_bind_ok reached
  obtain ⟨met, origin⟩ := requiredPrice_ok reachedPrice
  have floor : 1000 ≤ requiredMsat := by
    rcases origin with
      ⟨-, _, -, rfl⟩ | ⟨_, _, _, _, -, -, rfl, -⟩
    · exact config.le_priceWithFloorMsat _
    · exact config.le_priceWithFloorMsat _
  exact UInt64.le_trans floor met

theorem paidFor_of_checkPaid (settlementOn : config.verifyLightningSettlement)
    (reached : Reaches (config.checkPaid call envelope receipts nowMs).run history
      (.done (.ok ()))) :
    ∃ details priceMsat, config.PaidFor call envelope nowMs history details priceMsat := by
  obtain ⟨_, _, ⟨_, _⟩, rfl, reachedPrice, reachedRest⟩ := reaches_bind_ok reached
  obtain ⟨met, origin⟩ := requiredPrice_ok reachedPrice
  rcases origin with
    ⟨rfl, baseMsat, rfl, rfl⟩ |
    ⟨_, _, details, quoteMsat, reachedSettlement, rfl, rfl, coversQuote⟩
  · dsimp only at reachedRest
    rw [if_pos ⟨settlementOn, rfl⟩, reaches_require_bind_ok_iff] at reachedRest
    obtain ⟨_, _, details, rfl, reachedSettlement, _⟩ := reaches_bind_ok reachedRest.2
    obtain ⟨rfl, settles⟩ := settlesFor_of_reaches reachedSettlement
    refine ⟨details, call.discounted baseMsat, ?_, ?_, ?_, settles, met⟩
    · simp
    · simp
    · exact .inl ⟨baseMsat, by simp, rfl⟩
  · obtain ⟨rfl, settles⟩ := settlesFor_of_reaches reachedSettlement
    refine ⟨details, quoteMsat, ?_, ?_, ?_, { settles with coversPrice := coversQuote }, met⟩
    · simp
    · simp
    · exact .inr (by simp)

theorem tryAcceptWebServiceReply_ok {lightning bound : Bool}
    (reached : Reaches (config.tryAcceptWebServiceReply envelope lightning nowMs).run
      history (.done (.ok bound))) : ∃ taken later, history =
      ⟨.takeOutstandingWebRequest envelope.paymentProof.paymentHash, .ok taken⟩ :: later ∧
      bound = taken.isSome ∧ (taken = none → later = []) ∧
      ∀ outstanding ∈ taken, replyMatchesOutstanding envelope outstanding nowMs := by
  simp only [tryAcceptWebServiceReply, takeOutstandingWebRequest,
    ofStore, reaches_ask_bind_iff, reaches_known_bind_ok_iff,
    mapError_eq_ok_iff] at reached
  obtain ⟨_, later, rfl, taken, rfl, reached⟩ := reached
  refine ⟨taken, later, rfl, ?_⟩
  cases taken with
  | none =>
    obtain ⟨rfl, outcome⟩ := reaches_pure_iff.mp reached
    simpa using outcome
  | some =>
    rw [reaches_require_bind_ok_iff] at reached
    refine ⟨?_, by simp, by simpa using reached.1⟩
    unfold confirmOutgoingPayment at reached
    split at reached
    · simp only [getPaymentStatus, ofLightning, reaches_require_bind_ok_iff, reaches_ask_bind_iff,
        reaches_known_bind_ok_iff, mapError_eq_ok_iff,
        reaches_pure_iff, Except.ok.injEq] at reached
      grind
    · simpa using (reaches_pure_iff.mp reached.2).2

/--
How a received envelope passes: it is authentic, and either the store knows
its receipt, or it takes a matching outstanding request as a web reply, or its
own payment has been checked.
-/
theorem validatePaidEnvelopeInner_ok {duplicate : Bool}
    (reached : Reaches (config.validatePaidEnvelopeInner crypto call envelope true).run
      history (.done (.ok duplicate))) : ∃ nowMs later, history =
      ⟨.now, nowMs⟩ :: ⟨.isPaidEnvelopeAccepted envelope, .ok duplicate⟩ :: later ∧
      Authentic crypto config call envelope nowMs ∧
      (duplicate = false → (isWebServiceReply envelope ∧ ∃ outstanding rest,
        later = ⟨.takeOutstandingWebRequest envelope.paymentProof.paymentHash,
          .ok (some outstanding)⟩ :: rest ∧ replyMatchesOutstanding envelope outstanding nowMs) ∨
        ∃ unbound paid, later = unbound ++ paid ∧
          Reaches (config.checkPaid call envelope true nowMs).run paid (.done (.ok ()))) := by
  obtain ⟨_, _, nowMs, rfl, reachedClock, reachedStore⟩ := reaches_bind_ok reached
  obtain ⟨rfl, authentic⟩ := reaches_authenticate_ok_iff.mp reachedClock
  obtain ⟨_, _, accepted, rfl, reachedLookup, reachedNew⟩ := reaches_bind_ok reachedStore
  simp only [lookupReceipt, if_true, isPaidEnvelopeAccepted, ofStore,
    reaches_ask_bind_iff, reaches_known_iff, mapError_eq_ok_iff]
    at reachedLookup
  obtain ⟨_, _, rfl, rfl, rfl⟩ := reachedLookup
  cases accepted with
  | true =>
    obtain ⟨rfl, outcome⟩ := reaches_pure_iff.mp reachedNew
    obtain rfl : duplicate := by simpa using outcome
    exact ⟨nowMs, [], rfl, authentic, by simp⟩
  | false =>
    rw [if_neg (by simp)] at reachedNew
    obtain ⟨web, _, bound, rfl, reachedWeb, reachedUnbound⟩ := reaches_bind_ok reachedNew
    cases bound with
    | true =>
      obtain ⟨rfl, outcome⟩ := reaches_pure_iff.mp reachedUnbound
      obtain rfl : duplicate = false := by simpa using outcome
      refine ⟨nowMs, web ++ [], rfl, authentic, fun _ => .inl ?_⟩
      unfold bindWebReply at reachedWeb
      split at reachedWeb
      · next shape =>
        obtain ⟨_, remaining, rfl, isBound, -, matching⟩ := tryAcceptWebServiceReply_ok reachedWeb
        obtain ⟨outstanding, rfl⟩ := Option.isSome_iff_exists.mp isBound.symm
        exact ⟨shape.1, outstanding, remaining, by simp, matching outstanding rfl⟩
      · simp at reachedWeb
    | false =>
      rw [if_neg (by simp)] at reachedUnbound
      obtain ⟨checked, _, _, rfl, reachedPaid, reachedEnd⟩ := reaches_bind_ok reachedUnbound
      obtain ⟨rfl, outcome⟩ := reaches_pure_iff.mp reachedEnd
      obtain rfl : duplicate = false := by simpa using outcome
      exact ⟨nowMs, web ++ (checked ++ []), rfl, authentic,
        fun _ => .inr ⟨web, checked, by simp, reachedPaid⟩⟩

theorem PaidFor.mono {longer : GateHistory} {priceMsat : UInt64}
    (paid : config.PaidFor call envelope nowMs history details priceMsat)
    (longerHistory : ∀ event ∈ history, event ∈ longer) :
    config.PaidFor call envelope nowMs longer details priceMsat :=
  { paid with
    notFunding := longerHistory _ paid.notFunding
    reported := longerHistory _ paid.reported
    origin := paid.origin.imp
      (fun ⟨baseMsat, mem, same⟩ => ⟨baseMsat, longerHistory _ mem, same⟩)
      (longerHistory _) }

/--
With settlement checks on, a received envelope that is neither a known
receipt nor a web reply taking an outstanding request is authentic and
addressed to this node, and the backend has reported a settled inbound payment
that matches its proof and covers, like the claimed amount, the floored price.
-/
theorem validateReceivedPaidEnvelope_settled {crypto : Crypto} {config : GateConfig}
    {call : GateCall} {envelope : UkmEnvelope} {history : GateHistory} {duplicate : Bool}
    {ours : NodeId} (settlementOn : config.verifyLightningSettlement)
    (receiving : call.ourNodeId = some ours)
    (admitted : Reaches (config.validateReceivedPaidEnvelope crypto call envelope).run
      history (.done (.ok duplicate)))
    (notReceipt : ⟨.isPaidEnvelopeAccepted envelope, .ok true⟩ ∉ history)
    (notWebReply : ∀ outstanding, ⟨.takeOutstandingWebRequest envelope.paymentProof.paymentHash,
      .ok (some outstanding)⟩ ∉ history) : ∃ nowMs details priceMsat, ⟨.now, nowMs⟩ ∈ history ∧
      Authentic crypto config call envelope nowMs ∧
      (∀ claimed, envelope.recipient = .node claimed → claimed = ours) ∧
      config.PaidFor call envelope nowMs history details priceMsat := by
  obtain ⟨nowMs, _, rfl, authentic, admission⟩ := validatePaidEnvelopeInner_ok admitted
  have addressed : ∀ claimed, envelope.recipient = .node claimed → claimed = ours :=
    fun claimed isNode => authentic.addressed claimed ours isNode receiving
  cases duplicate with
  | true => simp at notReceipt
  | false =>
    rcases admission rfl with
      ⟨-, outstanding, _, rfl, -⟩ | ⟨_, _, rfl, reachedPaid⟩
    · exact (notWebReply outstanding (by simp)).elim
    obtain ⟨details, priceMsat, paidFor⟩ := paidFor_of_checkPaid settlementOn reachedPaid
    exact ⟨nowMs, details, priceMsat, by simp, authentic, addressed,
      paidFor.mono fun _ member => by simp [member]⟩

/-- Constant digests under which every signature verifies. -/
def constantCrypto : Crypto where
  blake3 _ := .replicate 32 0
  sha256 _ := .replicate 32 0
  verifyingKey _ := .ok ()
  verifyStrict _ _ _ := .ok ()

/-- An envelope of all-zero fields besides the given ones. -/
def zeroEnvelope (kind : UInt16) (amountMsat : UInt64) (references : List MessageId) :
    UkmEnvelope where
  id := ⟨.replicate 32 0⟩
  kind
  sender := ⟨.replicate 32 0⟩
  recipient := .node ⟨.replicate 32 0⟩
  timestamp := 0
  ciphertext := [0]
  paymentProof :=
    { paymentHash := .replicate 32 0
      preimage := .replicate 32 0
      amountMsat }
  signature := ⟨.replicate 64 0⟩
  nonce := ⟨.replicate 24 0⟩
  references

/-- A call at the receiving node of all-zero identity, without a discount. -/
def zeroCall : GateCall where
  whitelist := none
  lightning := true
  discounted := id
  ourNodeId := some ⟨.replicate 32 0⟩

/-- A settled inbound payment of one sat for the all-zero hash. -/
def zeroPayment : PaymentDetails where
  paymentHash := hexEncode (List.replicate 32 0)
  preimage := some (hexEncode (List.replicate 32 0))
  amountMsat := 1000
  status := .settled
  direction := .incoming
  timestamp := 0

/-- The history of an envelope admitted on its payment of one sat. -/
def paidHistory : GateHistory :=
  [⟨.now, (0 : UInt64)⟩,
    ⟨.isPaidEnvelopeAccepted (zeroEnvelope 0 1000 []), .ok false⟩,
    ⟨.getPriceMsat 0, .ok 1000⟩,
    ⟨.isFundingPayment (hexEncode (List.replicate 32 0)), .ok false⟩,
    ⟨.getPaymentStatus (hexEncode (List.replicate 32 0)), .ok zeroPayment⟩]

theorem validateReceivedPaidEnvelope_settled_paidHistory :
    ∃ nowMs details priceMsat, ⟨.now, nowMs⟩ ∈ paidHistory ∧
      Authentic constantCrypto { verifyLightningSettlement := true }
        zeroCall (zeroEnvelope 0 1000 []) nowMs ∧
      (∀ claimed, (zeroEnvelope 0 1000 []).recipient = .node claimed →
        claimed = ⟨.replicate 32 0⟩) ∧
      PaidFor { verifyLightningSettlement := true } zeroCall
        (zeroEnvelope 0 1000 []) nowMs paidHistory details priceMsat :=
  validateReceivedPaidEnvelope_settled rfl rfl (.call (.call (.call (.call (.call (.refl _))))))
    (by simp [paidHistory])
    (by simp [paidHistory])

end GateConfig

end BitSov.Core
