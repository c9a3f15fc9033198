import BitSov.Core.GateAdmission
import BitSov.Process.Machine

namespace BitSov.Core

/-!
# Concurrent gate calls on one replay store

Any number of `verify` calls, and of calls recording outgoing web requests,
run interleaved on one `NonceStore`. Each store method is one atomic step; the
answers of the clock, the pricing engine and the Lightning backend are
arbitrary. Under the contract that `check_and_store_paid` writes both replay
keys or neither, a nonce and a payment hash are accepted at most once.
-/

open Encoding Process Program Fallible Machine

/-- What the checks ask before the replay store. -/
def ReadFor (envelope : UkmEnvelope) : GateOp → Prop
  | .now => True
  | .isPaidEnvelopeAccepted other => other = envelope
  | .takeOutstandingWebRequest paymentHash => paymentHash = envelope.paymentProof.paymentHash
  | .recordOutgoingWebRequest _ _ => False
  | .deliveryPriceFloor other _ _ => other = envelope
  | .checkAndStorePaid _ _ _ _ => False
  | .getPriceMsat kind => kind = envelope.kind
  | .isFundingPayment paymentHash | .getPaymentStatus paymentHash =>
    paymentHash = hexEncode envelope.paymentProof.paymentHash.toList

namespace GateConfig

variable (crypto : Crypto) (config : GateConfig) (call : GateCall) (envelope : UkmEnvelope)

private theorem performs_authenticate :
    Performs (ReadFor envelope) (config.authenticate crypto call envelope).run := by
  simp only [authenticate, GateM.now, require, performs_ask_bind_iff,
    performs_known_bind_iff, ReadFor]
  simp

private theorem performs_verifySettlement (requiredMsat ourNodeId) :
    Performs (ReadFor envelope) (verifySettlement envelope requiredMsat ourNodeId).run := by
  simp only [verifySettlement, GateM.isFundingPayment,
    GateM.getPaymentStatus, ofLightning, require, performs_ask_bind_iff,
    performs_known_bind_iff, ReadFor]
  simp

private theorem performs_tryAcceptWebServiceReply (lightning nowMs) :
    Performs (ReadFor envelope) (config.tryAcceptWebServiceReply envelope lightning nowMs).run := by
  simp only [tryAcceptWebServiceReply, GateM.takeOutstandingWebRequest,
    ofStore, performs_ask_bind_iff, performs_known_bind_iff, ReadFor,
    true_and]
  intro _ _ _
  split
  · simp
  simp only [require, performs_known_bind_iff]
  intros
  unfold confirmOutgoingPayment
  split
  · simp only [GateM.getPaymentStatus, ofLightning, require,
      performs_ask_bind_iff, performs_known_bind_iff, ReadFor]
    simp
  · simp

private theorem performs_verifyPrice (discounted) :
    Performs (ReadFor envelope) (config.verifyPrice envelope discounted).run := by
  simp only [verifyPrice, GateM.getPriceMsat, require,
    performs_ask_bind_iff, performs_known_bind_iff, ReadFor]
  simp

variable (receipts : Bool)

private theorem performs_requiredPrice (nowMs) :
    Performs (ReadFor envelope) (config.requiredPrice call envelope receipts nowMs).run := by
  refine performs_bind (performs_attempt (config.performs_verifyPrice envelope _)) fun _ => ?_
  split
  · simp
  · simp only [require, performs_known_bind_iff]
    intros
    refine performs_bind (performs_verifySettlement envelope _ _) fun _ => ?_
    simp only [GateM.deliveryPriceFloor, ofStore, performs_ask_bind_iff,
      performs_known_bind_iff, ReadFor, true_and]
    intro _ _ _
    split
    · simp
    · simp only [performs_known_bind_iff]
      simp
  · simp

private theorem performs_checkPaid (nowMs) :
    Performs (ReadFor envelope) (config.checkPaid call envelope receipts nowMs).run := by
  refine performs_bind (config.performs_requiredPrice call envelope receipts nowMs)
    fun ⟨requiredMsat, settlementChecked⟩ => ?_
  dsimp only
  split
  · simp only [require, performs_known_bind_iff]
    intros
    exact performs_bind (performs_verifySettlement envelope _ _) fun _ => by simp
  · simp

theorem performs_validatePaidEnvelopeInner : Performs (ReadFor envelope)
      (config.validatePaidEnvelopeInner crypto call envelope receipts).run := by
  refine performs_bind (config.performs_authenticate crypto call envelope) fun nowMs => ?_
  refine performs_bind ?_ fun _ => ?_
  · unfold lookupReceipt
    split
    · simp only [GateM.isPaidEnvelopeAccepted, ofStore, performs_ask_bind_iff, ReadFor]
      simp
    · simp
  split
  · simp
  refine performs_bind ?_ fun _ => ?_
  · unfold bindWebReply
    split
    · exact config.performs_tryAcceptWebServiceReply envelope _ _
    · simp
  split
  · simp
  · exact performs_bind (config.performs_checkPaid call envelope receipts nowMs) fun _ => by simp

end GateConfig

/-- The event by which `check_and_store_paid` inserts both keys. -/
def InsertsPaid (nonce : Nonce) (paymentHash : PaymentHash) (event : Event GateOp GateOp.Answer) :
    Prop :=
  ∃ sender messageId, event = ⟨.checkAndStorePaid nonce paymentHash sender messageId, .ok .accepted⟩

/-- The operations of a verification, with the arguments of its envelope. -/
def VerifyOp (envelope : UkmEnvelope) : GateOp → Prop
  | .checkAndStorePaid nonce paymentHash sender messageId =>
    nonce = envelope.nonce ∧
      paymentHash = envelope.paymentProof.paymentHash ∧
      sender = envelope.sender ∧
      messageId = envelope.id
  | operation => ReadFor envelope operation

namespace GateConfig

theorem performs_verify (crypto) (config : GateConfig) (call envelope) :
    Performs (VerifyOp envelope) (config.verify crypto call envelope).run := by
  refine performs_bind ?_ fun _ => ?_
  · have reads := config.performs_validatePaidEnvelopeInner crypto call envelope true
    refine reads.mono fun op read => ?_
    cases op with
    | checkAndStorePaid => exact read.elim
    | _ => exact read
  · refine ⟨⟨rfl, rfl, rfl, rfl⟩, fun answer => ?_⟩
    rcases answer with _ | (_ | _ | _) <;> trivial

theorem verify_succeedsBy (crypto) (config : GateConfig) (call) (envelope : UkmEnvelope) :
    SucceedsBy (InsertsPaid envelope.nonce envelope.paymentProof.paymentHash) (· = .ok ())
      (config.verify crypto call envelope).run := by
  refine succeedsBy_bind (by simp) ?_ fun _ => ?_
  · have reads := config.performs_validatePaidEnvelopeInner crypto call envelope true
    refine reads.mono fun _ read answer => ?_
    rintro ⟨_, _, sameEvent⟩
    cases sameEvent
    exact read
  intro answer
  rcases answer with error | (_ | _ | _)
  · exact .inr ⟨by simp [InsertsPaid], show ¬ (Except.error _ = Except.ok ()) from nofun⟩
  · exact .inl ⟨⟨_, _, rfl⟩, .ok (), rfl, rfl⟩
  · exact .inr ⟨by simp [InsertsPaid], show ¬ (Except.error _ = Except.ok ()) from nofun⟩
  · exact .inr ⟨by simp [InsertsPaid], show ¬ (Except.error _ = Except.ok ()) from nofun⟩

end GateConfig

/--
A replay store: every operation as an atomic step of its state, and the moves
the store makes on its own.
-/
structure NonceStore (Store : Type) where
  effect : Store → (operation : GateOp) → operation.Answer → Store → Prop
  ambient : Store → Store → Prop

/--
The contract of `check_and_store_paid`: the step inserts both keys when neither
is present, and no other step touches them.
-/
structure AtomicReplay {Store : Type} (store : NonceStore Store) where
  nonces : Store → Set Nonce
  hashes : Store → Set PaymentHash
  inserts : ∀ {before after nonce paymentHash event},
    store.effect before event.operation event.answer after →
    InsertsPaid nonce paymentHash event →
      nonce ∉ nonces before ∧
        paymentHash ∉ hashes before ∧
        nonces after = insert nonce (nonces before) ∧
        hashes after = insert paymentHash (hashes before)
  keeps : ∀ {before after event},
    store.effect before event.operation event.answer after →
    (∀ nonce paymentHash, ¬ InsertsPaid nonce paymentHash event) →
      nonces after = nonces before ∧ hashes after = hashes before
  ambientKeeps : ∀ {before after},
    store.ambient before after → nonces after = nonces before ∧ hashes after = hashes before

inductive GateJob where
  | verify (config : GateConfig) (call : GateCall) (envelope : UkmEnvelope)
  | recordOutgoingWebRequest (paymentHash : PaymentHash) (request : OutstandingWebRequest)

def GateJob.program (crypto : Crypto) : GateJob → GateM Unit
  | .verify config arguments envelope => config.verify crypto arguments envelope
  | .recordOutgoingWebRequest paymentHash request => do
    ofStore (← GateM.recordOutgoingWebRequest paymentHash request)

/-- Gate calls interleaved on one store, which survives crashes. -/
def gateMachine {Store : Type} (crypto : Crypto) (store : NonceStore Store) :
    Machine GateJob Unit Store GateOp GateOp.Answer (Except GateRejection Unit) where
  code job := (job.program crypto).run
  host _ := ()
  effect _ := store.effect
  cancel _ before after := after = before
  crash _ before after := after = before
  ambient := store.ambient

/-- A snapshot of interleaved gate calls. -/
abbrev GateState (Store : Type) :=
  Config GateJob Store GateOp GateOp.Answer (Except GateRejection Unit)

/-- A gate call that has been started. -/
abbrev GateTask :=
  Task GateJob GateOp GateOp.Answer (Except GateRejection Unit)

/-- The numbered call has verified the envelope and returned success. -/
def Accepted {Store : Type} (state : GateState Store) (index : Nat) (envelope : UkmEnvelope) :
    Prop :=
  ∃ task config call,
    state.tasks[index]? = some task ∧
      task.job = .verify config call envelope ∧
      task.rest = .done (.ok ())

section

variable {Store : Type} {crypto : Crypto} {store : NonceStore Store} {index : Nat}

/-- A call becomes accepted only by inserting the keys of its envelope. -/
theorem Accepted.before {before after : GateState Store}
    (coherent : (gateMachine crypto store).Coherent before)
    (step : (gateMachine crypto store).Step before after)
    (accepted : Accepted after index envelope) : Accepted before index envelope ∨
      ∃ event, InsertsPaid envelope.nonce envelope.paymentProof.paymentHash event ∧
        store.effect before.shared event.operation event.answer after.shared ∧
        after.log = before.log ++ [⟨index, event⟩] := by
  obtain ⟨task, config, call, found, isVerify, finished⟩ := accepted
  cases step with
  | start job =>
    rcases getElem?_concat_eq_some found with old | ⟨rfl, rfl⟩
    · exact .inl ⟨task, config, call, old, isVerify, finished⟩
    obtain rfl : job = .verify config call envelope := isVerify
    have unfinished := config.verify_succeedsBy crypto call envelope
    rw [show (config.verify crypto call envelope).run = .done (.ok ()) from finished] at unfinished
    exact (unfinished rfl).elim
  | @perform performed old op next answer shared foundFormer live pending effect =>
    rcases getElem?_set_eq_some found with ⟨rfl, rfl⟩ | ⟨_, foundOther⟩
    · have reached := coherent.reaches _ old foundFormer
      rw [show old.job = .verify config call envelope from isVerify, pending] at reached
      rcases (config.verify_succeedsBy crypto call envelope).of_reaches reached with
        ⟨-, _, impossible, -⟩ | ⟨-, unfinished⟩
      · cases impossible
      rcases unfinished answer with ⟨inserted, -⟩ | ⟨-, stillUnfinished⟩
      · exact .inr ⟨_, inserted, effect, rfl⟩
      rw [show next answer = .done (.ok ()) from finished] at stillUnfinished
      exact (stillUnfinished rfl).elim
    · exact .inl ⟨task, config, call, foundOther, isVerify, finished⟩
  | @cancel cancelled old shared foundFormer live same =>
    rcases getElem?_set_eq_some found with ⟨rfl, rfl⟩ | ⟨_, foundOther⟩
    · exact .inl ⟨old, config, call, foundFormer, isVerify, finished⟩
    · exact .inl ⟨task, config, call, foundOther, isVerify, finished⟩
  | crash host same =>
    rw [List.getElem?_map, Option.map_eq_some_iff] at found
    obtain ⟨old, foundFormer, rfl⟩ := found
    have sameTask : ((gateMachine crypto store).survive host old).job = old.job ∧
      ((gateMachine crypto store).survive host old).rest = old.rest := by
      unfold survive
      split <;> simp
    exact .inl ⟨old, config, call, foundFormer, sameTask.1 ▸ isVerify, sameTask.2 ▸ finished⟩
  | ambient => exact .inl ⟨task, config, call, found, isVerify, finished⟩

theorem AtomicReplay.subset_of_step (replay : AtomicReplay store) {before after : GateState Store}
    (step : (gateMachine crypto store).Step before after) :
    replay.nonces before.shared ⊆ replay.nonces after.shared ∧
      replay.hashes before.shared ⊆ replay.hashes after.shared := by
  cases step with
  | start => exact ⟨subset_rfl, subset_rfl⟩
  | @perform index task op next answer shared found live pending effect =>
    let event : Event GateOp GateOp.Answer := ⟨op, answer⟩
    by_cases inserted : ∃ nonce paymentHash, InsertsPaid nonce paymentHash event
    · obtain ⟨nonce, paymentHash, inserted⟩ := inserted
      obtain ⟨-, -, sameNonces, sameHashes⟩ := @replay.inserts _ _ _ _ event effect inserted
      exact ⟨sameNonces ▸ Set.subset_insert _ _, sameHashes ▸ Set.subset_insert _ _⟩
    simp only [not_exists] at inserted
    obtain ⟨sameNonces, sameHashes⟩ := @replay.keeps _ _ event effect inserted
    exact ⟨sameNonces.ge, sameHashes.ge⟩
  | cancel _ _ same | crash _ same =>
    obtain rfl := same
    exact ⟨subset_rfl, subset_rfl⟩
  | ambient moved =>
    obtain ⟨sameNonces, sameHashes⟩ := replay.ambientKeeps moved
    exact ⟨sameNonces.ge, sameHashes.ge⟩

/-- Accepted envelopes are stored, and no two of them share a key. -/
structure ReplayInvariant (crypto : Crypto) {store : NonceStore Store} (replay : AtomicReplay store)
    (state : GateState Store) : Prop where
  coherent : (gateMachine crypto store).Coherent state
  stored : ∀ {index envelope},
    Accepted state index envelope →
      envelope.nonce ∈ replay.nonces state.shared ∧
        envelope.paymentProof.paymentHash ∈ replay.hashes state.shared
  exclusive : ∀ {first second firstEnvelope secondEnvelope},
    Accepted state first firstEnvelope →
    Accepted state second secondEnvelope →
    firstEnvelope.nonce = secondEnvelope.nonce ∨
      firstEnvelope.paymentProof.paymentHash = secondEnvelope.paymentProof.paymentHash →
      first = second

variable {replay : AtomicReplay store}

private theorem ReplayInvariant.absurd_of_stored
    {before : GateState Store} {shared : Store} {event : Event GateOp GateOp.Answer}
    {formerEnvelope newEnvelope : UkmEnvelope} (inv : ReplayInvariant crypto replay before)
    (old : Accepted before index formerEnvelope)
    (inserted : InsertsPaid newEnvelope.nonce newEnvelope.paymentProof.paymentHash event)
    (effect : store.effect before.shared event.operation event.answer shared)
    (sameKey : formerEnvelope.nonce = newEnvelope.nonce ∨
      formerEnvelope.paymentProof.paymentHash = newEnvelope.paymentProof.paymentHash) : False := by
  obtain ⟨nonceStored, hashStored⟩ := inv.stored old
  obtain ⟨freshNonce, freshHash, -, -⟩ := replay.inserts effect inserted
  rcases sameKey with sameNonce | sameHash
  · exact freshNonce (sameNonce ▸ nonceStored)
  · exact freshHash (sameHash ▸ hashStored)

theorem ReplayInvariant.step {before after : GateState Store}
    (inv : ReplayInvariant crypto replay before)
    (step : (gateMachine crypto store).Step before after) :
    ReplayInvariant crypto replay after where
  coherent := inv.coherent.step step
  stored := by
    intro _ _ accepted
    obtain ⟨nonceGrows, hashGrows⟩ := replay.subset_of_step step
    rcases accepted.before inv.coherent step with
      old | ⟨_, inserted, effect, -⟩
    · obtain ⟨nonceStored, hashStored⟩ := inv.stored old
      exact ⟨nonceGrows nonceStored, hashGrows hashStored⟩
    obtain ⟨-, -, sameNonces, sameHashes⟩ := replay.inserts effect inserted
    rw [sameNonces, sameHashes]
    exact ⟨Set.mem_insert _ _, Set.mem_insert _ _⟩
  exclusive := by
    intro _ _ _ _ firstAccepted secondAccepted sameKey
    rcases firstAccepted.before inv.coherent step with
      formerFirst | ⟨_, inserted, effect, logFirst⟩
    · rcases secondAccepted.before inv.coherent step with
        formerSecond | ⟨_, inserted, effect, -⟩
      · exact inv.exclusive formerFirst formerSecond sameKey
      · exact (inv.absurd_of_stored formerFirst inserted effect sameKey).elim
    rcases secondAccepted.before inv.coherent step with
      formerSecond | ⟨_, -, -, logSecond⟩
    · exact (inv.absurd_of_stored formerSecond inserted effect (sameKey.imp Eq.symm Eq.symm)).elim
    have sameEntry := logFirst.symm.trans logSecond
    simp only [List.append_cancel_left_eq, List.cons.injEq, Entry.mk.injEq] at sameEntry
    exact sameEntry.1.1

theorem replayInvariant_of_steps (replay : AtomicReplay store) {initial : Store}
    {state : GateState Store} (steps : (gateMachine crypto store).Steps (idle initial) state) :
    ReplayInvariant crypto replay state := by
  refine invariant_of_steps (fun _ _ inv step => inv.step step) ?_ steps
  refine ⟨coherent_idle _ initial, ?_, ?_⟩
  · rintro _ _ ⟨_, _, _, found, -⟩
    simp [idle] at found
  · rintro _ _ _ _ ⟨_, _, _, found, -⟩
    simp [idle] at found

/--
In every interleaving of gate calls on an atomic replay store, a nonce and a
payment hash are accepted by at most one call each, and none of the store
operations of a rejected call has inserted a key.
-/
theorem verify_exclusive (replay : AtomicReplay store) {initial : Store} {state : GateState Store}
    (steps : (gateMachine crypto store).Steps (idle initial) state) :
    (∀ first second firstEnvelope secondEnvelope, Accepted state first firstEnvelope →
      Accepted state second secondEnvelope →
      firstEnvelope.nonce = secondEnvelope.nonce → first = second) ∧
      (∀ first second firstEnvelope secondEnvelope, Accepted state first firstEnvelope →
        Accepted state second secondEnvelope →
        firstEnvelope.paymentProof.paymentHash = secondEnvelope.paymentProof.paymentHash →
          first = second) ∧ ∀ (index : Nat) (task : GateTask) config arguments envelope rejection,
        state.tasks[index]? = some task → task.job = .verify config arguments envelope →
        task.rest = .done (.error rejection) → ∀ event ∈ task.past, ∀ before after,
          store.effect before event.operation event.answer after →
            replay.nonces after = replay.nonces before ∧
              replay.hashes after = replay.hashes before := by
  have invariant := replayInvariant_of_steps replay steps
  refine ⟨?_, ?_, ?_⟩
  · intro _ _ _ _ firstAccepted secondAccepted sameNonce
    exact invariant.exclusive firstAccepted secondAccepted (.inl sameNonce)
  · intro _ _ _ _ firstAccepted secondAccepted sameHash
    exact invariant.exclusive firstAccepted secondAccepted (.inr sameHash)
  intro index task config arguments envelope _ found isVerify
    rejected event member before after effect
  have reached := invariant.coherent.reaches index task found
  rw [isVerify, rejected] at reached
  have noCommit : ¬ InsertsPaid envelope.nonce envelope.paymentProof.paymentHash event := by
    rcases (config.verify_succeedsBy crypto arguments envelope).of_reaches reached with
      ⟨-, _, sameResult, rfl⟩ | ⟨noCommit, -⟩
    · cases sameResult
    · exact noCommit event member
  have ownKeys := (config.performs_verify crypto arguments envelope).mem_history
    reached event member
  refine replay.keeps effect fun nonce paymentHash inserted => ?_
  obtain ⟨sender, messageId, rfl⟩ := inserted
  obtain ⟨rfl, rfl, -, -⟩ := ownKeys
  exact noCommit ⟨sender, messageId, rfl⟩

end

/-- The in-memory replay store of the gate's own tests. -/
structure MemoryStore where
  quotedPriceMsat : Option UInt64
  seen : List Nonce
  seenPaymentHashes : List PaymentHash
  outstandingWeb : PaymentHash → Option OutstandingWebRequest

namespace MemoryStore

open GateConfig (constantCrypto zeroCall zeroEnvelope)

def empty : MemoryStore where
  quotedPriceMsat := none
  seen := []
  seenPaymentHashes := []
  outstandingWeb _ := none

variable (store : MemoryStore) (nonce : Nonce) (paymentHash : PaymentHash)

/-- The replay answer for two keys. -/
def replay : PaidReplay :=
  if nonce ∈ store.seen then .nonceReused
  else if paymentHash ∈ store.seenPaymentHashes then .paymentReused
  else .accepted

/-- The store after the replay answer for two keys. -/
def checkAndStorePaid : MemoryStore :=
  if store.replay nonce paymentHash = .accepted then
    { store with
      seen := nonce :: store.seen, seenPaymentHashes := paymentHash :: store.seenPaymentHashes }
  else store

/-- The operations of the store; other providers answer anything. -/
def nonceStore : NonceStore MemoryStore where
  effect before operation answer after :=
    match operation with
    | .isPaidEnvelopeAccepted _ => answer = .ok false ∧ after = before
    | .takeOutstandingWebRequest paymentHash =>
      answer = .ok (before.outstandingWeb paymentHash) ∧
        after =
          { before with outstandingWeb := Function.update before.outstandingWeb paymentHash none }
    | .recordOutgoingWebRequest paymentHash request =>
      answer = .ok () ∧
        after =
          { before with
            outstandingWeb := Function.update before.outstandingWeb paymentHash (some request) }
    | .deliveryPriceFloor _ _ _ => answer = .ok before.quotedPriceMsat ∧ after = before
    | .checkAndStorePaid nonce paymentHash _ _ =>
      answer = .ok (before.replay nonce paymentHash) ∧
        after = before.checkAndStorePaid nonce paymentHash
    | .now | .getPriceMsat _ | .isFundingPayment _ | .getPaymentStatus _ => after = before
  ambient before after := after = before

/-- The in-memory store keeps the replay contract. -/
def atomicReplay : AtomicReplay nonceStore where
  nonces store := {nonce | nonce ∈ store.seen}
  hashes store := {paymentHash | paymentHash ∈ store.seenPaymentHashes}
  inserts := by
    rintro before after nonce paymentHash event effect ⟨sender, messageId, rfl⟩
    obtain ⟨answered, rfl⟩ := effect
    have accepted : before.replay nonce paymentHash = .accepted := by
      simpa using answered.symm
    have fresh : nonce ∉ before.seen ∧ paymentHash ∉ before.seenPaymentHashes := by
      unfold replay at accepted
      split_ifs at accepted with usedNonce usedHash
      exact ⟨usedNonce, usedHash⟩
    refine ⟨fresh.1, fresh.2, ?_, ?_⟩ <;> ext key <;> simp [checkAndStorePaid, accepted]
  keeps := by
    rintro before after ⟨operation, answer⟩ effect notInserted
    cases operation with
    | checkAndStorePaid nonce paymentHash sender messageId =>
      obtain ⟨rfl, rfl⟩ := effect
      have refused : before.replay nonce paymentHash ≠ .accepted := by
        intro accepted
        exact notInserted nonce paymentHash ⟨sender, messageId, by rw [accepted]⟩
      simp [checkAndStorePaid, refused]
    | now | getPriceMsat _ | isFundingPayment _ | getPaymentStatus _ =>
      obtain rfl := effect
      exact ⟨rfl, rfl⟩
    | isPaidEnvelopeAccepted _ | takeOutstandingWebRequest _
    | recordOutgoingWebRequest _ _ | deliveryPriceFloor _ _ _ =>
      obtain ⟨-, rfl⟩ := effect
      exact ⟨rfl, rfl⟩
  ambientKeeps := by
    rintro before _ rfl
    exact ⟨rfl, rfl⟩

/-- The history of an envelope with a claimed payment of one sat, up to the store's answer. -/
def answeredHistory (answer : PaidReplay) : GateHistory :=
  [⟨.now, (0 : UInt64)⟩,
    ⟨.isPaidEnvelopeAccepted (zeroEnvelope 0 1000 []), .ok false⟩,
    ⟨.getPriceMsat 0, .ok 1000⟩,
    ⟨.checkAndStorePaid ⟨.replicate 24 0⟩ (.replicate 32 0)
      ⟨.replicate 32 0⟩ ⟨.replicate 32 0⟩,
      .ok answer⟩]

/-- Of two calls with one envelope the second is refused and stores nothing. -/
theorem verify_exclusive_memoryStore :
    ∃ (state : GateState MemoryStore) (refused : GateTask),
      (gateMachine constantCrypto nonceStore).Steps (idle empty) state ∧
      Accepted state 0 (zeroEnvelope 0 1000 []) ∧ state.tasks[1]? = some refused ∧
      refused.job = .verify {} zeroCall (zeroEnvelope 0 1000 []) ∧
      (∀ second envelope, Accepted state second envelope →
        envelope.nonce = (zeroEnvelope 0 1000 []).nonce → second = 0) ∧
      ∀ event ∈ refused.past, ∀ before after,
        nonceStore.effect before event.operation event.answer after →
          atomicReplay.nonces after = atomicReplay.nonces before := by
  let job : GateJob := .verify {} zeroCall (zeroEnvelope 0 1000 [])
  have accepts : Reaches (job.program constantCrypto).run (answeredHistory .accepted)
    (.done (.ok ())) :=
    .call (.call (.call (.call (.refl _))))
  have refuses : Reaches (job.program constantCrypto).run (answeredHistory .nonceReused)
    (.done (.error .replayDetected)) :=
    .call (.call (.call (.call (.refl _))))
  have first := @Machine.steps_run _ _ _ _ _ _ _ (gateMachine constantCrypto nonceStore)
    (idle empty) job _ _ _ accepts
    (.cons rfl (.cons ⟨rfl, rfl⟩ (.cons rfl (.cons ⟨rfl, rfl⟩ (.nil _)))))
  have steps := first.trans (@Machine.steps_run _ _ _ _ _ _ _ _ _ job _ _ _ refuses
    (.cons rfl (.cons ⟨rfl, rfl⟩ (.cons rfl (.cons ⟨rfl, rfl⟩ (.nil _))))))
  obtain ⟨exclusive, -, unchanged⟩ := verify_exclusive atomicReplay steps
  refine ⟨_, _, steps, ⟨_, {}, zeroCall, rfl, rfl, rfl⟩, rfl, rfl, ?_, ?_⟩
  · intro second envelope other sameNonce
    exact exclusive second 0 envelope _ other ⟨_, {}, zeroCall, rfl, rfl, rfl⟩ sameNonce
  · intro event member before after effect
    exact (unchanged 1 _ _ _ _ _ rfl rfl rfl event member before after effect).1

end MemoryStore

end BitSov.Core
