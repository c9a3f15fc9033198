import BitSov.Core.GateReplay

namespace BitSov.Core

/-!
# Free web replies

A page or manifest reply carries no payment of its own. It is admitted by
taking an outstanding request, which the store hands out at most once. The log
of a run shows for every request that has been taken the call that recorded
it, and nothing that touches the same payment hash in between.
-/

open Process Program Fallible GateConfig Machine

variable {request : OutstandingWebRequest} {entry : Entry GateOp GateOp.Answer}
  {paymentHash : PaymentHash} {log : GateLog}

abbrev GateLog :=
  List (Entry GateOp GateOp.Answer)

def Records (paymentHash : PaymentHash) (request : OutstandingWebRequest)
    (entry : Entry GateOp GateOp.Answer) : Prop :=
  entry.event.operation = .recordOutgoingWebRequest paymentHash request

def Takes (paymentHash : PaymentHash) (request : OutstandingWebRequest)
    (entry : Entry GateOp GateOp.Answer) : Prop :=
  entry.event = ⟨.takeOutstandingWebRequest paymentHash, .ok (some request)⟩

/--
The log entry at `taken` takes the request that the entry at `recorded` has
recorded; no entry in between takes a request from the same payment hash.
-/
structure Consumes (log : GateLog) (recorded taken : Nat) (paymentHash : PaymentHash)
    (request : OutstandingWebRequest) : Prop where
  before : recorded < taken
  records : ∃ entry ∈ log[recorded]?, Records paymentHash request entry
  takes : ∃ entry ∈ log[taken]?, Takes paymentHash request entry
  untaken : ∀ between : Nat,
    recorded < between →
    between < taken →
    ∀ entry ∈ log[between]?, ∀ other, ¬ Takes paymentHash other entry

/--
The contract of an atomic take: a request that is handed out is the one the
store holds, and it is gone afterwards. Requests appear only by being
recorded; a store may drop requests at any time.
-/
structure AtomicTake {Store : Type} (store : NonceStore Store) where
  outstanding : Store → PaymentHash → Option OutstandingWebRequest
  hands : ∀ {before after paymentHash request},
    store.effect before (.takeOutstandingWebRequest paymentHash)
      (.ok (some request)) after →
      outstanding before paymentHash = some request ∧ outstanding after paymentHash = none
  appears : ∀ {before after operation answer paymentHash request},
    store.effect before operation answer after →
    outstanding after paymentHash = some request →
      outstanding before paymentHash = some request ∨
        operation = .recordOutgoingWebRequest paymentHash request
  ambientAppears :
    ∀ {before after paymentHash request},
      store.ambient before after →
      outstanding after paymentHash = some request → outstanding before paymentHash = some request

/-- A request held by the store has been recorded and not been taken since. -/
def HeldSince (log : GateLog) (paymentHash : PaymentHash) (request : OutstandingWebRequest) :
    Prop :=
  ∃ recorded : Nat,
    (∃ entry ∈ log[recorded]?, Records paymentHash request entry) ∧
      ∀ later : Nat, recorded < later →
        ∀ entry ∈ log[later]?, ∀ other, ¬ Takes paymentHash other entry

theorem Consumes.append (consumes : Consumes log recorded taken paymentHash request) (entry) :
    Consumes (log ++ [entry]) recorded taken paymentHash request := by
  obtain ⟨_, foundTaken, takes⟩ := consumes.takes
  have bound := (List.getElem?_eq_some_iff.mp foundTaken).1
  have same : ∀ position : Nat, position ≤ taken → (log ++ [entry])[position]? = log[position]? :=
    fun position _ => List.getElem?_append_left (by omega)
  refine ⟨consumes.before, ?_, ?_, ?_⟩
  · rw [same recorded (by have := consumes.before; omega)]
    exact consumes.records
  · rw [same taken le_rfl]
    exact consumes.takes
  intro between afterRecord beforeTake
  rw [same between (by omega)]
  exact consumes.untaken between afterRecord beforeTake

theorem HeldSince.append (held : HeldSince log paymentHash request)
    (untaken : ∀ other, ¬ Takes paymentHash other entry) :
    HeldSince (log ++ [entry]) paymentHash request := by
  obtain ⟨recorded, ⟨recordEntry, foundRecord, records⟩, quiet⟩ := held
  have bound := (List.getElem?_eq_some_iff.mp foundRecord).1
  refine ⟨recorded, ⟨recordEntry, ?_, records⟩, ?_⟩
  · exact (List.getElem?_append_left bound).trans foundRecord
  intro later afterRecord other foundOther
  rcases getElem?_concat_eq_some foundOther with old | ⟨-, rfl⟩
  · exact quiet later afterRecord other old
  · exact untaken

theorem HeldSince.consumes (held : HeldSince log paymentHash request)
    (takes : Takes paymentHash request entry) :
    ∃ recorded, Consumes (log ++ [entry]) recorded log.length paymentHash request := by
  obtain ⟨recorded, ⟨recordEntry, foundRecord, records⟩, quiet⟩ := held
  have bound := (List.getElem?_eq_some_iff.mp foundRecord).1
  refine ⟨recorded, bound, ⟨recordEntry, ?_, records⟩, ⟨entry, by simp, takes⟩, ?_⟩
  · exact (List.getElem?_append_left bound).trans foundRecord
  intro between afterRecord beforeTake other foundOther
  rw [List.getElem?_append_left beforeTake] at foundOther
  exact quiet between afterRecord other foundOther

theorem Consumes.taken_unique (firstConsumes : Consumes log recorded first firstHash firstRequest)
    (secondConsumes : Consumes log recorded second secondHash secondRequest) : first = second := by
  obtain ⟨_, foundFirst, firstRecords⟩ := firstConsumes.records
  obtain ⟨_, foundSecond, secondRecords⟩ := secondConsumes.records
  cases foundFirst.symm.trans foundSecond
  obtain ⟨rfl, rfl⟩ : firstHash = secondHash ∧ firstRequest = secondRequest := by
    simpa using firstRecords.symm.trans secondRecords
  obtain ⟨firstTake, foundFirstTake, firstTakes⟩ := firstConsumes.takes
  obtain ⟨secondTake, foundSecondTake, secondTakes⟩ := secondConsumes.takes
  rcases Nat.lt_trichotomy first second with prior | same | later
  · exact (secondConsumes.untaken first firstConsumes.before prior firstTake
      foundFirstTake firstRequest firstTakes).elim
  · exact same
  · exact (firstConsumes.untaken second secondConsumes.before later secondTake
      foundSecondTake firstRequest secondTakes).elim

/-- Held requests are recorded, and taken requests have been held. -/
structure SlotInvariant {Store : Type} (crypto : Crypto) {store : NonceStore Store}
    (slots : AtomicTake store) (state : GateState Store) : Prop where
  coherent : (gateMachine crypto store).Coherent state
  held : ∀ {paymentHash request},
    slots.outstanding state.shared paymentHash = some request →
      HeldSince state.log paymentHash request
  consumed : ∀ {taken : Nat} {entry paymentHash request},
    state.log[taken]? = some entry →
    Takes paymentHash request entry →
      ∃ recorded, Consumes state.log recorded taken paymentHash request

section

variable {Store : Type} {crypto : Crypto} {store : NonceStore Store} {slots : AtomicTake store}

private theorem SlotInvariant.perform {before : GateState Store}
    (inv : SlotInvariant crypto slots before) {entry : Entry GateOp GateOp.Answer} {shared : Store}
    (effect : store.effect before.shared entry.event.operation entry.event.answer shared) :
    (∀ {paymentHash request}, slots.outstanding shared paymentHash = some request →
      HeldSince (before.log ++ [entry]) paymentHash request) ∧
      ∀ {taken : Nat} {other paymentHash request}, (before.log ++ [entry])[taken]? = some other →
        Takes paymentHash request other →
          ∃ recorded, Consumes (before.log ++ [entry]) recorded taken paymentHash request := by
  obtain ⟨_, _, _⟩ := entry
  constructor
  · intro _ _ stillHeld
    rcases slots.appears effect stillHeld with old | recorded
    · refine (inv.held old).append ?_
      intro _ taken
      cases taken
      have gone := (slots.hands effect).2
      simp [stillHeld] at gone
    · refine ⟨before.log.length, ⟨_, by simp, recorded⟩, ?_⟩
      intro _ _ _ foundOther
      rcases getElem?_concat_eq_some foundOther with old | ⟨rfl, -⟩
      · have bound := (List.getElem?_eq_some_iff.mp old).1
        omega
      · omega
  · intro taken _ _ _ found takes
    rcases getElem?_concat_eq_some found with old | ⟨rfl, rfl⟩
    · obtain ⟨recorded, consumes⟩ := inv.consumed old takes
      exact ⟨recorded, consumes.append _⟩
    have handed := takes
    cases handed
    exact (inv.held (slots.hands effect).1).consumes takes

theorem SlotInvariant.step {before after : GateState Store}
    (inv : SlotInvariant crypto slots before)
    (step : (gateMachine crypto store).Step before after) : SlotInvariant crypto slots after := by
  have coherent := inv.coherent.step step
  cases step with
  | start => exact ⟨coherent, inv.held, inv.consumed⟩
  | @perform index task op next answer shared found live pending effect =>
    obtain ⟨held, consumed⟩ := @SlotInvariant.perform _ _ _ _ _ inv
      ⟨index, op, answer⟩ shared effect
    exact ⟨coherent, held, consumed⟩
  | cancel _ _ same | crash _ same =>
    obtain rfl := same
    exact ⟨coherent, inv.held, inv.consumed⟩
  | ambient moved =>
    exact ⟨coherent, fun stillHeld => inv.held (slots.ambientAppears moved stillHeld), inv.consumed⟩

theorem slotInvariant_of_steps (slots : AtomicTake store) {initial : Store}
    {state : GateState Store}
    (noRequests : ∀ paymentHash, slots.outstanding initial paymentHash = none)
    (steps : (gateMachine crypto store).Steps (idle initial) state) :
    SlotInvariant crypto slots state := by
  refine invariant_of_steps (fun _ _ inv step => inv.step step) ?_ steps
  refine ⟨coherent_idle _ initial, ?_, ?_⟩
  · intro _ _ impossible
    simp [idle, noRequests] at impossible
  · intro _ _ _ _ found
    simp [idle] at found

/--
The numbered call has taken the request recorded at a log position, which
names the sender, the kind and a reference of the envelope and has not been
expired at the call's reading of the clock.
-/
def AdmittedBy (state : GateState Store) (recorded index : Nat) (envelope : UkmEnvelope) : Prop :=
  ∃ taken nowMs request,
    Consumes state.log recorded taken envelope.paymentProof.paymentHash
      request ∧
      (∃ entry ∈ state.log[taken]?, entry.task = index) ∧
      ⟨.now, nowMs⟩ ∈ pastOf index state.log ∧
      request.peer = envelope.sender ∧
      request.expectedReplyKind = envelope.kind ∧
      request.requestId ∈ envelope.references ∧
      nowMs ≤ request.expiresAtMs

/--
In every interleaving of gate calls and recordings on a store with atomic
takes, an accepted envelope that pays nothing and was no known receipt has
consumed a matching recorded request, and a recorded request admits at most
one call.
-/
theorem verify_zero_amount_consumes (slots : AtomicTake store) {initial : Store}
    {state : GateState Store}
    (noRequests : ∀ paymentHash, slots.outstanding initial paymentHash = none)
    (steps : (gateMachine crypto store).Steps (idle initial) state) :
    (∀ index envelope, Accepted state index envelope → envelope.paymentProof.amountMsat = 0 →
      ⟨.isPaidEnvelopeAccepted envelope, .ok true⟩ ∉ pastOf index state.log →
        ∃ recorded, AdmittedBy state recorded index envelope) ∧
      ∀ recorded first second firstEnvelope secondEnvelope,
        AdmittedBy state recorded first firstEnvelope →
        AdmittedBy state recorded second secondEnvelope → first = second := by
  have invariant := slotInvariant_of_steps slots noRequests steps
  constructor
  · rintro index envelope ⟨task, _, _, found, isVerify, finished⟩ free unknown
    have reached := invariant.coherent.reaches index task found
    rw [isVerify, finished, invariant.coherent.past_eq index task found] at reached
    obtain ⟨_, _, duplicate, samePast, reachedValidation, -⟩ := reaches_bind_ok reached
    obtain ⟨nowMs, _, rfl, -, admission⟩ := validatePaidEnvelopeInner_ok reachedValidation
    obtain rfl : duplicate = false := by
      cases duplicate with
      | false => rfl
      | true =>
        rw [samePast] at unknown
        simp at unknown
    rcases admission rfl with
      ⟨-, request, _, rfl, matching⟩ | ⟨_, _, rfl, reachedPaid⟩
    · unfold replyMatchesOutstanding at matching
      split at matching
      · cases matching
      next expired =>
      have unexpired := UInt64.not_lt.mp expired
      simp only [ne_eq, List.contains_eq_mem, ite_not, Bool.if_false_right, Bool.and_eq_true,
        decide_eq_true_eq] at matching
      obtain ⟨samePeer, sameKind, referenced⟩ := matching
      have takeLogged : ⟨index, ⟨.takeOutstandingWebRequest envelope.paymentProof.paymentHash,
        .ok (some request)⟩⟩ ∈ state.log :=
        mem_pastOf_iff.mp (by rw [samePast]; simp)
      obtain ⟨taken, foundTake⟩ := List.mem_iff_getElem?.mp takeLogged
      obtain ⟨recorded, consumes⟩ := invariant.consumed foundTake rfl
      exact ⟨recorded, taken, nowMs, request, consumes, ⟨_, foundTake, rfl⟩,
        by rw [samePast]; simp, samePeer.symm, sameKind.symm, referenced,
        unexpired⟩
    · have paidAmount := le_amountMsat_of_checkPaid reachedPaid
      rw [free] at paidAmount
      exact absurd paidAmount (by decide)
  · rintro recorded _ _ _ _ ⟨firstTaken, _, _, firstConsumes, ⟨firstEntry, foundFirst, rfl⟩, -⟩
      ⟨secondTaken, _, _, secondConsumes, ⟨secondEntry, foundSecond, rfl⟩, -⟩
    obtain rfl := firstConsumes.taken_unique secondConsumes
    cases foundFirst.symm.trans foundSecond
    rfl

end

namespace MemoryStore

/-- The in-memory store hands out each outstanding request once. -/
def atomicTake : AtomicTake nonceStore where
  outstanding store := store.outstandingWeb
  hands := by
    rintro before after paymentHash request ⟨answered, rfl⟩
    exact ⟨(Except.ok.inj answered).symm, by simp⟩
  appears := by
    intro before after operation answer paymentHash request effect held
    cases operation with
    | takeOutstandingWebRequest takenHash =>
      obtain ⟨-, rfl⟩ := effect
      obtain rfl | ne := eq_or_ne paymentHash takenHash
      · simp at held
      · exact .inl (by simpa [ne] using held)
    | recordOutgoingWebRequest recordedHash recordedRequest =>
      obtain ⟨-, rfl⟩ := effect
      obtain rfl | ne := eq_or_ne paymentHash recordedHash
      · obtain rfl : recordedRequest = request := by simpa using held
        exact .inr rfl
      · exact .inl (by simpa [ne] using held)
    | checkAndStorePaid nonce otherHash sender messageId =>
      obtain ⟨-, rfl⟩ := effect
      unfold checkAndStorePaid at held
      split at held <;> exact .inl held
    | isPaidEnvelopeAccepted _ | deliveryPriceFloor _ _ _ =>
      obtain ⟨-, rfl⟩ := effect
      exact .inl held
    | now | getPriceMsat _ | isFundingPayment _ | getPaymentStatus _ =>
      obtain rfl := effect
      exact .inl held
  ambientAppears := by
    rintro before _ _ _ rfl held
    exact held

/-- A manifest request to the all-zero node under the all-zero message id. -/
def manifestRequest : OutstandingWebRequest where
  requestId := ⟨.replicate 32 0⟩
  peer := ⟨.replicate 32 0⟩
  expectedReplyKind := kindWebManifest
  expiresAtMs := 1000

/-- The free reply to the manifest request. -/
def manifestReply : UkmEnvelope :=
  zeroEnvelope kindWebManifest 0 [⟨.replicate 32 0⟩]

/-- The history of the free reply after its request has been recorded. -/
def replyHistory : GateHistory :=
  [⟨.now, (7 : UInt64)⟩,
    ⟨.isPaidEnvelopeAccepted manifestReply, .ok false⟩,
    ⟨.takeOutstandingWebRequest (.replicate 32 0), .ok (some manifestRequest)⟩,
    ⟨.checkAndStorePaid ⟨.replicate 24 0⟩ (.replicate 32 0)
      ⟨.replicate 32 0⟩ ⟨.replicate 32 0⟩,
      .ok .accepted⟩]

theorem verify_zero_amount_consumes_manifestReply :
    ∃ state, (gateMachine constantCrypto nonceStore).Steps (idle empty) state ∧
      Accepted state 1 manifestReply ∧ ∃ recorded, AdmittedBy state recorded 1 manifestReply := by
  let machine := gateMachine constantCrypto nonceStore
  let recordJob : GateJob := .recordOutgoingWebRequest (.replicate 32 0) manifestRequest
  let replyJob : GateJob := .verify {} zeroCall manifestReply
  have recorded : Reaches (recordJob.program constantCrypto).run
    [⟨.recordOutgoingWebRequest (.replicate 32 0) manifestRequest, .ok ()⟩]
    (.done (.ok ())) :=
    .call (.refl _)
  have replied : Reaches (replyJob.program constantCrypto).run replyHistory (.done (.ok ())) :=
    .call (.call (.call (.call (.refl _))))
  have recordSteps := @Machine.steps_run _ _ _ _ _ _ _ machine (idle empty) recordJob
    _ _ _ recorded (.cons ⟨rfl, rfl⟩ (.nil _))
  have steps := recordSteps.trans (@Machine.steps_run _ _ _ _ _ _ _ machine _ replyJob _ _ _ replied
    (.cons rfl (.cons ⟨rfl, rfl⟩ (.cons ⟨rfl, rfl⟩ (.cons ⟨rfl, rfl⟩ (.nil _))))))
  refine ⟨_, steps, ⟨_, {}, zeroCall, rfl, rfl, rfl⟩, ?_⟩
  exact (verify_zero_amount_consumes atomicTake (fun _ => rfl) steps).1 1
    manifestReply ⟨_, {}, zeroCall, rfl, rfl, rfl⟩ rfl
    (by simp [idle, replyHistory, pastOf])

end MemoryStore

end BitSov.Core
