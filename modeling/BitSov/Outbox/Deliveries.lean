import BitSov.Outbox.Row
import BitSov.Relational.Table

namespace BitSov.Outbox

open Relational

/-!
# Deliveries of paid messages

A delivery is one message queued for one peer.  It is dispatched, and then the
peer acknowledges or rejects it, as often and in any order it likes.  Each
answer updates the row of the delivery under a guard, and the rows of its
operation only if that guard has held.
-/

inductive DeliveryState where
  | pending
  | failedPaid
  deriving Repr, DecidableEq

/-- A row of `pending_deliveries`, keyed by the message and the recipient. -/
structure PendingDelivery where
  state : DeliveryState
  dispatched : Bool
  (retryAfterMs attempts : Nat)
  rejectionReason : Option String
  deriving Repr, DecidableEq

/-- An answer to the delivery can still take effect. -/
def PendingDelivery.answerable (row : PendingDelivery) : Bool :=
  row.dispatched && row.state ≠ .failedPaid

/-- The delivery was dispatched and not rejected since. -/
def PendingDelivery.rejectable (row : PendingDelivery) : Bool :=
  row.answerable && row.retryAfterMs = 0

open PendingDelivery (answerable rejectable)

/-- The columns of `messages` that an answer is checked against. -/
structure StoredMessage where
  (sender paymentHash : String)
  deriving Repr, DecidableEq

structure DeliveryStore where
  messages : Table String StoredMessage
  deliveries : Table (String × String) PendingDelivery
  operations : Table String OutboxOperation

/-- An operation whose message may still be answered. -/
def OperationState.awaitsAnswer (state : OperationState) : Bool :=
  state = .paid || state = .sent || state = .rejectedRetryable

namespace DeliveryStore

variable (store : DeliveryStore) (now : Nat) (id peer : String) (condition : PendingDelivery → Bool)

/-- The row of a delivery meets the conditions of a statement. -/
def selects : Bool :=
  (store.deliveries.lookup (id, peer)).any condition

def updateDelivery (change : PendingDelivery → PendingDelivery) : DeliveryStore :=
  { store with
    deliveries := store.deliveries.updateWhere (fun key row => key = (id, peer) && condition row)
      change }

def updateOperations (states : OperationState → Bool)
    (change : OutboxOperation → OutboxOperation) : DeliveryStore :=
  { store with
    operations := store.operations.updateWhere
      (fun _ op => op.messageId = some id && op.recipient = peer && states op.state)
      change }

def markPendingSent : Except String Unit × DeliveryStore :=
  let eligible (row : PendingDelivery) : Bool :=
    row.state ≠ .failedPaid && row.retryAfterMs ≤ now * 1000
  if store.selects id peer eligible then
    (.ok (), (store.updateDelivery id peer eligible fun row =>
      { row with dispatched := true, retryAfterMs := 0 }).updateOperations id peer
      OperationState.awaitsAnswer fun op =>
        { op with
          state := if op.state = .rejectedRetryable then .paid else op.state
          version := op.version + 1
          updatedAt := now * 1000
          attempts := op.attempts + 1 })
  else (.error "delivery is not eligible for dispatch", store)

def recordOutboxSent : DeliveryStore :=
  store.updateOperations id peer (fun state => state = .paid || state = .sent) fun op =>
    { op with
      state := .sent, lastSentAt := some (now * 1000), updatedAt := now * 1000,
      version := op.version + 1 }

def rejectPending (id peer sender reason : String) (terminal : Bool) : Bool × DeliveryStore :=
  if store.selects id peer rejectable &&
    (store.messages.lookup id).any (·.sender = sender) then
    (true, (store.updateDelivery id peer rejectable fun row =>
      { row with
        state := if terminal then .failedPaid else .pending
        rejectionReason := some reason
        retryAfterMs := now * 1000 + min 3600000 (60000 * 2 ^ min row.attempts 6)
        attempts := row.attempts + 1 }).updateOperations id peer
      OperationState.awaitsAnswer fun op =>
        { op with
          state := if terminal then .failedPaid else .rejectedRetryable
          lastError := some reason
          version := op.version + 1
          updatedAt := now * 1000 })
  else (false, store)

/-- The body of both acknowledgements, which check the message differently. -/
def acknowledge (matched : StoredMessage → Bool) : Bool × DeliveryStore :=
  if store.selects id peer answerable && (store.messages.lookup id).any matched then
    (true, ({ store with
      deliveries := store.deliveries.deleteWhere
        fun key row => key = (id, peer) && row.answerable } : DeliveryStore).updateOperations
      id peer OperationState.awaitsAnswer fun op =>
        { op with state := .acked, version := op.version + 1, updatedAt := now * 1000 })
  else (false, store)

def acknowledgePending (id peer sender : String) : Bool × DeliveryStore :=
  store.acknowledge now id peer (·.sender = sender)

def acknowledgePendingPayment (id peer sender hash : String) : Bool × DeliveryStore :=
  store.acknowledge now id peer fun message => message.sender = sender && message.paymentHash = hash

end DeliveryStore

inductive DeliveryCall where
  | markPendingSent (id peer : String)
  | recordOutboxSent (id peer : String)
  | rejectPending (id peer sender reason : String) (terminal : Bool)
  | acknowledgePending (id peer sender : String)
  | acknowledgePendingPayment (id peer sender hash : String)
  deriving Repr, DecidableEq

namespace DeliveryCall

def dispatches (id peer : String) : DeliveryCall → Bool
  | .markPendingSent callId callPeer => callId = id && callPeer = peer
  | _ => false

def rejects (id peer : String) : DeliveryCall → Bool
  | .rejectPending callId callPeer _ _ _ => callId = id && callPeer = peer
  | _ => false

def acknowledges (id peer : String) : DeliveryCall → Bool
  | .acknowledgePending callId callPeer _ => callId = id && callPeer = peer
  | .acknowledgePendingPayment callId callPeer _ _ => callId = id && callPeer = peer
  | _ => false

/-- A rejection after which the delivery is not tried again. -/
def isTerminal : DeliveryCall → Bool
  | .rejectPending _ _ _ _ terminal => terminal
  | _ => false

end DeliveryCall

open DeliveryCall (acknowledges dispatches rejects)

namespace DeliveryStore

/-- Perform a call and say whether it has taken effect. -/
def perform (store : DeliveryStore) (now : Nat) : DeliveryCall → Bool × DeliveryStore
  | .markPendingSent id peer =>
    ((store.markPendingSent now id peer).1.isOk, (store.markPendingSent now id peer).2)
  | .recordOutboxSent id peer => (true, store.recordOutboxSent now id peer)
  | .rejectPending id peer sender reason terminal =>
    store.rejectPending now id peer sender reason terminal
  | .acknowledgePending id peer sender => store.acknowledgePending now id peer sender
  | .acknowledgePendingPayment id peer sender hash =>
    store.acknowledgePendingPayment now id peer sender hash

def performAll : DeliveryStore → List (Nat × DeliveryCall) → DeliveryStore
  | store, [] => store
  | store, (now, call) :: rest => (store.perform now call).2.performAll rest

/-- The number of calls of a kind that take effect in a run. -/
def taken (kind : DeliveryCall → Bool) : DeliveryStore → List (Nat × DeliveryCall) → Nat
  | _, [] => 0
  | store, (now, call) :: rest =>
    (kind call && (store.perform now call).1).toNat + (store.perform now call).2.taken kind rest

/-- What a call does to a delivery. -/
inductive RowStep (id peer : String) (call : DeliveryCall) :
    Bool → Option PendingDelivery → Option PendingDelivery → Prop
  | untouched {effect : Bool} (row : Option PendingDelivery)
      (unanswered : effect = true → (call.rejects id peer || call.acknowledges id peer) = false) :
      RowStep id peer call effect row row
  | dispatched {row : PendingDelivery} (dispatches : call.dispatches id peer = true)
      (alive : row.state ≠ .failedPaid) :
      RowStep id peer call true (some row) (some { row with dispatched := true, retryAfterMs := 0 })
  | rejected {row next : PendingDelivery} (rejects : call.rejects id peer = true)
      (alive : row.state ≠ .failedPaid) (rejectable : row.rejectable = true)
    (later : next.retryAfterMs ≠ 0) (terminal : call.isTerminal = true → next.state = .failedPaid) :
      RowStep id peer call true (some row) (some next)
  | acknowledged {row : PendingDelivery} (acknowledges : call.acknowledges id peer = true)
      (alive : row.state ≠ .failedPaid) : RowStep id peer call true (some row) none

variable {store : DeliveryStore} {now : Nat} {call : DeliveryCall} {id peer : String}

theorem selects_eq_true : store.selects id peer condition ↔
      ∃ row, store.deliveries.lookup (id, peer) = some row ∧ condition row := by
  simp [selects, Option.any_eq_true]

@[simp] theorem deliveries_updateOperations :
    (store.updateOperations id peer states change).deliveries = store.deliveries := rfl

theorem lookup_updateDelivery {row : PendingDelivery} {change : PendingDelivery → PendingDelivery}
    (found : store.deliveries.lookup (id, peer) = some row) (met : condition row) :
    (store.updateDelivery id peer condition change).deliveries.lookup (id, peer) =
      some (change row) := by
  simp [updateDelivery, found, met]

theorem lookup_updateDelivery_of_ne {key : String × String}
    {change : PendingDelivery → PendingDelivery} (other : key ≠ (id, peer)) :
    (store.updateDelivery id peer condition change).deliveries.lookup key =
      store.deliveries.lookup key := by
  simp [updateDelivery, other]

theorem elsewhere (other : (id, peer) ≠ (callId, callPeer)) :
    (callId = id && callPeer = peer : Bool) = false := by
  rw [Bool.eq_false_iff, Ne, Bool.and_eq_true, decide_eq_true_eq, decide_eq_true_eq]
  rintro ⟨rfl, rfl⟩
  exact other rfl

theorem rowStep_acknowledge
    (acknowledges : call.acknowledges id peer = (callId = id && callPeer = peer : Bool))
    (accepts : call.rejects id peer = false) :
    RowStep id peer call (store.acknowledge now callId callPeer matched).1
      (store.deliveries.lookup (id, peer))
      ((store.acknowledge now callId callPeer matched).2.deliveries.lookup (id, peer)) := by
  unfold acknowledge
  split
  next effective =>
    rw [Bool.and_eq_true, selects_eq_true] at effective
    obtain ⟨⟨row, found, met⟩, -⟩ := effective
    by_cases same : (id, peer) = (callId, callPeer)
    · cases same
      simp only [deliveries_updateOperations, Table.lookup_deleteWhere, found]
      simp only [met, decide_true, Bool.and_self, Option.filter_some, Bool.not_true]
      rw [answerable, Bool.and_eq_true, decide_eq_true_eq] at met
      exact .acknowledged (by simp [acknowledges]) met.2
    have kept (row : Option PendingDelivery) : row.filter (fun _ => true) = row := by
      cases row <;> rfl
    simp only [deliveries_updateOperations, Table.lookup_deleteWhere, same, decide_false,
      Bool.false_and, Bool.not_false, kept]
    exact .untouched _ fun _ => by rw [accepts, acknowledges, elsewhere same, Bool.or_false]
  · exact .untouched _ (absurd · Bool.false_ne_true)

/-- Every call takes one of the steps. -/
theorem rowStep_perform (store : DeliveryStore) (now call id peer) :
    RowStep id peer call (store.perform now call).1 (store.deliveries.lookup (id, peer))
      ((store.perform now call).2.deliveries.lookup (id, peer)) := by
  cases call with
  | recordOutboxSent => exact .untouched _ fun _ => rfl
  | acknowledgePending | acknowledgePendingPayment => exact rowStep_acknowledge rfl rfl
  | markPendingSent callId callPeer =>
    unfold perform markPendingSent
    dsimp only
    split
    next eligible =>
      obtain ⟨row, found, met⟩ := selects_eq_true.mp eligible
      by_cases same : (id, peer) = (callId, callPeer)
      · cases same
        rw [deliveries_updateOperations, lookup_updateDelivery found met, found]
        rw [Bool.and_eq_true, decide_eq_true_eq] at met
        exact .dispatched (by simp [dispatches]) met.1
      · rw [deliveries_updateOperations, lookup_updateDelivery_of_ne same]
        exact .untouched _ fun _ => rfl
    · exact .untouched _ (absurd · Bool.false_ne_true)
  | rejectPending callId callPeer =>
    unfold perform rejectPending
    dsimp only
    split
    next effective =>
      rw [Bool.and_eq_true, selects_eq_true] at effective
      obtain ⟨⟨row, found, met⟩, -⟩ := effective
      by_cases same : (id, peer) = (callId, callPeer)
      · cases same
        rw [deliveries_updateOperations, lookup_updateDelivery found met, found]
        have alive : row.state ≠ .failedPaid := by
          simp only [rejectable, answerable, Bool.and_eq_true, decide_eq_true_eq] at met
          exact met.1.2
        -- the retry is at least a minute away
        have later : 0 < min 3600000 (60000 * 2 ^ min row.attempts 6) :=
          Nat.lt_min.mpr ⟨by decide, Nat.mul_pos (by decide) (Nat.two_pow_pos _)⟩
        exact .rejected (by simp [rejects]) alive met (by dsimp only; omega)
          fun isTerminal => if_pos isTerminal
      · rw [deliveries_updateOperations, lookup_updateDelivery_of_ne same]
        exact .untouched _ fun _ => (Bool.or_false _).trans (elsewhere same)
    · exact .untouched _ (absurd · Bool.false_ne_true)

theorem lookup_perform (settled : ∀ current ∈ row, current.state = .failedPaid)
    (found : store.deliveries.lookup (id, peer) = row) :
    (store.perform now call).2.deliveries.lookup (id, peer) = row := by
  have step := rowStep_perform store now call id peer
  rw [found] at step
  generalize (store.perform now call).2.deliveries.lookup (id, peer) = after at step ⊢
  generalize (store.perform now call).1 = effect at step
  cases step with
  | untouched => rfl
  | dispatched _ alive | rejected _ alive | acknowledged _ alive =>
    exact absurd (settled _ rfl) alive

theorem rejects_perform (store : DeliveryStore) (now) (call : DeliveryCall)
    (id peer) : (call.rejects id peer && (store.perform now call).1).toNat +
      ((store.perform now call).2.selects id peer rejectable).toNat ≤
      (store.selects id peer rejectable).toNat +
        (call.dispatches id peer && (store.perform now call).1).toNat := by
  have step := rowStep_perform store now call id peer
  unfold selects
  generalize (store.perform now call).2.deliveries.lookup (id, peer) = after at step ⊢
  generalize store.deliveries.lookup (id, peer) = before at step ⊢
  generalize (store.perform now call).1 = effect at step ⊢
  cases step with
  | untouched _ unanswered =>
    cases effect with
    | false => simp
    | true => simp [(Bool.or_eq_false_iff.mp (unanswered rfl)).1]
  | dispatched dispatches =>
    have other : call.rejects id peer = false := by
      cases call <;> simp_all [DeliveryCall.dispatches, rejects]
    rw [other, dispatches, Bool.false_and, Bool.toNat_false, Nat.zero_add]
    exact (Bool.toNat_le _).trans (Nat.le_add_left _ _)
  | @rejected _ next rejects _ rejectable later =>
    have usedUp : next.rejectable = false := by simp [PendingDelivery.rejectable, later]
    simp [rejects, rejectable, usedUp]
  | acknowledged acknowledges =>
    have other : call.rejects id peer = false := by
      cases call <;> simp_all [DeliveryCall.acknowledges, rejects]
    simp [other]

theorem perform_of_unanswerable (unanswerable : store.selects id peer answerable = false)
    (answers : (call.rejects id peer || call.acknowledges id peer)) :
    store.perform now call = (false, store) := by
  have unselected : store.selects id peer rejectable = false := by
    rw [Bool.eq_false_iff, Ne, selects_eq_true]
    rintro ⟨row, found, met⟩
    rw [rejectable, Bool.and_eq_true] at met
    exact absurd (selects_eq_true.mpr ⟨row, found, met.1⟩) (by rw [unanswerable]; decide)
  cases call with
  | markPendingSent | recordOutboxSent => cases answers
  | rejectPending callId callPeer sender =>
    obtain ⟨rfl, rfl⟩ : callId = id ∧ callPeer = peer := by
      simpa [rejects, acknowledges] using answers
    simp only [perform, rejectPending, unselected, Bool.false_and, Bool.false_eq_true, if_false]
  | acknowledgePending callId callPeer sender | acknowledgePendingPayment callId callPeer sender =>
    obtain ⟨rfl, rfl⟩ : callId = id ∧ callPeer = peer := by
      simpa [rejects, acknowledges] using answers
    simp only [perform, acknowledgePending, acknowledgePendingPayment, acknowledge, unanswerable,
      Bool.false_and, Bool.false_eq_true, if_false]

variable {operationId : String} {op : OutboxOperation}

theorem lookup_updateOperations (found : store.operations.lookup operationId = some op)
    (excluded : states op.state = false) :
    (store.updateOperations id peer states change).operations.lookup operationId = some op := by
  simp [updateOperations, found, excluded]

theorem operation_perform (found : store.operations.lookup operationId = some op)
    (settled : op.state = .acked ∨ op.state = .failedPaid) :
    (store.perform now call).2.operations.lookup operationId = some op := by
  have unanswered : op.state.awaitsAnswer = false := by
    rcases settled with state | state <;> rw [state] <;> rfl
  have unsent : (op.state = .paid || op.state = .sent : Bool) = false := by
    rcases settled with state | state <;> rw [state] <;> rfl
  cases call with
  | recordOutboxSent => exact lookup_updateOperations found unsent
  | markPendingSent =>
    simp only [perform, markPendingSent]
    split
    · exact lookup_updateOperations found unanswered
    · exact found
  | rejectPending =>
    simp only [perform, rejectPending]
    split
    · exact lookup_updateOperations found unanswered
    · exact found
  | acknowledgePending | acknowledgePendingPayment =>
    simp only [perform, acknowledgePending, acknowledgePendingPayment, acknowledge]
    split
    · exact lookup_updateOperations found unanswered
    · exact found

theorem performAll_kept {kept : DeliveryStore → Prop}
    (each : ∀ {store now call}, kept store → kept (store.perform now call).2)
    {steps : List (Nat × DeliveryCall)} :
    ∀ {store}, kept store → kept (store.performAll steps) := by
  induction steps with
  | nil => exact fun holds => holds
  | cons _ _ ih => exact fun holds => ih (each holds)

theorem taken_rejects_le : ∀ {store : DeliveryStore}, store.taken (rejects id peer) steps ≤
      (store.selects id peer rejectable).toNat + store.taken (dispatches id peer) steps := by
  induction steps with
  | nil => exact Nat.zero_le _
  | cons step _ ih =>
    intro store
    obtain ⟨now, call⟩ := step
    have one := rejects_perform store now call id peer
    have others := @ih (store.perform now call).2
    simp only [taken]
    omega

theorem unanswerable_perform (effective : (store.perform now call).1)
    (ends : (call.acknowledges id peer || call.rejects id peer && call.isTerminal)) :
    ∀ current ∈ (store.perform now call).2.deliveries.lookup (id, peer),
      current.state = .failedPaid := by
  have step := rowStep_perform store now call id peer
  rw [effective] at step
  generalize (store.perform now call).2.deliveries.lookup (id, peer) = after at step ⊢
  generalize store.deliveries.lookup (id, peer) = before at step
  cases step with
  | untouched _ unanswered =>
    obtain ⟨kept, silent⟩ := Bool.or_eq_false_iff.mp (unanswered rfl)
    rw [kept, silent] at ends
    cases ends
  | dispatched dispatches =>
    cases call <;> simp_all [DeliveryCall.dispatches, acknowledges, rejects]
  | rejected rejects _ _ _ terminal =>
    have other : call.acknowledges id peer = false := by
      cases call <;> simp_all [acknowledges, DeliveryCall.rejects]
    rw [other, rejects] at ends
    rintro _ ⟨⟩
    exact terminal ends
  | acknowledged => rintro _ ⟨⟩

/--
In every run of the calls, a delivery that is gone or has failed and an
operation that was acknowledged or has failed stay as they are, every
effective acknowledgement or terminal rejection leads there, rejections take
effect at most once a dispatch, and an answer to a delivery that was not
dispatched or is settled changes nothing and returns false.
-/
theorem delivery_settles_once (store : DeliveryStore) (steps : List (Nat × DeliveryCall))
    (id peer : String) : (∀ row, (∀ current ∈ row, current.state = .failedPaid) →
      store.deliveries.lookup (id, peer) = row →
        (store.performAll steps).deliveries.lookup (id, peer) = row) ∧
      (∀ operationId op, store.operations.lookup operationId = some op →
        op.state = .acked ∨ op.state = .failedPaid →
          (store.performAll steps).operations.lookup operationId = some op) ∧
      (∀ now call, ((store.performAll steps).perform now call).1 →
        (call.acknowledges id peer || call.rejects id peer && call.isTerminal) →
          ∀ current ∈ ((store.performAll steps).perform now call).2.deliveries.lookup (id, peer),
            current.state = .failedPaid) ∧ store.taken (rejects id peer) steps ≤
        (store.selects id peer rejectable).toNat + store.taken (dispatches id peer) steps ∧
      (∀ now call, (store.performAll steps).selects id peer answerable = false →
        (call.rejects id peer || call.acknowledges id peer) →
          (store.performAll steps).perform now call = (false, store.performAll steps)) :=
  ⟨fun row settled found => @performAll_kept (fun store => store.deliveries.lookup (id, peer) = row)
    (lookup_perform settled) steps store found,
    fun operationId op found settled =>
      @performAll_kept (fun store => store.operations.lookup operationId = some op)
        (operation_perform · settled) steps store found,
    fun _ _ effective ends => unanswerable_perform effective ends, taken_rejects_le,
    fun _ _ unanswerable answers => perform_of_unanswerable unanswerable answers⟩

/-- A sent message that waits for the answer of its recipient. -/
def sentMessage : DeliveryStore where
  messages := ⟨[("m", ⟨"me", "h"⟩)], by decide⟩
  deliveries := ⟨[(("m", "bob"), ⟨.pending, true, 0, 0, none⟩)], by decide⟩
  operations := ⟨[("op",
    { operationId := "op", recipient := "bob", kind := 1, requestHash := "r", state := .sent
      messageId := some "m", createdAt := 0, updatedAt := 0 })], by decide⟩

/-- The recipient rejects twice before the message is sent again, and then acknowledges it. -/
def rejectedTwice : List (Nat × DeliveryCall) :=
  [(1, .rejectPending "m" "bob" "me" "busy" false), (2, .rejectPending "m" "bob" "me" "busy" false),
    (100, .markPendingSent "m" "bob"), (101, .acknowledgePending "m" "bob" "me")]

theorem delivery_settles_once_rejectedTwice :
    sentMessage.taken (rejects "m" "bob") rejectedTwice = 1 ∧
      (sentMessage.performAll rejectedTwice).selects "m" "bob" answerable = false ∧
      (sentMessage.performAll rejectedTwice).perform 102 (.acknowledgePending "m" "bob" "me") =
        (false, sentMessage.performAll rejectedTwice) :=
  ⟨by decide, by decide, (delivery_settles_once sentMessage rejectedTwice "m" "bob").2.2.2.2 102
    (.acknowledgePending "m" "bob" "me") (by decide) (by decide)⟩

end DeliveryStore

end BitSov.Outbox
