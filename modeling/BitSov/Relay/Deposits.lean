import BitSov.Arithmetic.Bounded
import BitSov.Process.Machine
import BitSov.Relational.Table
import BitSov.Relay.Whitelist

namespace BitSov.Relay

open Arithmetic Process Program Fallible Relational Table

/-!
# What a relay holds for its recipients

A deposit is validated against the policy and a snapshot of its binding, and
then held under the lock of the store, which looks at the binding alone.
Calls interleave between the operations of the store.  What is held is in
memory, so sizes and their sums are natural numbers.
-/

/-- The public key of a node. -/
abbrev NodeId := Bytes32

/-- What the relay allows, whoever asks. -/
structure RelayPolicy where
  (maxTtlSecs maxQuotaBytes maxBindings minMsatPerByteDay : Nat)
  allowedKinds : List Nat
  (maxDrainBatch maxBytesPerDepositor : Nat)

/-- What a recipient has asked the relay to hold for it. -/
structure RelayBinding where
  bindingId : String
  recipient : NodeId
  quotaBytes : Nat
  heldBytes : Nat := 0
  ttlMaxSecs : Nat
  depositorWhitelistRoot : Bytes32
  createdAt : Nat

/-- What shows that a deposit is paid for or wanted. -/
inductive DepositProof where
  | prepaid (paymentHash : String) (amountMsat : Nat) (depositor : NodeId)
  | whitelisted (depositor : NodeId) (merklePath : List Bytes32) (whitelistRoot : Bytes32)

/-- How the gate has admitted a deposit. -/
inductive DepositAuth where
  | gateSettled (amountMsat : Nat) (paymentHash : String)
  | whitelisted (merklePath : List Bytes32) (whitelistRoot : Bytes32)

def DepositAuth.proof (depositor : NodeId) : DepositAuth → DepositProof
  | .gateSettled amountMsat paymentHash => .prepaid paymentHash amountMsat depositor
  | .whitelisted merklePath whitelistRoot => .whitelisted depositor merklePath whitelistRoot

/-- An envelope for a recipient, as it came in. -/
structure Deposit where
  (depositor recipient : NodeId)
  messageId : String
  envelopeBytes : List UInt8
  (kind ttlSecs : Nat)
  auth : DepositAuth
  receivedAt : Nat

/-- An envelope that is held. -/
structure DrainItem where
  envelopeBytes : List UInt8
  messageId : String
  sequence : Nat
  depositor : NodeId
  (depositReceivedAt expiresAt : Nat)

/-- Why a deposit is not validated. -/
inductive DepositReject where
  | noBinding
  | recipientMismatch
  | ttlTooLong
  | kindNotAllowed
  | quotaExceeded
  | depositorMismatch
  | storageFloorNotMet
  | whitelistNotProven

/-- Why a registration is not accepted. -/
inductive RegisterReject where
  | rateLimited
  | globalCapReached

/-- Why the store has refused. -/
inductive RelayStoreError where
  | bindingExists
  | bindingNotFound
  | quotaExceeded
  | perDepositorQuotaExceeded
  | capExceeded
  deriving DecidableEq

/-- Why a call has failed. -/
inductive RelayOpError where
  | register (reject : RegisterReject)
  | deposit (reject : DepositReject)
  | store (error : RelayStoreError)

/-- The seconds between two registrations of a peer. -/
def relayRegisterCooldown : Nat := 30

/-- The least price of so many bytes for so long, rounded up. -/
def storageFloorMsat (size ttlSecs minMsatPerByteDay : Nat) : Nat :=
  min ((size * ttlSecs * minMsatPerByteDay + 86399) / 86400) u64Max

/-- Whether a deposit may be held. -/
def validateDeposit (policy : RelayPolicy) (blake3 : List UInt8 → Bytes32)
    (deposit : Deposit) : Option RelayBinding → Except DepositReject Unit
  | none => .error .noBinding
  | some binding =>
    let size := deposit.envelopeBytes.length
    if binding.recipient ≠ deposit.recipient then .error .recipientMismatch
    else if deposit.ttlSecs > policy.maxTtlSecs ∨ deposit.ttlSecs > binding.ttlMaxSecs then
      .error .ttlTooLong
    else if deposit.kind ∉ policy.allowedKinds then .error .kindNotAllowed
    else if size > min binding.quotaBytes policy.maxQuotaBytes - binding.heldBytes then
      .error .quotaExceeded
    else
      match deposit.auth.proof deposit.depositor with
      | .prepaid _ amountMsat depositor =>
        if depositor ≠ deposit.depositor then .error .depositorMismatch
        else if amountMsat < storageFloorMsat size deposit.ttlSecs policy.minMsatPerByteDay then
          .error .storageFloorNotMet
        else .ok ()
      | .whitelisted depositor merklePath whitelistRoot =>
        if depositor ≠ deposit.depositor then .error .depositorMismatch
        else if whitelistRoot ≠ binding.depositorWhitelistRoot ∨
          verifyMerkleInclusion blake3 depositor merklePath whitelistRoot = false then
          .error .whitelistNotProven
        else .ok ()

/-- A binding and what is held under it. -/
structure BindingState where
  binding : RelayBinding
  held : List DrainItem := []
  nextSequence : Nat := 0

/-- The bytes of some envelopes. -/
def bytesOf (items : List DrainItem) : Nat :=
  (items.map fun item => item.envelopeBytes.length).sum

namespace BindingState

variable (state : BindingState)

/-- Keep some items and free the bytes of the others. -/
def retain (keep : DrainItem → Bool) : BindingState :=
  { state with
    binding := { state.binding with
      heldBytes := state.binding.heldBytes - bytesOf (state.held.filter fun item => !keep item) }
    held := state.held.filter keep }

/-- Drop what has expired. -/
def pruneExpired (now : Nat) : BindingState :=
  state.retain fun item => item.expiresAt > now

/-- Hold an envelope if the quotas of the binding and of its depositor allow. -/
def holdEnvelope (policy : RelayPolicy) (deposit : Deposit) :
    Except RelayStoreError Nat × BindingState :=
  let pruned := state.pruneExpired deposit.receivedAt
  let size := deposit.envelopeBytes.length
  if pruned.binding.heldBytes + size > pruned.binding.quotaBytes then
    (.error .quotaExceeded, pruned)
  else if bytesOf (pruned.held.filter fun item => item.depositor = deposit.depositor) + size >
    min policy.maxBytesPerDepositor pruned.binding.quotaBytes then
    (.error .perDepositorQuotaExceeded, pruned)
  else
    (.ok pruned.nextSequence,
      { binding := { pruned.binding with heldBytes := pruned.binding.heldBytes + size }
        held := pruned.held ++ [⟨deposit.envelopeBytes, deposit.messageId, pruned.nextSequence,
          deposit.depositor, deposit.receivedAt, min (deposit.receivedAt + deposit.ttlSecs) u64Max⟩]
        nextSequence := pruned.nextSequence + 1 })

end BindingState

/-- The operations that calls perform under one lock each. -/
inductive RelayOp where
  | bindingCount
  | registerAllowed (count : Nat) (peer : NodeId) (now : Nat)
  | registerBinding (binding : RelayBinding)
  | pruneExpired (recipient : NodeId) (now : Nat)
  | getBinding (recipient : NodeId)
  | holdEnvelope (deposit : Deposit)
  | listHeld (recipient : NodeId) (max now : Nat)
  | ackDelete (recipient : NodeId) (messageIds : List String)
  | removeBinding (recipient : NodeId)

@[reducible] def RelayOp.Answer : RelayOp → Type
  | .bindingCount => Nat
  | .registerAllowed _ _ _ => Except RegisterReject Unit
  | .registerBinding _ | .removeBinding _ => Except RelayStoreError Unit
  | .pruneExpired _ _ | .holdEnvelope _ | .ackDelete _ _ => Except RelayStoreError Nat
  | .getBinding _ => Option RelayBinding
  | .listHeld _ _ _ => List DrainItem

/-- The bindings of the store, and when each peer registered last. -/
structure RelayState where
  bindings : Table NodeId BindingState := .empty
  lastRegister : NodeId → Option Nat := fun _ => none

namespace RelayState

variable (relay : RelayState) (policy : RelayPolicy)

/-- Work on the binding of a recipient. -/
def atBinding {α : Type} (recipient : NodeId) (work : BindingState → α × BindingState) :
    Except RelayStoreError α × RelayState :=
  match relay.bindings.lookup recipient with
  | none => (.error .bindingNotFound, relay)
  | some state =>
    (.ok (work state).1, { relay with
      bindings :=
        relay.bindings.updateWhere (fun key _ => key = recipient) fun _ => (work state).2 })

/-- Perform an operation of the store. -/
def apply : (operation : RelayOp) → operation.Answer × RelayState
  | .bindingCount => (relay.bindings.rows.length, relay)
  | .registerAllowed count peer now =>
    if count ≥ policy.maxBindings then (.error .globalCapReached, relay)
    else if (relay.lastRegister peer).any fun last => now - last < relayRegisterCooldown then
      (.error .rateLimited, relay)
    else
      (.ok (), { relay with
        lastRegister := fun other => if other = peer then some now else relay.lastRegister other })
  | .registerBinding binding =>
    if relay.bindings.contains binding.recipient then (.error .bindingExists, relay)
    else if relay.bindings.rows.length ≥ policy.maxBindings then (.error .capExceeded, relay)
    else
      (.ok (), { relay with
        bindings := relay.bindings.insertOrIgnore binding.recipient { binding } })
  | .pruneExpired recipient now =>
    relay.atBinding recipient fun state =>
      let pruned := state.pruneExpired now
      (state.held.length - pruned.held.length, pruned)
  | .getBinding recipient => ((relay.bindings.lookup recipient).map (·.binding), relay)
  | .holdEnvelope deposit =>
    let (answer, next) := relay.atBinding deposit.recipient (·.holdEnvelope policy deposit)
    (answer.bind id, next)
  | .listHeld recipient max now =>
    let (answer, next) := relay.atBinding recipient fun state =>
      let pruned := state.pruneExpired now
      (pruned.held.take max, pruned)
    (answer.toOption.getD [], next)
  | .ackDelete recipient messageIds =>
    relay.atBinding recipient fun state =>
      let rest := state.retain fun item => item.messageId ∉ messageIds
      (state.held.length - rest.held.length, rest)
  | .removeBinding recipient =>
    if relay.bindings.contains recipient then
      (.ok (), { relay with bindings := relay.bindings.deleteWhere fun key _ => key = recipient })
    else (.error .bindingNotFound, relay)

end RelayState

/-- Programs over the operations of the store. -/
abbrev RelayM := Fallible RelayOpError RelayOp RelayOp.Answer

/-- A call of the engine, with its parameters and times. -/
inductive RelayCall where
  | register (binding : RelayBinding) (now : Nat)
  | deposit (deposit : Deposit)
  | drain (recipient : NodeId) (max now : Nat)
  | ack (recipient : NodeId) (messageIds : List String)
  | unregister (registrant : NodeId)

/-- What a call returns. -/
inductive Reply where
  | done
  | held (sequence : Nat)
  | drained (items : List DrainItem)
  | acked (count : Nat)

section

variable (policy : RelayPolicy) (blake3 : List UInt8 → Bytes32)

/-- Register a binding, counted and limited before it is stored. -/
def handleRegister (binding : RelayBinding) (now : Nat) : RelayM Reply := do
  let count ← ask RelayOp.bindingCount
  let allowed ← ask (RelayOp.registerAllowed count binding.recipient now)
  known (allowed.mapError .register)
  let registered ← ask (RelayOp.registerBinding { binding with heldBytes := 0 })
  known (registered.mapError fun
    | .capExceeded => .register .globalCapReached
    | error => .store error)
  return .done

/-- Validate a deposit against a snapshot of its binding, then hold it. -/
def handleDeposit (deposit : Deposit) : RelayM Reply := do
  let pruned ← ask (RelayOp.pruneExpired deposit.recipient deposit.receivedAt)
  known (match pruned with
    | .error error => if error ≠ .bindingNotFound then .error (.store error) else .ok ()
    | .ok _ => .ok ())
  let binding ← ask (RelayOp.getBinding deposit.recipient)
  known ((validateDeposit policy blake3 deposit binding).mapError .deposit)
  let held ← ask (RelayOp.holdEnvelope deposit)
  known ((held.mapError .store).map .held)

/-- The program of a call. -/
def RelayCall.code : RelayCall → RelayM Reply
  | .register binding now => handleRegister binding now
  | .deposit request => handleDeposit policy blake3 request
  | .drain recipient max now => do
    return .drained (← ask (RelayOp.listHeld recipient (min max policy.maxDrainBatch) now))
  | .ack recipient messageIds => do
    let deleted ← ask (RelayOp.ackDelete recipient messageIds)
    known ((deleted.mapError .store).map .acked)
  | .unregister registrant => do
    let removed ← ask (RelayOp.removeBinding registrant)
    known ((removed.mapError .store).map fun _ => .done)

/-- The relay and the calls in progress. -/
structure Engine where
  relay : RelayState := {}
  tasks : List (Program RelayOp RelayOp.Answer (Except RelayOpError Reply)) := []

/-- A call starts, or one in progress performs its next operation. -/
inductive Step where
  | start (call : RelayCall)
  | proceed (index : Nat)

def Engine.perform (engine : Engine) : Step → Engine
  | .start started =>
    { engine with tasks := engine.tasks ++ [(started.code policy blake3).run] }
  | .proceed index =>
    match engine.tasks[index]? with
    | some (.call operation next) =>
      let (answer, relay) := engine.relay.apply policy operation
      ⟨relay, engine.tasks.set index (next answer)⟩
    | _ => engine

def Engine.performAll (steps : List Step) : Engine :=
  steps.foldl (Engine.perform policy blake3) {}

end

variable {policy : RelayPolicy} {blake3 : List UInt8 → Bytes32}
  {state : BindingState} {relay : RelayState} {engine : Engine}

theorem bytesOf_filter (items keep) :
    bytesOf items =
      bytesOf (items.filter keep) + bytesOf (items.filter fun item => !keep item) := by
  induction items with
  | nil => rfl
  | cons item _ ih => cases kept : keep item <;> simp [bytesOf, kept] at ih ⊢ <;> omega

/-- A binding that holds what it counts, within its quota. -/
structure Within (state : BindingState) : Prop where
  counted : state.binding.heldBytes = bytesOf state.held
  quota : state.binding.heldBytes ≤ state.binding.quotaBytes

theorem Within.retain (within : Within state) (keep) : Within (state.retain keep) where
  counted := by
    have whole := bytesOf_filter state.held keep
    have counted := within.counted
    simp only [BindingState.retain]
    omega
  quota := Nat.le_trans (Nat.sub_le _ _) within.quota

theorem Within.holdEnvelope (within : Within state) (deposit) :
    Within (state.holdEnvelope policy deposit).2 := by
  have pruned : Within (state.pruneExpired deposit.receivedAt) := within.retain _
  simp only [BindingState.holdEnvelope]
  split
  · exact pruned
  split
  · exact pruned
  next fits _ =>
  refine ⟨?_, Nat.le_of_not_lt fits⟩
  simp [pruned.counted, bytesOf]

/-- A binding is registered with nothing held. -/
def RelayOp.Fresh : RelayOp → Prop
  | .registerBinding binding => binding.heldBytes = 0
  | _ => True

def RelayState.Kept (relay : RelayState) : Prop :=
  ∀ recipient state, relay.bindings.lookup recipient = some state → Within state

namespace RelayState

theorem Kept.atBinding {α : Type} {work : BindingState → α × BindingState} (kept : relay.Kept)
    (recipient) (keeps : ∀ state, Within state → Within (work state).2) :
    (relay.atBinding recipient work).2.Kept := by
  unfold RelayState.atBinding
  split
  · exact kept
  next state found =>
  intro other _ isChanged
  rw [lookup_updateWhere, Option.map_eq_some_iff] at isChanged
  obtain ⟨old, isOld, rfl⟩ := isChanged
  split
  · exact keeps state (kept recipient state found)
  · exact kept other old isOld

theorem Kept.apply {op : RelayOp} (kept : relay.Kept) (fresh : op.Fresh) :
    (relay.apply policy op).2.Kept := by
  cases op with
  | bindingCount | getBinding => exact kept
  | registerAllowed =>
    simp only [RelayState.apply]
    split
    · exact kept
    · split <;> exact kept
  | registerBinding binding =>
    simp only [RelayState.apply]
    split
    · exact kept
    split
    · exact kept
    next absent _ =>
    intro other state found
    obtain rfl | ne := eq_or_ne other binding.recipient
    · have nothing : relay.bindings.lookup binding.recipient = none := by
        simpa [contains] using absent
      rw [lookup_insertOrIgnore_self, nothing, Option.some.injEq] at found
      subst found
      exact ⟨fresh, Nat.le_trans (Nat.le_of_eq fresh) (Nat.zero_le _)⟩
    · rw [lookup_insertOrIgnore_of_ne ne] at found
      exact kept other state found
  | pruneExpired recipient => exact kept.atBinding recipient fun _ within => within.retain _
  | holdEnvelope deposit =>
    exact kept.atBinding deposit.recipient fun _ within => within.holdEnvelope deposit
  | listHeld recipient => exact kept.atBinding recipient fun _ within => within.retain _
  | ackDelete recipient => exact kept.atBinding recipient fun _ within => within.retain _
  | removeBinding recipient =>
    simp only [RelayState.apply]
    split
    · intro other state found
      rw [lookup_deleteWhere, Option.filter_eq_some_iff] at found
      exact kept other state found.1
    · exact kept

end RelayState

theorem performs_code (call : RelayCall) :
    Performs RelayOp.Fresh (call.code policy blake3).run := by
  cases call with
  | register _ =>
    refine performs_ask_bind_iff.mpr ⟨trivial, fun _ => ?_⟩
    refine performs_ask_bind_iff.mpr ⟨trivial, fun _ => ?_⟩
    refine performs_bind (performs_known _) fun _ => ?_
    refine performs_ask_bind_iff.mpr ⟨rfl, fun _ => ?_⟩
    exact performs_bind (performs_known _) fun _ => trivial
  | deposit deposit =>
    refine performs_ask_bind_iff.mpr ⟨trivial, fun _ => ?_⟩
    refine performs_bind (performs_known _) fun _ => ?_
    refine performs_ask_bind_iff.mpr ⟨trivial, fun _ => ?_⟩
    refine performs_bind (performs_known _) fun _ => ?_
    exact performs_ask_bind_iff.mpr ⟨trivial, fun _ => performs_known _⟩
  | drain | ack | unregister => exact performs_ask_bind_iff.mpr ⟨trivial, fun _ => trivial⟩

/-- All bindings are within their quotas, and calls register only empty ones. -/
structure Engine.Sound (engine : Engine) : Prop where
  kept : engine.relay.Kept
  fresh : ∀ task ∈ engine.tasks, Performs RelayOp.Fresh task

theorem Engine.Sound.perform (sound : engine.Sound) (step : Step) :
    (engine.perform policy blake3 step).Sound := by
  cases step with
  | start call =>
    refine ⟨sound.kept, fun task mem => ?_⟩
    rcases List.mem_append.mp mem with old | new
    · exact sound.fresh task old
    · rw [List.mem_singleton.mp new]
      exact performs_code call
  | proceed =>
    simp only [Engine.perform]
    split
    · next _ next found =>
      obtain ⟨isFresh, continues⟩ := sound.fresh _ (List.mem_of_getElem? found)
      refine ⟨sound.kept.apply isFresh, fun task mem => ?_⟩
      rcases List.mem_or_eq_of_mem_set mem with old | rfl
      · exact sound.fresh task old
      · exact continues _
    · exact sound

theorem Engine.sound_performAll (steps) : (Engine.performAll policy blake3 steps).Sound := by
  have run (engine : Engine) (sound : engine.Sound) :
    (steps.foldl (Engine.perform policy blake3) engine).Sound := by
    induction steps generalizing engine with
    | nil => exact sound
    | cons step _ ih => exact ih _ (sound.perform step)
  exact run {} ⟨nofun, nofun⟩

/--
In every interleaving of calls, the bytes held under a binding whose quota is
within the policy exceed neither the one nor the other.
-/
theorem held_within_quotas (policy : RelayPolicy) (blake3 : List UInt8 → Bytes32)
    (steps : List Step) (recipient : NodeId) (state : BindingState)
    (found : (Engine.performAll policy blake3 steps).relay.bindings.lookup recipient = some state)
    (modest : state.binding.quotaBytes ≤ policy.maxQuotaBytes) :
    bytesOf state.held ≤ min state.binding.quotaBytes policy.maxQuotaBytes := by
  have within := (Engine.sound_performAll steps).kept recipient state found
  rw [← within.counted]
  exact Nat.le_min.mpr ⟨within.quota, Nat.le_trans within.quota modest⟩

/-- A policy of ten bytes a binding. -/
def smallPolicy : RelayPolicy := ⟨60, 10, 5, 0, [1], 8, 100⟩

def node (byte : UInt8) : NodeId :=
  .replicate 32 byte

/-- Two deposits of six bytes are both validated before either is held. -/
def twoDeposits (quotaBytes : Nat) : List Step :=
  let deposit (depositor : NodeId) : Step :=
    .start (.deposit ⟨depositor, node 0, "m", [1, 2, 3, 4, 5, 6], 1, 9, .gateSettled 0 "h", 0⟩)
  [.start (.register ⟨"b", node 0, quotaBytes, 0, 60, node 0, 0⟩ 0), .proceed 0, .proceed 0,
    .proceed 0, deposit (node 1), deposit (node 2), .proceed 1, .proceed 1, .proceed 2, .proceed 2,
    .proceed 1, .proceed 2]

theorem held_within_quotas_twoDeposits :
    let engine := Engine.performAll smallPolicy (fun _ => node 0) (twoDeposits 10)
    ∃ state, engine.relay.bindings.lookup (node 0) = some state ∧ bytesOf state.held = 6 ∧
      bytesOf state.held ≤ min state.binding.quotaBytes smallPolicy.maxQuotaBytes :=
  ⟨_, rfl, rfl, held_within_quotas smallPolicy (fun _ => node 0) (twoDeposits 10) (node 0) _ rfl
    (by decide)⟩

/-- With a quota above the policy, both deposits are held. -/
theorem held_above_policy :
    let engine := Engine.performAll smallPolicy (fun _ => node 0) (twoDeposits 20)
    (engine.relay.bindings.lookup (node 0)).map (fun state => bytesOf state.held) = some 12 ∧
      smallPolicy.maxQuotaBytes = 10 := ⟨rfl, rfl⟩

end BitSov.Relay
