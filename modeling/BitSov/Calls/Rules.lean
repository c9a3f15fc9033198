import BitSov.Arithmetic.Bounded

namespace BitSov.Calls

open Arithmetic

/-!
# Call signalling and paid blocks

The state of one `(peer, call_id)` and the pure rules that move it: own
signals are reserved before they are paid and committed or released
afterwards, received signals and settled blocks of the peer take effect at
once, and time ends a call whose deadline has passed.  Only a settled block
admits media.

Times are Unix milliseconds.  A sum saturates at the largest 64-bit number,
a difference at zero.
-/

/-- A 64-bit sum that stops at the largest number. -/
def plus (first second : Nat) : Nat :=
  min (first + second) u64Max

theorem plus_le (first second) : plus first second ≤ first + second := Nat.min_le_left _ _

theorem add_lt_of_plus_lt (above : plus first second < value)
    (fits : value ≤ u64Max) : first + second < value := by
  unfold plus at above
  omega

def ringTimeoutMs : Nat := 60000

def callBlockMs : Nat := 60000

def callBlockLeadMs : Nat := 20000

def callBlockGraceMs : Nat := 10000

def callBlockInitialMs : Nat := callBlockLeadMs + callBlockGraceMs

def callBlockResumeMs : Nat := 60000

def maxCallMs : Nat := 4 * 60 * 60 * 1000

def tombstoneMs : Nat := 24 * 60 * 60 * 1000

/-- The kind of a message: one of the five call signals or any other. -/
inductive SignalKind where
  | callInvite
  | callAnswer
  | iceCandidate
  | callHangup
  | callBlock
  | other (code : UInt16)
  deriving Repr, DecidableEq

inductive HangupReason where
  | hangup
  | declined
  | busy
  | timeout
  | failed
  | unpaid
  | durationCap
  deriving Repr, DecidableEq

inductive CallRefusal where
  | notCallKind
  | invalid (reason : String)
  | replayed
  | unknownCall
  | notRinging
  | wrongSide
  | full
  | inFlight
  | sequence
  | notDue
  deriving Repr, DecidableEq

inductive Side where
  | caller
  | callee
  deriving Repr, DecidableEq

/-- Where the call is.  A reserved offer is not paid yet: nobody has been rung. -/
inductive Phase where
  | reserved
  | ringing
  | live
  | ended
  deriving Repr, DecidableEq

/-- One of our own signals, reserved for exactly one request and not yet paid. -/
structure Pending where
  operationId : String
  kind : SignalKind
  requestHash : String
  deriving Repr, DecidableEq

/-- A row written before the binding existed has no request hash. -/
def Pending.is (pending : Pending) (operationId requestHash : String) : Bool :=
  pending.operationId == operationId &&
    (pending.requestHash == requestHash || pending.requestHash.isEmpty)

/-- What a node knows of a call. -/
structure CallEntry where
  side : Side
  phase : Phase
  /-- The end of ringing or of the live call, or of the tombstone once ended. -/
  deadlineMs : Nat
  pending : Option Pending
  paidUntilMs : Option Nat
  nextBlockSeq : Nat
  endReason : Option HangupReason
  unpaidNoticeUsed : Bool
  deriving Repr, DecidableEq

namespace CallEntry

def opening (side : Side) (phase : Phase) (pending : Option Pending) (nowMs : Nat) : CallEntry where
  side
  phase
  deadlineMs := plus nowMs ringTimeoutMs
  pending
  paidUntilMs := none
  nextBlockSeq := 0
  endReason := none
  unpaidNoticeUsed := false

variable (entry : CallEntry) (nowMs : Nat)

def mediaAdmitted : Bool :=
  entry.phase = .live && entry.paidUntilMs.any fun untilMs => nowMs ≤ plus untilMs callBlockGraceMs

def nextBlockDueMs : Option Nat :=
  if entry.phase = .live ∧ entry.nextBlockSeq < maxCallMs / callBlockMs then
    some ((entry.paidUntilMs.map (· - callBlockLeadMs)).getD
      (entry.deadlineMs - callBlockInitialMs))
  else none

def answered : CallEntry :=
  { entry with phase := .live, deadlineMs := plus nowMs callBlockInitialMs }

def expired : Bool :=
  if entry.phase = .live then nowMs > entry.deadlineMs else nowMs ≥ entry.deadlineMs

/-- A block of the caller is still being paid. -/
def callerBlock : Bool :=
  entry.side = .caller && entry.pending.any (·.kind = .callBlock)

/-- The end of the interval that an `Unpaid` call may still resume. -/
def unpaidEndMs : Nat :=
  entry.deadlineMs - tombstoneMs

def endedAt : Option CallEntry :=
  if entry.deadlineMs ≤ nowMs ∧ (entry.pending = none ∨ entry.callerBlock) then none
  else if entry.callerBlock ∧
    (entry.endReason ≠ some .unpaid ∨ nowMs > plus entry.unpaidEndMs callBlockResumeMs) then
    some { entry with pending := none }
  else some entry

/-- A call that is past its deadline ends there. -/
def expire : CallEntry :=
  { entry with
    phase := .ended
    deadlineMs := plus entry.deadlineMs tombstoneMs
    endReason := some (if entry.phase = .live then .unpaid else .timeout) }

/-- The entry as of an instant (`at` in the source). -/
def atMs : Option CallEntry :=
  if entry.phase = .ended then entry.endedAt nowMs
  else if entry.expired nowMs then entry.expire.endedAt nowMs
  else some entry

def isOpen : Bool :=
  entry.phase = .ringing || entry.phase = .live

/-- The pending mark is that of exactly this request. -/
def mine (kind : SignalKind) (operationId requestHash : String) : Bool :=
  entry.pending.any fun pending => pending.is operationId requestHash && pending.kind = kind

def pendingOf (operationId : String) : Option Pending :=
  entry.pending.filter (·.operationId = operationId)

end CallEntry

/-!
## Blocks
-/

variable (entry : CallEntry) (kind : SignalKind) (operationId requestHash : String)
  (seq paidUntilMs nowMs : Nat)

/-- Check one sequential block without granting media or moving money. -/
def checkBlock : Except CallRefusal Unit :=
  if entry.phase ≠ .live ∨ entry.expired nowMs then .error .unknownCall
  else if seq ≠ entry.nextBlockSeq ∨ seq ≥ maxCallMs / callBlockMs then .error .sequence
  else if entry.nextBlockDueMs.all (nowMs < ·) then .error .notDue
  else .ok ()

/-- The end of the interval that a block continues. -/
def blockEndMs : Option Nat :=
  match entry.phase, entry.endReason with
  | .live, _ => some entry.deadlineMs
  | .ended, some .unpaid => some entry.unpaidEndMs
  | _, _ => none

/-- Start a block. -/
def grantBlock (seq startMs : Nat) : CallEntry :=
  { entry with
    phase := .live
    endReason := none
    -- a pending `Unpaid` notice stays identifiable until its commit or release
    unpaidNoticeUsed := entry.side = .callee && entry.unpaidNoticeUsed &&
      entry.pending.any (·.kind = .callHangup)
    paidUntilMs := some (plus startMs callBlockMs)
    nextBlockSeq := min (seq + 1) (2 ^ 32 - 1)
    deadlineMs := plus (plus startMs callBlockMs) callBlockGraceMs }

/-- Start the next block, late or in time. -/
def applyBlock : Except CallRefusal CallEntry :=
  if seq ≠ entry.nextBlockSeq ∨ seq ≥ maxCallMs / callBlockMs then .error .sequence
  else match blockEndMs entry with
    | none => .error .unknownCall
    | some endMs =>
      if nowMs > endMs then
        if nowMs > plus endMs callBlockResumeMs then .error .unknownCall
        else .ok (grantBlock entry seq nowMs)
      else match checkBlock entry seq nowMs with
        | .error refusal => .error refusal
        | .ok () =>
          .ok (grantBlock entry seq
            (entry.paidUntilMs.getD (entry.deadlineMs - callBlockInitialMs)))

def receiveBlock (entry : Option CallEntry) (seq nowMs : Nat) : Except CallRefusal CallEntry :=
  match entry with
  | none => .error .unknownCall
  | some entry => if entry.side ≠ .callee then .error .wrongSide else applyBlock entry seq nowMs

def reserveBlock (entry : Option CallEntry) (seq : Nat) (operationId requestHash : String)
    (nowMs : Nat) : Except CallRefusal CallEntry :=
  match entry with
  | none => .error .unknownCall
  | some entry =>
    if entry.side ≠ .caller then .error .wrongSide
    else match entry.pending with
      | some pending =>
        if pending.kind = .callBlock ∧ pending.is operationId requestHash then .ok entry
        else .error .inFlight
      | none => match checkBlock entry seq nowMs with
        | .error refusal => .error refusal
        | .ok () => .ok { entry with pending := some ⟨operationId, .callBlock, requestHash⟩ }

/-!
## Own signals
-/

/-- Reserve an answer, a candidate or a hangup of a known call. -/
def reserveSignal : Except CallRefusal CallEntry :=
  if entry.mine kind operationId requestHash then .ok entry
  else if entry.pending.isSome then .error .inFlight
  else if kind = .callAnswer ∧ entry.phase ≠ .ringing then .error .notRinging
  else if kind = .callAnswer ∧ entry.side ≠ .callee then .error .wrongSide
  else if ¬ entry.isOpen then .error .unknownCall
  else if kind = .iceCandidate then
    -- a candidate changes nothing once paid: no reservation needed
    .ok entry
  else .ok { entry with pending := some ⟨operationId, kind, requestHash⟩ }

def reserve (entry : Option CallEntry) (kind : SignalKind) (operationId requestHash : String)
    (nowMs : Nat) : Except CallRefusal CallEntry :=
  match kind, entry with
  | .callInvite, none =>
    .ok (.opening .caller .reserved (some ⟨operationId, .callInvite, requestHash⟩) nowMs)
  | .callInvite, some entry =>
    if entry.phase = .reserved ∧ entry.mine .callInvite operationId requestHash then .ok entry
    else .error .replayed
  | .callBlock, _ | .other _, _ => .error .notCallKind
  | _, none => .error .unknownCall
  | kind, some entry => reserveSignal entry kind operationId requestHash

def reserveEndNotice (entry : Option CallEntry) (side : Side) (reason : HangupReason)
    (operationId requestHash : String) : Except CallRefusal CallEntry :=
  match entry with
  | none => .error .unknownCall
  | some entry =>
    if entry.side ≠ side ∨ entry.phase ≠ .ended ∨ entry.endReason ≠ some reason then
      .error .unknownCall
    else match entry.pending with
      | some pending =>
        if pending.kind = .callHangup ∧ pending.is operationId requestHash then .ok entry
        else .error .inFlight
      | none =>
        if entry.unpaidNoticeUsed then .error .unknownCall
        else
          .ok { entry with
            unpaidNoticeUsed := true, pending := some ⟨operationId, .callHangup, requestHash⟩ }

def reserveUnpaidHangup (entry : Option CallEntry) (operationId requestHash : String) :
    Except CallRefusal CallEntry :=
  reserveEndNotice entry .callee .unpaid operationId requestHash

def reserveDurationHangup (entry : Option CallEntry) (operationId requestHash : String) :
    Except CallRefusal CallEntry :=
  reserveEndNotice entry .caller .durationCap operationId requestHash

/-- A paid block of the caller comes too late to resume the call. -/
def beyondResume : Bool :=
  entry.side = .caller && (blockEndMs entry).any fun endMs => nowMs > plus endMs callBlockResumeMs

/-- The block of a settled payment, on the entry whose mark is cleared. -/
def commitBlock : Except CallRefusal CallEntry :=
  if beyondResume entry nowMs then
    .ok { entry with
      phase := .ended, endReason := some .unpaid,
      deadlineMs := plus ((blockEndMs entry).getD 0) tombstoneMs }
  else match applyBlock entry entry.nextBlockSeq nowMs with
    | .ok next => .ok next
    | .error refusal =>
      if entry.side = .caller ∧ entry.phase = .ended then .ok entry else .error refusal

/-- The transition of a settled signal, on the entry whose mark is cleared. -/
def commitSignal : Except CallRefusal CallEntry :=
  match kind, entry.phase with
  | .callInvite, .reserved =>
    .ok { entry with phase := .ringing, deadlineMs := plus nowMs ringTimeoutMs }
  | .callAnswer, .ringing => .ok (entry.answered nowMs)
  | .callBlock, _ => commitBlock entry nowMs
  | .callHangup, .ended => .ok entry
  | .callHangup, phase =>
    -- a notice reserved before a late block must never end the resumed interval
    if phase = .live ∧ entry.side = .callee ∧ entry.unpaidNoticeUsed then
      .ok { entry with unpaidNoticeUsed := false }
    else .ok { entry with phase := .ended, deadlineMs := plus nowMs tombstoneMs }
  | _, _ => .ok entry

/-- The reserved signal's payment settled: publish its transition. -/
def commit : Except CallRefusal CallEntry :=
  match entry.pendingOf operationId with
  | none => .ok entry
  | some pending => commitSignal { entry with pending := none } pending.kind nowMs

/-- A released mark of a notice lets the notice be reserved again. -/
def releasesNotice : Bool :=
  kind = .callHangup && entry.unpaidNoticeUsed &&
    (entry.side = .callee || (entry.phase = .ended && entry.side = .caller &&
      entry.endReason = some .durationCap))

/-- The reserved signal was definitely not paid: undo the reservation. -/
def release : Option CallEntry :=
  match entry.pendingOf operationId with
  | none => some entry
  | some pending =>
    if pending.kind = .callInvite ∧ entry.phase = .reserved then none
    else
      some { entry with
        pending := none
        unpaidNoticeUsed := entry.unpaidNoticeUsed && !releasesNotice entry pending.kind }

/-!
## Received signals
-/

def receiveHangup (reason : Option HangupReason) (nowMs : Nat) : Except CallRefusal CallEntry :=
  if reason = some .unpaid ∧ entry.side ≠ .caller then .error .unknownCall
  else if entry.phase = .ended then
    if entry.side = .caller ∧ entry.endReason = some .unpaid ∧
      (reason = some .hangup ∨ reason = some .declined) then
      -- an explicit termination also wins after local expiry
      .ok { entry with pending := none, endReason := reason }
    else if entry.endReason ≠ some .unpaid ∨ reason ≠ some .unpaid ∨ entry.unpaidNoticeUsed then
      .error .unknownCall
    else .ok { entry with unpaidNoticeUsed := true }
  else if ¬ entry.isOpen then .error .unknownCall
  else if reason = some .unpaid ∧ entry.mediaAdmitted nowMs then
    -- a delayed notice for an older interval cannot revoke settled service
    .error .unknownCall
  else
    .ok { entry with
      phase := .ended
      pending := if reason = some .unpaid then entry.pending else none
      deadlineMs := plus nowMs tombstoneMs
      endReason := reason
      unpaidNoticeUsed := reason = some .unpaid }

/-- A signal this node received, paid and accepted by the gate. -/
def receive (entry : Option CallEntry) (kind : SignalKind) (reason : Option HangupReason)
    (nowMs : Nat) : Except CallRefusal CallEntry :=
  match kind, entry with
  | .callInvite, none => .ok (.opening .callee .ringing none nowMs)
  | .callInvite, some _ => .error .replayed
  | .callBlock, _ | .other _, _ => .error .notCallKind
  | _, none => .error .unknownCall
  | .callAnswer, some entry =>
    match entry.phase, entry.side with
    | .reserved, _ | .ended, _ => .error .unknownCall
    | .ringing, .caller => .ok (entry.answered nowMs)
    | .ringing, .callee => .error .wrongSide
    | .live, _ => .error .notRinging
  | .iceCandidate, some entry => if entry.isOpen then .ok entry else .error .unknownCall
  | .callHangup, some entry => receiveHangup entry reason nowMs

/-!
## Grants
-/

/-- The latest boundary that the callee of a block may have granted. -/
def maximumGrantMs (seq endMs nowMs : Nat) : Nat :=
  let preBlockEndMs :=
    if entry.nextBlockSeq = seq then endMs
    else
      -- our own commit has already advanced the paid boundary by one block
      plus (entry.paidUntilMs.getD (endMs - callBlockGraceMs) - callBlockMs)
        (if seq = 0 then callBlockInitialMs else callBlockGraceMs)
  min (plus (plus preBlockEndMs callBlockResumeMs) callBlockMs) (plus nowMs (2 * callBlockMs))

/-- Whether a grant for a block of this call may adjust its interval. -/
def acceptsGrant : Bool :=
  entry.side = .caller &&
    (entry.nextBlockSeq = seq || entry.nextBlockSeq = min (seq + 1) (2 ^ 32 - 1)) &&
    ((blockEndMs entry).any fun endMs => paidUntilMs ≤ maximumGrantMs entry seq endMs nowMs) &&
    -- a repeated receipt cannot move a boundary backwards
    entry.paidUntilMs.all (· ≤ paidUntilMs)

/--
The entry after the recipient of our stored, paid block has acknowledged it
with a boundary.  The operation and the sequence are those of the block.
-/
def receiveBlockGrant : CallEntry :=
  if acceptsGrant entry seq paidUntilMs nowMs then
    { entry with
      phase := .live
      paidUntilMs := some paidUntilMs
      nextBlockSeq := min (seq + 1) (2 ^ 32 - 1)
      deadlineMs := plus paidUntilMs callBlockGraceMs
      -- an older receipt leaves a pending renewal untouched
      pending := entry.pending.filter fun pending =>
        !(pending.kind = .callBlock && pending.is operationId requestHash)
      endReason := none
      unpaidNoticeUsed := false }
  else entry

end BitSov.Calls
