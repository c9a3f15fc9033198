import Mathlib.Data.Finset.Sort
import Mathlib.Data.String.Basic
import BitSov.Process.Durable
import BitSov.Process.Session
import BitSov.Recover.Sweep

namespace BitSov.MoveHome

open Process Fallible Recover

/-!
# Moving a node's funds home

The owner closes the channels of a running node and sends everything to one
destination.  The work is a `Job` over a journal file: what the owner has
approved is written there before anything is closed by force or broadcast,
and a job whose journal could not be written does nothing more until it is
loaded again.
-/

variable (bitcoin : Bitcoin)

/-- A plan names a node, pays to its network and has a plausible fee rate. -/
def validatePlan (plan : Plan) : Except String Unit := do
  let _ ← plan.address bitcoin
  if ¬ (1 ≤ plan.feeRateSatVb ∧ plan.feeRateSatVb ≤ 10000) ∨
    plan.nodeId = "" then
    .error "invalid move-home node or fee rate (must be 1..=10000 sat/vB)"
  else .ok ()

structure Channel where
  (id peer : String)
  (connected shuttingDown : Bool)
  deriving Repr, DecidableEq

/-- What the node knows about its channels and its wallet. -/
structure Snapshot where
  channels : List Channel
  (onchainSats spendableSats lightningSats : UInt64)
  (lightningClaims pendingMonitorEvents pendingSweeps : Nat)
  anchorReserveSats : UInt64
  claimDetails : List String
  unresolvedLocalSpends : Nat
  (unreadableLocalSpends estimatedCloseFeeMinSats estimatedCloseFeeMaxSats : UInt64)
  deriving Repr, DecidableEq

/-- Something of the channels is still on its way to the wallet. -/
def Snapshot.waitingForChannels (snapshot : Snapshot) : Bool :=
  !snapshot.channels.isEmpty || snapshot.lightningClaims != 0 ||
    snapshot.pendingMonitorEvents != 0 || snapshot.pendingSweeps != 0 ||
    snapshot.anchorReserveSats != 0 || snapshot.unresolvedLocalSpends != 0 ||
    snapshot.unreadableLocalSpends != 0

/-- What the journal file records. -/
structure State where
  version : UInt32
  plan : Plan
  (cooperativeAttempted forceApproved : Finset String)
  sweeps : List Sweep
  deriving DecidableEq

/-- A job of which nothing is done yet. -/
def State.begun (plan : Plan) : State where
  version := 1
  plan
  cooperativeAttempted := ∅
  forceApproved := ∅
  sweeps := []

variable (state : State)

/-- Record that a cooperative close was accepted. -/
def State.recordAttempt (channel : Channel) : State :=
  { state with cooperativeAttempted := insert channel.id state.cooperativeAttempted }

/-- Record the channels that may be closed by force. -/
def State.recordForce (selected : Finset String) : State :=
  { state with forceApproved := state.forceApproved ∪ selected }

/-- Record a sweep that may be broadcast. -/
def State.recordSweep (sweep : Sweep) : State :=
  { state with sweeps := state.sweeps ++ [sweep] }

structure Job where
  state : State
  poisoned : Bool
  deriving DecidableEq

inductive Progress where
  | waiting (snapshot : Snapshot) (closeErrors : List String)
  | sweepPreview (sweep : Sweep)
  | confirming (txid : Txid) (confirmations : UInt32)
  | complete
  deriving Repr, DecidableEq

def restartMessage : String :=
  "journal write failed; restart before continuing"

/--
Write the next state of a job, given how the write of the file has ended.  A
failed write leaves the job poisoned: the file may hold either state.
-/
def Job.persist (job : Job) (next : State) (written : Except String Unit) :
    Except String Unit × Job :=
  if job.poisoned then (.error restartMessage, job)
  else
    match written with
    | .error error => (.error error, { job with poisoned := true })
    | .ok () => (.ok (), { job with state := next })

/-!
## The operations of a job

`self` reads the job, `persist` is the method above together with the write
of the file.  `create` and `resume` hand a job to the caller.  The others are
the questions to the file system and the methods of the `Backend`.
-/

inductive JobOp where
  | self
  | tryExists
  | create (state : State)
  | read
  | sync
  | resume (state : State)
  | persist (next : State)
  | snapshot
  | close (channel : Channel) (force : Bool)
  | prepareSweep (plan : Plan)
  | broadcast (sweep : Sweep) (plan : Plan)
  | confirmations (sweep : Sweep)

@[reducible]
def JobAnswer : JobOp → Type
  | .self => Job
  | .tryExists => Except String Bool
  | .create _ => Except String Unit
  | .read => Except String (Option State)
  | .sync => Except String Unit
  | .resume _ => Unit
  | .persist _ => Except String Unit
  | .snapshot => Except String Snapshot
  | .close _ _ => Except String Unit
  | .prepareSweep _ => Except String Sweep
  | .broadcast _ _ => Except String Unit
  | .confirmations _ => Except String UInt32

abbrev JobM :=
  Fallible String JobOp JobAnswer

def failIf (condition : Prop) [Decidable condition] (message : String) : JobM Unit :=
  known (if condition then .error message else .ok ())

/-- What the caller of a method gets. -/
inductive Reply where
  | begun
  | loaded (found : Bool)
  | approved
  | progress (progress : Progress)
  deriving Repr, DecidableEq

section

variable (bitcoin : Bitcoin)

variable (plan : Plan)

/-- A new job; a journal that exists is never replaced. -/
def begin : JobM Reply := do
  known (validatePlan bitcoin plan)
  let found ← known (← ask JobOp.tryExists)
  failIf (found = true) "migration journal already exists; resume it"
  known (← ask (JobOp.create (.begun plan)))
  return .begun

/-- The check of a journal that is loaded for a plan. -/
def checkState (state : State) : Except String Unit := do
  validatePlan bitcoin state.plan
  if state.version ≠ 1 ∨ state.plan ≠ plan then
    .error
      "move-home journal does not match node, network, destination or fee rate; refusing to change the approved plan"
  else
    state.sweeps.forM fun sweep => do
      let _ ← sweep.validate bitcoin plan

/-- The job of an existing journal, which is made durable first. -/
def load : JobM Reply := do
  match ← known (← ask JobOp.read) with
  | none => return .loaded false
  | some state =>
    known (checkState bitcoin plan state)
    known (← ask JobOp.sync)
    ask (JobOp.resume state)
    return .loaded true

/-- The check that every selected channel is a live one. -/
def checkSelected (snapshot : Snapshot) (selected : List String) : Except String Unit :=
  selected.forM fun id =>
    if snapshot.channels.any fun channel => channel.id = id then .ok ()
    else .error ("force-close " ++ id ++ " requires a named live channel")

/-- The owner lets the selected channels be closed by force. -/
def approveForce (selected : Finset String) : JobM Reply := do
  let job ← ask JobOp.self
  let snapshot ← known (← ask JobOp.snapshot)
  known (checkSelected snapshot (selected.sort (· ≤ ·)))
  known (← ask (JobOp.persist (job.state.recordForce selected)))
  return .approved

/-- The sweep before a new one has to be final. -/
def checkPrevious : Option Sweep → JobM Unit
  | none => return ()
  | some previous => do
    let confirmations ← known (← ask (JobOp.confirmations previous))
    failIf (confirmations < finalConfirmations) "previous sweep is not final"

/-- The owner lets exactly this sweep be broadcast. -/
def approveSweep (sweep : Sweep) : JobM Reply := do
  let job ← ask JobOp.self
  let _ ← known (sweep.validate bitcoin job.state.plan)
  let snapshot ← known (← ask JobOp.snapshot)
  failIf (snapshot.waitingForChannels = true) "channel claims or reserves still pending"
  checkPrevious job.state.sweeps.getLast?
  let rebuilt ← known (← ask (JobOp.prepareSweep job.state.plan))
  failIf (rebuilt ≠ sweep) "wallet changed since preview; preview and confirm again"
  known (← ask (JobOp.persist (job.state.recordSweep sweep)))
  return .approved

/-- A sweep that nobody has seen is sent once more. -/
def rebroadcast (sweep : Sweep) (confirmations : UInt32) : JobM Unit :=
  if confirmations = 0 then do
    known (← ask (JobOp.broadcast sweep plan))
  else return ()

/-- The first sweep of the journal that is not final yet. -/
def replaySweeps (plan : Plan) : List Sweep → JobM (Option Progress)
  | [] => return none
  | sweep :: rest => do
    let confirmations ← known (← ask (JobOp.confirmations sweep))
    if confirmations < finalConfirmations then
      rebroadcast plan sweep confirmations
      let txid ← known (sweep.txid bitcoin)
      return some (.confirming txid confirmations)
    else replaySweeps plan rest

/--
Ask for the close of each channel, by force where that is approved.  The
errors of the closes are collected; only a failed journal write ends the loop.
-/
def closeChannels (state : State) : List Channel → List String → JobM (List String)
  | [], closeErrors => return closeErrors
  | channel :: rest, closeErrors => do
    let force := decide (channel.id ∈ state.forceApproved)
    if !force && channel.shuttingDown then closeChannels state rest closeErrors
    else
      match ← ask (JobOp.close channel force) with
      | .error error => closeChannels state rest (closeErrors ++ [channel.id ++ ": " ++ error])
      | .ok () =>
        if !force &&
          decide (channel.id ∉ state.cooperativeAttempted) then
          known (← ask (JobOp.persist (state.recordAttempt channel)))
          closeChannels (state.recordAttempt channel) rest closeErrors
        else closeChannels state rest closeErrors

/-- What remains once no sweep is waiting for its confirmations. -/
def conclude (snapshot : Snapshot) (closeErrors : List String) : JobM Progress :=
  if snapshot.waitingForChannels then return .waiting snapshot closeErrors
  else if snapshot.onchainSats = 0 then return .complete
  else do
    let sweep ← known (← ask (JobOp.prepareSweep plan))
    let _ ← known (sweep.validate bitcoin plan)
    return .sweepPreview sweep

def advance : JobM Reply := do
  let job ← ask JobOp.self
  failIf (job.poisoned = true) restartMessage
  match ← replaySweeps bitcoin job.state.plan job.state.sweeps with
  | some progress => return .progress progress
  | none =>
    let snapshot ← known (← ask JobOp.snapshot)
    let closeErrors ← closeChannels job.state snapshot.channels []
    let progress ← conclude bitcoin job.state.plan snapshot closeErrors
    return .progress progress

end

inductive JobCall where
  | begin (plan : Plan)
  | load (plan : Plan)
  | approveForce (selected : Finset String)
  | approveSweep (sweep : Sweep)
  | advance

def JobCall.code : JobCall → JobM Reply
  | .begin plan => MoveHome.begin bitcoin plan
  | .load plan => MoveHome.load bitcoin plan
  | .approveForce selected => MoveHome.approveForce selected
  | .approveSweep sweep => MoveHome.approveSweep bitcoin sweep
  | .advance => MoveHome.advance bitcoin

/-- The journal file and the job that its owner holds. -/
structure World where
  file : Durable (Option State)
  job : Option Job
  /-- A write of the journal by this job has failed. -/
  failed : Bool

def World.start : World where
  file := .synced none
  job := none
  failed := false

/-- Hand a new job to the caller. -/
def World.hold (world : World) (state : State) : World :=
  { world with job := some ⟨state, false⟩, failed := false }

/-- One operation; the backend and the file system may answer anything. -/
def effect (before : World) : (operation : JobOp) → JobAnswer operation → World → Prop
  | .self, job, after => before.job = some job ∧ after = before
  | .tryExists, answer, after =>
    (∀ found, answer = .ok found → found = before.file.current.isSome) ∧ after = before
  | .create state, answer, after =>
    ∃ file, before.file.Write (some state) answer.isOk file ∧
      after =
        if answer.isOk then { before with file }.hold state
        else { before with file }
  | .read, answer, after =>
    (∀ found, answer = .ok found → found = before.file.current) ∧ after = before
  | .sync, answer, after =>
    ∃ file, before.file.Sync answer.isOk file ∧ after = { before with file }
  | .resume state, _, after => after = before.hold state
  | .persist next, answer, after =>
    ∃ job written, before.job = some job ∧ answer = (job.persist next written).1 ∧
      if job.poisoned then after = before
      else
        ∃ file, before.file.Write (some next) written.isOk file ∧
          after =
            { file
              job := some (job.persist next written).2
              failed := !written.isOk }
  | .snapshot, _, after
  | .close _ _, _, after
  | .prepareSweep _, _, after
  | .broadcast _ _, _, after
  | .confirmations _, _, after => after = before

/-- A crash takes the job. -/
def crash (before after : World) : Prop :=
  before.file.Crash after.file ∧ after.job = none ∧ after.failed = false

/-- The calls of the owner's console on one journal. -/
def session : Session JobCall World JobOp JobAnswer (Except String Reply) where
  code call := (call.code bitcoin).run
  effect
  crash

end BitSov.MoveHome
