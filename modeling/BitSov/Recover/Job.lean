import BitSov.Process.Durable
import BitSov.Process.Session
import BitSov.Recover.Sweep

namespace BitSov.Recover

open Arithmetic Process Fallible

/-!
# Recovering funds from the seed

A node that has lost its state is restored from its seed alone.  What its
peers have paid out when they closed their channels is found on the chain and
swept to one destination.  The work is a `Job` over a journal file, which also
keeps the node from starting normally until the recovery is finished.
-/

structure Report where
  nodeId : String
  (closingTxids sweepTxids : List Txid)
  recoveredSats : UInt64
  selfTest : String
  deriving Repr, DecidableEq

structure SavedSweep where
  sweep : Sweep
  inputs : List FoundOutput
  deriving Repr, DecidableEq

structure Recovery where
  plan : Plan
  funding : List OutPoint
  closes : List (OutPoint × Txid)
  sweeps : List SavedSweep
  report : Option Report
  deriving Repr, DecidableEq

/-- A recovery of which nothing is done yet. -/
def Recovery.begun (plan : Plan) (funding : List OutPoint) : Recovery where
  plan
  funding
  closes := []
  sweeps := []
  report := none

/-- The close that was recorded for a funding output. -/
def Recovery.savedClose (recovery : Recovery) (funding : OutPoint) : Option Txid :=
  (recovery.closes.find? fun close => close.1 = funding).map Prod.snd

/-- Whether the recovery is over. -/
inductive JournalState where
  | opened
  | done
  deriving Repr, DecidableEq

/-- What the journal file records. -/
structure Journal where
  version : UInt32
  state : JournalState
  recovery : Option Recovery
  deriving Repr, DecidableEq

/-- The journal of a restored seed, before any job. -/
def Journal.initial : Journal where
  version := 1
  state := .opened
  recovery := none

/-- The journal of a job: its recovery has begun. -/
structure Ledger where
  state : JournalState
  recovery : Recovery
  deriving Repr, DecidableEq

namespace Ledger

variable (ledger : Ledger)

def journal : Journal where
  version := 1
  state := ledger.state
  recovery := some ledger.recovery

/-- Record a sweep that may be broadcast. -/
def recordSweep (saved : SavedSweep) : Ledger :=
  { ledger with recovery := { ledger.recovery with sweeps := ledger.recovery.sweeps ++ [saved] } }

/-- Record the transaction that has closed a channel. -/
def recordClose (funding : OutPoint) (id : Txid) : Ledger :=
  { ledger with
    recovery :=
      { ledger.recovery with closes := ledger.recovery.closes ++ [(funding, id)] } }

def complete (report : Report) : Ledger where
  state := .done
  recovery := { ledger.recovery with report := some report }

end Ledger

/-- The check of a file that was read. -/
def checkVersion : Option Journal → Except String (Option Journal)
  | none => .ok none
  | some journal =>
    if journal.version ≠ 1 then .error "unsupported recovery journal" else .ok (some journal)

/-- A node starts normally if no recovery is open. -/
def checkNormalStart : Option Journal → Except String Unit
  | none => .ok ()
  | some journal =>
    if journal.state ≠ .done ∨ journal.recovery.any fun recovery => recovery.report.isNone then
      .error "recover.json is open; resume konsensus recover on the owner console"
    else .ok ()

structure Job where
  ledger : Ledger
  poisoned : Bool
  /-- Scripts that the next pass polls; none of them means every script. -/
  focus : List Script
  deriving Repr, DecidableEq

namespace Job

variable (job : Job)

def plan : Plan :=
  job.ledger.recovery.plan

def done : Bool :=
  job.ledger.state = .done

def sweeps : List SavedSweep :=
  job.ledger.recovery.sweeps

def funding : List OutPoint :=
  job.ledger.recovery.funding

def check : Except String Unit :=
  if job.poisoned then .error "journal write failed; restart recovery" else .ok ()

/--
Write the next journal of a job, given how the write of the file has ended.  A
failed write leaves the job poisoned: the file may hold either journal.
-/
def save (next : Ledger) (written : Except String Unit) : Except String Unit × Job :=
  match job.check with
  | .error error => (.error error, job)
  | .ok () =>
    match written with
    | .error error => (.error error, { job with poisoned := true })
    | .ok () => (.ok (), { job with ledger := next })

/-- Poll the scripts of the outputs next time, each of them once. -/
def refocus (outputs : List FoundOutput) : Job :=
  { job with
    focus :=
      if job.funding = [] then
        outputs.foldl (fun focus output =>
          if output.txout.scriptPubkey ∈ focus then focus else focus ++ [output.txout.scriptPubkey])
          []
      else [] }

/-- Poll every script next time. -/
def clearFocus : Job :=
  { job with focus := [] }

end Job

inductive Progress where
  | waitingForHub
  | sweepPreview (sweep : Sweep) (inputs : List FoundOutput)
  | confirming (txid : Txid) (confirmations : UInt32)
  | selfTest
  | complete
  deriving Repr, DecidableEq

/-!
## The operations of a job

`self` reads the job and `save` is the method above together with the write of
the file.  `create` writes the first journal, `load` writes the journal of a
job and hands the job to the caller.  The others are the questions to the file
system and the methods of the `RecoveryChain`.
-/

inductive JobOp where
  | ensureFreshRoot
  | ensureRecoveryRoot
  | read
  | create
  | load (ledger : Ledger)
  | self
  | save (next : Ledger)
  | refocus (outputs : List FoundOutput)
  | clearFocus
  | scan (scripts : List RecoveryScript)
  | fundingSpend (funding : OutPoint)
  | transaction (txid : Txid)
  | recheck (outputs : List FoundOutput)
  | broadcast (tx : Transaction)

@[reducible]
def JobAnswer : JobOp → Type
  | .ensureFreshRoot => Except String Unit
  | .ensureRecoveryRoot => Except String Unit
  | .read => Except String (Option Journal)
  | .create => Except String Unit
  | .load _ => Except String Unit
  | .self => Job
  | .save _ => Except String Unit
  | .refocus _ => Unit
  | .clearFocus => Unit
  | .scan _ => Except String (List FoundOutput)
  | .fundingSpend _ => Except String (Option ChainTransaction)
  | .transaction _ => Except String (Option ChainTransaction)
  | .recheck _ => Except String Bool
  | .broadcast _ => Except String Unit

abbrev JobM :=
  Fallible String JobOp JobAnswer

/-- The journal file, if there is one of a known version. -/
def readJournal : JobM (Option Journal) := do
  let found ← known (← ask JobOp.read)
  known (checkVersion found)

/-- Write the first journal; one that exists is never replaced. -/
def initializeJournal : JobM Unit := do
  known (← ask JobOp.ensureFreshRoot)
  let found ← readJournal
  failIf (found.isSome = true) "recovery journal already exists"
  known (← ask JobOp.create)

def ensureNormalStart : JobM Unit := do
  let found ← readJournal
  known (checkNormalStart found)

section

variable (bitcoin : Bitcoin)

/-- The journal to go on with, for a plan and the funding to look for. -/
def resumeLedger (plan : Plan) (funding : List OutPoint) : Option Journal → Except String Ledger
  | none => .error "restore the seed into a fresh directory first"
  | some journal =>
    match journal.recovery with
    | some recovery =>
      if recovery.plan ≠ plan ∨ recovery.funding ≠ funding then
        .error "recovery plan changed; use the original node/network/destination/fee/backup"
      else do
        recovery.sweeps.forM fun saved => do
          let _ ← saved.sweep.validate bitcoin plan
        return ⟨journal.state, recovery⟩
    | none =>
      if journal.state ≠ .opened then .error "recovery already done"
      else .ok ⟨.opened, .begun plan funding⟩

def loadOrBegin (plan : Plan) (funding : List OutPoint) : JobM Unit := do
  known (← ask JobOp.ensureRecoveryRoot)
  let found ← readJournal
  let ledger ← known (resumeLedger bitcoin plan funding found)
  known (← ask (JobOp.load ledger))

/--
Look for one approved sweep.  If its inputs are unspent it is sent once more;
otherwise it has to be on the chain.
-/
def resumeSweep (saved : SavedSweep) : JobM (Option Progress) := do
  let tx ← known (saved.sweep.tx bitcoin)
  let unspent ← known (← ask (JobOp.recheck saved.inputs))
  if unspent = true then
    known (← ask (JobOp.broadcast tx))
    return some (.confirming (bitcoin.computeTxid tx) 0)
  else
    match ← known (← ask (JobOp.transaction (bitcoin.computeTxid tx))) with
    | some current =>
      failIf (current.transaction ≠ tx) "chain transaction differs from approved sweep"
      if current.confirmations < finalConfirmations then
        return some (.confirming (bitcoin.computeTxid tx) current.confirmations)
      else return none
    | none =>
      known (.error "approved inputs are spent but sweep is unknown; journal remains open")

/-- The first sweep that is not final yet. -/
def resumeEach : List SavedSweep → JobM (Option Progress)
  | [] => return none
  | saved :: rest => do
    match ← resumeSweep bitcoin saved with
    | some progress => return some progress
    | none => resumeEach rest

def resumeSweeps : JobM (Option Progress) := do
  let job ← ask JobOp.self
  known job.check
  resumeEach bitcoin job.sweeps

/-- The output is one of a confirmed transaction that closes a channel. -/
def authenticateClose (funding : List OutPoint) (output : FoundOutput) : JobM Unit := do
  match ← known (← ask (JobOp.transaction output.outpoint.txid)) with
  | none => known (.error "closing transaction unavailable")
  | some close =>
    failIf (close.confirmations = 0 ∨
      close.transaction.output[output.outpoint.vout.toNat]? ≠ some output.txout)
      "closing output is not confirmed/authenticated"
    failIf (funding ≠ [] ∧
      ∀ outpoint ∈ close.transaction.prevouts, outpoint ∉ funding)
      "backup-index output does not spend a known funding outpoint"

def authenticateCloses (funding : List OutPoint) : List FoundOutput → JobM Unit
  | [] => return ()
  | output :: rest => do
    authenticateClose funding output
    authenticateCloses funding rest

/-- The transaction that closed a channel: the recorded one, or any. -/
def findClose (funding : OutPoint) : Option Txid → JobM (Option ChainTransaction)
  | some id => do known (← ask (JobOp.transaction id))
  | none => do known (← ask (JobOp.fundingSpend funding))

/-- Record a close that is seen for the first time. -/
def recordClose (job : Job) (funding : OutPoint) (saved : Option Txid) (id : Txid) : JobM Unit :=
  match saved with
  | some _ => return ()
  | none => do
    known (← ask (JobOp.save (job.ledger.recordClose funding id)))

/-- The close of one channel, once it is final. -/
def confirmedClose (funding : OutPoint) : JobM (Option Txid) := do
  let job ← ask JobOp.self
  let saved := job.ledger.recovery.savedClose funding
  match ← findClose funding saved with
  | none => return none
  | some close =>
    failIf (close.transaction.spends funding = false)
      "closing transaction does not spend the indexed funding outpoint"
    if close.confirmations < finalConfirmations then return none
    else
      let id := bitcoin.computeTxid close.transaction
      failIf (saved.any (· ≠ id) = true) "closing transaction identity changed"
      recordClose job funding saved id
      return some id

/-- The closes of all channels, once they are final. -/
def confirmedCloses : List OutPoint → List Txid → JobM (Option (List Txid))
  | [], ids => return some ids
  | funding :: rest, ids => do
    match ← confirmedClose bitcoin funding with
    | none => return none
    | some id => confirmedCloses rest (ids ++ [id])

/-- The scripts of a scan: those that were given, or some of them. -/
inductive Targets where
  | borrowed
  | owned (narrowed : List RecoveryScript)
  deriving Repr, DecidableEq

variable (focus : List Script) (scripts : List RecoveryScript)

def scanTargets : Targets :=
  if focus = [] then .borrowed
  else
    let narrowed := scripts.filter fun script => script.scriptPubkey ∈ focus
    if narrowed = [] then .borrowed else .owned narrowed

/-- How the scan of a pass has ended. -/
inductive Scanned where
  | unconfirmed
  | nothing
  | found (outputs : List FoundOutput)
  deriving Repr, DecidableEq

/-- The turn of the scan loop over all scripts, which is the last one. -/
def scanAll (scripts : List RecoveryScript) : JobM Scanned := do
  let outputs ← known (← ask (JobOp.scan scripts))
  ask (JobOp.refocus outputs)
  if outputs.any (·.confirmations = 0) = true then return .unconfirmed
  else if outputs = [] then return .nothing
  else return .found outputs

/--
The turn of the scan loop over the remembered scripts.  Whatever it finds, if
there is nothing to wait for the loop goes on with all scripts.
-/
def scanNarrowed (scripts narrowed : List RecoveryScript) : JobM Scanned := do
  let outputs ← known (← ask (JobOp.scan narrowed))
  if outputs = [] then scanAll scripts
  else
    ask (JobOp.refocus outputs)
    if outputs.any (·.confirmations = 0) = true then return .unconfirmed else scanAll scripts

/-- Scan the focus, or everything. -/
def scanPass : JobM Scanned :=
  match scanTargets focus scripts with
  | .borrowed => scanAll scripts
  | .owned narrowed => scanNarrowed scripts narrowed

/-- The sweep of what a pass has found. -/
def preview (keys : RecoveryKeys) (job : Job) (outputs : List FoundOutput) : JobM Progress := do
  authenticateCloses job.funding outputs
  let destination ← known (job.plan.address bitcoin)
  let feerate ← known
    ((bitcoin.fromSatPerVb job.plan.feeRateSatVb).elim (.error "invalid fee rate") .ok)
  let signed ← known
    ((keys.buildSweep bitcoin outputs destination feerate).mapError RecoveryError.toText)
  let sweep : Sweep := ⟨bitcoin.serializeHex signed.transaction, signed.fee⟩
  let _ ← known (sweep.validate bitcoin job.plan)
  return .sweepPreview sweep outputs

/-- What a pass reports when nothing is left to sweep. -/
def concludePass (job : Job) : JobM Progress :=
  if job.sweeps = [] ∧ job.funding = [] then return .waitingForHub
  else do
    match ← confirmedCloses bitcoin job.funding [] with
    | none => return .waitingForHub
    | some _ => return .selfTest

def advance (keys : RecoveryKeys) (scripts : List RecoveryScript) : JobM Progress := do
  let job ← ask JobOp.self
  known job.check
  if job.done = true then return .complete
  else
    match ← resumeSweeps bitcoin with
    | some progress => return progress
    | none =>
      match ← scanPass job.focus scripts with
      | .unconfirmed => return .waitingForHub
      | .nothing => concludePass bitcoin job
      | .found outputs => preview bitcoin keys job outputs

/-- The sum of the values of the outputs, if it does not overflow. -/
def inputTotal (inputs : List FoundOutput) : Option UInt64 :=
  inputs.foldlM (fun total output => checkedAdd total output.txout.value) 0

/-- The checks of a sweep that the owner approves with its inputs. -/
def checkInputs (sweeps : List SavedSweep) (sweep : Sweep) (tx : Transaction)
    (inputs : List FoundOutput) : Except String Unit :=
  if ∃ saved ∈ sweeps, ∃ old ∈ saved.inputs, ∃ new ∈ inputs, old.outpoint = new.outpoint then
    .error "sweep input already authorized; resume the saved transaction"
  else if inputs = [] ∨ tx.input.length ≠ inputs.length ∨
    ∃ pair ∈ tx.input.zip inputs, pair.1.previousOutput ≠ pair.2.outpoint then
    .error "sweep inputs differ from preview"
  else
    match inputTotal inputs with
    | none => .error "input overflow"
    | some total =>
      -- A validated sweep has its one output at this place.
      if (tx.output[0]?.bind fun output =>
          checkedAdd output.value sweep.feeSats) ≠ some total then
        .error "sweep fee differs from preview"
      else .ok ()

/-- The owner lets exactly this sweep of these outputs be broadcast. -/
def approve (sweep : Sweep) (inputs : List FoundOutput) : JobM Unit := do
  let job ← ask JobOp.self
  known job.check
  let _ ← known (sweep.validate bitcoin job.plan)
  let tx ← known (sweep.tx bitcoin)
  known (checkInputs job.sweeps sweep tx inputs)
  let unspent ← known (← ask (JobOp.recheck inputs))
  failIf (unspent = false) "inputs changed during consent; preview again"
  authenticateCloses job.funding inputs
  known (← ask (JobOp.save (job.ledger.recordSweep ⟨sweep, inputs⟩)))
  ask JobOp.clearFocus

/-- Enter a sweep into the report; it has to be final. -/
def reportSweep (plan : Plan) (saved : SavedSweep) (report : Report) : JobM Report := do
  let tx ← known (saved.sweep.tx bitcoin)
  match ← known (← ask (JobOp.transaction (bitcoin.computeTxid tx))) with
  | none => known (.error "sweep missing")
  | some current =>
    failIf (current.transaction ≠ tx ∨
      current.confirmations < finalConfirmations)
      "sweep reorged; recovery remains open"
    let amount ← known (saved.sweep.validate bitcoin plan)
    return {
      report with
        sweepTxids := report.sweepTxids ++ [bitcoin.computeTxid tx]
        recoveredSats := report.recoveredSats + amount
        closingTxids := report.closingTxids ++ saved.inputs.map fun output => output.outpoint.txid
    }

def reportSweeps (plan : Plan) : List SavedSweep → Report → JobM Report
  | [], report => return report
  | saved :: rest, report => do
    let more ← reportSweep bitcoin plan saved report
    reportSweeps plan rest more

/-- Every close is reported once, in order. -/
def Report.tidy (report : Report) : Report :=
  { report with
    closingTxids := (report.closingTxids.mergeSort fun first second =>
      decide (first ≤ second)).eraseReps }

/-- Check everything once more and end the recovery. -/
def finish (selfTest : String) : JobM Report := do
  let job ← ask JobOp.self
  known job.check
  failIf ((job.sweeps = [] ∧ job.funding = []) ∨ selfTest = "") "recovery/self-test incomplete"
  match ← confirmedCloses bitcoin job.funding [] with
  | none => known (.error "funding close reorged, unknown or immature")
  | some closingTxids =>
    -- The journal has been written since the job was read.
    let job ← ask JobOp.self
    let report ← reportSweeps bitcoin job.plan job.sweeps
      ⟨job.plan.nodeId, closingTxids, [], 0, selfTest⟩
    known (← ask (JobOp.save (job.ledger.complete report.tidy)))
    return report.tidy

end

inductive JobCall where
  | initializeJournal
  | loadOrBegin (plan : Plan) (funding : List OutPoint)
  | advance (keys : RecoveryKeys) (scripts : List RecoveryScript)
  | resumeSweeps
  | approve (sweep : Sweep) (inputs : List FoundOutput)
  | finish (selfTest : String)
  | ensureNormalStart

/-- What the caller of a method gets. -/
inductive Reply where
  | completed
  | progress (progress : Progress)
  | resumed (progress : Option Progress)
  | report (report : Report)
  deriving Repr, DecidableEq

def JobCall.code (bitcoin : Bitcoin) : JobCall → JobM Reply
  | .initializeJournal => do
    Recover.initializeJournal
    return .completed
  | .loadOrBegin plan funding => do
    Recover.loadOrBegin bitcoin plan funding
    return .completed
  | .advance keys scripts => do
    let progress ← Recover.advance bitcoin keys scripts
    return .progress progress
  | .resumeSweeps => do
    let progress ← Recover.resumeSweeps bitcoin
    return .resumed progress
  | .approve sweep inputs => do
    Recover.approve bitcoin sweep inputs
    return .completed
  | .finish selfTest => do
    let report ← Recover.finish bitcoin selfTest
    return .report report
  | .ensureNormalStart => do
    Recover.ensureNormalStart
    return .completed

/-- The journal file and the job that was loaded last. -/
structure World where
  file : Durable (Option Journal)
  job : Option Job
  /-- A write of a job, or of its load, has failed since a load succeeded. -/
  failed : Bool

def World.start : World where
  file := .synced none
  job := none
  failed := false

/-- One operation; the chain and the file system may answer anything. -/
def effect (before : World) : (operation : JobOp) → JobAnswer operation → World → Prop
  | .read, answer, after =>
    (∀ found, answer = .ok found → found = before.file.current) ∧ after = before
  | .create, answer, after =>
    ∃ file, before.file.Write (some .initial) answer.isOk file ∧ after = { before with file }
  | .load ledger, answer, after =>
    ∃ file, before.file.Write (some ledger.journal) answer.isOk file ∧
      after =
        { file
          job := if answer.isOk then some ⟨ledger, false, []⟩ else none
          failed := !answer.isOk }
  | .self, job, after => before.job = some job ∧ after = before
  | .save next, answer, after =>
    ∃ job written, before.job = some job ∧ answer = (job.save next written).1 ∧
      if job.poisoned then after = before
      else
        ∃ file, before.file.Write (some next.journal) written.isOk file ∧
          after =
            { file
              job := some (job.save next written).2
              failed := !written.isOk }
  | .refocus outputs, _, after => after = { before with job := before.job.map (·.refocus outputs) }
  | .clearFocus, _, after => after = { before with job := before.job.map Job.clearFocus }
  | .ensureFreshRoot, _, after
  | .ensureRecoveryRoot, _, after
  | .scan _, _, after
  | .fundingSpend _, _, after
  | .transaction _, _, after
  | .recheck _, _, after
  | .broadcast _, _, after => after = before

/-- A crash takes the job. -/
def crash (before after : World) : Prop :=
  before.file.Crash after.file ∧ after.job = none ∧ after.failed = before.failed

/-- The calls of the owner's console on one journal. -/
def session (bitcoin : Bitcoin) : Session JobCall World JobOp JobAnswer (Except String Reply) where
  code call := (call.code bitcoin).run
  effect
  crash

end BitSov.Recover
