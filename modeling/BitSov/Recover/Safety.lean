import BitSov.Recover.Job

namespace BitSov.Recover

open Arithmetic Process List Job FoundOutput

/-!
# What a recovery does with the owner's funds

Every operation of a call is careful: the journal changes only as the call
says, and what is broadcast stands in the journal that would survive a crash.
What a call has seen of the chain is read off its own operations.
-/

abbrev JobEvent :=
  Event JobOp JobAnswer

/-!
## What is recorded
-/

/-- What the inputs are worth together. -/
def valueOf (inputs : List FoundOutput) : Nat :=
  (inputs.map fun output => output.txout.value.toNat).sum

/--
The transaction of a saved sweep: it spends the approved inputs, and its only
output pays everything but the recorded fee to the destination of the plan.
-/
structure Spends (bitcoin : Bitcoin) (plan : Plan) (saved : SavedSweep) (tx : Transaction) :
    Prop where
  stored : saved.sweep.tx bitcoin = .ok tx
  inputs : tx.prevouts = saved.inputs.map outpoint
  output : ∃ output,
    tx.output = [output] ∧ plan.address bitcoin = .ok output.scriptPubkey ∧
      output.value ≠ 0 ∧
      output.value.toNat + saved.sweep.feeSats.toNat = valueOf saved.inputs

/-- The sweeps have no input in common. -/
def SavedSweep.Apart (first second : SavedSweep) : Prop :=
  ∀ old ∈ first.inputs, ∀ new ∈ second.inputs, old.outpoint ≠ new.outpoint

/-- The sweeps of a recovery pay its destination, each from its own inputs. -/
structure Recovery.Valid (bitcoin : Bitcoin) (recovery : Recovery) : Prop where
  spends : ∀ saved ∈ recovery.sweeps, ∃ tx, Spends bitcoin recovery.plan saved tx
  apart : recovery.sweeps.Pairwise SavedSweep.Apart

variable (bitcoin : Bitcoin) (journal : Option Journal)

/-- The recovery of a journal that may be absent. -/
def recoveryOf : Option Recovery :=
  journal.bind Journal.recovery

/-- What may not change once a recovery has begun. -/
def termsOf : Option (Plan × List OutPoint) :=
  (recoveryOf journal).map fun recovery => (recovery.plan, recovery.funding)

/-- The approved sweeps of a journal. -/
def sweepsOf : List SavedSweep :=
  (recoveryOf journal).elim [] Recovery.sweeps

/-- The journal says that the recovery is over. -/
def Done : Prop :=
  journal.map Journal.state = some .done

def Valid : Prop :=
  ∀ recovery, recoveryOf journal = some recovery → recovery.Valid bitcoin

/-- The later journal has all of the earlier one, on the same terms. -/
structure Precedes (earlier later : Option Journal) : Prop where
  sweeps : sweepsOf earlier <+: sweepsOf later
  terms : ∀ terms, termsOf earlier = some terms → termsOf later = some terms
  done : Done earlier → Done later

theorem Precedes.refl :
    Precedes journal journal := ⟨prefix_rfl, fun _ same => same, fun done => done⟩

theorem Precedes.trans (prior : Precedes first second)
    (later : Precedes second third) : Precedes first third where
  sweeps := prior.sweeps.trans later.sweeps
  terms terms same := later.terms terms (prior.terms terms same)
  done done := later.done (prior.done done)

/-!
## What a call has seen
-/

variable (past : List JobEvent)

/-- The transaction of the output is confirmed and closes a channel. -/
def Authenticated (funding : List OutPoint) (output : FoundOutput) : Prop :=
  ∃ close : ChainTransaction,
    ⟨.transaction output.outpoint.txid, .ok (some close)⟩ ∈ past ∧
      close.confirmations ≠ 0 ∧
      close.transaction.output[output.outpoint.vout.toNat]? = some output.txout ∧
      (funding ≠ [] → ∃ outpoint ∈ close.transaction.prevouts, outpoint ∈ funding)

/-- The approved sweep is on the chain, unchanged and final. -/
def SweepFinal (saved : SavedSweep) : Prop :=
  ∃ tx, ∃ current : ChainTransaction,
    saved.sweep.tx bitcoin = .ok tx ∧
      ⟨.transaction (bitcoin.computeTxid tx), .ok (some current)⟩ ∈ past ∧
      current.transaction = tx ∧ 6 ≤ current.confirmations

/-- A transaction that spends the funding output is on the chain and final. -/
def CloseFinal (funding : OutPoint) : Prop :=
  ∃ close : ChainTransaction,
    ((∃ id, ⟨.transaction id, .ok (some close)⟩ ∈ past) ∨
      ⟨.fundingSpend funding, .ok (some close)⟩ ∈ past) ∧
      funding ∈ close.transaction.prevouts ∧ 6 ≤ close.confirmations

/-- What a call has seen when it journals an approved sweep. -/
structure Approves (past : List JobEvent) (funding : List OutPoint) (inputs : List FoundOutput) :
    Prop where
  unspent : ⟨.recheck inputs, .ok true⟩ ∈ past
  authenticated : ∀ output ∈ inputs, Authenticated past funding output

/-- What a call has seen of a recovery that may be over. -/
structure Rechecked (bitcoin : Bitcoin) (past : List JobEvent) (recovery : Recovery) : Prop where
  something : recovery.sweeps ≠ [] ∨ recovery.funding ≠ []
  sweeps : ∀ saved ∈ recovery.sweeps, SweepFinal bitcoin past saved
  closes : ∀ funding ∈ recovery.funding, CloseFinal past funding

/-- The last scan of a call was over these scripts and has found this. -/
def LastScan (scripts : List RecoveryScript) (outputs : List FoundOutput) : Prop :=
  ∃ earlier later,
    past = earlier ++ ⟨.scan scripts, .ok outputs⟩ :: later ∧
      ∀ event ∈ later, ∀ others, event.operation ≠ .scan others

/-- What a call has seen when it shows a sweep to the owner. -/
structure Previewed (bitcoin : Bitcoin) (past : List JobEvent) (funding : List OutPoint)
    (scripts : List RecoveryScript) (sweep : Sweep) (inputs : List FoundOutput) : Prop where
  scanned : LastScan past scripts inputs
  spends : ∃ tx, sweep.tx bitcoin = .ok tx ∧ tx.prevouts = inputs.map outpoint
  confirmed : ∀ output ∈ inputs, output.confirmations ≠ 0
  authenticated : ∀ output ∈ inputs, Authenticated past funding output

/-- What one operation of a call may do to the journal. -/
inductive Journaled (bitcoin : Bitcoin) (call : JobCall) (past : List JobEvent) :
    Option Journal → Option Journal → Prop
  | kept (journal : Option Journal) : Journaled bitcoin call past journal journal
  | initialized (called : call = .initializeJournal) :
      Journaled bitcoin call past none (some .initial)
  | begun {plan : Plan} {funding : List OutPoint} (called : call = .loadOrBegin plan funding) :
    Journaled bitcoin call past (some .initial)
      (some (Ledger.journal ⟨.opened, .begun plan funding⟩))
  | closed (ledger : Ledger) (funding : OutPoint) (id : Txid) :
    Journaled bitcoin call past (some ledger.journal) (some (ledger.recordClose funding id).journal)
  | swept {ledger : Ledger} {sweep : Sweep} {inputs : List FoundOutput}
      (called : call = .approve sweep inputs)
      (approves : Approves past ledger.recovery.funding inputs) :
    Journaled bitcoin call past (some ledger.journal)
      (some (ledger.recordSweep ⟨sweep, inputs⟩).journal)
  | finished {ledger : Ledger} {report : Report} {selfTest : String}
      (called : call = .finish selfTest) (rechecked : Rechecked bitcoin past ledger.recovery) :
      Journaled bitcoin call past (some ledger.journal) (some (ledger.complete report).journal)

/--
A careful operation.  What is broadcast stands in the durable journal, and
after a failed write only the load of a job writes again.
-/
structure Careful (bitcoin : Bitcoin) (call : JobCall) (past : List JobEvent) (before : World)
    (event : JobEvent) (after : World) : Prop where
  journal : Journaled bitcoin call past before.file.current after.file.current
  durable : Precedes before.file.durable after.file.durable
  broadcast : ∀ tx,
    event.operation = .broadcast tx →
      before.failed = false ∧
        ∃ (ledger : Ledger) (saved : SavedSweep),
          before.file.durable = some ledger.journal ∧
            saved ∈ ledger.recovery.sweeps ∧
            Spends bitcoin ledger.recovery.plan saved tx
  written : before.failed = true →
    after.file = before.file ∨ event.operation = .create ∨ ∃ ledger, event.operation = .load ledger

/-- What an answer of a call guarantees. -/
def Achieved : JobCall → Reply → Recorded World JobOp JobAnswer → Prop
  | .advance _ scripts, .progress (.sweepPreview sweep inputs), state =>
    ∃ job, state.1.job = some job ∧ Previewed bitcoin state.2 job.funding scripts sweep inputs
  | .advance _ scripts, .progress .selfTest, state =>
    ∃ job, state.1.job = some job ∧ LastScan state.2 scripts [] ∧
      Rechecked bitcoin state.2 job.ledger.recovery
  | .loadOrBegin plan funding, _, state => termsOf state.1.file.durable = some (plan, funding)
  | .ensureNormalStart, _, state => checkNormalStart state.1.file.current = .ok ()
  | _, _, _ => True

/-- What holds between the journal and the job at every moment. -/
structure World.Sound (bitcoin : Bitcoin) (world : World) : Prop where
  valid : world.file.Always (Valid bitcoin)
  trails : world.file.Trails Precedes
  held : ∀ job, world.job = some job →
    job.poisoned = false → world.file = .synced (some job.ledger.journal) ∧ world.failed = false
  terms : ∀ job, world.job = some job → termsOf world.file.durable = some (job.plan, job.funding)

/-- What the calls of a recovery keep, promise and achieve. -/
def covenant : Covenant (session bitcoin) where
  invariant := World.Sound bitcoin
  promise call before after := ∃ event,
    after.2 = before.2 ++ [event] ∧ Careful bitcoin call before.2 before.1 event after.1
  result call outcome state := ∀ reply, outcome = .ok reply → Achieved bitcoin call reply state

/-- A part of a call does as it is specified. -/
abbrev Keeps (call : JobCall) (pre : Recorded World JobOp JobAnswer → Prop) (part : JobM α)
    (post : Except String α → Recorded World JobOp JobAnswer → Prop) : Prop :=
  ((covenant bitcoin).view call).Triple pre part.run post

section

variable {bitcoin : Bitcoin}

variable {inputs : List FoundOutput} {tx : Transaction} {ledger : Ledger}

theorem valid_initial : Valid bitcoin (some .initial) := by
  rintro _ ⟨⟩

theorem valid_begun (plan funding) :
    Valid bitcoin (some (Ledger.journal ⟨.opened, .begun plan funding⟩)) := by
  rintro _ ⟨⟩
  exact ⟨nofun, .nil⟩

section

variable (valid : ledger.recovery.Valid bitcoin)
include valid

theorem valid_recordClose (funding id) :
    Valid bitcoin (some (ledger.recordClose funding id).journal) := by
  rintro _ ⟨⟩
  exact ⟨valid.spends, valid.apart⟩

theorem valid_complete (report) : Valid bitcoin (some (ledger.complete report).journal) := by
  rintro _ ⟨⟩
  exact ⟨valid.spends, valid.apart⟩

theorem valid_recordSweep (spends : Spends bitcoin ledger.recovery.plan saved tx)
    (apart : ∀ old ∈ ledger.recovery.sweeps, old.Apart saved) :
    Valid bitcoin (some (ledger.recordSweep saved).journal) := by
  rintro _ ⟨⟩
  constructor
  · intro other mem
    rcases mem_append.mp mem with former | only
    · exact valid.spends other former
    · rw [mem_singleton.mp only]
      exact ⟨tx, spends⟩
  refine pairwise_append.mpr ⟨valid.apart, pairwise_singleton _ _, ?_⟩
  intro old former _ only
  rw [mem_singleton.mp only]
  exact apart old former

end

theorem toNat_foldlM_checkedAdd
    (added : inputs.foldlM (fun total output => checkedAdd total output.txout.value) start =
      some total) : total.toNat = start.toNat + valueOf inputs := by
  induction inputs generalizing start with
  | nil =>
    cases added
    rfl
  | cons _ _ ih =>
    rw [foldlM_cons] at added
    obtain ⟨_, addedOne, addedRest⟩ := Option.bind_eq_some_iff.mp added
    have sum := (checkedAdd_eq_some_iff.mp addedOne)
    rw [ih addedRest]
    simp only [valueOf, map_cons, sum_cons]
    omega

theorem prevouts_of_zip (length : tx.input.length = inputs.length)
    (same : ¬ ∃ pair ∈ tx.input.zip inputs, pair.1.previousOutput ≠ pair.2.outpoint) :
    tx.prevouts = inputs.map outpoint := by
  unfold Transaction.prevouts
  rw [← forall₂_eq_eq_eq, forall₂_map_left_iff, forall₂_map_right_iff, forall₂_iff_zip]
  refine ⟨length, fun {input output} mem => ?_⟩
  by_contra ne
  exact same ⟨(input, output), mem, ne⟩

theorem spends_of_checkInputs {plan : Plan} {sweeps : List SavedSweep}
    (valid : sweep.validate bitcoin plan = .ok amount)
    (stored : sweep.tx bitcoin = .ok tx) (checked : checkInputs sweeps sweep tx inputs = .ok ()) :
    Spends bitcoin plan ⟨sweep, inputs⟩ tx ∧ ∀ old ∈ sweeps, old.Apart ⟨sweep, inputs⟩ := by
  obtain ⟨_, output, storedAgain, only, address, positive, -⟩ := Sweep.validate_eq_ok_iff.mp valid
  cases stored.symm.trans storedAgain
  unfold checkInputs at checked
  split at checked
  · cases checked
  next unshared =>
  split at checked
  · cases checked
  next agreeing =>
  rw [not_or, not_or, not_not] at agreeing
  split at checked
  · cases checked
  next total added =>
  split at checked
  · cases checked
  next paid =>
  constructor
  · refine ⟨stored, prevouts_of_zip agreeing.2.1 agreeing.2.2, output, only, address, positive, ?_⟩
    rw [not_not, only] at paid
    have sum := checkedAdd_eq_some_iff.mp paid
    have total := toNat_foldlM_checkedAdd added
    rw [UInt64.toNat_zero, zero_add] at total
    exact sum.symm.trans total
  · intro saved mem old formerInput new newInput same
    exact unshared ⟨saved, mem, old, formerInput, new, newInput, same⟩

end

section

variable {bitcoin : Bitcoin} {call : JobCall} {past : List JobEvent} {before after : World}

variable {answer : Except String Unit}

theorem Journaled.precedes (journaled : Journaled bitcoin call past earlier later) :
    Precedes earlier later := by
  cases journaled with
  | kept => exact .refl _
  | initialized => exact ⟨List.nil_prefix, nofun, nofun⟩
  | begun => exact ⟨List.nil_prefix, nofun, fun done => done⟩
  | closed => exact ⟨prefix_rfl, fun _ same => same, fun done => done⟩
  | swept => exact ⟨prefix_append _ _, fun _ same => same, fun done => done⟩
  | finished => exact ⟨prefix_rfl, fun _ same => same, fun _ => rfl⟩

theorem World.sound_start : World.start.Sound bitcoin where
  valid := ⟨nofun, nofun⟩
  trails := .refl _
  held := nofun
  terms := nofun

theorem World.Sound.crash (sound : before.Sound bitcoin) (crashed : Recover.crash before after) :
    after.Sound bitcoin where
  valid := sound.valid.crash crashed.1
  trails := sound.trails.crash crashed.1 Precedes.refl
  held _ found := by
    rw [crashed.2.1] at found
    cases found
  terms _ found := by
    rw [crashed.2.1] at found
    cases found

theorem World.Sound.durable_crash (sound : before.Sound bitcoin)
    (crashed : Recover.crash before after) : Precedes before.file.durable after.file.durable := by
  obtain ⟨crashedFile, -⟩ := crashed
  generalize after.file = file at crashedFile
  cases crashedFile with
  | stopped | lost => exact .refl _
  | kept => exact sound.trails

theorem careful_of_file_eq (same : after.file = before.file)
    (silent : ∀ tx, event.operation ≠ .broadcast tx) :
    Careful bitcoin call past before event after where
  journal := by
    rw [same]
    exact .kept _
  durable := by
    rw [same]
    exact .refl _
  broadcast tx asked := absurd asked (silent tx)
  written _ := .inl same

section

variable (sound : before.Sound bitcoin)
include sound

theorem World.Sound.holds {job : Job} (found : before.job = some job)
    (clean : job.poisoned = false) :
    before.failed = false ∧ before.file.durable = some job.ledger.journal ∧
      before.file.current = some job.ledger.journal ∧ job.ledger.recovery.Valid bitcoin := by
  obtain ⟨file, failed⟩ := sound.held job found clean
  have current := congrArg Durable.current file
  refine ⟨failed, congrArg Durable.durable file, current, ?_⟩
  exact sound.valid.current _ (by rw [current]; rfl)

theorem World.Sound.write {next : Journal} {file : Durable (Option Journal)}
    (write : before.file.Write (some next) told file)
    (journaled : Journaled bitcoin call past before.file.current (some next))
    (valid : Valid bitcoin (some next)) : file.Always (Valid bitcoin) ∧ file.Trails Precedes ∧
      Journaled bitcoin call past before.file.current file.current ∧
      Precedes before.file.durable file.durable := by
  have forward := sound.trails.trans journaled.precedes
  refine ⟨sound.valid.write write valid, sound.trails.write write (.refl _) forward, ?_, ?_⟩
  · rcases write.current with same | replaced
    · rw [same]
      exact .kept _
    · rw [replaced]
      exact journaled
  cases write with
  | completed => exact forward
  | refused | unsettled => exact .refl _

/-- The write of a journal that the call may make. -/
theorem sound_save {next : Ledger} (found : before.job = some job)
    (clean : job.poisoned = false) (effect : Recover.effect before (.save next) answer after)
    (journaled : Journaled bitcoin call past (some job.ledger.journal) (some next.journal))
    (valid : Valid bitcoin (some next.journal)) :
    after.Sound bitcoin ∧ Careful bitcoin call past before ⟨.save next, answer⟩ after ∧
      (answer = .ok () → after.job = some { job with ledger := next }) := by
  obtain ⟨held, written, foundHeld, rfl, change⟩ := effect
  obtain rfl : held = job := Option.some.inj (foundHeld.symm.trans found)
  rw [if_neg (by simp [clean])] at change
  obtain ⟨_, write, rfl⟩ := change
  obtain ⟨working, _, current, -⟩ := sound.holds found clean
  have terms := sound.terms held found
  obtain ⟨validFile, trails, journaledFile, kept⟩ := sound.write write (current ▸ journaled) valid
  have check : held.check = .ok () := by
    simp [check, clean]
  refine ⟨⟨validFile, trails, ?held, ?terms⟩,
    ⟨journaledFile, kept, fun _ => nofun, fun failed => ?written⟩, ?_⟩
  case held =>
    rintro _ ⟨⟩ cleanLater
    cases written with
    | error error => simp [save, check] at cleanLater
    | ok =>
      cases write
      simp [save, check, Except.isOk, Except.toBool]
  case terms =>
    rintro _ ⟨⟩
    cases written with
    | error error => simpa [save, check, plan, funding] using kept.terms _ terms
    | ok =>
      cases write
      simp [save, check, Durable.synced, termsOf, recoveryOf, Ledger.journal, plan, funding]
  case written =>
    rw [working] at failed
    cases failed
  cases written with
  | error | ok => simp [save, check]

theorem sound_load {ledger : Ledger} (effect : Recover.effect before (.load ledger) answer after)
    (journaled : Journaled bitcoin call past before.file.current (some ledger.journal))
    (valid : Valid bitcoin (some ledger.journal)) :
    after.Sound bitcoin ∧ Careful bitcoin call past before ⟨.load ledger, answer⟩ after ∧
      (answer = .ok () → after.file.durable = some ledger.journal) := by
  obtain ⟨_, write, rfl⟩ := effect
  obtain ⟨validFile, trails, journaledFile, kept⟩ := sound.write write journaled valid
  refine ⟨⟨validFile, trails, ?held, ?terms⟩,
    ⟨journaledFile, kept, fun _ => nofun, fun _ => .inr (.inr ⟨ledger, rfl⟩)⟩, ?_⟩
  case held =>
    intro _ found _
    cases answer with
    | error error => cases found
    | ok =>
      cases found
      cases write
      exact ⟨rfl, rfl⟩
  case terms =>
    intro _ found
    cases answer with
    | error error => cases found
    | ok =>
      cases found
      cases write
      rfl
  rintro rfl
  cases write
  rfl

theorem sound_create (absent : before.file.current = none)
    (effect : Recover.effect before .create answer after) :
    after.Sound bitcoin ∧ Careful bitcoin .initializeJournal past before ⟨.create, answer⟩
      after := by
  obtain ⟨file, write, rfl⟩ := effect
  have journaled :
    Journaled bitcoin .initializeJournal past before.file.current (some .initial) := by
    rw [absent]
    exact .initialized rfl
  obtain ⟨validFile, trails, journaledFile, kept⟩ := sound.write write journaled valid_initial
  refine ⟨⟨validFile, trails, ?_, ?_⟩,
    ⟨journaledFile, kept, fun _ => nofun, fun _ => .inr (.inl rfl)⟩⟩
  · -- Nobody holds a job while there is no journal.
    intro job found clean
    obtain ⟨-, -, current, -⟩ := sound.holds found clean
    rw [absent] at current
    cases current
  · intro job found
    exact kept.terms _ (sound.terms job found)

end

theorem sound_focus (event : JobEvent) (refocused) (sound : before.Sound bitcoin)
    (ledger : ∀ job, (refocused job).ledger = job.ledger)
    (poisoned : ∀ job, (refocused job).poisoned = job.poisoned)
    (changed : after = { before with job := before.job.map refocused })
    (silent : ∀ tx, event.operation ≠ .broadcast tx) :
    after.Sound bitcoin ∧ Careful bitcoin call past before event after := by
  subst changed
  refine ⟨⟨sound.valid, sound.trails, ?_, ?_⟩, careful_of_file_eq rfl silent⟩
  · intro _ found clean
    obtain ⟨held, foundHeld, rfl⟩ := Option.map_eq_some_iff.mp found
    rw [poisoned] at clean
    rw [ledger]
    exact sound.held held foundHeld clean
  intro _ found
  obtain ⟨held, foundHeld, rfl⟩ := Option.map_eq_some_iff.mp found
  unfold plan funding
  rw [ledger]
  exact sound.terms held foundHeld

end

end BitSov.Recover
