import BitSov.Recover.Calls

namespace BitSov.Recover

open Process Fallible List Bitcoin World
open Session (idle steps_call)

/-!
# Runs of the calls of a recovery

What every call keeps is carried along runs of any calls, with a crash between
any two operations.  The journal is followed back to the step that made it
what it is: every sweep to its approval, the end of the recovery to a call
that has checked everything once more.
-/

abbrev JobMoment :=
  Moment JobCall World JobOp JobAnswer (Except String Reply)

variable (bitcoin : Bitcoin)

/-- The moments that a run from an empty directory leads to. -/
def Reached (moment : JobMoment) : Prop :=
  (session bitcoin).Steps (idle start) moment

/-- An earlier step of the run has journaled the sweep as the owner's call. -/
def ApprovedBefore (saved : SavedSweep) (moment : JobMoment) : Prop :=
  ∃ approving approved running,
    Reached bitcoin approving ∧ (session bitcoin).Step approving approved ∧
      (session bitcoin).Steps approved moment ∧
      approving.running = some running ∧
      running.call = .approve saved.sweep saved.inputs ∧
      saved ∈ sweepsOf approved.shared.file.current

/-- The call has ended the recovery after it has checked everything. -/
def Finishes (before : JobMoment) : Prop :=
  ∃ running selfTest, ∃ ledger : Ledger,
    before.running = some running ∧ running.call = .finish selfTest ∧
      before.shared.file.current = some ledger.journal ∧
      Rechecked bitcoin running.past ledger.recovery

section

variable {bitcoin : Bitcoin} {before after : JobMoment}

section

variable (reached : Reached bitcoin before)
include reached

theorem Reached.holds : (covenant bitcoin).Holds before :=
  Covenant.holds_of_steps covenant_kept (Covenant.holds_idle sound_start) reached

theorem Reached.journal_step (step : (session bitcoin).Step before after) :
    Precedes after.shared.file.current before.shared.file.current ∨
      ∃ running, before.running = some running ∧ Journaled bitcoin running.call running.past
        before.shared.file.current after.shared.file.current := by
  rcases reached.holds.moves step with
    same | crashed | ⟨running, _, found, -, -, _, -, careful⟩
  · rw [same]
    exact .inl (.refl _)
  · exact .inl (reached.holds.invariant.trails.current_crash crashed.1 (.refl _))
  · exact .inr ⟨running, found, careful.journal⟩

theorem Reached.durable_step (step : (session bitcoin).Step before after) :
    Precedes before.shared.file.durable after.shared.file.durable := by
  rcases reached.holds.moves step with
    same | crashed | ⟨_, _, _, -, -, _, -, careful⟩
  · rw [same]
    exact .refl _
  · exact World.Sound.durable_crash reached.holds.invariant crashed
  · exact careful.durable

theorem Reached.durable_steps (steps : (session bitcoin).Steps before after) :
    Precedes before.shared.file.durable after.shared.file.durable := by
  induction steps with
  | refl => exact .refl _
  | tail prior step ih => exact ih.trans (Reached.durable_step (reached.trans prior) step)

end

variable {terms : Plan × List OutPoint}

theorem Reached.terms_steps (reached : Reached bitcoin before)
    (steps : (session bitcoin).Steps before after)
    (begun : termsOf before.shared.file.durable = some terms) :
    termsOf after.shared.file.durable = some terms ∧
      termsOf after.shared.file.current = some terms := by
  have durable := (reached.durable_steps steps).terms terms begun
  have sound := (Reached.holds (reached.trans steps)).invariant
  exact ⟨durable, sound.trails.terms terms durable⟩

variable {prior later : Option Journal} {saved : SavedSweep}

theorem Journaled.called_of_swept (journaled : Journaled bitcoin call past prior later)
    (absent : saved ∉ sweepsOf prior) (present : saved ∈ sweepsOf later) :
    call = .approve saved.sweep saved.inputs := by
  cases journaled with
  | kept | closed | finished => exact absurd present absent
  | initialized | begun => cases present
  | swept called =>
    rcases mem_append.mp present with old | only
    · exact absurd old absent
    · rw [mem_singleton.mp only]
      exact called

theorem Reached.approvedBefore (reached : Reached bitcoin before)
    (journaled : saved ∈ sweepsOf before.shared.file.current) :
    ApprovedBefore bitcoin saved before := by
  obtain ⟨approving, approved, prior, step, later, absent, present⟩ :=
    Session.exists_step_of_steps (fun world => saved ∈ sweepsOf world.file.current)
      reached not_mem_nil journaled
  rcases Reached.journal_step prior step with
    backwards | ⟨running, found, written⟩
  · exact absurd (backwards.sweeps.subset present) absent
  · exact ⟨approving, approved, running, prior, step, later, found,
      written.called_of_swept absent present, present⟩

theorem Journaled.called_of_done (journaled : Journaled bitcoin call past prior later)
    (opened : ¬ Done prior) (done : Done later) :
    ∃ selfTest, ∃ ledger : Ledger, call = .finish selfTest ∧ prior = some ledger.journal ∧
      Rechecked bitcoin past ledger.recovery := by
  cases journaled with
  | kept | closed | swept => exact absurd done opened
  | initialized | begun => cases done
  | finished called rechecked => exact ⟨_, _, called, rfl, rechecked⟩

theorem Reached.finishes (reached : Reached bitcoin before)
    (step : (session bitcoin).Step before after) (opened : ¬ Done before.shared.file.current)
    (done : Done after.shared.file.current) : Finishes bitcoin before := by
  rcases reached.journal_step step with
    backwards | ⟨running, found, written⟩
  · exact absurd (backwards.done done) opened
  · obtain ⟨selfTest, ledger, called, current, rechecked⟩ := written.called_of_done opened done
    exact ⟨running, selfTest, ledger, found, called, current, rechecked⟩

theorem done_of_normal (begun : termsOf journal = some terms)
    (normal : checkNormalStart journal = .ok ()) : Done journal := by
  cases journal with
  | none => cases begun
  | some journal =>
    by_contra opened
    rw [checkNormalStart, if_pos (.inl fun done => opened (congrArg some done))] at normal
    cases normal

end

/--
Whatever the chain and the file system answer, in every run of the calls a
transaction is broadcast only as the owner has approved it and as the durable
journal has it, no two approved sweeps share an input, a failed write stops
everything but a new load, and the terms of a job never change.
-/
theorem recovery_careful {bitcoin : Bitcoin} {before after : JobMoment}
    (reached : Reached bitcoin before) (step : (session bitcoin).Step before after) :
    (∀ running later tx answer, before.running = some running → after.running = some later →
      later.past = running.past ++ [⟨.broadcast tx, answer⟩] → before.shared.failed = false ∧
        ∃ (ledger : Ledger) (saved : SavedSweep), before.shared.file.durable = some ledger.journal ∧
            saved ∈ ledger.recovery.sweeps ∧ Spends bitcoin ledger.recovery.plan saved tx ∧
            ApprovedBefore bitcoin saved before) ∧
      (∀ recovery, recoveryOf before.shared.file.current = some recovery ∨
        recoveryOf before.shared.file.durable = some recovery →
        recovery.sweeps.Pairwise SavedSweep.Apart) ∧
      (∀ running later event, before.running = some running → after.running = some later →
        later.past = running.past ++ [event] → before.shared.failed →
          after.shared.file = before.shared.file ∨ event.operation = .create ∨
            ∃ ledger, event.operation = .load ledger) ∧
      ∀ loaded job, Reached bitcoin loaded → (session bitcoin).Steps loaded before →
        loaded.shared.job = some job → termsOf before.shared.file.durable =
          some (job.plan, job.funding) ∧
          termsOf before.shared.file.current = some (job.plan, job.funding) ∧
          ∀ held, before.shared.job = some held →
            held.plan = job.plan ∧ held.funding = job.funding := by
  have sound := reached.holds.invariant
  refine ⟨?_, ?_, ?_, ?_⟩
  · intro _ _ tx _ found foundLater past
    obtain ⟨_, same, careful⟩ := reached.holds.performed step found foundLater
    obtain rfl := singleton_inj.mp (append_cancel_left (past.symm.trans same))
    obtain ⟨working, ledger, saved, durable, member, spends⟩ := careful.broadcast tx rfl
    refine ⟨working, ledger, saved, durable, member, spends,
      reached.approvedBefore (sound.trails.sweeps.subset ?_)⟩
    rw [durable]
    exact member
  · rintro recovery (found | found)
    · exact (sound.valid.current recovery found).apart
    · exact (sound.valid.durable recovery found).apart
  · intro _ _ _ found foundLater past failed
    obtain ⟨_, same, careful⟩ := reached.holds.performed step found foundLater
    obtain rfl := singleton_inj.mp (append_cancel_left (past.symm.trans same))
    exact careful.written failed
  · intro loaded job reachedLoaded steps found
    have soundLoaded := reachedLoaded.holds.invariant
    obtain ⟨durable, current⟩ := reachedLoaded.terms_steps steps (soundLoaded.terms job found)
    refine ⟨durable, current, fun held foundHeld => ?_⟩
    have same := (sound.terms held foundHeld).symm.trans durable
    exact Prod.mk.inj (Option.some.inj same)

/--
A pass shows a sweep, or offers the self-test, only after a last scan of all
scripts; and the recovery is over only after a call that has seen every sweep
and every close once more.
-/
theorem recovery_complete {bitcoin : Bitcoin} {moment : JobMoment}
    (reached : Reached bitcoin moment) :
    (∀ keys scripts past sweep inputs, moment.running = some ⟨.advance keys scripts, past,
      .done (.ok (.progress (.sweepPreview sweep inputs)))⟩ → ∃ job, moment.shared.job = some job ∧
        Previewed bitcoin past job.funding scripts sweep inputs) ∧
      (∀ keys scripts past, moment.running =
        some ⟨.advance keys scripts, past, .done (.ok (.progress .selfTest))⟩ →
        ∃ job, moment.shared.job = some job ∧ LastScan past scripts [] ∧
          Rechecked bitcoin past job.ledger.recovery) ∧
      (∀ after, (session bitcoin).Step moment after → ¬ Done moment.shared.file.current →
        Done after.shared.file.current → Finishes bitcoin moment) ∧
      ∀ loaded plan funding past reply pastStart, Reached bitcoin loaded → loaded.running =
        some ⟨.loadOrBegin plan funding, past, .done (.ok reply)⟩ →
        (session bitcoin).Steps loaded moment → moment.running =
          some ⟨.ensureNormalStart, pastStart, .done (.ok .completed)⟩ →
          ∃ finishing finished, Reached bitcoin finishing ∧
            (session bitcoin).Step finishing finished ∧ (session bitcoin).Steps finished moment ∧
            Finishes bitcoin finishing ∧ Done finished.shared.file.current := by
  refine ⟨?_, ?_, ?_, ?_⟩
  · intro _ _ _ _ _ found
    have holds := reached.holds
    rcases moment with ⟨shared, _⟩
    cases found
    exact holds.returned _ rfl
  · intro _ _ _ found
    have holds := reached.holds
    rcases moment with ⟨shared, _⟩
    cases found
    exact holds.returned _ rfl
  · intro _ step opened done
    exact reached.finishes step opened done
  intro loaded plan funding _ reply _ reachedLoaded returned steps started
  have begun : termsOf loaded.shared.file.durable = some (plan, funding) := by
    have holds := reachedLoaded.holds
    rcases loaded with ⟨shared, _⟩
    cases returned
    exact holds.returned reply rfl
  have normal : checkNormalStart moment.shared.file.current = .ok () := by
    have holds := reached.holds
    rcases moment with ⟨shared, _⟩
    cases started
    exact holds.returned _ rfl
  have current := (reachedLoaded.terms_steps steps begun).2
  obtain ⟨finishing, finished, earlier, step, later, opened, done⟩ :=
    Session.exists_step_of_steps (fun world => Done world.file.current)
      reached nofun (done_of_normal current normal)
  exact ⟨finishing, finished, earlier, step, later, Reached.finishes earlier step opened done, done⟩

namespace JobExample

open Program (Performed Reaches)

def plan : Plan where
  nodeId := "node"
  network := "regtest"
  destination := "home"
  feeRateSatVb := 1

/-- The transaction that has closed the channel. -/
def close : ChainTransaction where
  transaction := ⟨2, 0, [], [⟨1000, []⟩]⟩
  confirmations := 6

def inputs : List FoundOutput :=
  [⟨⟨"close", 0⟩, ⟨1000, []⟩, 6⟩]

def tx : Transaction where
  version := 2
  lockTime := 0
  input := [⟨⟨"close", 0⟩, [], 0, []⟩]
  output := [⟨1000, []⟩]

noncomputable def sweep : Sweep where
  transaction := plain.serializeHex tx
  feeSats := 0

def begun : Ledger where
  state := .opened
  recovery := .begun plan []

noncomputable def approved : Ledger :=
  begun.recordSweep ⟨sweep, inputs⟩

/-- The world of a job that has been written without an error. -/
def working (ledger : Ledger) : World where
  file := .synced (some ledger.journal)
  job := some ⟨ledger, false, []⟩
  failed := false

theorem tx_sweep : sweep.tx .plain = .ok tx := plain.deserialize_serialize tx (cons_ne_nil _ _)

theorem validate_sweep : sweep.validate .plain plan = .ok 1000 :=
  Sweep.validate_eq_ok_iff.mpr ⟨tx, ⟨1000, []⟩, tx_sweep, rfl, rfl, by decide, rfl⟩

theorem reached_begun : Reached .plain (idle (working begun)) := by
  have reachedInitial : Reaches ((session .plain).code .initializeJournal)
    [⟨.ensureFreshRoot, .ok ()⟩, ⟨.read, .ok none⟩, ⟨.create, .ok ()⟩]
    (.done (.ok .completed)) :=
    .call (.call (.call (.refl _)))
  have performedInitial : Performed (session .plain).effect start
    [⟨.ensureFreshRoot, .ok ()⟩, ⟨.read, .ok none⟩, ⟨.create, .ok ()⟩]
    { start with file := .synced (some .initial) } :=
    .cons rfl (.cons ⟨fun _ told => by cases told; rfl, rfl⟩ (.cons ⟨_, .completed, rfl⟩ (.nil _)))
  have reachedBegun : Reaches ((session .plain).code (.loadOrBegin plan []))
    [⟨.ensureRecoveryRoot, .ok ()⟩, ⟨.read, .ok (some .initial)⟩, ⟨.load begun, .ok ()⟩]
    (.done (.ok .completed)) :=
    .call (.call (.call (.refl _)))
  have performedBegun : Performed (session .plain).effect
    { start with file := .synced (some .initial) }
    [⟨.ensureRecoveryRoot, .ok ()⟩, ⟨.read, .ok (some .initial)⟩, ⟨.load begun, .ok ()⟩]
    (working begun) :=
    .cons rfl (.cons ⟨fun _ told => by cases told; rfl, rfl⟩ (.cons ⟨_, .completed, rfl⟩ (.nil _)))
  exact ((steps_call _ reachedInitial performedInitial).tail .leave).trans
    ((steps_call _ reachedBegun performedBegun).tail .leave)

/-- What the call that approves the sweep asks and writes. -/
noncomputable def approval : List JobEvent :=
  [⟨.self, ⟨begun, false, []⟩⟩, ⟨.recheck inputs, .ok true⟩,
    ⟨.transaction "close", .ok (some close)⟩, ⟨.save approved, .ok ()⟩,
    ⟨.clearFocus, ()⟩]

theorem steps_approve :
    (session .plain).Steps (idle (working begun)) (idle (working approved)) := by
  have reached : Reaches (approve .plain sweep inputs).run approval (.done (.ok ())) := by
    refine reaches_ask_bind_iff.mpr ⟨_, _, rfl, ?_⟩
    refine reaches_known_bind_ok_iff.mpr ⟨(), rfl, ?_⟩
    refine reaches_known_bind_ok_iff.mpr ⟨_, validate_sweep, ?_⟩
    refine reaches_known_bind_ok_iff.mpr ⟨_, tx_sweep, ?_⟩
    exact .call (.call (.call (.call (.refl _))))
  have performed : Performed (session .plain).effect (working begun) approval (working approved) :=
    .cons ⟨rfl, rfl⟩
      (.cons rfl (.cons rfl (.cons ⟨_, .ok (), rfl, rfl, _, .completed, rfl⟩ (.cons rfl (.nil _)))))
  exact (steps_call (.approve sweep inputs) reached.bind_left performed).tail .leave

/-- What the next call asks before it sends the sweep. -/
noncomputable def asked : List JobEvent :=
  [⟨.self, ⟨approved, false, []⟩⟩, ⟨.recheck inputs, .ok true⟩]

theorem steps_resume : ∃ next, (session .plain).Steps (idle (working approved))
      ⟨working approved, some ⟨.resumeSweeps, asked, .call (.broadcast tx) next⟩⟩ := by
  have reached : ∃ next, Reaches (resumeEach .plain [⟨sweep, inputs⟩]).run
    [⟨.recheck inputs, .ok true⟩] (.call (.broadcast tx) next) := by
    unfold resumeEach resumeSweep
    rw [tx_sweep]
    exact ⟨_, .call (.refl _)⟩
  obtain ⟨next, reached⟩ := reached
  have performed : Performed (session .plain).effect (working approved) asked (working approved) :=
    .cons ⟨rfl, rfl⟩ (.cons rfl (.nil _))
  exact ⟨_, steps_call .resumeSweeps (.call reached.bind_left) performed⟩

def scripts : List RecoveryScript :=
  [⟨0, .staticRemoteKey, []⟩]

def keys : RecoveryKeys where
  secrets := []
  scripts

/-- A pass that finds the sweep final and nothing else on the chain. -/
noncomputable def quiet : List JobEvent :=
  [⟨.self, ⟨approved, false, []⟩⟩, ⟨.self, ⟨approved, false, []⟩⟩,
    ⟨.recheck inputs, .ok false⟩,
    ⟨.transaction (plain.computeTxid tx), .ok (some ⟨tx, 6⟩)⟩,
    ⟨.scan scripts, .ok []⟩, ⟨.refocus [], ()⟩]

theorem steps_advance : (session .plain).Steps (idle (working approved))
    ⟨working approved, some ⟨.advance keys scripts, quiet, .done (.ok (.progress .selfTest))⟩⟩ := by
  have resumed : Reaches (resumeSweeps .plain).run
    [⟨.self, ⟨approved, false, []⟩⟩, ⟨.recheck inputs, .ok false⟩,
      ⟨.transaction (plain.computeTxid tx), .ok (some ⟨tx, 6⟩)⟩]
    (.done (.ok none)) := by
    have each : Reaches (resumeEach .plain [⟨sweep, inputs⟩]).run [⟨.recheck inputs, .ok false⟩,
        ⟨.transaction (plain.computeTxid tx), .ok (some ⟨tx, 6⟩)⟩]
      (.done (.ok none)) := by
      unfold resumeEach resumeSweep
      rw [tx_sweep]
      exact .call (.call (.refl _))
    exact .call each
  have passed : Reaches (advance .plain keys scripts).run quiet (.done (.ok .selfTest)) :=
    .call (resumed.bind (.call (.call (.refl _))))
  have performed : Performed (session .plain).effect (working approved) quiet (working approved) :=
    .cons ⟨rfl, rfl⟩ (.cons ⟨rfl, rfl⟩ (.cons rfl (.cons rfl (.cons rfl (.cons rfl (.nil _))))))
  exact steps_call (.advance keys scripts) passed.bind_left performed

end JobExample

section

open JobExample

theorem recovery_careful_broadcast : ∃ (ledger : Ledger) (saved : SavedSweep),
      (working approved).file.durable = some ledger.journal ∧ saved ∈ ledger.recovery.sweeps ∧
        Spends .plain ledger.recovery.plan saved tx := by
  obtain ⟨next, steps⟩ := steps_resume
  have sent : (session .plain).Step
    ⟨working approved, some ⟨.resumeSweeps, asked, .call (.broadcast tx) next⟩⟩
    ⟨working approved, some ⟨.resumeSweeps, asked ++ [⟨.broadcast tx, .ok ()⟩], next (.ok ())⟩⟩ :=
    .perform rfl
  obtain ⟨-, ledger, saved, durable, member, spends, -⟩ :=
    (recovery_careful (reached_begun.trans (steps_approve.trans steps))
      sent).1 _ _ tx (.ok ()) rfl rfl rfl
  exact ⟨ledger, saved, durable, member, spends⟩

theorem recovery_complete_selfTest :
    ∃ job, (working approved).job = some job ∧ LastScan quiet scripts [] ∧
      Rechecked .plain quiet job.ledger.recovery :=
  (recovery_complete
    (reached_begun.trans (steps_approve.trans steps_advance))).2.1 keys scripts quiet rfl

end

end BitSov.Recover
