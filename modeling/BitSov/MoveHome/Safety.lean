import BitSov.MoveHome.Job

namespace BitSov.MoveHome

open Process Recover

/-!
# What a job does with the owner's funds

Every run of the calls is a sequence of operations, each of which is careful:
the journal changes only as the call of the owner says, and what is broadcast
or closed by force stands in the journal that would survive a crash.
-/

abbrev JobEvent :=
  Event JobOp JobAnswer

/-- Everything of the channels has arrived in the wallet. -/
structure Snapshot.Settled (snapshot : Snapshot) : Prop where
  channels : snapshot.channels = []
  claims : snapshot.lightningClaims = 0
  monitorEvents : snapshot.pendingMonitorEvents = 0
  sweeps : snapshot.pendingSweeps = 0
  reserves : snapshot.anchorReserveSats = 0
  unresolvedSpends : snapshot.unresolvedLocalSpends = 0
  unreadableSpends : snapshot.unreadableLocalSpends = 0

theorem Snapshot.settled_of_not_waiting {snapshot : Snapshot}
    (notWaiting : ¬ snapshot.waitingForChannels) : snapshot.Settled := by
  simp only [waitingForChannels, Bool.not_eq_true, Bool.or_eq_false_iff,
    Bool.not_eq_false', List.isEmpty_iff, bne_eq_false_iff_eq] at notWaiting
  obtain ⟨⟨⟨⟨⟨⟨channels, claims⟩, events⟩, sweeps⟩, reserves⟩, unresolved⟩,
    unreadable⟩ := notWaiting
  exact ⟨channels, claims, events, sweeps, reserves, unresolved, unreadable⟩

variable (bitcoin : Bitcoin)

/-- The sweep has one output, which pays the destination of the plan. -/
def PaysOnly (plan : Plan) (sweep : Sweep) : Prop :=
  ∃ tx output, sweep.tx bitcoin = .ok tx ∧ tx.output = [output] ∧
    plan.address bitcoin = .ok output.scriptPubkey ∧ output.value ≠ 0

/-- The sweeps of a journal that may be absent. -/
def sweepsOf : Option State → List Sweep
  | none => []
  | some state => state.sweeps

/-- The channels that a journal allows to close by force. -/
def forceOf : Option State → Finset String
  | none => ∅
  | some state => state.forceApproved

/-- The earlier journal holds nothing that the later one has not. -/
structure Precedes (earlier later : Option State) : Prop where
  sweeps : sweepsOf earlier <+: sweepsOf later
  force : forceOf earlier ⊆ forceOf later

theorem Precedes.refl (journal) : Precedes journal journal := ⟨List.prefix_rfl, Finset.Subset.rfl⟩

theorem Precedes.trans (prior : Precedes first second) (later : Precedes second third) :
    Precedes first third := ⟨prior.sweeps.trans later.sweeps, prior.force.trans later.force⟩

/-- A call has seen that a sweep is final. -/
def Final (past : List JobEvent) (sweep : Sweep) : Prop :=
  ∃ count : UInt32, ⟨.confirmations sweep, .ok count⟩ ∈ past ∧ 6 ≤ count

/--
What a call has seen when it journals a sweep: settled channels, the same
sweep built anew, and the confirmations of the sweep before.
-/
structure Approves (past : List JobEvent) (state : State) (sweep : Sweep) : Prop where
  settled : ∃ snapshot : Snapshot, ⟨.snapshot, .ok snapshot⟩ ∈ past ∧ snapshot.Settled
  rebuilt : ⟨.prepareSweep state.plan, .ok sweep⟩ ∈ past
  final : ∀ previous, state.sweeps.getLast? = some previous → Final past previous

/-- What one operation of a call may do to the journal. -/
inductive Journaled (call : JobCall) (past : List JobEvent) : Option State → Option State → Prop
  | kept (journal : Option State) : Journaled call past journal journal
  | begun {plan : Plan} (called : call = .begin plan) :
      Journaled call past none (some (.begun plan))
  | attempted (state : State) (channel : Channel) (called : call = .advance) :
      Journaled call past (some state) (some (state.recordAttempt channel))
  | forced (state : State) {selected : Finset String} (called : call = .approveForce selected) :
      Journaled call past (some state) (some (state.recordForce selected))
  | swept {state : State} {sweep : Sweep} (called : call = .approveSweep sweep)
      (approves : Approves past state sweep) :
      Journaled call past (some state) (some (state.recordSweep sweep))

theorem Journaled.precedes (journaled : Journaled call past before after) :
    Precedes before after := by
  cases journaled with
  | kept => exact .refl _
  | begun => exact ⟨List.nil_prefix, Finset.empty_subset _⟩
  | attempted => exact ⟨List.prefix_rfl, Finset.Subset.rfl⟩
  | forced => exact ⟨List.prefix_rfl, Finset.subset_union_left⟩
  | swept => exact ⟨List.prefix_append _ _, Finset.Subset.rfl⟩

/--
A careful operation.  Nothing is broadcast or closed once a write has failed,
and a sweep or a forced close stands in the durable journal.
-/
structure Careful (bitcoin : Bitcoin) (call : JobCall) (past : List JobEvent) (before : World)
    (event : JobEvent) (after : World) : Prop where
  journal : Journaled call past before.file.current after.file.current
  broadcast : ∀ sweep plan,
    event.operation = .broadcast sweep plan →
      before.failed = false ∧
        ∃ state, before.file.durable = some state ∧ state.plan = plan ∧
          sweep ∈ state.sweeps ∧ PaysOnly bitcoin plan sweep
  close : ∀ channel force,
    event.operation = .close channel force →
      before.failed = false ∧
        (force = true →
          ∃ state, before.file.durable = some state ∧ channel.id ∈ state.forceApproved)

/--
What a call has seen when it reports that the job is complete: every sweep of
the journal is final, and nothing is left in the channels or on the chain.
-/
structure Completed (past : List JobEvent) (world : World) : Prop where
  sweeps : ∀ sweep ∈ sweepsOf world.file.current, Final past sweep
  asked : ∃ snapshot : Snapshot, ⟨.snapshot, .ok snapshot⟩ ∈ past
  snapshot : ∀ snapshot : Snapshot,
    ⟨.snapshot, .ok snapshot⟩ ∈ past →
      snapshot.waitingForChannels = false ∧ snapshot.onchainSats = 0

/-- Every sweep of a journal pays the destination of its plan. -/
def Valid (journal : Option State) : Prop :=
  ∀ state, journal = some state → ∀ sweep ∈ state.sweeps, PaysOnly bitcoin state.plan sweep

/-- What holds between the journal and the job at every moment. -/
structure World.Sound (bitcoin : Bitcoin) (world : World) : Prop where
  valid : world.file.Always (Valid bitcoin)
  trails : world.file.Trails Precedes
  held : ∀ job, world.job = some job →
    job.poisoned = false → world.file = .synced (some job.state) ∧ world.failed = false

/-- What the calls of a job keep, promise and achieve. -/
def covenant : Covenant (session bitcoin) where
  invariant := World.Sound bitcoin
  promise call before after := ∃ event,
    after.2 = before.2 ++ [event] ∧ Careful bitcoin call before.2 before.1 event after.1
  result call outcome state := call = .advance →
    outcome = .ok (.progress .complete) → Completed state.2 state.1

section

variable {bitcoin : Bitcoin} {call : JobCall} {past : List JobEvent} {before after : World}

theorem World.sound_start : World.start.Sound bitcoin where
  valid := ⟨nofun, nofun⟩
  trails := .refl _
  held := nofun

theorem World.Sound.crash (sound : before.Sound bitcoin) (crashed : crash before after) :
    after.Sound bitcoin where
  valid := sound.valid.crash crashed.1
  trails := sound.trails.crash crashed.1 Precedes.refl
  held _ found := by
    rw [crashed.2.1] at found
    cases found

theorem careful_question (notBroadcast : ∀ sweep plan, event.operation ≠ .broadcast sweep plan)
    (notClose : ∀ channel force, event.operation ≠ .close channel force) :
    Careful bitcoin call past before event before where
  journal := .kept _
  broadcast sweep plan asked := absurd asked (notBroadcast sweep plan)
  close channel force asked := absurd asked (notClose channel force)

theorem World.Sound.holds {job : Job} (sound : before.Sound bitcoin) (found : before.job = some job)
    (clean : job.poisoned = false) : before.failed = false ∧ before.file.durable = some job.state ∧
      before.file.current = some job.state := by
  obtain ⟨file, failed⟩ := sound.held job found clean
  exact ⟨failed, congrArg Durable.durable file, congrArg Durable.current file⟩

variable {answer : Except String Unit}

section

variable (sound : before.Sound bitcoin)
include sound

/-- The write of a journal that the call may make. -/
theorem sound_persist (found : before.job = some job)
    (effect : effect before (.persist next) answer after)
    (journaled : job.poisoned = false → Journaled call past (some job.state) (some next))
    (valid : job.poisoned = false → Valid bitcoin (some next)) :
    after.Sound bitcoin ∧ Careful bitcoin call past before ⟨.persist next, answer⟩ after ∧
      (answer = .ok () → job.poisoned = false ∧ after.job = some ⟨next, false⟩) := by
  obtain ⟨held, written, foundHeld, rfl, change⟩ := effect
  obtain rfl : held = job := Option.some.inj (foundHeld.symm.trans found)
  cases clean : held.poisoned with
  | true =>
    rw [if_pos clean] at change
    subst change
    refine ⟨sound, careful_question (fun _ _ => nofun) (fun _ _ => nofun), ?_⟩
    simp [Job.persist, clean]
  | false =>
    rw [if_neg (by simp [clean])] at change
    obtain ⟨file, write, rfl⟩ := change
    obtain ⟨-, durable, current⟩ := sound.holds found clean
    have forward := journaled clean
    have kept : Journaled call past before.file.current file.current := by
      rcases write.current with same | replaced
      · rw [same]
        exact .kept _
      · rw [replaced, current]
        exact forward
    refine ⟨⟨sound.valid.write write (valid clean), ?trails, ?held⟩,
      ⟨kept, fun _ _ => nofun, fun _ _ => nofun⟩, ?_⟩
    case trails =>
      refine sound.trails.write write (.refl _) ?_
      rw [durable]
      exact forward.precedes
    case held =>
      rintro _ ⟨⟩ cleanLater
      cases written with
      | error error => simp [Job.persist, clean] at cleanLater
      | ok =>
        cases write
        simp [Job.persist, clean, Except.isOk, Except.toBool]
    cases written with
    | error | ok => simp [Job.persist, clean]

theorem sound_create (absent : before.file.current = none)
    (effect : effect before (.create (.begun plan)) answer after) : after.Sound bitcoin ∧
      Careful bitcoin (.begin plan) past before ⟨.create (.begun plan), answer⟩ after := by
  obtain ⟨file, write, rfl⟩ := effect
  have valid : Valid bitcoin (some (.begun plan)) := by
    rintro _ ⟨⟩ _ mem
    cases mem
  have forward : Journaled (.begin plan) past before.file.current (some (.begun plan)) := by
    rw [absent]
    exact .begun rfl
  have kept : Journaled (.begin plan) past before.file.current file.current := by
    rcases write.current with same | replaced
    · rw [same]
      exact .kept _
    · rw [replaced]
      exact forward
  have validFile := sound.valid.write write valid
  have trailsFile := sound.trails.write write (.refl _) (sound.trails.trans forward.precedes)
  cases answer with
  | ok =>
    refine ⟨⟨validFile, trailsFile, ?_⟩, ⟨kept, fun _ _ => nofun, fun _ _ => nofun⟩⟩
    rintro _ ⟨⟩ -
    cases write
    exact ⟨rfl, rfl⟩
  | error error =>
    refine ⟨⟨validFile, trailsFile, ?_⟩, ⟨kept, fun _ _ => nofun, fun _ _ => nofun⟩⟩
    -- Nobody holds a job while there is no journal.
    intro _ found clean
    obtain ⟨-, -, current⟩ := sound.holds found clean
    rw [absent] at current
    cases current

theorem sound_sync (effect : effect before .sync answer after) :
    after.Sound bitcoin ∧ Careful bitcoin call past before ⟨.sync, answer⟩ after ∧
      (answer = .ok () → after.file = .synced before.file.current) := by
  obtain ⟨file, synced, rfl⟩ := effect
  have current : file.current = before.file.current := by
    generalize answer.isOk = told at synced
    cases synced <;> rfl
  refine ⟨⟨sound.valid.sync synced, sound.trails.sync synced (.refl _), ?_⟩,
    ⟨?_, fun _ _ => nofun, fun _ _ => nofun⟩, ?_⟩
  · intro job found clean
    obtain ⟨same, failed⟩ := sound.held job found clean
    refine ⟨?_, failed⟩
    generalize answer.isOk = told at synced
    cases synced with
    | completed =>
      rw [same]
      rfl
    | failed => exact same
  · rw [current]
    exact .kept _
  · rintro rfl
    cases synced
    rfl

end

end

end BitSov.MoveHome
