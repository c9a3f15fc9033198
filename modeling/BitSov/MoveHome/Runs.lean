import BitSov.MoveHome.Safety

namespace BitSov.MoveHome

open Process Fallible Covenant Recover List Session

/-!
# Runs of the calls of a job

Each method keeps the covenant of the job: it is proved along the method with
one rule for a question, one for a check, and the lemmas about the writes of
the journal.  The rest is the argument about runs of any calls.
-/

section

variable {bitcoin : Bitcoin} {call : JobCall} {α : Type}
  {pre : Recorded World JobOp JobAnswer → Prop}
  {post : Except String α → Recorded World JobOp JobAnswer → Prop}

def JobOp.asks : JobOp → Bool
  | .create _ | .sync | .resume _ | .persist _ | .close _ _ | .broadcast _ _ => false
  | .self | .tryExists | .read | .snapshot | .prepareSweep _ | .confirmations _ => true

theorem JobOp.unchanged_of_asks {op : JobOp} (asks : op.asks) (before)
    (answer after) (answered : MoveHome.effect before op answer after) : after = before := by
  cases op with
  | create | sync | resume | persist | close | broadcast => cases asks
  | self | tryExists | read => exact answered.2
  | snapshot | prepareSweep | confirmations => exact answered

theorem triple_question {op : JobOp} {cont : JobAnswer op → JobM α}
    (asks : op.asks) (middle : JobAnswer op → Recorded World JobOp JobAnswer → Prop)
    (answered : ∀ world past answer, pre (world, past) → effect world op answer world →
      middle answer (world, past ++ [⟨op, answer⟩])) (next : ∀ answer,
      ((covenant bitcoin).view call).Triple (middle answer) (cont answer).run post) :
    ((covenant bitcoin).view call).Triple pre (ask op >>= cont).run post :=
  Covenant.triple_question (JobOp.unchanged_of_asks asks)
    (fun _ _ _ => ⟨_, rfl, careful_question (by rintro _ _ ⟨⟩; cases asks)
      (by rintro _ _ ⟨⟩; cases asks)⟩) middle answered next

theorem triple_failIf_bind {condition : Prop} [Decidable condition]
    (failed : ∀ state, post (.error message) state)
    (next : ¬ condition → ((covenant bitcoin).view call).Triple pre (cont ()).run post) :
    ((covenant bitcoin).view call).Triple pre (failIf condition message >>= cont).run post :=
  Covenant.triple_failIf_bind failed next

end

section

variable {snapshot : Snapshot} {event : JobEvent} {sweep : Sweep} {job : Job}

theorem begin_kept (plan) : (covenant bitcoin).Honours (.begin plan) := by
  refine triple_answer fun _ _ => ?_
  refine triple_question rfl
    (fun answer state => ∀ found, answer = .ok found → found = state.1.file.current.isSome)
    (fun _ _ _ _ answered => answered.1) fun answer => ?_
  refine triple_answer fun found answered => ?_
  refine triple_failIf_bind (fun _ => nofun) fun absent => ?_
  refine Covenant.triple_ask_bind (fun _ _ => True) ?_ fun answer =>
    triple_answer fun _ _ => triple_return fun _ _ => nofun
  intro before _ answer _ sound told effect
  have none : before.file.current = none := by
    have same := told found answered
    rw [same, Bool.not_eq_true, Option.isSome_eq_false_iff, Option.isNone_iff_eq_none] at absent
    exact absent
  obtain ⟨soundAfter, careful⟩ := sound_create sound none effect
  exact ⟨soundAfter, ⟨_, rfl, careful⟩, trivial⟩

theorem load_kept (plan) : (covenant bitcoin).Honours (.load plan) := by
  refine triple_question rfl
    (fun answer state => ∀ found, answer = .ok found → found = state.1.file.current)
    (fun _ _ _ _ answered => answered.1) fun answer => ?_
  refine triple_answer fun found answered => ?_
  cases found with
  | none => exact triple_return fun _ _ => nofun
  | some state =>
    refine triple_answer fun _ _ => ?_
    refine Covenant.triple_ask_bind
      (fun (told : Except String Unit) world => told = .ok () → world.1.file = .synced (some state))
      ?_ fun told => ?_
    · intro _ _ told _ sound read effect
      obtain ⟨soundAfter, careful, durable⟩ := sound_sync sound effect
      refine ⟨soundAfter, ⟨_, rfl, careful⟩, fun succeeded => ?_⟩
      rw [read _ answered]
      exact durable succeeded
    refine triple_answer fun _ synced => ?_
    refine Covenant.triple_ask_bind (fun _ _ => True) ?_ fun _ => triple_return fun _ _ => nofun
    rintro _ _ _ _ sound durable rfl
    refine ⟨⟨sound.valid, sound.trails, ?_⟩,
      ⟨_, rfl, .kept _, fun _ _ => nofun, fun _ _ => nofun⟩, trivial⟩
    rintro _ ⟨⟩ -
    exact ⟨durable synced, rfl⟩

variable {call : JobCall}

theorem persist_kept {pre : Recorded World JobOp JobAnswer → Prop}
    {next : State} (approval : call ≠ .advance)
    (found : ∀ state, pre state → state.1.job = some job)
    (journaled : ∀ state, pre state → Journaled call state.2 (some job.state) (some next))
    (valid : Valid bitcoin (some job.state) → Valid bitcoin (some next)) :
    ((covenant bitcoin).view call).Triple pre (do
      known (← ask (JobOp.persist next))
      return Reply.approved : JobM Reply).run
      ((covenant bitcoin).result call) := by
  refine Covenant.triple_ask_bind (fun _ _ => True) ?_ fun _ =>
    triple_answer (fun _ _ => triple_return fun _ _ called => absurd called approval)
      fun _ _ called => absurd called approval
  intro _ _ _ _ sound holds effect
  obtain ⟨soundAfter, careful, -⟩ :=
    sound_persist sound (found _ holds) effect (fun _ => journaled _ holds) fun clean => valid <| by
      obtain ⟨-, -, current⟩ := sound.holds (found _ holds) clean
      exact current ▸ sound.valid.current
  exact ⟨soundAfter, ⟨_, rfl, careful⟩, trivial⟩

theorem approveForce_kept (selected) : (covenant bitcoin).Honours (.approveForce selected) := by
  refine triple_question rfl (fun job state => state.1.job = some job)
    (fun _ _ _ _ answered => answered.1) fun job => ?_
  refine triple_question rfl (fun _ state => state.1.job = some job)
    (fun _ _ _ found _ => found) fun _ => ?_
  refine triple_answer fun _ _ => ?_
  refine triple_answer fun _ _ => ?_
  refine persist_kept nofun (fun _ found => found)
    (fun _ _ => .forced job.state rfl) fun valid => ?_
  rintro _ ⟨⟩ sweep mem
  exact valid _ rfl sweep mem

/-- What a call approves the sweep with before it asks for the rest. -/
structure Vetted (job : Job) (snapshot : Snapshot) (state : Recorded World JobOp JobAnswer) :
    Prop where
  job : state.1.job = some job
  asked : ⟨.snapshot, .ok snapshot⟩ ∈ state.2

theorem Vetted.later (vetted : Vetted job snapshot (world, past)) :
    Vetted job snapshot (world, past ++ [event]) := ⟨vetted.job, mem_append_left _ vetted.asked⟩

theorem Final.later (final : Final past sweep) : Final (past ++ [event]) sweep := by
  obtain ⟨count, asked, enough⟩ := final
  exact ⟨count, mem_append_left _ asked, enough⟩

theorem final_of_answer {count : UInt32} (enough : ¬ count < finalConfirmations) :
    Final (past ++ [⟨.confirmations sweep, .ok count⟩]) sweep :=
  ⟨count, mem_append_right _ (mem_singleton_self _), UInt32.not_lt.mp enough⟩

theorem checkPrevious_kept (last : Option Sweep) :
    ((covenant bitcoin).view call).Triple (Vetted job snapshot) (checkPrevious last).run
      (fun outcome state => ∀ value, outcome = .ok value → Vetted job snapshot state ∧
        ∀ previous, last = some previous → Final state.2 previous) := by
  cases last with
  | none => exact triple_return fun _ vetted _ _ => ⟨vetted, nofun⟩
  | some previous =>
    refine triple_question rfl (fun answer state =>
      Vetted job snapshot state ∧
        ∀ count, answer = .ok count → ¬ count < finalConfirmations → Final state.2 previous)
      ?_ fun answer => ?_
    · rintro _ _ _ vetted -
      refine ⟨vetted.later, ?_⟩
      rintro count rfl enough
      exact final_of_answer enough
    refine triple_answer fun count answered => ?_
    refine View.triple_known fun state _ holds _ passed => ⟨holds.1, ?_⟩
    rintro _ ⟨⟩
    have enough : ¬ count < finalConfirmations := by
      intro few
      rw [if_pos few] at passed
      cases passed
    exact holds.2 count answered enough

theorem approveSweep_kept (sweep) : (covenant bitcoin).Honours (.approveSweep sweep) := by
  refine triple_question rfl (fun job state => state.1.job = some job)
    (fun _ _ _ _ answered => answered.1) fun job => ?_
  refine triple_answer fun _ pays => ?_
  refine triple_question rfl
    (fun answer state => ∀ snapshot, answer = .ok snapshot → Vetted job snapshot state)
    ?_ fun answer => ?_
  · rintro _ _ _ found - snapshot rfl
    exact ⟨found, mem_append_right _ (mem_singleton_self _)⟩
  refine triple_answer fun snapshot answered => ?_
  refine triple_failIf_bind (fun _ => nofun) fun settled => ?_
  refine triple_part (fun _ state => Vetted job snapshot state ∧
    ∀ previous, job.state.sweeps.getLast? = some previous → Final state.2 previous)
    ((checkPrevious_kept job.state.sweeps.getLast?).of_pre
      fun _ _ vetted => vetted snapshot answered) fun _ => ?_
  refine triple_question rfl (fun answer state =>
    state.1.job = some job ∧ (answer = .ok sweep → Approves state.2 job.state sweep))
    ?_ fun rebuilt => ?_
  · rintro _ _ answer ⟨vetted, final⟩ -
    refine ⟨vetted.job, ?_⟩
    rintro rfl
    exact
      { settled :=
        ⟨snapshot, vetted.later.asked, Snapshot.settled_of_not_waiting settled⟩
        rebuilt := mem_append_right _ (mem_singleton_self _)
        final := fun previous last => (final previous last).later }
  refine triple_answer fun value prepared => ?_
  refine triple_failIf_bind (fun _ => nofun) fun same => ?_
  obtain rfl : value = sweep := not_not.mp same
  refine persist_kept nofun (fun _ holds => holds.1)
    (fun _ holds => .swept rfl (holds.2 prepared)) fun valid => ?_
  rintro _ ⟨⟩ other mem
  rcases mem_append.mp mem with old | only
  · exact valid _ rfl other old
  · rw [mem_singleton.mp only]
    obtain ⟨tx, output, stored, single, address, positive, -⟩ := Sweep.validate_eq_ok_iff.mp pays
    exact ⟨tx, output, stored, single, address, positive⟩

/-- The job while its first sweeps are found to be final. -/
structure Replayed (job : Job) (sweeps : List Sweep) (state : Recorded World JobOp JobAnswer) :
    Prop where
  job : state.1.job = some job
  final : ∀ sweep ∈ sweeps, Final state.2 sweep
  unasked : ∀ answer, ⟨.snapshot, answer⟩ ∉ state.2

theorem rebroadcast_kept (clean : job.poisoned = false) (mem : sweep ∈ job.state.sweeps)
    (confirmations) :
    ((covenant bitcoin).view .advance).Triple (fun state => state.1.job = some job)
      (rebroadcast job.state.plan sweep confirmations).run (fun _ _ => True) := by
  unfold rebroadcast
  split
  · refine Covenant.triple_ask_bind (fun _ _ => True) ?_ fun _ =>
      View.triple_known fun _ _ _ => trivial
    rintro _ _ _ _ sound found rfl
    obtain ⟨working, durable, _⟩ := sound.holds found clean
    refine ⟨sound, ⟨_, rfl, ⟨.kept _, ?_, fun _ _ => nofun⟩⟩, trivial⟩
    rintro _ _ ⟨⟩
    exact ⟨working, job.state, durable, rfl, mem, sound.valid.durable _ durable sweep mem⟩
  · exact triple_return fun _ _ => trivial

/-- The sweeps of the journal are final, or the pass ends at one of them. -/
theorem replaySweeps_kept (clean : job.poisoned = false) (rest : List Sweep)
    (members : ∀ sweep ∈ rest, sweep ∈ job.state.sweeps) (final : List Sweep) :
    ((covenant bitcoin).view .advance).Triple (Replayed job final)
      (replaySweeps bitcoin job.state.plan rest).run
      (fun outcome state => ∀ found, outcome = .ok found →
        found ≠ some .complete ∧ (found = none → Replayed job (final ++ rest) state)) := by
  induction rest generalizing final with
  | nil =>
    refine triple_return fun state replayed => ?_
    rintro _ ⟨⟩
    rw [append_nil]
    exact ⟨nofun, fun _ => replayed⟩
  | cons sweep rest ih =>
    refine triple_question rfl (fun answer state => state.1.job = some job ∧
      ∀ count, answer = .ok count →
        ¬ count < finalConfirmations → Replayed job (final ++ [sweep]) state)
      ?_ fun answer => ?_
    · rintro _ _ _ replayed -
      refine ⟨replayed.job, ?_⟩
      rintro count rfl enough
      refine ⟨replayed.job, ?_, ?_⟩
      · intro other mem
        rcases mem_append.mp mem with old | only
        · exact (replayed.final other old).later
        · rw [mem_singleton.mp only]
          exact final_of_answer enough
      intro told asked
      rcases mem_append.mp asked with old | only
      · exact replayed.unasked told old
      · cases mem_singleton.mp only
    refine triple_answer fun count answered => ?_
    split
    · -- The first sweep that is not final ends the pass.
      refine triple_part (fun _ _ => True) (((rebroadcast_kept clean (members sweep mem_cons_self)
        count).of_pre fun _ _ holds => holds.1).weaken
        (fun _ _ holds => holds) fun _ _ _ _ _ _ => trivial) fun _ => ?_
      refine triple_answer fun _ _ => ?_
      refine triple_return fun _ _ => ?_
      rintro _ ⟨⟩
      exact ⟨nofun, nofun⟩
    · next enough =>
      have later := ih (fun other mem => members other (mem_cons_of_mem _ mem)) (final ++ [sweep])
      rw [append_assoc] at later
      exact later.of_pre fun _ _ holds => holds.2 count answered enough

/-- A pass that has seen its sweeps final and has asked once for the rest. -/
structure Surveyed (snapshot : Snapshot) (state : State)
    (recorded : Recorded World JobOp JobAnswer) : Prop where
  job : recorded.1.job = some ⟨state, false⟩
  final : ∀ sweep ∈ state.sweeps, Final recorded.2 sweep
  asked : ⟨.snapshot, .ok snapshot⟩ ∈ recorded.2
  only : ∀ other : Snapshot, ⟨.snapshot, .ok other⟩ ∈ recorded.2 → other = snapshot

theorem Surveyed.later {state next : State} {world after : World}
    (surveyed : Surveyed snapshot state (world, past)) (found : after.job = some ⟨next, false⟩)
    (sweeps : next.sweeps = state.sweeps) (ne : event.operation ≠ .snapshot) :
    Surveyed snapshot next (after, past ++ [event]) where
  job := found
  final sweep member := (surveyed.final sweep (sweeps ▸ member)).later
  asked := mem_append_left _ surveyed.asked
  only other asked := by
    rcases mem_append.mp asked with old | only
    · exact surveyed.only other old
    · rw [← mem_singleton.mp only] at ne
      exact absurd rfl ne

/-- Closes are asked for with the force that the durable journal allows. -/
theorem closeChannels_kept (channels state closeErrors) :
    ((covenant bitcoin).view .advance).Triple (Surveyed snapshot state)
      (closeChannels state channels closeErrors).run (fun outcome recorded =>
        ∀ errors, outcome = .ok errors → ∃ last, Surveyed snapshot last recorded) := by
  induction channels generalizing state closeErrors with
  | nil => exact triple_return fun _ surveyed _ _ => ⟨state, surveyed⟩
  | cons channel _ ih =>
    unfold closeChannels
    dsimp only
    split
    · exact ih state closeErrors
    refine Covenant.triple_ask_bind (fun _ => Surveyed snapshot state) ?_ fun answer => ?_
    · rintro _ _ answer _ sound surveyed rfl
      obtain ⟨working, durable, -⟩ := sound.holds surveyed.job rfl
      refine ⟨sound, ⟨_, rfl, ⟨.kept _, fun _ _ => nofun, ?_⟩⟩,
        surveyed.later surveyed.job rfl nofun⟩
      rintro _ _ ⟨⟩
      exact ⟨working, fun forced => ⟨state, durable, of_decide_eq_true forced⟩⟩
    cases answer with
    | error error => exact ih state _
    | ok =>
      dsimp only
      split
      · -- The attempt is journaled; a failed write ends the pass.
        refine Covenant.triple_ask_bind (fun (told : Except String Unit) recorded =>
          told = .ok () → Surveyed snapshot (state.recordAttempt channel) recorded)
          ?_ fun told => ?_
        · intro _ _ told _ sound surveyed effect
          obtain ⟨-, -, current⟩ := sound.holds surveyed.job rfl
          have validNow := sound.valid.current
          rw [current] at validNow
          obtain ⟨soundAfter, careful, persisted⟩ := sound_persist sound surveyed.job effect
            (fun _ => .attempted state channel rfl)
            fun _ => by
              rintro _ ⟨⟩ sweep mem
              exact validNow _ rfl sweep mem
          exact ⟨soundAfter, ⟨_, rfl, careful⟩, fun succeeded =>
            surveyed.later (persisted succeeded).2 rfl nofun⟩
        · refine triple_answer fun _ written => ?_
          exact (ih _ _).of_pre fun _ _ surveyed => surveyed written
      · exact ih state closeErrors

theorem conclude_kept (closeErrors) : ((covenant bitcoin).view .advance).Triple
      (fun recorded => ∃ last, Surveyed snapshot last recorded)
      (conclude bitcoin plan snapshot closeErrors).run
      (fun outcome recorded => ∀ progress, outcome = .ok progress →
        progress = .complete → Completed recorded.2 recorded.1) := by
  unfold conclude
  split
  · refine triple_return fun _ _ => ?_
    rintro _ ⟨⟩
    exact nofun
  next settled =>
  split
  · next empty =>
    refine View.triple_pure fun _ sound surveyed _ _ _ => ?_
    obtain ⟨_, surveyed⟩ := surveyed
    obtain ⟨-, -, current⟩ := World.Sound.holds sound surveyed.job rfl
    refine ⟨?_, ⟨snapshot, surveyed.asked⟩, ?_⟩
    · rw [current]
      exact surveyed.final
    intro other asked
    rw [surveyed.only other asked]
    exact ⟨Bool.eq_false_iff.mpr settled, empty⟩
  · refine triple_question rfl (fun _ _ => True)
      (fun _ _ _ _ _ => trivial) fun _ => ?_
    refine triple_answer fun _ _ => ?_
    refine triple_answer fun _ _ => ?_
    refine triple_return fun _ _ => ?_
    rintro _ ⟨⟩
    exact nofun

theorem advance_kept : (covenant bitcoin).Honours .advance := by
  refine triple_question rfl (fun job => Replayed job []) ?_ fun job => ?_
  · rintro _ _ job rfl ⟨found, -⟩
    refine ⟨found, nofun, ?_⟩
    intro answer asked
    cases mem_singleton.mp asked
  refine triple_failIf_bind (fun _ _ => nofun) fun clean => ?_
  rw [Bool.not_eq_true] at clean
  refine triple_part _ (replaySweeps_kept clean job.state.sweeps (fun _ mem => mem) [])
    fun found => ?_
  cases found with
  | some _ =>
    refine View.triple_pure fun state _ replayed _ done => ?_
    cases done
    exact absurd rfl replayed.1
  | none =>
    refine triple_question rfl
      (fun answer state => ∀ snapshot, answer = .ok snapshot → Surveyed snapshot job.state state)
      ?_ fun answer => ?_
    · rintro _ _ _ ⟨-, replayed⟩ - snapshot rfl
      obtain ⟨found, final, unasked⟩ := replayed rfl
      refine ⟨?_, fun sweep mem => (final sweep mem).later, ?_, ?_⟩
      · rw [found, ← clean]
      · exact mem_append_right _ (mem_singleton_self _)
      intro _ asked
      rcases mem_append.mp asked with old | only
      · exact absurd old (unasked _)
      · cases mem_singleton.mp only
        rfl
    refine triple_answer fun snapshot answered => ?_
    refine triple_part _ ((closeChannels_kept snapshot.channels job.state []).of_pre
      fun _ _ surveyed => surveyed snapshot answered) fun errors => ?_
    refine triple_part _ (conclude_kept errors) fun _ => ?_
    refine triple_return fun state completed _ done => ?_
    cases done
    exact completed rfl

theorem covenant_kept : (covenant bitcoin).Kept where
  crash _ _ sound crashed := World.Sound.crash sound crashed
  code call := by
    cases call with
    | begin plan => exact begin_kept plan
    | load plan => exact load_kept plan
    | approveForce selected => exact approveForce_kept selected
    | approveSweep sweep => exact approveSweep_kept sweep
    | advance => exact advance_kept

end

/--
Whatever the backend and the file system answer, in every run of the calls
each operation is careful, the journal never gains anything by a crash, and a
job is complete only after a pass that has found nothing left to do.
-/
theorem operations_careful {bitcoin : Bitcoin}
    {before after : Moment JobCall World JobOp JobAnswer (Except String Reply)}
    (steps : (session bitcoin).Steps (idle World.start) before)
    (step : (session bitcoin).Step before after) :
    (∀ running later, before.running = some running → after.running = some later →
      ∃ event, later.past = running.past ++ [event] ∧
        Careful bitcoin running.call running.past before.shared event after.shared) ∧
      (before.running = none ∨ after.running = none →
        Precedes after.shared.file.current before.shared.file.current) ∧
      ∀ past, after.running = some ⟨.advance, past, .done (.ok (.progress .complete))⟩ →
        Completed past after.shared := by
  have holds := Covenant.holds_of_steps covenant_kept
    (Covenant.holds_idle World.sound_start) steps
  refine ⟨?_, ?_, ?_⟩
  · intro _ _ found foundLater
    exact holds.performed step found foundLater
  · intro apart
    cases step with
    | start | leave => exact .refl _
    | perform => rcases apart with apart | apart <;> cases apart
    | crash crashed => exact holds.invariant.trails.current_crash crashed.1 (.refl _)
  intro _ found
  have holdsAfter := holds.step covenant_kept step
  rcases after with ⟨_, _⟩
  cases found
  exact holdsAfter.returned rfl rfl

namespace JobExample

def plan : Plan where
  nodeId := "node"
  network := "regtest"
  destination := "home"
  feeRateSatVb := 1

def tx : Transaction where
  version := 2
  lockTime := 0
  input := [⟨⟨"funding", 0⟩, [], 0, []⟩]
  output := [⟨1000, []⟩]

noncomputable def sweep : Sweep where
  transaction := Bitcoin.plain.serializeHex tx
  feeSats := 0

def settled : Snapshot where
  channels := []
  onchainSats := 1000
  spendableSats := 1000
  lightningSats := 0
  lightningClaims := 0
  pendingMonitorEvents := 0
  pendingSweeps := 0
  anchorReserveSats := 0
  claimDetails := []
  unresolvedLocalSpends := 0
  unreadableLocalSpends := 0
  estimatedCloseFeeMinSats := 0
  estimatedCloseFeeMaxSats := 0

/-- The world of a job that has been written without an error. -/
def working (state : State) : World where
  file := .synced (some state)
  job := some ⟨state, false⟩
  failed := false

theorem validate_sweep : sweep.validate .plain plan = .ok 1000 :=
  Sweep.validate_eq_ok_iff.mpr ⟨tx, ⟨1000, []⟩,
    Bitcoin.plain.deserialize_serialize tx (cons_ne_nil _ _), rfl,
    rfl, by decide, rfl⟩

theorem steps_begin : (session .plain).Steps (idle World.start) (idle (working (.begun plan))) := by
  have reached : Program.Reaches ((session .plain).code (.begin plan))
    [⟨.tryExists, .ok false⟩, ⟨.create (.begun plan), .ok ()⟩]
    (.done (.ok .begun)) :=
    .call (.call (.refl _))
  have performed : Program.Performed (session .plain).effect World.start
    [⟨.tryExists, .ok false⟩, ⟨.create (.begun plan), .ok ()⟩]
    (working (.begun plan)) :=
    .cons ⟨fun _ told => by cases told; rfl, rfl⟩ (.cons ⟨_, .completed, rfl⟩ (.nil _))
  exact (steps_call _ reached performed).tail .leave

theorem steps_approve : (session .plain).Steps (idle (working (.begun plan)))
      (idle (working ((State.begun plan).recordSweep sweep))) := by
  have reached : Program.Reaches ((session .plain).code (.approveSweep sweep))
    [⟨.self, ⟨.begun plan, false⟩⟩, ⟨.snapshot, .ok settled⟩, ⟨.prepareSweep plan, .ok sweep⟩,
      ⟨.persist ((State.begun plan).recordSweep sweep), .ok ()⟩]
    (.done (.ok .approved)) := by
    refine reaches_ask_bind_iff.mpr ⟨_, _, rfl, ?_⟩
    refine reaches_known_bind_ok_iff.mpr ⟨_, validate_sweep, ?_⟩
    refine .call (.call ?_)
    exact reaches_known_bind_ok_iff.mpr
      ⟨sweep, rfl, reaches_known_bind_ok_iff.mpr ⟨(), if_neg (not_not.mpr rfl), .call (.refl _)⟩⟩
  have performed : Program.Performed (session .plain).effect (working (.begun plan))
    [⟨.self, ⟨.begun plan, false⟩⟩, ⟨.snapshot, .ok settled⟩, ⟨.prepareSweep plan, .ok sweep⟩,
      ⟨.persist ((State.begun plan).recordSweep sweep), .ok ()⟩]
    (working ((State.begun plan).recordSweep sweep)) :=
    .cons ⟨rfl, rfl⟩
      (.cons rfl (.cons rfl (.cons ⟨_, .ok (), rfl, rfl, _, .completed, rfl⟩ (.nil _))))
  exact (steps_call _ reached performed).tail .leave

/-- The journal with the approved sweep. -/
noncomputable def approved : State :=
  (State.begun plan).recordSweep sweep

/-- What the next pass asks before it sends the sweep. -/
noncomputable def asked : List JobEvent :=
  [⟨.self, ⟨approved, false⟩⟩, ⟨.confirmations sweep, .ok 0⟩]

theorem steps_advance : ∃ next, (session .plain).Steps (idle (working approved))
      ⟨working approved, some ⟨.advance, asked, .call (.broadcast sweep plan) next⟩⟩ :=
  ⟨_, steps_call _ (.call (.call (.refl _))) (.cons ⟨rfl, rfl⟩ (.cons rfl (.nil _)))⟩

end JobExample

section

open JobExample

theorem operations_careful_broadcast :
    ∃ state, (working approved).file.durable = some state ∧ state.plan = plan ∧
      sweep ∈ state.sweeps ∧ PaysOnly .plain plan sweep := by
  obtain ⟨next, steps⟩ := steps_advance
  have sent : (session .plain).Step
    ⟨working approved, some ⟨.advance, asked, .call (.broadcast sweep plan) next⟩⟩
    ⟨working approved, some ⟨.advance, asked ++ [⟨.broadcast sweep plan, .ok ()⟩],
      next (.ok ())⟩⟩ :=
    .perform rfl
  obtain ⟨_, same, careful⟩ :=
    (operations_careful (steps_begin.trans (steps_approve.trans steps)) sent).1 _ _ rfl rfl
  cases append_cancel_left same
  exact (careful.broadcast sweep plan rfl).2

end

end BitSov.MoveHome
