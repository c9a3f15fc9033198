import BitSov.Recover.Parts

namespace BitSov.Recover

open Process Fallible Covenant

/-!
# The calls of a recovery keep its covenant

The methods are put together from their parts: the scan of a pass, the sweep
it shows to the owner, and the calls that approve a sweep or end the recovery.
-/

section

variable {bitcoin : Bitcoin} {recovery : Recovery}
  {outputs : List FoundOutput} {job : Job}

/-- A pass has seen that every sweep of the recovery is final. -/
def SweepsFinal (bitcoin : Bitcoin) (recovery : Recovery) (past : List JobEvent) : Prop :=
  ∀ saved ∈ recovery.sweeps, SweepFinal bitcoin past saved

theorem SweepsFinal.later {event : JobEvent} (final : SweepsFinal bitcoin recovery past) :
    SweepsFinal bitcoin recovery (past ++ [event]) :=
  fun saved mem => (final saved mem).mono (List.subset_append_left _ _)

theorem lasting_sweepsFinal : Lasting (SweepsFinal bitcoin recovery) :=
  fun _ _ _ final => final.later

/-- What the scan of a pass has found, among all scripts. -/
structure Looked (bitcoin : Bitcoin) (recovery : Recovery) (scripts : List RecoveryScript)
    (scanned : Scanned) (state : Recorded World JobOp JobAnswer) : Prop where
  working : Working recovery state.1
  sweeps : SweepsFinal bitcoin recovery state.2
  nothing : scanned = .nothing → LastScan state.2 scripts []
  found : ∀ outputs,
    scanned = .found outputs →
      LastScan state.2 scripts outputs ∧ ∀ output ∈ outputs, output.confirmations ≠ 0

theorem triple_refocus_bind {α : Type}
    {post : Except String α → Recorded World JobOp JobAnswer → Prop} {seen : List JobEvent → Prop}
    {cont : Unit → JobM α} (lasting : Lasting seen) (next : Keeps bitcoin call
      (fun state => Working recovery state.1 ∧ seen state.2) (cont ()) post) :
    Keeps bitcoin call (fun state => Working recovery state.1 ∧ seen state.2)
      (ask (JobOp.refocus outputs) >>= cont) post := by
  refine triple_ask_bind _ ?_ fun _ => next
  rintro _ past answer _ sound ⟨⟨job, found, works⟩, seenPast⟩ effect
  obtain ⟨soundAfter, careful⟩ := sound_focus ⟨.refocus outputs, answer⟩ (·.refocus outputs) sound
    (fun _ => rfl) (fun _ => rfl) effect nofun
  refine ⟨soundAfter, ⟨_, rfl, careful⟩, ?_, lasting past _ nofun seenPast⟩
  refine ⟨job.refocus outputs, ?_, works.clean, works.sweeps, works.funding⟩
  rw [effect, found]
  rfl

theorem scanAll_kept (scripts) : Keeps bitcoin call
      (fun state => Working recovery state.1 ∧ SweepsFinal bitcoin recovery state.2)
      (scanAll scripts) (fun outcome state =>
        ∀ scanned, outcome = .ok scanned → Looked bitcoin recovery scripts scanned state) := by
  refine triple_asks rfl (fun answer state => Working recovery state.1 ∧
    SweepsFinal bitcoin recovery state.2 ∧
    ∀ outputs, answer = .ok outputs → LastScan state.2 scripts outputs)
    ?_ fun answer => ?_
  · rintro _ past _ ⟨working, final⟩ -
    refine ⟨working, final.later, ?_⟩
    rintro outputs rfl
    exact ⟨past, [], rfl, nofun⟩
  refine triple_answer fun outputs told => ?_
  refine (triple_refocus_bind (lasting_sweepsFinal.and (lasting_lastScan scripts outputs))
    ?_).of_pre fun _ _ holds => ⟨holds.1, holds.2.1, holds.2.2 outputs told⟩
  split
  · refine triple_return fun state holds => ?_
    rintro _ ⟨⟩
    exact ⟨holds.1, holds.2.1, nofun, nofun⟩
  next confirmed =>
  split
  · next empty =>
    refine triple_return fun state holds => ?_
    rintro _ ⟨⟩
    exact ⟨holds.1, holds.2.1, fun _ => empty ▸ holds.2.2, nofun⟩
  refine triple_return fun state holds => ?_
  rintro _ ⟨⟩
  refine ⟨holds.1, holds.2.1, nofun, ?_⟩
  rintro _ ⟨⟩
  refine ⟨holds.2.2, fun output mem unconfirmed => confirmed ?_⟩
  exact List.any_eq_true.mpr ⟨output, mem, decide_eq_true unconfirmed⟩

theorem scanNarrowed_kept (scripts narrowed) : Keeps bitcoin call
      (fun state => Working recovery state.1 ∧ SweepsFinal bitcoin recovery state.2)
      (scanNarrowed scripts narrowed) (fun outcome state =>
        ∀ scanned, outcome = .ok scanned → Looked bitcoin recovery scripts scanned state) := by
  refine triple_asks rfl
    (fun _ state => Working recovery state.1 ∧ SweepsFinal bitcoin recovery state.2)
    (fun _ _ _ holds _ => ⟨holds.1, holds.2.later⟩) fun _ => ?_
  refine triple_answer fun _ _ => ?_
  split
  · exact scanAll_kept scripts
  refine triple_refocus_bind lasting_sweepsFinal ?_
  split
  · refine triple_return fun state holds => ?_
    rintro _ ⟨⟩
    exact ⟨holds.1, holds.2, nofun, nofun⟩
  · exact scanAll_kept scripts

theorem scanPass_kept (focus scripts) : Keeps bitcoin call
      (fun state => Working recovery state.1 ∧ SweepsFinal bitcoin recovery state.2)
      (scanPass focus scripts) (fun outcome state =>
        ∀ scanned, outcome = .ok scanned → Looked bitcoin recovery scripts scanned state) := by
  unfold scanPass
  cases scanTargets focus scripts with
  | borrowed => exact scanAll_kept scripts
  | owned narrowed => exact scanNarrowed_kept scripts narrowed

variable {keys : RecoveryKeys}

theorem spends_of_buildSweep {destination : Script} {feerate : UInt64} {signed : Signed}
    (built : (keys.buildSweep bitcoin outputs destination feerate).mapError RecoveryError.toText =
      .ok signed) :
    ∃ tx, (Sweep.mk (bitcoin.serializeHex signed.transaction) signed.fee).tx bitcoin = .ok tx ∧
      tx.prevouts = outputs.map FoundOutput.outpoint := by
  cases result : keys.buildSweep bitcoin outputs destination feerate with
  | error error =>
    rw [result] at built
    cases built
  | ok value =>
    obtain rfl : value = signed := Except.ok.inj (result ▸ built)
    obtain ⟨nonempty, prevouts⟩ := RecoveryKeys.buildSweep_prevouts result
    refine ⟨value.transaction, bitcoin.deserialize_serialize _ ?_, prevouts⟩
    intro noInputs
    rw [Transaction.prevouts, noInputs, List.map_nil, eq_comm, List.map_eq_nil_iff] at prevouts
    exact nonempty prevouts

theorem preview_kept (confirmed : ∀ output ∈ outputs, output.confirmations ≠ 0)
    (works : job.funding = recovery.funding) : Keeps bitcoin call
      (fun state => Working recovery state.1 ∧ LastScan state.2 scripts outputs)
      (preview bitcoin keys job outputs) (fun outcome state => ∀ progress, outcome = .ok progress →
        ∃ sweep, progress = .sweepPreview sweep outputs ∧ Working recovery state.1 ∧
          Previewed bitcoin state.2 recovery.funding scripts sweep outputs) := by
  unfold preview
  rw [works]
  refine triple_part _
    (authenticateCloses_kept (Working recovery) outputs (lasting_lastScan scripts outputs))
    fun _ => ?_
  refine triple_answer fun _ _ => ?_
  refine triple_answer fun _ _ => ?_
  refine triple_answer fun _ built => ?_
  refine triple_answer fun _ _ => ?_
  refine triple_return fun _ holds => ?_
  rintro _ ⟨⟩
  exact ⟨_, rfl, holds.1, holds.2.1, spends_of_buildSweep built, confirmed, holds.2.2⟩

theorem concludePass_kept (works : Works recovery job) :
    Keeps bitcoin call (fun state => Working recovery state.1 ∧
      SweepsFinal bitcoin recovery state.2 ∧ LastScan state.2 scripts []) (concludePass bitcoin job)
      (fun outcome state => ∀ progress, outcome = .ok progress → progress = .waitingForHub ∨
        progress = .selfTest ∧ Working recovery state.1 ∧ LastScan state.2 scripts [] ∧
          Rechecked bitcoin state.2 recovery) := by
  unfold concludePass
  rw [works.sweeps, works.funding]
  split
  · exact triple_return fun _ _ _ returned => .inl (Except.ok.inj returned).symm
  next something =>
  refine triple_part (fun closes state => ∀ found, closes = some found → Working recovery state.1 ∧
    (SweepsFinal bitcoin recovery state.2 ∧ LastScan state.2 scripts []) ∧
    ∀ funding ∈ recovery.funding, CloseFinal state.2 funding)
    ((confirmedCloses_kept recovery.funding []
      (lasting_sweepsFinal.and (lasting_lastScan scripts []))).weaken
      (fun _ _ holds => holds) ?_) fun closes => ?_
  · rintro _ state _ holds _ rfl found rfl
    exact holds found rfl
  cases closes with
  | none => exact triple_return fun _ _ _ returned => .inl (Except.ok.inj returned).symm
  | some found =>
    refine triple_return fun state holds => ?_
    rintro _ ⟨⟩
    obtain ⟨working, ⟨sweeps, scanned⟩, closes⟩ := holds found rfl
    refine .inr ⟨rfl, working, scanned, ?_, sweeps, closes⟩
    rw [not_and_or] at something
    exact something

theorem Rechecked.of_works (rechecked : Rechecked bitcoin past recovery)
    (works : Works recovery job) : Rechecked bitcoin past job.ledger.recovery where
  something := by
    have something := rechecked.something
    rw [← works.sweeps, ← works.funding] at something
    exact something
  sweeps := by
    have sweeps := rechecked.sweeps
    rw [← works.sweeps] at sweeps
    exact sweeps
  closes := by
    have closes := rechecked.closes
    rw [← works.funding] at closes
    exact closes

theorem resumeSweeps_kept : Keeps bitcoin call (fun state => Working recovery state.1)
      (resumeSweeps bitcoin)
      (fun outcome state => ∀ found, outcome = .ok found → (∀ progress, found = some progress →
        ∃ txid count, progress = .confirming txid count) ∧
        (found = none → Working recovery state.1 ∧ SweepsFinal bitcoin recovery state.2)) := by
  refine triple_asks rfl (fun job state => Works recovery job ∧ state.1.job = some job)
    ?_ fun job => ?_
  · rintro _ _ job ⟨held, found, works⟩ ⟨told, -⟩
    cases found.symm.trans told
    exact ⟨works, found⟩
  refine View.triple_of_fact fun works => ?_
  refine triple_answer fun _ _ => ?_
  refine (resumeEach_kept works.clean job.sweeps (fun _ mem => mem)
    lasting_true).weaken (fun _ _ found => ⟨found, trivial⟩) ?_
  intro _ state _ holds found returned
  obtain ⟨progress, final⟩ := holds found returned
  refine ⟨progress, fun none => ?_⟩
  obtain ⟨held, -, sweeps⟩ := final none
  refine ⟨⟨job, held, works⟩, ?_⟩
  unfold SweepsFinal
  rw [← works.sweeps]
  exact sweeps

end

section

theorem triple_job_bind {call : JobCall} {α : Type}
    {post : Except String α → Recorded World JobOp JobAnswer → Prop} {cont : Job → JobM α}
    (next : ∀ job, job.poisoned = false → Keeps bitcoin call
      (fun state => state.1.job = some job) (cont job) post)
    (failed : ∀ error state, post (.error error) state := by
  first | exact fun _ _ => nofun | exact fun _ _ _ => nofun) :
  Keeps bitcoin call (fun state => state.2 = []) (do
    let job ← ask JobOp.self
    known job.check
    cont job : JobM α)
    post := by
  refine triple_asks rfl (fun job state => state.1.job = some job)
    (fun _ _ _ _ answered => answered.1) fun job => ?_
  exact triple_answer (fun _ checked => next job (clean_of_check checked)) failed

theorem advance_kept (keys scripts) : (covenant bitcoin).Honours (.advance keys scripts) := by
  refine triple_part
    (fun progress state => Achieved bitcoin (.advance keys scripts) (.progress progress) state)
    ?_ fun progress => ?_
  · unfold Recover.advance
    refine triple_job_bind fun job clean => ?_
    split
    · refine triple_return fun _ _ => ?_
      rintro _ ⟨⟩
      trivial
    have works := works_self clean
    refine triple_part _ (resumeSweeps_kept.of_pre fun _ _ found => ⟨job, found, works⟩)
      fun found => ?_
    cases found with
    | some progress =>
      refine triple_return fun _ holds => ?_
      rintro _ ⟨⟩
      obtain ⟨_, _, rfl⟩ := holds.1 progress rfl
      trivial
    | none =>
      refine triple_part _ ((scanPass_kept job.focus scripts).of_pre fun _ _ holds => holds.2 rfl)
        fun scanned => ?_
      cases scanned with
      | unconfirmed =>
        refine triple_return fun _ _ => ?_
        rintro _ ⟨⟩
        trivial
      | nothing =>
        refine (concludePass_kept works).weaken
          (fun _ _ looked => ⟨looked.working, looked.sweeps, looked.nothing rfl⟩) ?_
        intro _ state _ holds progress returned
        rcases holds progress returned with
          rfl | ⟨rfl, ⟨held, found, worksHeld⟩, scanned, rechecked⟩
        · trivial
        · exact ⟨held, found, scanned, rechecked.of_works worksHeld⟩
      | found outputs =>
        refine (View.triple_of_fact fun confirmed =>
          (preview_kept confirmed works.funding).weaken (fun _ _ holds => holds) ?_).of_pre
          fun _ _ looked =>
            ⟨(looked.found outputs rfl).2, looked.working, (looked.found outputs rfl).1⟩
        intro _ state _ holds progress returned
        obtain ⟨_, rfl, ⟨held, found, worksHeld⟩, previewed⟩ := holds progress returned
        refine ⟨held, found, ?_⟩
        rw [worksHeld.funding]
        exact previewed
  · exact triple_return fun _ achieved _ returned => by
      cases returned
      exact achieved

theorem resumeSweeps_call_kept : (covenant bitcoin).Honours .resumeSweeps := by
  refine triple_part (fun _ _ => True) ?_ fun _ => triple_return fun _ _ _ _ => trivial
  refine triple_job_bind fun job clean => ?_
  exact (resumeEach_kept clean job.sweeps (fun _ mem => mem)
    lasting_true).weaken (fun _ _ found => ⟨found, trivial⟩)
    fun _ _ _ _ _ _ => trivial

theorem approve_kept (sweep inputs) : (covenant bitcoin).Honours (.approve sweep inputs) := by
  refine triple_part (fun _ _ => True) ?_ fun _ => triple_return fun _ _ _ _ => trivial
  refine triple_job_bind fun job clean => ?_
  refine triple_answer fun _ pays => ?_
  refine triple_answer fun _ stored => ?_
  refine triple_answer fun _ checked => ?_
  obtain ⟨spends, apart⟩ := spends_of_checkInputs pays stored checked
  refine (triple_notes (fun world => world.job = some job) lasting_true rfl
    (by rintro _ ⟨⟩) fun answer => ?_).of_pre
    fun _ _ found => ⟨found, trivial⟩
  refine triple_answer fun _ told => ?_
  refine triple_failIf_bind (fun _ _ => nofun) fun rechecked => ?_
  rw [Bool.not_eq_false] at rechecked
  subst rechecked told
  refine triple_part _ ((authenticateCloses_kept (fun world => world.job = some job) inputs
    fun _ _ _ => List.mem_append_left _).of_pre
    fun _ _ holds => ⟨holds.1, holds.2.2⟩) fun _ => ?_
  refine triple_ask_bind (fun _ _ => True) ?_ fun answer => triple_answer fun _ _ => ?_
  · rintro _ _ answer _ sound ⟨found, asked, closes⟩ effect
    obtain ⟨-, -, -, valid⟩ := sound.holds found clean
    obtain ⟨soundAfter, careful, -⟩ :=
      sound_save sound found clean effect (.swept rfl ⟨asked, closes⟩)
        (valid_recordSweep valid spends apart)
    exact ⟨soundAfter, ⟨_, rfl, careful⟩, trivial⟩
  refine View.triple_ask (stable _) ?_
  rintro ⟨_, _⟩ answer ⟨_, _⟩ sound - ⟨effect, rfl⟩
  obtain ⟨soundAfter, careful⟩ :=
    sound_focus ⟨.clearFocus, answer⟩ Job.clearFocus sound (fun _ => rfl)
      (fun _ => rfl) effect nofun
  exact ⟨soundAfter, ⟨_, rfl, careful⟩, fun _ _ => trivial⟩

theorem finish_kept (selfTest) : (covenant bitcoin).Honours (.finish selfTest) := by
  refine triple_part (fun _ _ => True) ?_ fun _ => triple_return fun _ _ _ _ => trivial
  refine triple_job_bind fun job clean => ?_
  have works := works_self clean
  refine triple_failIf_bind (fun _ _ => nofun) fun incomplete => ?_
  rw [not_or, not_and_or] at incomplete
  refine triple_part (fun closes state => ∀ found, closes = some found →
    Working job.ledger.recovery state.1 ∧ True ∧
      ∀ funding ∈ job.funding, CloseFinal state.2 funding)
    ((confirmedCloses_kept job.funding [] lasting_true).weaken
      (fun _ _ found => ⟨⟨job, found, works⟩, trivial⟩) ?_) fun closes => ?_
  · rintro _ state _ holds _ rfl found rfl
    exact holds found rfl
  cases closes with
  | none => exact View.triple_known fun _ _ _ _ => nofun
  | some =>
    refine triple_asks rfl (fun later state => Works job.ledger.recovery later ∧
      state.1.job = some later ∧
      ∀ funding ∈ job.funding, CloseFinal state.2 funding)
      ?_ fun later => View.triple_of_fact fun worksLater => ?_
    · rintro world past later holds ⟨told, -⟩
      obtain ⟨⟨_, found, worksHeld⟩, -, final⟩ := holds _ rfl
      cases found.symm.trans told
      exact ⟨worksHeld, found, fun funding mem =>
        (final funding mem).mono (List.subset_append_left _ _)⟩
    refine triple_part _
      (reportSweeps_kept (fun world => world.job = some later) _ _ (Lasting.all lasting_closeFinal))
      fun report => ?_
    refine triple_ask_bind (fun _ _ => True) ?_ fun _ =>
      triple_answer fun _ _ => triple_return fun _ _ _ _ => trivial
    rintro _ past _ _ sound ⟨found, closes, sweeps⟩ effect
    obtain ⟨-, -, -, valid⟩ := sound.holds found worksLater.clean
    have rechecked : Rechecked bitcoin past job.ledger.recovery := by
      refine ⟨incomplete.1, ?_, closes⟩
      rw [← worksLater.sweeps]
      exact sweeps
    obtain ⟨soundAfter, careful, -⟩ := sound_save sound found worksLater.clean effect
      (.finished rfl (rechecked.of_works worksLater))
      (valid_complete valid report.tidy)
    exact ⟨soundAfter, ⟨_, rfl, careful⟩, trivial⟩

theorem covenant_kept : (covenant bitcoin).Kept where
  crash _ _ sound crashed := World.Sound.crash sound crashed
  code call := by
    cases call with
    | initializeJournal => exact initializeJournal_kept
    | loadOrBegin plan funding => exact loadOrBegin_kept plan funding
    | advance keys scripts => exact advance_kept keys scripts
    | resumeSweeps => exact resumeSweeps_call_kept
    | approve sweep inputs => exact approve_kept sweep inputs
    | finish selfTest => exact finish_kept selfTest
    | ensureNormalStart => exact ensureNormalStart_kept

end

end BitSov.Recover
