import BitSov.Recover.Safety

namespace BitSov.Recover

open Process Fallible Covenant List View

/-!
# The parts of the calls of a recovery

Each method is followed with one rule for a question and the lemmas about the
writes of the journal.  What a method has seen so far is a fact about its past
operations that further operations do not undo.
-/

def JobOp.asks : JobOp → Bool
  | .create | .load _ | .save _ | .refocus _ | .clearFocus | .broadcast _ => false
  | .ensureFreshRoot | .ensureRecoveryRoot | .read | .self | .scan _
  | .fundingSpend _ | .transaction _ | .recheck _ => true

variable {op : JobOp}

theorem JobOp.silent_of_asks (asks : op.asks) (tx) : op ≠ .broadcast tx := by
  rintro rfl
  cases asks

theorem JobOp.unchanged_of_asks (asks : op.asks) (before)
    (answer after) (effect : Recover.effect before op answer after) : after = before := by
  cases op with
  | create | load | save | refocus | clearFocus | broadcast => cases asks
  | read | self => exact effect.2
  | ensureFreshRoot | ensureRecoveryRoot | scan | fundingSpend
  | transaction | recheck => exact effect

section

variable {α : Type}

theorem triple_asks {cont : JobAnswer op → JobM α} (asks : op.asks)
    (middle : JobAnswer op → Recorded World JobOp JobAnswer → Prop)
    (answered : ∀ world past answer, pre (world, past) → effect world op answer world →
      middle answer (world, past ++ [⟨op, answer⟩])) (next : ∀ answer,
      Keeps bitcoin call (middle answer) (cont answer) post) :
    Keeps bitcoin call pre (ask op >>= cont) post :=
  triple_question (JobOp.unchanged_of_asks asks)
    (fun _ _ _ => ⟨_, rfl, careful_of_file_eq rfl (JobOp.silent_of_asks asks)⟩)
    middle answered next

end

/-!
## What stays seen
-/

/-- A fact about the past of a call that only another scan can undo. -/
def Lasting (seen : List JobEvent → Prop) : Prop :=
  ∀ past event, (∀ scripts, event.operation ≠ .scan scripts) → seen past → seen (past ++ [event])

section

theorem Authenticated.mono {funding : List OutPoint}
    (authenticated : Authenticated past funding output) (more : past ⊆ later) :
    Authenticated later funding output := by
  obtain ⟨close, asked, confirmed⟩ := authenticated
  exact ⟨close, more asked, confirmed⟩

theorem SweepFinal.mono {bitcoin : Bitcoin} {saved : SavedSweep}
    (final : SweepFinal bitcoin past saved) (more : past ⊆ later) :
    SweepFinal bitcoin later saved := by
  obtain ⟨tx, current, stored, asked, same⟩ := final
  exact ⟨tx, current, stored, more asked, same⟩

theorem CloseFinal.mono {funding : OutPoint} (final : CloseFinal past funding)
    (more : past ⊆ later) : CloseFinal later funding := by
  obtain ⟨close, asked, confirmed⟩ := final
  exact ⟨close, asked.imp (fun ⟨id, told⟩ => ⟨id, more told⟩) (more ·), confirmed⟩

theorem lasting_authenticated (funding output) :
    Lasting fun past => Authenticated past funding output :=
  fun _ _ _ seen => seen.mono (subset_append_left _ _)

theorem lasting_sweepFinal (bitcoin saved) : Lasting fun past => SweepFinal bitcoin past saved :=
  fun _ _ _ seen => seen.mono (subset_append_left _ _)

theorem lasting_closeFinal (funding) : Lasting fun past => CloseFinal past funding :=
  fun _ _ _ seen => seen.mono (subset_append_left _ _)

theorem lasting_true : Lasting fun _ => True := fun _ _ _ _ => trivial

theorem lasting_lastScan (scripts outputs) : Lasting fun past => LastScan past scripts outputs := by
  rintro _ event other ⟨prior, later, rfl, quiet⟩
  refine ⟨prior, later ++ [event], by simp, ?_⟩
  intro one mem
  rcases mem_append.mp mem with old | only
  · exact quiet one old
  · rw [mem_singleton.mp only]
    exact other

theorem Lasting.and {seen also : List JobEvent → Prop} (lasting : Lasting seen)
    (lastingAlso : Lasting also) : Lasting fun past => seen past ∧ also past :=
  fun past event other both =>
    ⟨lasting past event other both.1, lastingAlso past event other both.2⟩

theorem Lasting.all {ι : Type} {items : List ι} {seen : ι → List JobEvent → Prop}
    (lasting : ∀ item, Lasting (seen item)) : Lasting fun past => ∀ item ∈ items, seen item past :=
  fun past event other all item mem => lasting item past event other (all item mem)

end

/-!
## The journal and its job
-/

section

theorem checkVersion_eq_ok (checked : checkVersion file = .ok found) :
    found = file ∧ ∀ journal, found = some journal → journal.version = 1 := by
  cases file with
  | none =>
    cases checked
    exact ⟨rfl, nofun⟩
  | some journal =>
    by_cases version : journal.version = 1
    · rw [checkVersion, if_neg (not_not.mpr version)] at checked
      cases checked
      refine ⟨rfl, ?_⟩
      rintro _ ⟨⟩
      exact version
    · rw [checkVersion, if_pos version] at checked
      cases checked

theorem readJournal_kept {call : JobCall} : Keeps bitcoin call (fun _ => True) readJournal
      (fun outcome state => ∀ found, outcome = .ok found → found = state.1.file.current ∧
        ∀ journal, found = some journal → journal.version = 1) := by
  refine triple_asks rfl
    (fun answer state => ∀ found, answer = .ok found → found = state.1.file.current)
    (fun _ _ _ _ answered => answered.1) fun answer => ?_
  refine triple_answer fun file told => ?_
  refine triple_known fun state _ read found checked => ?_
  obtain ⟨rfl, version⟩ := checkVersion_eq_ok checked
  exact ⟨read _ told, version⟩

theorem initializeJournal_kept : (covenant bitcoin).Honours .initializeJournal := by
  refine triple_part (fun _ _ => True) ?_ fun _ => triple_return fun _ _ _ _ => trivial
  refine triple_asks rfl (fun _ _ => True) (fun _ _ _ _ _ => trivial) fun _ => ?_
  refine triple_answer fun _ _ => ?_
  refine triple_part _ readJournal_kept fun _ => ?_
  refine triple_failIf_bind (fun _ _ => nofun) fun absent => ?_
  refine triple_ask_bind (fun _ _ => True) ?_ fun _ => triple_known fun _ _ _ _ _ => trivial
  intro before _ _ _ sound read effect
  have none : before.file.current = none := by
    rw [← read.1]
    simpa using absent
  obtain ⟨soundAfter, careful⟩ := sound_create sound none effect
  exact ⟨soundAfter, ⟨_, rfl, careful⟩, trivial⟩

theorem resumeLedger_eq_ok {plan : Plan} {funding : List OutPoint}
    (resumed : resumeLedger bitcoin plan funding found = .ok ledger)
    (version : ∀ journal, found = some journal → journal.version = 1) :
    ledger.recovery.plan = plan ∧ ledger.recovery.funding = funding ∧ (found = some ledger.journal ∨
      found = some .initial ∧ ledger = ⟨.opened, .begun plan funding⟩) := by
  cases found with
  | none => cases resumed
  | some journal =>
    obtain ⟨number, _, recovery⟩ := journal
    obtain rfl : number = 1 := version _ rfl
    cases recovery with
    | some recovery =>
      unfold resumeLedger at resumed
      dsimp only at resumed
      split at resumed
      · cases resumed
      next same =>
      obtain ⟨samePlan, sameFunding⟩ := not_or.mp same
      obtain ⟨-, -, resumed⟩ := bind_eq_ok_iff.mp resumed
      cases resumed
      exact ⟨not_not.mp samePlan, not_not.mp sameFunding, .inl rfl⟩
    | none =>
      unfold resumeLedger at resumed
      dsimp only at resumed
      split at resumed
      · cases resumed
      next opened =>
      obtain rfl := not_not.mp opened
      cases resumed
      exact ⟨rfl, rfl, .inr ⟨rfl, rfl⟩⟩

theorem loadOrBegin_kept (plan funding) :
    (covenant bitcoin).Honours (.loadOrBegin plan funding) := by
  refine triple_part (fun _ state => termsOf state.1.file.durable = some (plan, funding))
    ?_ fun _ => triple_return fun _ terms _ _ => terms
  refine triple_asks rfl (fun _ _ => True) (fun _ _ _ _ _ => trivial) fun answer => ?_
  refine triple_answer fun _ _ => ?_
  refine triple_part _ readJournal_kept fun _ => ?_
  refine triple_answer fun ledger resumed => ?_
  refine triple_ask_bind (fun (answer : Except String Unit) state =>
    answer = .ok () → termsOf state.1.file.durable = some (plan, funding))
    ?_ fun answer => ?_
  · rintro before past answer _ sound ⟨rfl, version⟩ effect
    obtain ⟨samePlan, sameFunding, source⟩ := resumeLedger_eq_ok resumed version
    have written : Journaled bitcoin (.loadOrBegin plan funding) past
      before.file.current (some ledger.journal) ∧
      Valid bitcoin (some ledger.journal) := by
      rcases source with same | ⟨initial, rfl⟩
      · rw [← same]
        exact ⟨.kept _, sound.valid.current⟩
      · rw [initial]
        exact ⟨.begun rfl, valid_begun plan funding⟩
    obtain ⟨soundAfter, careful, durable⟩ := sound_load sound effect written.1 written.2
    refine ⟨soundAfter, ⟨_, rfl, careful⟩, fun loaded => ?_⟩
    rw [durable loaded, ← samePlan, ← sameFunding]
    rfl
  · exact triple_known fun _ _ terms _ loaded => terms loaded

theorem ensureNormalStart_kept : (covenant bitcoin).Honours .ensureNormalStart := by
  refine triple_part (fun _ state => checkNormalStart state.1.file.current = .ok ())
    ?_ fun _ => triple_return fun _ normal _ _ => normal
  refine triple_part _ (readJournal_kept.of_pre fun _ _ _ => trivial) fun _ => ?_
  refine triple_known fun state _ read _ normal => ?_
  rw [← read.1]
  exact normal

end

/-!
## The parts of a pass
-/

/-- The job goes on, with the sweeps and the funding of the recovery. -/
structure Works (recovery : Recovery) (job : Job) : Prop where
  clean : job.poisoned = false
  sweeps : job.sweeps = recovery.sweeps
  funding : job.funding = recovery.funding

/-- The world in which such a job is held. -/
def Working (recovery : Recovery) (world : World) : Prop :=
  ∃ job, world.job = some job ∧ Works recovery job

variable {job : Job}

theorem works_self (clean : job.poisoned = false) : Works job.ledger.recovery job :=
  ⟨clean, rfl, rfl⟩

theorem clean_of_check (checked : job.check = .ok value) : job.poisoned = false := by
  cases poisoned : job.poisoned with
  | false => rfl
  | true => simp [Job.check, poisoned] at checked

section

variable {bitcoin : Bitcoin} {call : JobCall} {seen : List JobEvent → Prop}

theorem triple_notes {α : Type} {post : Except String α → Recorded World JobOp JobAnswer → Prop}
    {cont : JobAnswer op → JobM α} (here : World → Prop)
    (lasting : Lasting seen) (asks : op.asks) (other : ∀ scripts, op ≠ .scan scripts)
    (next : ∀ answer, Keeps bitcoin call
      (fun state => here state.1 ∧ seen state.2 ∧ ⟨op, answer⟩ ∈ state.2) (cont answer) post) :
    Keeps bitcoin call (fun state => here state.1 ∧ seen state.2) (ask op >>= cont) post :=
  triple_asks asks _ (fun _ past _ holds _ =>
    ⟨holds.1, lasting past _ other holds.2, mem_append_right _ (mem_singleton_self _)⟩)
    next

theorem enough_confirmations {count : UInt32} (enough : ¬ count < finalConfirmations) : 6 ≤ count :=
  UInt32.not_lt.mp enough

variable {job : Job} {saved : SavedSweep}

/-- A saved sweep is broadcast as the durable journal has it, or is final. -/
theorem resumeSweep_kept (lasting : Lasting seen) (clean : job.poisoned = false)
    (mem : saved ∈ job.sweeps) :
    Keeps bitcoin call (fun state => state.1.job = some job ∧ seen state.2)
      (resumeSweep bitcoin saved)
      (fun outcome state => ∀ found, outcome = .ok found → (∀ progress, found = some progress →
        ∃ txid count, progress = .confirming txid count) ∧ (found = none →
          state.1.job = some job ∧ seen state.2 ∧ SweepFinal bitcoin state.2 saved)) := by
  refine triple_answer fun tx stored => ?_
  refine triple_asks rfl (fun _ state => state.1.job = some job ∧ seen state.2)
    (fun _ past _ holds _ => ⟨holds.1, lasting past _ nofun holds.2⟩)
    fun _ => ?_
  refine triple_answer fun _ _ => ?_
  split
  · refine triple_ask_bind (fun _ _ => True) ?_ fun _ =>
    triple_answer fun _ _ => triple_return fun _ _ => ?_
    · rintro _ past _ _ sound ⟨found, -⟩ rfl
      obtain ⟨working, durable, -, valid⟩ := sound.holds found clean
      refine ⟨sound, ⟨_, rfl, ⟨.kept _, .refl _, ?_, fun _ => .inl rfl⟩⟩, trivial⟩
      rintro _ ⟨⟩
      obtain ⟨_, spends⟩ := valid.spends saved mem
      cases stored.symm.trans spends.stored
      exact ⟨working, job.ledger, saved, durable, mem, spends⟩
    · rintro _ ⟨⟩
      refine ⟨?_, nofun⟩
      rintro _ ⟨⟩
      exact ⟨_, _, rfl⟩
  · refine triple_notes (fun world => world.job = some job) lasting rfl nofun fun _ => ?_
    refine triple_answer fun current told => ?_
    cases current with
    | none => exact triple_known fun _ _ _ _ => nofun
    | some current =>
      refine triple_failIf_bind (fun _ _ => nofun) fun same => ?_
      split
      · refine triple_return fun _ _ => ?_
        rintro _ ⟨⟩
        refine ⟨?_, nofun⟩
        rintro _ ⟨⟩
        exact ⟨_, _, rfl⟩
      next enough =>
        refine triple_return fun state holds => ?_
        rintro _ ⟨⟩
        refine ⟨nofun, fun _ => ⟨holds.1, holds.2.1, ?_⟩⟩
        exact ⟨tx, current, stored, told ▸ holds.2.2, not_not.mp same, enough_confirmations enough⟩

theorem resumeEach_kept (clean : job.poisoned = false) (rest)
    (members : ∀ saved ∈ rest, saved ∈ job.sweeps) (lasting : Lasting seen) :
    Keeps bitcoin call (fun state => state.1.job = some job ∧ seen state.2)
      (resumeEach bitcoin rest)
      (fun outcome state => ∀ found, outcome = .ok found → (∀ progress, found = some progress →
        ∃ txid count, progress = .confirming txid count) ∧
        (found = none → state.1.job = some job ∧ seen state.2 ∧
          ∀ saved ∈ rest, SweepFinal bitcoin state.2 saved)) := by
  induction rest generalizing seen with
  | nil =>
    refine triple_return fun _ holds => ?_
    rintro _ ⟨⟩
    exact ⟨nofun, fun _ => ⟨holds.1, holds.2, nofun⟩⟩
  | cons saved rest ih =>
    refine triple_part _ (resumeSweep_kept lasting clean (members saved mem_cons_self))
      fun found => ?_
    cases found with
    | some progress =>
      refine triple_return fun _ holds => ?_
      rintro _ ⟨⟩
      exact ⟨holds.1, nofun⟩
    | none =>
      have later := ih (fun other mem => members other (mem_cons_of_mem _ mem))
        (lasting.and (lasting_sweepFinal bitcoin saved))
      refine later.weaken (fun _ _ holds => holds.2 rfl) ?_
      intro _ _ _ holds found returned
      obtain ⟨progress, final⟩ := holds found returned
      refine ⟨progress, fun none => ?_⟩
      obtain ⟨held, ⟨past, first⟩, others⟩ := final none
      exact ⟨held, past, forall_mem_cons.mpr ⟨first, others⟩⟩

variable (here : World → Prop) {funding : List OutPoint}

theorem authenticateClose_kept {output : FoundOutput} (lasting : Lasting seen) :
    Keeps bitcoin call (fun state => here state.1 ∧ seen state.2)
      (authenticateClose funding output) (fun outcome state => ∀ value, outcome = .ok value →
        here state.1 ∧ seen state.2 ∧ Authenticated state.2 funding output) := by
  refine triple_notes here lasting rfl nofun fun _ => ?_
  refine triple_answer fun close told => ?_
  cases close with
  | none => exact triple_known fun _ _ _ _ => nofun
  | some close =>
    refine triple_failIf_bind (fun _ _ => nofun) fun confirmed => ?_
    rw [not_or, not_not] at confirmed
    refine triple_known fun _ _ holds _ checked => ?_
    refine ⟨holds.1, holds.2.1, close, told ▸ holds.2.2, confirmed.1,
      confirmed.2, fun indexed => ?_⟩
    by_contra unknown
    rw [if_pos ⟨indexed, by push Not at unknown; exact unknown⟩] at checked
    cases checked

theorem authenticateCloses_kept (outputs) (lasting : Lasting seen) :
    Keeps bitcoin call (fun state => here state.1 ∧ seen state.2)
      (authenticateCloses funding outputs)
      (fun outcome state => ∀ value, outcome = .ok value → here state.1 ∧ seen state.2 ∧
        ∀ output ∈ outputs, Authenticated state.2 funding output) := by
  induction outputs generalizing seen with
  | nil => exact triple_return fun _ holds _ _ => ⟨holds.1, holds.2, nofun⟩
  | cons output _ ih =>
    refine triple_part _ (authenticateClose_kept here lasting) fun _ => ?_
    refine (ih (lasting.and (lasting_authenticated funding output))).weaken
      (fun _ _ holds => holds) ?_
    intro _ _ _ holds value returned
    obtain ⟨world, ⟨past, first⟩, others⟩ := holds value returned
    exact ⟨world, past, forall_mem_cons.mpr ⟨first, others⟩⟩

/-- The chain has reported the transaction as one that closes a channel. -/
def ReportedClose (past : List JobEvent) (funding : OutPoint) (close : ChainTransaction) : Prop :=
  (∃ id, ⟨.transaction id, .ok (some close)⟩ ∈ past) ∨
    ⟨.fundingSpend funding, .ok (some close)⟩ ∈ past

variable {funding : OutPoint}

theorem findClose_kept (saved : Option Txid) (lasting : Lasting seen) :
    Keeps bitcoin call (fun state => here state.1 ∧ seen state.2) (findClose funding saved)
      (fun outcome state => ∀ found, outcome = .ok found → here state.1 ∧ seen state.2 ∧
        ∀ close, found = some close → ReportedClose state.2 funding close) := by
  cases saved with
  | some id =>
    refine triple_notes here lasting rfl nofun fun _ => triple_known ?_
    rintro _ _ ⟨world, past, asked⟩ _ rfl
    refine ⟨world, past, ?_⟩
    rintro _ rfl
    exact .inl ⟨id, asked⟩
  | none =>
    unfold findClose
    refine triple_notes here lasting rfl nofun fun _ => triple_known ?_
    rintro _ _ ⟨world, past, asked⟩ _ rfl
    refine ⟨world, past, ?_⟩
    rintro _ rfl
    exact .inr asked

variable {recovery : Recovery}

theorem recordClose_kept {id : Txid} (saved) (works : Works recovery job) (lasting : Lasting seen) :
    Keeps bitcoin call (fun state => state.1.job = some job ∧ seen state.2)
      (recordClose job funding saved id) (fun outcome state =>
        ∀ value, outcome = .ok value → Working recovery state.1 ∧ seen state.2) := by
  cases saved with
  | some => exact triple_return fun _ holds _ _ => ⟨⟨job, holds.1, works⟩, holds.2⟩
  | none =>
    refine triple_ask_bind (fun (answer : Except String Unit) state =>
      (answer = .ok () → Working recovery state.1) ∧ seen state.2)
      ?_ fun answer => triple_known fun _ _ holds _ saved => ⟨holds.1 saved, holds.2⟩
    rintro _ past answer _ sound ⟨found, seenPast⟩ effect
    obtain ⟨-, -, -, valid⟩ := sound.holds found works.clean
    obtain ⟨soundAfter, careful, saved⟩ := sound_save sound found works.clean effect
      (.closed job.ledger funding id)
      (valid_recordClose valid funding id)
    refine ⟨soundAfter, ⟨_, rfl, careful⟩, fun succeeded => ?_, lasting past _ nofun seenPast⟩
    exact ⟨_, saved succeeded, works.clean, works.sweeps, works.funding⟩

theorem confirmedClose_kept (lasting : Lasting seen) :
    Keeps bitcoin call (fun state => Working recovery state.1 ∧ seen state.2)
      (confirmedClose bitcoin funding) (fun outcome state => ∀ id, outcome = .ok (some id) →
        Working recovery state.1 ∧ seen state.2 ∧ CloseFinal state.2 funding) := by
  refine triple_asks rfl
    (fun job state => Works recovery job ∧ state.1.job = some job ∧ seen state.2)
    ?_ fun job => ?_
  · rintro world past job ⟨⟨_, found, works⟩, seenPast⟩ ⟨told, -⟩
    cases found.symm.trans told
    exact ⟨works, found, lasting past _ nofun seenPast⟩
  refine triple_of_fact fun works => ?_
  refine triple_part _ (findClose_kept (fun world => world.job = some job) _ lasting)
    fun found => ?_
  cases found with
  | none => exact triple_return fun _ _ _ => nofun
  | some close =>
    refine triple_failIf_bind (fun _ _ => nofun) fun spending => ?_
    split
    · exact triple_return fun _ _ _ => nofun
    next enough =>
    refine triple_failIf_bind (fun _ _ => nofun) fun _ => ?_
    have closed : ∀ past, ReportedClose past funding close → CloseFinal past funding := by
      intro past reported
      refine ⟨close, reported, ?_, enough_confirmations enough⟩
      rw [Bool.not_eq_false] at spending
      exact Transaction.mem_prevouts_of_spends spending
    refine triple_part _ ((recordClose_kept _ works
      (lasting.and (lasting_closeFinal funding))).of_pre
      fun _ _ holds => ⟨holds.1, holds.2.1, closed _ (holds.2.2 close rfl)⟩)
      fun _ => triple_return fun _ holds _ _ => holds

theorem confirmedCloses_kept (rest ids) (lasting : Lasting seen) :
    Keeps bitcoin call (fun state => Working recovery state.1 ∧ seen state.2)
      (confirmedCloses bitcoin rest ids) (fun outcome state => ∀ found, outcome = .ok (some found) →
        Working recovery state.1 ∧ seen state.2 ∧
          ∀ funding ∈ rest, CloseFinal state.2 funding) := by
  induction rest generalizing seen ids with
  | nil => exact triple_return fun _ holds _ _ => ⟨holds.1, holds.2, nofun⟩
  | cons funding rest ih =>
    refine triple_part (fun found state => ∀ id, found = some id →
      Working recovery state.1 ∧ seen state.2 ∧ CloseFinal state.2 funding)
      ((confirmedClose_kept lasting).weaken (fun _ _ holds => holds) ?_) fun found => ?_
    · rintro _ state _ holds _ rfl id rfl
      exact holds id rfl
    cases found with
    | none => exact triple_return fun _ _ _ => nofun
    | some id =>
      refine (ih (ids ++ [id]) (lasting.and (lasting_closeFinal funding))).weaken
        (fun _ _ holds => holds id rfl) ?_
      intro _ state _ holds found returned
      obtain ⟨working, ⟨past, first⟩, others⟩ := holds found returned
      exact ⟨working, past, forall_mem_cons.mpr ⟨first, others⟩⟩

theorem reportSweep_kept (here : World → Prop) (report) (lasting : Lasting seen) :
    Keeps bitcoin call (fun state => here state.1 ∧ seen state.2)
      (reportSweep bitcoin plan saved report) (fun outcome state => ∀ value, outcome = .ok value →
        here state.1 ∧ seen state.2 ∧ SweepFinal bitcoin state.2 saved) := by
  refine triple_answer fun tx stored => ?_
  refine triple_notes here lasting rfl nofun fun _ => ?_
  refine triple_answer fun current told => ?_
  cases current with
  | none => exact triple_known fun _ _ _ _ => nofun
  | some current =>
    refine triple_failIf_bind (fun _ _ => nofun) fun final => ?_
    obtain ⟨same, enough⟩ := not_or.mp final
    refine triple_answer fun _ _ => ?_
    refine triple_return fun _ holds _ _ => ?_
    exact ⟨holds.1, holds.2.1, tx, current, stored, told ▸ holds.2.2,
      not_not.mp same, enough_confirmations enough⟩

theorem reportSweeps_kept (rest : List SavedSweep) (report) (lasting : Lasting seen) :
    Keeps bitcoin call (fun state => here state.1 ∧ seen state.2)
      (reportSweeps bitcoin plan rest report) (fun outcome state => ∀ value, outcome = .ok value →
        here state.1 ∧ seen state.2 ∧ ∀ saved ∈ rest, SweepFinal bitcoin state.2 saved) := by
  induction rest generalizing seen report with
  | nil => exact triple_return fun _ holds _ _ => ⟨holds.1, holds.2, nofun⟩
  | cons saved rest ih =>
    refine triple_part _ (reportSweep_kept here report lasting) fun more => ?_
    refine (ih more (lasting.and (lasting_sweepFinal bitcoin saved))).weaken
      (fun _ _ holds => holds) ?_
    intro _ _ _ holds value returned
    obtain ⟨world, ⟨past, first⟩, others⟩ := holds value returned
    exact ⟨world, past, forall_mem_cons.mpr ⟨first, others⟩⟩

end

end BitSov.Recover
