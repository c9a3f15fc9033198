import BitSov.Calls.Runs

/-!
# Settlements

When a payment arrives late: what the commit of a block does to a call that
has ended as unpaid, and what a grant of the peer may add to the paid time.
-/

namespace BitSov.Calls

open Arithmetic

variable {entry : CallEntry} {pending : Pending} {endMs nowMs : Nat}

/-! ## Late blocks -/

theorem commitBlock_beyond (ends : blockEndMs entry = some endMs) (caller : entry.side = .caller)
    (beyond : nowMs > plus endMs callBlockResumeMs) :
    commitBlock entry nowMs = .ok { entry with
      phase := .ended
      endReason := some .unpaid
      deadlineMs := plus endMs tombstoneMs } := by
  have past : beyondResume entry nowMs := by
    rw [beyondResume, caller, ends, Option.any_some, decide_eq_true beyond]
    rfl
  rw [commitBlock, if_pos past, ends, Option.getD_some]

theorem commitBlock_resumes (ends : blockEndMs entry = some endMs) (late : endMs < nowMs)
    (inTime : nowMs ≤ plus endMs callBlockResumeMs)
    (more : entry.nextBlockSeq < maxCallMs / callBlockMs) :
    commitBlock entry nowMs = .ok (grantBlock entry entry.nextBlockSeq nowMs) := by
  have inside : ¬ beyondResume entry nowMs := by
    rw [beyondResume, ends, Option.any_some, decide_eq_false (Nat.not_lt.mpr inTime),
      Bool.and_false]
    exact Bool.false_ne_true
  have applied : applyBlock entry entry.nextBlockSeq nowMs =
      .ok (grantBlock entry entry.nextBlockSeq nowMs) := by
    rw [applyBlock, if_neg (by simpa using more), ends]
    dsimp only
    rw [if_pos late, if_neg (Nat.not_lt.mpr inTime)]
  rw [commitBlock, if_neg inside, applied]

theorem commit_callBlock (marked : entry.pending = some pending)
    (block : pending.kind = .callBlock) : commit entry pending.operationId nowMs =
      commitBlock { entry with pending := none } nowMs := by
  have ownMark : entry.pendingOf pending.operationId = some pending := by
    simp [CallEntry.pendingOf, marked]
  simp only [commit, ownMark, block, commitSignal]

/-- What a block of the caller settles for a call that has ended as unpaid. -/
theorem commitBlock_of_ended
    (caller : entry.side = .caller)
    (ended : entry.phase = .ended)
    (ends : blockEndMs entry = some endMs) :
    commitBlock entry nowMs = .ok (
      if nowMs > plus endMs callBlockResumeMs then
        { entry with
          phase := .ended
          endReason := some .unpaid
          deadlineMs := plus endMs tombstoneMs }
      else if endMs < nowMs ∧ entry.nextBlockSeq < maxCallMs / callBlockMs then
        grantBlock entry entry.nextBlockSeq nowMs
      else entry) := by
  by_cases beyond : nowMs > plus endMs callBlockResumeMs
  · rw [if_pos beyond, commitBlock_beyond ends caller beyond]
  rw [if_neg beyond]
  by_cases resumes : endMs < nowMs ∧ entry.nextBlockSeq < maxCallMs / callBlockMs
  · rw [if_pos resumes, commitBlock_resumes ends resumes.1 (Nat.not_lt.mp beyond) resumes.2]
  -- the block is refused, and the commit leaves the call as it ended
  have inside : ¬ beyondResume entry nowMs := by
    simp [beyondResume, ends, beyond]
  rw [if_neg resumes, commitBlock, if_neg inside]
  cases applied : applyBlock entry entry.nextBlockSeq nowMs with
  | error => exact if_pos ⟨caller, ended⟩
  | ok next =>
    obtain ⟨-, more, _, _, ending, -, ⟨late, -⟩ | ⟨-, checked, -⟩⟩ := applyBlock_ok applied
    · cases ends.symm.trans ending
      exact absurd ⟨late, more⟩ resumes
    · cases ended.symm.trans (checkBlock_ok checked).1

/--
A block of the caller that is settled after an unpaid end, and not too late,
resumes the call for a full interval exactly if the end has passed, blocks are
left and the interval has an end.  Later on the call stays ended.
-/
theorem late_block_resumes
    (caller : entry.side = .caller)
    (ended : entry.phase = .ended)
    (unpaid : entry.endReason = some .unpaid)
    (deadline : entry.deadlineMs = endMs + tombstoneMs)
    (marked : entry.pending = some pending)
    (block : pending.kind = .callBlock) :
    (nowMs ≤ endMs + callBlockResumeMs →
      ((∃ next, commit entry pending.operationId nowMs = .ok next ∧ next.phase = .live ∧
          next.paidUntilMs = some (nowMs + callBlockMs)) ↔
        endMs < nowMs ∧ entry.nextBlockSeq < maxCallMs / callBlockMs ∧
          nowMs + callBlockMs ≤ u64Max)) ∧
      (endMs + callBlockResumeMs < nowMs →
        ∃ next, commit entry pending.operationId nowMs = .ok next ∧ next.phase = .ended) := by
  have ends : blockEndMs { entry with pending := none } = some endMs := by
    simp [blockEndMs, ended, unpaid, CallEntry.unpaidEndMs, deadline]
  rw [commit_callBlock marked block,
    @commitBlock_of_ended { entry with pending := none } _ nowMs caller ended ends]
  constructor
  · intro inTime
    constructor
    · rintro ⟨_, ⟨⟩, live, paid⟩
      split at live
      · cases live
      next soon =>
        rw [if_neg soon] at paid
        split at live
        next resumes =>
          rw [if_pos resumes] at paid
          have fits : plus nowMs callBlockMs = nowMs + callBlockMs := Option.some.inj paid
          exact ⟨resumes.1, resumes.2, fits ▸ Nat.min_le_right _ _⟩
        · cases ended.symm.trans live
    · rintro ⟨late, more, fits⟩
      have soon : ¬ nowMs > plus endMs callBlockResumeMs :=
        Nat.not_lt.mpr (le_min inTime (by omega))
      rw [if_neg soon, if_pos ⟨late, more⟩]
      exact ⟨_, rfl, rfl, congrArg some (Nat.min_eq_left fits)⟩
  · intro tooLate
    rw [if_pos ((plus_le _ _).trans_lt tooLate)]
    exact ⟨_, rfl, rfl⟩

/-- The first block is being paid when the peer ends the call as unpaid. -/
def endedUnpaid : List (Nat × CallStep) :=
  payingCall ++ [(2500, .rule (.receive .callHangup (some .unpaid)))]

theorem late_block_resumes_endedUnpaid : ∃ entry next,
    (Tracked.start.performAll endedUnpaid).call.entry = some entry ∧
      commit entry "zero" 2501 = .ok next ∧ next.phase = .live ∧ next.paidUntilMs = some 62501 := by
  obtain ⟨next, committed, resumed⟩ := ((@late_block_resumes
    ((Tracked.start.performAll endedUnpaid).call.entry.get rfl) ⟨"zero", .callBlock, "z"⟩ 2500 2501
    rfl rfl rfl rfl rfl rfl).1 (by decide)).mpr (by decide)
  exact ⟨_, next, rfl, committed, resumed⟩

/-- A payment that settles at the very end is lost. -/
theorem block_settled_at_the_end_is_lost : ∃ entry next,
    (Tracked.start.performAll endedUnpaid).call.entry = some entry ∧ entry.side = .caller ∧
      entry.phase = .ended ∧ entry.endReason = some .unpaid ∧
      entry.deadlineMs = 2500 + tombstoneMs ∧ entry.pending = some ⟨"zero", .callBlock, "z"⟩ ∧
      commit entry "zero" 2500 = .ok next ∧ next.phase = .ended :=
  ⟨_, _, rfl, rfl, rfl, rfl, rfl, rfl, rfl, rfl⟩

/-! ## Grants -/

end BitSov.Calls
