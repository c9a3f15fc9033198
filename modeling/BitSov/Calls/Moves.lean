import BitSov.Calls.Rules

namespace BitSov.Calls

open CallEntry

/-!
# What a call rule can do

Every rule of a call is a chain of a few elementary moves of its entry.  An
entry is followed together with what its latest pending mark was reserved
for, which the entry itself does not say.
-/

/-- What a pending mark was reserved for. -/
inductive Reservation where
  | signal (kind : SignalKind)
  | block (seq : Nat)
  | notice (reason : HangupReason)
  deriving Repr, DecidableEq

/-- The entry of a call and what its latest pending mark was reserved for. -/
structure Call where
  entry : Option CallEntry
  reservation : Option Reservation
  deriving Repr, DecidableEq

inductive CallRule where
  | reserve (kind : SignalKind) (operationId requestHash : String)
  | reserveBlock (seq : Nat) (operationId requestHash : String)
  | reserveUnpaidHangup (operationId requestHash : String)
  | reserveDurationHangup (operationId requestHash : String)
  | commit (operationId : String)
  | release (operationId : String)
  | receive (kind : SignalKind) (reason : Option HangupReason)
  | receiveBlock (seq : Nat)
  | atMs
  deriving Repr, DecidableEq

/-- A refused rule leaves the entry as it is. -/
def kept (entry : Option CallEntry) : Except CallRefusal CallEntry → Option CallEntry
  | .ok next => some next
  | .error _ => entry

namespace CallRule

variable (rule : CallRule) (entry : Option CallEntry) (nowMs : Nat)

def perform : Option CallEntry :=
  match rule with
  | .reserve kind operationId requestHash =>
    kept entry (Calls.reserve entry kind operationId requestHash nowMs)
  | .reserveBlock seq operationId requestHash =>
    kept entry (Calls.reserveBlock entry seq operationId requestHash nowMs)
  | .reserveUnpaidHangup operationId requestHash =>
    kept entry (Calls.reserveUnpaidHangup entry operationId requestHash)
  | .reserveDurationHangup operationId requestHash =>
    kept entry (Calls.reserveDurationHangup entry operationId requestHash)
  | .commit operationId =>
    entry.bind fun current => kept entry (Calls.commit current operationId nowMs)
  | .release operationId => entry.bind fun current => Calls.release current operationId
  | .receive kind reason => kept entry (Calls.receive entry kind reason nowMs)
  | .receiveBlock seq => kept entry (Calls.receiveBlock entry seq nowMs)
  | .atMs => entry.bind fun current => current.atMs nowMs

/-- What a mark that the rule places is reserved for. -/
def reservation : CallRule → Option Reservation
  | .reserve kind _ _ => some (.signal kind)
  | .reserveBlock seq _ _ => some (.block seq)
  | .reserveUnpaidHangup _ _ => some (.notice .unpaid)
  | .reserveDurationHangup _ _ => some (.notice .durationCap)
  | _ => none

/-- A commit applies the next block of the entry. -/
def commitsBlock (entry : CallEntry) (operationId : String) (nowMs : Nat) : Bool :=
  let cleared := { entry with pending := none }
  (entry.pendingOf operationId).any (·.kind = .callBlock) && !beyondResume cleared nowMs &&
    (applyBlock cleared cleared.nextBlockSeq nowMs).isOk

/-- The number of blocks that the rule applies, one or none. -/
def blocks : Nat :=
  match rule with
  | .commit operationId => (entry.any (commitsBlock · operationId nowMs)).toNat
  | .receiveBlock seq => (Calls.receiveBlock entry seq nowMs).isOk.toNat
  | _ => 0

end CallRule

def markOf (entry : Option CallEntry) : Option Pending :=
  entry.bind pending

/-- Perform a rule and remember what a new mark is for. -/
def Call.perform (call : Call) (rule : CallRule) (nowMs : Nat) : Call where
  entry := rule.perform call.entry nowMs
  reservation :=
    if markOf call.entry = none ∧ markOf (rule.perform call.entry nowMs) ≠ none then
      rule.reservation
    else call.reservation

/-- A new entry. -/
inductive Opened (nowMs : Nat) : CallEntry → Prop
  | offered (operationId requestHash : String) :
      Opened nowMs (.opening .caller .reserved (some ⟨operationId, .callInvite, requestHash⟩) nowMs)
  | invited : Opened nowMs (.opening .callee .ringing none nowMs)

/-- A mark that a rule may leave behind: the one there was, or none. -/
def Leaves (entry : CallEntry) (mark : Option Pending) : Prop :=
  mark = none ∨ mark = entry.pending

/-- The elementary moves of an entry, each with the number of blocks it applies. -/
inductive Move (nowMs : Nat) : Nat → Call → Call → Prop
  | forgotten {entry : CallEntry} {reservation : Option Reservation}
    (finished : entry.phase = .reserved ∨ entry.phase = .ended ∧ entry.deadlineMs ≤ nowMs) :
    Move nowMs 0 ⟨some entry, reservation⟩ ⟨none, reservation⟩
  | marked {entry : CallEntry} {reservation : Option Reservation} (pending : Pending)
    (free : entry.pending = none) (isOpen : entry.isOpen) (signal : pending.kind ≠ .callBlock) :
    Move nowMs 0 ⟨some entry, reservation⟩
      ⟨some { entry with pending := some pending }, some (.signal pending.kind)⟩
  | markedBlock {entry : CallEntry} {reservation : Option Reservation} (pending : Pending)
    (free : entry.pending = none) (caller : entry.side = .caller) :
    Move nowMs 0 ⟨some entry, reservation⟩
      ⟨some { entry with pending := some pending }, some (.block entry.nextBlockSeq)⟩
  | markedNotice {entry : CallEntry} {reservation : Option Reservation} {reason : HangupReason}
    (pending : Pending) (free : entry.pending = none) (ended : entry.phase = .ended)
    (hangup : pending.kind = .callHangup) (callee : entry.side = .callee → reason = .unpaid) :
    Move nowMs 0 ⟨some entry, reservation⟩
      ⟨some { entry with unpaidNoticeUsed := true, pending := some pending }, some (.notice reason)⟩
  | cleared {entry : CallEntry} {reservation : Option Reservation}
    -- the mark of a notice is never cleared alone while the call is up
    (calm : entry.phase = .ended ∨
      (entry.pending.any (·.kind = .callHangup) → entry.side = .callee →
        entry.unpaidNoticeUsed = false)) :
    Move nowMs 0 ⟨some entry, reservation⟩ ⟨some { entry with pending := none }, reservation⟩
  | withdrawn {entry : CallEntry} {reservation : Option Reservation} :
    Move nowMs 0 ⟨some entry, reservation⟩
      ⟨some { entry with pending := none, unpaidNoticeUsed := false }, reservation⟩
  | expired {entry : CallEntry} {reservation : Option Reservation} (up : entry.phase ≠ .ended)
    (late : entry.expired nowMs) :
    Move nowMs 0 ⟨some entry, reservation⟩ ⟨some entry.expire, reservation⟩
  | lapsed {entry : CallEntry} {reservation : Option Reservation} {endMs : Nat}
    (caller : entry.side = .caller) (ending : blockEndMs entry = some endMs) :
    Move nowMs 0 ⟨some entry, reservation⟩
      ⟨some { entry with
        pending := none, phase := .ended, endReason := some .unpaid
        deadlineMs := plus endMs tombstoneMs },
        reservation⟩
  | rung {entry : CallEntry} {reservation : Option Reservation}
    (reserved : entry.phase = .reserved) :
    Move nowMs 0 ⟨some entry, reservation⟩
      ⟨some { entry with
        pending := none, phase := .ringing, deadlineMs := plus nowMs ringTimeoutMs },
        reservation⟩
  | answered {entry : CallEntry} {reservation : Option Reservation} {mark : Option Pending}
    (ringing : entry.phase = .ringing) (leaves : Leaves entry mark) :
    Move nowMs 0 ⟨some entry, reservation⟩
      ⟨some { entry.answered nowMs with pending := mark }, reservation⟩
  | applied {entry next : CallEntry} {reservation : Option Reservation} {mark : Option Pending}
    (ok : applyBlock { entry with pending := mark } entry.nextBlockSeq nowMs = .ok next)
    (leaves : Leaves entry mark) (single : entry.side = .caller → mark = none) :
    Move nowMs 1 ⟨some entry, reservation⟩ ⟨some next, reservation⟩
  | hungUp {entry : CallEntry} {reservation : Option Reservation} (up : entry.phase ≠ .ended) :
    Move nowMs 0 ⟨some entry, reservation⟩
      ⟨some { entry with pending := none, phase := .ended, deadlineMs := plus nowMs tombstoneMs },
        reservation⟩
  | received {entry : CallEntry} {reservation : Option Reservation} (reason : Option HangupReason)
    (up : entry.phase ≠ .ended) (caller : reason = some .unpaid → entry.side = .caller) :
    Move nowMs 0 ⟨some entry, reservation⟩
      ⟨some { entry with
        phase := .ended
        pending := if reason = some .unpaid then entry.pending else none
        deadlineMs := plus nowMs tombstoneMs
        endReason := reason
        unpaidNoticeUsed := reason = some .unpaid },
        reservation⟩
  | terminated {entry : CallEntry} {reservation : Option Reservation} (reason : Option HangupReason)
    (explicit : reason ≠ some .unpaid) (ended : entry.phase = .ended) :
    Move nowMs 0 ⟨some entry, reservation⟩
      ⟨some { entry with pending := none, endReason := reason }, reservation⟩
  | noticed {entry : CallEntry} {reservation : Option Reservation} (caller : entry.side = .caller)
    (ended : entry.phase = .ended) :
    Move nowMs 0 ⟨some entry, reservation⟩
      ⟨some { entry with unpaidNoticeUsed := true }, reservation⟩

/-- A chain of moves at one instant, with the number of blocks they apply. -/
inductive Moves (nowMs : Nat) : Nat → Call → Call → Prop
  | refl (call : Call) : Moves nowMs 0 call call
  | step {first rest : Nat} {before middle after : Call} (move : Move nowMs first before middle)
      (moves : Moves nowMs rest middle after) : Moves nowMs (first + rest) before after

section

variable {entry : CallEntry}

theorem Move.moves (move : Move nowMs blocks before after) :
    Moves nowMs blocks before after := .step move (.refl after)

theorem reserveSignal_cases (ok : reserveSignal entry kind operationId requestHash = .ok next) :
    next = entry ∨ entry.pending = none ∧ entry.isOpen ∧
      next = { entry with pending := some ⟨operationId, kind, requestHash⟩ } := by
  unfold reserveSignal at ok
  grind [Option.not_isSome_iff_eq_none]

theorem checkBlock_ok (ok : checkBlock entry seq nowMs = .ok ()) :
    entry.phase = .live ∧ entry.expired nowMs = false ∧ seq = entry.nextBlockSeq ∧
      seq < maxCallMs / callBlockMs ∧
      ∃ dueMs, entry.nextBlockDueMs = some dueMs ∧ dueMs ≤ nowMs := by
  unfold checkBlock at ok
  cases scheduled : entry.nextBlockDueMs <;> grind

theorem reserveBlock_cases
    (ok : reserveBlock (some entry) seq operationId requestHash nowMs = .ok next) :
    next = entry ∨ entry.pending = none ∧ entry.side = .caller ∧
      checkBlock entry seq nowMs = .ok () ∧
      next = { entry with pending := some ⟨operationId, .callBlock, requestHash⟩ } := by
  unfold reserveBlock at ok
  grind

theorem reserveEndNotice_cases {side : Side}
    (ok : reserveEndNotice (some entry) side reason operationId requestHash = .ok next) :
    next = entry ∨ entry.pending = none ∧ entry.side = side ∧ entry.phase = .ended ∧
      entry.endReason = some reason ∧
      next = { entry with
        unpaidNoticeUsed := true, pending := some ⟨operationId, .callHangup, requestHash⟩ } := by
  unfold reserveEndNotice at ok
  grind

/-- A settled signal clears its mark and takes effect. -/
theorem commitSignal_moves {pending : Pending} (marked : entry.pending = some pending)
    (ok : commitSignal { entry with pending := none } pending.kind nowMs = .ok next) :
    Moves nowMs (pending.kind = .callBlock && !beyondResume { entry with pending := none } nowMs &&
      (applyBlock { entry with pending := none } entry.nextBlockSeq nowMs).isOk : Bool).toNat
      ⟨some entry, reservation⟩ ⟨some next, reservation⟩ := by
  have cleared (other : pending.kind ≠ .callHangup) : Moves nowMs 0 ⟨some entry, reservation⟩
    ⟨some { entry with pending := none }, reservation⟩ :=
    (Move.cleared (.inr (by simp [marked, other]))).moves
  unfold commitSignal at ok
  split at ok
  next kind reserved =>
    cases ok
    rw [kind]
    exact (Move.rung (show entry.phase = .reserved from reserved)).moves
  next kind ringing =>
    cases ok
    rw [kind]
    exact (Move.answered (show entry.phase = .ringing from ringing) (.inl rfl)).moves
  next kind =>
    rw [kind, decide_eq_true rfl, Bool.true_and]
    unfold commitBlock at ok
    split at ok
    next beyond =>
      cases ok
      rw [beyond]
      simp only [beyondResume, Bool.and_eq_true, decide_eq_true_eq, Option.any_eq_true] at beyond
      obtain ⟨caller, _, ending, -⟩ := beyond
      rw [ending]
      exact (Move.lapsed (show entry.side = .caller from caller) ending).moves
    next within =>
    rw [Bool.not_eq_true] at within
    rw [within]
    split at ok
    next applied =>
      cases ok
      rw [applied]
      exact (Move.applied applied (.inl rfl) fun _ => rfl).moves
    next _ refused =>
    rw [refused]
    split at ok
    · cases ok
      exact cleared (by rw [kind]; nofun)
    · cases ok
  next kind ended =>
    cases ok
    rw [kind]
    exact (Move.cleared (.inl (show entry.phase = .ended from ended))).moves
  next kind up =>
    rw [kind]
    split at ok
    · cases ok
      exact Move.withdrawn.moves
    · cases ok
      exact (Move.hungUp (show entry.phase ≠ .ended from up)).moves
  next notBlock notHangup _ _ _ =>
    cases ok
    rw [decide_eq_false notBlock]
    exact cleared notHangup

theorem commit_moves (ok : commit entry operationId nowMs = .ok next) :
    Moves nowMs (CallRule.commitsBlock entry operationId nowMs).toNat
      ⟨some entry, reservation⟩ ⟨some next, reservation⟩ := by
  unfold commit at ok
  unfold CallRule.commitsBlock
  split at ok
  next unmarked =>
    cases ok
    rw [unmarked]
    exact .refl _
  next _ marked =>
    rw [marked]
    exact commitSignal_moves (Option.filter_eq_some_iff.mp marked).1 ok

theorem release_moves (released : release entry operationId = after) :
    Moves nowMs 0 ⟨some entry, reservation⟩ ⟨after, reservation⟩ := by
  subst released
  unfold release
  split
  · exact .refl _
  next pending marked =>
  split
  next invite => exact (Move.forgotten (.inl invite.2)).moves
  next _ =>
  cases noticed : releasesNotice entry pending.kind with
  | false =>
    rw [Bool.not_false, Bool.and_true]
    refine (Move.cleared (.inr fun hangup callee => ?_)).moves
    rw [(Option.filter_eq_some_iff.mp marked).1] at hangup
    simpa [releasesNotice, callee, of_decide_eq_true hangup] using noticed
  | true =>
    rw [Bool.not_true, Bool.and_false]
    exact Move.withdrawn.moves

theorem receiveHangup_moves (ok : receiveHangup entry reason nowMs = .ok next) :
    Moves nowMs 0 ⟨some entry, reservation⟩ ⟨some next, reservation⟩ := by
  unfold receiveHangup at ok
  split at ok
  · cases ok
  next fromCallee =>
  have caller (unpaid : reason = some .unpaid) : entry.side = .caller := by
    by_contra callee
    exact fromCallee ⟨unpaid, callee⟩
  split at ok
  next ended =>
    split at ok
    next explicit =>
      cases ok
      have chosen : reason ≠ some .unpaid := by rcases explicit.2.2 with rfl | rfl <;> decide
      exact (Move.terminated reason chosen ended).moves
    next _ =>
    split at ok
    · cases ok
    next unpaid =>
    cases ok
    simp only [not_or, not_not] at unpaid
    exact (Move.noticed (caller unpaid.2.1) ended).moves
  next up =>
  split at ok
  · cases ok
  split at ok
  · cases ok
  cases ok
  exact (Move.received reason up caller).moves

theorem endedAt_moves (ended : entry.phase = .ended) :
    Moves nowMs 0 ⟨some entry, reservation⟩ ⟨entry.endedAt nowMs, reservation⟩ := by
  unfold endedAt
  split
  next finished => exact (Move.forgotten (.inr ⟨ended, finished.1⟩)).moves
  split
  · exact (Move.cleared (.inl ended)).moves
  · exact .refl _

theorem atMs_moves : Moves nowMs 0 ⟨some entry, reservation⟩ ⟨entry.atMs nowMs, reservation⟩ := by
  unfold atMs
  split
  next ended => exact endedAt_moves ended
  next up =>
  split
  next late => exact .step (.expired up late) (endedAt_moves rfl)
  · exact .refl _

end

section

variable {rule : CallRule} {nowMs : Nat} {entry next : CallEntry} {reservation : Option Reservation}

theorem Call.perform_eq (performed : rule.perform before nowMs = after)
    (unmarked : markOf before = none → markOf after = none) (reservation) :
    Call.perform ⟨before, reservation⟩ rule nowMs = ⟨after, reservation⟩ := by
  unfold perform
  rw [performed, if_neg fun placed => placed.2 (unmarked placed.1)]

theorem CallRule.perform_none (rule : CallRule) (nowMs) : rule.perform none nowMs = none ∨
      ∃ entry, Opened nowMs entry ∧ rule.perform none nowMs = some entry := by
  cases rule with
  | reserve kind operationId requestHash =>
    cases kind with
    | callInvite => exact .inr ⟨_, .offered operationId requestHash, rfl⟩
    | _ => exact .inl rfl
  | receive kind =>
    cases kind with
    | callInvite => exact .inr ⟨_, .invited, rfl⟩
    | _ => exact .inl rfl
  | _ => exact .inl rfl

theorem commitSignal_callHangup (entry nowMs) :
    commitSignal entry .callHangup nowMs = .ok (if entry.phase = .ended then entry
    else if entry.phase = .live ∧ entry.side = .callee ∧ entry.unpaidNoticeUsed then
      { entry with unpaidNoticeUsed := false }
    else { entry with phase := .ended, deadlineMs := plus nowMs tombstoneMs }) := by
  cases phase : entry.phase with
  | ended => simp [commitSignal, phase]
  | _ =>
    simp only [commitSignal, phase]
    split <;> simp_all

theorem applyBlock_ok (ok : applyBlock entry seq nowMs = .ok next) :
    seq = entry.nextBlockSeq ∧ seq < maxCallMs / callBlockMs ∧
      ∃ endMs startMs, blockEndMs entry = some endMs ∧ next = grantBlock entry seq startMs ∧
        (endMs < nowMs ∧ startMs = nowMs ∨ nowMs ≤ endMs ∧ checkBlock entry seq nowMs = .ok () ∧
          startMs = entry.paidUntilMs.getD (entry.deadlineMs - callBlockInitialMs)) := by
  unfold applyBlock at ok
  split at ok
  · cases ok
  next inOrder =>
  obtain ⟨same, more⟩ := not_or.mp inOrder
  split at ok
  · cases ok
  next endMs ends =>
  refine ⟨not_not.mp same, Nat.not_le.mp more, endMs, ?_⟩
  split at ok
  · next late =>
    split at ok <;> cases ok
    exact ⟨nowMs, ends, rfl, .inl ⟨late, rfl⟩⟩
  · next inTime =>
    split at ok <;> cases ok
    next checked =>
    exact ⟨_, ends, rfl, .inr ⟨Nat.not_lt.mp inTime, checked, rfl⟩⟩

variable {reason : Option HangupReason}

theorem endedAt_free (free : entry.pending = none) : markOf (entry.endedAt nowMs) = none := by
  unfold markOf endedAt
  grind

theorem atMs_free (free : entry.pending = none) : markOf (entry.atMs nowMs) = none := by
  unfold atMs
  split
  · exact endedAt_free free
  split
  · exact endedAt_free (show entry.expire.pending = none from free)
  · exact free

variable {result : Except CallRefusal CallEntry}

section

variable (performed : rule.perform (some entry) nowMs = kept (some entry) result)
include performed

theorem Call.moves_of_kept (refused : ∀ refusal, result = .error refusal → blocks = 0)
    (accepted : ∀ next, result = .ok next → (entry.pending = none → next.pending = none) ∧
      Moves nowMs blocks ⟨some entry, reservation⟩ ⟨some next, reservation⟩) :
    Moves nowMs blocks ⟨some entry, reservation⟩
      (Call.perform ⟨some entry, reservation⟩ rule nowMs) := by
  cases result with
  | error refusal =>
    rw [Call.perform_eq performed id, refused refusal rfl]
    exact .refl _
  | ok next =>
    rw [Call.perform_eq performed (accepted next rfl).1]
    exact (accepted next rfl).2

theorem Call.moves_of_marked (accepted : ∀ next, result = .ok next → next = entry ∨
      entry.pending = none ∧ next.pending ≠ none ∧
        Move nowMs 0 ⟨some entry, reservation⟩ ⟨some next, rule.reservation⟩) :
    Moves nowMs 0 ⟨some entry, reservation⟩
      (Call.perform ⟨some entry, reservation⟩ rule nowMs) := by
  cases result with
  | error =>
    rw [Call.perform_eq performed id]
    exact .refl _
  | ok next =>
    rcases accepted next rfl with rfl | ⟨free, marked, move⟩
    · rw [Call.perform_eq performed id]
      exact .refl _
    · rw [Call.perform, performed, if_pos ⟨free, marked⟩]
      exact move.moves

end

theorem reserveEndNotice_moves {side : Side} {reason : HangupReason}
    {operationId requestHash : String} (performed : rule.perform (some entry) nowMs =
      kept (some entry) (reserveEndNotice (some entry) side reason operationId requestHash))
    (told : rule.reservation = some (.notice reason)) (callee : side = .callee → reason = .unpaid) :
    Moves nowMs 0 ⟨some entry, reservation⟩
      (Call.perform ⟨some entry, reservation⟩ rule nowMs) := by
  refine Call.moves_of_marked performed fun _ ok => ?_
  rcases reserveEndNotice_cases ok with same | ⟨free, sided, ended, -, rfl⟩
  · exact .inl same
  · rw [told]
    exact .inr ⟨free, nofun, .markedNotice _ free ended rfl (sided ▸ callee)⟩

theorem receive_moves (ok : receive (some entry) kind reason nowMs = .ok next) :
    (entry.pending = none → next.pending = none) ∧
      Moves nowMs 0 ⟨some entry, reservation⟩ ⟨some next, reservation⟩ := by
  cases kind with
  | callInvite | callBlock | other => cases ok
  | callHangup =>
    refine ⟨fun free => ?_, receiveHangup_moves ok⟩
    simp only [receive, receiveHangup] at ok
    grind
  | iceCandidate =>
    simp only [receive] at ok
    split at ok
    · cases ok
      exact ⟨id, .refl _⟩
    · cases ok
  | callAnswer =>
    simp only [receive] at ok
    split at ok
    any_goals cases ok
    exact ⟨id, (Move.answered ‹_› (.inr rfl)).moves⟩

theorem receiveBlock_moves (ok : receiveBlock (some entry) seq nowMs = .ok next) :
    (entry.pending = none → next.pending = none) ∧
      Moves nowMs 1 ⟨some entry, reservation⟩ ⟨some next, reservation⟩ := by
  unfold receiveBlock at ok
  simp only at ok
  split at ok
  · cases ok
  next callee =>
  obtain ⟨rfl, -, _, _, -, rfl, -⟩ := applyBlock_ok ok
  exact ⟨id, (Move.applied ok (.inr rfl) fun caller => by simp [caller] at callee).moves⟩

/-- Every rule is a chain of moves that applies as many blocks as the rule. -/
theorem Call.perform_moves (entry reservation) (rule : CallRule)
    (nowMs) : Moves nowMs (rule.blocks (some entry) nowMs) ⟨some entry, reservation⟩
      (Call.perform ⟨some entry, reservation⟩ rule nowMs) := by
  cases rule with
  | reserve kind operationId =>
    refine Call.moves_of_marked rfl fun _ ok => ?_
    cases kind with
    | callInvite =>
      simp only [reserve] at ok
      split at ok
      · exact .inl (Except.ok.inj ok).symm
      · cases ok
    | callBlock | other => cases ok
    | _ =>
      rcases reserveSignal_cases ok with same | ⟨free, isOpen, rfl⟩
      · exact .inl same
      · exact .inr ⟨free, nofun, .marked _ free isOpen nofun⟩
  | reserveBlock seq operationId =>
    refine Call.moves_of_marked rfl fun _ ok => ?_
    rcases reserveBlock_cases ok with same | ⟨free, caller, checked, rfl⟩
    · exact .inl same
    · obtain ⟨-, -, rfl, -⟩ := checkBlock_ok checked
      exact .inr ⟨free, nofun, .markedBlock _ free caller⟩
  | reserveUnpaidHangup operationId => exact reserveEndNotice_moves rfl rfl fun _ => rfl
  | reserveDurationHangup operationId => exact reserveEndNotice_moves rfl rfl nofun
  | commit operationId =>
    refine Call.moves_of_kept rfl ?_ fun _ ok => ⟨fun free => ?_, commit_moves ok⟩
    · intro _ refused
      suffices never : CallRule.commitsBlock entry operationId nowMs = false from
        congrArg Bool.toNat never
      unfold commit commitSignal commitBlock at refused
      unfold CallRule.commitsBlock
      grind [Except.toBool]
    simp [commit, pendingOf, free] at ok
    cases ok
    exact free
  | release operationId =>
    have unmarked (free : entry.pending = none) : markOf (release entry operationId) = none := by
      simp [release, pendingOf, markOf, free]
    rw [Call.perform_eq
      (show (CallRule.release operationId).perform (some entry) nowMs = _ from rfl)
      unmarked]
    exact release_moves rfl
  | receive kind =>
    exact Call.moves_of_kept rfl (fun _ _ => rfl) fun _ ok => receive_moves ok
  | receiveBlock seq =>
    cases received : receiveBlock (some entry) seq nowMs with
    | error =>
      simp only [CallRule.blocks, received]
      refine Call.moves_of_kept rfl (fun _ _ => rfl) fun _ ok => ?_
      rw [received] at ok
      cases ok
    | ok _ =>
      simp only [CallRule.blocks, received]
      refine Call.moves_of_kept rfl ?_ fun _ ok => receiveBlock_moves ok
      rintro _ refused
      rw [received] at refused
      cases refused
  | atMs =>
    rw [Call.perform_eq (show CallRule.atMs.perform (some entry) nowMs = _ from rfl) atMs_free]
    exact atMs_moves

end

end BitSov.Calls
