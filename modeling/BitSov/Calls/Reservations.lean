import BitSov.Calls.Runs

namespace BitSov.Calls

open CallEntry Option

/-!
# Reservations of own signals

A signal is marked in the entry of its call before it is paid.  The mark is
taken off again when the payment is known not to have been made, and then the
entry is what it was before; it is cleared when the payment has settled.
-/

/-- What is reserved before it is paid. -/
inductive OwnSignal where
  | signal (kind : SignalKind)
  | block (seq : Nat)
  | unpaidHangup
  | durationHangup
  deriving Repr, DecidableEq

/-- Reserve one of our own signals under an operation. -/
def OwnSignal.reserve (own : OwnSignal) (entry : Option CallEntry)
    (operationId requestHash : String) (nowMs : Nat) : Except CallRefusal CallEntry :=
  match own with
  | .signal kind => Calls.reserve entry kind operationId requestHash nowMs
  | .block seq => reserveBlock entry seq operationId requestHash nowMs
  | .unpaidHangup => reserveUnpaidHangup entry operationId requestHash
  | .durationHangup => reserveDurationHangup entry operationId requestHash

section

variable {entry next : CallEntry} {kind : SignalKind} {operationId requestHash : String}
  {nowMs : Nat}

theorem pendingOf_of_is {pending : Pending} (marked : entry.pending = some pending)
    (same : pending.is operationId requestHash) : entry.pendingOf operationId ≠ none := by
  rw [Pending.is, Bool.and_eq_true, beq_iff_eq] at same
  simp [pendingOf, marked, same.1]

theorem pendingOf_of_pending (marked : entry.pending = some ⟨operationId, kind, requestHash⟩) :
    entry.pendingOf operationId = some ⟨operationId, kind, requestHash⟩ := by
  simp [pendingOf, marked]

theorem release_of_pending (marked : entry.pending = some ⟨operationId, kind, requestHash⟩)
    (known : kind ≠ .callInvite) : release entry operationId =
      some { entry with
        pending := none
        unpaidNoticeUsed := entry.unpaidNoticeUsed && !releasesNotice entry kind } := by
  rw [release, pendingOf_of_pending marked]
  exact if_neg fun both => known both.1

/-- A mark that was placed on an entry which is up is taken off again. -/
theorem release_marked (free : entry.pending = none) (known : kind ≠ .callInvite)
    (up : entry.phase ≠ .ended) (unused : entry.side = .callee → entry.unpaidNoticeUsed = false) :
    release { entry with pending := some ⟨operationId, kind, requestHash⟩ } operationId =
      some entry := by
  have stays : (entry.unpaidNoticeUsed &&
      !releasesNotice { entry with pending := some ⟨operationId, kind, requestHash⟩ } kind) =
      entry.unpaidNoticeUsed := by
    cases used : entry.unpaidNoticeUsed with
    | false => rfl
    | true =>
      have caller : entry.side ≠ .callee := fun callee => by cases used.symm.trans (unused callee)
      simp [releasesNotice, up, caller]
  rw [release_of_pending rfl known, stays, ← free]

/-- So is the mark of a notice, which can be reserved again. -/
theorem release_notice (free : entry.pending = none) (unused : entry.unpaidNoticeUsed = false)
    (told : entry.side = .callee ∨
      entry.side = .caller ∧ entry.phase = .ended ∧ entry.endReason = some .durationCap) :
    release { entry with
      unpaidNoticeUsed := true, pending := some ⟨operationId, .callHangup, requestHash⟩ }
      operationId = some entry := by
  have releases : releasesNotice { entry with
      unpaidNoticeUsed := true, pending := some ⟨operationId, .callHangup, requestHash⟩ }
      .callHangup := by
    rcases told with callee | ⟨caller, ended, reason⟩
    · simp [releasesNotice, callee]
    · simp [releasesNotice, caller, ended, reason]
  rw [release_of_pending rfl (by decide), releases, ← free]
  congr 2
  exact unused.symm

/--
A reservation is undone by its release, unless it has repeated an earlier one,
and may itself be repeated at any time.
-/
structure Undone (own : OwnSignal) (entry : Option CallEntry) (operationId requestHash : String)
    (next : CallEntry) : Prop where
  released : entry.bind (·.pendingOf operationId) = none → release next operationId = entry
  repeated : entry.bind (·.pendingOf operationId) ≠ none → entry = some next
  again : ∀ laterMs, own.reserve (some next) operationId requestHash laterMs = .ok next

variable {own : OwnSignal}

theorem undone_of_is {pending : Pending} (marked : entry.pending = some pending)
    (same : pending.is operationId requestHash)
    (again : ∀ laterMs, own.reserve (some entry) operationId requestHash laterMs = .ok entry) :
    Undone own (some entry) operationId requestHash entry where
  released absent := absurd absent (pendingOf_of_is marked same)
  repeated _ := rfl
  again

theorem undone_of_free (free : entry.pending = none)
    (released : release next operationId = some entry)
    (again : ∀ laterMs, own.reserve (some next) operationId requestHash laterMs = .ok next) :
    Undone own (some entry) operationId requestHash next where
  released _ := released
  repeated marked := absurd (by simp [pendingOf, free]) marked
  again

theorem pending_is (operationId requestHash : String) (kind : SignalKind) :
    (⟨operationId, kind, requestHash⟩ : Pending).is operationId requestHash := by
  simp [Pending.is]

theorem undone_block {seq : Nat}
    (ok : reserveBlock (some entry) seq operationId requestHash nowMs = .ok next) :
    Undone (.block seq) (some entry) operationId requestHash next := by
  simp only [reserveBlock] at ok
  split at ok
  · cases ok
  next caller =>
  rw [not_not] at caller
  split at ok
  · next pending marked =>
    split at ok
    · next own =>
      cases ok
      refine undone_of_is marked own.2 fun _ => ?_
      simp [OwnSignal.reserve, reserveBlock, caller, marked, own]
    · cases ok
  next free =>
  split at ok
  · cases ok
  next checked =>
  cases ok
  refine undone_of_free free (release_marked free (by decide) ?_ ?_) fun _ => ?_
  · rw [(checkBlock_ok checked).1]
    decide
  · rw [caller]
    rintro ⟨⟩
  · simp [OwnSignal.reserve, reserveBlock, caller, pending_is]

theorem undone_notice {side : Side} {reason : HangupReason}
    (same : ∀ entry nowMs, own.reserve entry operationId requestHash nowMs =
      reserveEndNotice entry side reason operationId requestHash)
    (told : side = .callee ∨ side = .caller ∧ reason = .durationCap)
    (ok : reserveEndNotice (some entry) side reason operationId requestHash = .ok next) :
    Undone own (some entry) operationId requestHash next := by
  simp only [reserveEndNotice] at ok
  split at ok
  · cases ok
  next ended =>
  simp only [not_or, not_not] at ended
  obtain ⟨rfl, isEnded, isReason⟩ := ended
  split at ok
  · next pending marked =>
    split at ok
    · next own =>
      cases ok
      refine undone_of_is marked own.2 fun _ => ?_
      simp [same, reserveEndNotice, isEnded, isReason, marked, own]
    · cases ok
  next free =>
  split at ok
  · cases ok
  next unused =>
  cases ok
  refine undone_of_free free (release_notice free (Bool.eq_false_iff.mpr unused) ?_) fun _ => ?_
  · rcases told with callee | ⟨caller, rfl⟩
    · exact .inl callee
    · exact .inr ⟨caller, isEnded, isReason⟩
  · simp [same, reserveEndNotice, isEnded, isReason, pending_is]

theorem undone_signal (known : kind ≠ .callInvite)
    (same : ∀ entry nowMs, (OwnSignal.signal kind).reserve (some entry) operationId requestHash
      nowMs = reserveSignal entry kind operationId requestHash)
    (notices : Notices ⟨some entry, reservation⟩)
    (ok : reserveSignal entry kind operationId requestHash = .ok next) :
    Undone (.signal kind) (some entry) operationId requestHash next := by
  have repeats := ok
  simp only [reserveSignal] at ok
  split at ok
  · next mine =>
    cases ok
    obtain ⟨pending, marked, own⟩ := (any_eq_true _ _).mp mine
    rw [Bool.and_eq_true] at own
    exact undone_of_is marked own.1 fun laterMs => (same entry laterMs).trans repeats
  split at ok
  · cases ok
  next unmarked =>
  have free := not_isSome_iff_eq_none.mp unmarked
  split at ok
  · cases ok
  split at ok
  · cases ok
  split at ok
  · cases ok
  next isOpen =>
  split at ok
  · cases ok
    refine undone_of_free free ?_ fun laterMs => (same entry laterMs).trans repeats
    simp [release, pendingOf, free]
  cases ok
  have up : entry.phase ≠ .ended := by
    intro ended
    simp [CallEntry.isOpen, ended] at isOpen
  refine undone_of_free free (release_marked free known up fun callee => ?_) fun laterMs => ?_
  · by_contra used
    rcases (notices entry rfl callee (Bool.eq_true_of_not_eq_false used)).1 with ended | ⟨_, marked⟩
    · exact up ended
    · exact marked free
  · rw [same, reserveSignal, if_pos]
    simp [CallEntry.mine, pending_is]

theorem undone_reserve {entry : Option CallEntry} (notices : Notices ⟨entry, reservation⟩)
    (ok : own.reserve entry operationId requestHash nowMs = .ok next) :
    Undone own entry operationId requestHash next := by
  cases own with
  | block seq =>
    cases entry with
    | none => cases ok
    | some entry => exact undone_block ok
  | unpaidHangup =>
    cases entry with
    | none => cases ok
    | some entry => exact undone_notice (fun _ _ => rfl) (.inl rfl) ok
  | durationHangup =>
    cases entry with
    | none => cases ok
    | some entry => exact undone_notice (fun _ _ => rfl) (.inr ⟨rfl, rfl⟩) ok
  | signal kind =>
    cases entry with
    | none =>
      cases kind with
      | callInvite =>
        cases ok
        refine ⟨fun _ => ?_, fun marked => absurd rfl marked, fun _ => ?_⟩
        · rw [release, pendingOf_of_pending rfl]
          exact if_pos ⟨rfl, rfl⟩
        · simp [OwnSignal.reserve, Calls.reserve, CallEntry.opening, CallEntry.mine, pending_is]
      | _ => cases ok
    | some entry =>
      cases kind with
      | callInvite =>
        have repeats := ok
        simp only [OwnSignal.reserve, Calls.reserve] at ok
        split at ok
        · next mine =>
          cases ok
          obtain ⟨pending, marked, own⟩ := (any_eq_true _ _).mp mine.2
          rw [Bool.and_eq_true] at own
          exact undone_of_is marked own.1 fun _ => repeats
        · cases ok
      | callAnswer | iceCandidate | callHangup =>
        exact undone_signal (by decide) (fun _ _ => rfl) notices ok
      | callBlock | other => cases ok

theorem pending_commitSignal (free : entry.pending = none)
    (ok : commitSignal entry kind nowMs = .ok next) : next.pending = none := by
  unfold commitSignal at ok
  split at ok
  · cases ok
    exact free
  · cases ok
    exact free
  · unfold commitBlock at ok
    split at ok
    · cases ok
      exact free
    split at ok
    · next applied =>
      cases ok
      obtain ⟨-, -, _, _, -, rfl, -⟩ := applyBlock_ok applied
      exact free
    split at ok <;> cases ok
    exact free
  · cases ok
    exact free
  · split at ok <;> cases ok <;> exact free
  · cases ok
    exact free

theorem pendingOf_commit (ok : commit entry operationId nowMs = .ok next) :
    next.pendingOf operationId = none := by
  unfold commit at ok
  split at ok
  · next unmarked =>
    cases ok
    exact unmarked
  · rw [pendingOf, pending_commitSignal rfl ok]
    rfl

end

/--
In every run, what a reservation has done is undone by the release of its
operation, unless the operation was marked before, and then the reservation
has changed nothing.  Reserving once more changes nothing, and neither does a
second commit of an operation.
-/
theorem reservation_undone (steps : List (Nat × CallStep)) (own : OwnSignal)
    (operationId requestHash : String) (nowMs : Nat) :
    (∀ next, own.reserve (Tracked.start.performAll steps).call.entry operationId requestHash nowMs =
        .ok next →
      Undone own (Tracked.start.performAll steps).call.entry operationId requestHash next) ∧
    ∀ entry next, commit entry operationId nowMs = .ok next →
      ∀ laterMs, commit next operationId laterMs = .ok next := by
  refine ⟨fun next ok => undone_reserve (Tracked.told_performAll steps).notices ok, ?_⟩
  intro entry next ok laterMs
  have unmarked := pendingOf_commit ok
  rw [commit, unmarked]

/-- A repeated reservation changes nothing, but its release takes the first mark off. -/
theorem repeated_reservation_released :
    let entry := (Tracked.start.performAll [(0, .rule (.reserve .callInvite "a" "h"))]).call.entry
    ∃ next, (OwnSignal.signal .callInvite).reserve entry "a" "h" 1 = .ok next ∧
      release next "a" ≠ entry := by
  refine ⟨_, rfl, ?_⟩
  decide

end BitSov.Calls
