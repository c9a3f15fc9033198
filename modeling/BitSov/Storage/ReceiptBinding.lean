import BitSov.Storage.Receipts

namespace BitSov.Storage

/-!
# A payment hash is spent once

An accepted envelope binds its payment hash for the rest of every sequence of
storage calls.  The binding is the receipt row together with the condition
that a message stored under the same identifier and hash is the accepted one.
Each call is described by what it does to these two rows, and the verdict on
every later envelope with the same hash follows.
-/

open Core Relational Storage Option Table

/-- The receipt an accepted envelope leaves behind. -/
def boundReceipt (envelope : UkmEnvelope) (accepted : Int) : ReceiptRow where
  messageId := envelope.id
  sender := envelope.sender
  accepted
  metadata := some (receiptMetadata envelope)

/-- The payment hash of an envelope is bound to it, accepted or rejected. -/
structure BoundAs (first : UkmEnvelope) (accepted : Int) (db : Database) : Prop where
  receipt : db.paymentReceipts.lookup first.paymentProof.paymentHash =
    some (boundReceipt first accepted)
  backing : ∀ message,
    db.messages.lookup first.id = some message →
      message.paymentHash = first.paymentProof.paymentHash →
        message.sender = first.sender ∧ message.metadata = receiptMetadata first

variable (first : UkmEnvelope)

/-- No stored message backs the receipt of an envelope. -/
def Unbacked (db : Database) : Prop :=
  ∀ message, db.messages.lookup first.id = some message →
    message.paymentHash ≠ first.paymentProof.paymentHash

/-- What an acceptance writes. -/
structure Inserted (envelope : UkmEnvelope) (before after : Database) : Prop where
  unaccepted : ∀ receipt,
    before.paymentReceipts.lookup envelope.paymentProof.paymentHash =
      some receipt →
      receipt.accepted = 0
  receipt : after.paymentReceipts.lookup envelope.paymentProof.paymentHash =
    some (boundReceipt envelope 1)
  otherReceipts :
    ∀ paymentHash, paymentHash ≠ envelope.paymentProof.paymentHash →
      after.paymentReceipts.lookup paymentHash = before.paymentReceipts.lookup paymentHash
  message : after.messages.lookup envelope.id = some (messageRow envelope)
  otherMessages : ∀ id, id ≠ envelope.id → after.messages.lookup id = before.messages.lookup id

section

variable {envelope : UkmEnvelope} {db : Database}

section

variable (selected : ReceiptRow → Bool)
include selected

@[simp] theorem markAccepted_messages :
    (markAccepted db envelope selected).messages = db.messages := rfl

theorem lookup_markAccepted_of_ne (ne : paymentHash ≠ envelope.paymentProof.paymentHash) :
    (markAccepted db envelope selected).paymentReceipts.lookup paymentHash =
      db.paymentReceipts.lookup paymentHash := by
  simp [markAccepted, ne]

theorem lookup_markAccepted_self :
    (markAccepted db envelope selected).paymentReceipts.lookup envelope.paymentProof.paymentHash =
      (db.paymentReceipts.lookup envelope.paymentProof.paymentHash).map fun receipt =>
          if selected receipt then
            { receipt with accepted := 1, metadata := some (receiptMetadata envelope) }
          else
            receipt := by
  simp [markAccepted]

end

theorem insertAccepted_cases (result : insertAccepted envelope original db = (outcome, after)) :
    (outcome ≠ .ok .accepted ∧ after = original) ∨ (outcome = .ok .accepted ∧
        db.messages.lookup envelope.id = none ∧ after = markAccepted
          { db with messages := db.messages.insertOrIgnore envelope.id (messageRow envelope) }
          envelope fun _ => true) := by
  unfold insertAccepted at result
  split at result
  · cases result
    exact .inl ⟨by simp, rfl⟩
  next absent =>
    cases result
    refine .inr ⟨rfl, ?_, rfl⟩
    simpa [contains] using absent

theorem claimNonce_cases (result : claimNonce now envelope healing original db = (outcome, after)) :
    (outcome ≠ .ok .accepted ∧ after = original) ∨ (outcome = .ok .accepted ∧
        ∃ nonces, db.messages.lookup envelope.id = none ∧ after = markAccepted { db with
          nonces
          messages := db.messages.insertOrIgnore envelope.id (messageRow envelope) }
          envelope fun _ => true) := by
  unfold claimNonce at result
  split at result
  · rcases insertAccepted_cases result with same | ⟨stored, rest⟩
    · exact .inl same
    · exact .inr ⟨stored, _, rest⟩
  split at result
  · cases result
    exact .inl ⟨by simp, rfl⟩
  rcases insertAccepted_cases result with same | ⟨stored, rest⟩
  · exact .inl same
  · exact .inr ⟨stored, _, rest⟩

theorem inserted_markAccepted
    (unaccepted : ∀ receipt, db.paymentReceipts.lookup envelope.paymentProof.paymentHash =
        some receipt →
        receipt.accepted = 0)
    (bound : receipts.lookup envelope.paymentProof.paymentHash = some receipt)
    (sameId : receipt.messageId = envelope.id) (sameSender : receipt.sender = envelope.sender)
    (otherReceipts : ∀ paymentHash, paymentHash ≠ envelope.paymentProof.paymentHash →
        receipts.lookup paymentHash = db.paymentReceipts.lookup paymentHash)
    (fresh : db.messages.lookup envelope.id = none) :
    Inserted envelope db (markAccepted
        { db with
          paymentReceipts := receipts
          nonces
          messages := db.messages.insertOrIgnore envelope.id (messageRow envelope) }
          envelope fun _ => true) where
  unaccepted
  receipt := by
    rw [lookup_markAccepted_self]
    simp [bound, boundReceipt, sameId, sameSender]
  otherReceipts paymentHash different := by
    rw [lookup_markAccepted_of_ne _ different]
    exact otherReceipts paymentHash different
  message := by
    simp [lookup_insertOrIgnore_self, fresh]
  otherMessages id different := by
    simp [lookup_insertOrIgnore_of_ne different]

/-- An envelope whose hash has a receipt heals it or meets its verdict. -/
theorem acceptBound_cases
    (found : db.paymentReceipts.lookup envelope.paymentProof.paymentHash = some receipt)
    (result : acceptBound now envelope receipt db = (outcome, after)) :
    (outcome ≠ .ok .accepted ∧ after = db) ∨ (outcome = .ok .alreadyAccepted ∧
      receipt.accepted ≠ -1 ∧ messageMatch db receipt envelope ∧
      after = markAccepted db envelope fun _ => true) ∨
      (outcome = .ok .accepted ∧ Inserted envelope db after) := by
  unfold acceptBound at result
  split at result
  · cases result
    exact .inl ⟨by simp, rfl⟩
  next sameIdentity =>
  split at result
  · cases result
    exact .inl ⟨by simp, rfl⟩
  next notRejected =>
  split at result
  · cases result
    exact .inl ⟨by simp, rfl⟩
  split at result
  · next backed =>
      cases result
      exact .inr (.inl ⟨rfl, notRejected, backed, rfl⟩)
  split at result
  · cases result
    exact .inl ⟨by simp, rfl⟩
  next orphaned =>
  simp only [ne_eq, not_or, not_not] at sameIdentity orphaned
  rcases claimNonce_cases result with unchanged | ⟨stored, _, fresh, rfl⟩
  · exact .inl unchanged
  refine .inr (.inr ⟨stored, ?_⟩)
  refine inserted_markAccepted ?_ found sameIdentity.1 sameIdentity.2 (fun _ _ => rfl) fresh
  intro _ same
  cases found.symm.trans same
  exact orphaned.2

theorem acceptPaidEnvelope_cases (result : acceptPaidEnvelope now envelope db = (outcome, after)) :
    (outcome ≠ .ok .accepted ∧ after = db) ∨ (outcome = .ok .alreadyAccepted ∧
      ∃ receipt, db.paymentReceipts.lookup envelope.paymentProof.paymentHash = some receipt ∧
        receipt.accepted ≠ -1 ∧ messageMatch db receipt envelope ∧
        after = markAccepted db envelope fun _ => true) ∨
      (outcome = .ok .accepted ∧ Inserted envelope db after) := by
  unfold acceptPaidEnvelope at result
  split at result
  · cases result
    exact .inl ⟨by simp, rfl⟩
  split at result
  · cases result
    exact .inl ⟨by simp, rfl⟩
  split at result
  · next receipt found =>
      rcases acceptBound_cases found result with
        same | ⟨again, rest⟩ | stored
      · exact .inl same
      · exact .inr (.inl ⟨again, receipt, found, rest⟩)
      · exact .inr (.inr stored)
  next absent =>
    rcases claimNonce_cases result with
      same | ⟨stored, _, fresh, rfl⟩
    · exact .inl same
    refine .inr (.inr ⟨stored, ?_⟩)
    refine inserted_markAccepted (by simp [absent]) (lookup_insertOrIgnore_self _ _ _) ?_ ?_
      (fun _ ne => lookup_insertOrIgnore_of_ne ne)
      fresh
    · simp [absent]
    · simp [absent]

end

inductive StorageCall where
  | acceptPaidEnvelope (now : Int) (envelope : UkmEnvelope)
  | isPaidEnvelopeAccepted (envelope : UkmEnvelope)
  | rejectAcceptedEnvelope (envelope : UkmEnvelope)
  | callAdmissionHold (envelope : UkmEnvelope) (nowMs : UInt64)
  | callAdmissionRelease (id : MessageId)
  | callAdmissionWithdraw (heldBeforeMs : UInt64)
  | deleteMessage (id : MessageId)
  | cleanupExpiredNonces (cutoff : Option Int)
  deriving Repr, DecidableEq

def StorageCall.perform : StorageCall → Database → Database
  | .acceptPaidEnvelope now envelope, db => (Storage.acceptPaidEnvelope now envelope db).2
  | .isPaidEnvelopeAccepted envelope, db => (Storage.isPaidEnvelopeAccepted envelope db).2
  | .rejectAcceptedEnvelope envelope, db => (Storage.rejectAcceptedEnvelope envelope db).2
  | .callAdmissionHold envelope nowMs, db => (Storage.callAdmissionHold envelope nowMs db).2
  | .callAdmissionRelease id, db => (Storage.callAdmissionRelease id db).2
  | .callAdmissionWithdraw heldBeforeMs, db => (Storage.callAdmissionWithdraw heldBeforeMs db).2
  | .deleteMessage id, db => (Storage.deleteMessage id db).2
  | .cleanupExpiredNonces cutoff, db => (Storage.cleanupExpiredNonces cutoff db).2

/-- The tables after a sequence of calls. -/
def performAll : List StorageCall → Database → Database
  | [], db => db
  | call :: rest, db => performAll rest (call.perform db)

/-- Whether a call rejects the receipt of an accepted envelope. -/
def rejects (db : Database) : StorageCall → Bool
  | .rejectAcceptedEnvelope envelope =>
    envelope.paymentProof.paymentHash = first.paymentProof.paymentHash && envelope.id = first.id
  | .callAdmissionWithdraw heldBeforeMs =>
    heldBefore db (i64Saturating heldBeforeMs) first.id first.sender
  | _ => false

def rejectedDuring (first : UkmEnvelope) : List StorageCall → Database → Bool
  | [], _ => false
  | call :: rest, db => rejects first db call || rejectedDuring first rest (call.perform db)

/-- A rejection of the receipt of an envelope names its sender. -/
def NamesSender : StorageCall → Prop
  | .rejectAcceptedEnvelope envelope =>
    envelope.paymentProof.paymentHash = first.paymentProof.paymentHash →
      envelope.id = first.id → envelope.sender = first.sender
  | _ => True

section

variable {envelope first : UkmEnvelope} {accepted : Int} {db after : Database} {call : StorageCall}

section

variable (bound : BoundAs first accepted db)
include bound

section

variable (sameHash : envelope.paymentProof.paymentHash = first.paymentProof.paymentHash)
include sameHash

theorem BoundAs.metadata_of_messageMatch
    (backed : messageMatch db (boundReceipt first accepted) envelope) :
    receiptMetadata envelope = receiptMetadata first ∧ ¬ Unbacked first db := by
  simp only [messageMatch, boundReceipt, Bool.and_eq_true, decide_eq_true_eq, any_eq_true] at backed
  obtain ⟨-, message, stored, ⟨-, messageHash⟩, messageMetadata⟩ := backed
  have storedHash := messageHash.trans sameHash
  refine ⟨?_, fun unbacked => unbacked message stored storedHash⟩
  rw [← messageMetadata]
  exact (bound.backing message stored storedHash).2

theorem BoundAs.markAccepted (sameMetadata : receiptMetadata envelope = receiptMetadata first)
    (marks : selected (boundReceipt first accepted)) :
    BoundAs first 1 (markAccepted db envelope selected) where
  receipt := by
    rw [← sameHash, lookup_markAccepted_self, sameHash, bound.receipt]
    rw [map_some, if_pos marks, sameMetadata]
    rfl
  backing := bound.backing

end

theorem BoundAs.inserted (inserted : Inserted envelope db after)
    (otherHash : envelope.paymentProof.paymentHash ≠ first.paymentProof.paymentHash) :
    BoundAs first accepted after ∧ (Unbacked first db → Unbacked first after) := by
  refine ⟨⟨?_, ?_⟩, ?_⟩
  · rw [inserted.otherReceipts _ otherHash.symm, bound.receipt]
  · intro message stored storedHash
    by_cases sameId : first.id = envelope.id
    · rw [sameId, inserted.message, some.injEq] at stored
      rw [← stored] at storedHash
      exact (otherHash storedHash).elim
    · rw [inserted.otherMessages _ sameId] at stored
      exact bound.backing message stored storedHash
  · intro unbacked message stored storedHash
    by_cases sameId : first.id = envelope.id
    · rw [sameId, inserted.message, some.injEq] at stored
      rw [← stored] at storedHash
      exact otherHash storedHash
    · rw [inserted.otherMessages _ sameId] at stored
      exact unbacked message stored storedHash

end

/-- How a call that rejects nothing leaves a binding. -/
def Keeps (first : UkmEnvelope) (accepted : Int) (db after : Database) : Prop :=
  (BoundAs first accepted after ∨
    (BoundAs first 1 after ∧ ¬ Unbacked first db)) ∧
    (Unbacked first db → Unbacked first after)

section

variable (bound : BoundAs first accepted db)
include bound

theorem BoundAs.keeps_of_rows
    (sameReceipt : after.paymentReceipts.lookup first.paymentProof.paymentHash =
      db.paymentReceipts.lookup first.paymentProof.paymentHash)
    (noNewMessage : ∀ message, after.messages.lookup first.id = some message →
      db.messages.lookup first.id = some message) : Keeps first accepted db after := by
  refine ⟨.inl ⟨sameReceipt.trans bound.receipt, ?_⟩, ?_⟩
  · intro message stored
    exact bound.backing message (noNewMessage message stored)
  · intro unbacked message stored
    exact unbacked message (noNewMessage message stored)

theorem BoundAs.keeps_markAccepted (selected)
    (backed : envelope.paymentProof.paymentHash = first.paymentProof.paymentHash →
      selected (boundReceipt first accepted) →
        messageMatch db (boundReceipt first accepted) envelope) :
    Keeps first accepted db (Storage.markAccepted db envelope selected) := by
  by_cases sameHash : envelope.paymentProof.paymentHash = first.paymentProof.paymentHash
  · by_cases marks : selected (boundReceipt first accepted)
    · obtain ⟨sameMetadata, isBacked⟩ :=
        bound.metadata_of_messageMatch sameHash (backed sameHash marks)
      exact ⟨.inr ⟨bound.markAccepted sameHash sameMetadata marks, isBacked⟩, id⟩
    refine bound.keeps_of_rows ?_ fun _ stored => stored
    rw [← sameHash, lookup_markAccepted_self, sameHash, bound.receipt]
    simp [marks]
  · refine bound.keeps_of_rows ?_ fun _ stored => stored
    exact lookup_markAccepted_of_ne selected (Ne.symm sameHash)

theorem BoundAs.keeps_acceptPaidEnvelope (decided : accepted ≠ 0) (now)
    (envelope) : Keeps first accepted db (acceptPaidEnvelope now envelope db).2 := by
  generalize result : acceptPaidEnvelope now envelope db = answered
  obtain ⟨_, _⟩ := answered
  rcases acceptPaidEnvelope_cases result with
    ⟨-, rfl⟩ | ⟨-, receipt, found, -, backed, rfl⟩ | ⟨-, inserted⟩
  · exact bound.keeps_of_rows rfl fun _ stored => stored
  · refine bound.keeps_markAccepted _ fun sameHash _ => ?_
    rw [sameHash, bound.receipt, some.injEq] at found
    rw [found]
    exact backed
  have otherHash : envelope.paymentProof.paymentHash ≠ first.paymentProof.paymentHash := by
    intro sameHash
    refine decided (inserted.unaccepted (boundReceipt first accepted) ?_)
    rw [sameHash]
    exact bound.receipt
  obtain ⟨stillBound, stillUnbacked⟩ := bound.inserted inserted otherHash
  exact ⟨.inl stillBound, stillUnbacked⟩

theorem BoundAs.keeps_isPaidEnvelopeAccepted (envelope) :
    Keeps first accepted db (isPaidEnvelopeAccepted envelope db).2 := by
  have same := bound.keeps_of_rows rfl fun _ stored => stored
  unfold isPaidEnvelopeAccepted
  split
  · exact same
  split
  · exact same
  dsimp only
  split
  · exact same
  split
  · exact same
  have marked := bound.keeps_markAccepted (fun receipt => messageMatch db receipt envelope)
    fun _ marks => marks
  split <;> exact marked

/-- A call that rejects nothing keeps a binding. -/
theorem BoundAs.keeps_perform (decided : accepted ≠ 0)
    (notRejected : rejects first db call = false) : Keeps first accepted db (call.perform db) := by
  cases call with
  | acceptPaidEnvelope now envelope => exact bound.keeps_acceptPaidEnvelope decided now envelope
  | isPaidEnvelopeAccepted envelope => exact bound.keeps_isPaidEnvelopeAccepted envelope
  | rejectAcceptedEnvelope envelope =>
    refine bound.keeps_of_rows ?_ ?_
    · have otherReceipt : ¬ (first.paymentProof.paymentHash = envelope.paymentProof.paymentHash ∧
        first.id = envelope.id) := by
        rintro ⟨sameHash, sameId⟩
        simp [rejects, sameHash, sameId] at notRejected
      simp only [StorageCall.perform, rejectAcceptedEnvelope,
        lookup_updateWhere, bound.receipt, map_some]
      rw [if_neg]
      intro selected
      rw [Bool.and_eq_true] at selected
      exact otherReceipt ⟨of_decide_eq_true selected.1, of_decide_eq_true selected.2⟩
    · exact fun _ => lookup_of_deleteWhere
  | callAdmissionHold envelope =>
    refine bound.keeps_of_rows ?_ ?_ <;> simp only [StorageCall.perform, callAdmissionHold] <;>
      split <;> try split
    all_goals first | rfl | exact fun _ stored => stored
  | callAdmissionRelease id => exact bound.keeps_of_rows rfl fun _ stored => stored
  | callAdmissionWithdraw =>
    refine bound.keeps_of_rows ?_ ?_
    · simp only [rejects] at notRejected
      simp only [StorageCall.perform, callAdmissionWithdraw,
        lookup_updateWhere, bound.receipt, map_some]
      rw [if_neg (by simpa [boundReceipt] using notRejected)]
    · exact fun _ => lookup_of_deleteWhere
  | deleteMessage id => exact bound.keeps_of_rows rfl fun _ => lookup_of_deleteWhere
  | cleanupExpiredNonces => exact bound.keeps_of_rows rfl fun _ stored => stored

theorem BoundAs.rejected_perform (rejected : rejects first db call) :
    BoundAs first (-1) (call.perform db) := by
  cases call with
  | rejectAcceptedEnvelope =>
    simp only [rejects, Bool.and_eq_true, decide_eq_true_eq] at rejected
    constructor
    · simp only [StorageCall.perform, rejectAcceptedEnvelope,
        lookup_updateWhere, bound.receipt, map_some]
      rw [if_pos]
      · rfl
      · simp [boundReceipt, rejected]
    · exact fun message stored => bound.backing message (lookup_of_deleteWhere stored)
  | callAdmissionWithdraw =>
    constructor
    · simp only [StorageCall.perform, callAdmissionWithdraw,
        lookup_updateWhere, bound.receipt, map_some]
      rw [if_pos]
      · rfl
      · exact rejected
    · exact fun message stored => bound.backing message (lookup_of_deleteWhere stored)
  | _ => simp [rejects] at rejected

theorem BoundAs.unbacked_of_rejected (named : NamesSender first call)
    (rejected : rejects first db call) : Unbacked first (call.perform db) := by
  cases call with
  | rejectAcceptedEnvelope =>
    simp only [rejects, Bool.and_eq_true, decide_eq_true_eq] at rejected
    intro message stored storedHash
    simp only [StorageCall.perform, rejectAcceptedEnvelope,
      lookup_deleteWhere, filter_eq_some_iff] at stored
    have sameSender := (bound.backing message stored.1 storedHash).1
    have namedSender := named rejected.1 rejected.2
    simp [rejected.2, sameSender, namedSender] at stored
  | callAdmissionWithdraw =>
    intro message stored storedHash
    simp only [StorageCall.perform, callAdmissionWithdraw,
      lookup_deleteWhere, filter_eq_some_iff] at stored
    have sameSender := (bound.backing message stored.1 storedHash).1
    simp only [rejects] at rejected
    simp [sameSender, rejected] at stored
  | _ => simp [rejects] at rejected

end

theorem BoundAs.performAll_rejected (bound : BoundAs first (-1) db) (unbacked : Unbacked first db)
    (calls) : BoundAs first (-1) (performAll calls db) := by
  induction calls generalizing db with
  | nil => exact bound
  | cons call _ ih =>
    cases isRejection : rejects first db call with
    | true =>
      refine ih (bound.rejected_perform isRejection) ?_
      cases call with
      | rejectAcceptedEnvelope =>
        exact fun message stored => unbacked message (lookup_of_deleteWhere stored)
      | callAdmissionWithdraw => exact bound.unbacked_of_rejected trivial isRejection
      | _ => simp [rejects] at isRejection
    | false =>
      obtain ⟨still | ⟨-, isBacked⟩, stillUnbacked⟩ := bound.keeps_perform (by decide) isRejection
      · exact ih still (stillUnbacked unbacked)
      · exact (isBacked unbacked).elim

theorem BoundAs.performAll (bound : BoundAs first accepted db)
    (decided : accepted = 1 ∨ accepted = -1) (calls) :
    ∃ later, BoundAs first later (performAll calls db) ∧
      (later = 1 ∨ later = -1 ∧ (accepted = -1 ∨ rejectedDuring first calls db)) := by
  induction calls generalizing db accepted with
  | nil =>
    refine ⟨accepted, bound, ?_⟩
    rcases decided with isAccepted | isRejected
    · exact .inl isAccepted
    · exact .inr ⟨isRejected, .inl isRejected⟩
  | cons call _ ih =>
    cases isRejection : rejects first db call with
    | true =>
      obtain ⟨later, laterBound, isAccepted | ⟨isRejected, -⟩⟩ :=
        ih (bound.rejected_perform isRejection) (.inr rfl)
      · exact ⟨later, laterBound, .inl isAccepted⟩
      · refine ⟨later, laterBound, .inr ⟨isRejected, .inr ?_⟩⟩
        simp [rejectedDuring, isRejection]
    | false =>
      have nonzero : accepted ≠ 0 := by omega
      obtain ⟨still | ⟨again, -⟩, -⟩ := bound.keeps_perform nonzero isRejection
      · obtain ⟨later, laterBound, verdict⟩ := ih still decided
        refine ⟨later, laterBound, ?_⟩
        simpa [rejectedDuring, isRejection] using verdict
      obtain ⟨later, laterBound, verdict⟩ := ih again (.inl rfl)
      refine ⟨later, laterBound, ?_⟩
      rcases verdict with isAccepted | ⟨isRejected, absurd | during⟩
      · exact .inl isAccepted
      · cases absurd
      · refine .inr ⟨isRejected, .inr ?_⟩
        simpa [rejectedDuring, isRejection] using during

theorem BoundAs.performAll_of_namesSender (bound : BoundAs first 1 db) (calls)
    (named : ∀ call ∈ calls, NamesSender first call) :
    BoundAs first (if rejectedDuring first calls db then -1 else 1)
      (Storage.performAll calls db) := by
  induction calls generalizing db with
  | nil => exact bound
  | cons call rest ih =>
    cases isRejection : rejects first db call with
    | true =>
      have final := (bound.rejected_perform isRejection).performAll_rejected
        (bound.unbacked_of_rejected (named call List.mem_cons_self) isRejection)
        rest
      simpa [rejectedDuring, isRejection, Storage.performAll] using final
    | false =>
      have stillNamed : ∀ other ∈ rest, NamesSender first other := fun other mem =>
        named other (List.mem_cons_of_mem _ mem)
      have still : BoundAs first 1 (call.perform db) := by
        obtain ⟨still | ⟨still, -⟩, -⟩ := bound.keeps_perform (by decide) isRejection
        · exact still
        · exact still
      simpa [rejectedDuring, isRejection, Storage.performAll] using ih still stillNamed

/-- The verdict on an envelope whose payment hash is already bound. -/
def laterAcceptance (first second : UkmEnvelope) (rejected : Bool) : PaidAcceptance :=
  if second.id ≠ first.id ∨ second.sender ≠ first.sender then .paymentReused
  else if rejected then .withdrawn
  else if receiptMetadata second = receiptMetadata first then .alreadyAccepted
  else .paymentReused

/-- The columns of an envelope that have to fit a signed 64-bit integer. -/
def FitsI64 (envelope : UkmEnvelope) : Prop :=
  envelope.timestamp.toNat ≤ i64Max ∧ envelope.paymentProof.amountMsat.toNat ≤ i64Max

variable {second : UkmEnvelope}

theorem BoundAs.acceptBound_eq (bound : BoundAs first accepted db)
    (decided : accepted = 1 ∨ accepted = -1) (now)
    (sameHash : second.paymentProof.paymentHash = first.paymentProof.paymentHash) :
    (acceptBound now second (boundReceipt first accepted) db).1 =
      .ok (laterAcceptance first second (accepted = -1)) := by
  by_cases sameIdentity : first.id = second.id ∧ first.sender = second.sender
  · obtain ⟨sameId, sameSender⟩ := sameIdentity
    rcases decided with rfl | rfl
    · by_cases sameMetadata : receiptMetadata second = receiptMetadata first
      · simp [acceptBound, laterAcceptance, boundReceipt, durableMatch,
          sameId, sameSender, sameMetadata]
      have unbacked : messageMatch db (boundReceipt first 1) second ≠ true :=
        fun backed => sameMetadata (bound.metadata_of_messageMatch sameHash backed).1
      have notDurable : durableMatch (boundReceipt first 1) second ≠ true := by
        intro durable
        simp only [durableMatch, boundReceipt, Bool.and_eq_true,
          decide_eq_true_eq, some.injEq] at durable
        exact sameMetadata durable.2.symm
      unfold acceptBound
      rw [if_neg (by simp [boundReceipt, sameId, sameSender]),
        if_neg (by simp [boundReceipt]), if_neg notDurable,
        if_neg unbacked, if_pos (by simp [boundReceipt])]
      simp [laterAcceptance, sameId, sameSender, sameMetadata]
    · simp [acceptBound, laterAcceptance, boundReceipt, sameId, sameSender]
  · have otherIdentity : ¬ (second.id = first.id ∧ second.sender = first.sender) :=
      fun same => sameIdentity ⟨same.1.symm, same.2.symm⟩
    rw [not_and_or] at sameIdentity otherIdentity
    have refused : (boundReceipt first accepted).messageId ≠ second.id ∨
      (boundReceipt first accepted).sender ≠ second.sender :=
      sameIdentity
    unfold acceptBound laterAcceptance
    rw [if_pos refused, if_pos otherIdentity]

theorem i64TryFrom_cases (column) (value : UInt64) :
    (value.toNat ≤ i64Max ∧ i64TryFrom column value = .ok value.toNat) ∨ (¬ value.toNat ≤ i64Max ∧
      ∃ reason, i64TryFrom column value = .error (.conversion reason)) := by
  unfold i64TryFrom
  split
  · next fits => exact .inl ⟨fits, rfl⟩
  · next overflows => exact .inr ⟨overflows, _, rfl⟩

theorem BoundAs.acceptPaidEnvelope_eq (bound : BoundAs first accepted db)
    (decided : accepted = 1 ∨ accepted = -1) (now)
    (sameHash : second.paymentProof.paymentHash = first.paymentProof.paymentHash) :
    (FitsI64 second ∧
      (acceptPaidEnvelope now second db).1 = .ok (laterAcceptance first second (accepted = -1))) ∨
      (¬ FitsI64 second ∧
        ∃ reason, (acceptPaidEnvelope now second db).1 = .error (.conversion reason)) := by
  unfold acceptPaidEnvelope FitsI64
  rcases i64TryFrom_cases "timestamp" second.timestamp with
    ⟨fits, converted⟩ | ⟨overflows, reason, refused⟩
  · rcases i64TryFrom_cases "amount_msat" second.paymentProof.amountMsat with
      ⟨amountFits, amountConverted⟩ | ⟨overflows, reason, refused⟩
    · refine .inl ⟨⟨fits, amountFits⟩, ?_⟩
      simp only [converted, amountConverted, sameHash, bound.receipt]
      exact bound.acceptBound_eq decided now sameHash
    · refine .inr ⟨fun both => overflows both.2, reason, ?_⟩
      simp only [converted, refused]
  · refine .inr ⟨fun both => overflows both.1, reason, ?_⟩
    simp only [refused]

theorem boundAs_of_accepted (accepted : (acceptPaidEnvelope now first db).1 = .ok .accepted) :
    BoundAs first 1 (acceptPaidEnvelope now first db).2 := by
  generalize result : acceptPaidEnvelope now first db = answered at accepted ⊢
  obtain ⟨_, _⟩ := answered
  rcases acceptPaidEnvelope_cases result with
    ⟨notAccepted, -⟩ | ⟨again, -⟩ | ⟨-, inserted⟩
  · exact (notAccepted accepted).elim
  · rw [again] at accepted
    cases accepted
  refine ⟨inserted.receipt, ?_⟩
  intro message stored _
  rw [inserted.message, some.injEq] at stored
  rw [← stored]
  exact ⟨rfl, rfl⟩

/--
Once an envelope is accepted, whatever calls follow, its payment hash stays
bound to its identifier and sender, and every envelope that uses the hash
again is refused by the conversion of its columns or gets the verdict of that
binding.  It is never accepted, it is withdrawn only after a rejection, and
when every rejection names the sender exactly then.
-/
theorem acceptPaidEnvelope_binds {now later : Int} {second : UkmEnvelope}
    (accepted : (acceptPaidEnvelope now first db).1 = .ok .accepted) (calls : List StorageCall)
    (sameHash : second.paymentProof.paymentHash = first.paymentProof.paymentHash) :
    let bound := (acceptPaidEnvelope now first db).2
    let reached := performAll calls bound
    (∃ receipt, reached.paymentReceipts.lookup first.paymentProof.paymentHash = some receipt ∧
      receipt.messageId = first.id ∧
      receipt.sender = first.sender) ∧
    ((¬ FitsI64 second ∧
      ∃ reason, (acceptPaidEnvelope later second reached).1 = .error (.conversion reason)) ∨
      (FitsI64 second ∧ ∃ rejected : Bool, (acceptPaidEnvelope later second reached).1 =
        .ok (laterAcceptance first second rejected) ∧
        (rejected → rejectedDuring first calls bound) ∧
        ((∀ call ∈ calls, NamesSender first call) →
          rejected = rejectedDuring first calls bound))) := by
  intro bound _
  have isBound := boundAs_of_accepted accepted
  obtain ⟨mark, stillBound, verdict⟩ := isBound.performAll (.inl rfl) calls
  have decided : mark = 1 ∨ mark = -1 := by
    rcases verdict with isAccepted | ⟨isRejected, -⟩
    · exact .inl isAccepted
    · exact .inr isRejected
  refine ⟨⟨_, stillBound.receipt, rfl, rfl⟩, ?_⟩
  rcases stillBound.acceptPaidEnvelope_eq decided later sameHash with
    ⟨fits, outcome⟩ | refused
  · refine .inr ⟨fits, mark = -1, outcome, ?_, ?_⟩
    · intro isRejected
      rw [decide_eq_true_eq] at isRejected
      rcases verdict with isAccepted | ⟨-, absurd | during⟩
      · omega
      · cases absurd
      · exact during
    intro named
    have exact := (isBound.performAll_of_namesSender calls named).receipt.symm.trans
      stillBound.receipt
    have sameMark := congrArg ReceiptRow.accepted (some.inj exact)
    rw [← show (if rejectedDuring first calls bound then -1 else 1) = mark from sameMark]
    cases rejectedDuring first calls bound <;> rfl
  · exact .inl refused

end

def Database.empty : Database where
  messages := .empty
  nonces := .empty
  paymentReceipts := .empty
  callAdmissionHold := .empty

/-- A broadcast that pays one satoshi. -/
def paidBroadcast : UkmEnvelope where
  id := ⟨.replicate 32 1⟩
  kind := 1
  sender := ⟨.replicate 32 2⟩
  recipient := .broadcast
  timestamp := 1000
  ciphertext := []
  paymentProof := ⟨.replicate 32 3, .replicate 32 4, 1000⟩
  signature := ⟨.replicate 64 5⟩
  nonce := ⟨.replicate 24 6⟩
  references := []

/-- The same broadcast in a wrapper dated beyond the signed columns. -/
def overdatedBroadcast : UkmEnvelope :=
  { paidBroadcast with timestamp := 9223372036854775808 }

theorem acceptPaidEnvelope_overdated_eq_error :
    let accepted := acceptPaidEnvelope 0 paidBroadcast .empty
    accepted.1 = .ok .accepted ∧
      overdatedBroadcast.paymentProof.paymentHash = paidBroadcast.paymentProof.paymentHash ∧
      (acceptPaidEnvelope 0 overdatedBroadcast accepted.2).1 =
        .error (.conversion "timestamp overflows i64: 9223372036854775808") := ⟨rfl, rfl, rfl⟩

theorem acceptPaidEnvelope_binds_paidBroadcast :
    let bound := (acceptPaidEnvelope 0 paidBroadcast .empty).2
    let calls :=
  [.deleteMessage paidBroadcast.id, .cleanupExpiredNonces (some 1),
    .rejectAcceptedEnvelope paidBroadcast]
  let reached := performAll calls bound
  (∃ receipt, reached.paymentReceipts.lookup paidBroadcast.paymentProof.paymentHash = some receipt ∧
    receipt.messageId = paidBroadcast.id ∧
    receipt.sender = paidBroadcast.sender) ∧
  ((¬ FitsI64 paidBroadcast ∧
    ∃ reason, (acceptPaidEnvelope 2 paidBroadcast reached).1 = .error (.conversion reason)) ∨
    (FitsI64 paidBroadcast ∧ ∃ rejected : Bool, (acceptPaidEnvelope 2 paidBroadcast reached).1 =
      .ok (laterAcceptance paidBroadcast paidBroadcast rejected) ∧
      (rejected → rejectedDuring paidBroadcast calls bound) ∧
      ((∀ call ∈ calls, NamesSender paidBroadcast call) →
        rejected = rejectedDuring paidBroadcast calls bound))) :=
    acceptPaidEnvelope_binds rfl _ rfl

end BitSov.Storage
