import BitSov.Payments.InvoiceAnswers

namespace BitSov.Payments

open Core Spend Outbox Process Fallible Program View Growth Direct NoVerdict
open OperationTable InvoiceLedger

/-!
# Settled means settled, and failed means failed

The winner of an insert pays and reports its own attempt; everybody else
answers from the record or from what the backend reports for the hash. The
answers are true as long as the backend reports a failure only to an operation
that has an attempt of its own.
-/

variable {Digest : Type}

section

variable [DecidableEq Digest] {node : Node Digest} {guarded : Bool} {task : Nat}
  {since : World Digest (invoiceWallet node guarded)}
  (inj : Function.Injective node.digest) {request : Request} {key : String} {call : MoneyCall}

/-- The details are about the invoice asked for. -/
def Speaks (guarded : Bool) (ledger : InvoiceLedger) (key : String) (request : Request)
    (details : PaymentDetails) : Prop :=
  ∀ hash, request.invoiceHash = some hash → DetailsOk guarded ledger key hash details

omit [DecidableEq Digest] in
theorem Speaks.extends (speaks : Speaks guarded before key request details)
    (extends_ : Extends before after) : Speaks guarded after key request details :=
  fun hash isFor => (speaks hash isFor).extends extends_

include inj

/-- Looking at the backend until the payment is final. -/
theorem secure_pollSettlement (polls)
    {latest : PaymentDetails} (speaks : Speaks guarded since.wallet key request latest)
    (named : ∀ hash, request.invoiceHash = some hash → latest.paymentHash = hash) :
    Secures node guarded task job since (pollSettlement key polls latest).run fun outcome world =>
        match outcome with
        | .ok details => Speaks guarded world.wallet key request details
        | .error _ => False := by
  induction polls generalizing since latest with
  | zero => exact secure_pure fun _ _ grown => speaks.extends grown
  | succ polls ih =>
    refine secure_ask inj trivial fun _ answer after consistent _ above grown effect => ?_
    have same := speaks.extends (above.trans grown)
    -- Only an outgoing report replaces what is known.
    have next : Speaks guarded after.wallet key request (latestOf latest answer) ∧
      ∀ hash, request.invoiceHash = some hash → (latestOf latest answer).paymentHash = hash := by
      rcases answer with - | (error | details)
      · exact ⟨same, named⟩
      · exact ⟨same, named⟩
      simp only [latestOf]
      split
      · next isOutgoing =>
        obtain ⟨_, reports, rfl⟩ := effect
        have reported := detailsOk_of_reports consistent reports isOutgoing
        have sameHash := reports.1
        refine ⟨fun hash isFor => ?_, fun hash isFor => ?_⟩
        · rw [← named hash isFor]
          exact reported
        · rw [sameHash, named hash isFor]
      · exact ⟨same, named⟩
    dsimp only
    split
    · exact secure_pure fun _ _ grown => next.1.extends grown
    · exact ih next.1 next.2

theorem secure_settleBriefly (speaks : Speaks guarded since.wallet key request initial) :
    Secures node guarded task job since (settleBriefly key initial).run fun outcome world =>
        match outcome with
        | .ok details => Speaks guarded world.wallet key request details
        | .error _ => False := by
  unfold settleBriefly
  split
  · exact secure_pure fun _ _ grown => speaks.extends grown
  next unfinished =>
  refine secure_ask inj trivial fun _ polls _ _ _ above grown _ => ?_
  refine secure_pollSettlement inj (polls + 1)
    (speaks.extends (above.trans grown)) fun hash isFor => ?_
  exact (speaks hash isFor).named.resolve_right fun isEmpty => unfinished (.inr isEmpty)

theorem secure_dispatch (coherent : CallOk node call binding) :
    Secures node guarded task job since (dispatch metered binding call).run fun outcome world =>
        match outcome with
        | .ok (.answered reply) => ∃ before after,
          Answers node before task call binding reply after ∧ Extends after world.wallet
        | .ok _ => True
        | .error _ => False := by
  refine secure_ask inj coherent fun _ answer _ _ _ _ _ effect => ?_
  cases answer with
  | error => exact secure_pure fun _ _ _ => trivial
  | ok =>
    cases metered with
    | true =>
      refine secure_ask inj trivial fun _ reply _ _ _ _ _ effect => ?_
      cases reply with
      | none => exact secure_pure fun _ _ _ => trivial
      | some reply =>
        obtain ⟨_, answers, rfl⟩ := effect
        exact secure_pure fun _ _ grown => ⟨_, _, answers, grown⟩
    | false =>
      refine secure_ask inj trivial fun _ reply _ _ _ _ _ effect => ?_
      obtain ⟨_, answers, rfl⟩ := effect
      exact secure_pure fun _ _ grown => ⟨_, _, answers, grown⟩

theorem secure_debit (caller op) :
    Secures node guarded task job since (attempt (debit caller op)).run fun outcome _ =>
        match outcome with
        | .ok (.ok _) => True
        | .ok (.error refusal) => NoVerdict refusal
        | .error _ => False := by
  refine secure_attempt ?_
  unfold debit
  split
  · split
    · refine secure_ask inj trivial fun _ answer _ _ _ _ _ _ => ?_
      cases answer with
      | ok => exact secure_pure fun _ _ _ => trivial
      | error => exact secure_known nofun
    · exact secure_known nofun
  · exact secure_pure fun _ _ _ => trivial

theorem secure_release
    (refused : ∀ ledger, ResponseOk guarded ledger key request (.error refusal)) :
    Secures node guarded task job since (release released >>= fun _ =>
      (known (.error refusal) : PayM Digest Direct.Answered)).run
      fun outcome world => ResponseOk guarded world.wallet key request outcome := by
  rw [release, bind_assoc]
  exact secure_ask inj trivial fun _ _ _ _ _ _ _ _ =>
    secure_known fun world _ _ => refused world.wallet

omit [DecidableEq Digest] inj in
/-- An error of the backend is not the failure of a payment. -/
theorem responseOk_backendError
    (answers : Answers node before task call binding (.error error) after) :
    ResponseOk guarded ledger key request
      (.error (ApiError.withRoutingFee (apiErrorOf error) cap)) := by
  have notFailure : lightningText error ≠ failureText .pay := by
    cases call <;> exact answers.2.1
  refine fun _ _ => ⟨fun _ same => (by cases same), fun _ same isFailed => ?_⟩
  cases same
  unfold ApiError.withRoutingFee apiErrorOf at isFailed
  split at isFailed
  · cases isFailed
  · cases isFailed
  · exact absurd (ApiError.lightning.inj isFailed) notFailure

variable {pending : ChannelOpenOperation Digest}

theorem secure_recordUncertain (digested : pending.requestHash = node.digest pending.request)
    (refused : ∀ ledger, ResponseOk guarded ledger key request (.error refusal)) :
    Secures node guarded task job since (record pending .uncertain none lastError >>= fun _ =>
        (known (.error refusal) : PayM Digest Direct.Answered)).run
      fun outcome world => ResponseOk guarded world.wallet key request outcome := by
  refine secure_bind (secure_record inj ⟨digested, fun _ _ same => (by cases same)⟩)
    nofun fun _ _ _ _ _ =>
      secure_known fun world _ _ => refused world.wallet

/-- What the winner of the insert is answered. -/
theorem secure_runFresh (keyed : pending.operationId = ident.key)
    (digested : pending.requestHash = node.digest pending.request)
    (named : ∀ hash, pending.request.invoiceHash = some hash → op.paymentHash = some hash)
    (coherent : CallOk node call (some ⟨ident.key, pending.requestHash, pending.request⟩))
    (own : ∀ before after result hash, pending.request.invoiceHash = some hash →
      Answers node before task call (some ⟨ident.key, pending.requestHash, pending.request⟩)
        (.ok result) after →
        DetailsOk guarded after ident.key hash (details result) ∧ Dispatched after ident.key hash) :
    Secures node guarded task job since
      (runFresh node ident op pending (debit caller op) call details).run
      fun outcome world => ResponseOk guarded world.wallet ident.key pending.request outcome := by
  refine secure_bind (secure_debit inj caller op) nofun fun debited _ _ _ refusedDebit => ?_
  cases debited with
  | error => exact secure_release inj fun _ => responseOk fun text => refusedDebit text
  | ok =>
    refine secure_bind (secure_dispatch inj coherent) nofun fun outcome handed _ _ answered => ?_
    rcases outcome with _ | - | (error | result)
    · exact secure_ask inj trivial fun _ _ _ _ _ _ _ _ =>
        secure_release inj fun _ => responseOk nofun
    · exact secure_recordUncertain inj digested fun _ => responseOk nofun
    · obtain ⟨before, after, answers, _⟩ := answered
      dsimp only
      split
      · exact secure_ask inj trivial fun _ _ _ _ _ _ _ _ =>
          secure_release inj fun _ => responseOk_backendError answers
      · exact secure_recordUncertain inj digested fun _ => responseOk_backendError answers
    obtain ⟨before, after, answers, grown⟩ := answered
    have speaks : Speaks guarded handed.wallet ident.key pending.request (details result) :=
      fun hash isFor => (own before after result hash isFor answers).1.extends grown
    have sent (hash : String) (isFor : pending.request.invoiceHash = some hash) :
      Dispatched handed.wallet ident.key hash :=
      (own before after result hash isFor answers).2.extends grown
    refine secure_bind (secure_settleBriefly inj speaks) nofun fun _ _ _ above evidence => ?_
    refine secure_ask inj trivial fun _ _ _ _ _ before after _ => ?_
    have grownSince := before.trans after
    refine secure_conclude inj ⟨keyed, digested, named, evidence.extends grownSince⟩
      fun _ hash isFor => ?_
    exact (sent hash isFor).extends (above.trans grownSince)

theorem secure_readyUnlessRecorded (existing) :
    Secures node guarded task job since (readyUnlessRecorded existing).run fun outcome _ =>
        match outcome with
        | .ok _ => True
        | .error refusal => NoVerdict refusal := by
  cases existing with
  | some => exact secure_pure fun _ _ _ => trivial
  | none =>
    refine secure_ask inj trivial fun _ ready _ _ _ _ _ _ => ?_
    cases ready with
    | true => exact secure_pure fun _ _ _ => trivial
    | false => exact secure_known nofun

/-- What a direct payment needs to be told about its own invoice. -/
structure Payable (node : Node Digest) (guarded : Bool) (task : Nat) (request : Request)
    (op : Dispatch) (call : MoneyCall) (details : call.Result → PaymentDetails) : Prop where
  named : ∀ hash, request.invoiceHash = some hash → op.paymentHash = some hash
  coherent : ∀ bound : Binding Digest, bound.request = request → CallOk node call (some bound)
  own : ∀ (bound : Binding Digest) before after result hash,
    request.invoiceHash = some hash →
      Answers node before task call (some bound) (.ok result) after →
        DetailsOk guarded after bound.key hash (details result) ∧ Dispatched after bound.key hash

/-- What a direct payment is answered. -/
theorem secure_run (unprepared : ∀ refusal, prepare = .error refusal → NoVerdict refusal)
    (payable : ∀ op, prepare = .ok op →
      Payable node guarded task (op.fingerprint caller.scope) op (send op) (details op)) :
    Secures node guarded task job since
      (run node route caller requestId prepare (debit caller) send details).run
      fun outcome world => ∀ hash, (∀ op,
        prepare = .ok op → (op.fingerprint caller.scope).invoiceHash = some hash) →
        AnswerOk guarded world.wallet (operationKey route caller requestId) hash outcome := by
  refine secure_bind (secure_getOperation inj _) (fun _ _ _ _ noVerdict _ _ => answerOk noVerdict)
    fun existing _ _ _ read => ?_
  refine secure_bind (secure_readyUnlessRecorded inj existing)
    (fun _ _ _ _ noVerdict _ _ => answerOk noVerdict)
    fun _ _ _ above _ => ?_
  refine secure_known_bind (fun refusal _ failed _ _ _ _ => (unprepared refusal failed).answerOk)
    fun op prepared => ?_
  have answers (outcome : Except RouteError Direct.Answered)
    (world : World Digest (invoiceWallet node guarded))
    (ok : ResponseOk guarded world.wallet (operationKey route caller requestId)
      (op.fingerprint caller.scope) outcome) :
    ∀ hash, (∀ op, prepare = .ok op → (op.fingerprint caller.scope).invoiceHash = some hash) →
      AnswerOk guarded world.wallet (operationKey route caller requestId) hash outcome :=
    fun hash isFor => ok hash (isFor op prepared)
  have isPayable := payable op prepared
  cases existing with
  | some =>
    exact (secure_replay inj read.keyed (read.ok.extends above)
      isPayable.named).weaken fun outcome world _ _ ok => answers outcome world ok
  | none =>
    refine secure_ask inj trivial fun _ _ _ _ _ _ _ _ => ?_
    refine secure_ask inj ⟨rfl, rfl⟩ fun _ inserted after _ _ _ _ _ => ?_
    rcases inserted with _ | (- | -)
    · exact secure_known fun _ _ _ _ _ => noVerdict_storage.answerOk
    · refine secure_bind (secure_getOperation inj _)
        (fun _ _ _ _ noVerdict _ _ => answerOk noVerdict)
        fun found _ _ _ readAgain => ?_
      cases found with
      | none => exact secure_known fun _ _ _ _ _ => noVerdict_storage.answerOk
      | some =>
        exact (secure_replay inj readAgain.keyed readAgain.ok
          isPayable.named).weaken fun outcome world _ _ ok => answers outcome world ok
    · refine (secure_runFresh inj rfl rfl isPayable.named
        (isPayable.coherent _ rfl) ?_).weaken fun outcome world _ _ ok => answers outcome world ok
      exact fun before after result hash isFor answered =>
        isPayable.own _ before after result hash isFor answered

end

end BitSov.Payments
