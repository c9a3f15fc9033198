import BitSov.Payments.InvoiceEvidence

namespace BitSov.Payments

open Core Spend Outbox Process Fallible Direct View Growth
open OperationTable InvoiceLedger

/-!
# What a request to pay an invoice is answered

A request is told that its invoice is settled only after the backend has
reported so. It is told that the payment has failed only on evidence about
the hash of the invoice, and a hash may be shared with other operations.
-/

variable {Digest : Type} {key hash : String} {guarded : Bool}

/-- An attempt of the operation pays the hash. -/
def Dispatched (ledger : InvoiceLedger) (key hash : String) : Prop :=
  ∃ attempt ∈ ledger.attempts, attempt.key = some key ∧ attempt.hash = hash

variable {before : InvoiceLedger}

theorem Dispatched.extends (sent : Dispatched before key hash) (extends_ : Extends before after) :
    Dispatched after key hash := by
  obtain ⟨attempt, mem, sameKey, sameHash⟩ := sent
  obtain ⟨_, memberAfter, _⟩ := extends_.attempt mem
  exact ⟨_, memberAfter, sameKey, sameHash⟩

/-- What payment details prove about an invoice. -/
structure DetailsOk (guarded : Bool) (ledger : InvoiceLedger) (key hash : String)
    (details : PaymentDetails) : Prop where
  named : details.paymentHash = hash ∨ details.paymentHash = ""
  settled : details.status = .settled → hash ∈ ledger.reported
  failed : failedOrExpired details.status = true → guarded = true → Doomed ledger key hash

theorem DetailsOk.extends (ok : DetailsOk guarded before key hash details)
    (extends_ : Extends before after) : DetailsOk guarded after key hash details where
  named := ok.named
  settled isSettled := extends_.reported hash (ok.settled isSettled)
  failed isFailed isGuarded := (ok.failed isFailed isGuarded).extends extends_

/-- An error that is no word on the payment. -/
def NoVerdict (refusal : RouteError) : Prop :=
  ∀ text, refusal.error ≠ .lightning text

variable {ledger : InvoiceLedger} {refusal : RouteError}

theorem NoVerdict.answerOk (noVerdict : NoVerdict refusal) :
    AnswerOk guarded ledger key hash (.error refusal) where
  settled _ same := by cases same
  failed given same isFailed := by
    cases same
    exact absurd isFailed (noVerdict _)

/-- What a request may be answered if it pays an invoice. -/
def ResponseOk (guarded : Bool) (ledger : InvoiceLedger) (key : String) (request : Request)
    (answer : Except RouteError Direct.Answered) : Prop :=
  ∀ hash, request.invoiceHash = some hash → AnswerOk guarded ledger key hash answer

theorem NoVerdict.responseOk (noVerdict : NoVerdict refusal) :
    ResponseOk guarded ledger key request (.error refusal) := fun _ _ => noVerdict.answerOk

theorem noVerdict_storage : NoVerdict storage := nofun

theorem noVerdict_changed : NoVerdict changed := nofun

section

variable {node : Node Digest} {guarded : Bool}

/--
What is known about a row that has been read since the ledger was `known`:
it decides what was doomed before.
-/
structure RowRead (node : Node Digest) (guarded : Bool) (known ledger : InvoiceLedger)
    (key : String) (row : ChannelOpenOperation Digest) : Prop where
  keyed : row.operationId = key
  ok : RowOk node guarded ledger row
  decided : ∀ hash,
    row.request.invoiceHash = some hash → Doomed known key hash → OwnFailed ledger key

theorem Consistent.rowRead {known later : InvoiceLedger} {key : String}
    {row : ChannelOpenOperation Digest} (consistent : Consistent node guarded world)
    (before : Extends known world.wallet) (after : Extends world.wallet later)
    (found : world.table.row key = some row) : RowRead node guarded known later key row where
  keyed := world.table.keyed key row found
  ok := (consistent.rows key row found).extends after
  decided _ isFor doomed := (consistent.ownFailed (doomed.extends before) found isFor).extends after

end

section

variable [DecidableEq Digest] {node : Node Digest} {guarded : Bool}
  {since : World Digest (invoiceWallet node guarded)}
  (inj : Function.Injective node.digest)
  {expected row : ChannelOpenOperation Digest} {ident : Direct.Ident}
  {details : PaymentDetails} {op : Dispatch} {ledger : InvoiceLedger}
  {write : OutcomeWrite Digest} {receipt : Option Receipt} {request : Request} {key hash : String}

include inj

theorem secure_getOperation (key) :
    Secures node guarded task job since (getOperation key).run fun outcome world =>
        match outcome with
        | .ok (some row) => RowRead node guarded since.wallet world.wallet key row
        | .ok none => True
        | .error refusal => NoVerdict refusal := by
  refine secure_ask inj trivial fun _ answer _ consistent _ above _ effect => ?_
  obtain ⟨rfl, found⟩ := effect
  rcases answer with _ | (- | _)
  · exact secure_known fun _ _ _ => noVerdict_storage
  · exact secure_pure fun _ _ _ => trivial
  · exact secure_pure fun _ _ grown => consistent.rowRead above grown (found _ rfl).symm

/-- What a write that has taken effect proves about a doomed operation. -/
def Confirms (known ledger : InvoiceLedger) : OutcomeWrite Digest → Prop
  | .fenced expected _ _ _ =>
    ∀ hash, expected.request.invoiceHash = some hash →
      Doomed known expected.operationId hash → OwnFailed ledger expected.operationId
  | .pendingOnly _ _ _ _ => True

omit [DecidableEq Digest] inj in
theorem Confirms.extends {known : InvoiceLedger} (confirms : Confirms known before write)
    (extends_ : Extends before after) : Confirms known after write := by
  cases write with
  | fenced =>
    exact fun hash isFor doomed => (confirms hash isFor doomed).extends extends_
  | pendingOnly => trivial

theorem Consistent.confirms (consistent : Consistent node guarded world)
    (ok : WriteOk node guarded world.wallet write)
    (written : (world.write now write).1) : Confirms world.wallet world.wallet write := by
  cases write with
  | pendingOnly => trivial
  | fenced =>
    intro _ isFor doomed
    simp only [World.write, recordChannelOpenOutcome] at written
    split at written
    · cases written
    split at written
    · cases written
    next _ found =>
    split at written
    · next fence =>
      have sameRequest := request_eq_of_fence inj (consistent.rows _ _ found) ok.1 fence.1
      exact consistent.ownFailed doomed found (by rw [sameRequest]; exact isFor)
    · cases written

theorem secure_writeOnce (ok : WriteOk node guarded since.wallet write) :
    Secures node guarded task job since (writeOnce write).run fun outcome world =>
      match outcome with
      | .ok (some true) => Confirms since.wallet world.wallet write
      | .ok _ => True
      | .error _ => False := by
  refine secure_ask inj ok fun _ answer _ consistent _ above grown effect => ?_
  rcases answer with _ | (- | -)
  · exact secure_pure fun _ _ _ => trivial
  · exact secure_pure fun _ _ _ => trivial
  refine secure_pure fun _ _ grownLater => ?_
  obtain ⟨_, written, _⟩ := effect
  have confirms := Consistent.confirms inj consistent (ok.extends above) written.symm
  have confirmsLater := confirms.extends (grown.trans grownLater)
  cases write with
  | pendingOnly => trivial
  | fenced =>
    exact fun hash isFor doomed => confirmsLater hash isFor (doomed.extends above)

theorem secure_record (ok : WriteOk node guarded since.wallet
      (.fenced expected state (receipt.map .direct) lastError)) :
    Secures node guarded task job since (record expected state receipt lastError).run
      fun outcome world =>
        match outcome with
        | .ok .written => Confirms since.wallet world.wallet
          (.fenced expected state (receipt.map .direct) lastError)
        | .ok _ => True
        | .error _ => False := by
  refine secure_bind (secure_writeOnce inj ok) (fun _ _ _ _ impossible => impossible)
    fun written _ _ above confirms => ?_
  rcases written with - | (- | -)
  · exact secure_ask inj (WriteOk.extends ok above)
      fun _ _ _ _ _ _ _ _ => secure_pure fun _ _ _ => trivial
  · exact secure_pure fun _ _ _ => trivial
  · exact secure_pure fun _ _ grown => Confirms.extends confirms grown

theorem request_eq_of_digest (ok : RowOk node guarded ledger row)
    (digested : expected.requestHash = node.digest expected.request)
    (same : sameInsertion row expected) : row.request = expected.request :=
  request_eq_of_fence inj ok digested
    (by simp only [sameInsertion, decide_eq_true_eq] at same; exact same.1)

theorem secure_sameBinding (digested : expected.requestHash = node.digest expected.request) :
    Secures node guarded task job since (sameBinding ident expected).run fun outcome world =>
        match outcome with
        | .ok _ => ∀ hash, expected.request.invoiceHash = some hash →
          Doomed since.wallet ident.key hash → OwnFailed world.wallet ident.key
        | .error refusal => NoVerdict refusal := by
  refine secure_bind (secure_getOperation inj ident.key)
    (fun _ _ _ _ noVerdict => noVerdict) fun found _ _ _ read => ?_
  cases found with
  | none => exact secure_known fun _ _ _ => noVerdict_changed
  | some =>
    dsimp only
    split
    · next same =>
      refine secure_pure fun _ _ grown hash isFor doomed => ?_
      have sameRequest := request_eq_of_digest inj read.ok digested same
      exact (read.decided hash (by rw [sameRequest]; exact isFor) doomed).extends grown
    · exact secure_known fun _ _ _ => noVerdict_changed

omit [DecidableEq Digest] inj in
/-- A receipt that could be read is the result of the row. -/
theorem directReceipt_of_read {receipt : Receipt} (read : readReceipt row = .ok (some receipt)) :
    row.result = some (.direct receipt) := by
  unfold readReceipt at read
  split at read
  · cases read
  · next isDirect =>
    cases read
    exact isDirect
  · cases read

variable {answer : Except RouteError Direct.Answered}

omit [DecidableEq Digest] inj in
/-- The answer of a final row rests on its receipt. -/
theorem responseOk_replayFinal (keyed : row.operationId = ident.key)
    (ok : RowOk node guarded ledger row) (read : readReceipt row = .ok receipt)
    (final : replayFinal ident op state receipt = .error answer) :
    ResponseOk guarded ledger ident.key row.request answer := by
  intro hash isFor
  unfold replayFinal at final
  split at final
  · cases final
    refine ⟨fun _ same _ => ?_, fun _ same => (by cases same)⟩
    exact ok.receipt _ hash (directReceipt_of_read read) isFor
  · cases final
    refine ⟨fun _ same => (by cases same), fun _ same _ isGuarded => ?_⟩
    rw [← keyed]
    exact ok.receipt _ hash (directReceipt_of_read read) isFor isGuarded
  · cases final
    exact noVerdict_storage.answerOk
  · cases final
  · cases final

omit [DecidableEq Digest] inj in
theorem ResponseOk.extends (ok : ResponseOk guarded before key request answer)
    (extends_ : Extends before after) : ResponseOk guarded after key request answer :=
  fun hash isFor => (ok hash isFor).extends extends_

variable {refusal : RouteError}

omit [DecidableEq Digest] inj in
theorem noVerdict_of_readReceipt (read : readReceipt row = .error refusal) : NoVerdict refusal := by
  unfold readReceipt at read
  split at read
  · cases read
  · cases read
  · cases read
    exact noVerdict_storage

theorem secure_reread (digested : expected.requestHash = node.digest expected.request) :
    Secures node guarded task job since (reread ident op expected).run
      fun outcome world => ResponseOk guarded world.wallet ident.key expected.request outcome := by
  refine secure_bind (secure_getOperation inj ident.key)
    (fun _ _ _ _ noVerdict => NoVerdict.responseOk noVerdict)
    fun found _ _ _ read => ?_
  cases found with
  | none => exact secure_known fun _ _ _ => noVerdict_changed.responseOk
  | some row =>
    dsimp only
    split
    · exact secure_known fun _ _ _ => noVerdict_changed.responseOk
    next unchanged =>
    have same : sameInsertion row expected := by
      cases isSame : sameInsertion row expected with
      | true => rfl
      | false => simp [isSame] at unchanged
    have sameRequest := request_eq_of_digest inj read.ok digested same
    refine secure_known_bind (fun _ _ failed _ _ => (noVerdict_of_readReceipt failed).responseOk)
      fun _ isReceipt => ?_
    split
    · next _ final =>
      refine secure_known fun _ _ grown => ?_
      rw [← sameRequest]
      exact (responseOk_replayFinal read.keyed read.ok isReceipt final).extends grown
    · exact secure_known fun _ _ _ => noVerdict_storage.responseOk

/-- The answer and the write that follow from payment details. -/
structure OutcomeOk (guarded : Bool) (ledger : InvoiceLedger) (key : String) (request : Request)
    (recorded : Direct.Recorded) (response : Except RouteError Direct.Answered) : Prop where
  settled : ∀ hash answered,
    request.invoiceHash = some hash →
      response = .ok answered → answered.body.status = .settled → hash ∈ ledger.reported
  doomed : ∀ hash refusal,
    request.invoiceHash = some hash →
      response = .error refusal → guarded = true → Doomed ledger key hash
  written : recorded = .written →
    ∀ hash refusal,
      request.invoiceHash = some hash →
        response = .error refusal → guarded = true → OwnFailed ledger key

variable {recorded : Direct.Recorded} {response : Except RouteError Direct.Answered}

omit [DecidableEq Digest] inj in
theorem OutcomeOk.extends (ok : OutcomeOk guarded before key request recorded response)
    (extends_ : Extends before after) : OutcomeOk guarded after key request recorded response where
  settled hash answered isFor same isSettled :=
    extends_.reported hash (ok.settled hash answered isFor same isSettled)
  doomed hash refusal isFor same isGuarded :=
    (ok.doomed hash refusal isFor same isGuarded).extends extends_
  written isWritten hash refusal isFor same isGuarded :=
    (ok.written isWritten hash refusal isFor same isGuarded).extends extends_

/-- A write that goes with a response has been tried. -/
def Announced (guarded : Bool) (key : String) (request : Request)
    (response : Except RouteError Direct.Answered) (outcome : Except RouteError Direct.Recorded)
    (world : World Digest (invoiceWallet node guarded)) : Prop :=
  match outcome with
  | .ok recorded => OutcomeOk guarded world.wallet key request recorded response
  | .error _ => False

/-- What is known when payment details are reported for an operation. -/
structure Evidenced (node : Node Digest) (guarded : Bool) (ledger : InvoiceLedger) (key : String)
    (op : Dispatch) (expected : ChannelOpenOperation Digest) (details : PaymentDetails) : Prop where
  keyed : expected.operationId = key
  digested : expected.requestHash = node.digest expected.request
  named : ∀ hash, expected.request.invoiceHash = some hash → op.paymentHash = some hash
  details : ∀ hash,
    expected.request.invoiceHash = some hash → DetailsOk guarded ledger key hash details

omit [DecidableEq Digest] inj in
/-- The reported hash is that of the invoice. -/
theorem fromDetails_paymentHash (isHash : op.paymentHash = some hash)
    (named : details.paymentHash = hash ∨ details.paymentHash = "") :
    (fromDetails node.lightningBackend (inFlight ident op) details).paymentHash = hash := by
  have template : (inFlight ident op).paymentHash = hash := by
    simp [inFlight, isHash]
  simp only [fromDetails]
  split
  · exact template
  · next notEmpty => exact named.resolve_right notEmpty

variable {answered : Direct.Answered}

section

variable (known : Evidenced node guarded since.wallet ident.key op expected details)
include known

theorem secure_recordSettled (isSettled : details.status = .settled) :
    Secures node guarded task job since (record expected .opened (some (.settled body)) none).run
      (Announced guarded ident.key expected.request (.ok answered)) := by
  have ok : WriteOk node guarded since.wallet
    (.fenced expected .opened ((some (.settled body)).map .direct) none) := by
    refine ⟨known.digested, fun _ hash same isFor => ?_⟩
    cases same
    exact (known.details hash isFor).settled isSettled
  refine (secure_record inj ok).weaken fun outcome _ _ above held => ?_
  cases outcome with
  | error error => exact held
  | ok =>
    refine ⟨fun hash _ isFor _ _ => ?_, fun _ _ _ same => (by cases same),
      fun _ _ _ _ same => (by cases same)⟩
    exact above.reported hash ((known.details hash isFor).settled isSettled)

theorem secure_recordFailed (isFailed : failedOrExpired details.status) :
    Secures node guarded task job since
      (record expected .opened (some (.failed text maxRoutingFeeMsat)) (some text)).run
      (Announced guarded ident.key expected.request (.error refusal)) := by
  have ok : WriteOk node guarded since.wallet (.fenced expected .opened
    ((some (.failed text maxRoutingFeeMsat)).map .direct)
    (some text)) := by
    refine ⟨known.digested, fun _ hash same isFor => ?_⟩
    cases same
    rw [known.keyed]
    exact (known.details hash isFor).failed isFailed
  refine (secure_record inj ok).weaken fun outcome _ _ above held => ?_
  cases outcome with
  | error error => exact held
  | ok =>
    have doomed (hash : String) (isFor : expected.request.invoiceHash = some hash)
      (isGuarded : guarded) :
      Doomed since.wallet ident.key hash :=
      (known.details hash isFor).failed isFailed isGuarded
    refine ⟨fun _ _ _ same => (by cases same),
      fun hash _ isFor _ isGuarded => (doomed hash isFor isGuarded).extends above, ?_⟩
    rintro rfl hash _ isFor _ isGuarded
    have doomedRow := doomed hash isFor isGuarded
    rw [← known.keyed] at doomedRow ⊢
    exact held hash isFor doomedRow

theorem secure_recordOpen (unsettled : answered.body.status ≠ .settled) :
    Secures node guarded task job since (recordOpen expected
      (fromDetails node.lightningBackend (inFlight ident op) details)).run
      (Announced guarded ident.key expected.request (.ok answered)) := by
  have announced (recorded : Direct.Recorded) (ledger : InvoiceLedger) :
    OutcomeOk guarded ledger ident.key expected.request recorded (.ok answered) := by
    refine ⟨fun _ _ _ same isSettled => ?_, fun _ _ _ same => (by cases same),
      fun _ _ _ _ same => (by cases same)⟩
    cases same
    exact absurd isSettled unsettled
  unfold recordOpen
  split
  · refine Growth.Secure.weaken (secure_record inj ?_) ?_
    · refine ⟨known.digested, fun _ hash same isFor => ?_⟩
      cases same
      exact fromDetails_paymentHash (known.named hash isFor) (known.details hash isFor).named
    intro outcome _ _ _ held
    cases outcome with
    | error error => exact held
    | ok recorded => exact announced recorded _
  · exact secure_pure fun _ _ _ => announced _ _

end

theorem secure_outcomeOf (replayed)
    (known : Evidenced node guarded since.wallet ident.key op expected details) :
    Secures node guarded task job since (outcomeOf node ident op expected details replayed).run
      fun outcome world =>
        match outcome with
        | .ok (recorded, response) =>
          OutcomeOk guarded world.wallet ident.key expected.request recorded response
        | .error _ => False := by
  -- Each case records its own receipt and then announces its own answer.
  have announce {program : PayM Digest Direct.Recorded}
    {response : Except RouteError Direct.Answered}
    (secured : Secures node guarded task job since program.run
      (Announced guarded ident.key expected.request response)) :
    Secures node guarded task job since (program >>= fun recorded => pure (recorded, response)).run
      fun outcome world =>
        match outcome with
        | .ok (recorded, response) =>
          OutcomeOk guarded world.wallet ident.key expected.request recorded response
        | .error _ => False := by
    refine secure_bind secured (fun _ _ _ _ impossible => impossible)
      fun recorded _ _ _ announced => secure_pure fun _ _ grown => ?_
    exact OutcomeOk.extends announced grown
  unfold outcomeOf
  cases status : details.status with
  | settled => exact announce (secure_recordSettled inj known status)
  | failed | expired => exact announce (secure_recordFailed inj known (by rw [status]; rfl))
  | pending | inFlight =>
    exact announce (secure_recordOpen inj known (by simp [view, fromDetails, status]))

omit [DecidableEq Digest] inj in
/-- A response rests on evidence once its own attempt is known to have failed. -/
theorem OutcomeOk.responseOk (ok : OutcomeOk guarded ledger key request recorded response)
    (decided : ∀ hash, request.invoiceHash = some hash →
      Doomed ledger key hash → OwnFailed ledger key) :
    ResponseOk guarded ledger key request response :=
  fun hash isFor => ⟨fun answered same => ok.settled hash answered isFor same,
    fun refusal same _ isGuarded =>
      decided hash isFor (ok.doomed hash refusal isFor same isGuarded)⟩

theorem secure_conclude (known : Evidenced node guarded since.wallet ident.key op expected details)
    (own : replayed = false →
      ∀ hash, expected.request.invoiceHash = some hash → Dispatched since.wallet ident.key hash) :
    Secures node guarded task job since (conclude node ident op expected details replayed).run
      fun outcome world => ResponseOk guarded world.wallet ident.key expected.request outcome := by
  refine secure_bind (secure_outcomeOf inj replayed known) nofun ?_
  rintro ⟨recorded, _⟩ _ _ above outcome
  cases replayed with
  | false =>
    refine secure_known fun _ consistent grown => ?_
    refine (OutcomeOk.extends outcome grown).responseOk fun hash isFor doomed => ?_
    obtain ⟨attempt, mem, hasKey, failed⟩ := doomed
    obtain ⟨_, ownMem, ownKey, sameHash⟩ := (own rfl hash isFor).extends (above.trans grown)
    obtain rfl := consistent.attempt_unique mem ownMem hasKey ownKey
    exact ⟨attempt, mem, hasKey, failed sameHash⟩
  | true =>
    cases recorded with
    | written =>
      refine secure_known fun _ _ grown hash isFor => ?_
      exact ⟨fun answered same isSettled =>
        grown.reported hash (outcome.settled hash answered isFor same isSettled),
        fun refusal same _ isGuarded =>
          (outcome.written rfl hash refusal isFor same isGuarded).extends grown⟩
    | fenceMissed => exact secure_reread inj known.digested
    | failed =>
      refine secure_bind (secure_sameBinding inj known.digested)
        (fun _ _ _ _ noVerdict => NoVerdict.responseOk noVerdict)
        fun _ _ _ aboveBound decided => secure_known fun _ _ grown hash isFor => ?_
      exact ⟨fun answered same isSettled =>
        (aboveBound.trans grown).reported hash (outcome.settled hash answered isFor same isSettled),
        fun refusal same _ isGuarded =>
          (decided hash isFor (outcome.doomed hash refusal isFor same isGuarded)).extends grown⟩

omit [DecidableEq Digest] inj in
/-- What a report about a hash proves to an operation with an attempt. -/
theorem detailsOk_of_reports {before : World Digest (invoiceWallet node guarded)}
    (consistent : Consistent node guarded before)
    (reports : Reports guarded before.wallet key hash (.ok details) after)
    (isOutgoing : details.direction = .outgoing) : DetailsOk guarded after key hash details := by
  have extends_ := reports.extends
  obtain ⟨sameHash, reports⟩ := reports
  rw [isOutgoing] at reports
  obtain ⟨_, isLatest, sameStatus, own, rfl⟩ := reports
  refine ⟨.inl sameHash, fun isSettled => ?_, fun isFailed isGuarded => ?_⟩
  · rw [isSettled]
    exact mem_reported_report _ _
  rw [sameStatus] at isFailed
  obtain ⟨attempt, mem, hasKey⟩ := own isGuarded isFailed
  refine Doomed.extends ⟨attempt, mem, hasKey, fun isHash => ?_⟩ extends_
  exact consistent.failed_of_latest isLatest isFailed mem isHash

theorem secure_terminalOutgoing (key hash) :
    Secures node guarded task job since (terminalOutgoing key hash).run fun outcome world =>
        match outcome with
        | .ok (some details) => DetailsOk guarded world.wallet key hash details
        | .ok none => True
        | .error _ => False := by
  refine secure_ask inj trivial fun _ answer _ consistent _ _ _ effect => ?_
  rcases answer with - | (error | _)
  · exact secure_pure fun _ _ _ => trivial
  · exact secure_pure fun _ _ _ => trivial
  dsimp only
  split
  · next isFinal =>
    obtain ⟨_, reports, rfl⟩ := effect
    refine secure_pure fun _ _ grown => ?_
    exact (detailsOk_of_reports consistent reports isFinal.1).extends grown
  · exact secure_pure fun _ _ _ => trivial

theorem secure_finalWord (key template) :
    Secures node guarded task job since (finalWord key template).run fun outcome world =>
        match outcome with
        | .ok (some details) => DetailsOk guarded world.wallet key template.paymentHash details
        | .ok none => True
        | .error _ => False := by
  unfold finalWord
  split
  · exact secure_pure fun _ _ _ => trivial
  · exact secure_terminalOutgoing inj key template.paymentHash

omit [DecidableEq Digest] inj in
/-- The template of an open row names the invoice of its request. -/
theorem template_paymentHash (ok : RowOk node guarded ledger row)
    (read : readReceipt row = .ok receipt) (named : op.paymentHash = some hash)
    (isFor : row.request.invoiceHash = some hash)
    (unfinished : replayFinal ident op row.state receipt = .ok template) :
    template.paymentHash = hash := by
  unfold replayFinal at unfinished
  split at unfinished
  · cases unfinished
  · cases unfinished
  · cases unfinished
  · cases unfinished
    have stored := directReceipt_of_read read
    exact ok.receipt _ hash stored isFor
  · cases unfinished
    simp [inFlight, named]

/-- Answering from a record. -/
theorem secure_replay (keyed : row.operationId = ident.key)
    (ok : RowOk node guarded since.wallet row)
    (named : ∀ hash, request.invoiceHash = some hash → op.paymentHash = some hash) :
    Secures node guarded task job since (replay node row ident op (node.digest request)).run
      fun outcome world => ResponseOk guarded world.wallet ident.key request outcome := by
  unfold replay
  split
  · exact secure_known fun _ _ _ => NoVerdict.responseOk nofun
  next same =>
  have sameRequest : row.request = request := inj (by rw [← ok.digested]; exact not_not.mp same)
  subst sameRequest
  refine secure_known_bind (fun _ _ failed _ _ => (noVerdict_of_readReceipt failed).responseOk)
    fun _ isReceipt => ?_
  split
  · next _ final =>
    refine secure_known fun _ _ grown => ?_
    exact (responseOk_replayFinal keyed ok isReceipt final).extends grown
  next template unfinished =>
  refine secure_bind (secure_finalWord inj ident.key template) nofun fun word _ _ _ evidence => ?_
  cases word with
  | none =>
    refine secure_pure fun _ _ _ hash _ => ?_
    refine ⟨fun _ same isSettled => ?_, fun _ same => (by cases same)⟩
    cases same
    cases isSettled
  | some =>
    refine secure_conclude inj ⟨keyed, ok.digested, named, ?_⟩ ?_
    · intro hash isFor
      rw [← template_paymentHash ok isReceipt (named hash isFor) isFor unfinished]
      exact evidence
    · exact nofun

end

end BitSov.Payments
