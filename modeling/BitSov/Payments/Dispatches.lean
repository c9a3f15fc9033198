import BitSov.Payments.AtMostOnce

namespace BitSov.Payments

open Core Spend Outbox Process Fallible Program List Direct Machine ChannelOpen
open OperationTable
open PayOp (Answer)

/-!
# The operation every backend call is made for

A request names its operation: the route, the caller and the request id give
the key, the parameters give the fingerprint.  Each route makes its backend
call with exactly these, so that one dispatch for an operation key is one
dispatch for a request id.
-/

variable {Digest : Type} {wallet : Wallet Digest}

/-- The operation of a direct payment. -/
def directBinding (node : Node Digest) (route : Direct.Route) (caller : Caller) (requestId : String)
    (op : Dispatch) : Binding Digest where
  key := operationKey route caller requestId
  requestHash := node.digest (op.fingerprint caller.scope)
  request := op.fingerprint caller.scope

/-- An operation with the parameters it binds. -/
def bindingOf (node : Node Digest) (key : String) (request : Request) : Binding Digest where
  key
  requestHash := node.digest request
  request

/-- The backend call that sends on chain. -/
def sendCall (req : Onchain.SendOnchainRequest) : MoneyCall :=
  .sendOnchain req.address req.amountSats req.feeRateBits

/-- The backend call that opens a channel. -/
def openCall (req : OpenChannelRequest) : MoneyCall :=
  if isExplicit req then
    .openChannelWithFunding req.peerPubkey req.peerAddr req.amountSats req.announce
      ⟨req.fundingPriority.getD .normal, req.maxFundingFeeSats⟩
      (req.pushSats.map fun push => push * 1000)
  else
    .openChannelWithStatus req.peerPubkey req.peerAddr req.amountSats req.announce req.feeRateBits

/--
The backend call of a job with the operation it is for.  Direct payments
always have an operation; the other routes have one if the request has an id.
-/
def Job.dispatch (node : Node Digest) : Job Digest → Option (MoneyCall × Option (Binding Digest))
  | .pay caller req =>
    match requiredRequestId req.requestId, preparePay node caller req with
    | .ok requestId, .ok op =>
      some (.payInvoiceWithFeeLimit req.bolt11 op.maxRoutingFeeMsat,
        some (directBinding node .pay caller requestId op))
    | _, _ => none
  | .keysend caller req =>
    match requiredRequestId req.requestId with
    | .ok requestId =>
      let op := prepareKeysend node req
      some (.keysendWithFeeLimit req.destPubkey req.amountMsat req.memo op.maxRoutingFeeMsat,
        some (directBinding node .keysend caller requestId op))
    | .error _ => none
  | .sendOnchain req =>
    match req.requestId with
    | none => some (sendCall req, none)
    | some text =>
      (node.uuidV4 text).map fun id =>
        (sendCall req, some (bindingOf node ("send-onchain:" ++ id)
          (.sendOnchain req.address req.amountSats req.feeRateBits)))
  | .openChannel req =>
    match req.operationId with
    | none => some (openCall req, none)
    | some text =>
      (node.uuidV4 text).map fun id =>
        (openCall req, some (bindingOf node id (openChannelFingerprint req)))
  | .retry _ => none

/-- Only one backend call is handed over, and only for its own operation. -/
def CallsOwn (expected : Option (MoneyCall × Option (Binding Digest))) : PayOp Digest → Prop
  | .handOver money binding _ => expected = some (money, binding)
  | _ => True

section

variable {expected : Option (MoneyCall × Option (Binding Digest))}

/-- What is quiet hands nothing over. -/
theorem callsOwn_quiet {α : Type} {program : Program (PayOp Digest) Answer α}
    (quiet : Performs IsQuiet program) : Performs (CallsOwn expected) program := by
  refine quiet.mono fun operation isQuiet => ?_
  cases operation with
  | handOver => cases isQuiet
  | _ => trivial

/-- A deletion hands nothing over. -/
theorem callsOwn_release (key : String) :
    Performs (CallsOwn expected) (release key : PayM Digest Unit).run :=
  performs_ask_bind trivial fun _ => trivial

theorem callsOwn_dispatch {metered : Bool} {call : MoneyCall} {binding : Option (Binding Digest)}
    (own : expected = some (call, binding)) :
    Performs (CallsOwn expected) (dispatch metered binding call).run := by
  refine performs_ask_bind own fun answer => ?_
  cases answer with
  | error => trivial
  | ok =>
    cases metered with
    | true =>
      refine performs_ask_bind trivial fun answer => ?_
      cases answer <;> trivial
    | false => exact performs_ask_bind trivial fun _ => trivial

theorem callsOwn_callBackend {call : MoneyCall} {binding : Option (Binding Digest)}
    (own : expected = some (call, binding)) :
    Performs (CallsOwn expected) (callBackend binding call).run := by
  refine performs_ask_bind own fun answer => ?_
  cases answer with
  | error => trivial
  | ok => exact performs_ask_iff.mpr trivial

theorem callsOwn_onchainDispatch {req : Onchain.SendOnchainRequest}
    {binding : Option (Binding Digest)} (own : expected = some (sendCall req, binding)) :
    Performs (CallsOwn expected) (Onchain.dispatch binding req).run :=
  performs_bind (callsOwn_callBackend own) fun _ => trivial

/-- The backend call of an opening has the checked funding terms. -/
theorem callsOwn_openChannel {req : OpenChannelRequest} {binding : Option (Binding Digest)}
    (own : expected = some (openCall req, binding)) :
    Performs (CallsOwn expected)
      (openChannel binding req ⟨req.fundingPriority.getD .normal, req.maxFundingFeeSats⟩
        (req.pushSats.map fun push => push * 1000)).run := by
  unfold openChannel
  unfold openCall at own
  split at own <;> rename_i explicit
  · rw [if_pos explicit]
    exact callsOwn_callBackend own
  · rw [if_neg explicit]
    exact callsOwn_callBackend own

variable [DecidableEq Digest] {node : Node Digest}

/-- A direct payment calls the backend for its own operation only. -/
theorem callsOwn_run {route : Direct.Route} {caller : Caller} {requestId : String}
    {prepare : Except RouteError Dispatch} {send : Dispatch → MoneyCall}
    {details : (op : Dispatch) → (send op).Result → PaymentDetails}
    (own : ∀ op, prepare = .ok op →
      expected = some (send op, some (directBinding node route caller requestId op))) :
    Performs (CallsOwn expected)
      (run node route caller requestId prepare (debit caller) send details).run := by
  refine performs_bind (callsOwn_quiet (quiet_getOperation _)) fun existing => ?_
  refine performs_bind (callsOwn_quiet (quiet_readyUnlessRecorded existing)) fun _ => ?_
  refine performs_known_bind_iff.mpr fun op prepared => ?_
  cases existing with
  | some => exact callsOwn_quiet (quiet_replay _ _ _ _ _)
  | none =>
    refine performs_ask_bind trivial fun _ => ?_
    refine performs_ask_bind trivial fun inserted => ?_
    rcases inserted with _ | (- | -)
    · trivial
    · refine performs_bind (callsOwn_quiet (quiet_getOperation _)) fun found => ?_
      cases found with
      | none => trivial
      | some => exact callsOwn_quiet (quiet_replay _ _ _ _ _)
    refine performs_bind (callsOwn_quiet (performs_attempt (quiet_debit caller op)))
      fun debited => ?_
    cases debited with
    | error => exact performs_bind (callsOwn_release _) fun _ => trivial
    | ok =>
      refine performs_bind (callsOwn_dispatch (own op prepared)) fun outcome => ?_
      rcases outcome with _ | - | (error | _)
      · refine performs_ask_bind trivial fun _ => ?_
        exact performs_bind (callsOwn_release _) fun _ => trivial
      · exact performs_bind (callsOwn_quiet (quiet_record _ _ _ _)) fun _ => trivial
      · dsimp only
        split
        · refine performs_ask_bind trivial fun _ => ?_
          exact performs_bind (callsOwn_release _) fun _ => trivial
        · exact performs_bind (callsOwn_quiet (quiet_record _ _ _ _)) fun _ => trivial
      refine performs_bind (callsOwn_quiet (quiet_settleBriefly _ _)) fun _ => ?_
      refine performs_ask_bind trivial fun _ => ?_
      exact callsOwn_quiet (quiet_conclude _ _ _ _ _ _)

/-- A send calls the backend for the id of its request, if it has one. -/
theorem callsOwn_onchainSend (node : Node Digest) (req : Onchain.SendOnchainRequest) :
    Performs (CallsOwn (Job.dispatch node (.sendOnchain req))) (Onchain.send node req).run := by
  cases isId : req.requestId with
  | none =>
    simp only [Onchain.send, isId]
    refine performs_bind (callsOwn_quiet (performs_validate trivial node req)) fun _ => ?_
    refine performs_bind (callsOwn_onchainDispatch (by simp only [Job.dispatch, isId])) ?_
    intro reply
    cases reply <;> trivial
  | some text =>
    simp only [Onchain.send, isId, Onchain.run]
    cases isUuid : node.uuidV4 text with
    | none => trivial
    | some id =>
      refine performs_ask_bind trivial fun found => ?_
      rcases found with _ | (- | _)
      · trivial
      · refine performs_bind (callsOwn_quiet (performs_validate trivial node req)) fun _ => ?_
        refine performs_ask_bind trivial fun _ => ?_
        refine performs_ask_bind trivial fun inserted => ?_
        rcases inserted with _ | (- | -)
        · trivial
        · refine performs_ask_bind trivial fun again => ?_
          rcases again with _ | (- | _) <;> trivial
        have own : Job.dispatch node (.sendOnchain req) = some (sendCall req,
            some (bindingOf node ("send-onchain:" ++ id)
              (.sendOnchain req.address req.amountSats req.feeRateBits))) := by
          simp only [Job.dispatch, isId, isUuid, Option.map_some]
        refine performs_bind (callsOwn_onchainDispatch own) fun reply => ?_
        cases reply with
        | ok => exact performs_bind (callsOwn_quiet (quiet_recordOutcome _)) fun _ => trivial
        | error error =>
          dsimp only
          split
          · exact performs_ask_bind trivial fun _ => trivial
          · exact performs_bind (callsOwn_quiet (quiet_recordOutcome _)) fun _ => trivial
      · trivial

omit [DecidableEq Digest] in
/-- Checked parameters continue with the amount to push. -/
theorem callsOwn_checkParameters_bind {α : Type} {req : OpenChannelRequest}
    {cont : Option UInt64 → PayM Digest α}
    (next : Performs (CallsOwn expected) (cont (req.pushSats.map fun push => push * 1000)).run) :
    Performs (CallsOwn expected) (checkParameters node req >>= cont).run := by
  simp only [checkParameters, bind_assoc, pure_bind]
  refine performs_bind (performs_refuseIf _ _) fun _ => ?_
  refine performs_bind (performs_requireMoneyReady trivial) fun _ => ?_
  refine performs_bind (performs_refuseIf _ _) fun _ => ?_
  refine performs_bind (performs_refuseIf _ _) fun _ => ?_
  refine performs_bind (performs_refuseIf _ _) fun _ => ?_
  refine performs_bind (performs_refuseIf _ _) fun _ => ?_
  exact performs_bind (performs_refuseIf _ _) fun _ => next

theorem callsOwn_replayChannelOpen (op : ChannelOpenOperation Digest) (hash : Digest)
    (req : OpenChannelRequest) (ownsOperation : Bool) :
    Performs (CallsOwn expected) (replayChannelOpen op hash req ownsOperation).run :=
  performs_replayChannelOpen _ _ _ _ trivial ⟨trivial, fun _ => trivial⟩ fun _ _ _ _ _ => trivial

theorem callsOwn_checkAndOpen {req : OpenChannelRequest}
    {operation : Option (Bool × Binding Digest)}
    (own : expected = some (openCall req, operation.map Prod.snd)) :
    Performs (CallsOwn expected) (checkAndOpen node req operation).run := by
  refine callsOwn_checkParameters_bind ?_
  split
  · refine performs_ask_bind trivial fun quote => ?_
    cases quote <;> trivial
  rcases operation with - | ⟨_, binding⟩
  · refine performs_bind (callsOwn_openChannel own) fun reply => ?_
    cases reply <;> trivial
  refine performs_ask_bind trivial fun _ => ?_
  refine performs_ask_bind trivial fun inserted => ?_
  rcases inserted with _ | (- | -)
  · trivial
  · refine performs_ask_bind trivial fun found => ?_
    rcases found with _ | (- | _)
    · trivial
    · trivial
    · exact callsOwn_replayChannelOpen _ _ _ _
  refine performs_bind (callsOwn_openChannel own) fun reply => ?_
  cases reply with
  | ok => exact performs_ask_bind trivial fun _ => trivial
  | error =>
    dsimp only
    split <;> exact performs_ask_bind trivial fun _ => trivial

/-- An opening calls the backend for its operation id, if it has one. -/
theorem callsOwn_runChannelOpen (node : Node Digest) (req : OpenChannelRequest) :
    Performs (CallsOwn (Job.dispatch node (.openChannel req))) (runChannelOpen node req).run := by
  cases isId : req.operationId with
  | none =>
    simp only [runChannelOpen, isId]
    exact callsOwn_checkAndOpen (by simp only [Job.dispatch, isId, Option.map_none])
  | some text =>
    simp only [runChannelOpen, isId]
    split
    · trivial
    cases isUuid : node.uuidV4 text with
    | none => trivial
    | some id =>
      refine performs_ask_bind trivial fun locked => ?_
      cases locked with
      | error => trivial
      | ok =>
        refine performs_ask_bind trivial fun found => ?_
        rcases found with _ | (- | _)
        · trivial
        · dsimp only
          split
          · refine callsOwn_checkAndOpen ?_
            simp only [Job.dispatch, isId, isUuid, Option.map_some]
            rfl
          · trivial
        · exact callsOwn_replayChannelOpen _ _ _ _

/-- Every job hands over its own call only, for its own operation. -/
theorem callsOwn_code (node : Node Digest) (job : Job Digest) :
    Performs (CallsOwn (job.dispatch node)) (job.code node) := by
  cases job with
  | pay caller req =>
    refine Performs.bind ?_ fun _ => trivial
    unfold payInvoice
    split
    · trivial
    split
    · trivial
    refine performs_known_bind_iff.mpr fun requestId isId => callsOwn_run fun op prepared => ?_
    simp only [Job.dispatch, isId, prepared]
  | keysend caller req =>
    refine Performs.bind ?_ fun _ => trivial
    unfold keysend
    split
    · trivial
    split
    · trivial
    split
    · trivial
    split
    · trivial
    refine performs_known_bind_iff.mpr fun requestId isId => callsOwn_run fun op prepared => ?_
    obtain rfl := Except.ok.inj prepared
    simp only [Job.dispatch, isId]
  | sendOnchain req => exact (callsOwn_onchainSend node req).bind fun _ => trivial
  | openChannel req => exact (callsOwn_runChannelOpen node req).bind fun _ => trivial
  | retry write =>
    refine Performs.bind ?_ fun _ => trivial
    exact performs_ask_bind trivial fun _ => callsOwn_quiet (quiet_retryAfter write retryDelays)

/-- Snapshots of the routes. -/
abbrev RouteConfig (wallet : Wallet Digest) :=
  Config (Nat × Job Digest) (World Digest wallet) (PayOp Digest) Answer RouteAnswer

section

variable {before after : World Digest wallet} {index : Nat}
  {operation : PayOp Digest} {answer : operation.Answer}

/-- What one operation of a task does to the calls. -/
theorem calls_of_effect (effect : World.effect index before operation answer after) :
    ∀ made ∈ after.calls, (∃ old ∈ before.calls,
      made.task = old.task ∧ made.binding = old.binding ∧ made.call = old.call) ∨
      made.task = index ∧ ∃ metered, (⟨operation, answer⟩ : Event (PayOp Digest) Answer) =
        ⟨.handOver made.call made.binding metered, .ok ()⟩ := by
  have ofSame (same : after.calls = before.calls) : ∀ made ∈ after.calls, ∃ old ∈ before.calls,
    made.task = old.task ∧ made.binding = old.binding ∧ made.call = old.call := by
    intro made mem
    rw [same] at mem
    exact ⟨made, mem, rfl, rfl, rfl⟩
  have ofAnswered {call : MoneyCall} {binding : Option (Binding Digest)}
    {reply : Except LightningError call.Result}
    (answered : World.Answered before index call binding reply after) :
    ∀ made ∈ after.calls, ∃ old ∈ before.calls,
      made.task = old.task ∧ made.binding = old.binding ∧ made.call = old.call := by
    obtain ⟨_, -, rfl⟩ := answered
    intro made mem
    obtain ⟨old, formerMem, rfl⟩ := mem_map.mp mem
    refine ⟨old, formerMem, answered_task _ _ _, answered_binding _ _ _, ?_⟩
    unfold MadeCall.answered
    split <;> rfl
  intro made mem
  cases operation with
  | handOver call binding metered =>
    cases answer with
    | error => exact .inl (ofSame (by rw [effect.2]) made mem)
    | ok =>
      obtain ⟨_, -, rfl⟩ := effect
      rcases mem_append.mp mem with old | isNew
      · exact .inl ⟨made, old, rfl, rfl, rfl⟩
      · obtain rfl := mem_singleton.mp isNew
        exact .inr ⟨rfl, metered, rfl⟩
  | awaitCall call binding => exact .inl (ofAnswered effect made mem)
  | awaitGuarded call binding =>
    cases answer with
    | none => exact .inl (ofSame (by rw [show after = before from effect]) made mem)
    | some reply => exact .inl (ofAnswered effect made mem)
  | insertOperation | deletePending =>
    refine .inl (ofSame ?_ made mem)
    cases answer with
    | ok =>
      rw [effect.2]
      rfl
    | error => rcases effect with rfl | rfl <;> rfl
  | _ =>
    have quiet := quiet_of_effect (by trivial) effect
    exact .inl (ofSame quiet.calls made mem)

end

/-- Every backend call is the call of its task, for the operation of its task. -/
def Attributed (node : Node Digest) (config : RouteConfig wallet) : Prop :=
  ∀ made ∈ config.shared.calls,
    ∃ task, config.tasks[made.task]? = some task ∧
      task.job.2.dispatch node = some (made.call, made.binding)

variable {config before after : RouteConfig wallet}

/-- A step that changes no call keeps the calls with their tasks. -/
theorem Attributed.of_calls_eq (attributed : Attributed node before)
    (step : (routes node wallet).Step before after)
    (sameCalls : after.shared.calls = before.shared.calls) : Attributed node after := by
  intro made mem
  rw [sameCalls] at mem
  obtain ⟨_, found, isDispatch⟩ := attributed made mem
  obtain ⟨later, isLater, sameJob⟩ := step.exists_job_eq found
  exact ⟨later, isLater, by rw [sameJob]; exact isDispatch⟩

theorem Attributed.step (attributed : Attributed node before)
    (coherent : (routes node wallet).Coherent before)
    (step : (routes node wallet).Step before after) : Attributed node after := by
  have moved := step
  cases step with
  | start => exact attributed.of_calls_eq moved rfl
  | @perform index task operation next answer shared found live pending effect =>
    intro made mem
    rcases calls_of_effect effect made mem with
      ⟨old, formerMem, sameTask, sameBinding, sameCall⟩ | ⟨isOwn, metered, isHandOver⟩
    · obtain ⟨_, isTask, isDispatch⟩ := attributed old formerMem
      obtain ⟨later, isLater, sameJob⟩ := moved.exists_job_eq isTask
      rw [sameTask, sameBinding, sameCall]
      exact ⟨later, isLater, by rw [sameJob]; exact isDispatch⟩
    · obtain ⟨later, isLater, sameJob⟩ := moved.exists_job_eq found
      cases isHandOver
      have allowed := (callsOwn_code node task.job.2).of_reaches
        (coherent.reaches index task found)
      rw [pending] at allowed
      exact ⟨later, by rw [isOwn]; exact isLater, by rw [sameJob]; exact allowed.1⟩
  | cancel _ _ dropped =>
    obtain rfl := dropped
    exact attributed.of_calls_eq moved rfl
  | crash _ crashed =>
    obtain ⟨_, -, rfl⟩ := crashed
    exact attributed.of_calls_eq moved rfl
  | ambient moves =>
    obtain ⟨_, -, rfl⟩ := moves
    exact attributed.of_calls_eq moved rfl

theorem Reachable.attributed (reachable : Reachable node wallet config) :
    Attributed node config := by
  obtain ⟨_, steps⟩ := reachable
  induction steps with
  | refl =>
    intro _ mem
    simp [idle, World.initial] at mem
  | tail prior step ih => exact ih.step (coherent_of_steps prior) step

/--
In every run of the money routes, over any backend: every backend call is made
by its task with the parameters of its request, and for the operation that the
route, the caller and the request id name; a call is made for an operation
only while every earlier call for it has been answered as not dispatched (a
call refused before its first poll is not made at all), and only by a request
whose parameters are those of the recorded row; and a row whose outcome is
final keeps it, whatever happens later.
-/
theorem routes_dispatch_atMostOnce (node : Node Digest) (wallet : Wallet Digest)
    (before : RouteConfig wallet) (reachable : Reachable node wallet before) :
    Attributed node before ∧
      (∀ after made binding, (routes node wallet).Step before after →
        after.shared.calls = before.shared.calls ++ [made] → made.binding = some binding →
          (∀ earlier ∈ before.shared.calls, earlier.IsFor binding.key → earlier.Undispatched) ∧
          ∃ row, before.shared.table.row binding.key = some row ∧
            row.requestHash = binding.requestHash ∧ row.request = binding.request) ∧
      ∀ later key row, (routes node wallet).Steps before later →
        before.shared.table.row key = some row → row.state = .opened →
          ∃ kept, later.shared.table.row key = some kept ∧
            kept.state = .opened ∧ kept.result = row.result := by
  refine ⟨reachable.attributed, ?_, ?_⟩
  · intro _ _ binding step grown found
    rcases (reachable.holds.step discipline_kept step).2 with
      same | ⟨_, moved⟩
    · rw [same] at grown
      have sameLength := congrArg List.length grown
      simp at sameLength
    · obtain ⟨undispatched, recorded⟩ := calls_of_moves moved grown binding found
      exact ⟨undispatched, recorded⟩
  · intro _ _ row steps found opened
    exact ⟨row, opened_of_steps reachable steps found opened, opened, rfl⟩

end

/-- A backend that may answer anything. -/
def anyWallet : Wallet Request where
  State := Unit
  handOver := fun _ _ _ _ _ => True
  answers := fun _ _ _ _ _ _ => True
  reports := fun _ _ _ _ _ => True
  moves := fun _ _ => True

/-- A send of 5000 sat under the id `a`. -/
def sendRequest : Onchain.SendOnchainRequest where
  requestId := some "a"
  address := "bc1"
  amountSats := 5000
  feeRateBits := none

def sendBinding : Binding Request where
  key := "send-onchain:a"
  requestHash := .sendOnchain "bc1" 5000 none
  request := .sendOnchain "bc1" 5000 none

/-- A call of the send that was refused before anything was dispatched. -/
def refusedSend : MadeCall Request :=
  ⟨0, some sendBinding, sendCall sendRequest, some (.failed .notReady)⟩

/-- The row of the send. -/
def sendRow : ChannelOpenOperation Request :=
  .pending sendBinding.key sendBinding.requestHash sendBinding.request 7

/-- A request up to its hand-over. -/
def untilInsert : List (Event (PayOp Request) Answer) :=
  [⟨.getOperation sendBinding.key, .ok none⟩, ⟨.moneyReady, true⟩, ⟨.now, (7 : Int)⟩,
    ⟨.insertOperation sendRow, .ok true⟩]

/-- A request whose call the backend refuses, to its end. -/
def untilRefused : List (Event (PayOp Request) Answer) :=
  untilInsert ++ [⟨.handOver (sendCall sendRequest) (some sendBinding) false, .ok ()⟩,
    ⟨.awaitCall (sendCall sendRequest) (some sendBinding), .error .notReady⟩,
    ⟨.deletePending sendBinding.key, .ok true⟩]

/-- A request inserts its row where there is none. -/
theorem performed_untilInsert {task : Nat} {world : World Request anyWallet}
    (absent : world.table.row sendBinding.key = none) :
    Performed (World.effect task) world untilInsert (world.insert task sendRow).2 := by
  have inserted : (world.insert task sendRow).1 = true := by
    simp only [World.insert, insertChannelOpenOperation, sendRow, ChannelOpenOperation.pending,
      absent]
  refine .cons ⟨rfl, ?_⟩ (.cons rfl (.cons rfl (.cons ⟨inserted.symm, rfl⟩ (.nil _))))
  rintro _ ⟨⟩
  exact absent.symm

/-- The call of the first request was refused, and its row is gone. -/
theorem performed_untilRefused : ∃ world : World Request anyWallet,
    Performed (World.effect 0) (World.initial ()) untilRefused world ∧
      world.table.row sendBinding.key = none ∧ world.calls = [refusedSend] := by
  refine ⟨_, performed_append_iff.mpr ⟨_, performed_untilInsert rfl,
    .cons ⟨(), trivial, rfl⟩ (.cons ⟨(), trivial, rfl⟩ (.cons ⟨rfl, rfl⟩ (.nil _)))⟩, rfl, rfl⟩

theorem reaches_untilInsert : ∃ next, Reaches ((routes plainNode anyWallet).code
    (0, .sendOnchain sendRequest)) untilInsert
      (.call (.handOver (sendCall sendRequest) (some sendBinding) false) next) :=
  ⟨_, .call (.call (.call (.call (.refl _))))⟩

theorem reaches_untilRefused : ∃ rest, Reaches ((routes plainNode anyWallet).code
    (0, .sendOnchain sendRequest)) untilRefused rest :=
  ⟨_, .call (.call (.call (.call (.call (.call (.call (.refl _)))))))⟩

/-- The same request hands over again after the refusal. -/
theorem sendRequest_hands_over_again : ∃ before after, Reachable plainNode anyWallet before ∧
    (routes plainNode anyWallet).Step before after ∧ before.shared.calls = [refusedSend] ∧
      after.shared.calls = before.shared.calls ++
        [⟨1, some sendBinding, sendCall sendRequest, none⟩] := by
  obtain ⟨world, performed, absent, sameCalls⟩ := performed_untilRefused
  obtain ⟨_, refused⟩ := reaches_untilRefused
  obtain ⟨_, inserted⟩ := reaches_untilInsert
  obtain ⟨config, first, rfl, isSecond⟩ : ∃ config,
      (routes plainNode anyWallet).Steps (idle (World.initial ())) config ∧
        config.shared = world ∧ config.tasks.length = 1 :=
    ⟨_, steps_run refused performed, rfl, rfl⟩
  have handed : ∃ after, (routes plainNode anyWallet).effect config.tasks.length
      (config.shared.insert config.tasks.length sendRow).2
      (.handOver (sendCall sendRequest) (some sendBinding) false) (.ok ()) after ∧
      after.calls = config.shared.calls ++
        [⟨config.tasks.length, some sendBinding, sendCall sendRequest, none⟩] :=
    ⟨_, ⟨(), trivial, rfl⟩, rfl⟩
  obtain ⟨_, effect, grown⟩ := handed
  rw [isSecond] at grown
  obtain ⟨before, after, steps, step, sharedBefore, sharedAfter⟩ :=
    exists_step_of_run config inserted (performed_untilInsert absent) effect
  exact ⟨before, after, ⟨(), first.trans steps⟩, step, by rw [sharedBefore]; exact sameCalls,
    by rw [sharedBefore, sharedAfter]; exact grown⟩

/-- The earlier call for the id is proven undispatched, and both are the request's. -/
theorem routes_dispatch_atMostOnce_sendRequest :
    ∃ before after, (routes plainNode anyWallet).Step before after ∧
      before.shared.calls = [refusedSend] ∧ refusedSend.Undispatched ∧
      after.shared.calls = before.shared.calls ++
        [⟨1, some sendBinding, sendCall sendRequest, none⟩] ∧
      (∃ task, before.tasks[0]? = some task ∧
        task.job.2.dispatch plainNode = some (sendCall sendRequest, some sendBinding)) ∧
      ∃ row, before.shared.table.row "send-onchain:a" = some row ∧
        row.request = .sendOnchain "bc1" 5000 none := by
  obtain ⟨before, after, reachable, step, sameCalls, grown⟩ := sendRequest_hands_over_again
  obtain ⟨attributed, permitted, -⟩ :=
    routes_dispatch_atMostOnce plainNode anyWallet before reachable
  have mem : refusedSend ∈ before.shared.calls := by rw [sameCalls]; exact mem_singleton_self _
  obtain ⟨undispatched, row, found, _, sameRequest⟩ :=
    permitted after _ sendBinding step grown rfl
  exact ⟨before, after, step, sameCalls, undispatched _ mem ⟨sendBinding, rfl, rfl⟩, grown,
    attributed _ mem, row, found, sameRequest⟩

end BitSov.Payments
