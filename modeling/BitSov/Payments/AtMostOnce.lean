import BitSov.Payments.Ownership

namespace BitSov.Payments

open Core Spend Outbox Process Fallible Program Direct ChannelOpen View View.Triple
open OperationTable

/-!
# At most one dispatch for an idempotency id

Answering from a record, reading the backend and writing outcomes are quiet:
they neither insert, delete nor dispatch.  What is left of a route is one
insert, one hand-over by the winner of the insert, and one deletion after a
proven non-dispatch.
-/

variable {Digest : Type} {wallet : Wallet Digest}

section

variable {allowed : PayOp Digest → Prop}

theorem performs_ask_bind {β : Type} {cont : operation.Answer → PayM Digest β}
    (isAllowed : allowed operation) (next : ∀ answer, Performs allowed (cont answer).run) :
    Performs allowed (ask operation >>= cont).run := ⟨isAllowed, next⟩

theorem performs_refuseIf (condition error) :
    Performs allowed (refuseIf condition error : PayM Digest Unit).run := by
  cases condition <;> trivial

section

variable (ready : allowed .moneyReady)
include ready

theorem performs_requireMoneyReady :
    Performs allowed (requireMoneyReady : PayM Digest Unit).run := by
  refine performs_ask_bind ready fun isReady => ?_
  cases isReady <;> trivial

theorem performs_validate (node req) : Performs allowed (Onchain.validate node req).run := by
  refine performs_bind (performs_requireMoneyReady ready) fun _ => ?_
  split
  · trivial
  · split <;> trivial

theorem performs_checkParameters (node req) : Performs allowed (checkParameters node req).run := by
  refine performs_bind (performs_refuseIf _ _) fun _ => ?_
  refine performs_bind (performs_requireMoneyReady ready) fun _ => ?_
  refine performs_bind (performs_refuseIf _ _) fun _ => ?_
  refine performs_bind (performs_refuseIf _ _) fun _ => ?_
  refine performs_bind (performs_refuseIf _ _) fun _ => ?_
  refine performs_bind (performs_refuseIf _ _) fun _ => ?_
  exact performs_bind (performs_refuseIf _ _) fun _ => trivial

end

/-- A replayed channel open reads, and writes no receipt. -/
theorem performs_replayChannelOpen [DecidableEq Digest] (op hash req ownsOperation)
    (lists : allowed .listChannels) (reads : allowed .now ∧ ∀ key, allowed (.getOperation key))
    (writes : ∀ id state result lastError, (∀ receipt, result ≠ some (.direct receipt)) →
      allowed (.writeOutcome (.pendingOnly id state result lastError))) :
    Performs allowed (replayChannelOpen op hash req ownsOperation).run := by
  have settles (channels : Option (List ChannelInfo)) :
    Performs allowed (settleStale op req channels).run := by
    refine performs_ask_bind ?_ fun written => ?_
    · split <;> exact writes _ _ _ _ nofun
    cases written with
    | error => trivial
    | ok =>
      refine performs_ask_bind (reads.2 _) fun found => ?_
      rcases found with _ | (- | _) <;> trivial
  unfold replayChannelOpen
  split
  · trivial
  split
  · trivial
  refine performs_ask_bind lists fun _ => ?_
  refine performs_ask_bind reads.1 fun _ => ?_
  split
  · exact performs_bind (settles _) fun _ => trivial
  · trivial

theorem quiet_known_bind {α β : Type} {value : Except RouteError α} {cont : α → PayM Digest β}
    (next : ∀ result, Performs IsQuiet (cont result).run) :
    Performs IsQuiet (known value >>= cont).run :=
  performs_known_bind_iff.mpr fun result _ => next result

variable (write : OutcomeWrite Digest)

theorem quiet_writeOnce : Performs IsQuiet (writeOnce write).run := by
  refine performs_ask_bind trivial fun written => ?_
  cases written <;> trivial

theorem quiet_retryAfter (delays) : Performs IsQuiet (retryAfter write delays).run := by
  induction delays with
  | nil => trivial
  | cons _ _ ih =>
    refine performs_bind (quiet_writeOnce write) fun _ => ?_
    split
    · trivial
    · exact ih

variable (key : String)

theorem quiet_getOperation : Performs IsQuiet (getOperation key :
      PayM Digest (Option (ChannelOpenOperation Digest))).run := by
  refine performs_ask_bind trivial fun found => ?_
  cases found <;> trivial

variable (ident : Direct.Ident) (expected : ChannelOpenOperation Digest)

theorem quiet_record (state receipt lastError) :
    Performs IsQuiet (record expected state receipt lastError).run := by
  refine performs_bind (quiet_writeOnce _) fun written => ?_
  rcases written with - | (- | -)
  · exact performs_ask_bind trivial fun _ => trivial
  · trivial
  · trivial

theorem quiet_pollSettlement (polls latest) :
    Performs IsQuiet (pollSettlement key polls latest : PayM Digest PaymentDetails).run := by
  induction polls generalizing latest with
  | zero => trivial
  | succ polls ih =>
    refine performs_ask_bind trivial fun _ => ?_
    dsimp only
    split
    · trivial
    · exact ih _

theorem quiet_settleBriefly (initial) :
    Performs IsQuiet (settleBriefly key initial : PayM Digest PaymentDetails).run := by
  unfold settleBriefly
  split
  · trivial
  · exact performs_ask_bind trivial fun _ => quiet_pollSettlement _ _ _

theorem quiet_sameBinding [DecidableEq Digest] :
    Performs IsQuiet (sameBinding ident expected).run := by
  refine performs_bind (quiet_getOperation _) fun found => ?_
  cases found with
  | none => trivial
  | some =>
    dsimp only
    split <;> trivial

theorem quiet_reread [DecidableEq Digest] (op : Dispatch) (expected : ChannelOpenOperation Digest) :
    Performs IsQuiet (reread ident op expected).run := by
  refine performs_bind (quiet_getOperation _) fun found => ?_
  cases found with
  | none => trivial
  | some =>
    dsimp only
    split
    · trivial
    · refine quiet_known_bind fun _ => ?_
      split <;> trivial

theorem quiet_recordOpen (body) : Performs IsQuiet (recordOpen expected body).run := by
  unfold recordOpen
  split
  · exact quiet_record _ _ _ _
  · trivial

theorem quiet_finalWord (template) :
    Performs IsQuiet (finalWord key template : PayM Digest (Option PaymentDetails)).run := by
  unfold finalWord
  split
  · trivial
  refine performs_ask_bind trivial fun reported => ?_
  rcases reported with - | (error | _)
  · trivial
  · trivial
  · dsimp only
    split <;> trivial

theorem quiet_outcomeOf (node ident) (op : Dispatch)
    (expected : ChannelOpenOperation Digest) (details) (replayed : Bool) :
    Performs IsQuiet (outcomeOf node ident op expected details replayed).run := by
  unfold outcomeOf
  split
  · exact performs_bind (quiet_record _ _ _ _) fun _ => trivial
  · exact performs_bind (quiet_record _ _ _ _) fun _ => trivial
  · exact performs_bind (quiet_record _ _ _ _) fun _ => trivial
  · exact performs_bind (quiet_recordOpen _ _) fun _ => trivial
  · exact performs_bind (quiet_recordOpen _ _) fun _ => trivial

theorem quiet_conclude [DecidableEq Digest] (node ident)
    (op : Dispatch) (expected : ChannelOpenOperation Digest) (details) (replayed : Bool) :
    Performs IsQuiet (conclude node ident op expected details replayed).run := by
  refine performs_bind (quiet_outcomeOf _ _ _ _ _ _) ?_
  rintro ⟨recorded, _⟩
  dsimp only
  split
  · trivial
  cases recorded with
  | written => trivial
  | fenceMissed => exact quiet_reread _ _ _
  | failed => exact performs_bind (quiet_sameBinding _ _) fun _ => trivial

theorem quiet_replay [DecidableEq Digest] (node) (row : ChannelOpenOperation Digest)
    (ident) (op : Dispatch) (hash : Digest) :
    Performs IsQuiet (replay node row ident op hash).run := by
  unfold replay
  split
  · trivial
  refine quiet_known_bind fun _ => ?_
  split
  · trivial
  refine performs_bind (quiet_finalWord _ _) fun details => ?_
  cases details with
  | none => trivial
  | some details => exact quiet_conclude _ _ _ _ _ _

theorem quiet_debit (caller op) : Performs IsQuiet (debit caller op : PayM Digest Bool).run := by
  unfold debit
  split
  · split
    · refine performs_ask_bind trivial fun debited => ?_
      cases debited <;> trivial
    · trivial
  · trivial

theorem quiet_recordOutcome : Performs IsQuiet (Onchain.recordOutcome write).run := by
  refine performs_bind (quiet_writeOnce write) fun _ => ?_
  split
  · trivial
  · exact performs_ask_iff.mpr trivial

theorem quiet_readyUnlessRecorded (existing : Option (ChannelOpenOperation Digest)) :
    Performs IsQuiet (readyUnlessRecorded existing).run := by
  cases existing with
  | none => exact performs_requireMoneyReady trivial
  | some => trivial

end

section

variable [DecidableEq Digest] {node : Node Digest} {task : Nat} {job : Nat × Job Digest}
  {α β : Type}
  {assertion : World Digest wallet → Prop} {before after : World Digest wallet}
  {binding : Option (Binding Digest)} {bound : Binding Digest}

/-- Nothing is promised about what a request returns. -/
abbrev anything (_ : α) (_ : World Digest wallet) : Prop :=
  True

theorem triple_end {program : Program (PayOp Digest) PayOp.Answer α}
    (quiet : Performs IsQuiet program) : Obeys node wallet task job assertion program anything :=
  (triple_quiet (firm_true task) quiet).weaken (fun _ _ _ => trivial) fun _ _ _ _ => trivial

/-- What holds if a program succeeds. -/
def onSuccess (middle : α → World Digest wallet → Prop) (outcome : Except RouteError α)
    (world : World Digest wallet) : Prop :=
  ∀ result, outcome = .ok result → middle result world

variable {first : PayM Digest α} {cont : α → PayM Digest β}

theorem triple_then (middle)
    (specified : Obeys node wallet task job pre first.run (onSuccess middle))
    (next : ∀ result, Obeys node wallet task job (middle result) (cont result).run anything) :
    Obeys node wallet task job pre (first >>= cont).run anything :=
  triple_bind (specified.weaken (fun _ _ holds => holds) fun outcome _ _ holds => by
    cases outcome with
    | ok result => exact holds result rfl
    | error error => trivial)
    next

theorem triple_quiet_bind (firm : Firm task assertion) (quiet : Performs IsQuiet first.run)
    (next : ∀ result, Obeys node wallet task job assertion (cont result).run anything) :
    Obeys node wallet task job assertion (first >>= cont).run anything :=
  triple_then (fun _ => assertion)
    ((triple_quiet firm quiet).weaken (fun _ _ holds => holds) fun _ _ _ holds _ _ => holds)
    next

theorem triple_quiet_ask {cont : operation.Answer → PayM Digest β} (firm : Firm task assertion)
    (isQuiet : IsQuiet operation) (next : ∀ answer, Obeys node wallet task job assertion
      (cont answer).run anything) : Obeys node wallet task job assertion
      (ask operation >>= cont).run anything :=
  triple_move (fun _ => assertion) firm (fun before _ after _ holds effect =>
    have quiet := quiet_of_effect isQuiet effect
    ⟨.quiet quiet, firm.quiet before after quiet holds⟩)
    next

variable {op : ChannelOpenOperation Digest} {answer : Except String Bool}

omit [DecidableEq Digest] in
/-- An insert makes its task the owner, or changes nothing. -/
theorem taskMove_insert (executed : World.Executes before after (before.insert task op) answer) :
    TaskMove task before after ∧ (answer = .ok true →
      Inserted task ⟨op.operationId, op.requestHash, op.request⟩ after) ∧
      after.calls = before.calls := by
  have statement : (∃ row, before.table.row op.operationId = some row ∧
    before.insert task op = (false, before)) ∨
    (before.table.row op.operationId = none ∧ before.insert task op = (true,
      { before with
        table := before.table.put op
        owner := fun key =>
          if key = op.operationId then some task
          else
            before.owner key })) := by
    unfold World.insert insertChannelOpenOperation
    cases found : before.table.row op.operationId with
    | none => exact .inr ⟨rfl, by simp⟩
    | some row => exact .inl ⟨row, rfl, by simp⟩
  have inserted : Inserted task ⟨op.operationId, op.requestHash, op.request⟩
    { before with
      table := before.table.put op
      owner := fun key =>
        if key = op.operationId then some task else before.owner key } :=
    ⟨if_pos rfl, op, row_put_self _ _, rfl, rfl⟩
  rcases statement with ⟨row, found, same⟩ | ⟨absent, same⟩
  · rw [same] at executed
    cases answer with
    | ok =>
      obtain ⟨rfl, rfl⟩ := executed
      exact ⟨.quiet (.refl _), (by simp), rfl⟩
    | error => rcases executed with rfl | rfl <;> exact ⟨.quiet (.refl _), (by simp), rfl⟩
  rw [same] at executed
  cases answer with
  | ok =>
    obtain ⟨rfl, rfl⟩ := executed
    exact ⟨.insert op absent, fun _ => inserted, rfl⟩
  | error =>
    rcases executed with rfl | rfl
    · exact ⟨.quiet (.refl _), (by simp), rfl⟩
    · exact ⟨.insert op absent, (by simp), rfl⟩

omit [DecidableEq Digest] in
/-- The owner of a row may delete it after a proven non-dispatch. -/
theorem taskMove_delete {id : String} (owner : before.owner id = some task)
    (refused : Refused task before)
    (executed : World.Executes before after (before.delete id) answer) :
    TaskMove task before after := by
  have statement : before.delete id = (false, before) ∨ ((∃ row,
    before.table.row id = some row ∧ row.state = .pending) ∧
    before.delete id = (true,
      { before with
        table := before.table.remove id
        owner := fun key =>
          if key = id then none else before.owner key })) := by
    unfold World.delete deletePendingChannelOpenOperation
    cases found : before.table.row id with
    | none => exact .inl (by simp)
    | some row =>
      by_cases isPending : row.state = .pending
      · exact .inr ⟨⟨row, rfl, isPending⟩, by simp [isPending]⟩
      · exact .inl (by simp [isPending])
  rcases statement with same | ⟨pending, same⟩
  · rw [same] at executed
    cases answer with
    | ok =>
      obtain ⟨_, rfl⟩ := executed
      exact .quiet (.refl _)
    | error => rcases executed with rfl | rfl <;> exact .quiet (.refl _)
  rw [same] at executed
  cases answer with
  | ok =>
    obtain ⟨_, rfl⟩ := executed
    exact .delete id pending owner refused
  | error =>
    rcases executed with rfl | rfl
    · exact .quiet (.refl _)
    · exact .delete id pending owner refused

/-- What a request knows when it hands its call over. -/
def Entitled (task : Nat) (binding : Option (Binding Digest)) (world : World Digest wallet) :
    Prop :=
  (∀ bound, binding = some bound → Inserted task bound world) ∧ Uncalled task world

/-- What a request knows once nothing was dispatched for it. -/
def Released (task : Nat) (binding : Option (Binding Digest)) (world : World Digest wallet) :
    Prop :=
  (∀ bound, binding = some bound → Inserted task bound world) ∧ Refused task world

omit [DecidableEq Digest] in
theorem firm_bound (task binding) : Firm task fun world : World Digest wallet =>
      ∀ bound, binding = some bound → Inserted task bound world where
  quiet before after quiet holds bound same :=
    (firm_inserted task bound).quiet before after quiet (holds bound same)
  others other before after different move holds bound same :=
    (firm_inserted task bound).others other before after different move (holds bound same)

omit [DecidableEq Digest] in
theorem firm_entitled (task binding) :
    Firm task (Entitled task binding : World Digest wallet → Prop) :=
  (firm_bound task binding).and (firm_uncalled task)

omit [DecidableEq Digest] in
theorem firm_released (task binding) :
    Firm task (Released task binding : World Digest wallet → Prop) :=
  (firm_bound task binding).and (firm_calls task MadeCall.Undispatched)

variable {world : World Digest wallet}

omit [DecidableEq Digest] in
/-- A request that has called nobody has dispatched nothing. -/
theorem Entitled.released (entitled : Entitled task binding world) : Released task binding world :=
  ⟨entitled.1, fun made mem own => absurd own (entitled.2 made mem)⟩

omit [DecidableEq Digest] in
/-- Nobody else has a call for the operation of an entitled request. -/
theorem Entitled.permitted (entitled : Entitled task (some bound) world) (sound : Sound world) :
    Permitted world bound ∧ world.owner bound.key = some task := by
  obtain ⟨owner, recorded⟩ := entitled.1 bound rfl
  refine ⟨⟨fun prior mem isFor => ?_, recorded⟩, owner⟩
  by_contra unproven
  have owned := sound.unproven prior mem bound.key isFor unproven
  rw [owner] at owned
  exact entitled.2 prior mem (Option.some.inj owned).symm

/-- The task waits for the answer to its call. -/
def Handed (task : Nat) (binding : Option (Binding Digest)) (world : World Digest wallet) : Prop :=
  (∀ bound, binding = some bound → Inserted task bound world) ∧ Waiting task world

omit [DecidableEq Digest] in
theorem firm_handed (task binding) : Firm task (Handed task binding : World Digest wallet → Prop) :=
  (firm_bound task binding).and (firm_calls task fun made => made.reply = none ∨ made.Undispatched)

/-- The state of the operation after the answer. -/
def AfterHandOver (task : Nat) (binding : Option (Binding Digest))
    (answer : Except BudgetRefusal Unit) (world : World Digest wallet) : Prop :=
  match answer with
  | .ok _ => Handed task binding world
  | .error _ => Released task binding world

variable {call : MoneyCall}

theorem taskMove_handOver {answer : Except BudgetRefusal Unit}
    (sound : Sound before) (entitled : Entitled task binding before)
    (effect : World.effect task before (.handOver call binding metered) answer after) :
    TaskMove task before after ∧ AfterHandOver task binding answer after := by
  cases answer with
  | error =>
    obtain ⟨_, rfl⟩ := effect
    exact ⟨.quiet (.refl _), entitled.released⟩
  | ok =>
    obtain ⟨_, _, rfl⟩ := effect
    refine ⟨.handOver binding call ?_ rfl rfl rfl, entitled.1, ?_⟩
    · rintro _ rfl
      exact entitled.permitted sound
    intro made mem own
    rcases List.mem_append.mp mem with old | new
    · exact absurd own (entitled.2 made old)
    · rw [List.mem_singleton.mp new]
      exact .inl rfl

omit [DecidableEq Digest] in
/-- The answer to a call that is awaited. -/
theorem taskMove_answered {answer : Except LightningError call.Result}
    (handed : Handed task binding before)
    (answered : World.Answered before task call binding answer after) :
    TaskMove task before after ∧ ∀ error, answer = .error error →
      notDispatched error → Released task binding after := by
  obtain ⟨_, _, rfl⟩ := answered
  refine ⟨.answer (replyOf answer) rfl rfl rfl,
    fun error same harmless => ⟨handed.1, fun _ mem own => ?_⟩⟩
  obtain ⟨old, formerMem, rfl⟩ := List.mem_map.mp mem
  rw [answered_task] at own
  rcases handed.2 old formerMem own with unanswered | undispatched
  · rw [MadeCall.answered, if_pos ⟨own, unanswered⟩]
    exact ⟨error, by rw [same]; rfl, harmless⟩
  · exact undispatched_answered task _ undispatched

/-- What is known after a guarded backend call. -/
def AfterDispatch (task : Nat) (binding : Option (Binding Digest)) {call : MoneyCall}
    (outcome : Direct.Guarded call) (world : World Digest wallet) : Prop :=
  match outcome with
  | .refused _ => Released task binding world
  | .unresolved => True
  | .answered (.ok _) => True
  | .answered (.error error) => notDispatched error = true → Released task binding world

/-- The guarded call of an entitled request. -/
theorem triple_dispatch (metered binding call) : Obeys node wallet task job (Entitled task binding)
      (dispatch metered binding call).run (onSuccess (AfterDispatch task binding)) := by
  refine triple_move (AfterHandOver task binding) (firm_entitled task binding)
    (fun _ answer _ sound entitled effect => taskMove_handOver sound entitled effect)
    fun answer => ?_
  cases answer with
  | error =>
    exact triple_pure fun _ _ released _ same => by
      cases same
      exact released
  | ok =>
    have finished {world : World Digest wallet} {reply : Except LightningError call.Result}
      (known : ∀ error, reply = .error error → notDispatched error → Released task binding world) :
      AfterDispatch task binding (.answered reply) world := by
      cases reply with
      | ok => trivial
      | error error => exact known error rfl
    cases metered with
    | true =>
      refine triple_move (fun answer world =>
        ∀ reply, answer = some reply → AfterDispatch task binding (.answered reply) world)
        (firm_handed task binding)
        (fun _ answer _ sound handed effect => ?_)
        fun answer => ?_
      · cases answer with
        | none =>
          obtain rfl := effect
          exact ⟨.quiet (.refl _), by simp⟩
        | some reply =>
          obtain ⟨moved, released⟩ := taskMove_answered handed effect
          refine ⟨moved, fun _ same => ?_⟩
          cases same
          exact finished released
      · cases answer with
        | none =>
          exact triple_pure fun _ _ _ _ same => by
            cases same
            trivial
        | some reply =>
          exact triple_pure fun _ _ holds _ same => by
            cases same
            exact holds reply rfl
    | false =>
      refine triple_move (fun reply world => AfterDispatch task binding (.answered reply) world)
        (firm_handed task binding)
        (fun _ answer _ sound handed effect => ?_)
        fun answer => triple_pure fun _ _ holds _ same => by
          cases same
          exact holds
      obtain ⟨moved, released⟩ := taskMove_answered handed effect
      exact ⟨moved, finished released⟩

/-- What is known after an unguarded backend call. -/
def AfterCall (task : Nat) (binding : Option (Binding Digest)) {result : Type}
    (reply : Except LightningError result) (world : World Digest wallet) : Prop :=
  ∀ error, reply = .error error → notDispatched error = true → Released task binding world

theorem triple_callBackend (binding call) : Obeys node wallet task job (Entitled task binding)
      (callBackend binding call).run (onSuccess (AfterCall task binding)) := by
  refine triple_move (AfterHandOver task binding) (firm_entitled task binding)
    (fun _ answer _ sound entitled effect => taskMove_handOver sound entitled effect)
    fun answer => ?_
  cases answer with
  | error => exact triple_known nofun
  | ok =>
    refine triple_ask (firm_handed task binding).stable fun _ _ _ sound handed effect => ?_
    obtain ⟨moved, released⟩ := taskMove_answered handed effect
    refine ⟨Sound.taskMove sound moved, moved, fun _ same => ?_⟩
    cases same
    exact released

variable {cont : Except String Bool → PayM Digest β}

theorem triple_delete_bind (next : ∀ answer, Performs IsQuiet (cont answer).run) :
    Obeys node wallet task job (Released task (some bound))
      (ask (PayOp.deletePending bound.key) >>= cont).run anything :=
  triple_move (fun _ _ => True) (firm_released task (some bound)) (fun _ _ _ _ released effect =>
    ⟨taskMove_delete (released.1 bound rfl).1 released.2 effect, trivial⟩)
    fun answer => triple_end (next answer)

theorem triple_release_bind {cont : Unit → PayM Digest β} (next : Performs IsQuiet (cont ()).run) :
    Obeys node wallet task job (Released task (some bound))
      (release bound.key >>= cont).run anything := by
  rw [release, bind_assoc]
  exact triple_delete_bind fun _ => next

theorem triple_insert (won : Obeys node wallet task job
    (Entitled task (some ⟨op.operationId, op.requestHash, op.request⟩))
    (cont (.ok true)).run anything) (lost : Performs IsQuiet (cont (.ok false)).run)
    (failed : ∀ reason, Performs IsQuiet (cont (.error reason)).run) :
    Obeys node wallet task job (Uncalled task)
      (ask (PayOp.insertOperation op) >>= cont).run anything := by
  refine triple_move (fun answer world =>
    answer = .ok true → Entitled task (some ⟨op.operationId, op.requestHash, op.request⟩) world)
    (firm_uncalled task)
    (fun _ answer _ _ uncalled effect => ?_)
    fun answer => ?_
  · obtain ⟨moved, inserted, sameCalls⟩ := taskMove_insert effect
    refine ⟨moved, fun isTrue => ⟨?_, ?_⟩⟩
    · rintro _ ⟨⟩
      exact inserted isTrue
    · intro made mem
      exact uncalled made (sameCalls ▸ mem)
  rcases answer with reason | (- | -)
  · exact triple_end (failed reason)
  · exact triple_end lost
  · exact won.of_pre fun _ _ entitled => entitled rfl

theorem triple_runFresh (ident : Direct.Ident) (op : Dispatch)
    (pending : ChannelOpenOperation Digest) (caller) (call : MoneyCall)
    (details) (sameKey : pending.operationId = ident.key) : Obeys node wallet task job
      (Entitled task (some ⟨pending.operationId, pending.requestHash, pending.request⟩))
      (runFresh node ident op pending (debit caller op) call details).run anything := by
  rw [sameKey]
  refine triple_quiet_bind (firm_entitled task _)
    (performs_attempt (quiet_debit caller op)) fun debited => ?_
  cases debited with
  | error =>
    refine of_pre ?_ fun _ _ entitled => Entitled.released entitled
    exact triple_release_bind trivial
  | ok metered =>
    refine triple_then _ (triple_dispatch metered _ call) fun outcome => ?_
    rcases outcome with _ | - | (error | _)
    · exact triple_quiet_ask (firm_released task _) trivial fun _ => triple_release_bind trivial
    · exact triple_end (performs_bind (quiet_record _ _ _ _) fun _ => trivial)
    · dsimp only
      cases harmless : notDispatched error with
      | true =>
        refine of_pre ?_ fun _ _ released => released harmless
        exact triple_quiet_ask (firm_released task _) trivial fun _ => triple_release_bind trivial
      | false => exact triple_end (performs_bind (quiet_record _ _ _ _) fun _ => trivial)
    · exact triple_end (performs_bind (quiet_settleBriefly _ _) fun _ =>
        performs_ask_bind trivial fun _ => quiet_conclude _ _ _ _ _ _)

theorem triple_run (route caller requestId)
    (prepare : Except RouteError Dispatch) (send : Dispatch → MoneyCall) (details) :
    Obeys node wallet task job (Uncalled task)
      (run node route caller requestId prepare (debit caller) send details).run anything := by
  refine triple_quiet_bind (firm_uncalled task) (quiet_getOperation _) fun existing => ?_
  refine triple_quiet_bind (firm_uncalled task) (quiet_readyUnlessRecorded _) fun _ => ?_
  refine triple_known_bind fun _ _ => ?_
  cases existing with
  | some => exact triple_end (quiet_replay _ _ _ _ _)
  | none =>
    refine triple_quiet_ask (firm_uncalled task) trivial fun _ => ?_
    refine triple_insert ?_ ?_ fun _ => trivial
    · exact triple_runFresh _ _ _ _ _ _ rfl
    refine performs_bind (quiet_getOperation _) fun found => ?_
    cases found with
    | none => trivial
    | some => exact quiet_replay _ _ _ _ _

theorem triple_onchainDispatch (binding req) : Obeys node wallet task job (Entitled task binding)
      (Onchain.dispatch binding req).run (onSuccess (AfterCall task binding)) := by
  refine triple_bind ((triple_callBackend binding _).weaken (fun _ _ holds => holds)
    fun outcome _ _ (holds : onSuccess (AfterCall task binding) _ _) => ?_)
    fun reply => triple_pure fun world _ (holds : AfterCall task binding reply world) => ?_
  · cases outcome with
    | ok result => exact holds result rfl
    | error error => exact nofun
  intro result same error isError harmless
  cases same
  cases reply with
  | ok => cases isError
  | error =>
    cases isError
    exact holds error rfl harmless

theorem triple_onchainRun (req requestId) : Obeys node wallet task job (Uncalled task)
      (Onchain.run node req requestId).run anything := by
  unfold Onchain.run
  split
  · exact triple_end trivial
  refine triple_quiet_ask (firm_uncalled task) trivial fun found => ?_
  rcases found with _ | (- | _)
  · exact triple_end trivial
  · refine triple_quiet_bind (firm_uncalled task) (performs_validate trivial node req) fun _ => ?_
    refine triple_quiet_ask (firm_uncalled task) trivial fun _ => ?_
    refine triple_insert ?_ ?_ fun _ => trivial
    · refine triple_then _ (triple_onchainDispatch _ req) fun reply => ?_
      cases reply with
      | ok => exact triple_end (performs_bind (quiet_recordOutcome _) fun _ => trivial)
      | error error =>
        dsimp only
        cases harmless : notDispatched error with
        | true =>
          refine of_pre ?_ fun _ _ released => released error rfl harmless
          exact triple_delete_bind fun _ => trivial
        | false => exact triple_end (performs_bind (quiet_recordOutcome _) fun _ => trivial)
    · refine performs_ask_bind trivial fun again => ?_
      rcases again with _ | (- | _) <;> trivial
  · exact triple_end trivial

theorem triple_onchainSend (req) : Obeys node wallet task job (Uncalled task)
    (Onchain.send node req).run anything := by
  unfold Onchain.send
  split
  · exact triple_onchainRun req _
  refine triple_quiet_bind (firm_uncalled task) (performs_validate trivial node req) fun _ => ?_
  refine triple_then _
    ((triple_onchainDispatch none req).of_pre fun _ _ uncalled => ⟨by simp, uncalled⟩)
    fun reply => ?_
  cases reply <;> exact triple_end trivial

theorem triple_openChannel (binding req options pushMsat) :
    Obeys node wallet task job (Entitled task binding)
      (openChannel binding req options pushMsat).run (onSuccess (AfterCall task binding)) := by
  unfold openChannel
  split <;> exact triple_callBackend binding _

variable (req : ChannelOpen.OpenChannelRequest)

theorem triple_openRecorded (options pushMsat binding) :
    Obeys node wallet task job (Entitled task (some binding))
      (openRecorded req options pushMsat binding).run anything := by
  refine triple_then _ (triple_openChannel _ req options pushMsat) ?_
  intro reply
  cases reply with
  | ok => exact triple_end (performs_ask_bind trivial fun _ => trivial)
  | error error =>
    dsimp only
    cases harmless : notDispatched error with
    | true =>
      refine of_pre ?_ fun _ _ released => released error rfl harmless
      exact triple_delete_bind fun _ => trivial
    | false => exact triple_end (performs_ask_bind trivial fun _ => trivial)

theorem triple_checkAndOpen (operation) : Obeys node wallet task job (Uncalled task)
      (checkAndOpen node req operation).run anything := by
  refine triple_quiet_bind (firm_uncalled task) (performs_checkParameters trivial node req)
    fun pushMsat => ?_
  split
  · refine triple_end (performs_ask_bind trivial fun quote => ?_)
    cases quote <;> trivial
  rcases operation with - | ⟨_, binding⟩
  · refine triple_then _
      ((triple_openChannel none req _ pushMsat).of_pre fun _ _ uncalled => ⟨by simp, uncalled⟩)
      fun reply => ?_
    cases reply <;> exact triple_end trivial
  refine triple_quiet_ask (firm_uncalled task) trivial fun _ => ?_
  refine triple_insert ?_ ?_ fun _ => trivial
  · exact triple_openRecorded req _ pushMsat binding
  refine performs_ask_bind trivial fun found => ?_
  rcases found with _ | (- | _)
  · trivial
  · trivial
  · exact performs_replayChannelOpen _ _ _ _ trivial ⟨trivial, fun _ => trivial⟩
      fun _ _ _ _ _ => trivial

theorem triple_runChannelOpen : Obeys node wallet task job (Uncalled task)
    (runChannelOpen node req).run anything := by
  unfold runChannelOpen
  split
  · exact triple_checkAndOpen req none
  split
  · exact triple_end trivial
  split
  · exact triple_end trivial
  refine triple_quiet_ask (firm_uncalled task) trivial fun locked => ?_
  cases locked with
  | error error => exact triple_end trivial
  | ok =>
    refine triple_quiet_ask (firm_uncalled task) trivial fun found => ?_
    rcases found with _ | (- | _)
    · exact triple_end trivial
    · dsimp only
      split
      · exact triple_checkAndOpen req _
      · exact triple_end trivial
    · exact triple_end (performs_replayChannelOpen _ _ _ _ trivial
        ⟨trivial, fun _ => trivial⟩ fun _ _ _ _ _ => trivial)

/-- Every job keeps the promises of the routes. -/
theorem triple_code (job) : Obeys node wallet task job (Uncalled task)
    ((routes node wallet).code job) anything := by
  have returned {γ : Type} {program : Program (PayOp Digest) PayOp.Answer γ}
    {answer : γ → RouteAnswer}
    (specified : Obeys node wallet task job (Uncalled task) program anything) :
    Obeys node wallet task job (Uncalled task)
      (program >>= fun outcome => .done (answer outcome)) anything :=
    specified.bind fun _ => triple_done fun _ _ _ => trivial
  obtain ⟨_, request⟩ := job
  cases request with
  | pay _ req =>
    refine returned ?_
    unfold payInvoice
    split
    · exact triple_end trivial
    split
    · exact triple_end trivial
    · refine triple_known_bind fun _ _ => ?_
      exact triple_run _ _ _ _ _ _
  | keysend _ req =>
    refine returned ?_
    unfold keysend
    split
    · exact triple_end trivial
    split
    · exact triple_end trivial
    split
    · exact triple_end trivial
    split
    · exact triple_end trivial
    · refine triple_known_bind fun _ _ => ?_
      exact triple_run _ _ _ _ _ _
  | sendOnchain req => exact returned (triple_onchainSend req)
  | openChannel req => exact returned (triple_runChannelOpen req)
  | retry write =>
    exact returned (triple_end
      (performs_ask_bind trivial fun _ => quiet_retryAfter write retryDelays))

end

section

variable [DecidableEq Digest] {node : Node Digest}

theorem discipline_kept : (discipline node wallet).Kept where
  cancel index before after sound dropped := by
    obtain rfl := dropped
    exact ⟨sound, .quiet (.refl _)⟩
  crash process before after sound crashed := by
    obtain ⟨spawned, _, rfl⟩ := crashed
    have quiet : Quiet before { before with spawned } := ⟨fun _ => .keep _, rfl, rfl⟩
    exact ⟨Sound.quiet sound quiet, quiet⟩
  ambient before after sound moved := by
    obtain ⟨state, _, rfl⟩ := moved
    have quiet : Quiet before { before with wallet := state } := ⟨fun _ => .keep _, rfl, rfl⟩
    exact ⟨Sound.quiet sound quiet, quiet⟩
  fresh mover index before after different _ move uncalled := by
    have firm := @firm_uncalled Digest wallet index
    cases mover with
    | task other =>
      exact firm.others other before after
        (fun same => different (congrArg Mover.task same)) move uncalled
    | crash | surroundings => exact firm.quiet before after move uncalled
  result _ _ _ _ _ _ _ _ _ := trivial
  code index job := triple_code job

/-- A node whose table is empty and that has called nobody. -/
def World.initial (state : wallet.State) : World Digest wallet where
  table := .empty
  owner _ := none
  calls := []
  spawned := []
  wallet := state

/-- The snapshots the routes can reach on a new table. -/
def Reachable (node : Node Digest) (wallet : Wallet Digest)
    (config : Config (Nat × Job Digest) (World Digest wallet) (PayOp Digest)
      PayOp.Answer RouteAnswer) :
    Prop :=
  ∃ state, (routes node wallet).Steps (Machine.idle (World.initial state)) config

theorem Reachable.holds (reachable : Reachable node wallet config) :
    (discipline node wallet).Holds config := by
  obtain ⟨_, steps⟩ := reachable
  refine Discipline.holds_of_steps discipline_kept
    (Discipline.holds_idle ⟨fun _ _ => rfl, ?_⟩ ?_) steps
  · intro _ mem
    simp [World.initial] at mem
  · intro _ _ mem
    simp [World.initial] at mem

variable {before after : World Digest wallet}

theorem calls_of_moves (moved : (discipline node wallet).moves mover before after)
    (grown : after.calls = before.calls ++ [made]) :
    ∀ binding, made.binding = some binding → Permitted before binding := by
  have notLonger : before.calls ≠ before.calls ++ [made] := by
    intro same
    simpa using congrArg List.length same
  have notQuiet : ¬ Quiet before after := fun quiet => notLonger (quiet.calls.symm.trans grown)
  cases mover with
  | crash | surroundings => exact absurd moved notQuiet
  | task =>
    cases moved with
    | quiet quiet => exact absurd quiet notQuiet
    | insert | delete => exact absurd grown notLonger
    | handOver _ _ permitted _ _ sameCalls =>
      rw [sameCalls] at grown
      obtain rfl : _ = made := by simpa using grown
      exact fun bound found => (permitted bound found).1
    | answer _ _ _ sameCalls =>
      have sameLength := congrArg List.length (sameCalls.symm.trans grown)
      simp at sameLength

variable {key : String} {row : ChannelOpenOperation Digest}

theorem opened_of_moves (moved : (discipline node wallet).moves mover before after)
    (found : before.table.row key = some row) (opened : row.state = .opened) :
    after.table.row key = some row := by
  have ofQuiet (quiet : Quiet before after) : after.table.row key = some row := by
    have change := quiet.rows key
    rw [found] at change
    generalize stored : after.table.row key = current at change
    cases change with
    | keep => rfl
    | conclude concluded => exact absurd opened concluded.unfinished
  cases mover with
  | crash | surroundings => exact ofQuiet moved
  | task =>
    cases moved with
    | quiet quiet => exact ofQuiet quiet
    | insert _ absent =>
      rw [row_put_of_ne (by rintro rfl; rw [found] at absent; cases absent)]
      exact found
    | delete _ pending =>
      obtain ⟨stored, storedFound, isPending⟩ := pending
      rw [row_remove_of_ne]
      · exact found
      rintro rfl
      rw [found] at storedFound
      cases storedFound
      rw [opened] at isPending
      cases isPending
    | handOver _ _ _ sameTable | answer _ sameTable =>
      rw [sameTable]
      exact found

theorem opened_of_steps {first last :
      Config (Nat × Job Digest) (World Digest wallet) (PayOp Digest) PayOp.Answer RouteAnswer}
    (reachable : Reachable node wallet first)
    (steps : (routes node wallet).Steps first last) (found : first.shared.table.row key = some row)
    (opened : row.state = .opened) : last.shared.table.row key = some row := by
  have holds := reachable.holds
  induction steps with
  | refl => exact found
  | tail prior step ih =>
    have holdsBefore := Discipline.holds_of_steps discipline_kept holds prior
    rcases (holdsBefore.step discipline_kept step).2 with
      same | ⟨_, moved⟩
    · rw [same]
      exact ih
    · exact opened_of_moves moved ih opened

end

end BitSov.Payments
