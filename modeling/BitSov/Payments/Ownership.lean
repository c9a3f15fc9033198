import BitSov.Payments.Routes

namespace BitSov.Payments

open Process Fallible Program MadeCall
open OperationTable

/-!
# Who owns the row of an operation

Only the request whose insert created the row of an id calls the backend for
it, and only that request deletes the row, once, after the backend has
answered that nothing was dispatched.  So every call for an id whose
non-dispatch is not proven belongs to the owner of the id's current row, and
nobody else can become the owner as long as the row exists.
-/

variable {Digest : Type} {wallet : Wallet Digest}

/-- A step that takes nothing over and calls no backend. -/
structure Quiet (before after : World Digest wallet) : Prop where
  rows : ∀ key, RowChange (before.table.row key) (after.table.row key)
  owner : after.owner = before.owner
  calls : after.calls = before.calls

variable (task : Nat) (binding : Binding Digest) (world : World Digest wallet)

theorem Quiet.refl : Quiet world world := ⟨fun _ => .keep _, rfl, rfl⟩

/-- The row of an operation is the one this binding was inserted with. -/
def Recorded (binding : Binding Digest) : Prop :=
  ∃ row, world.table.row binding.key = some row ∧
    row.requestHash = binding.requestHash ∧
    row.request = binding.request

/-- What must hold when a backend call is made for an operation. -/
structure Permitted (world : World Digest wallet) (binding : Binding Digest) : Prop where
  undispatched : ∀ earlier ∈ world.calls, earlier.IsFor binding.key → earlier.Undispatched
  recorded : Recorded world binding

/-- What one step of a task may do. -/
inductive TaskMove (task : Nat) : World Digest wallet → World Digest wallet → Prop
  | quiet {before after : World Digest wallet} : Quiet before after → TaskMove task before after
  | insert {before : World Digest wallet} (op : ChannelOpenOperation Digest) :
    before.table.row op.operationId = none →
    TaskMove task before
      { before with
        table := before.table.put op
        owner := fun key =>
          if key = op.operationId then some task else before.owner key }
  | delete {before : World Digest wallet} (id : String) :
    (∃ row, before.table.row id = some row ∧ row.state = .pending) →
    before.owner id = some task →
    (∀ made ∈ before.calls, made.task = task → made.Undispatched) →
    TaskMove task before
      { before with
        table := before.table.remove id
        owner := fun key =>
          if key = id then none else before.owner key }
  | handOver {before after : World Digest wallet} (binding : Option (Binding Digest))
    (call : MoneyCall) :
    (∀ bound, binding = some bound → Permitted before bound ∧ before.owner bound.key = some task) →
    after.table = before.table →
    after.owner = before.owner →
    after.calls = before.calls ++ [⟨task, binding, call, none⟩] →
    TaskMove task before after
  | answer {before after : World Digest wallet} (reply : Reply) :
    after.table = before.table →
    after.owner = before.owner →
    after.calls = before.calls.map (answered task reply) →
    TaskMove task before after

/-- A row is owned, and calls that may have dispatched are the owner's. -/
structure Sound (world : World Digest wallet) : Prop where
  owned : ∀ key, world.table.row key = none → world.owner key = none
  unproven : ∀ made ∈ world.calls,
    ∀ key, made.IsFor key → ¬ made.Undispatched → world.owner key = some made.task

@[simp] theorem answered_task (reply) (made : MadeCall Digest) :
    (made.answered task reply).task = made.task := by
  unfold answered
  split <;> rfl

@[simp] theorem answered_binding (reply) (made : MadeCall Digest) :
    (made.answered task reply).binding = made.binding := by
  unfold answered
  split <;> rfl

variable {made : MadeCall Digest}

theorem answered_of_ne {task : Nat} (reply)
    (other : made.task ≠ task) : made.answered task reply = made := if_neg fun same => other same.1

theorem undispatched_answered (task reply) (undispatched : made.Undispatched) :
    (made.answered task reply).Undispatched := by
  obtain ⟨error, replied, harmless⟩ := undispatched
  unfold answered
  rw [if_neg (by rw [replied]; simp)]
  exact ⟨error, replied, harmless⟩

theorem rowChange_eq_none_iff {before after : Option (ChannelOpenOperation Digest)}
    (change : RowChange before after) : after = none ↔ before = none := by
  cases change <;> simp

variable {before after : World Digest wallet}

theorem Sound.quiet (sound : Sound before) (quiet : Quiet before after) : Sound after where
  owned key gone := by
    rw [quiet.owner]
    exact sound.owned key ((rowChange_eq_none_iff (quiet.rows key)).mp gone)
  unproven made member key isFor unproven := by
    rw [quiet.owner]
    exact sound.unproven made (quiet.calls ▸ member) key isFor unproven

/-- Every step of a task keeps the table and the calls consistent. -/
theorem Sound.taskMove {task : Nat} (sound : Sound before)
    (move : TaskMove task before after) : Sound after := by
  cases move with
  | quiet quiet => exact sound.quiet quiet
  | insert op absent =>
    refine ⟨fun key gone => ?_, fun made mem key isFor unproven => ?_⟩
    · by_cases same : key = op.operationId
      · rw [same] at gone
        simp at gone
      · rw [row_put_of_ne same] at gone
        simpa [same] using sound.owned key gone
    -- A row that did not exist has no owner and so no unproven call.
    have owned := sound.unproven made mem key isFor unproven
    by_cases same : key = op.operationId
    · rw [same, sound.owned _ absent] at owned
      cases owned
    · simpa [same] using owned
  | delete id _ owner refused =>
    refine ⟨fun key gone => ?_, fun made mem key isFor unproven => ?_⟩
    · by_cases same : key = id
      · simp [same]
      · rw [row_remove_of_ne same] at gone
        simpa [same] using sound.owned key gone
    have owned := sound.unproven made mem key isFor unproven
    by_cases same : key = id
    · rw [same, owner] at owned
      exact absurd (refused made mem (Option.some.inj owned).symm) unproven
    · simpa [same] using owned
  | handOver _ _ permitted sameTable sameOwner sameCalls =>
    refine ⟨fun key gone => ?_, fun made mem key isFor unproven => ?_⟩
    · rw [sameOwner]
      exact sound.owned key (sameTable ▸ gone)
    rw [sameOwner]
    rw [sameCalls, List.mem_append, List.mem_singleton] at mem
    rcases mem with old | rfl
    · exact sound.unproven made old key isFor unproven
    · obtain ⟨bound, found, rfl⟩ := isFor
      exact (permitted bound found).2
  | answer reply sameTable sameOwner sameCalls =>
    refine ⟨fun key gone => ?_, fun made mem key isFor unproven => ?_⟩
    · rw [sameOwner]
      exact sound.owned key (sameTable ▸ gone)
    rw [sameOwner]
    rw [sameCalls, List.mem_map] at mem
    obtain ⟨old, formerMem, rfl⟩ := mem
    obtain ⟨bound, found, sameKey⟩ := isFor
    rw [answered_task]
    rw [answered_binding] at found
    exact sound.unproven old formerMem key ⟨bound, found, sameKey⟩
      fun undispatched => unproven (undispatched_answered task reply undispatched)

section

variable [DecidableEq Digest] (node : Node Digest) (wallet : Wallet Digest)

/-- The promises of all requests. -/
def discipline : Discipline (routes node wallet) where
  invariant := Sound
  moves
    | .task index => TaskMove index
    | .crash _ => Quiet
    | .surroundings => Quiet
  fresh index world := ∀ made ∈ world.calls, made.task ≠ index
  result _ _ _ _ := True

/-- A part of a task does as it is specified. -/
abbrev Obeys (task : Nat) (job : Nat × Job Digest) {α : Type} (pre : World Digest wallet → Prop)
    (part : Program (PayOp Digest) PayOp.Answer α) (post : α → World Digest wallet → Prop) : Prop :=
  ((discipline node wallet).view task job).Triple pre part post

end

/-- The task has made no call. -/
def Uncalled : Prop :=
  ∀ made ∈ world.calls, made.task ≠ task

/-- No call of the task has been answered otherwise than as not dispatched. -/
def Waiting : Prop :=
  ∀ made ∈ world.calls, made.task = task → made.reply = none ∨ made.Undispatched

/-- Nothing was dispatched for the task. -/
def Refused : Prop :=
  ∀ made ∈ world.calls, made.task = task → made.Undispatched

/-- The task has inserted the row of its operation. -/
def Inserted : Prop :=
  world.owner binding.key = some task ∧ Recorded world binding

/-- What steps of others and outcome writes of anybody leave alone. -/
structure Firm (task : Nat) (assertion : World Digest wallet → Prop) : Prop where
  quiet : ∀ before after, Quiet before after → assertion before → assertion after
  others : ∀ other before after,
    other ≠ task → TaskMove other before after → assertion before → assertion after

theorem Firm.and {task : Nat} {first second : World Digest wallet → Prop}
    (firstFirm : Firm task first) (secondFirm : Firm task second) :
    Firm task fun world => first world ∧ second world where
  quiet before after quiet holds := ⟨firstFirm.quiet before after quiet holds.1,
    secondFirm.quiet before after quiet holds.2⟩
  others other before after different move holds :=
    ⟨firstFirm.others other before after different move holds.1,
      secondFirm.others other before after different move holds.2⟩

theorem firm_true : Firm task fun _ : World Digest wallet => True :=
  ⟨fun _ _ _ _ => trivial, fun _ _ _ _ _ _ => trivial⟩

theorem firm_calls (property : MadeCall Digest → Prop) :
    Firm task fun world : World Digest wallet =>
      ∀ made ∈ world.calls, made.task = task → property made where
  quiet before after quiet holds := by
    rw [quiet.calls]
    exact holds
  others other before after different move holds := by
    cases move with
    | quiet quiet =>
      rw [quiet.calls]
      exact holds
    | insert | delete => exact holds
    | handOver _ _ _ _ _ sameCalls =>
      rw [sameCalls]
      intro made mem own
      rw [List.mem_append, List.mem_singleton] at mem
      rcases mem with old | rfl
      · exact holds made old own
      · exact absurd own different
    | answer reply _ _ sameCalls =>
      rw [sameCalls]
      intro made mem own
      obtain ⟨old, formerMem, rfl⟩ := List.mem_map.mp mem
      rw [answered_task] at own
      rw [answered_of_ne reply (by rw [own]; exact different.symm)]
      exact holds old formerMem own

theorem firm_uncalled : Firm task (Uncalled task : World Digest wallet → Prop) := by
  have firm := @firm_calls Digest wallet task fun _ => False
  refine ⟨fun before after quiet holds => ?_, ?_⟩
  · exact firm.quiet before after quiet fun made mem own => holds made mem own
  · intro other before after ne move holds
    exact firm.others other before after ne move fun made mem own => holds made mem own

theorem Recorded.quiet {binding : Binding Digest} (recorded : Recorded before binding)
    (change : RowChange (before.table.row binding.key) (after.table.row binding.key)) :
    Recorded after binding := by
  obtain ⟨row, found, sameHash, sameRequest⟩ := recorded
  rw [found] at change
  generalize stored : after.table.row binding.key = current at change
  cases change with
  | keep => exact ⟨row, stored, sameHash, sameRequest⟩
  | conclude concluded =>
    exact ⟨_, stored, concluded.sameHash.trans sameHash, concluded.sameRequest.trans sameRequest⟩

theorem firm_inserted : Firm task (Inserted task binding : World Digest wallet → Prop) where
  quiet before after quiet holds := ⟨by rw [quiet.owner]; exact holds.1,
    holds.2.quiet (quiet.rows binding.key)⟩
  others other before after different move holds := by
    obtain ⟨owner, recorded⟩ := holds
    obtain ⟨row, found, sameRow⟩ := recorded
    cases move with
    | quiet quiet =>
      exact ⟨by rw [quiet.owner]; exact owner,
        Recorded.quiet ⟨row, found, sameRow⟩ (quiet.rows binding.key)⟩
    | insert op absent =>
      -- The row of this operation exists, so another one was inserted.
      have elsewhere : binding.key ≠ op.operationId := by
        intro same
        rw [← same, found] at absent
        cases absent
      exact ⟨by simpa [elsewhere] using owner,
        ⟨row, by rw [row_put_of_ne elsewhere]; exact found, sameRow⟩⟩
    | delete id _ ownerElse =>
      -- Only its owner deletes a row.
      have elsewhere : binding.key ≠ id := by
        intro same
        rw [← same, owner] at ownerElse
        exact different (Option.some.inj ownerElse).symm
      exact ⟨by simpa [elsewhere] using owner,
        ⟨row, by rw [row_remove_of_ne elsewhere]; exact found, sameRow⟩⟩
    | handOver _ _ _ sameTable sameOwner | answer _ sameTable sameOwner =>
      exact ⟨by rw [sameOwner]; exact owner, ⟨row, by rw [sameTable]; exact found, sameRow⟩⟩

/-- The calls that write outcomes at most. -/
def IsQuiet : PayOp Digest → Prop
  | .insertOperation _ => False
  | .deletePending _ => False
  | .handOver _ _ _ => False
  | .awaitCall _ _ => False
  | .awaitGuarded _ _ => False
  | _ => True

section

variable [DecidableEq Digest] {task : Nat}

theorem Firm.stable (firm : Firm task assertion) :
    ((discipline node wallet).view task job).Stable assertion := by
  rintro before after _ _ ⟨mover, notOwn, _, move⟩ holds
  cases mover with
  | task other =>
    exact firm.others other before after (fun same => notOwn (congrArg Mover.task same)) move holds
  | crash | surroundings => exact firm.quiet before after move holds

theorem quiet_write (world : World Digest wallet) (now : Int) (write) :
    Quiet world (world.write now write).2 := by
  cases write with
  | fenced => exact ⟨rowChange_record _ _ _ _ _ _, rfl, rfl⟩
  | pendingOnly => exact ⟨rowChange_resolve _ _ _ _ _ _, rfl, rfl⟩

variable {op : PayOp Digest}

theorem quiet_of_effect (isQuiet : IsQuiet op) (effect : World.effect task before op answer after) :
    Quiet before after := by
  cases op with
  | insertOperation | deletePending | handOver | awaitCall | awaitGuarded => cases isQuiet
  | getOperation =>
    obtain ⟨rfl, _⟩ := effect
    exact .refl _
  | writeOutcome write =>
    obtain ⟨now, executed⟩ := effect
    cases answer with
    | ok =>
      obtain ⟨_, rfl⟩ := executed
      exact quiet_write before now write
    | error =>
      rcases executed with rfl | rfl
      · exact .refl _
      · exact quiet_write before now write
  | spawn write =>
    subst effect
    exact ⟨fun _ => .keep _, rfl, rfl⟩
  | takeSpawned write =>
    obtain ⟨_, rfl⟩ := effect
    exact ⟨fun _ => .keep _, rfl, rfl⟩
  | getPaymentStatus =>
    cases answer with
    | none =>
      obtain rfl := effect
      exact .refl _
    | some =>
      obtain ⟨_, _, rfl⟩ := effect
      exact ⟨fun _ => .keep _, rfl, rfl⟩
  | now | moneyReady | tryLock | listChannels | fundingFeeQuote | debit | budget
  | settleWindow => obtain rfl := effect; exact .refl _

theorem triple_move {α : Type} {pre : World Digest wallet → Prop}
    {post : Except RouteError α → World Digest wallet → Prop} {cont : op.Answer → PayM Digest α}
    (middle : op.Answer → World Digest wallet → Prop) (firm : Firm task pre)
    (performed : ∀ before answer after, Sound before → pre before →
      World.effect task before op answer after → TaskMove task before after ∧ middle answer after)
    (next : ∀ answer, Obeys node wallet task job (middle answer) (cont answer).run post) :
    Obeys node wallet task job pre (ask op >>= cont).run post :=
  View.triple_call firm.stable (fun before answer after sound holds effect =>
    have moved := performed before answer after sound holds effect
    ⟨Sound.taskMove sound moved.1, moved⟩)
    next

theorem triple_quiet {α : Type} {program : Program (PayOp Digest) PayOp.Answer α}
    (firm : Firm task assertion) (quiet : Performs IsQuiet program) :
    Obeys node wallet task job assertion program fun _ => assertion := by
  induction program with
  | done => exact View.triple_done fun _ _ holds => holds
  | call _ _ ih =>
    refine View.triple_call firm.stable (fun before answer after sound holds effect => ?_)
      fun answer => ih answer (quiet.2 answer)
    have step := quiet_of_effect quiet.1 effect
    exact ⟨Sound.quiet sound step, .quiet step, firm.quiet before after step holds⟩

end

end BitSov.Payments
