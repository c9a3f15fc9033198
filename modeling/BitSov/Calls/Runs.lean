import BitSov.Calls.Moves
import Mathlib.Data.Set.Card
import Mathlib.Order.Interval.Finset.Nat

namespace BitSov.Calls

open Arithmetic CallEntry Option Set

/-!
# Runs of the rules on one call

Media is admitted for at most seventy seconds a block that was applied, blocks
are applied strictly in sequence, and an explicit hangup is final.
-/

section

variable {nowMs : Nat} {entry : CallEntry} {before : Call} {blocks : Nat}

/-- The instants from now on at which an entry admits media. -/
def window (nowMs : Nat) (entry : Option CallEntry) : Set Nat :=
  { instant | nowMs ≤ instant ∧ entry.any (·.mediaAdmitted instant) }

/-- The number of blocks that timed rules apply. -/
def blocksOf : Option CallEntry → List (Nat × CallRule) → Nat
  | _, [] => 0
  | entry, (nowMs, rule) :: rest =>
    rule.blocks entry nowMs + blocksOf (rule.perform entry nowMs) rest

/--
The instants at which media is admitted in a run, from a start on.  An entry
is current up to and including the instant of the next rule, the last one
for ever.
-/
def admittedInstants : Option CallEntry → Nat → List (Nat × CallRule) → Set Nat
  | entry, startMs, [] => window startMs entry
  | entry, startMs, (nowMs, rule) :: rest =>
    { instant ∈ window startMs entry | instant ≤ nowMs } ∪
      admittedInstants (rule.perform entry nowMs) nowMs rest

/-- Nothing is paid before the call is live. -/
def Unpaid (entry : Option CallEntry) : Prop :=
  ∀ current ∈ entry, current.phase = .reserved ∨ current.phase = .ringing →
    current.paidUntilMs = none

/-- Sixty seconds and ten seconds of grace. -/
def spanMs : Nat := callBlockMs + callBlockGraceMs

theorem encard_Icc_le (first) : (Set.Icc first (first + spanMs)).encard ≤ 70001 := by
  rw [← Finset.coe_Icc, encard_coe_eq_coe_finsetCard, Nat.card_Icc, Nat.add_assoc,
    Nat.add_sub_cancel_left]
  exact le_rfl

theorem Opened.unpaid (opened : Opened nowMs entry) : entry.paidUntilMs = none := by
  cases opened <;> rfl

theorem mem_window : instant ∈ window nowMs (some entry) ↔ nowMs ≤ instant ∧ entry.phase = .live ∧
      ∃ untilMs, entry.paidUntilMs = some untilMs ∧ instant ≤ plus untilMs callBlockGraceMs := by
  simp [window, mediaAdmitted, any_eq_true]

theorem window_of_unpaid (unpaid : entry.paidUntilMs = none) : window nowMs (some entry) = ∅ := by
  simp [eq_empty_iff_forall_notMem, mem_window, unpaid]

theorem encard_sdiff_le {first second : Set Nat} (covered : first ⊆ second) (bound) :
    (first \ second).encard ≤ bound := by
  rw [sdiff_eq_empty.mpr covered, encard_empty]
  exact zero_le

theorem Move.unpaid (move : Move nowMs blocks before after) (unpaid : Unpaid before.entry) :
    Unpaid after.entry := by
  cases move with
  | forgotten => rintro _ ⟨⟩
  | rung reserved =>
    have early := unpaid _ rfl (.inl reserved)
    rintro _ ⟨⟩ -
    exact early
  | applied ok =>
    obtain ⟨-, -, _, _, -, rfl, -⟩ := applyBlock_ok ok
    rintro _ ⟨⟩ early
    exact absurd early (by simp [grantBlock])
  | marked | markedBlock | markedNotice | cleared | withdrawn | terminated | noticed =>
    have early := unpaid _ rfl
    rintro _ ⟨⟩ phase
    exact early phase
  | expired | lapsed | answered | hungUp | received =>
    rintro _ ⟨⟩ early
    exact absurd early (by simp [CallEntry.expire, CallEntry.answered])

theorem window_applyBlock {seq : Nat} (ok : applyBlock entry seq nowMs = .ok next) :
    ∃ first, window nowMs (some next) \ window nowMs (some entry) ⊆
      Set.Icc first (first + spanMs) := by
  obtain ⟨-, -, _, startMs, -, rfl, timing⟩ := applyBlock_ok ok
  have within {instant : Nat}
    (admitted : instant ∈ window nowMs (some (grantBlock entry seq startMs))) :
    nowMs ≤ instant ∧ instant ≤ startMs + spanMs ∧ instant ≤ u64Max := by
    obtain ⟨later, -, untilMs, paid, bound⟩ := mem_window.mp admitted
    obtain rfl : plus startMs callBlockMs = untilMs := some.inj paid
    refine ⟨later, ?_, bound.trans (Nat.min_le_right _ _)⟩
    rw [spanMs, ← Nat.add_assoc]
    exact bound.trans ((plus_le _ _).trans (Nat.add_le_add_right (plus_le _ _) _))
  rcases timing with ⟨-, rfl⟩ | ⟨-, checked, rfl⟩
  · exact ⟨startMs, fun instant new => ⟨(within new.1).1, (within new.1).2.1⟩⟩
  obtain ⟨live, -, -, -, _, due, reached⟩ := checkBlock_ok checked
  rcases eq_none_or_eq_some entry.paidUntilMs with unpaid | ⟨untilMs, paid⟩
  · refine ⟨nowMs, fun instant new => ⟨(within new.1).1, ?_⟩⟩
    have bound := (within new.1).2.1
    rw [nextBlockDueMs, unpaid, map_none, getD_none] at due
    rw [unpaid, getD_none] at bound
    split at due
    · rw [some.inj due] at bound
      exact bound.trans (Nat.add_le_add_right reached _)
    · cases due
  · refine ⟨untilMs + callBlockGraceMs, fun instant new => ?_⟩
    obtain ⟨later, bound, fits⟩ := within new.1
    rw [paid, getD_some] at bound
    have beyond : plus untilMs callBlockGraceMs < instant := by
      by_contra admitted
      exact new.2 (mem_window.mpr ⟨later, live, untilMs, paid, not_lt.mp admitted⟩)
    exact ⟨(add_lt_of_plus_lt beyond fits).le,
      bound.trans (Nat.add_le_add_right (Nat.le_add_right _ _) _)⟩

theorem Move.window_le (move : Move nowMs blocks before after) (unpaid : Unpaid before.entry) :
    (window nowMs after.entry \ window nowMs before.entry).encard ≤ blocks * 70001 := by
  cases move with
  | applied ok =>
    -- the mark does not matter for what an entry admits
    obtain ⟨first, added⟩ := window_applyBlock ok
    rw [Nat.cast_one, one_mul]
    exact (encard_le_encard added).trans (encard_Icc_le first)
  | answered ringing =>
    have silent := unpaid _ rfl (.inr ringing)
    exact encard_sdiff_le (by simp [window_of_unpaid, CallEntry.answered, silent]) _
  | forgotten => exact encard_sdiff_le (by simp [window]) _
  | marked | markedBlock | markedNotice | cleared | withdrawn | terminated | noticed =>
    exact encard_sdiff_le (fun _ admitted => admitted) _
  | expired | lapsed | rung | hungUp | received =>
    exact encard_sdiff_le (fun _ admitted => by cases (mem_window.mp admitted).2.1) _

theorem Moves.window_le (moves : Moves nowMs blocks before after) (unpaid : Unpaid before.entry) :
    (window nowMs after.entry \ window nowMs before.entry).encard ≤ blocks * 70001 ∧
      Unpaid after.entry := by
  induction moves with
  | refl => simp [unpaid]
  | @step first rest before middle after move _ ih =>
    obtain ⟨later, unpaidAfter⟩ := ih (move.unpaid unpaid)
    refine ⟨?_, unpaidAfter⟩
    calc (window nowMs after.entry \ window nowMs before.entry).encard
      _ ≤ ((window nowMs after.entry \ window nowMs middle.entry) ∪
        (window nowMs middle.entry \ window nowMs before.entry)).encard :=
        encard_le_encard (sdiff_triangle _ _ _)
      _ ≤ rest * 70001 + first * 70001 :=
        (encard_union_le _ _).trans (add_le_add later (move.window_le unpaid))
      _ = ((first + rest : Nat) : ENat) * 70001 := by rw [← add_mul, add_comm, Nat.cast_add]

theorem CallRule.window_le (rule : CallRule) {entry : Option CallEntry} (unpaid : Unpaid entry) :
    (window nowMs (rule.perform entry nowMs) \ window nowMs entry).encard ≤
      rule.blocks entry nowMs * 70001 ∧ Unpaid (rule.perform entry nowMs) := by
  cases entry with
  | some current => exact (Call.perform_moves current none rule nowMs).window_le unpaid
  | none =>
    rcases rule.perform_none nowMs with unknown | ⟨current, opened, performed⟩
    · rw [unknown]
      simp [unpaid]
    · rw [performed, window_of_unpaid opened.unpaid]
      exact ⟨by simp, fun _ same _ => some.inj same ▸ opened.unpaid⟩

theorem admittedInstants_le : ∀ {entry : Option CallEntry} {startMs : Nat}, Unpaid entry →
      (steps.map Prod.fst).Pairwise (· ≤ ·) → (∀ step ∈ steps, startMs ≤ step.1) →
      (admittedInstants entry startMs steps \ window startMs entry).encard ≤
        blocksOf entry steps * 70001 := by
  induction steps with
  | nil => simp [admittedInstants, blocksOf]
  | cons step rest ih =>
    intro entry startMs unpaid ordered after
    obtain ⟨nowMs, rule⟩ := step
    rw [List.map_cons, List.pairwise_cons] at ordered
    obtain ⟨added, unpaidNext⟩ := @CallRule.window_le nowMs rule entry unpaid
    have later := ih unpaidNext ordered.2 fun step mem => ordered.1 _ (List.mem_map_of_mem mem)
    have start := after _ List.mem_cons_self
    have covered : admittedInstants entry startMs ((nowMs, rule) :: rest) \ window startMs entry ⊆
      (admittedInstants (rule.perform entry nowMs) nowMs rest \
        window nowMs (rule.perform entry nowMs)) ∪
        (window nowMs (rule.perform entry nowMs) \ window nowMs entry) := by
      rintro instant ⟨current | admitted, new⟩
      · exact absurd current.1 new
      by_cases now : instant ∈ window nowMs (rule.perform entry nowMs)
      · exact .inr ⟨now, fun old => new ⟨start.trans old.1, old.2⟩⟩
      · exact .inl ⟨admitted, now⟩
    calc (admittedInstants entry startMs ((nowMs, rule) :: rest) \ window startMs entry).encard
      _ ≤ blocksOf (rule.perform entry nowMs) rest * 70001 + rule.blocks entry nowMs * 70001 :=
        (encard_le_encard covered).trans ((encard_union_le _ _).trans (add_le_add later added))
      _ = (blocksOf entry ((nowMs, rule) :: rest) : ENat) * 70001 := by
        rw [← add_mul, add_comm, blocksOf, Nat.cast_add]

/--
A run of the rules from no entry admits media at no more than 70001 instants
(sixty seconds and ten seconds of grace) a block that was applied, and at
none before the first block.
-/
theorem media_admitted_only_paid (steps : List (Nat × CallRule))
    (ordered : (steps.map Prod.fst).Pairwise (· ≤ ·)) :
    (admittedInstants none 0 steps).encard ≤ blocksOf none steps * 70001 ∧
      (blocksOf none steps = 0 → admittedInstants none 0 steps = ∅) := by
  have unpaid : Unpaid none := by rintro _ ⟨⟩
  have bound := admittedInstants_le unpaid ordered fun _ _ => Nat.zero_le _
  rw [show window 0 none = ∅ by simp [window], sdiff_empty] at bound
  refine ⟨bound, fun none => ?_⟩
  rw [none, Nat.cast_zero, zero_mul] at bound
  exact encard_eq_zero.mp (le_antisymm bound zero_le)

/-- An answered call with one block, paid at its tenth second. -/
def paidCall : List (Nat × CallRule) :=
  [(0, .receive .callInvite none), (1000, .reserve .callAnswer "answer" "a"),
    (2000, .commit "answer"),
    (12000, .receiveBlock 0)]

theorem media_admitted_only_paid_paidCall : blocksOf none paidCall = 1 ∧
      (admittedInstants none 0 paidCall).encard ≤ blocksOf none paidCall * 70001 :=
  ⟨by decide, (media_admitted_only_paid paidCall (by decide)).1⟩

end

/-!
## Grants

A grant of the peer adjusts a block that this node has reserved and paid.
The operations of the blocks that were ever reserved are remembered.
-/

/-- A call and the operations that have reserved its blocks, with the sequences. -/
structure Tracked where
  call : Call
  journal : List (String × String × Nat)
  deriving Repr, DecidableEq

/-- Nothing is known of the call. -/
def Tracked.start : Tracked :=
  ⟨⟨none, none⟩, []⟩

/-- A rule of this node, or a grant of the peer for one of our blocks. -/
inductive CallStep where
  | rule (rule : CallRule)
  | grant (operationId requestHash : String) (seq paidUntilMs : Nat)
  deriving Repr, DecidableEq

namespace Tracked

variable (tracked : Tracked) (nowMs : Nat)

/-- The operation of a block that has just placed its mark. -/
def newBinding : CallRule → List (String × String × Nat)
  | .reserveBlock seq operationId requestHash =>
    if markOf tracked.call.entry = none ∧
      markOf (tracked.call.perform (.reserveBlock seq operationId requestHash) nowMs).entry ≠
        none then
      [(operationId, requestHash, seq)]
    else []
  | _ => []

def perform : CallStep → Tracked
  | .rule rule =>
    ⟨tracked.call.perform rule nowMs, tracked.newBinding nowMs rule ++ tracked.journal⟩
  | .grant operationId requestHash seq paidUntilMs =>
    if (operationId, requestHash, seq) ∈ tracked.journal then
      { tracked with
        call.entry := tracked.call.entry.map
          (receiveBlockGrant · operationId requestHash seq paidUntilMs nowMs) }
    else tracked

/-- The number of blocks that a step applies, one or none. -/
def blocks : CallStep → Nat
  | .rule rule => rule.blocks tracked.call.entry nowMs
  | .grant operationId requestHash seq paidUntilMs =>
    -- a grant applies the block that our own commit has not applied yet
    ((operationId, requestHash, seq) ∈ tracked.journal &&
      tracked.call.entry.any fun entry =>
        entry.nextBlockSeq = seq && acceptsGrant entry seq paidUntilMs nowMs).toNat

def performAll : Tracked → List (Nat × CallStep) → Tracked
  | tracked, [] => tracked
  | tracked, (nowMs, step) :: rest => (tracked.perform nowMs step).performAll rest

/-- Every step of a run is taken where a condition holds. -/
def Throughout (condition : Tracked → Nat → CallStep → Prop) :
    Tracked → List (Nat × CallStep) → Prop
  | _, [] => True
  | tracked, (nowMs, step) :: rest =>
    condition tracked nowMs step ∧ (tracked.perform nowMs step).Throughout condition rest

theorem performAll_append (tracked : Tracked) (first second) :
    tracked.performAll (first ++ second) = (tracked.performAll first).performAll second := by
  induction first generalizing tracked with
  | nil => rfl
  | cons _ _ ih => exact ih _

theorem performAll_kept {condition : Tracked → Nat → CallStep → Prop} {kept : Tracked → Prop}
    (each : ∀ {tracked nowMs step}, kept tracked → condition tracked nowMs step →
      kept (tracked.perform nowMs step))
    {steps : List (Nat × CallStep)} : ∀ {tracked}, kept tracked →
      tracked.Throughout condition steps → kept (tracked.performAll steps) := by
  induction steps with
  | nil => exact fun holds _ => holds
  | cons _ _ ih => exact fun holds throughout => ih (each holds throughout.1) throughout.2

theorem throughout_true (tracked : Tracked) (steps) :
    tracked.Throughout (fun _ _ _ => True) steps := by
  induction steps generalizing tracked with
  | nil => trivial
  | cons _ _ ih => exact ⟨trivial, ih _⟩

end Tracked

/-!
## Blocks in sequence
-/

section

variable {nowMs : Nat} {before after : Call} {blocks : Nat}

theorem maxCallMs_div : maxCallMs / callBlockMs = 240 := rfl

theorem Move.source (move : Move nowMs blocks before after) : before.entry ≠ none := by
  cases move <;> nofun

variable {entry : CallEntry}

theorem nextBlockSeq_grantBlock {seq startMs : Nat} (more : seq < maxCallMs / callBlockMs) :
    (grantBlock entry seq startMs).nextBlockSeq = seq + 1 := by
  rw [maxCallMs_div] at more
  exact Nat.min_eq_left (by omega)

/-- A call advances by the blocks that are applied, and never beyond the last one. -/
def Advances (blocks : Nat) (before after : Call) : Prop :=
  ∀ entry next, before.entry = some entry → after.entry = some next →
    next.nextBlockSeq = entry.nextBlockSeq + blocks ∧
      (entry.nextBlockSeq ≤ maxCallMs / callBlockMs → next.nextBlockSeq ≤ maxCallMs / callBlockMs)

theorem Move.advances (move : Move nowMs blocks before after) : Advances blocks before after := by
  cases move with
  | forgotten => rintro _ _ ⟨⟩ ⟨⟩
  | applied ok =>
    rintro _ _ ⟨⟩ same
    cases same
    obtain ⟨-, more, _, _, -, rfl, -⟩ := applyBlock_ok ok
    rw [nextBlockSeq_grantBlock more]
    exact ⟨rfl, fun _ => more⟩
  | _ =>
    rintro _ _ ⟨⟩ ⟨⟩
    exact ⟨rfl, id⟩

theorem Moves.advances (moves : Moves nowMs blocks before after) :
    Advances blocks before after := by
  induction moves with
  | refl =>
    intro entry next first second
    cases first.symm.trans second
    exact ⟨rfl, id⟩
  | @step first rest before middle after move moves ih =>
    intro entry next start stop
    cases known : middle.entry with
    | none =>
      cases moves with
      | refl => cases known.symm.trans stop
      | step later => exact absurd known later.source
    | some current =>
      obtain ⟨one, oneLimit⟩ := move.advances entry current start known
      obtain ⟨others, otherLimit⟩ := ih current next known stop
      exact ⟨by rw [others, one, Nat.add_assoc], fun limit => otherLimit (oneLimit limit)⟩

/-- The mark of a block is reserved for the next one, on the caller's side. -/
def InOrder (call : Call) : Prop :=
  ∀ entry pending, call.entry = some entry → entry.pending = some pending →
    pending.kind = .callBlock →
      entry.side = .caller ∧ call.reservation = some (.block entry.nextBlockSeq)

theorem Move.inOrder (move : Move nowMs blocks before after) (inOrder : InOrder before) :
    InOrder after := by
  cases move with
  | answered =>
    simp only [InOrder, Leaves, CallEntry.answered] at *
    grind
  | applied ok =>
    -- the mark of a block is the caller's, and the caller's mark is cleared
    obtain ⟨-, -, _, _, -, rfl, -⟩ := applyBlock_ok ok
    simp only [InOrder, Leaves, grantBlock] at *
    grind
  | _ =>
    simp only [InOrder, CallEntry.expire] at *
    grind

theorem Moves.kept {kept : Call → Prop}
    (each : ∀ {blocks before after}, Move nowMs blocks before after → kept before → kept after)
    (moves : Moves nowMs blocks before after) (holds : kept before) : kept after := by
  induction moves with
  | refl => exact holds
  | step move _ ih => exact ih (each move holds)

theorem Call.perform_kept {kept : Call → Prop}
    (moved : ∀ {blocks before after}, Move nowMs blocks before after → kept before → kept after)
    (opened : ∀ {entry reservation}, Opened nowMs entry → kept ⟨some entry, reservation⟩)
    (rule) (holds : kept call) : kept (call.perform rule nowMs) := by
  obtain ⟨entry | entry, reservation⟩ := call
  · rcases rule.perform_none nowMs with unknown | ⟨entry, opens, performed⟩
    · rw [Call.perform_eq unknown id]
      exact holds
    unfold Call.perform
    rw [performed]
    exact opened opens
  · exact (Call.perform_moves entry reservation rule nowMs).kept moved holds

theorem Opened.inOrder (opened : Opened nowMs entry) : InOrder ⟨some entry, reservation⟩ := by
  cases opened with
  | offered => rintro _ _ ⟨⟩ ⟨⟩ ⟨⟩
  | invited => rintro _ _ ⟨⟩ ⟨⟩

namespace Tracked

/-- Every sequence that was reserved or is the next one lies within the longest call. -/
structure Limited (tracked : Tracked) : Prop where
  next : ∀ entry, tracked.call.entry = some entry → entry.nextBlockSeq ≤ maxCallMs / callBlockMs
  reserved : ∀ binding ∈ tracked.journal, binding.2.2 < maxCallMs / callBlockMs

/--
A grant that applies the next block arrives while no block of another
operation is being paid.
-/
def Fits (tracked : Tracked) (_ : Nat) : CallStep → Prop
  | .rule _ => True
  | .grant operationId requestHash seq _ => ∀ entry pending, tracked.call.entry = some entry →
    entry.pending = some pending → entry.nextBlockSeq = seq → pending.kind = .callBlock →
      pending.is operationId requestHash

variable {tracked : Tracked} {paidUntilMs seq : Nat}

theorem mem_newBinding (mem : binding ∈ tracked.newBinding nowMs rule) :
    binding.2.2 < maxCallMs / callBlockMs := by
  cases rule with
  | reserveBlock seq operationId requestHash =>
    simp only [newBinding] at mem
    split at mem
    next placed =>
      obtain rfl := List.mem_singleton.mp mem
      obtain ⟨free, marked⟩ := placed
      simp only [Call.perform, CallRule.perform] at marked
      cases known : tracked.call.entry with
      | none =>
        rw [known] at marked
        exact absurd rfl marked
      | some entry =>
        rw [known] at marked free
        cases reserved : reserveBlock (some entry) seq operationId requestHash nowMs with
        | error =>
          rw [reserved] at marked
          exact absurd free marked
        | ok next =>
          rcases reserveBlock_cases reserved with rfl | ⟨-, -, checked, -⟩
          · rw [reserved] at marked
            exact absurd free marked
          · exact (checkBlock_ok checked).2.2.2.1
    · cases mem
  | _ => cases mem

theorem nextBlockSeq_receiveBlockGrant (more : seq < maxCallMs / callBlockMs) :
    (receiveBlockGrant entry operationId requestHash seq paidUntilMs nowMs).nextBlockSeq =
      entry.nextBlockSeq +
        (entry.nextBlockSeq = seq && acceptsGrant entry seq paidUntilMs nowMs : Bool).toNat := by
  have capped : min (seq + 1) (2 ^ 32 - 1) = seq + 1 := by
    rw [maxCallMs_div] at more
    exact Nat.min_eq_left (by omega)
  unfold receiveBlockGrant
  split
  next accepted =>
    have position : entry.nextBlockSeq = seq ∨ entry.nextBlockSeq = seq + 1 := by
      simp only [acceptsGrant, capped, Bool.and_eq_true, Bool.or_eq_true, decide_eq_true_eq]
        at accepted
      exact accepted.1.1.2
    rw [accepted, Bool.and_true]
    rcases position with same | later
    · rw [decide_eq_true same, same]
      exact capped
    · rw [decide_eq_false (by omega), later]
      exact capped
  next refused =>
    rw [Bool.not_eq_true _ |>.mp refused, Bool.and_false, Bool.toNat_false, Nat.add_zero]

theorem receiveBlockGrant_pending {pending : Pending}
    (marked : (receiveBlockGrant entry operationId requestHash seq paidUntilMs nowMs).pending =
      some pending) : entry.pending = some pending ∧ (acceptsGrant entry seq paidUntilMs nowMs →
      pending.kind = .callBlock → ¬ pending.is operationId requestHash) := by
  unfold receiveBlockGrant at marked
  split at marked
  · obtain ⟨before, other⟩ := filter_eq_some_iff.mp marked
    refine ⟨before, fun _ block mine => ?_⟩
    simp [block, mine] at other
  next refused => exact ⟨marked, fun accepted => absurd accepted refused⟩

theorem perform_advances (limited : tracked.Limited) (step) :
    Advances (tracked.blocks nowMs step) tracked.call (tracked.perform nowMs step).call := by
  intro entry next known performed
  cases step with
  | rule rule =>
    obtain ⟨⟨_, reservation⟩, _⟩ := tracked
    obtain rfl : _ = some entry := known
    exact (Call.perform_moves entry reservation rule nowMs).advances entry next rfl performed
  | grant _ _ seq paidUntilMs =>
    rw [perform] at performed
    split at performed
    next journaled =>
      have more := limited.reserved _ journaled
      rw [known] at performed
      cases performed
      rw [nextBlockSeq_receiveBlockGrant more]
      refine ⟨by simp [blocks, journaled, known], fun limit => ?_⟩
      cases applied : (entry.nextBlockSeq = seq &&
        acceptsGrant entry seq paidUntilMs nowMs : Bool) with
      | false => exact limit
      | true =>
        rw [Bool.and_eq_true, decide_eq_true_eq] at applied
        rw [applied.1]
        exact more
    next unknown =>
      cases known.symm.trans performed
      simp [blocks, unknown]

theorem Limited.perform (limited : tracked.Limited) (step : CallStep) :
    (tracked.perform nowMs step).Limited where
  next next performed := by
    cases known : tracked.call.entry with
    | some entry =>
      exact (perform_advances limited step entry next known performed).2 (limited.next entry known)
    | none =>
      cases step with
      | rule rule =>
        have opens : rule.perform none nowMs = some next := known ▸ performed
        rcases rule.perform_none nowMs with unknown | ⟨entry, opened, performs⟩
        · cases unknown.symm.trans opens
        · cases performs.symm.trans opens
          cases opened <;> exact Nat.zero_le _
      | grant =>
        rw [Tracked.perform] at performed
        split at performed
        all_goals
          rw [known] at performed
          cases performed
  reserved binding member := by
    cases step with
    | rule rule => exact (List.mem_append.mp member).elim mem_newBinding (limited.reserved binding)
    | grant =>
      rw [Tracked.perform] at member
      split at member <;> exact limited.reserved binding member

theorem inOrder_perform (limited : tracked.Limited) (inOrder : InOrder tracked.call)
    (fits : tracked.Fits nowMs step) : InOrder (tracked.perform nowMs step).call := by
  cases step with
  | rule rule => exact Call.perform_kept Move.inOrder Opened.inOrder rule inOrder
  | grant _ _ seq paidUntilMs =>
    rw [perform]
    split
    next journaled =>
      intro _ pending performed marked block
      obtain ⟨entry, known, rfl⟩ := map_eq_some_iff.mp performed
      obtain ⟨before, other⟩ := receiveBlockGrant_pending marked
      obtain ⟨caller, reserved⟩ := inOrder entry pending known before block
      constructor
      · rw [← caller, receiveBlockGrant]
        split <;> rfl
      rw [nextBlockSeq_receiveBlockGrant (limited.reserved _ journaled), reserved]
      have unapplied :
        (entry.nextBlockSeq = seq && acceptsGrant entry seq paidUntilMs nowMs : Bool) = false := by
        by_contra applied
        rw [Bool.not_eq_false, Bool.and_eq_true, decide_eq_true_eq] at applied
        exact absurd (fits entry pending known before applied.1 block) (other applied.2 block)
      rw [unapplied]
      rfl
    · exact inOrder

theorem limited_start : Tracked.start.Limited := ⟨by rintro _ ⟨⟩, by rintro _ ⟨⟩⟩

theorem limited_performAll (steps) : (Tracked.start.performAll steps).Limited :=
  performAll_kept (fun limited _ => limited.perform _) limited_start (throughout_true _ steps)

/-- The sequences are within the longest call and those that are paid in order. -/
structure Sequenced (tracked : Tracked) : Prop where
  limited : tracked.Limited
  inOrder : InOrder tracked.call

theorem Sequenced.perform (sequenced : tracked.Sequenced) (fits : tracked.Fits nowMs step) :
    (tracked.perform nowMs step).Sequenced :=
  ⟨sequenced.limited.perform step, inOrder_perform sequenced.limited sequenced.inOrder fits⟩

theorem sequenced_start : Tracked.start.Sequenced := ⟨limited_start, by rintro _ _ ⟨⟩⟩

end Tracked

open Tracked

/--
In every run of the rules and of grants for blocks that were reserved, the
next sequence grows by one a block that is applied and never exceeds the
longest call.  As long as no grant applies the next block while another
operation is paying for it, a commit consumes the sequence that its operation
has reserved.
-/
theorem block_sequence_in_order (steps : List (Nat × CallStep)) (nowMs : Nat) (step : CallStep) :
    (∀ entry next, (start.performAll steps).call.entry = some entry →
      ((start.performAll steps).perform nowMs step).call.entry = some next → next.nextBlockSeq =
          entry.nextBlockSeq + (start.performAll steps).blocks nowMs step ∧
          entry.nextBlockSeq ≤ next.nextBlockSeq ∧ next.nextBlockSeq ≤ maxCallMs / callBlockMs) ∧
      (start.Throughout Fits steps → ∀ entry operationId,
        (start.performAll steps).call.entry = some entry → step = .rule (.commit operationId) →
            (start.performAll steps).blocks nowMs step = 1 →
              (start.performAll steps).call.reservation = some (.block entry.nextBlockSeq)) := by
  have limited := limited_performAll steps
  constructor
  · intro entry next known performed
    obtain ⟨grown, limit⟩ := perform_advances limited step entry next known performed
    exact ⟨grown, grown ▸ Nat.le_add_right _ _, limit (limited.next entry known)⟩
  rintro fits entry _ known rfl applied
  have inOrder := (performAll_kept Sequenced.perform sequenced_start fits).inOrder
  simp only [blocks, CallRule.blocks, known, any_some, CallRule.commitsBlock,
    Bool.toNat_eq_one, Bool.and_eq_true, any_eq_true, decide_eq_true_eq] at applied
  obtain ⟨⟨⟨pending, marked, block⟩, -⟩, -⟩ := applied
  exact (inOrder entry pending known (filter_eq_some_iff.mp marked).1 block).2

/-- An offer that is answered, and whose first block is being paid. -/
def payingCall : List (Nat × CallStep) :=
  [(0, .rule (.reserve .callInvite "offer" "o")), (0, .rule (.commit "offer")),
    (1000, .rule (.receive .callAnswer none)), (2000, .rule (.reserveBlock 0 "zero" "z"))]

theorem block_sequence_in_order_payingCall :
    (start.performAll payingCall).blocks 3000 (.rule (.commit "zero")) = 1 ∧
      (start.performAll payingCall).call.reservation = some (.block 0) := by
  have fits : start.Throughout Fits payingCall := by
    simp [payingCall, Throughout, Fits]
  exact ⟨by decide,
    (block_sequence_in_order payingCall 3000 (.rule (.commit "zero"))).2 fits _ "zero"
    rfl rfl (by decide)⟩

/--
The second block is paid too slowly and cleared unserved.  A late receipt for
the first one makes the call live again, the second block is reserved by
another operation, and then the receipt for the cleared one arrives.
-/
def grantedTwice : List (Nat × CallStep) :=
  payingCall ++ [(3000, .rule (.commit "zero")), (50000, .rule (.reserveBlock 1 "one" "p")),
    (131002, .rule (.commit "one")), (131003, .grant "zero" "z" 0 131000),
    (131004, .rule (.reserveBlock 1 "again" "q")), (131005, .grant "one" "p" 1 131000)]

theorem commit_consumes_other_block :
    (start.performAll grantedTwice).call.reservation = some (.block 1) ∧
      (start.performAll grantedTwice).blocks 131006 (.rule (.commit "again")) = 1 ∧
      (start.performAll grantedTwice).call.entry.map CallEntry.nextBlockSeq = some 2 := by
  decide

end

/-!
## Hangups
-/

section

variable {nowMs : Nat} {entry : CallEntry} {before : Call}

/--
A callee that has used its notice is up only while the notice is being paid,
and then the mark is that of the notice.
-/
def Notices (call : Call) : Prop :=
  ∀ entry, call.entry = some entry → entry.side = .callee → entry.unpaidNoticeUsed = true →
    (entry.phase = .ended ∨ entry.phase = .live ∧ entry.pending ≠ none) ∧
      ∀ pending, entry.pending = some pending →
        pending.kind = .callHangup ∧ call.reservation = some (.notice .unpaid)

theorem Move.notices (move : Move nowMs blocks before after) (notices : Notices before) :
    Notices after := by
  cases move with
  | cleared calm =>
    have before := notices _ rfl
    rintro _ ⟨⟩ callee used
    obtain ⟨phase, mark⟩ := before callee used
    refine ⟨.inl ?_, by rintro _ ⟨⟩⟩
    rcases phase with ended | ⟨_, taken⟩
    · exact ended
    obtain ⟨pending, marked⟩ := ne_none_iff_exists'.mp taken
    rcases calm with ended | calm
    · exact ended
    · have unused := calm (by simp [marked, (mark pending marked).1]) callee
      cases used.symm.trans unused
  | applied ok =>
    obtain ⟨-, -, _, _, -, rfl, -⟩ := applyBlock_ok ok
    simp only [Notices, Leaves, grantBlock] at *
    grind
  | _ =>
    simp only [Notices, CallEntry.expire, CallEntry.isOpen, CallEntry.answered] at *
    grind

/-- A call that is up has no reason to have ended. -/
def Unended (call : Call) : Prop :=
  ∀ entry, call.entry = some entry → entry.phase ≠ .ended → entry.endReason = none

theorem Move.unended (move : Move nowMs blocks before after) (unended : Unended before) :
    Unended after := by
  cases move with
  | applied ok =>
    obtain ⟨-, -, _, _, -, rfl, -⟩ := applyBlock_ok ok
    simp [Unended, grantBlock]
  | _ => simp_all [Unended, CallEntry.expire, CallEntry.answered]

/-- A call that has ended and cannot be resumed. -/
def Closed (call : Call) : Prop :=
  ∀ entry, call.entry = some entry → entry.phase = .ended ∧ entry.endReason ≠ some .unpaid

theorem blockEndMs_of_closed (ended : entry.phase = .ended)
    (reason : entry.endReason ≠ some .unpaid) : blockEndMs entry = none := by
  unfold blockEndMs
  split
  next live => cases ended.symm.trans live
  next unpaid => exact absurd unpaid reason
  · rfl

theorem Move.closed (move : Move nowMs blocks before after) (closed : Closed before) :
    Closed after := by
  cases move with
  | lapsed _ ending =>
    obtain ⟨ended, reason⟩ := closed _ rfl
    cases ending.symm.trans (blockEndMs_of_closed ended reason)
  | applied ok =>
    obtain ⟨ended, reason⟩ := closed _ rfl
    obtain ⟨-, -, _, _, ending, -⟩ := applyBlock_ok ok
    cases ending.symm.trans (blockEndMs_of_closed ended reason)
  | _ => simp_all [Closed, isOpen]

theorem Opened.notices (opened : Opened nowMs entry) : Notices ⟨some entry, reservation⟩ := by
  cases opened <;> rintro _ ⟨⟩ - ⟨⟩

theorem Opened.unended (opened : Opened nowMs entry) : Unended ⟨some entry, reservation⟩ := by
  cases opened <;> (rintro _ ⟨⟩ -; rfl)

namespace Tracked

/-- The facts about notices and reasons that hold in every run. -/
structure Told (tracked : Tracked) : Prop where
  notices : Notices tracked.call
  unended : Unended tracked.call

variable {tracked : Tracked}

theorem Told.perform (told : tracked.Told) (step : CallStep) :
    (tracked.perform nowMs step).Told := by
  cases step with
  | rule rule =>
    exact ⟨Call.perform_kept Move.notices Opened.notices rule told.notices,
      Call.perform_kept Move.unended Opened.unended rule told.unended⟩
  | grant =>
    rw [Tracked.perform]
    split
    · constructor
      · intro _ performed callee used
        obtain ⟨entry, known, rfl⟩ := map_eq_some_iff.mp performed
        have before := told.notices entry known
        unfold receiveBlockGrant at callee used ⊢
        grind
      intro _ performed up
      obtain ⟨entry, known, rfl⟩ := map_eq_some_iff.mp performed
      have before := told.unended entry known
      unfold receiveBlockGrant at up ⊢
      grind
    · exact told

/-- An offer is accepted for a call that is not known. -/
def Opens (tracked : Tracked) (nowMs : Nat) (step : CallStep) : Prop :=
  tracked.call.entry = none ∧ (tracked.perform nowMs step).call.entry ≠ none

theorem closed_perform (closed : Closed tracked.call) (unopened : ¬ tracked.Opens nowMs step) :
    Closed (tracked.perform nowMs step).call := by
  cases known : tracked.call.entry with
  | none =>
    intro entry performed
    exact absurd ⟨known, by rw [performed]; nofun⟩ unopened
  | some entry =>
    cases step with
    | rule rule =>
      obtain ⟨⟨_, reservation⟩, _⟩ := tracked
      obtain rfl : _ = some entry := known
      exact (Call.perform_moves entry reservation rule nowMs).kept Move.closed closed
    | grant _ _ seq paidUntilMs =>
      rw [perform]
      split
      · rintro _ performed
        obtain ⟨current, known, rfl⟩ := map_eq_some_iff.mp performed
        obtain ⟨ended, reason⟩ := closed current known
        have refused : acceptsGrant current seq paidUntilMs nowMs = false := by
          simp [acceptsGrant, blockEndMs_of_closed ended reason]
        rw [receiveBlockGrant, refused]
        exact ⟨ended, reason⟩
      · exact closed

/--
An explicit hangup takes effect: a mark of ours for a hangup that is no
`Unpaid` notice is committed, or a hangup of the peer for another reason is
accepted.
-/
def HangsUp (tracked : Tracked) (nowMs : Nat) : CallStep → Prop
  | .rule (.commit operationId) => ∃ entry pending, tracked.call.entry = some entry ∧
    entry.pendingOf operationId = some pending ∧ pending.kind = .callHangup ∧
      tracked.call.reservation ≠ some (.notice .unpaid)
  | .rule (.receive .callHangup reason) => reason ≠ some .unpaid ∧
    ∃ next, receive tracked.call.entry .callHangup reason nowMs = .ok next
  | _ => False

/-- A mark is committed before the call expires for want of a payment. -/
def InTime (tracked : Tracked) : CallStep → Prop
  | .rule (.commit _) => ∀ entry, tracked.call.entry = some entry →
    entry.phase = .ended → entry.endReason ≠ some .unpaid
  | _ => True

theorem closed_commit (told : tracked.Told)
    (hangsUp : tracked.HangsUp nowMs (.rule (.commit operationId)))
    (inTime : tracked.InTime (.rule (.commit operationId))) :
    Closed (tracked.perform nowMs (.rule (.commit operationId))).call := by
  obtain ⟨entry, pending, known, marked, hangup, explicit⟩ := hangsUp
  intro next performed
  have committed : kept (some entry) (commit entry operationId nowMs) = some next := by
    simpa [perform, Call.perform, CallRule.perform, known] using performed
  rw [commit, marked] at committed
  simp only [hangup, commitSignal_callHangup] at committed
  have unnoticed : ¬ (entry.phase = .live ∧ entry.side = .callee ∧ entry.unpaidNoticeUsed) := by
    rintro ⟨-, callee, used⟩
    have notice := (told.notices entry known callee used).2 pending (filter_eq_some_iff.mp marked).1
    exact explicit notice.2
  rw [if_neg unnoticed] at committed
  split at committed
  next ended =>
    cases committed
    exact ⟨ended, inTime entry known ended⟩
  next up =>
    cases committed
    exact ⟨rfl, by simp [told.unended entry known up]⟩

theorem closed_receive (hangsUp : tracked.HangsUp nowMs (.rule (.receive .callHangup reason))) :
    Closed (tracked.perform nowMs (.rule (.receive .callHangup reason))).call := by
  obtain ⟨_, _, ok⟩ := hangsUp
  intro _ performed
  simp only [perform, Call.perform, CallRule.perform, ok, kept] at performed
  cases performed
  cases known : tracked.call.entry with
  | none =>
    rw [known] at ok
    cases ok
  | some entry =>
    rw [known] at ok
    simp only [receive, receiveHangup] at ok
    grind

theorem closed_of_hangsUp (told : tracked.Told) (hangsUp : tracked.HangsUp nowMs step)
    (inTime : tracked.InTime step) : Closed (tracked.perform nowMs step).call := by
  match step with
  | .rule (.commit operationId) => exact closed_commit told hangsUp inTime
  | .rule (.receive .callHangup reason) => exact closed_receive hangsUp

theorem told_performAll (steps) : (Tracked.start.performAll steps).Told :=
  performAll_kept (fun told _ => told.perform _) ⟨by rintro _ ⟨⟩, by rintro _ ⟨⟩⟩
    (throughout_true _ steps)

end Tracked

open Tracked

/--
Once an explicit hangup has taken effect, our own one before the call has
expired for want of a payment, no later step makes the call admit media until
a new offer is accepted.
-/
theorem hangup_is_final (earlier later : List (Nat × CallStep)) (nowMs : Nat) (step : CallStep)
    (hangsUp : (start.performAll earlier).HangsUp nowMs step)
    (inTime : (start.performAll earlier).InTime step)
    (unopened : ((start.performAll earlier).perform nowMs step).Throughout
      (fun tracked nowMs step => ¬ tracked.Opens nowMs step) later)
    (entry : CallEntry) (instant : Nat)
    (known : (start.performAll (earlier ++ (nowMs, step) :: later)).call.entry =
      some entry) : entry.mediaAdmitted instant = false := by
  rw [performAll_append] at known
  have hungUp := closed_of_hangsUp (told_performAll earlier) hangsUp inTime
  have closed := performAll_kept closed_perform hungUp unopened
  simp [CallEntry.mediaAdmitted, (closed entry known).1]

/-- A call of the peer that is answered and then hung up by us in time. -/
def hangingUp : List (Nat × CallStep) :=
  [(0, .rule (.receive .callInvite none)), (0, .rule (.reserve .callAnswer "answer" "a")),
    (0, .rule (.commit "answer")), (29000, .rule (.reserve .callHangup "end" "e"))]

theorem hangup_is_final_hangingUp : ∃ entry, (start.performAll
      (hangingUp ++
        [(29500, .rule (.commit "end")), (30003, .rule (.receiveBlock 0))])).call.entry =
      some entry ∧ entry.mediaAdmitted 30003 = false :=
  ⟨_, rfl, hangup_is_final hangingUp [(30003, .rule (.receiveBlock 0))] 29500
    (.rule (.commit "end")) ⟨_, _, rfl, rfl, rfl, by decide⟩ (by rintro _ ⟨⟩ ⟨⟩)
    ⟨(fun opens => by cases opens.1), trivial⟩ _ 30003 rfl⟩

theorem late_hangup_resumed : (start.performAll (hangingUp ++ [(30001, .rule .atMs)])).HangsUp 30002
      (.rule (.commit "end")) ∧
      (start.performAll (hangingUp ++ [(30001, .rule .atMs), (30002, .rule (.commit "end")),
        (30003, .rule (.receiveBlock 0))])).call.entry.any (·.mediaAdmitted 30003) :=
  ⟨⟨_, _, rfl, rfl, rfl, by decide⟩, by decide⟩

/-!
## Stored calls
-/

/-- What the entry of a call never contradicts. -/
structure CallEntry.Regular (entry : CallEntry) : Prop where
  payer : entry.side = .callee → ∀ pending ∈ entry.pending, pending.kind ≠ .callBlock
  paid : entry.paidUntilMs = none ↔ entry.nextBlockSeq = 0
  answered : entry.paidUntilMs ≠ none → entry.phase = .live ∨ entry.phase = .ended
  due : entry.phase = .live → ∀ untilMs ∈ entry.paidUntilMs,
    entry.deadlineMs = plus untilMs callBlockGraceMs
  reason : entry.endReason ≠ none → entry.phase = .ended

def Regular (call : Call) : Prop :=
  ∀ entry ∈ call.entry, entry.Regular

theorem Move.regular (move : Move nowMs count before after) (regular : Regular before) :
    Regular after := by
  cases move with
  | forgotten => rintro _ ⟨⟩
  | applied ok =>
    obtain ⟨payer, -⟩ := regular _ rfl
    obtain ⟨-, -, _, _, -, rfl, -⟩ := applyBlock_ok ok
    rintro _ ⟨⟩
    constructor <;> simp only [grantBlock, Leaves] at * <;> grind
  | _ =>
    obtain ⟨payer, paid, answered, due, reason⟩ := regular _ rfl
    rintro _ ⟨⟩
    constructor <;> simp only [CallEntry.expire, CallEntry.answered, isOpen, Leaves] at * <;> grind

theorem Opened.regular (opened : Opened nowMs entry) : Regular ⟨some entry, reservation⟩ := by
  rintro _ ⟨⟩
  cases opened <;> constructor <;> simp [CallEntry.opening]

theorem regular_performAll (steps : List (Nat × CallStep)) :
    Regular (start.performAll steps).call := by
  refine @performAll_kept _ (Regular ·.call) ?_ steps start (by rintro _ ⟨⟩)
    (throughout_true _ steps)
  intro tracked nowMs step regular _
  cases step with
  | rule rule => exact Call.perform_kept Move.regular Opened.regular rule regular
  | grant =>
    rw [Tracked.perform]
    split
    · intro _ performed
      obtain ⟨entry, known, rfl⟩ := map_eq_some_iff.mp performed
      obtain ⟨payer, -⟩ := regular entry known
      rw [receiveBlockGrant]
      split
      · constructor <;> grind
      · exact regular entry known
    · exact regular

/--
Whatever rules and grants a call goes through: only the caller ever pays for a
block, a boundary is known once a block was applied and never before the
answer, a live call expires with the grace after it, and only a call that has
ended has a reason.
-/
theorem stored_call_regular (steps : List (Nat × CallStep)) :
    ∀ entry ∈ (start.performAll steps).call.entry, entry.Regular :=
  regular_performAll steps

theorem stored_call_regular_payingCall :
    ∃ entry ∈ (start.performAll payingCall).call.entry, entry.Regular :=
  ⟨_, rfl, stored_call_regular payingCall _ rfl⟩

end

end BitSov.Calls
