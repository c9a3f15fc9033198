import BitSov.Process.Safety

namespace Process

/-!
# One call at a time

A `Session` is a state that its owner works on by calls, one after the other.
A call makes its operations one by one and may be given up between any two of
them; a crash ends the call that is running and takes its part of the state.
A `Covenant` states what every call keeps, what each of its operations
promises and what it has achieved when it returns.  The promises may mention
the operations the call has made before.
-/

/-- The calls on a state that has one owner. -/
structure Session (Call Shared Op : Type) (Answer : Op → Type) (α : Type) where
  code : Call → Program Op Answer α
  /-- One operation as an atomic step. -/
  effect : Shared → (operation : Op) → Answer operation → Shared → Prop
  crash : Shared → Shared → Prop

/-- The call that is running: its operations so far and what remains. -/
structure Running (Call Op : Type) (Answer : Op → Type) (α : Type) where
  call : Call
  past : List (Event Op Answer)
  rest : Program Op Answer α

/-- The state of a session between two steps. -/
structure Moment (Call Shared Op : Type) (Answer : Op → Type) (α : Type) where
  shared : Shared
  running : Option (Running Call Op Answer α)

namespace Session

variable {Call Shared Op : Type} {Answer : Op → Type} {α : Type}

/-- A session in which nothing runs. -/
def idle (shared : Shared) : Moment Call Shared Op Answer α where
  shared
  running := none

inductive Step (session : Session Call Shared Op Answer α) :
    Moment Call Shared Op Answer α → Moment Call Shared Op Answer α → Prop
  | start {shared : Shared} (call : Call) :
      Step session (idle shared) ⟨shared, some ⟨call, [], session.code call⟩⟩
  | perform {before after : Shared} {call : Call} {past : List (Event Op Answer)} {operation : Op}
      {next : Answer operation → Program Op Answer α} {answer : Answer operation}
      (effect : session.effect before operation answer after) :
    Step session ⟨before, some ⟨call, past, .call operation next⟩⟩
      ⟨after, some ⟨call, past ++ [⟨operation, answer⟩], next answer⟩⟩
  | leave {shared : Shared} {running : Running Call Op Answer α} :
      Step session ⟨shared, some running⟩ (idle shared)
  | crash {before after : Shared} {running : Option (Running Call Op Answer α)}
      (crash : session.crash before after) : Step session ⟨before, running⟩ (idle after)

abbrev Steps (session : Session Call Shared Op Answer α) :
    Moment Call Shared Op Answer α → Moment Call Shared Op Answer α → Prop :=
  Relation.ReflTransGen session.Step

variable {session : Session Call Shared Op Answer α}

theorem steps_resume {call : Call} {past history : List (Event Op Answer)}
    {program rest : Program Op Answer α} (reached : Program.Reaches program history rest)
    (performed : Program.Performed session.effect before history after) :
    session.Steps ⟨before, some ⟨call, past, program⟩⟩
      ⟨after, some ⟨call, past ++ history, rest⟩⟩ := by
  induction reached generalizing before past with
  | refl =>
    cases performed
    rw [List.append_nil]
  | @call op _ answer history _ _ ih =>
    cases performed with
    | cons effect performedRest =>
      refine .head (.perform effect) ?_
      rw [List.append_cons past ⟨op, answer⟩ history]
      exact ih performedRest

theorem steps_call (call) (reached : Program.Reaches (session.code call) history rest)
    (performed : Program.Performed session.effect before history after) :
    session.Steps (idle before) ⟨after, some ⟨call, history, rest⟩⟩ :=
  .head (.start call) (steps_resume reached performed)

theorem exists_step_of_steps (reached : Shared → Prop)
    (steps : session.Steps first last) (notYet : ¬ reached first.shared)
    (reachedLast : reached last.shared) :
    ∃ before after, session.Steps first before ∧ session.Step before after ∧
      session.Steps after last ∧ ¬ reached before.shared ∧ reached after.shared := by
  induction steps with
  | refl => exact absurd reachedLast notYet
  | @tail middle last prior step ih =>
    by_cases already : reached middle.shared
    · obtain ⟨before, after, stepsBefore, changed, stepsAfter, change⟩ := ih already
      exact ⟨before, after, stepsBefore, changed, stepsAfter.tail step, change⟩
    · exact ⟨middle, last, prior, step, .refl, already, reachedLast⟩

end Session

/-- The state of a session together with the operations of its call. -/
abbrev Recorded (Shared Op : Type) (Answer : Op → Type) :=
  Shared × List (Event Op Answer)

/-- What the calls of a session keep, promise and achieve. -/
structure Covenant {Call Shared Op : Type} {Answer : Op → Type} {α : Type}
    (session : Session Call Shared Op Answer α) where
  invariant : Shared → Prop
  /-- What one operation of a call does. -/
  promise : Call → Recorded Shared Op Answer → Recorded Shared Op Answer → Prop
  /-- What holds when a call returns. -/
  result : Call → α → Recorded Shared Op Answer → Prop

namespace Covenant

variable {Call Shared Op : Type} {Answer : Op → Type} {α : Type}
  {session : Session Call Shared Op Answer α}

/-- A covenant as a call sees it: alone, and aware of its own past. -/
def view (covenant : Covenant session) (call : Call) :
    View (Recorded Shared Op Answer) Op Answer where
  invariant state := covenant.invariant state.1
  effect before operation answer after := session.effect before.1 operation answer after.1 ∧
    after.2 = before.2 ++ [⟨operation, answer⟩]
  guarantee := covenant.promise call
  rely _ _ := False

variable {covenant : Covenant session} {call : Call}

theorem stable (assertion) :
    (covenant.view call).Stable assertion := fun _ _ _ _ moved => moved.elim

theorem triple_ask_bind {pre : Recorded Shared Op Answer → Prop} {op : Op} {ε β : Type}
    {post : Except ε β → Recorded Shared Op Answer → Prop}
    {cont : Answer op → Fallible ε Op Answer β}
    (middle : Answer op → Recorded Shared Op Answer → Prop)
    (performed : ∀ before past answer after, covenant.invariant before → pre (before, past) →
      session.effect before op answer after → covenant.invariant after ∧
        covenant.promise call (before, past) (after, past ++ [⟨op, answer⟩]) ∧
        middle answer (after, past ++ [⟨op, answer⟩]))
    (next : ∀ answer, (covenant.view call).Triple (middle answer) (cont answer).run post) :
    (covenant.view call).Triple pre (Fallible.ask op >>= cont).run post := by
  refine View.triple_call (stable pre) ?_ next
  rintro ⟨before, past⟩ answer ⟨after, _⟩ inv holds ⟨effect, rfl⟩
  exact performed before past answer after inv holds effect

section

open Fallible

variable {covenant : Covenant session} {call : Call} {ε β γ : Type}
  {pre : Recorded Shared Op Answer → Prop} {post : Except ε γ → Recorded Shared Op Answer → Prop}

theorem triple_question {op : Op} {cont : Answer op → Fallible ε Op Answer γ}
    (same : ∀ before answer after, session.effect before op answer after → after = before)
    (promised : ∀ shared past answer,
      covenant.promise call (shared, past) (shared, past ++ [⟨op, answer⟩]))
    (middle : Answer op → Recorded Shared Op Answer → Prop)
    (answered : ∀ shared past answer, pre (shared, past) → session.effect shared op answer shared →
        middle answer (shared, past ++ [⟨op, answer⟩]))
    (next : ∀ answer, (covenant.view call).Triple (middle answer) (cont answer).run post) :
    (covenant.view call).Triple pre (ask op >>= cont).run post := by
  refine triple_ask_bind middle ?_ next
  intro before past answer after inv holds effect
  obtain rfl := same before answer after effect
  exact ⟨inv, promised _ past answer, answered _ past answer holds effect⟩

theorem triple_failIf_bind {condition : Prop} [Decidable condition]
    (failed : ∀ state, post (.error error) state)
    (next : ¬ condition → (covenant.view call).Triple pre (cont ()).run post) :
    (covenant.view call).Triple pre (failIf condition error >>= cont).run post := by
  unfold failIf
  by_cases refused : condition
  · rw [if_pos refused]
    exact View.triple_done fun state _ _ => failed state
  · rw [if_neg refused]
    exact next refused

variable {cont : β → Fallible ε Op Answer γ}

theorem triple_answer
    (next : ∀ value, answer = .ok value → (covenant.view call).Triple pre (cont value).run post)
    (failed : ∀ error state, post (.error error) state := by
      first | exact fun _ _ => nofun | exact fun _ _ _ => nofun) :
    (covenant.view call).Triple pre (known answer >>= cont).run post :=
  View.triple_known_bind next fun error _ state _ _ => failed error state

theorem triple_part {first : Fallible ε Op Answer β} (middle : β → Recorded Shared Op Answer → Prop)
    (specified : (covenant.view call).Triple pre first.run
      fun outcome state => ∀ value, outcome = .ok value → middle value state)
    (next : ∀ value, (covenant.view call).Triple (middle value) (cont value).run post)
    (failed : ∀ error state, post (.error error) state := by
      first | exact fun _ _ => nofun | exact fun _ _ _ => nofun) :
    (covenant.view call).Triple pre (first >>= cont).run post := by
  refine View.triple_bind (specified.weaken (fun _ _ holds => holds) ?_) next
  intro outcome state _ holds
  cases outcome with
  | ok value => exact holds value rfl
  | error error => exact failed error state

theorem triple_return (returned : ∀ state, pre state → post (.ok value) state) :
    (covenant.view call).Triple pre (pure value : Fallible ε Op Answer γ).run post :=
  View.triple_pure fun state _ holds => returned state holds

end

/-- A call keeps its part from its start to its return. -/
abbrev Honours (covenant : Covenant session) (call : Call) : Prop :=
  (covenant.view call).Triple (fun state => state.2 = []) (session.code call) (covenant.result call)

/-- Every call and every crash keeps its part. -/
structure Kept (covenant : Covenant session) : Prop where
  crash : ∀ before after,
    covenant.invariant before → session.crash before after → covenant.invariant after
  code : ∀ call, (covenant.view call).Triple
    (fun state => state.2 = [])
    (session.code call)
    (covenant.result call)

/-- A moment at which everything promised so far is kept. -/
structure Holds (covenant : Covenant session) (moment : Moment Call Shared Op Answer α) : Prop where
  invariant : covenant.invariant moment.shared
  safe : ∀ running,
    moment.running = some running →
      (covenant.view running.call).Safe
        (covenant.result running.call) running.rest
        (moment.shared, running.past)

theorem holds_idle (invariant : covenant.invariant shared) :
    covenant.Holds (Session.idle shared) where
  invariant
  safe _ found := by cases found

theorem Holds.step (kept : covenant.Kept) (holds : covenant.Holds before)
    (step : session.Step before after) : covenant.Holds after := by
  cases step with
  | start call =>
    refine ⟨holds.invariant, ?_⟩
    rintro _ ⟨⟩
    exact kept.code call _ holds.invariant rfl
  | perform effect =>
    obtain ⟨inv, -, rest⟩ := holds.safe _ rfl _ .refl holds.invariant _ (_, _) ⟨effect, rfl⟩
    refine ⟨inv, ?_⟩
    rintro _ ⟨⟩
    exact rest
  | leave => exact holds_idle holds.invariant
  | crash crash => exact holds_idle (kept.crash _ _ holds.invariant crash)

theorem holds_of_steps (kept : covenant.Kept)
    (holds : covenant.Holds first) (steps : session.Steps first last) : covenant.Holds last := by
  induction steps with
  | refl => exact holds
  | tail _ step ih => exact ih.step kept step

theorem Holds.moves (holds : covenant.Holds before) (step : session.Step before after) :
    after.shared = before.shared ∨ session.crash before.shared after.shared ∨ ∃ running later,
      before.running = some running ∧ after.running = some later ∧ later.call = running.call ∧
        covenant.promise running.call (before.shared, running.past) (after.shared, later.past) := by
  cases step with
  | start | leave => exact .inl rfl
  | perform effect =>
    obtain ⟨-, promised, -⟩ := holds.safe _ rfl _ .refl holds.invariant _ (_, _) ⟨effect, rfl⟩
    exact .inr (.inr ⟨_, _, rfl, rfl, rfl, promised⟩)
  | crash crash => exact .inr (.inl crash)

theorem Holds.performed (holds : covenant.Holds before)
    (step : session.Step before after) (found : before.running = some running)
    (foundLater : after.running = some later) :
    covenant.promise running.call (before.shared, running.past) (after.shared, later.past) := by
  cases step with
  | start => cases found
  | perform effect =>
    cases found
    cases foundLater
    exact (holds.safe _ rfl _ .refl holds.invariant _ (_, _) ⟨effect, rfl⟩).2.1
  | leave | crash => cases foundLater

theorem Holds.returned {result : α}
    (holds : covenant.Holds ⟨shared, some ⟨call, past, .done result⟩⟩) :
    covenant.result call result (shared, past) := holds.safe _ rfl

end Covenant

end Process
