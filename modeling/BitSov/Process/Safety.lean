import BitSov.Process.Machine

namespace Process

/-!
# Rely and guarantee for interleaved tasks

A task of a `Machine` runs while everybody else moves. A `View` is what one
task knows about that: the invariant of the shared state, what its own
operations do, what it promises about each of its steps, and what it may
rely on about the steps of all others. `Safe` says that a program keeps the
invariant and its promise at every one of its calls, whatever others do
between them, and `Triple` is the corresponding specification of a program.

A `Discipline` collects the promises of all jobs of a machine. If every job
is safe under it, every reachable snapshot satisfies the invariant and every
step of the machine is one of the promised moves.
-/

/-- The shared state as one task sees it. -/
structure View (σ Op : Type) (Answer : Op → Type) where
  /-- What holds between any two steps of the system. -/
  invariant : σ → Prop
  effect : σ → (operation : Op) → Answer operation → σ → Prop
  /-- What a step of this task is allowed to do. -/
  guarantee : σ → σ → Prop
  /-- What a step of anybody else may do. -/
  rely : σ → σ → Prop

namespace View

variable {σ Op : Type} {Answer : Op → Type} {α β ε : Type}
  {view : View σ Op Answer} {program : Program Op Answer α} {post : α → σ → Prop}
  {pre : σ → Prop}

/-- The state after any number of steps of others. -/
def Drifts (view : View σ Op Answer) : σ → σ → Prop :=
  Relation.ReflTransGen fun before after => view.rely before after ∧ view.invariant after

/-- What others cannot make false. -/
def Stable (view : View σ Op Answer) (assertion : σ → Prop) : Prop :=
  ∀ before after,
    view.invariant before →
      view.invariant after → view.rely before after → assertion before → assertion after

theorem Drifts.keeps {view : View σ Op Answer} {assertion : σ → Prop} {before after : σ}
    (drifts : view.Drifts before after) (stable : view.Stable assertion)
    (inv : view.invariant before) (holds : assertion before) :
    view.invariant after ∧ assertion after := by
  induction drifts with
  | refl => exact ⟨inv, holds⟩
  | tail _ step ih => exact ⟨step.2, stable _ _ ih.1 step.2 step.1 ih.2⟩

/--
Every call of the program keeps the invariant and the promise of its task,
whatever others do before it, and the program returns as announced.
-/
def Safe (view : View σ Op Answer) (post : α → σ → Prop) : Program Op Answer α → σ → Prop
  | .done result, state => post result state
  | .call operation next, state =>
    ∀ current, view.Drifts state current →
      view.invariant current →
        ∀ answer after,
          view.effect current operation answer after →
            view.invariant after ∧ view.guarantee current after ∧ Safe view post (next answer) after

/-- From a state with the precondition the program is safe. -/
def Triple (view : View σ Op Answer) (pre : σ → Prop) (program : Program Op Answer α)
    (post : α → σ → Prop) : Prop :=
  ∀ state, view.invariant state → pre state → Safe view post program state

variable {middle : α → σ → Prop} {first : Program Op Answer α} {cont : α → Program Op Answer β}

theorem Safe.bind {post : β → σ → Prop} {state : σ} (inv : view.invariant state)
    (safe : Safe view middle first state)
    (continues : ∀ result, view.Triple (middle result) (cont result) post) :
    Safe view post (first >>= cont) state := by
  induction first generalizing state with
  | done result => exact continues result state inv safe
  | call _ _ ih =>
    intro current drifts invNow answer after effect
    obtain ⟨invAfter, kept, rest⟩ := safe current drifts invNow answer after effect
    exact ⟨invAfter, kept, ih answer invAfter rest⟩

theorem triple_done (returned : ∀ state, view.invariant state → pre state → post result state) :
    view.Triple pre (.done result) post := returned

theorem Triple.bind {post : β → σ → Prop} (specified : view.Triple pre first middle)
    (next : ∀ result, view.Triple (middle result) (cont result) post) :
    view.Triple pre (first >>= cont) post :=
  fun state inv holds => Safe.bind inv (specified state inv holds) next

theorem triple_call {op : Op} {middle : Answer op → σ → Prop}
    {next : Answer op → Program Op Answer α} (stable : view.Stable pre)
    (performed : ∀ before answer after, view.invariant before →
      pre before → view.effect before op answer after →
        view.invariant after ∧ view.guarantee before after ∧ middle answer after)
    (continues : ∀ answer, view.Triple (middle answer) (next answer) post) :
    view.Triple pre (.call op next) post := by
  intro _ inv holds current drifts invNow answer after effect
  obtain ⟨invAfter, kept, reached⟩ := performed current answer after invNow
    (drifts.keeps stable inv holds).2 effect
  exact ⟨invAfter, kept, continues answer after invAfter reached⟩

theorem Safe.weaken (safe : Safe view post program state) (inv : view.invariant state)
    (returned : ∀ result state, view.invariant state → post result state → weaker result state) :
    Safe view weaker program state := by
  induction program generalizing state with
  | done result => exact returned result state inv safe
  | call _ _ ih =>
    intro current drifts invNow answer after effect
    obtain ⟨invAfter, kept, rest⟩ := safe current drifts invNow answer after effect
    exact ⟨invAfter, kept, ih answer rest invAfter⟩

theorem Triple.weaken (specified : view.Triple pre program post)
    (before : ∀ state, view.invariant state → stronger state → pre state)
    (returned : ∀ result state, view.invariant state → post result state → weaker result state) :
    view.Triple stronger program weaker :=
  fun state inv holds => (specified state inv (before state inv holds)).weaken inv returned

theorem Triple.of_pre (specified : view.Triple pre program post)
    (before : ∀ state, view.invariant state → stronger state → pre state) :
    view.Triple stronger program post := specified.weaken before fun _ _ _ holds => holds

theorem triple_of_fact {fact : Prop} (specified : fact → view.Triple pre program post) :
    view.Triple (fun state => fact ∧ pre state) program post :=
  fun state inv holds => specified holds.1 state inv holds.2

section

open Fallible

variable {view : View σ Op Answer} {pre : σ → Prop} {post : Except ε β → σ → Prop}
  {cont : α → Fallible ε Op Answer β}

theorem triple_bind {middle : α → σ → Prop} {first : Fallible ε Op Answer α}
    (specified : view.Triple pre first.run fun outcome state => match outcome with
      | .ok result => middle result state
      | .error error => post (.error error) state)
    (next : ∀ result, view.Triple (middle result) (cont result).run post) :
    view.Triple pre (first >>= cont).run post := by
  rw [ExceptT.run_bind]
  refine specified.bind fun outcome => ?_
  cases outcome with
  | ok result => exact next result
  | error error => exact triple_done fun _ _ holds => holds

theorem triple_ask {op : Op} {post : Except ε (Answer op) → σ → Prop} (stable : view.Stable pre)
    (performed : ∀ before answer after, view.invariant before →
      pre before → view.effect before op answer after →
        view.invariant after ∧ view.guarantee before after ∧ post (.ok answer) after) :
    view.Triple pre (ask op).run post :=
  triple_call stable performed fun _ => triple_done fun _ _ holds => holds

variable {value : Except ε α}

theorem triple_known_bind
    (next : ∀ result, value = .ok result → view.Triple pre (cont result).run post)
    (failed : ∀ error, value = .error error →
      ∀ state, view.invariant state → pre state → post (.error error) state := by
        exact fun _ _ _ _ _ => trivial) :
    view.Triple pre (known value >>= cont).run post := by
  cases value with
  | ok result => exact next result rfl
  | error error => exact triple_done (failed error rfl)

variable {post : Except ε α → σ → Prop}

theorem triple_known (returned : ∀ state, view.invariant state → pre state → post value state) :
    view.Triple pre (known value : Fallible ε Op Answer α).run post := triple_done returned

theorem triple_pure
    (returned : ∀ state, view.invariant state → pre state → post (.ok result) state) :
    view.Triple pre (pure result : Fallible ε Op Answer α).run post := triple_done returned

theorem triple_attempt {program : Fallible ε Op Answer α} {post : Except ε (Except ε α) → σ → Prop}
    (specified : view.Triple pre program.run fun outcome state => post (.ok outcome) state) :
    view.Triple pre (attempt program).run post := by
  rw [run_attempt]
  exact specified.bind fun _ => triple_done fun _ _ holds => holds

end

end View

/-- Whose move a step is. -/
inductive Mover (Host : Type) where
  | task (index : Nat)
  | crash (host : Host)
  | surroundings

/--
The promises of all parties of a machine: an invariant, the moves each party
is allowed, what a task that has not been started owes, and what a returned
task has achieved for good.
-/
structure Discipline {Job Host Shared Op : Type} {Answer : Op → Type} {α : Type}
    (machine : Machine Job Host Shared Op Answer α) where
  invariant : Shared → Prop
  moves : Mover Host → Shared → Shared → Prop
  fresh : Nat → Shared → Prop
  result : Nat → Job → α → Shared → Prop

namespace Discipline

variable {Job Host Shared Op : Type} {Answer : Op → Type} {α : Type}
  {machine : Machine Job Host Shared Op Answer α} {discipline : Discipline machine}

/-- A discipline as the task with this number and job sees it. -/
def view (discipline : Discipline machine) (index : Nat) (job : Job) : View Shared Op Answer where
  invariant := discipline.invariant
  effect := machine.effect index
  guarantee := discipline.moves (.task index)
  rely before after := ∃ mover,
    mover ≠ .task index ∧ mover ≠ .crash (machine.host job) ∧ discipline.moves mover before after

/-- Everybody keeps the promises. -/
structure Kept (discipline : Discipline machine) : Prop where
  cancel : ∀ index before after,
    discipline.invariant before →
      machine.cancel index before after →
        discipline.invariant after ∧ discipline.moves (.task index) before after
  crash : ∀ host before after,
    discipline.invariant before →
      machine.crash host before after →
        discipline.invariant after ∧ discipline.moves (.crash host) before after
  ambient : ∀ before after,
    discipline.invariant before →
      machine.ambient before after →
        discipline.invariant after ∧ discipline.moves .surroundings before after
  fresh : ∀ mover index before after,
    mover ≠ .task index →
      discipline.invariant before →
        discipline.moves mover before after →
          discipline.fresh index before → discipline.fresh index after
  result : ∀ mover index job returned before after,
    discipline.invariant before →
      discipline.moves mover before after →
        discipline.result index job returned before → discipline.result index job returned after
  code : ∀ index job,
    (discipline.view index job).Triple
      (discipline.fresh index)
      (machine.code job)
      (discipline.result index job)

/-- A snapshot in which all promises are kept. -/
structure Holds (discipline : Discipline machine) (config : Config Job Shared Op Answer α) :
    Prop where
  invariant : discipline.invariant config.shared
  fresh : ∀ index, config.tasks.length ≤ index → discipline.fresh index config.shared
  safe : ∀ (index : Nat) (task : Task Job Op Answer α),
    config.tasks[index]? = some task →
      task.live = true →
        ∃ since, discipline.invariant since ∧
          (discipline.view index task.job).Drifts since config.shared ∧
          (discipline.view index task.job).Safe (discipline.result index task.job) task.rest since
  result : ∀ (index : Nat) (task : Task Job Op Answer α) (returned : α),
    config.tasks[index]? = some task →
      task.rest = .done returned → discipline.result index task.job returned config.shared

theorem holds_idle (invariant : discipline.invariant shared)
    (fresh : ∀ index, discipline.fresh index shared) : discipline.Holds (Machine.idle shared) where
  invariant
  fresh index _ := fresh index
  safe index task found := by simp [Machine.idle] at found
  result index task returned found := by simp [Machine.idle] at found

variable {discipline : Discipline machine} {after : Shared} {index : Nat}

private theorem Holds.drift (holds : discipline.Holds config) (inv : discipline.invariant after)
    (moved : discipline.moves mover config.shared after) (found : config.tasks[index]? = some task)
    (live : task.live) (notOwn : mover ≠ .task index)
    (notHost : mover ≠ .crash (machine.host task.job)) :
    ∃ since, discipline.invariant since ∧ (discipline.view index task.job).Drifts since after ∧
      (discipline.view index task.job).Safe (discipline.result index task.job) task.rest since := by
  obtain ⟨since, invariantSince, drifts, safe⟩ := holds.safe index task found live
  exact ⟨since, invariantSince, drifts.tail ⟨⟨mover, notOwn, notHost, moved⟩, inv⟩, safe⟩

section

variable (kept : discipline.Kept)
include kept

private theorem Holds.elsewhere (holds : discipline.Holds config)
    (moved : discipline.moves mover config.shared after) (notTask : ∀ index, mover ≠ .task index) :
    (∀ index, config.tasks.length ≤ index → discipline.fresh index after) ∧
      ∀ (index : Nat) (task : Task Job Op Answer α) (returned : α),
        config.tasks[index]? = some task →
          task.rest = .done returned → discipline.result index task.job returned after :=
  ⟨fun index beyond =>
    kept.fresh mover index _ _ (notTask index) holds.invariant moved (holds.fresh index beyond),
    fun index task returned found finished => kept.result mover index _ _ _ _ holds.invariant moved
      (holds.result index task returned found finished)⟩

private theorem Holds.start (holds : discipline.Holds config) (job : Job) :
    discipline.Holds { config with tasks := config.tasks ++ [machine.start job] } where
  invariant := holds.invariant
  fresh index beyond := by
    simp only [List.length_append, List.length_singleton] at beyond
    exact holds.fresh index (by omega)
  safe index task found live := by
    rcases getElem?_concat_eq_some found with old | ⟨rfl, rfl⟩
    · exact holds.safe index task old live
    · exact ⟨config.shared, holds.invariant, .refl,
        kept.code _ job config.shared holds.invariant (holds.fresh _ (Nat.le_refl _))⟩
  result index task returned found finished := by
    rcases getElem?_concat_eq_some found with old | ⟨rfl, rfl⟩
    · exact holds.result index task returned old finished
    have safe := kept.code config.tasks.length job config.shared holds.invariant
      (holds.fresh _ (Nat.le_refl _))
    rw [show machine.code job = .done returned from finished] at safe
    exact safe

/-- A move of one task, after which this task is as it should be. -/
private theorem Holds.replace (holds : discipline.Holds config)
    (exists_ : index < config.tasks.length) (inv : discipline.invariant shared)
    (moved : discipline.moves (.task index) config.shared shared)
    (safe : changed.live → (discipline.view index changed.job).Safe
      (discipline.result index changed.job) changed.rest shared)
    (result : ∀ returned, changed.rest = .done returned →
      discipline.result index changed.job returned shared) :
    discipline.Holds ⟨shared, config.tasks.set index changed, log⟩ := by
  refine ⟨inv, ?fresh, ?safe, ?result⟩
  case fresh =>
    intro later beyond
    simp only [List.length_set] at beyond
    have ne : (Mover.task index : Mover Host) ≠ .task later := by
      intro same
      cases same
      omega
    exact kept.fresh _ later _ _ ne holds.invariant moved (holds.fresh later beyond)
  case safe =>
    intro other current foundOther liveOther
    rcases getElem?_set_eq_some foundOther with ⟨rfl, rfl⟩ | ⟨ne, old⟩
    · exact ⟨shared, inv, .refl, safe liveOther⟩
    · exact holds.drift inv moved old liveOther (by rintro ⟨⟩; exact ne rfl) nofun
  case result =>
    intro other current returned foundOther finished
    rcases getElem?_set_eq_some foundOther with ⟨rfl, rfl⟩ | ⟨ne, old⟩
    · exact result returned finished
    · exact kept.result _ other _ _ _ _ holds.invariant moved
        (holds.result other current returned old finished)

/-- One operation of a live task is a move it has promised. -/
private theorem Holds.perform {op : Op} {next : Answer op → Program Op Answer α}
    {answer : Answer op} (holds : discipline.Holds config)
    (found : config.tasks[index]? = some task) (live : task.live)
    (pending : task.rest = .call op next)
    (effect : machine.effect index config.shared op answer shared) : discipline.Holds
      { shared
        tasks := config.tasks.set index (task.advance ⟨op, answer⟩ (next answer))
        log := config.log ++ [⟨index, ⟨op, answer⟩⟩] } ∧
      discipline.moves (.task index) config.shared shared := by
  obtain ⟨_, _, drifts, safe⟩ := holds.safe index task found live
  rw [pending] at safe
  obtain ⟨inv, moved, rest⟩ := safe config.shared drifts holds.invariant answer shared effect
  refine ⟨holds.replace kept (List.getElem?_eq_some_iff.mp found).1 inv moved
    (fun _ => rest) fun returned finished => ?_, moved⟩
  rw [show next answer = .done returned from finished] at rest
  exact rest

/-- Dropping a task. -/
private theorem Holds.cancel (holds : discipline.Holds config)
    (found : config.tasks[index]? = some task)
    (dropped : machine.cancel index config.shared shared) :
    discipline.Holds
      { config with
        shared
        tasks := config.tasks.set index task.stop } := by
  obtain ⟨inv, moved⟩ := kept.cancel index _ _ holds.invariant dropped
  exact holds.replace kept (List.getElem?_eq_some_iff.mp found).1 inv moved
    (fun live => absurd live Bool.false_ne_true)
    fun returned finished => kept.result _ _ _ _ _ _ holds.invariant moved
      (holds.result _ task returned found finished)

/-- A crash stops the tasks of its host and is a move for all others. -/
private theorem Holds.crash [DecidableEq Host] {config : Config Job Shared Op Answer α}
    {host : Host} (holds : discipline.Holds config)
    (crashed : machine.crash host config.shared shared) :
    discipline.Holds
      { config with
        shared
        tasks := config.tasks.map (machine.survive host) } := by
  obtain ⟨inv, moved⟩ := kept.crash host _ _ holds.invariant crashed
  obtain ⟨fresh, result⟩ := holds.elsewhere kept moved (by rintro _ ⟨⟩)
  refine ⟨inv, ?fresh, ?safe, ?result⟩
  case fresh =>
    intro index beyond
    exact fresh index (by simpa using beyond)
  case safe =>
    intro index _ found live
    rw [List.getElem?_map, Option.map_eq_some_iff] at found
    obtain ⟨task, old, rfl⟩ := found
    -- Only a task of another host is still live.
    by_cases sameHost : machine.host task.job = host
    · simp [Machine.survive, sameHost, Task.stop] at live
    · simp only [Machine.survive, sameHost, if_false] at live ⊢
      exact holds.drift inv moved old live (by rintro ⟨⟩) (by rintro ⟨⟩; exact sameHost rfl)
  case result =>
    intro index _ returned found finished
    rw [List.getElem?_map, Option.map_eq_some_iff] at found
    obtain ⟨task, old, rfl⟩ := found
    have same : (machine.survive host task).job = task.job ∧
      (machine.survive host task).rest = task.rest := by
      unfold Machine.survive
      split <;> exact ⟨rfl, rfl⟩
    rw [same.1]
    exact result index task returned old (same.2 ▸ finished)

end

variable {before after : Config Job Shared Op Answer α}

theorem Holds.step [DecidableEq Host] (kept : discipline.Kept) (holds : discipline.Holds before)
    (step : machine.Step before after) : discipline.Holds after ∧ (after.shared = before.shared ∨
      ∃ mover, discipline.moves mover before.shared after.shared) := by
  cases step with
  | start job => exact ⟨holds.start kept job, .inl rfl⟩
  | perform found live pending effect =>
    obtain ⟨holdsAfter, moved⟩ := holds.perform kept found live pending effect
    exact ⟨holdsAfter, .inr ⟨_, moved⟩⟩
  | cancel found live dropped =>
    exact ⟨holds.cancel kept found dropped, .inr ⟨_, (kept.cancel _ _ _ holds.invariant dropped).2⟩⟩
  | crash _ crashed =>
    exact ⟨holds.crash kept crashed, .inr ⟨_, (kept.crash _ _ _ holds.invariant crashed).2⟩⟩
  | ambient moved =>
    obtain ⟨inv, allowed⟩ := kept.ambient _ _ holds.invariant moved
    obtain ⟨fresh, result⟩ := holds.elsewhere kept allowed nofun
    exact ⟨⟨inv, fresh, fun _ _ found live =>
      holds.drift inv allowed found live nofun nofun,
      result⟩,
      .inr ⟨_, allowed⟩⟩

theorem holds_of_steps [DecidableEq Host] (kept : discipline.Kept) (holds : discipline.Holds first)
    (steps : machine.Steps first last) : discipline.Holds last :=
  Machine.invariant_of_steps (fun _ _ holdsBefore step => (holdsBefore.step kept step).1)
    holds steps

/-- The machine whose every step is one of the promised moves. -/
def enforced (discipline : Discipline machine) : Machine Job Host Shared Op Answer α where
  code := machine.code
  host := machine.host
  effect index before operation answer after := machine.effect index before operation answer after ∧
    discipline.invariant before ∧
    discipline.invariant after ∧
    discipline.moves (.task index) before after
  cancel index before after := machine.cancel index before after ∧
    discipline.invariant before ∧
    discipline.invariant after ∧
    discipline.moves (.task index) before after
  crash host before after := machine.crash host before after ∧
    discipline.invariant before ∧
    discipline.invariant after ∧
    discipline.moves (.crash host) before after
  ambient before after := machine.ambient before after ∧
    discipline.invariant before ∧
    discipline.invariant after ∧
    discipline.moves .surroundings before after

theorem Holds.step_enforced [DecidableEq Host] (kept : discipline.Kept)
    (holds : discipline.Holds before) (step : machine.Step before after) :
    discipline.enforced.Step before after := by
  cases step with
  | start job => exact @Machine.Step.start _ _ _ _ _ _ _ discipline.enforced _ job
  | perform found live pending effect =>
    obtain ⟨holdsAfter, moved⟩ := holds.perform kept found live pending effect
    exact .perform found live pending ⟨effect, holds.invariant, holdsAfter.invariant, moved⟩
  | cancel found live dropped =>
    obtain ⟨inv, moved⟩ := kept.cancel _ _ _ holds.invariant dropped
    exact .cancel found live ⟨dropped, holds.invariant, inv, moved⟩
  | crash host crashed =>
    obtain ⟨inv, moved⟩ := kept.crash _ _ _ holds.invariant crashed
    exact @Machine.Step.crash _ _ _ _ _ _ _ discipline.enforced _ host _
      ⟨crashed, holds.invariant, inv, moved⟩
  | ambient moved =>
    obtain ⟨inv, allowed⟩ := kept.ambient _ _ holds.invariant moved
    exact .ambient ⟨moved, holds.invariant, inv, allowed⟩

theorem steps_enforced [DecidableEq Host] (kept : discipline.Kept) (holds : discipline.Holds first)
    (steps : machine.Steps first last) : discipline.enforced.Steps first last := by
  induction steps with
  | refl => exact .refl
  | tail prior step ih =>
    have holdsBefore := holds_of_steps kept holds prior
    exact ih.tail (holdsBefore.step_enforced kept step)

end Discipline

end Process
