import BitSov.Process.Program
import Mathlib.Logic.Relation

namespace Process

open List

/-!
# Interleaved tasks over a shared state

A `Machine` gives the code of every job and the atomic meaning of every
operation on one shared state. A `Config` holds the shared state, the tasks
started so far and the log of all operations in the order in which they took
effect. At every step any job may start, any live task may perform its pending
operation, any task may be cancelled between two operations, a host may crash
with all of its tasks, and the surroundings may move.
-/

/-- The code and the atomic operations of a concurrent system. -/
structure Machine (Job Host Shared Op : Type) (Answer : Op → Type) (α : Type) where
  code : Job → Program Op Answer α
  /-- The host whose crash stops the job. -/
  host : Job → Host
  /-- One operation of a numbered task as an atomic step. -/
  effect : Nat → Shared → (operation : Op) → Answer operation → Shared → Prop
  /-- What dropping a numbered task does to the shared state. -/
  cancel : Nat → Shared → Shared → Prop
  /-- What a crash of a host does to the shared state. -/
  crash : Host → Shared → Shared → Prop
  /-- A move of the surroundings. -/
  ambient : Shared → Shared → Prop

/-- One started job: its calls so far and what remains to be run. -/
structure Task (Job Op : Type) (Answer : Op → Type) (α : Type) where
  job : Job
  past : List (Event Op Answer)
  rest : Program Op Answer α
  live : Bool

/-- An operation in the log, with the number of the task that performed it. -/
structure Entry (Op : Type) (Answer : Op → Type) where
  task : Nat
  event : Event Op Answer

/-- A snapshot of the whole system. -/
structure Config (Job Shared Op : Type) (Answer : Op → Type) (α : Type) where
  shared : Shared
  tasks : List (Task Job Op Answer α)
  log : List (Entry Op Answer)

theorem getElem?_concat_eq_some {β : Type} {items : List β} {last item : β} {index : Nat}
    (found : (items ++ [last])[index]? = some item) :
    items[index]? = some item ∨ (index = items.length ∧ item = last) := by
  rw [List.getElem?_append] at found
  split at found
  · exact .inl found
  next _ =>
  rw [List.getElem?_singleton] at found
  split at found
  · next _ => exact .inr ⟨by omega, (Option.some.inj found).symm⟩
  · cases found

theorem getElem?_set_eq_some {β : Type} {items : List β} {new item : β} {position index : Nat}
    (found : (items.set position new)[index]? = some item) :
    (index = position ∧ item = new) ∨ (index ≠ position ∧ items[index]? = some item) := by
  rw [List.getElem?_set] at found
  split at found
  · next same =>
    split at found
    · exact .inl ⟨same.symm, (Option.some.inj found).symm⟩
    · cases found
  · next ne => exact .inr ⟨fun same => ne same.symm, found⟩

namespace Task

variable {Job Op : Type} {Answer : Op → Type} {α : Type}

def stop (task : Task Job Op Answer α) : Task Job Op Answer α :=
  { task with live := false }

/-- The task after its pending operation has been answered. -/
def advance (task : Task Job Op Answer α) (event : Event Op Answer) (rest : Program Op Answer α) :
    Task Job Op Answer α :=
  { task with past := task.past ++ [event], rest }

variable (task : Task Job Op Answer α)

@[simp] theorem stop_job : task.stop.job = task.job := rfl

@[simp] theorem stop_past : task.stop.past = task.past := rfl

@[simp] theorem stop_rest : task.stop.rest = task.rest := rfl

variable (event : Event Op Answer) (rest : Program Op Answer α)

@[simp] theorem advance_job : (task.advance event rest).job = task.job := rfl

@[simp] theorem advance_past : (task.advance event rest).past = task.past ++ [event] := rfl

@[simp] theorem advance_rest : (task.advance event rest).rest = rest := rfl

end Task

namespace Machine

variable {Job Host Shared Op : Type} {Answer : Op → Type} {α : Type}
  {machine : Machine Job Host Shared Op Answer α} {index : Nat}

def start (machine : Machine Job Host Shared Op Answer α) (job : Job) : Task Job Op Answer α where
  job
  past := []
  rest := machine.code job
  live := true

/-- The snapshot in which nothing has been started. -/
def idle (shared : Shared) : Config Job Shared Op Answer α where
  shared
  tasks := []
  log := []

/-- A task as a crash of `host` leaves it. -/
def survive [DecidableEq Host] (machine : Machine Job Host Shared Op Answer α) (host : Host)
    (task : Task Job Op Answer α) : Task Job Op Answer α :=
  if machine.host task.job = host then task.stop else task

/-- One step of the whole system. -/
inductive Step [DecidableEq Host] (machine : Machine Job Host Shared Op Answer α)
    (config : Config Job Shared Op Answer α) : Config Job Shared Op Answer α → Prop
  | start (job : Job) :
    Step machine config { config with tasks := config.tasks ++ [machine.start job] }
  | perform {index : Nat} {task : Task Job Op Answer α} {operation : Op}
    {next : Answer operation → Program Op Answer α} {answer : Answer operation}
    {shared : Shared} :
    config.tasks[index]? = some task →
    task.live = true →
    task.rest = .call operation next →
    machine.effect index config.shared operation answer shared →
    Step machine config
      { shared
        tasks := config.tasks.set index (task.advance ⟨operation, answer⟩ (next answer))
        log := config.log ++ [⟨index, ⟨operation, answer⟩⟩] }
  | cancel {index : Nat} {task : Task Job Op Answer α} {shared : Shared} :
    config.tasks[index]? = some task →
    task.live = true →
    machine.cancel index config.shared shared →
    Step machine config { config with shared, tasks := config.tasks.set index task.stop }
  | crash (host : Host) {shared : Shared} :
    machine.crash host config.shared shared →
    Step machine config { config with shared, tasks := config.tasks.map (machine.survive host) }
  | ambient {shared : Shared} :
    machine.ambient config.shared shared → Step machine config { config with shared }

/-- Any number of steps of the whole system. -/
abbrev Steps [DecidableEq Host] (machine : Machine Job Host Shared Op Answer α) :
    Config Job Shared Op Answer α → Config Job Shared Op Answer α → Prop :=
  Relation.ReflTransGen machine.Step

variable {first : Config Job Shared Op Answer α}

theorem invariant_of_steps [DecidableEq Host] {invariant : Config Job Shared Op Answer α → Prop}
    (kept : ∀ before after, invariant before → machine.Step before after → invariant after)
    (initially : invariant first) (steps : machine.Steps first last) : invariant last := by
  induction steps with
  | refl => exact initially
  | tail _ step ih => exact kept _ _ ih step

/-- The moves of the shared state keep a property of it. -/
structure KeepsShared (machine : Machine Job Host Shared Op Answer α)
    (property : Shared → Prop) : Prop where
  effect : ∀ index before operation answer after,
    property before → machine.effect index before operation answer after → property after
  cancel : ∀ index before after,
    property before → machine.cancel index before after → property after
  crash : ∀ host before after, property before → machine.crash host before after → property after
  ambient : ∀ before after, property before → machine.ambient before after → property after

theorem KeepsShared.of_steps [DecidableEq Host] {property : Shared → Prop}
    (keeps : machine.KeepsShared property) (initially : property first.shared)
    (steps : machine.Steps first last) : property last.shared := by
  induction steps with
  | refl => exact initially
  | tail _ step ih =>
    cases step with
    | start => exact ih
    | perform _ _ _ effect => exact keeps.effect _ _ _ _ _ ih effect
    | cancel _ _ cancelled => exact keeps.cancel _ _ _ ih cancelled
    | crash _ crashed => exact keeps.crash _ _ _ ih crashed
    | ambient moved => exact keeps.ambient _ _ ih moved

variable {after : Config Job Shared Op Answer α}

theorem Step.effect_of_logged [DecidableEq Host]
    {op : Op} {answer : Answer op} (step : machine.Step before after)
    (logged : after.log = before.log ++ [⟨index, ⟨op, answer⟩⟩]) :
    machine.effect index before.shared op answer after.shared := by
  cases step with
  | perform _ _ _ effect =>
    cases append_cancel_left logged
    exact effect
  | start | cancel | crash | ambient => simp at logged

/-- A task keeps its number and its job. -/
theorem Step.exists_job_eq [DecidableEq Host] {task : Task Job Op Answer α}
    (step : machine.Step before after) (found : before.tasks[index]? = some task) :
    ∃ later, after.tasks[index]? = some later ∧ later.job = task.job := by
  have bound := (List.getElem?_eq_some_iff.mp found).1
  cases step with
  | start => exact ⟨task, by rw [List.getElem?_append_left bound]; exact found, rfl⟩
  | @perform other _ _ _ _ _ foundOther | @cancel other _ _ foundOther =>
    obtain rfl | ne := eq_or_ne index other
    · rw [found] at foundOther
      cases foundOther
      exact ⟨_, List.getElem?_set_self bound, rfl⟩
    · exact ⟨task, by rw [List.getElem?_set_ne ne.symm]; exact found, rfl⟩
  | crash host =>
    refine ⟨machine.survive host task, by rw [List.getElem?_map, found]; rfl, ?_⟩
    unfold survive
    split <;> rfl
  | ambient => exact ⟨task, found, rfl⟩

/-- A live task may go on alone along any history of its remaining program. -/
theorem steps_resume [DecidableEq Host] {machine : Machine Job Host Shared Op Answer α}
    {config : Config Job Shared Op Answer α} {index : Nat} {task : Task Job Op Answer α}
    {history : List (Event Op Answer)} {rest : Program Op Answer α} {shared : Shared}
    (found : config.tasks[index]? = some task) (live : task.live)
    (reached : Program.Reaches task.rest history rest)
    (effects : Program.Performed (machine.effect index) config.shared history shared) :
    machine.Steps config
      { shared
        tasks := config.tasks.set index { task with past := task.past ++ history, rest }
        log := config.log ++ history.map (Entry.mk index) } := by
  generalize pending : task.rest = program at reached
  induction reached generalizing config task with
  | refl program =>
    cases effects
    have same : config.tasks.set index { task with past := task.past ++ [], rest := program } =
        config.tasks := by
      obtain ⟨bound, rfl⟩ := List.getElem?_eq_some_iff.mp found
      rw [← pending, append_nil]
      exact set_getElem_self bound
    rw [same, map_nil, append_nil]
  | @call op next answer _ rest reached ih =>
    cases effects with
    | cons effect later =>
      have bound := (List.getElem?_eq_some_iff.mp found).1
      refine .head (.perform found live pending effect) ?_
      have remaining := @ih
          { shared := _
            tasks := config.tasks.set index (task.advance ⟨op, answer⟩ (next answer))
            log := config.log ++ [⟨index, ⟨op, answer⟩⟩] }
          (task.advance ⟨op, answer⟩ (next answer))
          (by simp [bound]) live later rfl
      simpa [Task.advance] using remaining

theorem steps_run [DecidableEq Host] {machine : Machine Job Host Shared Op Answer α}
    {config : Config Job Shared Op Answer α} {job : Job} {history : List (Event Op Answer)}
    {rest : Program Op Answer α} {shared : Shared}
    (reached : Program.Reaches (machine.code job) history rest)
    (effects : Program.Performed (machine.effect config.tasks.length) config.shared
        history shared) : machine.Steps config
      { shared
        tasks := config.tasks ++ [⟨job, history, rest, true⟩]
        log := config.log ++ history.map (Entry.mk config.tasks.length) } := by
  refine .head (.start job) ?_
  have started : (config.tasks ++ [machine.start job])[config.tasks.length]? =
      some (machine.start job) := by
    simp
  have resumed : machine.Steps { config with tasks := config.tasks ++ [machine.start job] } _ :=
    steps_resume started rfl reached effects
  simpa [start] using resumed

theorem exists_step_of_run [DecidableEq Host] (config : Config Job Shared Op Answer α) {job : Job}
    {op : Op} {next : Answer op → Program Op Answer α} {answer : Answer op} {before after : Shared}
    (reached : Program.Reaches (machine.code job) history (.call op next))
    (effects : Program.Performed (machine.effect config.tasks.length) config.shared history before)
    (effect : machine.effect config.tasks.length before op answer after) :
    ∃ first second, machine.Steps config first ∧ machine.Step first second ∧
      first.shared = before ∧ second.shared = after :=
  ⟨_, _, steps_run reached effects, .perform List.getElem?_concat_length rfl rfl effect, rfl, rfl⟩

/-- The operations a numbered task has performed, in log order. -/
def pastOf (index : Nat) (log : List (Entry Op Answer)) : List (Event Op Answer) :=
  log.filterMap fun entry =>
    if entry.task = index then some entry.event else none

@[simp] theorem pastOf_append (index) (prior later : List (Entry Op Answer)) :
    pastOf index (prior ++ later) = pastOf index prior ++ pastOf index later := by
  simp [pastOf]

@[simp] theorem pastOf_singleton (index) (entry : Entry Op Answer) :
    pastOf index [entry] = if entry.task = index then [entry.event] else [] := by
  by_cases same : entry.task = index <;> simp [pastOf, same]

variable {log : List (Entry Op Answer)}

theorem mem_pastOf_iff {event : Event Op Answer} :
    event ∈ pastOf index log ↔ ⟨index, event⟩ ∈ log := by
  simp only [pastOf, mem_filterMap]
  constructor
  · rintro ⟨⟨task, logged⟩, mem, same⟩
    split at same
    · next sameTask =>
      obtain rfl : logged = event := Option.some.inj same
      obtain rfl : task = index := sameTask
      exact mem
    · cases same
  · intro mem
    exact ⟨_, mem, by simp⟩

/--
The tasks and the log tell the same story: a task has run its own code up to
where it stands, its past is its share of the log, and every log entry belongs
to a started task.
-/
structure Coherent (machine : Machine Job Host Shared Op Answer α)
    (config : Config Job Shared Op Answer α) : Prop where
  reaches : ∀ (index : Nat) (task : Task Job Op Answer α),
    config.tasks[index]? = some task → Program.Reaches (machine.code task.job) task.past task.rest
  past_eq : ∀ (index : Nat) (task : Task Job Op Answer α),
    config.tasks[index]? = some task → task.past = pastOf index config.log
  started : ∀ entry ∈ config.log, entry.task < config.tasks.length

theorem coherent_idle (machine : Machine Job Host Shared Op Answer α) (shared) :
    machine.Coherent (idle shared) where
  reaches := by simp [idle]
  past_eq := by simp [idle]
  started := by simp [idle]

private theorem pastOf_eq_nil {count : Nat} (started : ∀ entry ∈ log, entry.task < count)
    (fresh : count ≤ index) : pastOf index log = [] := by
  simp only [pastOf, filterMap_eq_nil_iff]
  intro entry mem
  have bound := started entry mem
  rw [if_neg (by omega)]

private theorem Coherent.replace {tasks : List (Task Job Op Answer α)}
    (coherent : machine.Coherent config) (sameLength : tasks.length = config.tasks.length)
    (sameTasks : ∀ (index : Nat) (task : Task Job Op Answer α), tasks[index]? = some task →
      ∃ old, config.tasks[index]? = some old ∧ task.job = old.job ∧ task.past = old.past ∧
        task.rest = old.rest) : machine.Coherent { config with shared, tasks } where
  reaches := by
    intro index task found
    obtain ⟨old, foundFormer, sameJob, samePast, sameRest⟩ := sameTasks index task found
    rw [sameJob, samePast, sameRest]
    exact coherent.reaches index old foundFormer
  past_eq := by
    intro index task found
    obtain ⟨old, foundFormer, _, samePast, _⟩ := sameTasks index task found
    rw [samePast]
    exact coherent.past_eq index old foundFormer
  started := by
    intro entry mem
    rw [sameLength]
    exact coherent.started entry mem

/-- Every step keeps tasks and log coherent. -/
theorem Coherent.step [DecidableEq Host] (coherent : machine.Coherent before)
    (step : machine.Step before after) : machine.Coherent after := by
  cases step with
  | start =>
    refine ⟨?_, ?_, ?_⟩
    · intro index task found
      rcases getElem?_concat_eq_some found with old | ⟨_, rfl⟩
      · exact coherent.reaches index task old
      · exact .refl _
    · intro index task found
      rcases getElem?_concat_eq_some found with old | ⟨rfl, rfl⟩
      · exact coherent.past_eq index task old
      · exact (pastOf_eq_nil coherent.started (Nat.le_refl _)).symm
    intro entry mem
    have bound := coherent.started entry mem
    simp only [length_append, length_singleton]
    omega
  | @perform index task op next _ shared found live pending _ =>
    have reached := coherent.reaches index task found
    refine ⟨?_, ?_, ?_⟩
    · intro position other foundOther
      rcases getElem?_set_eq_some foundOther with ⟨rfl, rfl⟩ | ⟨_, old⟩
      · rw [pending] at reached
        exact reached.trans (.call (.refl _))
      · exact coherent.reaches position other old
    · intro position other foundOther
      rcases getElem?_set_eq_some foundOther with
        ⟨rfl, rfl⟩ | ⟨ne, old⟩
      · simp [coherent.past_eq position task found]
      · simp [coherent.past_eq position other old, ne.symm]
    intro entry mem
    simp only [length_set]
    rcases mem_append.mp mem with old | last
    · exact coherent.started entry old
    · rw [mem_singleton.mp last]
      exact (List.getElem?_eq_some_iff.mp found).1
  | @cancel index task shared found live cancelled =>
    refine coherent.replace (by simp) ?_
    intro position other foundOther
    rcases getElem?_set_eq_some foundOther with ⟨rfl, rfl⟩ | ⟨_, old⟩
    · exact ⟨task, found, rfl, rfl, rfl⟩
    · exact ⟨other, old, rfl, rfl, rfl⟩
  | crash =>
    refine coherent.replace (by simp) ?_
    intro position other foundOther
    rw [List.getElem?_map, Option.map_eq_some_iff] at foundOther
    obtain ⟨old, foundFormer, rfl⟩ := foundOther
    refine ⟨old, foundFormer, ?_⟩
    unfold survive
    split <;> simp
  | ambient => exact coherent.replace rfl fun _ task found => ⟨task, found, rfl, rfl, rfl⟩

theorem coherent_of_steps [DecidableEq Host] (steps : machine.Steps (idle shared) config) :
    machine.Coherent config :=
  invariant_of_steps (fun _ _ coherent step => coherent.step step) (machine.coherent_idle shared)
    steps

end Machine

end Process
