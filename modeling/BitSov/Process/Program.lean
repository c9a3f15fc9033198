import Mathlib.Data.List.Basic

namespace Process

/-!
# Sequential programs over atomic operations

A `Program` is a finite tree of calls: it either returns a result or performs
one operation of its environment and continues with the answer. An
asynchronous function is such a program with one call for each point at which
it waits, so everything between two calls is one atomic step of the caller.

`Reaches` records the calls a program has made so far together with their
answers. A program that has made no further progress is simply left behind:
every history of a cancelled caller is a history of this kind.
-/

/-- A program that performs operations and finally returns a result. -/
inductive Program (Op : Type) (Answer : Op → Type) (α : Type) where
  | done (result : α)
  | call (operation : Op) (next : Answer operation → Program Op Answer α)

/-- One operation together with the answer it received. -/
structure Event (Op : Type) (Answer : Op → Type) where
  operation : Op
  answer : Answer operation

namespace Program

variable {Op : Type} {Answer : Op → Type} {α β ε : Type}
  {history : List (Event Op Answer)} {cont : α → Program Op Answer β}
  {program first rest : Program Op Answer α} {allowed : Op → Prop} {operation : Op} {result : α}

/-- Run `first`, then continue with its result. -/
def bind : Program Op Answer α → (α → Program Op Answer β) → Program Op Answer β
  | .done result, cont => cont result
  | .call operation next, cont => .call operation fun answer => (next answer).bind cont

instance : Monad (Program Op Answer) where
  pure := .done
  bind

@[simp] theorem pure_eq_done (result) : (pure result : Program Op Answer α) = .done result := rfl

@[simp] theorem done_bind (result : α) (cont : α → Program Op Answer β) :
    (done result : Program Op Answer α) >>= cont = cont result := rfl

@[simp] theorem call_bind (operation) (next : Answer operation → Program Op Answer α)
    (cont : α → Program Op Answer β) : call operation next >>= cont =
      .call operation fun answer => next answer >>= cont := rfl

/-- Sequential composition is associative and has `done` as its unit. -/
instance : LawfulMonad (Program Op Answer) :=
  LawfulMonad.mk' (Program Op Answer) (by
    intro α program
    induction program with
    | done result => rfl
    | call operation next ih => exact congrArg (call operation) (funext ih))
    (fun _ _ => rfl)
    (by
      intro α β γ program first second
      induction program with
      | done result => rfl
      | call operation next ih => exact congrArg (call operation) (funext ih))

/-- The calls in `history` lead from the first program to the second one. -/
inductive Reaches : Program Op Answer α → List (Event Op Answer) → Program Op Answer α → Prop
  | refl (program : Program Op Answer α) : Reaches program [] program
  | call {operation : Op} {next : Answer operation → Program Op Answer α}
    {answer : Answer operation} {history : List (Event Op Answer)} {rest : Program Op Answer α} :
    Reaches (next answer) history rest →
    Reaches (.call operation next) (⟨operation, answer⟩ :: history) rest

@[simp] theorem reaches_done_iff :
    Reaches (.done result) history rest ↔ history = [] ∧ rest = .done result := by
  constructor
  · intro reached
    cases reached
    exact ⟨rfl, rfl⟩
  · rintro ⟨rfl, rfl⟩
    exact .refl _

variable {next : Answer operation → Program Op Answer α}

theorem reaches_call_iff :
    Reaches (.call operation next) history rest ↔ (history = [] ∧ rest = .call operation next) ∨
      ∃ answer later,
        history = ⟨operation, answer⟩ :: later ∧ Reaches (next answer) later rest := by
  constructor
  · intro reached
    cases reached with
    | refl => exact .inl ⟨rfl, rfl⟩
    | call later => exact .inr ⟨_, _, rfl, later⟩
  rintro (⟨rfl, rfl⟩ | ⟨_, later, rfl, reached⟩)
  · exact .refl _
  · exact .call reached

theorem reaches_call_done_iff :
    Reaches (.call operation next) history (.done result) ↔ ∃ answer later,
      history = ⟨operation, answer⟩ :: later ∧ Reaches (next answer) later (.done result) := by
  simp [reaches_call_iff]

theorem Reaches.trans (reachedSecond : Reaches first earlier second)
    (reachedThird : Reaches second later third) : Reaches first (earlier ++ later) third := by
  induction reachedSecond with
  | refl => exact reachedThird
  | call _ ih => exact .call (ih reachedThird)

theorem Reaches.bind_left (reached : Reaches first history pending) :
    Reaches (first >>= cont) history (pending >>= cont) := by
  induction reached with
  | refl => exact .refl _
  | call _ ih => exact .call ih

theorem Reaches.bind {rest : Program Op Answer β}
    (reachedFirst : Reaches first earlier (.done result))
    (reachedRest : Reaches (cont result) later rest) :
    Reaches (first >>= cont) (earlier ++ later) rest := reachedFirst.bind_left.trans reachedRest

theorem reaches_bind {rest : Program Op Answer β}
    (reached : Reaches (first >>= cont) history rest) :
    (∃ pending, Reaches first history pending ∧ rest = pending >>= cont) ∨
      ∃ earlier later result, history = earlier ++ later ∧ Reaches first earlier (.done result) ∧
        Reaches (cont result) later rest := by
  induction first generalizing history with
  | done result => exact .inr ⟨[], history, result, rfl, .refl _, reached⟩
  | call _ _ ih =>
    rw [call_bind, reaches_call_iff] at reached
    rcases reached with ⟨rfl, rfl⟩ | ⟨answer, _, rfl, reached⟩
    · exact .inl ⟨_, .refl _, rfl⟩
    rcases ih answer reached with
    ⟨pending, reachedPending, rfl⟩ |
    ⟨earlier, latest, result, rfl, reachedResult, reachedRest⟩
    · exact .inl ⟨pending, .call reachedPending, rfl⟩
    · exact .inr ⟨_ :: earlier, latest, result, rfl, .call reachedResult, reachedRest⟩

theorem reaches_bind_done {result : β} (reached : Reaches (first >>= cont) history (.done result)) :
    ∃ earlier later middle, history = earlier ++ later ∧ Reaches first earlier (.done middle) ∧
      Reaches (cont middle) later (.done result) := by
  rcases reaches_bind reached with
    ⟨pending, reachedPending, restEquation⟩ | completed
  · cases pending with
    | done middle =>
      exact ⟨history, [], middle, by simp, reachedPending, by rw [restEquation]; exact .refl _⟩
    | call => simp at restEquation
  · exact completed

/-- Run a program against a state that answers every operation. -/
def runWith {σ : Type} (handler : (operation : Op) → σ → Answer operation × σ) :
    Program Op Answer α → σ → α × σ
  | .done result, state => (result, state)
  | .call operation next, state =>
    (next (handler operation state).1).runWith handler (handler operation state).2

variable {σ : Type}

section

variable (handler : (operation : Op) → σ → Answer operation × σ)
include handler

@[simp] theorem runWith_done
    (result : α) (state) : (done result).runWith handler state = (result, state) := rfl

@[simp] theorem runWith_call (operation) (next : Answer operation → Program Op Answer α) (state) :
    (call operation next).runWith handler state =
      (next (handler operation state).1).runWith handler (handler operation state).2 := rfl

@[simp] theorem runWith_bind (first : Program Op Answer α) (cont : α → Program Op Answer β)
    (state) :
    (first >>= cont).runWith handler state = (cont (first.runWith handler state).1).runWith handler
        (first.runWith handler state).2 := by
  induction first generalizing state with
  | done => rfl
  | call _ _ ih => exact ih _ _

end

/-- A history whose answers are those of a handler, with its final state. -/
inductive Answers {σ : Type} (handler : (operation : Op) → σ → Answer operation × σ) :
    σ → List (Event Op Answer) → σ → Prop
  | nil (state : σ) : Answers handler state [] state
  | cons {state last : σ} {operation : Op} {history : List (Event Op Answer)} :
    Answers handler (handler operation state).2 history last →
    Answers handler state (⟨operation, (handler operation state).1⟩ :: history) last

theorem exists_reaches_runWith (handler) (program : Program Op Answer α) (state : σ) :
    ∃ history, Reaches program history (.done (program.runWith handler state).1) ∧
      Answers handler state history (program.runWith handler state).2 := by
  induction program generalizing state with
  | done => exact ⟨[], .refl _, .nil state⟩
  | call operation _ ih =>
    obtain ⟨history, reached, answers⟩ := ih (handler operation state).1 (handler operation state).2
    exact ⟨_ :: history, .call reached, .cons answers⟩

theorem Reaches.runWith_eq {handler : (operation : Op) → σ → Answer operation × σ} {state last : σ}
    (reached : Reaches program history (.done result))
    (answers : Answers handler state history last) :
    program.runWith handler state = (result, last) := by
  generalize finished : done result = rest at reached
  induction reached generalizing state with
  | refl =>
    subst finished
    cases answers
    rfl
  | call reached ih =>
    cases answers with
    | cons later => exact ih later finished

/-- A history performed on a state, one atomic effect after the other. -/
inductive Performed {σ : Type} (effect : σ → (operation : Op) → Answer operation → σ → Prop) :
    σ → List (Event Op Answer) → σ → Prop
  | nil (state : σ) : Performed effect state [] state
  | cons {first second third : σ} {event : Event Op Answer} {history : List (Event Op Answer)} :
    effect first event.operation event.answer second →
    Performed effect second history third →
    Performed effect first (event :: history) third

theorem performed_append_iff {effect : σ → (operation : Op) → Answer operation → σ → Prop}
    {first last : σ} : Performed effect first (earlier ++ later) last ↔
      ∃ between, Performed effect first earlier between ∧ Performed effect between later last := by
  induction earlier generalizing first with
  | nil =>
    constructor
    · intro performed
      exact ⟨first, .nil first, performed⟩
    · rintro ⟨_, ⟨⟩, performed⟩
      exact performed
  | cons _ earlier ih =>
    constructor
    · intro performed
      cases performed with
      | cons effective rest =>
        obtain ⟨between, restEarlier, restLater⟩ := ih.mp rest
        exact ⟨between, .cons effective restEarlier, restLater⟩
    rintro ⟨between, performed, performedLater⟩
    cases performed with
    | cons effective rest => exact .cons effective (ih.mpr ⟨between, rest, performedLater⟩)

/-- Every operation the program can perform is allowed. -/
def Performs (allowed : Op → Prop) : Program Op Answer α → Prop
  | .done _ => True
  | .call operation next => allowed operation ∧ ∀ answer, Performs allowed (next answer)

@[simp] theorem performs_done (allowed result) :
    Performs allowed (.done result : Program Op Answer α) := trivial

@[simp] theorem performs_call_iff : Performs allowed (.call operation next) ↔
      allowed operation ∧ ∀ answer, Performs allowed (next answer) := Iff.rfl

theorem Performs.bind (firstAllowed : Performs allowed first)
    (continuationAllowed : ∀ result, Performs allowed (cont result)) :
    Performs allowed (first >>= cont) := by
  induction first with
  | done result => exact continuationAllowed result
  | call _ _ ih =>
    exact ⟨firstAllowed.1, fun answer => ih answer (firstAllowed.2 answer)⟩

section

variable (programAllowed : Performs allowed program)
include programAllowed

theorem Performs.mono (weaker : ∀ operation, allowed operation → admitted operation) :
    Performs admitted program := by
  induction program with
  | done => trivial
  | call operation _ ih =>
    exact ⟨weaker operation programAllowed.1, fun answer => ih answer (programAllowed.2 answer)⟩

theorem Performs.of_reaches (reached : Reaches program history rest) : Performs allowed rest := by
  induction reached with
  | refl => exact programAllowed
  | call _ ih => exact ih (programAllowed.2 _)

theorem Performs.mem_history (reached : Reaches program history rest) :
    ∀ event ∈ history, allowed event.operation := by
  induction reached with
  | refl => simp
  | call _ ih =>
    intro event mem
    rcases List.mem_cons.mp mem with rfl | laterMem
    · exact programAllowed.1
    · exact ih (programAllowed.2 _) event laterMem

end

/--
The program succeeds exactly by a commit: a commit is its last call, and
without one it does not succeed.
-/
def SucceedsBy (commit : Event Op Answer → Prop) (success : α → Prop) : Program Op Answer α → Prop
  | .done result => ¬ success result
  | .call operation next =>
    ∀ answer, (commit ⟨operation, answer⟩ ∧
      ∃ result, next answer = .done result ∧ success result) ∨
      (¬ commit ⟨operation, answer⟩ ∧ SucceedsBy commit success (next answer))

theorem SucceedsBy.bind
    (firstQuiet : Performs (fun operation => ∀ answer, ¬ commit ⟨operation, answer⟩) first)
    (continuationCommits : ∀ result, SucceedsBy commit success (cont result)) :
    SucceedsBy commit success (first >>= cont) := by
  induction first with
  | done result => exact continuationCommits result
  | call _ _ ih =>
    intro answer
    exact .inr ⟨firstQuiet.1 answer, ih answer (firstQuiet.2 answer)⟩

theorem SucceedsBy.of_reaches (commits : SucceedsBy commit success program)
    (reached : Reaches program history rest) :
    ((∃ event ∈ history, commit event) ∧ ∃ result, rest = .done result ∧ success result) ∨
      ((∀ event ∈ history, ¬ commit event) ∧ SucceedsBy commit success rest) := by
  induction reached with
  | refl => exact .inr ⟨by simp, commits⟩
  | @call operation next answer _ _ reached ih =>
    rcases commits answer with
      ⟨committed, result, nextDone, successful⟩ | ⟨quiet, laterCommits⟩
    · rw [nextDone, reaches_done_iff] at reached
      exact .inl ⟨⟨_, List.mem_cons_self, committed⟩, result, reached.2, successful⟩
    rcases ih laterCommits with
    ⟨⟨event, mem, committed⟩, finished⟩ | ⟨noCommit, restCommits⟩
    · exact .inl ⟨⟨event, List.mem_cons_of_mem _ mem, committed⟩, finished⟩
    refine .inr ⟨?_, restCommits⟩
    intro event mem
    rcases List.mem_cons.mp mem with rfl | laterMem
    · exact quiet
    · exact noCommit event laterMem

end Program

/-- A program that may fail with an error. -/
abbrev Fallible (ε Op : Type) (Answer : Op → Type) (α : Type) :=
  ExceptT ε (Program Op Answer) α

namespace Fallible

open Program ExceptT

variable {Op : Type} {Answer : Op → Type} {α β ε : Type}
  {cont : α → Fallible ε Op Answer β} {first : Fallible ε Op Answer α} {allowed : Op → Prop}
  {outcome value : Except ε α}
  {operation : Op} {result : β}

/-- Perform one operation; its answer is not interpreted. -/
def ask (operation : Op) : Fallible ε Op Answer (Answer operation) :=
  mk (.call operation fun answer => .done (.ok answer))

/-- Continue with a value or fail with an error that is already known. -/
def known (value : Except ε α) : Fallible ε Op Answer α :=
  mk (.done value)

def failIf (condition : Prop) [Decidable condition] (error : ε) : Fallible ε Op Answer Unit :=
  known (if condition then .error error else .ok ())

/-- Run a program and look at its outcome instead of failing with it. -/
def attempt (program : Fallible ε Op Answer α) : Fallible ε Op Answer (Except ε α) :=
  mk (program.run >>= fun outcome => .done (.ok outcome))

theorem bind_eq_ok_iff {first : Except ε α} {next : α → Except ε β} :
    (first >>= next) = .ok result ↔ ∃ value, first = .ok value ∧ next value = .ok result := by
  cases first with
  | ok value =>
    refine ⟨fun succeeded => ⟨value, rfl, succeeded⟩, ?_⟩
    rintro ⟨_, ⟨⟩, succeeded⟩
    exact succeeded
  | error error =>
    constructor
    · exact nofun
    · rintro ⟨_, ⟨⟩, _⟩

@[simp] theorem run_ask_bind (operation) (cont : Answer operation → Fallible ε Op Answer β) :
    (ask operation >>= cont).run = .call operation fun answer => (cont answer).run := rfl

theorem run_ask (operation) : (ask operation : Fallible ε Op Answer (Answer operation)).run =
      .call operation fun answer => .done (.ok answer) := rfl

theorem run_attempt (program : Fallible ε Op Answer α) :
    (attempt program).run = program.run >>= fun outcome => .done (.ok outcome) := rfl

@[simp] theorem run_known (value) : (known value : Fallible ε Op Answer α).run = .done value := rfl

theorem known_ok_bind (result : α) (cont : α → Fallible ε Op Answer β) :
    known (.ok result) >>= cont = cont result := rfl

theorem run_known_bind (value) (cont : α → Fallible ε Op Answer β) : (known value >>= cont).run =
      match value with
      | .ok result => (cont result).run
      | .error error => .done (.error error) := by
  cases value <;> rfl

theorem reaches_ask_bind_iff {cont : Answer operation → Fallible ε Op Answer β}
    {outcome : Except ε β} :
    Reaches (ask operation >>= cont).run history (.done outcome) ↔ ∃ answer later,
      history = ⟨operation, answer⟩ :: later ∧ Reaches (cont answer).run later (.done outcome) := by
  rw [run_ask_bind, reaches_call_done_iff]

theorem reaches_known_bind_ok_iff :
    Reaches (known value >>= cont).run history (.done (.ok result)) ↔ ∃ middle,
      value = .ok middle ∧ Reaches (cont middle).run history (.done (.ok result)) := by
  cases value <;> simp [run_known_bind]

theorem reaches_known_iff :
    Reaches (known value : Fallible ε Op Answer α).run history (.done outcome) ↔
      history = [] ∧ value = outcome := by
  simp [eq_comm]

theorem reaches_pure_iff {result : α} :
    Reaches (pure result : Fallible ε Op Answer α).run history (.done outcome) ↔
      history = [] ∧ outcome = .ok result := by
  simp

theorem reaches_bind_ok (reached : Reaches (first >>= cont).run history (.done (.ok result))) :
    ∃ earlier later middle, history = earlier ++ later ∧
      Reaches first.run earlier (.done (.ok middle)) ∧
      Reaches (cont middle).run later (.done (.ok result)) := by
  rw [run_bind] at reached
  obtain ⟨earlier, later, outcome, rfl, reachedFirst, reachedRest⟩ := reaches_bind_done reached
  cases outcome with
  | ok middle => exact ⟨earlier, later, middle, rfl, reachedFirst, reachedRest⟩
  | error error => simp at reachedRest

variable {program : Fallible ε Op Answer α}

theorem reaches_attempt_ok (reached : Reaches (attempt program).run history (.done (.ok outcome))) :
    Reaches program.run history (.done outcome) := by
  obtain ⟨_, _, _, rfl, reachedProgram, reachedRest⟩ :=
    reaches_bind_done (show Reaches (program.run >>= _) _ _ from reached)
  obtain ⟨rfl, sameOutcome⟩ := reaches_done_iff.mp reachedRest
  simp only [done.injEq, Except.ok.injEq] at sameOutcome
  simpa [sameOutcome] using reachedProgram

theorem runWith_bind_congr {σ : Type} {handler : (operation : Op) → σ → Answer operation × σ}
    {second : Fallible ε Op Answer α} {firstNext secondNext : α → Fallible ε Op Answer β}
    (sameFirst : ∀ state, first.run.runWith handler state = second.run.runWith handler state)
    (sameNext : ∀ result state, (firstNext result).run.runWith handler state =
      (secondNext result).run.runWith handler state) (state) :
    (first >>= firstNext).run.runWith handler state =
      (second >>= secondNext).run.runWith handler state := by
  simp only [run_bind, runWith_bind, sameFirst]
  cases (second.run.runWith handler state).1 with
  | ok result => exact sameNext result _
  | error error => rfl

theorem performs_bind (firstAllowed : Performs allowed first.run)
    (continuationAllowed : ∀ result, Performs allowed (cont result).run) :
    Performs allowed (first >>= cont).run := by
  rw [run_bind]
  refine firstAllowed.bind fun outcome => ?_
  cases outcome with
  | ok result => exact continuationAllowed result
  | error error => trivial

theorem succeedsBy_bind (failure : ∀ error, ¬ success (.error error))
    (firstQuiet : Performs (fun operation => ∀ answer, ¬ commit ⟨operation, answer⟩) first.run)
    (continuationCommits : ∀ result, SucceedsBy commit success (cont result).run) :
    SucceedsBy commit success (first >>= cont).run := by
  rw [run_bind]
  refine SucceedsBy.bind firstQuiet fun outcome => ?_
  cases outcome with
  | ok result => exact continuationCommits result
  | error error => exact failure error

theorem performs_attempt (programAllowed : Performs allowed program.run) :
    Performs allowed (attempt program).run := programAllowed.bind fun _ => trivial

@[simp] theorem performs_ask_iff :
    Performs allowed (ask operation : Fallible ε Op Answer (Answer operation)).run ↔
      allowed operation := by
  simp [ask, run, mk]

theorem performs_ask_bind_iff {cont : Answer operation → Fallible ε Op Answer β} :
    Performs allowed (ask operation >>= cont).run ↔
      allowed operation ∧ ∀ answer, Performs allowed (cont answer).run := Iff.rfl

theorem performs_known_bind_iff : Performs allowed (known value >>= cont).run ↔
      ∀ result, value = .ok result → Performs allowed (cont result).run := by
  cases value <;> simp [run_known_bind]

@[simp] theorem performs_known (value) :
    Performs allowed (known value : Fallible ε Op Answer α).run := trivial

end Fallible

end Process
