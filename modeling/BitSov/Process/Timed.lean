import Mathlib.Logic.Basic

namespace Process

/-!
# Runs of timed acts

A system that takes one act at a time, each at a time of its own.  A run is
admitted when its times never decrease and every act is one that is allowed in
the state it meets; an invariant of such runs may speak about the time.
-/

namespace Timed

variable {State Act : Type} (perform : State → Nat → Act → State)
  (allowed : State → Nat → Act → Prop)

def run : State → List (Nat × Act) → State
  | state, [] => state
  | state, (now, act) :: rest => run (perform state now act) rest

/-- The time of the last act, or the given one when there is none. -/
def lastTime : Nat → List (Nat × Act) → Nat
  | since, [] => since
  | _, (now, _) :: rest => lastTime now rest

/-- The times never decrease and every act is allowed where it is taken. -/
def Admitted : Nat → State → List (Nat × Act) → Prop
  | _, _, [] => True
  | since, state, (now, act) :: rest =>
    since ≤ now ∧ allowed state now act ∧ Admitted now (perform state now act) rest

variable {perform allowed}

theorem run_append (state : State) (first rest : List (Nat × Act)) :
    run perform state (first ++ rest) = run perform (run perform state first) rest := by
  induction first generalizing state with
  | nil => rfl
  | cons _ _ ih => exact ih _

theorem admitted_append {since : Nat} {state : State} {first rest : List (Nat × Act)} :
    Admitted perform allowed since state (first ++ rest) ↔
      Admitted perform allowed since state first ∧
        Admitted perform allowed (lastTime since first) (run perform state first) rest := by
  induction first generalizing since state with
  | nil => exact (and_iff_right trivial).symm
  | cons _ _ ih => simp only [List.cons_append, Admitted, lastTime, run, ih, and_assoc]

theorem invariant_run {kept : Nat → State → Prop}
    (later : ∀ {since now state}, since ≤ now → kept since state → kept now state)
    (each : ∀ {now state act}, allowed state now act → kept now state →
      kept now (perform state now act))
    {steps : List (Nat × Act)} : ∀ {since state}, Admitted perform allowed since state steps →
      kept since state → kept (lastTime since steps) (run perform state steps) := by
  induction steps with
  | nil => exact fun _ holds => holds
  | cons _ _ ih =>
    intro _ _ admitted holds
    obtain ⟨ordered, isAllowed, restAdmitted⟩ := admitted
    exact ih restAdmitted (each isAllowed (later ordered holds))

end Timed

end Process
