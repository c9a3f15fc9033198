import BitSov.Process.Program

namespace Process

/-!
# What a run does to a state

The calls of a program take effect on a state one after the other.  `Completes`
relates the states before and after a run that returns a result, and `Leaves`
those before and after a run that was given up at any point, be it by a crash,
by cancellation or after an error.  Both follow the structure of the program.
-/

namespace Fallible

open Program

variable {Op σ : Type} {Answer : Op → Type} {α β ε : Type}
  {effect : σ → (operation : Op) → Answer operation → σ → Prop} {before after : σ}

variable {cont : α → Fallible ε Op Answer β} {value : Except ε α} {result : β}

/-- The program returns a result and its calls lead to the second state. -/
def Completes (effect : σ → (operation : Op) → Answer operation → σ → Prop)
    (program : Fallible ε Op Answer α) (before after : σ) (result : α) : Prop :=
  ∃ history, Reaches program.run history (.done (.ok result)) ∧
    Performed effect before history after

/-- The calls the program has made so far lead to the second state. -/
def Leaves (effect : σ → (operation : Op) → Answer operation → σ → Prop)
    (program : Fallible ε Op Answer α) (before after : σ) : Prop :=
  ∃ history rest, Reaches program.run history rest ∧ Performed effect before history after

theorem leaves_refl (program : Fallible ε Op Answer α) (state : σ) :
    Leaves effect program state state := ⟨[], program.run, .refl _, .nil state⟩

theorem completes_known_iff {result : α} :
    Completes effect (known value : Fallible ε Op Answer α) before after result ↔
      value = .ok result ∧ after = before := by
  constructor
  · rintro ⟨_, reached, performed⟩
    obtain ⟨rfl, same⟩ := reaches_known_iff.mp reached
    cases performed
    exact ⟨same, rfl⟩
  · rintro ⟨rfl, rfl⟩
    exact ⟨[], .refl _, .nil _⟩

theorem completes_pure_iff {value result : α} :
    Completes effect (pure value : Fallible ε Op Answer α) before after result ↔
      result = value ∧ after = before := by
  rw [show (pure value : Fallible ε Op Answer α) = known (.ok value) from rfl,
    completes_known_iff, Except.ok.injEq, eq_comm]

variable {operation : Op}

theorem completes_ask_iff :
    Completes effect (ask operation : Fallible ε Op Answer _) before after answer ↔
      effect before operation answer after := by
  constructor
  · rintro ⟨_, reached, performed⟩
    rw [run_ask, reaches_call_done_iff] at reached
    obtain ⟨_, _, rfl, reachedRest⟩ := reached
    obtain ⟨rfl, same⟩ := reaches_done_iff.mp reachedRest
    cases performed with
    | cons effective rest =>
      cases rest
      cases same
      exact effective
  · intro effective
    exact ⟨_, .call (.refl _), .cons effective (.nil after)⟩

variable {first : Fallible ε Op Answer α}

theorem completes_bind_iff :
    Completes effect (first >>= cont) before after result ↔ ∃ between middle,
      Completes effect first before between middle ∧
        Completes effect (cont middle) between after result := by
  constructor
  · rintro ⟨_, reached, performed⟩
    obtain ⟨prior, later, middle, rfl, reachedFirst, reachedRest⟩ := reaches_bind_ok reached
    obtain ⟨between, performedFirst, performedRest⟩ := performed_append_iff.mp performed
    exact ⟨between, middle, ⟨prior, reachedFirst, performedFirst⟩,
      ⟨later, reachedRest, performedRest⟩⟩
  rintro ⟨between, middle, ⟨prior, reachedFirst, performedFirst⟩,
    ⟨later, reachedRest, performedRest⟩⟩
  refine ⟨prior ++ later, ?_, performed_append_iff.mpr ⟨between, performedFirst, performedRest⟩⟩
  rw [ExceptT.run_bind]
  exact reachedFirst.bind reachedRest

theorem completes_ask_bind_iff {cont : Answer operation → Fallible ε Op Answer β} :
    Completes effect (ask operation >>= cont) before after result ↔ ∃ between answer,
      effect before operation answer between ∧
        Completes effect (cont answer) between after result := by
  simp only [completes_bind_iff, completes_ask_iff]

theorem completes_known_bind_iff :
    Completes effect (known value >>= cont) before after result ↔ ∃ middle,
      value = .ok middle ∧ Completes effect (cont middle) before after result := by
  simp only [completes_bind_iff, completes_known_iff]
  constructor
  · rintro ⟨_, middle, ⟨same, rfl⟩, completes⟩
    exact ⟨middle, same, completes⟩
  · rintro ⟨middle, same, completes⟩
    exact ⟨before, middle, ⟨same, rfl⟩, completes⟩

theorem leaves_known_iff :
    Leaves effect (known value : Fallible ε Op Answer α) before after ↔ after = before := by
  constructor
  · rintro ⟨_, _, reached, performed⟩
    obtain ⟨rfl, -⟩ := reaches_done_iff.mp reached
    cases performed
    rfl
  · rintro rfl
    exact leaves_refl _ _

theorem leaves_pure_iff {value : α} :
    Leaves effect (pure value : Fallible ε Op Answer α) before after ↔ after = before :=
  leaves_known_iff

theorem leaves_ask_iff : Leaves effect (ask operation : Fallible ε Op Answer _) before after ↔
      after = before ∨ ∃ answer, effect before operation answer after := by
  constructor
  · rintro ⟨_, _, reached, performed⟩
    rw [run_ask, reaches_call_iff] at reached
    rcases reached with ⟨rfl, rfl⟩ | ⟨answer, _, rfl, reachedRest⟩
    · cases performed
      exact .inl rfl
    obtain ⟨rfl, -⟩ := reaches_done_iff.mp reachedRest
    cases performed with
    | cons effective none =>
      cases none
      exact .inr ⟨answer, effective⟩
  · rintro (rfl | ⟨answer, effective⟩)
    · exact leaves_refl _ _
    · exact ⟨_, _, .call (.refl _), .cons effective (.nil after)⟩

theorem leaves_bind_iff :
    Leaves effect (first >>= cont) before after ↔ Leaves effect first before after ∨
      ∃ between middle, Completes effect first before between middle ∧
        Leaves effect (cont middle) between after := by
  constructor
  · rintro ⟨history, rest, reached, performed⟩
    rw [ExceptT.run_bind] at reached
    rcases reaches_bind reached with
      ⟨pending, reachedPending, -⟩ |
      ⟨prior, later, outcome, rfl, reachedFirst, reachedRest⟩
    · exact .inl ⟨history, pending, reachedPending, performed⟩
    obtain ⟨between, performedFirst, performedRest⟩ := performed_append_iff.mp performed
    cases outcome with
    | ok middle =>
      exact .inr ⟨between, middle, ⟨prior, reachedFirst, performedFirst⟩,
        ⟨later, rest, reachedRest, performedRest⟩⟩
    | error error =>
      obtain ⟨rfl, -⟩ := reaches_done_iff.mp reachedRest
      cases performedRest
      exact .inl ⟨prior, _, reachedFirst, performedFirst⟩
  · rintro (⟨history, rest, reached, performed⟩ |
      ⟨between, middle, ⟨prior, reachedFirst, performedFirst⟩,
        ⟨later, rest, reachedRest, performedRest⟩⟩)
    · exact ⟨history, _, reached.bind_left, performed⟩
    refine ⟨prior ++ later, rest, ?_,
      performed_append_iff.mpr ⟨between, performedFirst, performedRest⟩⟩
    rw [ExceptT.run_bind]
    exact reachedFirst.bind reachedRest

theorem leaves_ask_bind_iff {cont : Answer operation → Fallible ε Op Answer β} :
    Leaves effect (ask operation >>= cont) before after ↔ after = before ∨ ∃ between answer,
      effect before operation answer between ∧ Leaves effect (cont answer) between after := by
  rw [leaves_bind_iff, leaves_ask_iff]
  simp only [completes_ask_iff]
  constructor
  · rintro ((same | ⟨answer, effective⟩) | later)
    · exact .inl same
    · exact .inr ⟨after, answer, effective, leaves_refl _ _⟩
    · exact .inr later
  rintro (same | later)
  · exact .inl (.inl same)
  · exact .inr later

theorem leaves_known_bind_iff :
    Leaves effect (known value >>= cont) before after ↔ after = before ∨ ∃ middle,
      value = .ok middle ∧ Leaves effect (cont middle) before after := by
  rw [leaves_bind_iff, leaves_known_iff]
  simp only [completes_known_iff]
  constructor
  · rintro (same | ⟨_, middle, ⟨sameValue, rfl⟩, leaves⟩)
    · exact .inl same
    · exact .inr ⟨middle, sameValue, leaves⟩
  rintro (same | ⟨middle, sameValue, leaves⟩)
  · exact .inl same
  · exact .inr ⟨before, middle, ⟨sameValue, rfl⟩, leaves⟩

end Fallible

end Process
