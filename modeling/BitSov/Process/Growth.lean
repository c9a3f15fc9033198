import BitSov.Process.Safety

namespace Process

/-!
# Programs over a state that only grows

Often what a task learns about the shared state stays true: entries are added
and final entries are kept. `Growth` is an order in which every step of
everybody goes up, and `Secure since program post` says that the program is
safe from every state above `since`. What is known about `since` is then an
ordinary hypothesis, and a rule hands the state after a call on to the rest of
the program.
-/

namespace View

variable {σ Op : Type} {Answer : Op → Type} {α β ε : Type}

/-- An order in which every step goes up. -/
structure Growth (view : View σ Op Answer) where
  le : σ → σ → Prop
  refl : ∀ state, le state state
  trans : ∀ {first second third}, le first second → le second third → le first third
  rely : ∀ before after, view.rely before after → le before after
  guarantee : ∀ before after, view.guarantee before after → le before after

namespace Growth

variable {view : View σ Op Answer} {growth : view.Growth} {post : α → σ → Prop} {since : σ}

theorem le_of_drifts (growth : view.Growth) (drifts : view.Drifts before after) :
    growth.le before after := by
  induction drifts with
  | refl => exact growth.refl before
  | tail _ step ih => exact growth.trans ih (growth.rely _ _ step.1)

variable {program : Program Op Answer α}

theorem safe_above (growth : view.Growth) (safe : view.Safe post program state) :
    view.Safe (fun result final => growth.le state final ∧ post result final) program state := by
  induction program generalizing state with
  | done _ => exact ⟨growth.refl state, safe⟩
  | call _ _ ih =>
    intro current drifts inv answer after effect
    obtain ⟨invAfter, kept, rest⟩ := safe current drifts inv answer after effect
    have above := growth.trans (growth.le_of_drifts drifts) (growth.guarantee current after kept)
    refine ⟨invAfter, kept, ?_⟩
    exact (ih answer rest).weaken invAfter
      fun _ _ _ reached => ⟨growth.trans above reached.1, reached.2⟩

/-- The program is safe from every state above this one. -/
def Secure (growth : view.Growth) (since : σ) (program : Program Op Answer α)
    (post : α → σ → Prop) : Prop :=
  ∀ state, view.invariant state → growth.le since state → view.Safe post program state

theorem secure_done
    (returned : ∀ state, view.invariant state → growth.le since state → post result state) :
    growth.Secure since (.done result) post := returned

theorem secure_call
    (performed : ∀ before answer after, view.invariant before → growth.le since before →
      view.effect before op answer after → view.invariant after ∧ view.guarantee before after ∧
        growth.Secure after (next answer) post) : growth.Secure since (.call op next) post := by
  intro _ _ above current drifts invNow answer after effect
  obtain ⟨invAfter, kept, rest⟩ := performed current answer after invNow
    (growth.trans above (growth.le_of_drifts drifts)) effect
  exact ⟨invAfter, kept, rest after invAfter (growth.refl after)⟩

theorem Secure.weaken (secure : growth.Secure since program post) (returned : ∀ result state,
      view.invariant state → growth.le since state → post result state → weaker result state) :
    growth.Secure since program weaker := by
  intro state inv above
  refine (growth.safe_above (secure state inv above)).weaken inv ?_
  intro result final invariantFinal reached
  exact returned result final invariantFinal (growth.trans above reached.1) reached.2

theorem Secure.bind {first : Program Op Answer α}
    {cont : α → Program Op Answer β} {middle : α → σ → Prop} {post : β → σ → Prop}
    (secure : growth.Secure since first middle)
    (next : ∀ result later, view.invariant later → growth.le since later →
      middle result later → view.Safe post (cont result) later) :
    growth.Secure since (first >>= cont) post := by
  intro state inv above
  refine Safe.bind inv (growth.safe_above (secure state inv above)) ?_
  intro result later invariantLater reached
  exact next result later invariantLater (growth.trans above reached.1) reached.2

section

open Fallible

variable {growth : view.Growth} {post : Except ε β → σ → Prop} {since : σ}

variable {cont : α → Fallible ε Op Answer β}

theorem secure_bind (secure : growth.Secure since first.run middle)
    (failed : ∀ error later, view.invariant later →
      growth.le since later → middle (.error error) later → post (.error error) later)
    (next : ∀ result later, view.invariant later → growth.le since later →
      middle (.ok result) later → growth.Secure later (cont result).run post) :
    growth.Secure since (first >>= cont).run post := by
  rw [ExceptT.run_bind]
  refine secure.bind fun outcome later inv above reached => ?_
  cases outcome with
  | ok result => exact next result later inv above reached later inv (growth.refl later)
  | error error => exact failed error later inv above reached

variable {value : Except ε α}

theorem secure_known_bind (failed : ∀ error state, value = .error error →
      view.invariant state → growth.le since state → post (.error error) state)
    (next : ∀ result, value = .ok result → growth.Secure since (cont result).run post) :
    growth.Secure since (known value >>= cont).run post := by
  cases value with
  | ok result => exact next result rfl
  | error error => exact secure_done fun state => failed error state rfl

variable {post : Except ε α → σ → Prop}

theorem secure_known
    (returned : ∀ state, view.invariant state → growth.le since state → post value state) :
    growth.Secure since (known value : Fallible ε Op Answer α).run post := secure_done returned

theorem secure_pure
    (returned : ∀ state, view.invariant state → growth.le since state → post (.ok result) state) :
    growth.Secure since (pure result : Fallible ε Op Answer α).run post := secure_done returned

theorem secure_attempt {program : Fallible ε Op Answer α} {post : Except ε (Except ε α) → σ → Prop}
    (secure : growth.Secure since program.run fun outcome state => post (.ok outcome) state) :
    growth.Secure since (attempt program).run post := by
  rw [run_attempt]
  exact secure.bind fun _ _ _ _ held => held

end

end Growth

end View

end Process
